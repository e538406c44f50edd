import ContentTree.Descriptor.View
import ContentTree.Proofs.Path.Logical
import Mathlib.Data.Option.Basic
/-!
Nodes of descriptor trees. Going down by two lists of names one after the other is going down by
both at once, and a tree is no deeper than it is large.
-/

set_option autoImplicit false
set_option relaxedAutoImplicit false

namespace ContentTree.Descriptor

open ContentTree.Path

namespace Element

variable {e inner : Element} {name : String} {names : List String}

theorem descend_append (e : Element) (front back : List String) :
    e.descend? (front ++ back) = (e.descend? front).bind (·.descend? back) := by
  induction front generalizing e with
  | nil => rfl
  | cons name rest ih =>
    simp only [List.cons_append, descend?]
    cases e.children.lookup name with
    | none => rfl
    | some child => exact ih child

theorem sizeOf_lt_of_lookup (h : e.children.lookup name = some inner) :
    sizeOf inner < sizeOf e := by
  obtain ⟨properties, children⟩ := e
  induction children with
  | nil => simp [Element.children] at h
  | cons entry rest ih =>
    obtain ⟨key, child⟩ := entry
    simp only [Element.children] at h ih
    rw [List.lookup_cons] at h
    split at h
    · rw [Option.some.injEq] at h
      simp only [h, mk.sizeOf_spec, List.cons.sizeOf_spec, Prod.mk.sizeOf_spec]
      omega
    · have hrest := ih h
      simp only [mk.sizeOf_spec, List.cons.sizeOf_spec] at hrest ⊢
      omega

/-- A tree is no deeper than it is large. -/
theorem length_le_sizeOf (h : e.descend? names = some inner) : names.length ≤ sizeOf e := by
  induction names generalizing e with
  | nil => exact Nat.zero_le _
  | cons name rest ih =>
    obtain ⟨child, hchild, hrest⟩ := Option.bind_eq_some_iff.mp h
    have hsize := sizeOf_lt_of_lookup hchild
    have hlength := ih hrest
    rw [List.length_cons]
    omega

end Element

theorem View.exists_node {view : View} (h : view.isDefined = true) :
    ∃ node, view.node? = some node := by
  unfold View.isDefined at h
  cases hnode : view.node? with
  | none => simp [hnode] at h
  | some node => exact ⟨node, rfl⟩

theorem properSubPath_empty : View.properSubPath? (some "") = none := rfl

theorem properSubPath_of_ne {subPath : String} (h : subPath ≠ "") :
    View.properSubPath? (some subPath) = some subPath := by
  simp [View.properSubPath?, h]

/-- A view goes down from the root of its tree by the names of its relative path. -/
theorem locate_eq (root? : Option Element) (subPath? : Option String) :
    View.locate root? subPath? =
      root?.bind (·.descend? (Element.namesIn (subPath?.getD ""))) := by
  have hroot : root?.bind (·.descend? (Element.namesIn "")) = root? := by
    rw [namesIn_empty]
    cases root? <;> rfl
  cases subPath? with
  | none => exact hroot.symm
  | some subPath =>
    by_cases hempty : subPath = ""
    · subst hempty
      exact hroot.symm
    · rw [View.locate, properSubPath_of_ne hempty]
      rfl

end ContentTree.Descriptor
