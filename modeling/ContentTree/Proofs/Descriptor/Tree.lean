import ContentTree.Cache.Contents
import ContentTree.Proofs.Descriptor.Element
import ContentTree.Proofs.Table
/-!
Trees read from documents. Each node has its children under different names, whatever the names of
the elements are.
-/

set_option autoImplicit false
set_option relaxedAutoImplicit false

namespace ContentTree.Descriptor.Element

open ContentTree.Storage ContentTree.Xml

variable {e inner : Element} {disk : Disk} {file : String} {names : List String}

/-- A tree in which the children of each node have different names. -/
inductive Distinct : Element → Prop
  | mk {properties : List (String × Value)} {children : List (String × Element)}
      (names : (children.map (·.1)).Nodup) (below : ∀ child ∈ children, Distinct child.2) :
      Distinct (.mk properties children)

theorem Distinct.nodup_children (h : Distinct e) : (e.children.map (·.1)).Nodup := by
  cases h with
  | mk names below => exact names

theorem Distinct.of_descend (h : Distinct e) (hdescend : e.descend? names = some inner) :
    Distinct inner := by
  induction names generalizing e with
  | nil => exact Option.some.inj hdescend ▸ h
  | cons name rest ih =>
    obtain ⟨child, hchild, hrest⟩ := Option.bind_eq_some_iff.mp hdescend
    obtain ⟨front, back, hchildren, -⟩ := List.lookup_eq_some_iff.mp hchild
    cases h with
    | mk names below =>
      refine ih (below (name, child) ?_) hrest
      rw [children] at hchildren
      simp [hchildren]

mutual

theorem distinct_ofNode (environment : Declarations) :
    (node : Node) → Distinct (ofNode environment node)
  | .element _ declared _ content => by
    rw [ofNode]
    exact .mk (Table.nodup_ofEntries _)
      (Table.forall_ofEntries (distinct_childrenOf (declared ++ environment) content))
  | .text _ | .comment _ | .instruction _ _ | .reference _ => by
    exact .mk List.nodup_nil (by simp)

theorem distinct_childrenOf (environment : Declarations) :
    (content : List Node) → ∀ child ∈ childrenOf environment content, Distinct child.2
  | [] => by simp [childrenOf]
  | .element name declared attributes content :: rest => by
    rw [childrenOf]
    exact List.forall_mem_cons.mpr
      ⟨distinct_ofNode environment _, distinct_childrenOf environment rest⟩
  | .text _ :: rest | .comment _ :: rest | .instruction _ _ :: rest | .reference _ :: rest => by
    simp only [childrenOf]
    exact distinct_childrenOf environment rest

end

theorem distinct_of_readTree (h : Cache.readTree? disk file = some e) : Distinct e := by
  unfold Cache.readTree? at h
  split at h
  · unfold ofBytes? at h
    split at h
    · exact Option.some.inj h ▸ distinct_ofNode [] _
    · cases h
  · cases h

end ContentTree.Descriptor.Element
