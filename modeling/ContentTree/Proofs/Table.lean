import ContentTree.Table
import Mathlib.Data.List.Induction
import Mathlib.Data.List.Nodup
/-!
What putting an entry does to a table. The names stay those they were, in their order, and a new
name comes last, so that a table made entry by entry has each name once, where it came first, with
the value that came last.
-/

set_option autoImplicit false
set_option relaxedAutoImplicit false

namespace ContentTree.Table

variable {α : Type} {name : String} {value : α} {entry : String × α}
  {table entries : List (String × α)}

theorem names_put (name : String) (value : α) (table : List (String × α)) :
    (put name value table).map (·.1) =
      if name ∈ table.map (·.1) then table.map (·.1) else table.map (·.1) ++ [name] := by
  induction table with
  | nil => rfl
  | cons first rest ih =>
    rw [put]
    split
    · next hfirst => simp [hfirst]
    · next hfirst =>
      rw [List.map_cons, ih]
      by_cases hname : name ∈ rest.map (·.1)
      · simp [hname]
      · simp [hname, Ne.symm hfirst]

theorem nodup_put (h : (table.map (·.1)).Nodup) : ((put name value table).map (·.1)).Nodup := by
  rw [names_put]
  split
  · exact h
  · next hnew =>
    rw [← List.concat_eq_append]
    exact h.concat hnew

/-- A table holds no values but those that were put. -/
theorem eq_or_mem_of_mem_put (h : entry ∈ put name value table) :
    entry = (name, value) ∨ entry ∈ table := by
  induction table with
  | nil => exact .inl (List.mem_singleton.mp h)
  | cons first rest ih =>
    rw [put] at h
    split at h
    · next hfirst =>
      rw [← hfirst]
      exact (List.mem_cons.mp h).imp_right (List.mem_cons_of_mem first)
    · rcases List.mem_cons.mp h with heq | hrest
      · exact .inr (heq ▸ List.mem_cons_self)
      · exact (ih hrest).imp_right (List.mem_cons_of_mem first)

/-- Each name stands once in a table. -/
theorem nodup_ofEntries (entries : List (String × α)) : ((ofEntries entries).map (·.1)).Nodup :=
  List.foldlRecOn (motive := fun table : List (String × α) ↦ (table.map (·.1)).Nodup) entries _
    (by simp) fun _ h _ _ ↦ nodup_put h

/-- Assumes: entries of which the values satisfy a condition. So do those of their table. -/
theorem forall_ofEntries {condition : α → Prop} (h : ∀ entry ∈ entries, condition entry.2) :
    ∀ entry ∈ ofEntries entries, condition entry.2 := by
  refine List.foldlRecOn (motive := fun table : List (String × α) ↦
    ∀ entry ∈ table, condition entry.2) entries _ (by simp) fun table htable first hfirst
      entry hentry ↦ ?_
  rcases eq_or_mem_of_mem_put hentry with rfl | hmem
  · exact h first hfirst
  · exact htable entry hmem

theorem lookup_put (name other : String) (value : α) (table : List (String × α)) :
    (put name value table).lookup other =
      if other = name then some value else table.lookup other := by
  induction table with
  | nil => by_cases h : other = name <;> simp [put, List.lookup_cons, h, beq_eq_false_iff_ne.mpr]
  | cons first rest ih =>
    obtain ⟨key, old⟩ := first
    rw [put]
    split
    · next hkey =>
      subst hkey
      by_cases h : other = key
      · simp [h]
      · simp [List.lookup_cons, h, beq_eq_false_iff_ne.mpr h]
    · next hkey =>
      rw [List.lookup_cons, List.lookup_cons, ih]
      by_cases h : other = key
      · simp [h, hkey]
      · simp [beq_eq_false_iff_ne.mpr h]

/-- Assumes: names that differ. An entry is found under its name. -/
theorem lookup_of_mem (h : (table.map (·.1)).Nodup) (hentry : entry ∈ table) :
    table.lookup entry.1 = some entry.2 := by
  obtain ⟨front, back, rfl⟩ := List.append_of_mem hentry
  rw [List.map_append, List.map_cons, List.nodup_append] at h
  rw [List.lookup_eq_some_iff]
  refine ⟨front, back, rfl, fun other hother ↦ ?_⟩
  have hne := h.2.2 other.1 (List.mem_map_of_mem hother) entry.1 List.mem_cons_self
  simpa using hne.symm

theorem ofEntries_concat (entries : List (String × α)) (entry : String × α) :
    ofEntries (entries ++ [entry]) = put entry.1 entry.2 (ofEntries entries) := by
  rw [ofEntries, List.foldl_append]
  rfl

/-- A table holds under each name the last value that was put. -/
theorem lookup_ofEntries (entries : List (String × α)) (name : String) :
    (ofEntries entries).lookup name = entries.reverse.lookup name := by
  induction entries using List.reverseRec with
  | nil => rfl
  | append_singleton front last ih =>
    rw [ofEntries_concat, lookup_put, List.reverse_append, List.reverse_singleton,
      List.singleton_append, List.lookup_cons, ih]
    by_cases h : name = last.1
    · simp [h]
    · simp [h, beq_eq_false_iff_ne.mpr h]

/-- The names in a table come in the order in which they were first put. -/
theorem names_ofEntries (entries : List (String × α)) :
    (ofEntries entries).map (·.1) = (entries.map (·.1)).eraseDups := by
  induction entries using List.reverseRec with
  | nil => rfl
  | append_singleton front last ih =>
    rw [ofEntries_concat, names_put, ih, List.map_append, List.eraseDups_append]
    by_cases h : last.1 ∈ front.map (·.1)
    · have hnone : [last.1].removeAll (front.map (·.1)) = [] := by
        simpa [List.removeAll] using h
      rw [if_pos (List.mem_eraseDups.mpr h), List.map_singleton, hnone]
      simp
    · have hnew : [last.1].removeAll (front.map (·.1)) = [last.1] := by
        simpa [List.removeAll] using h
      rw [if_neg (mt List.mem_eraseDups.mp h), List.map_singleton, hnew]
      simp [List.eraseDups_cons]

/-- A new name comes last. -/
theorem put_of_notMem (h : name ∉ table.map (·.1)) :
    put name value table = table ++ [(name, value)] := by
  induction table with
  | nil => rfl
  | cons first rest ih =>
    rw [List.map_cons, List.mem_cons, not_or] at h
    rw [put, if_neg (Ne.symm h.1), ih h.2, List.cons_append]

/-- Entries are their own table when their names differ, and only then. -/
theorem ofEntries_eq_self_iff : ofEntries entries = entries ↔ (entries.map (·.1)).Nodup := by
  constructor
  · intro h
    rw [← h]
    exact nodup_ofEntries entries
  · intro h
    induction entries using List.reverseRec with
    | nil => rfl
    | append_singleton front last ih =>
      rw [List.map_append, List.map_singleton] at h
      obtain ⟨hfront, -, hnew⟩ := List.nodup_append.mp h
      rw [ofEntries_concat, ih hfront, put_of_notMem]
      intro hmem
      exact hnew last.1 hmem last.1 (List.mem_singleton_self _) rfl

end ContentTree.Table
