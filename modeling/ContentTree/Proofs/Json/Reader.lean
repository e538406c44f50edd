import ContentTree.Json.Reader
import ContentTree.Proofs.Result
import ContentTree.Proofs.Table
/-!
What is read from JSON text. Main statements: every object in a value that was read has its members
under different names, because a name that comes again takes the place of the earlier one; and a
text that is read, or refused for anything but too many containers in each other, is so wherever
there is more room for them.
-/

set_option autoImplicit false
set_option relaxedAutoImplicit false

namespace ContentTree.Json

open ContentTree.Number

/-- A value in which the members of each object have different names. -/
inductive Value.HasDistinctNames : Value → Prop
  | null : HasDistinctNames .null
  | bool (value : Bool) : HasDistinctNames (.bool value)
  | int (value : Int) : HasDistinctNames (.int value)
  | float (value : Binary64) : HasDistinctNames (.float value)
  | str (text : String) : HasDistinctNames (.str text)
  | arr {items : List Value} (below : ∀ item ∈ items, HasDistinctNames item) :
      HasDistinctNames (.arr items)
  | obj {members : List (String × Value)} (names : (members.map (·.1)).Nodup)
      (below : ∀ member ∈ members, HasDistinctNames member.2) : HasDistinctNames (.obj members)

variable {fuel room : Nat} {text rest : List Char} {v : Value} {done : List Value}
  {table : List (String × Value)}

namespace Reader

/-! ### Steps -/

theorem distinct_number (h : number text = .ok (v, rest)) : v.HasDistinctNames := by
  unfold number at h
  extract_lets negative body digits at h
  split at h
  next whole more hwhole =>
  split at h
  · cases h
  split at h
  next places more hplaces =>
  split at h
  next exponent more hexponent =>
  split at h
  · split at h
    · cases h
    · simp only [Except.ok.injEq, Prod.mk.injEq] at h
      exact h.1 ▸ .int _
  · simp only [Except.ok.injEq, Prod.mk.injEq] at h
    exact h.1 ▸ .float _

/-- A value has no values in it, or is what its members or its items make. -/
theorem value_cases (h : value (fuel + 1) room text = .ok (v, rest)) :
    v.HasDistinctNames ∨ (∃ inner more, members fuel inner more [] = .ok (v, rest)) ∨
      ∃ inner more, items fuel inner more [] = .ok (v, rest) := by
  unfold value at h
  split at h
  · obtain ⟨⟨s, more⟩, -, hs⟩ := bind_eq_ok.mp h
    simp only [pure, Except.pure, Except.ok.injEq, Prod.mk.injEq] at hs
    exact .inl (hs.1 ▸ .str s)
  · split at h
    · cases h
    · split at h
      · simp only [Except.ok.injEq, Prod.mk.injEq] at h
        exact .inl (h.1 ▸ .obj List.nodup_nil (by simp))
      · exact .inr (.inl ⟨_, _, h⟩)
  · split at h
    · cases h
    · split at h
      · simp only [Except.ok.injEq, Prod.mk.injEq] at h
        exact .inl (h.1 ▸ .arr (by simp))
      · exact .inr (.inr ⟨_, _, h⟩)
  · extract_lets words at h
    split at h
    · next found hfound =>
      rw [Except.ok.injEq] at h
      obtain ⟨⟨word, w⟩, hword, htaken⟩ := List.exists_of_findSome?_eq_some hfound
      obtain ⟨more, -, hmore⟩ := Option.map_eq_some_iff.mp htaken
      rw [h, Prod.mk.injEq] at hmore
      refine .inl (hmore.1 ▸ ?_)
      have hall : ∀ entry ∈ words, entry.2.HasDistinctNames := by
        simp only [words, List.forall_mem_cons, List.not_mem_nil, false_implies, implies_true,
          and_true]
        exact ⟨.null, .bool _, .bool _, .float _, .float _, .float _⟩
      exact hall _ hword
    · exact .inl (distinct_number h)

/-- Items are a value and then nothing or other items. -/
theorem items_cases (h : items (fuel + 1) room text done = .ok (v, rest)) :
    ∃ item more, value fuel room text = .ok (item, more) ∧
      (v = .arr (item :: done).reverse ∨
        ∃ next, items fuel room next (item :: done) = .ok (v, rest)) := by
  unfold items at h
  obtain ⟨⟨item, more⟩, hitem, h⟩ := bind_eq_ok.mp h
  refine ⟨item, more, hitem, ?_⟩
  simp only at h
  split at h
  · exact .inr ⟨_, h⟩
  · simp only [pure, Except.pure, Except.ok.injEq, Prod.mk.injEq] at h
    exact .inl h.1.symm
  · cases h

/-- Members are a name with a value and then nothing or other members. -/
theorem members_cases (h : members (fuel + 1) room text table = .ok (v, rest)) :
    ∃ name member front back, value fuel room front = .ok (member, back) ∧
      (v = .obj (Table.put name member table) ∨
        ∃ next, members fuel room next (Table.put name member table) = .ok (v, rest)) := by
  unfold members at h
  split at h
  · obtain ⟨⟨name, more⟩, -, h⟩ := bind_eq_ok.mp h
    simp only at h
    split at h
    · obtain ⟨⟨member, back⟩, hmember, h⟩ := bind_eq_ok.mp h
      refine ⟨name, member, _, back, hmember, ?_⟩
      simp only at h
      split at h
      · exact .inr ⟨_, h⟩
      · simp only [pure, Except.pure, Except.ok.injEq, Prod.mk.injEq] at h
        exact .inl h.1.symm
      · cases h
    · cases h
  · cases h

/-! ### Distinct names -/

mutual

theorem distinct_value : ∀ {fuel room : Nat} {text rest : List Char} {v : Value},
    value fuel room text = .ok (v, rest) → v.HasDistinctNames
  | 0, _, _, _, _, h => by
    rw [value.eq_def] at h
    cases h
  | fuel + 1, _, _, _, _, h => by
    rcases value_cases h with hleaf | ⟨inner, more, hmembers⟩ | ⟨inner, more, hitems⟩
    · exact hleaf
    · exact distinct_members (by simp) (by simp) hmembers
    · exact distinct_items (by simp) hitems

theorem distinct_items : ∀ {fuel room : Nat} {text rest : List Char} {done : List Value}
    {v : Value}, (∀ item ∈ done, item.HasDistinctNames) →
      items fuel room text done = .ok (v, rest) → v.HasDistinctNames
  | 0, _, _, _, _, _, _, h => by
    rw [items.eq_def] at h
    cases h
  | fuel + 1, _, _, _, _, _, hdone, h => by
    obtain ⟨item, more, hitem, hnext⟩ := items_cases h
    have hall := List.forall_mem_cons.mpr ⟨distinct_value hitem, hdone⟩
    rcases hnext with rfl | ⟨next, hnext⟩
    · exact .arr fun other hother ↦ hall other (List.mem_reverse.mp hother)
    · exact distinct_items hall hnext

theorem distinct_members : ∀ {fuel room : Nat} {text rest : List Char}
    {table : List (String × Value)} {v : Value}, (table.map (·.1)).Nodup →
      (∀ member ∈ table, member.2.HasDistinctNames) →
        members fuel room text table = .ok (v, rest) → v.HasDistinctNames
  | 0, _, _, _, _, _, _, _, h => by
    rw [members.eq_def] at h
    cases h
  | fuel + 1, _, _, _, table, _, hnames, htable, h => by
    obtain ⟨name, member, front, back, hmember, hnext⟩ := members_cases h
    have hput : ∀ entry ∈ Table.put name member table, entry.2.HasDistinctNames := by
      intro entry hentry
      rcases Table.eq_or_mem_of_mem_put hentry with rfl | hold
      · exact distinct_value hmember
      · exact htable entry hold
    rcases hnext with rfl | ⟨next, hnext⟩
    · exact .obj (Table.nodup_put hnames) hput
    · exact distinct_members (Table.nodup_put hnames) hput hnext

end

/-! ### More room -/

mutual

theorem value_of_le : ∀ {fuel room more : Nat} {text : List Char}, room ≤ more →
    (∀ container, value fuel room text ≠ .error (.nestedTooDeep container)) →
      value fuel more text = value fuel room text
  | 0, _, _, _, _, _ => by rw [value.eq_def, value.eq_def]
  | fuel + 1, room, more, text, hle, h => by
    unfold value at h ⊢
    split
    · rfl
    · cases room with
      | zero => exact absurd rfl (h "object")
      | succ room =>
        obtain ⟨more, rfl⟩ := Nat.exists_eq_add_one.mpr (Nat.zero_lt_of_lt hle)
        simp only at h ⊢
        split
        · rfl
        · next hopen => exact members_of_le (Nat.le_of_succ_le_succ hle) (by simpa using h)
    · cases room with
      | zero => exact absurd rfl (h "array")
      | succ room =>
        obtain ⟨more, rfl⟩ := Nat.exists_eq_add_one.mpr (Nat.zero_lt_of_lt hle)
        simp only at h ⊢
        split
        · rfl
        · next hopen => exact items_of_le (Nat.le_of_succ_le_succ hle) (by simpa using h)
    · rfl

theorem items_of_le : ∀ {fuel room more : Nat} {text : List Char} {done : List Value},
    room ≤ more → (∀ container, items fuel room text done ≠ .error (.nestedTooDeep container)) →
      items fuel more text done = items fuel room text done
  | 0, _, _, _, _, _, _ => by rw [items.eq_def, items.eq_def]
  | fuel + 1, room, more, text, done, hle, h => by
    unfold items at h ⊢
    have hvalue : value fuel more text = value fuel room text := by
      refine value_of_le hle fun container hdeep ↦ h container ?_
      rw [hdeep]
      rfl
    rw [hvalue]
    cases hfirst : value fuel room text with
    | error fault => rfl
    | ok found =>
      simp only [hfirst, bind, Except.bind] at h ⊢
      split
      · next rest hrest =>
        exact items_of_le hle fun container hdeep ↦ h container (by simp only [hrest, hdeep])
      · rfl
      · rfl

theorem members_of_le : ∀ {fuel room more : Nat} {text : List Char}
    {done : List (String × Value)}, room ≤ more →
      (∀ container, members fuel room text done ≠ .error (.nestedTooDeep container)) →
        members fuel more text done = members fuel room text done
  | 0, _, _, _, _, _, _ => by rw [members.eq_def, members.eq_def]
  | fuel + 1, room, more, text, done, hle, h => by
    unfold members at h ⊢
    split
    · next rest =>
      cases hname : stringBody (rest.length + 1) rest [] with
      | error fault => rfl
      | ok named =>
        simp only [hname, bind, Except.bind] at h ⊢
        split
        · next inner hinner =>
          simp only [hinner] at h
          have hvalue : value fuel more (skipBlanks inner) = value fuel room (skipBlanks inner) := by
            refine value_of_le hle fun container hdeep ↦ h container ?_
            rw [hdeep]
          rw [hvalue]
          cases hfirst : value fuel room (skipBlanks inner) with
          | error fault => rfl
          | ok found =>
            simp only [hfirst] at h ⊢
            split
            · next after hafter =>
              exact members_of_le hle fun container hdeep ↦
                h container (by simp only [hafter, hdeep])
            · rfl
            · rfl
        · rfl
    · rfl

end

end Reader

/-- A value that was read has the members of each object under different names. -/
theorem hasDistinctNames_of_read {text : String} (h : read room text = .ok v) :
    v.HasDistinctNames := by
  unfold read at h
  obtain ⟨⟨found, rest⟩, hfound, h⟩ := bind_eq_ok.mp h
  simp only at h
  split at h
  · simp only [pure, Except.pure, Except.ok.injEq] at h
    exact h ▸ Reader.distinct_value hfound
  · cases h

/-- What a text is read as, unless containers are nested too deep in it, it is read as wherever there
is more room. -/
theorem read_of_le {more : Nat} {text : String} (hle : room ≤ more)
    (h : ∀ container, read room text ≠ .error (.nestedTooDeep container)) :
    read more text = read room text := by
  dsimp only [read] at h ⊢
  rw [Reader.value_of_le hle fun container hdeep ↦ h container (by rw [hdeep]; rfl)]

/-- Assumes: a text in which containers are not nested too deep. It is read as what it is read as
with any other room. -/
theorem read_eq_ok_iff {text : String}
    (h : ∀ container, read room text ≠ .error (.nestedTooDeep container)) :
    (∃ other, read other text = .ok v) ↔ read room text = .ok v := by
  refine ⟨?_, fun hread ↦ ⟨room, hread⟩⟩
  rintro ⟨other, hother⟩
  rw [← read_of_le (Nat.le_max_left room other) h,
    read_of_le (Nat.le_max_right room other) (by simp [hother]), hother]

end ContentTree.Json
