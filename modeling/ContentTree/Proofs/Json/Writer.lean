import ContentTree.Proofs.Json.Numeral
import ContentTree.Proofs.Json.Reader
import ContentTree.Proofs.Json.Text
/-!
JSON text written and read back. The pieces of a text that is written in full are put together, and
what they make stands for the value: it is read as the value before every comma, line break or end.
Main statement: a value whose text was written in full, with floats that read back, is read from
that text.
-/

set_option autoImplicit false
set_option relaxedAutoImplicit false

namespace ContentTree.Json

open ContentTree.Number Reader

/-! ### Pieces -/

/-- The characters of some pieces. -/
def textOf (pieces : List (Except WriteFault String)) : List Char :=
  pieces.flatMap fun piece ↦ match piece with
    | .ok text => text.toList
    | .error _ => []

/-- Whether no part of some pieces is missing. -/
def AreWhole (pieces : List (Except WriteFault String)) : Prop :=
  ∀ piece ∈ pieces, ∃ text, piece = .ok text

section Pieces

variable {front back pieces : List (Except WriteFault String)} {text : String}

@[simp]
theorem textOf_append : textOf (front ++ back) = textOf front ++ textOf back :=
  List.flatMap_append

@[simp]
theorem textOf_cons_ok : textOf (.ok text :: back) = text.toList ++ textOf back := rfl

@[simp]
theorem textOf_nil : textOf [] = [] := rfl

theorem areWhole_append : AreWhole (front ++ back) ↔ AreWhole front ∧ AreWhole back :=
  List.forall_mem_append

theorem areWhole_cons_ok : AreWhole (.ok text :: back) ↔ AreWhole back := by
  simp [AreWhole]

/-- Pieces without a fault are put together to the text of all of them. -/
theorem joinPieces_of_none (h : (joinPieces pieces).2 = none) :
    AreWhole pieces ∧ (joinPieces pieces).1.toList = textOf pieces := by
  induction pieces with
  | nil => exact ⟨by simp [AreWhole], rfl⟩
  | cons piece rest ih =>
    cases piece with
    | error fault => cases h
    | ok text =>
      obtain ⟨hwhole, htext⟩ := ih h
      refine ⟨areWhole_cons_ok.mpr hwhole, ?_⟩
      rw [joinPieces, String.toList_append, htext, textOf_cons_ok]

end Pieces

/-! ### Texts that stand for values -/

/-- Whether a text starts with a character that is neither a blank nor the end of an array. -/
def StartsProperly (text : List Char) : Prop :=
  ∃ c more, text = c :: more ∧ c ∉ [' ', '\t', '\n', '\r', ']']

/-- Whether a text stands for a value: it is read as the value before any end, where there is room
for it. -/
structure Stands (text : List Char) (v : Value) : Prop where
  starts : StartsProperly text
  reads : ∀ {rest : List Char} {fuel room : Nat}, IsEnd rest → text.length < fuel →
    (Datum.ofValue v).depth ≤ room → value fuel room (text ++ rest) = .ok (v, rest)

section Stands

variable {fuel room : Nat} {text rest : List Char} {v : Value}

theorem StartsProperly.append (h : StartsProperly text) (rest : List Char) :
    StartsProperly (text ++ rest) := by
  obtain ⟨c, more, rfl, hc⟩ := h
  exact ⟨c, more ++ rest, rfl, hc⟩

theorem skipBlanks_of_starts (h : StartsProperly text) : skipBlanks text = text := by
  obtain ⟨c, more, rfl, hc⟩ := h
  simp only [List.mem_cons, List.not_mem_nil, or_false, not_or] at hc
  simp [skipBlanks, hc]

/-- The line break before an item is blank. -/
theorem skipBlanks_lineBreak (indent depth : Nat) (text : List Char) :
    skipBlanks ((lineBreak indent depth).toList ++ text) = skipBlanks text := by
  have hblanks : ∀ count, skipBlanks (List.replicate count ' ' ++ text) = skipBlanks text := by
    intro count
    induction count with
    | zero => rfl
    | succ count ih => exact ih
  rw [lineBreak, String.toList_ofList]
  exact hblanks (indent * depth)

theorem isEnd_lineBreak (indent depth : Nat) (text : List Char) :
    IsEnd ((lineBreak indent depth).toList ++ text) := by
  intro c hc
  rw [lineBreak, String.toList_ofList] at hc
  exact .inr (Option.some.inj hc).symm

theorem length_lineBreak (indent depth : Nat) : 0 < (lineBreak indent depth).toList.length := by
  simp [lineBreak]

theorem skipBlanks_comma (text : List Char) : skipBlanks (',' :: text) = ',' :: text := rfl

theorem isEnd_comma (text : List Char) : IsEnd (',' :: text) := by
  intro c hc
  exact .inl (Option.some.inj hc).symm

/-! ### Values without others in them -/

/-- A text that is read with any fuel, where there is room for it, stands for what it is read as. -/
theorem Stands.of_value (hstarts : StartsProperly text)
    (h : ∀ rest fuel room, IsEnd rest → (Datum.ofValue v).depth ≤ room →
      value (fuel + 1) room (text ++ rest) = .ok (v, rest)) :
    Stands text v where
  starts := hstarts
  reads := by
    intro rest fuel room hrest hfuel hroom
    obtain ⟨fuel, rfl⟩ := Nat.exists_eq_add_one.mpr (Nat.zero_lt_of_lt hfuel)
    exact h rest fuel room hrest hroom

theorem stands_null : Stands "null".toList .null :=
  .of_value ⟨_, _, rfl, by decide⟩ fun _ _ _ _ _ ↦ rfl

theorem stands_bool (b : Bool) : Stands (if b then "true" else "false").toList (.bool b) := by
  cases b <;> exact .of_value ⟨_, _, rfl, by decide⟩ fun _ _ _ _ _ ↦ rfl

theorem stands_notANumber : Stands (jsonFloat.write .notANumber).toList (.float .notANumber) :=
  .of_value ⟨_, _, rfl, by decide⟩ fun _ _ _ _ _ ↦ rfl

theorem stands_infinite (negative : Bool) :
    Stands (jsonFloat.write (.infinite negative)).toList (.float (.infinite negative)) := by
  cases negative with
  | false => exact .of_value ⟨_, _, rfl, by decide⟩ fun _ _ _ _ _ ↦ rfl
  | true => exact .of_value ⟨_, _, rfl, by decide⟩ fun _ _ _ _ _ ↦ rfl

/-- What starts no string, object, array or word is read as a number. -/
theorem value_eq_number (hstart : ∀ c ∈ text.head?, c ∉ ['"', '\x7b', '['])
    (hwords : ∀ word ∈ ["null", "true", "false", "NaN", "Infinity", "-Infinity"],
      word.toList.isPrefixOf text = false) : value (fuel + 1) room text = number text := by
  have hnone : ∀ word ∈ ["null", "true", "false", "NaN", "Infinity", "-Infinity"],
      takeWord? word text = none := by
    intro word hword
    rw [takeWord?, hwords word hword]
    rfl
  simp only [List.forall_mem_cons] at hnone
  rw [value]
  · simp [hnone]
  · rintro rest rfl
    exact hstart _ rfl (by simp)
  · rintro rest rfl
    exact hstart _ rfl (by simp)
  · rintro rest rfl
    exact hstart _ rfl (by simp)

theorem value_digit {c : Char} (h : isAsciiDigit c = true) (more : List Char) :
    value (fuel + 1) room (c :: more) = number (c :: more) := by
  have hne : ∀ d, isAsciiDigit d = false → c ≠ d := by
    rintro d hd rfl
    rw [h] at hd
    cases hd
  apply value_eq_number
  · intro d hd
    obtain rfl : c = d := Option.some.inj hd
    simp [hne '"' rfl, hne '\x7b' rfl, hne '[' rfl]
  · have hfirst : ∀ word : String, word.toList.head?.any (!isAsciiDigit ·) = true →
        word.toList.isPrefixOf (c :: more) = false := by
      intro word hword
      cases hchars : word.toList with
      | nil => simp [hchars] at hword
      | cons d chars =>
        have hd : isAsciiDigit d = false := by simpa [hchars] using hword
        simp [List.isPrefixOf, (hne d hd).symm]
    simp only [List.forall_mem_cons, List.not_mem_nil, false_implies, implies_true, and_true]
    exact ⟨hfirst _ rfl, hfirst _ rfl, hfirst _ rfl, hfirst _ rfl, hfirst _ rfl, hfirst _ rfl⟩

theorem value_minus {c : Char} (h : isAsciiDigit c = true) (more : List Char) :
    value (fuel + 1) room ('-' :: c :: more) = number ('-' :: c :: more) := by
  have hne : 'I' ≠ c := by
    rintro rfl
    cases h
  apply value_eq_number
  · intro d hd
    obtain rfl : '-' = d := Option.some.inj hd
    decide
  · have hinfinity : "-Infinity".toList = '-' :: 'I' :: "nfinity".toList := by decide
    simp only [List.forall_mem_cons, List.not_mem_nil, false_implies, implies_true, and_true,
      hinfinity]
    refine ⟨rfl, rfl, rfl, rfl, rfl, ?_⟩
    rw [List.isPrefixOf, List.isPrefixOf, beq_eq_false_iff_ne.mpr hne, Bool.false_and,
      Bool.and_false]

/-- A number stands for what it is read as. -/
theorem stands_number (h : number text = .ok (v, [])) : Stands text v := by
  obtain ⟨c, more, hstart, hc⟩ := starts_of_number h
  refine .of_value ?_ fun rest fuel room hrest _ ↦ ?_
  · rcases hstart with rfl | rfl
    · refine ⟨c, more, rfl, fun hmem ↦ ?_⟩
      simp only [List.mem_cons, List.not_mem_nil, or_false] at hmem
      rcases hmem with rfl | rfl | rfl | rfl | rfl <;> cases hc
    · exact ⟨'-', c :: more, rfl, by decide⟩
  · have hnumber : value (fuel + 1) room (text ++ rest) = number (text ++ rest) := by
      rcases hstart with rfl | rfl
      · exact value_digit hc (more ++ rest)
      · exact value_minus hc (more ++ rest)
    rw [hnumber, number_append hrest h]
    rfl

theorem stands_quote (s : String) : Stands (quote s).toList (.str s) := by
  refine .of_value ?_ fun rest fuel room _ _ ↦ ?_
  · obtain ⟨body, hbody, -⟩ := stringBody_quote s []
    rw [List.append_nil] at hbody
    exact ⟨'"', body, hbody, by decide⟩
  · obtain ⟨body, hbody, hread⟩ := stringBody_quote s rest
    rw [hbody, value, hread]
    rfl

/-! ### Arrays and objects -/

/-- Whether a text stands for the items of an array, up to the end of the array. -/
structure StandsForItems (text : List Char) (values : List Value) : Prop where
  starts : StartsProperly text
  reads : ∀ {rest tail : List Char} {fuel room : Nat} {done : List Value}, IsEnd rest →
    skipBlanks rest = ']' :: tail → text.length + 1 < fuel →
      depthOfItems (dataOfItems values) ≤ room →
        items fuel room (text ++ rest) done = .ok (.arr (done.reverse ++ values), tail)

/-- Whether a text stands for the members of an object, up to the end of the object, if none of
them are there already. -/
structure StandsForMembers (text : List Char) (table : List (String × Value)) : Prop where
  starts : ∃ more, text = '"' :: more
  reads : ∀ {rest tail : List Char} {fuel room : Nat} {done : List (String × Value)}, IsEnd rest →
    skipBlanks rest = '\x7d' :: tail → text.length + 1 < fuel →
      depthOfMembers (dataOfMembers table) ≤ room → ((done ++ table).map (·.1)).Nodup →
        members fuel room (text ++ rest) done = .ok (.obj (done ++ table), tail)

variable {values : List Value} {others : List Char} {table : List (String × Value)} {name : String}

theorem StandsForItems.one (h : Stands text v) : StandsForItems text [v] where
  starts := h.starts
  reads := by
    intro rest tail fuel room done hrest htail hfuel hroom
    obtain ⟨fuel, rfl⟩ := Nat.exists_eq_add_one.mpr (Nat.zero_lt_of_lt hfuel)
    rw [items, h.reads hrest (by omega) (le_trans (le_max_left ..) hroom)]
    simp [bind, Except.bind, htail, pure, Except.pure]

theorem StandsForItems.cons (indent depth : Nat) (h : Stands text v)
    (hothers : StandsForItems others values) :
    StandsForItems (text ++ ',' :: ((lineBreak indent depth).toList ++ others)) (v :: values) where
  starts := h.starts.append _
  reads := by
    intro rest tail fuel room done hrest htail hfuel hroom
    obtain ⟨fuel, rfl⟩ := Nat.exists_eq_add_one.mpr (Nat.zero_lt_of_lt hfuel)
    obtain ⟨hfirst, hlater⟩ := Nat.max_le.mp hroom
    rw [List.length_append, List.length_cons, List.length_append] at hfuel
    have hnext :
        skipBlanks ((lineBreak indent depth).toList ++ (others ++ rest)) = others ++ rest := by
      rw [skipBlanks_lineBreak, skipBlanks_of_starts (hothers.starts.append rest)]
    rw [List.append_assoc, List.cons_append, List.append_assoc, items,
      h.reads (isEnd_comma _) (by omega) hfirst]
    simp only [bind, Except.bind, skipBlanks_comma, hnext]
    rw [hothers.reads hrest htail (by omega) hlater, List.reverse_cons, List.append_assoc,
      List.singleton_append]

/-- The items of an array between brackets stand for the array. -/
theorem stands_arr (indent depth : Nat) (h : StandsForItems text values) :
    Stands ('[' :: ((lineBreak indent (depth + 1)).toList ++ text ++
      ((lineBreak indent depth).toList ++ [']']))) (.arr values) where
  starts := ⟨_, _, rfl, by decide⟩
  reads := by
    intro rest fuel room hrest hfuel hroom
    obtain ⟨fuel, rfl⟩ := Nat.exists_eq_add_one.mpr (Nat.zero_lt_of_lt hfuel)
    obtain ⟨room, rfl⟩ := Nat.exists_eq_add_one.mpr (Nat.zero_lt_of_lt hroom)
    have hbreak := length_lineBreak indent depth
    simp only [List.length_cons, List.length_append] at hfuel
    have hclosing :
        skipBlanks ((lineBreak indent depth).toList ++ ([']'] ++ rest)) = ']' :: rest := by
      rw [skipBlanks_lineBreak]
      rfl
    have hstart := skipBlanks_of_starts
      (h.starts.append ((lineBreak indent depth).toList ++ ([']'] ++ rest)))
    rw [List.cons_append, value, List.append_assoc, List.append_assoc, List.append_assoc,
      skipBlanks_lineBreak, hstart]
    obtain ⟨c, more, rfl, hc⟩ := h.starts
    split
    · next hend =>
      obtain rfl : c = ']' := (List.cons.inj hend).1
      simp at hc
    · exact h.reads (isEnd_lineBreak indent depth _) hclosing (by omega)
        (Nat.le_of_succ_le_succ hroom)

/-- The text of a member of an object, from that of its value. -/
def memberText (name : String) (text : List Char) : List Char :=
  (quote name).toList ++ ':' :: ' ' :: text

theorem starts_memberText (name : String) (text : List Char) :
    ∃ more, memberText name text = '"' :: more := by
  obtain ⟨body, hbody, -⟩ := stringBody_quote name (':' :: ' ' :: text)
  exact ⟨body, hbody⟩

/-- A member that is not there already is added, and what follows it decides what is next. -/
theorem members_memberText (h : Stands text v) (hrest : IsEnd rest) (hfuel : text.length < fuel)
    (hroom : (Datum.ofValue v).depth ≤ room) {done : List (String × Value)}
    (hnew : name ∉ done.map (·.1)) :
    members (fuel + 1) room (memberText name text ++ rest) done =
      match skipBlanks rest with
      | ',' :: more => members fuel room (skipBlanks more) (done ++ [(name, v)])
      | '\x7d' :: more => .ok (.obj (done ++ [(name, v)]), more)
      | _ => .error .malformed := by
  obtain ⟨body, hbody, hname⟩ := stringBody_quote name (':' :: ' ' :: (text ++ rest))
  have hcolon : skipBlanks (':' :: ' ' :: (text ++ rest)) = ':' :: ' ' :: (text ++ rest) := rfl
  have hspace : skipBlanks (' ' :: (text ++ rest)) = text ++ rest :=
    skipBlanks_of_starts (h.starts.append rest)
  rw [memberText, List.append_assoc, List.cons_append, List.cons_append, hbody, members]
  simp only [bind, Except.bind, hname, hcolon, hspace, h.reads hrest hfuel hroom,
    Table.put_of_notMem hnew]
  rfl

theorem notMem_of_nodup {done : List (String × Value)}
    (h : ((done ++ (name, v) :: table).map (·.1)).Nodup) : name ∉ done.map (·.1) := by
  rw [List.map_append, List.map_cons] at h
  exact fun hmem ↦ (List.nodup_append.mp h).2.2 name hmem name List.mem_cons_self rfl

theorem length_memberText (name : String) (text : List Char) :
    text.length < (memberText name text).length := by
  simp only [memberText, List.length_append, List.length_cons]
  omega

theorem StandsForMembers.one (h : Stands text v) :
    StandsForMembers (memberText name text) [(name, v)] where
  starts := starts_memberText name text
  reads := by
    intro rest tail fuel room done hrest htail hfuel hroom hnames
    obtain ⟨fuel, rfl⟩ := Nat.exists_eq_add_one.mpr (Nat.zero_lt_of_lt hfuel)
    have hlength := length_memberText name text
    rw [members_memberText h hrest (by omega) (le_trans (le_max_left ..) hroom)
      (notMem_of_nodup hnames), htail]
    rfl

theorem StandsForMembers.cons (indent depth : Nat) (h : Stands text v)
    (hothers : StandsForMembers others table) :
    StandsForMembers (memberText name text ++
      ',' :: ((lineBreak indent depth).toList ++ others)) ((name, v) :: table) where
  starts := by
    obtain ⟨more, hmore⟩ := starts_memberText name text
    exact ⟨_, by rw [hmore, List.cons_append]⟩
  reads := by
    intro rest tail fuel room done hrest htail hfuel hroom hnames
    obtain ⟨fuel, rfl⟩ := Nat.exists_eq_add_one.mpr (Nat.zero_lt_of_lt hfuel)
    obtain ⟨hfirst, hlater⟩ := Nat.max_le.mp hroom
    have hlength := length_memberText name text
    rw [List.length_append, List.length_cons, List.length_append] at hfuel
    have hnext :
        skipBlanks ((lineBreak indent depth).toList ++ (others ++ rest)) = others ++ rest := by
      obtain ⟨more, rfl⟩ := hothers.starts
      rw [skipBlanks_lineBreak]
      rfl
    rw [List.append_assoc, List.cons_append, List.append_assoc,
      members_memberText h (isEnd_comma _) (by omega) hfirst (notMem_of_nodup hnames),
      skipBlanks_comma]
    have hmore : members fuel room (others ++ rest) (done ++ [(name, v)]) =
        .ok (.obj (done ++ [(name, v)] ++ table), tail) :=
      hothers.reads hrest htail (by omega) hlater (by simpa using hnames)
    simp only [hnext, hmore, List.append_assoc, List.singleton_append]

/-- The members of an object between braces stand for the object. -/
theorem stands_obj (indent depth : Nat) (h : StandsForMembers text table)
    (hnames : (table.map (·.1)).Nodup) :
    Stands ('\x7b' :: ((lineBreak indent (depth + 1)).toList ++ text ++
      ((lineBreak indent depth).toList ++ ['\x7d']))) (.obj table) where
  starts := ⟨_, _, rfl, by decide⟩
  reads := by
    intro rest fuel room hrest hfuel hroom
    obtain ⟨fuel, rfl⟩ := Nat.exists_eq_add_one.mpr (Nat.zero_lt_of_lt hfuel)
    obtain ⟨room, rfl⟩ := Nat.exists_eq_add_one.mpr (Nat.zero_lt_of_lt hroom)
    have hbreak := length_lineBreak indent depth
    simp only [List.length_cons, List.length_append] at hfuel
    have hclosing : skipBlanks ((lineBreak indent depth).toList ++ (['\x7d'] ++ rest)) =
        '\x7d' :: rest := by
      rw [skipBlanks_lineBreak]
      rfl
    rw [List.cons_append, value, List.append_assoc, List.append_assoc, List.append_assoc,
      skipBlanks_lineBreak]
    have hread : members fuel room (text ++ _) [] = .ok (.obj table, rest) :=
      h.reads (isEnd_lineBreak indent depth _) hclosing (by omega) (Nat.le_of_succ_le_succ hroom)
        hnames
    obtain ⟨more, rfl⟩ := h.starts
    exact hread

end Stands

/-! ### Values -/

mutual

/-- The floats in a value. -/
def Value.floats : Value → List Binary64
  | .float x => [x]
  | .arr items => floatsOfItems items
  | .obj members => floatsOfMembers members
  | .null | .bool _ | .int _ | .str _ => []

/-- The floats in the items of an array. -/
def floatsOfItems : List Value → List Binary64
  | [] => []
  | v :: rest => v.floats ++ floatsOfItems rest

/-- The floats in the members of an object. -/
def floatsOfMembers : List (String × Value) → List Binary64
  | [] => []
  | (_, v) :: rest => v.floats ++ floatsOfMembers rest

end

theorem mem_floatsOfItems {x : Binary64} {values : List Value} :
    x ∈ floatsOfItems values ↔ ∃ v ∈ values, x ∈ v.floats := by
  induction values with
  | nil => simp [floatsOfItems]
  | cons v rest ih => simp [floatsOfItems, ih]

theorem mem_floatsOfMembers {x : Binary64} {table : List (String × Value)} :
    x ∈ floatsOfMembers table ↔ ∃ member ∈ table, x ∈ member.2.floats := by
  induction table with
  | nil => simp [floatsOfMembers]
  | cons member rest ih => simp [floatsOfMembers, ih]

/-- Whether a float, if it is finite, is read back from the text that it is written as. -/
def IsReadBack (x : Binary64) : Prop :=
  match x with
  | .finite _ _ _ => number (jsonFloat.write x).toList = .ok (.float x, [])
  | .infinite _ | .notANumber => True

/-- Whether a text is read as a float, with nothing left. -/
def isTextOf (x : Binary64) (chars : List Char) : Bool :=
  match number chars with
  | .ok (.float y, []) => y == x
  | _ => false

theorem isTextOf_iff {x : Binary64} {chars : List Char} :
    isTextOf x chars = true ↔ number chars = .ok (.float x, []) := by
  unfold isTextOf
  split
  · next y hnumber => simp [hnumber]
  · next hother =>
    exact iff_of_false Bool.false_ne_true fun h ↦ hother x h

instance : DecidablePred IsReadBack
  | .finite negative m e =>
    decidable_of_iff (isTextOf (.finite negative m e)
      (jsonFloat.write (.finite negative m e)).toList = true) isTextOf_iff
  | .infinite _ | .notANumber => .isTrue trivial

theorem stands_float {x : Binary64} (h : IsReadBack x) :
    Stands (jsonFloat.write x).toList (.float x) := by
  cases x with
  | finite negative m e => exact stands_number h
  | infinite negative => exact stands_infinite negative
  | notANumber => exact stands_notANumber

/-- Whether the pieces of a value, if they are whole, make a text that stands for it. -/
def IsWritten (v : Value) : Prop :=
  ∀ indent depth lead, AreWhole ((Datum.ofValue v).pieces indent depth lead) →
    ∃ text, textOf ((Datum.ofValue v).pieces indent depth lead) = lead.toList ++ text ∧
      Stands text v

theorem exists_items {v : Value} {values : List Value} (h : ∀ value ∈ v :: values, IsWritten value)
    (indent depth : Nat) (separator : String)
    (hwhole : AreWhole (itemPieces indent depth separator (dataOfItems (v :: values)))) :
    ∃ text, textOf (itemPieces indent depth separator (dataOfItems (v :: values))) =
        separator.toList ++ ((lineBreak indent depth).toList ++ text) ∧
      StandsForItems text (v :: values) := by
  induction values generalizing v separator with
  | nil =>
    rw [dataOfItems, dataOfItems, itemPieces, itemPieces, List.append_nil] at hwhole ⊢
    obtain ⟨text, htext, hstands⟩ := h v List.mem_cons_self indent depth _ hwhole
    refine ⟨text, ?_, .one hstands⟩
    rw [htext, String.toList_append, List.append_assoc]
  | cons next values ih =>
    rw [dataOfItems, itemPieces, areWhole_append] at hwhole
    obtain ⟨text, htext, hstands⟩ := h v List.mem_cons_self indent depth _ hwhole.1
    obtain ⟨others, hothers, hstandsOthers⟩ :=
      ih (fun value hvalue ↦ h value (List.mem_cons_of_mem v hvalue)) "," hwhole.2
    refine ⟨_, ?_, .cons indent depth hstands hstandsOthers⟩
    rw [dataOfItems, itemPieces, textOf_append, htext, hothers]
    simp

theorem exists_members {name : String} {v : Value} {table : List (String × Value)}
    (h : ∀ member ∈ (name, v) :: table, IsWritten member.2) (indent depth : Nat)
    (separator : String)
    (hwhole : AreWhole (memberPieces indent depth separator (dataOfMembers ((name, v) :: table)))) :
    ∃ text, textOf (memberPieces indent depth separator (dataOfMembers ((name, v) :: table))) =
        separator.toList ++ ((lineBreak indent depth).toList ++ text) ∧
      StandsForMembers text ((name, v) :: table) := by
  induction table generalizing name v separator with
  | nil =>
    rw [dataOfMembers, memberPieces, List.cons_append, areWhole_cons_ok, areWhole_append] at hwhole
    obtain ⟨text, htext, hstands⟩ := h _ List.mem_cons_self indent depth "" hwhole.1
    refine ⟨memberText name text, ?_, .one hstands⟩
    rw [dataOfMembers, memberPieces, List.cons_append, textOf_cons_ok, textOf_append, htext]
    simp [dataOfMembers, memberPieces, memberText]
  | cons next table ih =>
    rw [dataOfMembers, memberPieces, List.cons_append, areWhole_cons_ok, areWhole_append] at hwhole
    obtain ⟨text, htext, hstands⟩ := h _ List.mem_cons_self indent depth "" hwhole.1
    obtain ⟨others, hothers, hstandsOthers⟩ :=
      ih (fun member hmember ↦ h member (List.mem_cons_of_mem _ hmember)) "," hwhole.2
    refine ⟨_, ?_, .cons indent depth hstands hstandsOthers⟩
    rw [dataOfMembers, memberPieces, List.cons_append, textOf_cons_ok, textOf_append, htext,
      hothers]
    simp [memberText]

/-- A value that is one piece is written if the piece stands for it. -/
theorem isWritten_of_piece {v : Value} {text : String}
    (hpieces : ∀ indent depth lead,
      (Datum.ofValue v).pieces indent depth lead = [.ok (lead ++ text)])
    (h : Stands text.toList v) : IsWritten v := by
  intro indent depth lead _
  refine ⟨text.toList, ?_, h⟩
  rw [hpieces, textOf_cons_ok, textOf_nil, List.append_nil, String.toList_append]

theorem isWritten_arr {items : List Value} (h : ∀ item ∈ items, IsWritten item) :
    IsWritten (.arr items) := by
  cases items with
  | nil =>
    refine isWritten_of_piece (fun _ _ _ ↦ rfl) (.of_value ⟨_, _, rfl, by decide⟩ ?_)
    intro rest fuel room _ hroom
    obtain ⟨room, rfl⟩ := Nat.exists_eq_add_one.mpr (Nat.zero_lt_of_lt hroom)
    rfl
  | cons v values =>
    intro indent depth lead hwhole
    have hpieces : (Datum.ofValue (.arr (v :: values))).pieces indent depth lead =
        .ok lead :: (itemPieces indent (depth + 1) "[" (dataOfItems (v :: values)) ++
          [.ok (lineBreak indent depth ++ "]")]) := rfl
    rw [hpieces] at hwhole ⊢
    rw [areWhole_cons_ok, areWhole_append] at hwhole
    obtain ⟨text, htext, hstands⟩ := exists_items h indent (depth + 1) "[" hwhole.1
    refine ⟨_, ?_, stands_arr indent depth hstands⟩
    rw [textOf_cons_ok, textOf_append, htext]
    simp

theorem isWritten_obj {table : List (String × Value)} (hnames : (table.map (·.1)).Nodup)
    (h : ∀ member ∈ table, IsWritten member.2) : IsWritten (.obj table) := by
  cases table with
  | nil =>
    refine isWritten_of_piece (fun _ _ _ ↦ rfl) (.of_value ⟨_, _, rfl, by decide⟩ ?_)
    intro rest fuel room _ hroom
    obtain ⟨room, rfl⟩ := Nat.exists_eq_add_one.mpr (Nat.zero_lt_of_lt hroom)
    rfl
  | cons member table =>
    intro indent depth lead hwhole
    have hpieces : (Datum.ofValue (.obj (member :: table))).pieces indent depth lead =
        .ok lead :: (memberPieces indent (depth + 1) "\x7b" (dataOfMembers (member :: table)) ++
          [.ok (lineBreak indent depth ++ "\x7d")]) := rfl
    rw [hpieces] at hwhole ⊢
    rw [areWhole_cons_ok, areWhole_append] at hwhole
    obtain ⟨text, htext, hstands⟩ := exists_members h indent (depth + 1) "\x7b" hwhole.1
    refine ⟨_, ?_, stands_obj indent depth hstands hnames⟩
    rw [textOf_cons_ok, textOf_append, htext]
    simp

/-- Assumes: a value with different names in each object and floats that are read back. Its pieces,
if they are whole, make a text that stands for it. -/
theorem isWritten {v : Value} (hnames : v.HasDistinctNames)
    (hfloats : ∀ x ∈ v.floats, IsReadBack x) : IsWritten v := by
  induction hnames with
  | null => exact isWritten_of_piece (fun _ _ _ ↦ rfl) stands_null
  | bool b => exact isWritten_of_piece (fun _ _ _ ↦ rfl) (stands_bool b)
  | int i =>
    intro indent depth lead hwhole
    have hpieces : (Datum.ofValue (.int i)).pieces indent depth lead =
      [(intText i).map (lead ++ ·)] := rfl
    rw [hpieces] at hwhole ⊢
    cases htext : intText i with
    | error fault => simp [AreWhole, htext, Except.map] at hwhole
    | ok text =>
      refine ⟨text.toList, ?_, stands_number (number_intText htext)⟩
      simp [Except.map]
  | float x =>
    exact isWritten_of_piece (fun _ _ _ ↦ rfl) (stands_float (hfloats x List.mem_cons_self))
  | str s => exact isWritten_of_piece (fun _ _ _ ↦ rfl) (stands_quote s)
  | arr below ih =>
    refine isWritten_arr fun item hitem ↦ ih item hitem fun x hx ↦ hfloats x ?_
    exact mem_floatsOfItems.mpr ⟨item, hitem, hx⟩
  | obj names below ih =>
    refine isWritten_obj names fun member hmember ↦ ih member hmember fun x hx ↦ hfloats x ?_
    exact mem_floatsOfMembers.mpr ⟨member, hmember, hx⟩

/-- Assumes: a value with different names in each object and floats that are read back, room for its
containers, and a text of it in which nothing is missing. The value is read from the text. -/
theorem read_indented {v : Value} (hnames : v.HasDistinctNames)
    (hfloats : ∀ x ∈ v.floats, IsReadBack x) {indent room : Nat}
    (hwhole : ((Datum.ofValue v).indented indent).2 = none)
    (hroom : (Datum.ofValue v).depth ≤ room) :
    Json.read room ((Datum.ofValue v).indented indent).1 = .ok v := by
  obtain ⟨hpieces, htext⟩ := joinPieces_of_none hwhole
  obtain ⟨text, hpieces, hstands⟩ := isWritten hnames hfloats indent 0 "" hpieces
  have hchars : ((Datum.ofValue v).indented indent).1.toList = text := htext.trans hpieces
  have hread : value (2 * text.length + 2) room text = .ok (v, []) := by
    have hempty : IsEnd [] := by simp [IsEnd]
    have hall := hstands.reads hempty (show text.length < 2 * text.length + 2 by omega) hroom
    rwa [List.append_nil] at hall
  rw [Json.read, hchars, skipBlanks_of_starts hstands.starts, hread]
  rfl

end ContentTree.Json
