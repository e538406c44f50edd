import ContentTree.Descriptor.Value
import Mathlib.Data.List.Basic
/-!
Lists of values in brackets. In a written list a backslash stands before each comma and each
backslash of a value, and a comma between each two values. Reading takes a written list apart into
the values it was written from, so a value may hold brackets, braces, commas and line ends without
a shift of its neighbours. The one list that is not read back is the one with a single empty value,
which is written as the empty list is.
-/

set_option autoImplicit false
set_option relaxedAutoImplicit false

namespace ContentTree.Descriptor

open ContentTree.Text

/-! ### Written lists -/

/-- A character of a value as it stands in a written list. -/
def escapeInList (c : Char) : List Char := if c = ',' ∨ c = '\\' then ['\\', c] else [c]

/-- The values as they stand between the brackets of a written list. -/
def writtenItems (values : List String) : List Char :=
  [','].intercalate (values.map fun value ↦ value.toList.flatMap escapeInList)

/-- A list of values as it is written. -/
def writtenList (values : List String) : String :=
  "[" ++ String.ofList (writtenItems values) ++ "]"

theorem writtenItems_singleton (value : String) :
    writtenItems [value] = value.toList.flatMap escapeInList := by
  simp [writtenItems]

theorem writtenItems_cons_cons (value next : String) (others : List String) :
    writtenItems (value :: next :: others) =
      value.toList.flatMap escapeInList ++ ',' :: writtenItems (next :: others) := by
  simp [writtenItems, List.intercalate_cons_cons]

/-- An escaped character is added to the value being read. -/
theorem splitValues_escapeInList (started : Bool) (current : List Char) (c : Char)
    (rest : List Char) :
    splitValues started current (escapeInList c ++ rest) =
      splitValues started (c :: current) rest := by
  unfold escapeInList
  split_ifs with hmark
  · rfl
  · obtain ⟨hcomma, hslash⟩ := not_or.mp hmark
    rw [List.singleton_append, splitValues]
    · exact fun heq _ ↦ hslash heq
    · exact fun _ _ heq _ ↦ hslash heq
    · exact hcomma

/-- An escaped text is added to the value being read. -/
theorem splitValues_flatMap (started : Bool) (current text rest : List Char) :
    splitValues started current (text.flatMap escapeInList ++ rest) =
      splitValues started (text.reverse ++ current) rest := by
  induction text generalizing current with
  | nil => rfl
  | cons c more ih =>
    rw [List.flatMap_cons, List.append_assoc, splitValues_escapeInList, ih, List.reverse_cons,
      List.append_assoc]
    rfl

theorem splitValues_last (started : Bool) (value : String) :
    splitValues started [] (writtenItems [value]) =
      if started = true ∨ value ≠ "" then [value] else [] := by
  have happend := splitValues_flatMap started [] value.toList []
  rw [List.append_nil, List.append_nil] at happend
  rw [writtenItems_singleton, happend, splitValues]
  simp [String.toList_eq_nil_iff]

theorem splitValues_cons (started : Bool) (value next : String) (others : List String) :
    splitValues started [] (writtenItems (value :: next :: others)) =
      value :: splitValues true [] (writtenItems (next :: others)) := by
  rw [writtenItems_cons_cons, splitValues_flatMap, List.append_nil, splitValues, List.reverse_reverse,
    String.ofList_toList]

/-- After a comma each value counts, also an empty one at the end. -/
theorem splitValues_started (value : String) (others : List String) :
    splitValues true [] (writtenItems (value :: others)) = value :: others := by
  induction others generalizing value with
  | nil => rw [splitValues_last, if_pos (.inl rfl)]
  | cons next rest ih => rw [splitValues_cons, ih]

/-- The values of a written list are read back, except a single empty one. -/
theorem splitValues_writtenItems (values : List String) :
    splitValues false [] (writtenItems values) = if values = [""] then [] else values := by
  match values with
  | [] => rfl
  | [value] =>
    rw [splitValues_last]
    by_cases hempty : value = "" <;> simp [hempty]
  | value :: next :: others =>
    rw [splitValues_cons, splitValues_started, if_neg (by simp)]

/-! ### Types in braces -/

/-- A text that may stand as a type in braces. -/
def IsTypeName (name : String) : Prop := name ≠ "" ∧ ∀ c ∈ name.toList, isWordChar c = true

instance (name : String) : Decidable (IsTypeName name) :=
  inferInstanceAs (Decidable (name ≠ "" ∧ ∀ c ∈ name.toList, isWordChar c = true))

/-- The types that read their texts, by their names. -/
def readingTypes : List (String × ValueType) :=
  [("Long", .integer), ("Double", .float), ("Decimal", .decimal), ("Boolean", .boolean),
    ("Date", .date)]

/-- What a type of the given name makes of a text: what it reads there, and the text itself if it
cannot read it or if no type of the name reads texts. -/
def meaning (name text : String) : Scalar :=
  ((readingTypes.lookup name).bind (·.read? text)).getD (.text text)

section Hints

variable {name raw : String} {body inside : List Char}

theorem ofName_eq_lookup (name : String) :
    ValueType.ofName name = (readingTypes.lookup name).getD .text := by
  by_cases hmem : name ∈ readingTypes.map (·.1)
  · revert name
    decide +kernel
  · have hnone : readingTypes.lookup name = none := by
      refine List.lookup_eq_none_iff.mpr fun entry hentry ↦ bne_iff_ne.mpr fun heq ↦ hmem ?_
      exact List.mem_map.mpr ⟨entry, hentry, heq.symm⟩
    simp only [readingTypes, List.map_cons, List.map_nil, List.mem_cons, List.not_mem_nil, or_false,
      not_or] at hmem
    rw [hnone, ValueType.ofName, if_neg hmem.1, if_neg hmem.2.1, if_neg hmem.2.2.1,
      if_neg hmem.2.2.2.1, if_neg hmem.2.2.2.2]
    rfl

theorem meaning_eq_convert (name text : String) :
    meaning name text = (ValueType.ofName name).convert text := by
  rw [ofName_eq_lookup, meaning, ValueType.convert]
  cases readingTypes.lookup name with
  | none => rfl
  | some type => rfl

theorem takeHint_braces (hname : IsTypeName name) (body : List Char) :
    takeHint? ('{' :: (name.toList ++ '}' :: body)) = some (name, body) := by
  have hbrace : isWordChar '}' = false := by decide +kernel
  have htake : (name.toList ++ '}' :: body).takeWhile isWordChar = name.toList := by
    rw [List.takeWhile_append_of_pos hname.2, List.takeWhile_cons_of_neg (by simp [hbrace]),
      List.append_nil]
  rw [takeHint?, htake, List.drop_left, String.ofList_toList]
  cases hlist : name.toList with
  | nil => exact absurd (String.toList_eq_nil_iff.mp hlist) hname.1
  | cons first rest => rfl

theorem bracketed_brackets (inside : List Char) :
    bracketed? ('[' :: (inside ++ [']'])) = some inside := by
  simp [bracketed?]

theorem toList_writtenList (values : List String) :
    (writtenList values).toList = '[' :: (writtenItems values ++ [']']) := by
  simp [writtenList]

theorem read_of_no_hint (hhint : takeHint? raw.toList = none)
    (hinside : bracketed? raw.toList = some inside) :
    Value.read raw = .multiple ((splitValues false [] inside).map .text) := by
  rw [Value.read, hhint]
  simp only [hinside]
  rfl

theorem read_of_hint (hhint : takeHint? raw.toList = some (name, body))
    (hinside : bracketed? body = some inside) :
    Value.read raw = .multiple ((splitValues false [] inside).map (meaning name)) := by
  rw [Value.read, hhint, funext (meaning_eq_convert name)]
  simp only [hinside]

/-- A list in brackets holds texts, whatever these look like. -/
theorem read_plainList (values : List String) :
    Value.read (writtenList values) =
      .multiple ((if values = [""] then [] else values).map .text) := by
  have hraw := toList_writtenList values
  have hhint : takeHint? (writtenList values).toList = none := by
    rw [hraw]
    rfl
  have hinside : bracketed? (writtenList values).toList = some (writtenItems values) := by
    rw [hraw, bracketed_brackets]
  rw [read_of_no_hint hhint hinside, splitValues_writtenItems]

/-- A list in brackets after a type holds what the type makes of each text. -/
theorem read_typedList (hname : IsTypeName name) (values : List String) :
    Value.read ("\x7b" ++ name ++ "\x7d" ++ writtenList values) =
      .multiple ((if values = [""] then [] else values).map (meaning name)) := by
  have hraw : ("\x7b" ++ name ++ "\x7d" ++ writtenList values).toList =
      '{' :: (name.toList ++ '}' :: '[' :: (writtenItems values ++ [']'])) := by
    simp [toList_writtenList]
  have hhint := takeHint_braces hname ('[' :: (writtenItems values ++ [']']))
  rw [← hraw] at hhint
  rw [read_of_hint hhint (bracketed_brackets _), splitValues_writtenItems]

end Hints

/-! ### Reading back -/

/-- A written list is read back as the texts it was written from, and after a type as what the type
makes of each of them, in order. This is so for every list but the one with a single empty text. -/
theorem read_writtenList_iff (values : List String) :
    (Value.read (writtenList values) = .multiple (values.map .text) ↔ values ≠ [""]) ∧
    ∀ name, IsTypeName name →
      (Value.read ("\x7b" ++ name ++ "\x7d" ++ writtenList values) =
        .multiple (values.map (meaning name)) ↔ values ≠ [""]) := by
  constructor
  · rw [read_plainList]
    by_cases hempty : values = [""] <;> simp [hempty]
  · intro name hname
    rw [read_typedList hname]
    by_cases hempty : values = [""] <;> simp [hempty]

/-- A number and texts that are none, one of them with a comma and one like a list. -/
theorem numbers_read : IsTypeName "Long" ∧
    Value.read "\x7bLong\x7d[7,x\\,y,[\\\\],]" =
      .multiple [.integer 7, .text "x,y", .text "[\\]", .text ""] := by
  have hname : IsTypeName "Long" := by
    refine ⟨by decide, fun c hc ↦ ?_⟩
    have hletter : c = 'L' ∨ c = 'o' ∨ c = 'n' ∨ c = 'g' := by simpa using hc
    rcases hletter with rfl | rfl | rfl | rfl <;> decide +kernel
  have hraw : "\x7bLong\x7d[7,x\\,y,[\\\\],]" =
      "\x7b" ++ "Long" ++ "\x7d" ++ writtenList ["7", "x,y", "[\\]", ""] := by decide +kernel
  have hmeaning : ["7", "x,y", "[\\]", ""].map (meaning "Long") =
      [.integer 7, .text "x,y", .text "[\\]", .text ""] := by decide +kernel
  have hread := ((read_writtenList_iff ["7", "x,y", "[\\]", ""]).2 "Long" hname).mpr (by decide)
  rw [hraw, hread, hmeaning]
  exact ⟨hname, rfl⟩

end ContentTree.Descriptor
