import ContentTree.Json.Reader
import ContentTree.Json.Writer
/-!
Strings in JSON text. A character is read back from what it is written as, in whatever text it
stands: itself, an escape of its own, or the escapes of its one or two UTF-16 units. So a quoted
string is read up to its closing quote and no further.
-/

set_option autoImplicit false
set_option relaxedAutoImplicit false

namespace ContentTree.Json

open ContentTree.Number ContentTree.Text Reader

variable {fuel n : Nat} {c : Char} {rest done : List Char}

/-! ### Escapes -/

theorem hexDigit_hexChar (h : n < 16) : hexDigit? (hexChar n) = some n := by
  have hall : ∀ d : Fin 16, hexDigit? (hexChar d) = some d.val := by decide
  exact hall ⟨n, h⟩

/-- A UTF-16 unit is read back from its four digits. -/
theorem hexFour_hexDigits (h : n < 0x10000) :
    hexFour? (hexDigits 4 n ++ rest) = some (n, rest) := by
  have hdigits : hexDigits 4 n = [hexChar (n / 16 / 16 / 16 % 16), hexChar (n / 16 / 16 % 16),
    hexChar (n / 16 % 16), hexChar (n % 16)] := rfl
  rw [hdigits]
  simp only [List.cons_append, List.nil_append, hexFour?]
  rw [hexDigit_hexChar (by omega), hexDigit_hexChar (by omega), hexDigit_hexChar (by omega),
    hexDigit_hexChar (by omega)]
  simp only [Option.bind_eq_bind, Option.bind_some, Option.pure_def, Option.some.injEq,
    Prod.mk.injEq, and_true]
  omega

/-- A unit that is no surrogate is a character of its own. -/
theorem stringBody_unit (h : n < 0xD800 ∨ 0xDFFF < n ∧ n < 0x10000) :
    stringBody (fuel + 1) (unitEscape n ++ rest) done =
      stringBody fuel rest (Char.ofNat n :: done) := by
  rw [unitEscape, List.cons_append, List.cons_append, stringBody, hexFour_hexDigits (by omega)]
  simp only
  rw [if_neg (by omega), charOfCode, if_neg (by omega)]

/-- Two surrogates are one character. -/
theorem stringBody_pair (hleast : 0x10000 ≤ n) (h : n < 0x110000) :
    stringBody (fuel + 1) (unitEscape (0xD800 + (n - 0x10000) / 0x400) ++
        unitEscape (0xDC00 + (n - 0x10000) % 0x400) ++ rest) done =
      stringBody fuel rest (Char.ofNat n :: done) := by
  have hcode : 0x10000 + (0xD800 + (n - 0x10000) / 0x400 - 0xD800) * 0x400 +
      (0xDC00 + (n - 0x10000) % 0x400 - 0xDC00) = n := by omega
  rw [List.append_assoc, unitEscape, List.cons_append, List.cons_append, stringBody,
    hexFour_hexDigits (by omega)]
  simp only
  rw [if_pos (by omega), unitEscape, List.cons_append, List.cons_append]
  simp only
  rw [hexFour_hexDigits (by omega)]
  simp only
  rw [if_pos (by omega), hcode]

/-- A character that is neither a control character nor an end or an escape stands for itself. -/
theorem stringBody_plain (hquote : c ≠ '"') (hslash : c ≠ '\\') (hcontrol : 32 ≤ c.toNat) :
    stringBody (fuel + 1) (c :: rest) done = stringBody fuel rest (c :: done) := by
  rw [stringBody, if_neg (by omega)]
  · exact hquote
  · intro more hstart
    exact absurd hstart hslash
  · intro escaped more hstart
    exact absurd hstart hslash

/-- What a character is written as is read back as the character, in one step. -/
theorem stringBody_escapeChar (fuel : Nat) (c : Char) (rest done : List Char) :
    stringBody (fuel + 1) (escapeChar c ++ rest) done = stringBody fuel rest (c :: done) := by
  have hself : Char.ofNat c.toNat = c := Char.ofNat_toNat c
  have hvalid : c.toNat < 0xD800 ∨ 0xDFFF < c.toNat ∧ c.toNat < 0x110000 := c.valid
  unfold escapeChar
  split
  iterate 7 rfl
  next hquote hslash _ _ _ _ _ =>
  extract_lets code
  split
  · exact stringBody_plain hquote hslash (by omega)
  · split
    · rw [stringBody_unit (by omega), hself]
    · rw [stringBody_pair (by omega) (by omega), hself]

/-! ### Strings -/

theorem stringBody_flatMap (text : List Char) (hfuel : text.length < fuel) :
    stringBody fuel (text.flatMap escapeChar ++ '"' :: rest) done =
      .ok (String.ofList (done.reverse ++ text), rest) := by
  induction text generalizing fuel done with
  | nil =>
    obtain ⟨fuel, rfl⟩ := Nat.exists_eq_add_one_of_ne_zero (Nat.ne_of_gt hfuel)
    simp [stringBody]
  | cons c text ih =>
    obtain ⟨fuel, rfl⟩ := Nat.exists_eq_add_one.mpr (Nat.zero_lt_of_lt hfuel)
    rw [List.flatMap_cons, List.append_assoc, stringBody_escapeChar,
      ih (by simpa using hfuel), List.reverse_cons, List.append_assoc, List.singleton_append]

theorem length_le_flatMap_escapeChar (text : List Char) :
    text.length ≤ (text.flatMap escapeChar).length := by
  have hone : ∀ c, 1 ≤ (escapeChar c).length := by
    intro c
    rw [Nat.one_le_iff_ne_zero, ne_eq, List.length_eq_zero_iff]
    unfold escapeChar
    split
    iterate 7 exact List.cons_ne_nil _ _
    dsimp only
    split
    · exact List.cons_ne_nil _ _
    · split <;> exact List.cons_ne_nil _ _
  induction text with
  | nil => exact Nat.zero_le _
  | cons c text ih =>
    rw [List.flatMap_cons, List.length_append, List.length_cons]
    exact Nat.add_comm 1 _ ▸ Nat.add_le_add (hone c) ih

/-- A quoted string is read back after its opening quote, whatever follows. -/
theorem stringBody_quote (s : String) (rest : List Char) :
    ∃ body, (quote s).toList ++ rest = '"' :: body ∧
      stringBody (body.length + 1) body [] = .ok (s, rest) := by
  refine ⟨s.toList.flatMap escapeChar ++ '"' :: rest, by simp [quote], ?_⟩
  rw [stringBody_flatMap, List.reverse_nil, List.nil_append, String.ofList_toList]
  have hlength := length_le_flatMap_escapeChar s.toList
  rw [List.length_append, List.length_cons]
  omega

end ContentTree.Json
