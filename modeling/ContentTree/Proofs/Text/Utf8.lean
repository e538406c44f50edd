import ContentTree.Text.Utf8
/-!
UTF-8 forth and back. The bytes of a character are decoded as that character, whatever comes after
them, so the bytes of a text are decoded as the text.
-/

set_option autoImplicit false
set_option relaxedAutoImplicit false

namespace ContentTree.Text.Utf8

theorem encode_eq_flatMap (text : String) :
    encode text = text.toList.flatMap String.utf8EncodeChar := by
  rw [encode, String.toUTF8_eq_toByteArray, ← String.utf8Encode_toList, List.utf8Encode]
  simp

/-! ### Bytes -/

variable {n lead second : Nat} {rest : List UInt8}

theorem toNat_byte (h : n < 256) : (UInt8.ofNat n).toNat = n := by
  simp [Nat.mod_eq_of_lt h]

theorem isTail_byte (n : Nat) : isTail (UInt8.ofNat (n % 64 + 128)) = true := by
  have hsmall : n % 64 + 128 < 256 := by omega
  simp only [isTail, Bool.and_eq_true, decide_eq_true_eq, UInt8.le_iff_toNat_le, toNat_byte hsmall,
    UInt8.reduceToNat]
  omega

theorem tailBits_byte (n : Nat) : tailBits (UInt8.ofNat (n % 64 + 128)) = n % 64 := by
  rw [tailBits, toNat_byte (by omega)]
  omega

/-- The second byte of a character of three or four bytes, with the characters left out that would
be written too long, surrogates or past the last character. -/
theorem isSecond_byte (hlead : lead < 256) (hlong : lead = 0xE0 → 0x20 ≤ n % 64)
    (hpair : lead = 0xED → n % 64 < 0x20) (hlonger : lead = 0xF0 → 0x10 ≤ n % 64)
    (hlast : lead = 0xF4 → n % 64 < 0x10) :
    isSecond (UInt8.ofNat lead) (UInt8.ofNat (n % 64 + 128)) = true := by
  have hsmall : n % 64 + 128 < 256 := by omega
  simp only [isSecond, isTail_byte, Bool.true_and, Bool.and_eq_true, Bool.not_eq_true',
    Bool.and_eq_false_iff, beq_eq_false_iff_ne, decide_eq_false_iff_not, ne_eq,
    ← UInt8.toNat_inj, UInt8.lt_iff_toNat_lt, UInt8.le_iff_toNat_le, toNat_byte hlead,
    toNat_byte hsmall, UInt8.reduceToNat]
  omega

/-! ### Characters -/

theorem charAt_one (h : n < 0x80) : charAt (UInt8.ofNat n) rest = .ok (Char.ofNat n, 0) := by
  have hsmall : n < 256 := by omega
  have hlead : UInt8.ofNat n < 0x80 := by
    rw [UInt8.lt_iff_toNat_lt, toNat_byte hsmall]
    exact h
  simp only [charAt, hlead, if_true, toNat_byte hsmall]

/-- Which range the first byte of a character lies in. -/
theorem lead_ranges (hlead : lead < 256) :
    (UInt8.ofNat lead < 0x80 ↔ lead < 0x80) ∧
      ((UInt8.ofNat lead < 0xC2 || 0xF4 < UInt8.ofNat lead) = true ↔ lead < 0xC2 ∨ 0xF4 < lead) ∧
        (UInt8.ofNat lead < 0xE0 ↔ lead < 0xE0) ∧ (UInt8.ofNat lead < 0xF0 ↔ lead < 0xF0) := by
  simp only [Bool.or_eq_true, decide_eq_true_eq, UInt8.lt_iff_toNat_lt, toNat_byte hlead,
    UInt8.reduceToNat, and_self]

theorem charAt_two (hleast : 0x80 ≤ n) (h : n < 0x800) :
    charAt (UInt8.ofNat (n / 64 % 32 + 192)) (UInt8.ofNat (n % 64 + 128) :: rest) =
      .ok (Char.ofNat n, 1) := by
  have hlead : n / 64 % 32 + 192 < 256 := by omega
  obtain ⟨hone, hbad, htwo, -⟩ := lead_ranges hlead
  unfold charAt
  simp only [hone, hbad, htwo, isTail_byte, tailBits_byte, toNat_byte hlead]
  rw [if_neg (by omega), if_neg (by omega), if_pos (by omega), if_pos trivial]
  congr
  omega

theorem charAt_three (hleast : 0x800 ≤ n) (h : n < 0x10000) (hpair : n < 0xD800 ∨ 0xDFFF < n) :
    charAt (UInt8.ofNat (n / 4096 % 16 + 224))
        (UInt8.ofNat (n / 64 % 64 + 128) :: UInt8.ofNat (n % 64 + 128) :: rest) =
      .ok (Char.ofNat n, 2) := by
  have hlead : n / 4096 % 16 + 224 < 256 := by omega
  obtain ⟨hone, hbad, htwo, hthree⟩ := lead_ranges hlead
  have hsecond : isSecond (UInt8.ofNat (n / 4096 % 16 + 224)) (UInt8.ofNat (n / 64 % 64 + 128)) =
      true := by
    apply isSecond_byte hlead <;> omega
  unfold charAt
  simp only [hone, hbad, htwo, hthree, hsecond, isTail_byte, tailBits_byte, toNat_byte hlead]
  rw [if_neg (by omega), if_neg (by omega), if_neg (by omega), if_pos (by omega), if_neg (by simp),
    if_pos trivial]
  congr
  omega

theorem charAt_four (hleast : 0x10000 ≤ n) (h : n < 0x110000) :
    charAt (UInt8.ofNat (n / 262144 % 8 + 240)) (UInt8.ofNat (n / 4096 % 64 + 128) ::
        UInt8.ofNat (n / 64 % 64 + 128) :: UInt8.ofNat (n % 64 + 128) :: rest) =
      .ok (Char.ofNat n, 3) := by
  have hlead : n / 262144 % 8 + 240 < 256 := by omega
  obtain ⟨hone, hbad, htwo, hthree⟩ := lead_ranges hlead
  have hsecond : isSecond (UInt8.ofNat (n / 262144 % 8 + 240))
      (UInt8.ofNat (n / 4096 % 64 + 128)) = true := by
    apply isSecond_byte hlead <;> omega
  unfold charAt
  simp only [hone, hbad, htwo, hthree, hsecond, isTail_byte, tailBits_byte, toNat_byte hlead]
  rw [if_neg (by omega), if_neg (by omega), if_neg (by omega), if_neg (by omega), if_neg (by simp),
    if_neg (by simp), if_pos trivial]
  congr
  omega

/-- The bytes of a character are decoded as the character, whatever follows. -/
theorem charAt_utf8EncodeChar (c : Char) : ∃ first more, String.utf8EncodeChar c = first :: more ∧
    ∀ rest, charAt first (more ++ rest) = .ok (c, more.length) := by
  have hvalid : c.val.toNat < 0xD800 ∨ 0xDFFF < c.val.toNat ∧ c.val.toNat < 0x110000 := c.valid
  have hself : Char.ofNat c.val.toNat = c := Char.ofNat_toNat c
  unfold String.utf8EncodeChar
  extract_lets n
  split
  · exact ⟨_, _, rfl, fun rest ↦ (charAt_one (by omega)).trans (by rw [hself]; rfl)⟩
  split
  · exact ⟨_, _, rfl, fun rest ↦ (charAt_two (by omega) (by omega)).trans (by rw [hself]; rfl)⟩
  split
  · exact ⟨_, _, rfl, fun rest ↦
      (charAt_three (by omega) (by omega) (by omega)).trans (by rw [hself]; rfl)⟩
  · exact ⟨_, _, rfl, fun rest ↦ (charAt_four (by omega) (by omega)).trans (by rw [hself]; rfl)⟩

/-! ### Texts -/

theorem charsFrom_flatMap (position : Nat) (chars : List Char) :
    charsFrom position (chars.flatMap String.utf8EncodeChar) = .ok chars := by
  induction chars generalizing position with
  | nil =>
    rw [List.flatMap_nil, charsFrom]
  | cons c chars ih =>
    obtain ⟨first, more, hbytes, hchar⟩ := charAt_utf8EncodeChar c
    rw [List.flatMap_cons, hbytes, List.cons_append, charsFrom]
    simp only [hchar, List.drop_left, ih]

/-- A text is what its bytes are decoded as. -/
theorem decode_encode (text : String) : decode (encode text) = .ok text := by
  rw [decode, encode_eq_flatMap, charsFrom_flatMap, Except.map, String.ofList_toList]

end ContentTree.Text.Utf8
