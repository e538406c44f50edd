/-!
UTF-8. A text is its characters' bytes one after the other; decoding names the first bytes that
belong to no character, and why.
-/

set_option autoImplicit false
set_option relaxedAutoImplicit false

namespace ContentTree.Text.Utf8

/-- Why bytes are not a character. -/
inductive Reason where
  /-- No character starts with the byte. -/
  | invalidStart
  /-- The byte after the named ones does not continue the character. -/
  | invalidContinuation
  /-- The bytes stop in the middle of a character. -/
  | unexpectedEnd
  deriving DecidableEq, Repr

/-- The wording of a reason. -/
def Reason.message : Reason → String
  | .invalidStart => "invalid start byte"
  | .invalidContinuation => "invalid continuation byte"
  | .unexpectedEnd => "unexpected end of data"

/-- The first undecodable bytes: the first of them, their position and their number. -/
structure Fault where
  byte : UInt8
  position : Nat
  count : Nat
  reason : Reason
  deriving DecidableEq, Repr

/-- The bytes of a text. -/
def encode (text : String) : List UInt8 := text.toUTF8.data.toList

/-- Whether a byte continues a character. -/
def isTail (b : UInt8) : Bool := 0x80 ≤ b && b ≤ 0xBF

/-- The six low bits of a byte that continues a character. -/
def tailBits (b : UInt8) : Nat := b.toNat % 64

/-- Whether a byte may follow the first byte of a character of three or four bytes. Bytes that
would write a character longer than needed, a surrogate, or a number past the last character are
refused. -/
def isSecond (first second : UInt8) : Bool :=
  isTail second &&
    !(first == 0xE0 && second < 0xA0) && !(first == 0xED && 0xA0 ≤ second) &&
    !(first == 0xF0 && second < 0x90) && !(first == 0xF4 && 0x90 ≤ second)

/-- The character that starts with `first`, and how many bytes of `rest` belong to it. A failure
gives the number of bytes at fault. -/
def charAt (first : UInt8) (rest : List UInt8) : Except (Nat × Reason) (Char × Nat) :=
  let lead := first.toNat
  if first < 0x80 then .ok (Char.ofNat lead, 0)
  else if first < 0xC2 || 0xF4 < first then .error (1, .invalidStart)
  else if first < 0xE0 then
    match rest with
    | [] => .error (1, .unexpectedEnd)
    | b :: _ =>
      if isTail b then .ok (Char.ofNat (lead % 32 * 64 + tailBits b), 1)
      else .error (1, .invalidContinuation)
  else if first < 0xF0 then
    match rest with
    | [] => .error (1, .unexpectedEnd)
    | b :: more =>
      if !isSecond first b then .error (1, .invalidContinuation)
      else match more with
        | [] => .error (2, .unexpectedEnd)
        | c :: _ =>
          if isTail c then
            .ok (Char.ofNat ((lead % 16 * 64 + tailBits b) * 64 + tailBits c), 2)
          else .error (2, .invalidContinuation)
  else
    match rest with
    | [] => .error (1, .unexpectedEnd)
    | b :: more =>
      if !isSecond first b then .error (1, .invalidContinuation)
      else match more with
        | [] => .error (2, .unexpectedEnd)
        | c :: more =>
          if !isTail c then .error (2, .invalidContinuation)
          else match more with
            | [] => .error (3, .unexpectedEnd)
            | d :: _ =>
              if isTail d then
                .ok (Char.ofNat (((lead % 8 * 64 + tailBits b) * 64 + tailBits c) * 64 + tailBits d), 3)
              else .error (3, .invalidContinuation)

/-- The characters of bytes that start at the given position. -/
def charsFrom (position : Nat) : List UInt8 → Except Fault (List Char)
  | [] => .ok []
  | first :: rest =>
    match charAt first rest with
    | .error (count, reason) => .error ⟨first, position, count, reason⟩
    | .ok (c, more) =>
      match charsFrom (position + 1 + more) (rest.drop more) with
      | .ok chars => .ok (c :: chars)
      | .error fault => .error fault
termination_by bytes => bytes.length
decreasing_by simp only [List.length_drop, List.length_cons]; omega

/-- The text written by bytes. -/
def decode (bytes : List UInt8) : Except Fault String :=
  (charsFrom 0 bytes).map String.ofList

end ContentTree.Text.Utf8
