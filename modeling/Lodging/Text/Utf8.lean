import Lodging.Text.Hex

/-! # UTF-8

Bytes as characters. Bytes that are no UTF-8 are taken off in the longest pieces
that could have begun a character, each of which counts as one fault.
-/

namespace Lodging.Text

/-- The byte continues a character. -/
def continues (byte : UInt8) : Bool :=
  0x80 ≤ byte && byte ≤ 0xBF

/-- Takes `count` more bytes of a character whose bits so far are `bits`; the next
byte lies between `least` and `most`. -/
def takeContinuation (bits : Nat) (least most : UInt8) :
    (count : Nat) → List UInt8 → Option Char × List UInt8
  | 0, rest => (some (Char.ofNat bits), rest)
  | _ + 1, [] => (none, [])
  | count + 1, byte :: rest =>
      if least ≤ byte && byte ≤ most then
        takeContinuation (bits * 64 + (byte.toNat - 0x80)) 0x80 0xBF count rest
      else (none, byte :: rest)

/-- Takes the character that begins with a byte, or the piece that is none. -/
def takeCharacter (first : UInt8) (rest : List UInt8) : Option Char × List UInt8 :=
  let bits := first.toNat
  if first < 0x80 then (some (Char.ofNat bits), rest)
  else if 0xC2 ≤ first && first ≤ 0xDF then
    takeContinuation (bits - 0xC0) 0x80 0xBF 1 rest
  else if first == 0xE0 then takeContinuation 0 0xA0 0xBF 2 rest
  else if first == 0xED then takeContinuation (bits - 0xE0) 0x80 0x9F 2 rest
  else if 0xE1 ≤ first && first ≤ 0xEF then
    takeContinuation (bits - 0xE0) 0x80 0xBF 2 rest
  else if first == 0xF0 then takeContinuation 0 0x90 0xBF 3 rest
  else if 0xF1 ≤ first && first ≤ 0xF3 then
    takeContinuation (bits - 0xF0) 0x80 0xBF 3 rest
  else if first == 0xF4 then takeContinuation (bits - 0xF0) 0x80 0x8F 3 rest
  else (none, rest)

/-- Taking more bytes of a character leaves no more than there were. -/
theorem takeContinuation_length (bits : Nat) (least most : UInt8) (count : Nat)
    (bytes : List UInt8) :
    (takeContinuation bits least most count bytes).2.length ≤ bytes.length := by
  induction count generalizing bits least most bytes with
  | zero => exact Nat.le_refl _
  | succ count ih =>
      cases bytes with
      | nil => exact Nat.le_refl _
      | cons byte rest =>
          unfold takeContinuation
          split
          · exact Nat.le_succ_of_le (ih _ _ _ rest)
          · exact Nat.le_refl _

/-- Taking a character leaves no more bytes than follow its first. -/
theorem takeCharacter_length (first : UInt8) (rest : List UInt8) :
    (takeCharacter first rest).2.length ≤ rest.length := by
  unfold takeCharacter
  repeat' split
  all_goals first
    | exact Nat.le_refl _
    | exact takeContinuation_length _ _ _ _ _

/-- The characters of bytes; a piece that is none is given as nothing. -/
def utf8Characters (bytes : List UInt8) : List (Option Char) :=
  match bytes with
  | [] => []
  | first :: rest =>
      let taken := takeCharacter first rest
      taken.1 :: utf8Characters taken.2
termination_by bytes.length
decreasing_by
  exact Nat.lt_succ_of_le (takeCharacter_length first rest)

/-- The text of bytes, if they are UTF-8. -/
def ofUtf8? (bytes : List UInt8) : Option (List Char) :=
  (utf8Characters bytes).mapM id

/-- The text of bytes with a replacement character for every piece that is no
UTF-8. -/
def ofUtf8Lossy (bytes : List UInt8) : List Char :=
  (utf8Characters bytes).map (·.getD '\ufffd')

/-- The bytes of a text in which `%` and two hexadecimal digits stand for a byte;
a `%` without digits stands for itself. -/
def percentDecoded : List Char → List UInt8
  | '%' :: high :: low :: rest =>
      match hexValue? high, hexValue? low with
      | some high, some low => UInt8.ofNat (16 * high + low) :: percentDecoded rest
      | _, _ => 0x25 :: percentDecoded (high :: low :: rest)
  | c :: rest => String.utf8EncodeChar c ++ percentDecoded rest
  | [] => []

end Lodging.Text
