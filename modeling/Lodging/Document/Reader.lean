import Lodging.Document.Scalar

/-! # Documents from text

The reader of JSON text. It goes as far as the text makes sense, and what it has
read is a draft (`Draft.ofText`). A text is a document when nothing is wrong with
its draft and nothing but space follows (`Document.read?`). A record keeps its
entries in the order and number in which they are written. Lists and records may
be nested `Draft.maxDepth` deep.
-/

namespace Lodging

namespace Draft

/-- The most lists and records that may lie within each other. -/
def maxDepth : Nat := 127

/-- A list or record where so many more may lie within each other. -/
def within (depth : Nat) (draft : Draft) : Draft :=
  if 0 < depth then draft else if draft.isPassable then .flawed else .broken

/-- Takes the rest of a word that stands for a value. -/
def takeWord (value : Draft) (word chars : List Char) : Draft × Option (List Char) :=
  match after? word chars with
  | some rest => (value, some rest)
  | none => (.broken, none)

/-- Takes a quoted text without its opening quote. -/
def takeQuoted (chars : List Char) : Draft × Option (List Char) :=
  match takeQuoted? chars with
  | some (some value, rest) => (.text value, some rest)
  | some (none, rest) => (.flawed, some rest)
  | none => (.broken, none)

/-- An entry with its name, if that can be made out, and its value; `ended` tells
whether the value has an end. -/
def entryOf (name : Option String) (value : Draft) (ended : Bool) : Option String × Draft :=
  match name with
  | some name => (some name, value)
  | none => (none, if ended then .flawed else .broken)

mutual

/-- Takes a draft, in which lists and records may be nested `depth` deep. Every
step uses up fuel. What follows is given only where the draft has an end. -/
def take (depth : Nat) : (fuel : Nat) → List Char → Draft × Option (List Char)
  | 0, _ => (.broken, none)
  | fuel + 1, chars =>
      match skipSpaces chars with
      | 'n' :: rest => takeWord .null ['u', 'l', 'l'] rest
      | 't' :: rest => takeWord (.bool true) ['r', 'u', 'e'] rest
      | 'f' :: rest => takeWord (.bool false) ['a', 'l', 's', 'e'] rest
      | '"' :: rest => takeQuoted rest
      | '[' :: rest =>
          match skipSpaces rest with
          | ']' :: rest => (within depth (.list []), some rest)
          | rest =>
              let (elements, rest) := takeElements (depth - 1) fuel rest
              (within depth (.list elements), rest)
      | '\x7b' :: rest =>
          match skipSpaces rest with
          | '\x7d' :: rest => (within depth (.record []), some rest)
          | rest =>
              let (entries, rest) := takeEntries (depth - 1) fuel rest
              (within depth (.record entries), rest)
      | chars => takeNumber chars

/-- Takes the elements of a list up to its end. -/
def takeElements (depth : Nat) : (fuel : Nat) → List Char → List Draft × Option (List Char)
  | 0, _ => ([.broken], none)
  | fuel + 1, chars =>
      match take depth fuel chars with
      | (element, none) => ([element], none)
      | (element, some rest) =>
          match skipSpaces rest with
          | ',' :: rest =>
              let (elements, rest) := takeElements depth fuel rest
              (element :: elements, rest)
          | ']' :: rest => ([element], some rest)
          | _ => ([element, .broken], none)

/-- Takes the entries of a record up to its end. -/
def takeEntries (depth : Nat) :
    (fuel : Nat) → List Char → List (Option String × Draft) × Option (List Char)
  | 0, _ => ([(none, .broken)], none)
  | fuel + 1, chars =>
      match skipSpaces chars with
      | '"' :: rest =>
          match takeQuoted? rest with
          | none => ([(none, .broken)], none)
          | some (name, rest) =>
              match skipSpaces rest with
              | ':' :: rest =>
                  match take depth fuel rest with
                  | (value, none) => ([entryOf name value false], none)
                  | (value, some rest) =>
                      match skipSpaces rest with
                      | ',' :: rest =>
                          let (entries, rest) := takeEntries depth fuel rest
                          (entryOf name value true :: entries, rest)
                      | '\x7d' :: rest => ([entryOf name value true], some rest)
                      | _ => ([entryOf name value true, (none, .broken)], none)
              | _ => ([entryOf name .broken false], none)
      | chars =>
          let (other, _) := take depth fuel chars
          ([(none, other), (none, .broken)], none)

end

/-- The draft at the front of a text, and what follows it where it has an end. -/
def takeFront (chars : List Char) : Draft × Option (List Char) :=
  take maxDepth (2 * chars.length + 2) chars

/-- The draft at the front of a text. -/
def ofText (text : String) : Draft :=
  (takeFront text.toList).1

end Draft

/-- The document that makes up a text. -/
def Document.read? (text : String) : Option Document :=
  match Draft.takeFront text.toList with
  | (draft, some rest) => if rest.all Draft.isSpace then draft.toDocument? else none
  | (_, none) => none

end Lodging
