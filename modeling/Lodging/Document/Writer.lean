import Lodging.Document.Basic
import Lodging.Binary64.Shortest
import Lodging.Text.Hex

/-! # Documents as text

The compact JSON text of a document: no space between tokens, entries in their
order, and only those characters escaped that have to be.
-/

namespace Lodging.Document

/-- A character inside a quoted text. -/
def escaped (c : Char) : List Char :=
  match c with
  | '"' => ['\\', '"']
  | '\\' => ['\\', '\\']
  | '\n' => ['\\', 'n']
  | '\r' => ['\\', 'r']
  | '\t' => ['\\', 't']
  | c =>
      if c.toNat = 8 then ['\\', 'b']
      else if c.toNat = 12 then ['\\', 'f']
      else if c.toNat < 32 then
        ['\\', 'u', '0', '0', Text.hexDigit (c.toNat / 16), Text.hexDigit (c.toNat % 16)]
      else [c]

def quoted (text : String) : String :=
  String.ofList ('"' :: text.toList.flatMap escaped ++ ['"'])

mutual

def toText : Document → String
  | .null => "null"
  | .bool true => "true"
  | .bool false => "false"
  | .integer value => Text.ofInt value
  | .real value => value.numeral
  | .text value => quoted value
  | .list elements => "[" ++ ",".intercalate (elementTexts elements) ++ "]"
  | .record entries => "\x7b" ++ ",".intercalate (entryTexts entries) ++ "\x7d"

/-- The texts of the elements of a list. -/
def elementTexts : List Document → List String
  | [] => []
  | element :: rest => element.toText :: elementTexts rest

/-- The texts of the entries of a record. -/
def entryTexts : List (String × Document) → List String
  | [] => []
  | (name, value) :: rest => (quoted name ++ ":" ++ value.toText) :: entryTexts rest

end

end Lodging.Document
