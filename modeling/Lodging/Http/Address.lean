import Lodging.Document.Decode
import Lodging.Text.Pieces
import Lodging.Text.Utf8

/-! # Addresses

The address of a request is a path and a query; the name of a host may precede
them, and a fragment behind them is left out. The path is cut at its slashes, and
the query is a list of named texts in the encoding of forms.
-/

namespace Lodging.Http

open Text

/-- The character may stand in the name of a scheme. -/
def isSchemeChar (c : Char) : Bool :=
  c.isAlphanum || c == '+' || c == '-' || c == '.'

/-- The path and the query of an address. -/
def resource (address : String) : List Char :=
  let chars := (cut '#' address.toList).1
  match chars.dropWhile isSchemeChar with
  | ':' :: '/' :: '/' :: rest => rest.dropWhile fun c => c != '/' && c != '?'
  | _ => chars

def pathOf (address : String) : List Char :=
  (cut '?' (resource address)).1

def queryOf (address : String) : List Char :=
  (cut '?' (resource address)).2

/-- The segments of a path that starts with a slash. -/
def segments (path : List Char) : List String :=
  match pieces '/' path with
  | [] :: rest => rest.map String.ofList
  | _ => []

def segmentText? (segment : String) : Option String :=
  (ofUtf8? (percentDecoded segment.toList)).map String.ofList

/-- The text of a name or value of a form. -/
def formText (chars : List Char) : String :=
  String.ofList (ofUtf8Lossy (percentDecoded (chars.map fun c => if c = '+' then ' ' else c)))

/-- The named texts of a query. -/
def formEntries (query : List Char) : List (String × Document) :=
  ((pieces '&' query).filter (!·.isEmpty)).map fun piece =>
    let (name, value) := cut '=' piece
    (formText name, .text (formText value))

def flag : Decoder Bool
  | .text "true" => .ok true
  | .text "false" => .ok false
  | _ => .error .shape

end Lodging.Http
