import Lodging.Binary64.Basic

/-! # Documents

A document is the value that a request carries or an answer is made of: nothing,
a truth value, a number, a text, a list or a record of named entries. A record
keeps its entries as they were written, a name given twice included;
`Document.canonical` sorts them by name and keeps the last entry of each.
-/

namespace Lodging

/-- A value of the wire format. -/
inductive Document where
  | null
  | bool (value : Bool)
  /-- A number written without point or exponent, within 64 bits. -/
  | integer (value : Int)
  /-- Any other number. -/
  | real (value : Binary64)
  | text (value : String)
  | list (elements : List Document)
  | record (entries : List (String × Document))
deriving Repr, Inhabited

namespace Document

/-- Sets the entry of a name in a list of entries sorted by name. -/
def putSorted (name : String) (value : Document) :
    List (String × Document) → List (String × Document)
  | [] => [(name, value)]
  | (other, kept) :: rest =>
      if name < other then (name, value) :: (other, kept) :: rest
      else if name = other then (name, value) :: rest
      else (other, kept) :: putSorted name value rest

mutual

/-- The document with the entries of every record sorted by name, the last entry
of each name kept. -/
def canonical : Document → Document
  | .list elements => .list (canonicalElements elements)
  | .record entries => .record (canonicalEntries [] entries)
  | other => other

/-- The elements of a list in canonical form. -/
def canonicalElements : List Document → List Document
  | [] => []
  | element :: rest => element.canonical :: canonicalElements rest

/-- Puts entries in canonical form into those sorted so far. -/
def canonicalEntries (sorted : List (String × Document)) :
    List (String × Document) → List (String × Document)
  | [] => sorted
  | (name, value) :: rest => canonicalEntries (putSorted name value.canonical sorted) rest

end

def entry? (name : String) (entries : List (String × Document)) : Option Document :=
  (entries.find? (·.1 == name)).map (·.2)

/-- The entry of a name in a record. -/
def get? (document : Document) (name : String) : Option Document :=
  match document with
  | .record entries => entry? name entries
  | _ => none

/-- A value that may be absent, as itself or null. -/
def orNull {α : Type} (write : α → Document) : Option α → Document
  | none => .null
  | some value => write value

def nat (value : Nat) : Document :=
  .integer value

def texts (values : List String) : Document :=
  .list (values.map .text)

end Document

end Lodging
