import Lodging.Binary64.Shortest
import Lodging.Document.DecodeError
import Lodging.Document.Draft
import Lodging.Id

/-! # Values from documents

A decoder takes a document for a value or says what is wrong with it. What it is
given is the draft of a document, of which it looks at the parts in the order in
which they are written; so a value that does not fit is told of before a place
behind it at which the text breaks off, and the other way round. A record of
named fields is described by `Fields`: its entries are looked at one after
another, and only then are missing fields reported, in the order of their
declaration. A list may stand for a record, its elements being the fields in that
order.
-/

namespace Lodging

/-- A reading of documents as values. -/
abbrev Decoder (α : Type) := Draft → Except DecodeError α

namespace Decoder

/-- Why a draft is refused where a value of another kind is wanted. -/
def mismatch : Draft → DecodeError
  | .broken | .flawed => .malformed
  | _ => .shape

def text : Decoder String
  | .text value => .ok value
  | other => .error (mismatch other)

def bool : Decoder Bool
  | .bool value => .ok value
  | other => .error (mismatch other)

def bounded (least most : Int) : Decoder Int
  | .integer value => if least ≤ value ∧ value ≤ most then .ok value else .error .shape
  | other => .error (mismatch other)

def int32 : Decoder Int :=
  bounded (-Nat.pow 2 31) (Nat.pow 2 31 - 1)

def int64 : Decoder Int :=
  bounded (-Nat.pow 2 63) (Nat.pow 2 63 - 1)

def nat32 : Decoder Nat := fun draft =>
  (bounded 0 (Nat.pow 2 32 - 1) draft).map Int.toNat

/-- A decimal: an integer, the shortest decimal of a double precision number, or
decimal text. -/
def decimal : Decoder Decimal
  | .integer value =>
      match Decimal.ofInt? value with
      | some number => .ok number
      | none => .error .shape
  | .real value => (Decimal.read value.plain).mapError fun _ => .shape
  | .text value => (Decimal.read value).mapError fun _ => .shape
  | other => .error (mismatch other)

def date : Decoder Date := fun draft => do
  (Date.read (← text draft)).mapError .date

def id : Decoder Id := fun draft => do
  match Id.read? (← text draft) with
  | some id => .ok id
  | none => .error .shape

def listOf {α : Type} (element : Decoder α) : Decoder (List α)
  | .list elements => elements.mapM element
  | other => .error (mismatch other)

/-- A value or null. -/
def nullable {α : Type} (value : Decoder α) : Decoder (Option α)
  | .null => .ok none
  | draft => (value draft).map some

/-- One of the named choices; `fallback` stands for any other name. A choice is
written as its name, or as a record whose only entry is the name with nothing in
it; nothing else is taken for the beginning of a choice. -/
def choice {α : Type} (choices : List (String × α)) (fallback : Option α) : Decoder α
  | .text name =>
      match (choices.lookup name).or fallback with
      | none => .error (.unknownVariant name (choices.map (·.1)))
      | some value => .ok value
  | .record ((some name, content) :: rest) =>
      match (choices.lookup name).or fallback with
      | none =>
          .error (if rest.isEmpty then .unknownVariant name (choices.map (·.1)) else .shape)
      | some value =>
          match content with
          | .null => if rest.isEmpty then .ok value else .error .malformed
          | other => .error (mismatch other)
  | .record ((none, other) :: _) => .error (mismatch other)
  | _ => .error .malformed

/-- One of the values of an enumeration, given their names. -/
def oneOf {α : Type} (values : List α) (name : α → String) : Decoder α :=
  choice (values.map fun value => (name value, value)) none

/-- Any document, in canonical form. -/
def any : Decoder Document := fun draft =>
  match draft.toDocument? with
  | some document => .ok document.canonical
  | none => .error .malformed

end Decoder

/-- A description of the fields of a record. -/
structure Fields (α : Type) where
  /-- The names of the fields with the checks of their values. -/
  checks : List (String × Decoder Unit)
  /-- The value made of the entries of a record. -/
  ofEntries : (String → Option Draft) → Except DecodeError α
  /-- The value made of the first elements of a list, and the other elements. -/
  ofElements : List Draft → Except DecodeError (α × List Draft)

namespace Fields

/-- Fields are put together in the order of their declaration. -/
instance : Applicative Fields where
  pure value :=
    { checks := []
      ofEntries := fun _ => .ok value
      ofElements := fun elements => .ok (value, elements) }
  seq first second :=
    { checks := first.checks ++ (second ()).checks
      ofEntries := fun entries => do
        let make ← first.ofEntries entries
        let value ← (second ()).ofEntries entries
        .ok (make value)
      ofElements := fun elements => do
        let (make, elements) ← first.ofElements elements
        let (value, elements) ← (second ()).ofElements elements
        .ok (make value, elements) }

variable {α : Type}

/-- A field with what it is when absent from a record and from a list. -/
def field (name : String) (value : Decoder α) (absent missing : Except DecodeError α) :
    Fields α where
  checks := [(name, fun draft => (value draft).map fun _ => ())]
  ofEntries := fun entries =>
    match entries name with
    | some draft => value draft
    | none => absent
  ofElements := fun elements =>
    match elements with
    | [] => missing.map fun value => (value, [])
    | element :: rest => (value element).map fun value => (value, rest)

def required (name : String) (value : Decoder α) : Fields α :=
  field name value (.error (.missing name)) (.error .shape)

/-- A field that may be missing or null. -/
def optional (name : String) (value : Decoder α) : Fields (Option α) :=
  field name (Decoder.nullable value) (.ok none) (.error .shape)

/-- A field that may be missing, from a list as well, or null. -/
def omissible (name : String) (value : Decoder α) : Fields (Option α) :=
  field name (Decoder.nullable value) (.ok none) (.ok none)

/-- A field that has a default when it is missing; null is refused. -/
def defaulted (name : String) (value : Decoder α) (default : α) : Fields α :=
  field name value (.ok default) (.ok default)

/-- Looks at the entries of a record from the first to the last. The name of a
field seen twice is refused, and so is an entry whose value does not fit its
field; one passes over entries of other names as far as that is possible. -/
def checkEntries (checks : List (String × Decoder Unit)) (seen : List String) :
    List (Option String × Draft) → Except DecodeError Unit
  | [] => .ok ()
  | (none, _) :: _ => .error .malformed
  | (some name, value) :: rest =>
      match checks.lookup name with
      | none => if value.isPassable then checkEntries checks seen rest else .error .malformed
      | some check => do
          if seen.contains name then .error (.repeated name)
          else
            check value
            checkEntries checks (name :: seen) rest

/-- The value that a record or a list of fields describes. -/
def decode (fields : Fields α) : Decoder α
  | .record entries => do
      checkEntries fields.checks [] entries
      fields.ofEntries fun name => Draft.entry? name entries
  | .list elements => do
      match ← fields.ofElements elements with
      | (value, []) => .ok value
      | _ => .error .malformed
  | other => .error (Decoder.mismatch other)

end Fields

end Lodging
