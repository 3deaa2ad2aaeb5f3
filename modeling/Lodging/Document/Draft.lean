import Lodging.Document.Basic

/-! # Drafts

A draft is what has been read of a text before anyone knows what it is wanted
for. Where the text stops making sense a draft is broken, and nothing behind that
place is in it; where the text makes sense but stands for no value it is flawed.
Whoever looks at the parts of a draft one after another meets the first thing
wrong with them in the order of the text. A draft without such places is a
document (`Draft.toDocument?`), and every document is a draft.
-/

namespace Lodging

/-- What has been read of a text. -/
inductive Draft where
  /-- Nothing can be made out from here on. -/
  | broken
  /-- A number, text, list or record that stands for no value: it is out of range,
  contains half a character, or lies too deep. -/
  | flawed
  | null
  | bool (value : Bool)
  | integer (value : Int)
  | real (value : Binary64)
  | text (value : String)
  | list (elements : List Draft)
  /-- The entries of a record. One without a name has in its place what the text
  has where the name should be. -/
  | record (entries : List (Option String × Draft))
deriving Repr, Inhabited

namespace Draft

mutual

def ofDocument : Document → Draft
  | .null => .null
  | .bool value => .bool value
  | .integer value => .integer value
  | .real value => .real value
  | .text value => .text value
  | .list elements => .list (ofElements elements)
  | .record entries => .record (ofEntries entries)

/-- The drafts of the elements of a list. -/
def ofElements : List Document → List Draft
  | [] => []
  | element :: rest => ofDocument element :: ofElements rest

/-- The drafts of the entries of a record. -/
def ofEntries : List (String × Document) → List (Option String × Draft)
  | [] => []
  | (name, value) :: rest => (some name, ofDocument value) :: ofEntries rest

end

instance : Coe Document Draft := ⟨ofDocument⟩

mutual

/-- The document that a draft without broken or flawed places is. -/
def toDocument? : Draft → Option Document
  | .broken | .flawed => none
  | .null => some .null
  | .bool value => some (.bool value)
  | .integer value => some (.integer value)
  | .real value => some (.real value)
  | .text value => some (.text value)
  | .list elements => (toElements? elements).map .list
  | .record entries => (toEntries? entries).map .record

/-- The documents that drafts are. -/
def toElements? : List Draft → Option (List Document)
  | [] => some []
  | element :: rest =>
      match element.toDocument?, toElements? rest with
      | some document, some documents => some (document :: documents)
      | _, _ => none

/-- The named documents that the entries of a draft are. -/
def toEntries? : List (Option String × Draft) → Option (List (String × Document))
  | [] => some []
  | (none, _) :: _ => none
  | (some name, value) :: rest =>
      match value.toDocument?, toEntries? rest with
      | some document, some documents => some ((name, document) :: documents)
      | _, _ => none

end

mutual

/-- The draft is broken nowhere, so that one may pass over it. -/
def isPassable : Draft → Bool
  | .broken => false
  | .list elements => passableElements elements
  | .record entries => passableEntries entries
  | _ => true

/-- No element is broken. -/
def passableElements : List Draft → Bool
  | [] => true
  | element :: rest => element.isPassable && passableElements rest

/-- No entry is broken. -/
def passableEntries : List (Option String × Draft) → Bool
  | [] => true
  | (_, value) :: rest => value.isPassable && passableEntries rest

end

def entry? (name : String) (entries : List (Option String × Draft)) : Option Draft :=
  (entries.find? (·.1 == some name)).map (·.2)

mutual

/-- A document is the document of its draft. -/
theorem toDocument?_ofDocument (document : Document) :
    (ofDocument document).toDocument? = some document := by
  match document with
  | .null | .bool _ | .integer _ | .real _ | .text _ => rfl
  | .list elements =>
      simp only [ofDocument, toDocument?, toElements?_ofElements elements, Option.map_some]
  | .record entries =>
      simp only [ofDocument, toDocument?, toEntries?_ofEntries entries, Option.map_some]

/-- The elements of a list are the documents of their drafts. -/
theorem toElements?_ofElements (elements : List Document) :
    toElements? (ofElements elements) = some elements := by
  match elements with
  | [] => rfl
  | element :: rest =>
      simp only [ofElements, toElements?, toDocument?_ofDocument element,
        toElements?_ofElements rest]

/-- The entries of a record are the documents of their drafts. -/
theorem toEntries?_ofEntries (entries : List (String × Document)) :
    toEntries? (ofEntries entries) = some entries := by
  match entries with
  | [] => rfl
  | (name, value) :: rest =>
      simp only [ofEntries, toEntries?, toDocument?_ofDocument value, toEntries?_ofEntries rest]

end

mutual

/-- One may pass over the draft of a document. -/
theorem isPassable_ofDocument (document : Document) : (ofDocument document).isPassable = true := by
  match document with
  | .null | .bool _ | .integer _ | .real _ | .text _ => rfl
  | .list elements => simp only [ofDocument, isPassable, passableElements_ofElements elements]
  | .record entries => simp only [ofDocument, isPassable, passableEntries_ofEntries entries]

/-- One may pass over the drafts of the elements of a list. -/
theorem passableElements_ofElements (elements : List Document) :
    passableElements (ofElements elements) = true := by
  match elements with
  | [] => rfl
  | element :: rest =>
      simp only [ofElements, passableElements, isPassable_ofDocument element,
        passableElements_ofElements rest, Bool.and_self]

/-- One may pass over the drafts of the entries of a record. -/
theorem passableEntries_ofEntries (entries : List (String × Document)) :
    passableEntries (ofEntries entries) = true := by
  match entries with
  | [] => rfl
  | (_, value) :: rest =>
      simp only [ofEntries, passableEntries, isPassable_ofDocument value,
        passableEntries_ofEntries rest, Bool.and_self]

end

/-- The draft of a record has the drafts of its entries. -/
theorem entry?_ofEntries (name : String) (entries : List (String × Document)) :
    entry? name (ofEntries entries) = (Document.entry? name entries).map ofDocument := by
  induction entries with
  | nil => rfl
  | cons first rest ih =>
      obtain ⟨other, value⟩ := first
      simp only [ entry?, Document.entry?, ofEntries, List.find?_cons] at ih ⊢
      by_cases same : other = name
      · simp only [same, beq_self_eq_true, Option.map_some]
      · have named : (some other == some name) = false := by simp [same]
        have bare : (other == name) = false := by simp [same]
        simp only [named, bare]
        exact ih

end Draft

end Lodging
