/-! # Media types

What a content type says: the kind of a body and its format, parts of whose name
may stand behind plus signs, and parameters, of which only the form matters here.
A format is a document format if its name, or the name of the format it is built
on, is that of JSON.
-/

namespace Lodging.Http

/-- The kind and the format of a body. -/
structure MediaType where
  kind : List Char
  /-- The name of the format up to its last plus sign. -/
  format : List Char
  /-- What stands behind that sign. -/
  base : Option (List Char)
deriving DecidableEq, Repr

namespace MediaType

/-- A letter, digit or sign of which names and bare values consist. -/
def isNameChar (c : Char) : Bool :=
  c.isAlphanum || "!#$%&'*+-.^_\x60|~".toList.contains c

/-- A character that a quoted value may contain. -/
def isQuotedChar (c : Char) : Bool :=
  32 ≤ c.toNat && c.toNat < 127

/-- How far parameters have been read. -/
inductive ParameterState where
  /-- Before a name. -/
  | start
  /-- In a name. -/
  | name
  /-- Before a value. -/
  | equals
  /-- In a bare value. -/
  | bare
  /-- Behind the quote that opens a value. -/
  | opened
  /-- In a quoted value. -/
  | quoted
  /-- Behind the quote that closes a value. -/
  | closed
deriving DecidableEq, Repr

namespace ParameterState

/-- How far they have been read with one more character. A quoted value has at
least one character, which may be a quote. -/
def next? : ParameterState → Char → Option ParameterState
  | .start, c => if c = ' ' then some .start else if isNameChar c then some .name else none
  | .name, c => if c = '=' then some .equals else if isNameChar c then some .name else none
  | .equals, c => if c = '"' then some .opened else if isNameChar c then some .bare else none
  | .bare, c => if c = ';' then some .start else if isNameChar c then some .bare else none
  | .opened, c => if isQuotedChar c then some .quoted else none
  | .quoted, c => if c = '"' then some .closed else if isQuotedChar c then some .quoted else none
  | .closed, c => if c = ' ' then some .closed else if c = ';' then some .start else none

/-- Parameters may end here. -/
def isEnd : ParameterState → Bool
  | .start | .equals | .bare | .closed => true
  | .name | .opened | .quoted => false

end ParameterState

/-- What follows a format has the form of parameters. -/
def areParameters : List Char → Bool
  | [] => true
  | ';' :: chars => (chars.foldlM ParameterState.next? .start).any ParameterState.isEnd
  | _ => false

/-- The name of a format cut at its last plus sign, except at its beginning. -/
def cutFormat : List Char → List Char × Option (List Char)
  | [] => ([], none)
  | first :: rest =>
      let ending := rest.reverse.takeWhile (· != '+')
      if ending.length = rest.length then (first :: rest, none)
      else (first :: rest.take (rest.length - ending.length - 1), some ending.reverse)

/-- The media type that a content type names. -/
def ofChars? (chars : List Char) : Option MediaType :=
  let kind := chars.takeWhile isNameChar
  match kind, chars.dropWhile isNameChar with
  | _ :: _, '/' :: rest =>
      let name := rest.takeWhile isNameChar
      let ending := rest.dropWhile isNameChar
      if areParameters ending && (!name.isEmpty || ending.isEmpty) then
        let (format, base) := cutFormat name
        some { kind, format, base }
      else none
  | _, _ => none

/-- The media type that a content type names, in letters of either case. -/
def read? (contentType : String) : Option MediaType :=
  ofChars? (contentType.toList.map Char.toLower)

/-- The media type is that of a document. -/
def isDocument (mediaType : MediaType) : Bool :=
  mediaType.kind == "application".toList &&
    (mediaType.format == "json".toList || mediaType.base == some "json".toList)

end MediaType

end Lodging.Http
