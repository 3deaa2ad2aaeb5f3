import Lodging.Text.Alphanumeric
import Lodging.Text.Blank
import Lodging.Text.Digits
import Lodging.Text.Pieces

/-! # Log filters

A filter is a text of directives with commas between them. A directive names a
level, or a target and what of it is concerned, or both: `target[span{field}]=level`.
Of the directives that concern an announcement, the most specific one says up to
which level announcements are shown.
-/

namespace Lodging

/-- How much of a log is shown; the higher, the more. -/
inductive LogLevel where
  | off
  | error
  | warn
  | info
  | debug
  | trace
deriving DecidableEq, Repr

namespace LogLevel

/-- The place of a level, from zero for none. -/
def rank : LogLevel → Nat
  | .off => 0
  | .error => 1
  | .warn => 2
  | .info => 3
  | .debug => 4
  | .trace => 5

/-- The level of a place. -/
def ofRank? : Nat → Option LogLevel
  | 0 => some .off
  | 1 => some .error
  | 2 => some .warn
  | 3 => some .info
  | 4 => some .debug
  | 5 => some .trace
  | _ => none

/-- The level of a name, in letters of either case. -/
def ofName? (name : List Char) : Option LogLevel :=
  match (String.ofList name).toLower with
  | "off" => some .off
  | "error" => some .error
  | "warn" => some .warn
  | "info" => some .info
  | "debug" => some .debug
  | "trace" => some .trace
  | _ => none

/-- The level of a number, which may have a plus sign. -/
def ofNumber? (number : List Char) : Option LogLevel :=
  let digits := match number with
    | '+' :: rest => rest
    | rest => rest
  if digits.isEmpty || !digits.all Text.isDigit then none else ofRank? (Text.valueOf digits)

/-- The level of a name or a number. -/
def ofChars? (chars : List Char) : Option LogLevel :=
  (ofNumber? chars).or (ofName? chars)

end LogLevel

/-- What a filter says of some announcements. -/
structure LogDirective where
  /-- What the names of the parts of the program concerned begin with. -/
  target : Option (List Char)
  /-- The fields that an announcement must have. -/
  fields : List (List Char)
  /-- Only announcements of a certain task, or with a certain content, are
  concerned. -/
  conditional : Bool
  level : LogLevel
deriving DecidableEq, Repr

namespace LogDirective

/-- The character may begin a directive that does not begin with a bracket. -/
def isStart (c : Char) : Bool :=
  Text.isAlphanumeric c || c == '-' || c == ':' || c == '_'

/-- The text of a directive. Where its parts begin and end is counted from its
first character that is no blank, but the parts are cut out of the whole text. -/
structure Written where
  whole : List Char
  body : List Char

namespace Written

/-- A text as that of a directive. -/
def ofChars (chars : List Char) : Written where
  whole := chars
  body := Text.trimChars chars

/-- The part from one place up to another. -/
def part (written : Written) (first behind : Nat) : List Char :=
  (written.whole.drop first).take (behind - first)

/-- The part from a place on. -/
def ending (written : Written) (first : Nat) : List Char :=
  written.whole.drop first

/-- The first place, from a given one on, at which one of some characters
stands, and that character. -/
def find? (written : Written) (first : Nat) (marks : List Char) : Option (Nat × Char) :=
  let passed := (written.body.drop first).takeWhile (!marks.contains ·)
  (written.body[first + passed.length]?).map fun c => (first + passed.length, c)

/-- The level from a place on; none there stands for all of them. -/
def level? (written : Written) (first : Nat) : Option LogLevel :=
  let chars := written.ending first
  if chars.isEmpty then some .trace else LogLevel.ofChars? chars

/-- The level that an equals sign at a place announces; the text may end there. -/
def levelBehind? (written : Written) (place : Nat) : Option LogLevel :=
  match written.body[place]? with
  | none => some .trace
  | some '=' => written.level? (place + 1)
  | some _ => none

/-- The directive for a field, whose name begins at a place. A field with a value
is one for certain contents. -/
def field? (written : Written) (target : Option (List Char)) (ofTask : Bool) (first : Nat) :
    Option LogDirective := do
  let (behind, _) ← written.find? first ['\x7d']
  let field := written.part first behind
  guard (first < behind ∧ written.body[behind + 1]? = some ']')
  let level ← written.levelBehind? (behind + 2)
  some
    { target
      fields := [field.takeWhile (· != '=')]
      conditional := ofTask || field.contains '='
      level }

/-- The directive for a task or a field, of which the part in brackets begins at a
place. -/
def bracketed? (written : Written) (target : Option (List Char)) (first : Nat) :
    Option LogDirective := do
  match ← written.find? first [']', '\x7b'] with
  | (behind, ']') =>
      let level ← written.levelBehind? (behind + 1)
      some { target, fields := [], conditional := true, level }
  | (behind, _) => written.field? target (first < behind) (behind + 1)

/-- The directive of a text. A text without marks is that of a level, and
otherwise that of a target of which everything is shown. -/
def directive? (written : Written) : Option LogDirective :=
  match written.body.head? with
  | none => none
  | some '[' => written.bracketed? none 1
  | some c =>
      if !isStart c then none
      else
        match written.find? 0 ['=', '['] with
        | some (behind, '=') => (written.level? (behind + 1)).map fun level =>
            { target := some (written.part 0 behind), fields := [], conditional := false, level }
        | some (behind, _) => written.bracketed? (some (written.part 0 behind)) (behind + 1)
        | none =>
            match LogLevel.ofChars? written.whole with
            | some level => some { target := none, fields := [], conditional := false, level }
            | none =>
                some
                  { target := some written.whole
                    fields := []
                    conditional := false
                    level := .trace }

end Written

def read? (chars : List Char) : Option LogDirective :=
  (Written.ofChars chars).directive?

def messageField : List Char := "message".toList

/-- The directive concerns the announcements of a part of the program. -/
def concerns (directive : LogDirective) (name : List Char) : Bool :=
  !directive.conditional && directive.fields.all (· == messageField) &&
    (directive.target.all fun target => target.isPrefixOf name)

/-- A directive is at least as specific as another: its target is longer, or as
long and its fields are as many. -/
def covers (directive other : LogDirective) : Bool :=
  let length (directive : LogDirective) := (directive.target.map (·.length + 1)).getD 0
  length other < length directive ||
    (length other == length directive && other.fields.length ≤ directive.fields.length)

end LogDirective

abbrev LogFilter := List LogDirective

namespace LogFilter

/-- The filter in force when none is given. -/
def default : LogFilter :=
  [{ target := some "hotel_rates".toList, fields := [], conditional := false, level := .info }]

/-- The filter of a text. A directive that cannot be read makes the whole filter
void; none at all leaves errors alone. -/
def read (text : String) : LogFilter :=
  let written := (Text.pieces ',' text.toList).filter (!·.isEmpty)
  if written.isEmpty then
    [{ target := none, fields := [], conditional := false, level := .error }]
  else (written.mapM LogDirective.read?).getD default

/-- The level up to which a part of the program is shown: that of the most
specific directive for it, the last one of equals. -/
def levelOf (filter : LogFilter) (name : String) : LogLevel :=
  let chosen := (filter.filter (·.concerns name.toList)).foldl
    (fun (best : Option LogDirective) directive =>
      match best with
      | none => some directive
      | some other => if directive.covers other then some directive else some other)
    none
  (chosen.map (·.level)).getD .off

/-- Announcements of a part of the program are shown. -/
def showsInfo (filter : LogFilter) (name : String) : Bool :=
  LogLevel.rank .info ≤ (filter.levelOf name).rank

end LogFilter

end Lodging
