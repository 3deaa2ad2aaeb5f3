/-! # Text in pieces

Text cut at a separator: at all places where it stands, or at the first.
-/

namespace Lodging.Text

/-- The pieces between the separators, of which there is one more. -/
def pieces (separator : Char) : List Char → List (List Char)
  | [] => [[]]
  | c :: rest =>
      if c = separator then [] :: pieces separator rest
      else
        match pieces separator rest with
        | [] => [[c]]
        | first :: others => (c :: first) :: others

/-- The characters before the first separator, and those behind it. -/
def cut (separator : Char) (chars : List Char) : List Char × List Char :=
  (chars.takeWhile (· != separator), (chars.dropWhile (· != separator)).drop 1)

end Lodging.Text
