/-!
# Splitting text

`splitChars` cuts a text at every separator; the parts, with the separators put back between them, are
the text again. There is one part more than there are separators.
-/
namespace Checkup.Text

/-- The parts of a text between its separators, empty ones included. -/
def splitChars (separator : Char) : List Char → List (List Char)
  | [] => [[]]
  | c :: cs =>
    if c = separator then [] :: splitChars separator cs
    else match splitChars separator cs with
      | [] => [[c]]
      | part :: parts => (c :: part) :: parts

/-- The parts of a text between its separators. -/
def split (separator : Char) (s : String) : List String :=
  (splitChars separator s.toList).map String.ofList

/-- The text before the first separator and the text after it, if there is a separator. -/
def splitOnce? (separator : Char) (cs : List Char) : Option (List Char × List Char) :=
  match cs.dropWhile (· != separator) with
  | [] => none
  | _ :: rest => some (cs.takeWhile (· != separator), rest)

/-- The text without a character that is repeated at its end. -/
def withoutTrailing (c : Char) (s : String) : String :=
  String.ofList (s.toList.reverse.dropWhile (· == c)).reverse

end Checkup.Text
