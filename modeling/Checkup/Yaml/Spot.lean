/-!
# Characters and where they stand

The indentation of a document is part of its meaning, so its text is read as a list of characters that
know their line and their column. All line breaks count as one character, and a NUL, which cannot occur
in a document, stands at the end.
-/
namespace Checkup.Yaml

/-- A character with its line and its column, both counted from zero. -/
structure Spot where
  char : Char
  line : Nat
  column : Nat
  deriving DecidableEq, Repr

/-- The character behind the last one of a document. -/
def nul : Char := Char.ofNat 0

/-- A mark that may stand once at the beginning of a text. -/
def byteOrderMark : Char := Char.ofNat 0xFEFF

/-! ## Kinds of characters -/

/-- Whether a character may occur in a document. -/
def isAllowed (c : Char) : Bool :=
  let n := c.toNat
  n == 0x09 || n == 0x0A || n == 0x0D || (0x20 ≤ n && n ≤ 0x7E) || n == 0x85
    || (0xA0 ≤ n && n ≤ 0xFFFD && c != byteOrderMark) || 0x10000 ≤ n

/-- A line feed, a line separator or a paragraph separator. -/
def isBreak (c : Char) : Bool := c == '\n' || c.toNat == 0x2028 || c.toNat == 0x2029

/-- A space or a tab. -/
def isBlank (c : Char) : Bool := c == ' ' || c == '\t'

/-- The end of the document, or a line break in it. -/
def endsLine (c : Char) : Bool := isBreak c || c == nul

/-- What separates tokens: a blank, a line break or the end. -/
def isGap (c : Char) : Bool := isBlank c || endsLine c

/-- Letters, digits, hyphens and underscores. -/
def isWord (c : Char) : Bool := c.isAlphanum || c == '-' || c == '_'

/-! ## Texts -/

/-- The text with a line feed for each return, return with line feed, and next-line character. -/
def unifyBreaks : List Char → List Char
  | [] => []
  | '\r' :: '\n' :: rest => '\n' :: unifyBreaks rest
  | c :: rest => (if c = '\r' ∨ c.toNat = 0x85 then '\n' else c) :: unifyBreaks rest

/-- The characters of a text with their places, from a place on, and the end. -/
def place (line column : Nat) : List Char → List Spot
  | [] => [⟨nul, line, column⟩]
  | c :: rest =>
    ⟨c, line, column⟩ :: (if isBreak c then place (line + 1) 0 rest else place line (column + 1) rest)

/-- The text without a mark at its beginning. -/
def withoutMark (cs : List Char) : List Char :=
  if cs.head? = some byteOrderMark then cs.drop 1 else cs

/-- The characters of a document, if all of them may occur in one. -/
def spots? (text : String) : Option (List Spot) :=
  let cs := withoutMark text.toList
  if cs.all isAllowed then some (place 0 0 (unifyBreaks cs)) else none

/-! ## Looking ahead -/

def peek : List Spot → Char
  | [] => nul
  | s :: _ => s.char

/-- The character behind the first `n` ones. -/
def peekAt (n : Nat) (spots : List Spot) : Char := peek (spots.drop n)

def columnOf : List Spot → Nat
  | [] => 0
  | s :: _ => s.column

def lineOf : List Spot → Nat
  | [] => 0
  | s :: _ => s.line

/-- Whether a line begins here with three times the same sign and a gap. -/
def atMark (sign : Char) (spots : List Spot) : Bool :=
  columnOf spots == 0 && (spots.take 3).map Spot.char == [sign, sign, sign] && isGap (peekAt 3 spots)

/-- Whether a line begins here that separates documents. -/
def atDocumentMark (spots : List Spot) : Bool := atMark '-' spots || atMark '.' spots

/-- The characters at the front that belong to a class, and what follows them. -/
def spanSpots (belongs : Char → Bool) (spots : List Spot) : List Char × List Spot :=
  let (front, rest) := spots.span fun s => belongs s.char
  (front.map Spot.char, rest)

/-- What follows the blanks at the front. -/
def skipBlanks (spots : List Spot) : List Spot := spots.dropWhile fun s => isBlank s.char

/-- What follows a comment, if one stands at the front. -/
def skipComment (spots : List Spot) : List Spot :=
  if peek spots = '#' then spots.dropWhile fun s => !endsLine s.char else spots

/-- What follows the rest of a line, on which nothing but a comment may stand, and its break. -/
def skipLine? (spots : List Spot) : Option (List Spot) :=
  match skipComment (skipBlanks spots) with
  | [] => some []
  | s :: rest =>
    if isBreak s.char then some rest else if s.char = nul then some (s :: rest) else none

end Checkup.Yaml
