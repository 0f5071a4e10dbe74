/-!
# Blank text

A character is blank when it has the Unicode property `White_Space`; a text is blank when all of its
characters are. Trimming removes the blank characters at both ends and nothing else. Zero-width
characters (U+200B, U+FEFF) do not have the property.
-/
namespace Checkup.Text

/-- The Unicode property `White_Space`. -/
def isBlankChar (c : Char) : Bool :=
  let n := c.toNat
  (9 ≤ n && n ≤ 13) || n == 0x20 || n == 0x85 || n == 0xA0 || n == 0x1680
    || (0x2000 ≤ n && n ≤ 0x200A) || n == 0x2028 || n == 0x2029 || n == 0x202F || n == 0x205F
    || n == 0x3000

/-- The characters left when the blank ones at both ends are gone. -/
def trimChars (cs : List Char) : List Char :=
  ((cs.dropWhile isBlankChar).reverse.dropWhile isBlankChar).reverse

def trim (s : String) : String := String.ofList (trimChars s.toList)

/-- Nothing but blank characters, or nothing at all. -/
def isBlank (s : String) : Bool := s.toList.all isBlankChar

/-- The trimmed text, unless it is empty. -/
def nonBlank? (s : String) : Option String := if isBlank s then none else some (trim s)

end Checkup.Text
