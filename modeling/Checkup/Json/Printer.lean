import Checkup.Json.Value
import Checkup.Numeric.Shortest

/-!
# Writing JSON

The compact form has no gaps; the indented form puts every item and member on a line of its own, two
blanks deeper than what encloses it, and leaves empty arrays and objects closed. Members are written in
the order in which the value holds them. In strings the quote, the backslash and the control characters
below U+0020 are escaped, everything else is written as it is.
-/
namespace Checkup.Json

/-- One character inside a string literal. -/
def escapeChar (c : Char) : List Char :=
  if c = '"' then ['\\', '"']
  else if c = '\\' then ['\\', '\\']
  else if c.toNat = 8 then ['\\', 'b']
  else if c.toNat = 12 then ['\\', 'f']
  else if c = '\n' then ['\\', 'n']
  else if c = '\r' then ['\\', 'r']
  else if c = '\t' then ['\\', 't']
  else if c.toNat < 32 then ['\\', 'u', '0', '0', Text.hexDigit (c.toNat / 16), Text.hexDigit (c.toNat % 16)]
  else [c]

def quote (s : String) : List Char := '"' :: (s.toList.flatMap escapeChar ++ ['"'])

/-- A finite double as digits and a power of ten, the sign in front. -/
def doubleChars : Double → List Char
  | .finite s m e =>
    let (digits, k) := if m = 0 then (0, 0) else Double.shortest m e
    (if s then ['-'] else []) ++ Text.decimal digits ++ 'e' :: (Text.intText k).toList
  | _ => ['n', 'u', 'l', 'l']

def Number.chars : Number → List Char
  | .natural n => Text.decimal n
  | .negative n => '-' :: Text.decimal n
  | .double d => doubleChars d

mutual

/-- The compact text of a value. -/
def Value.compact : Value → List Char
  | .null => ['n', 'u', 'l', 'l']
  | .bool true => ['t', 'r', 'u', 'e']
  | .bool false => ['f', 'a', 'l', 's', 'e']
  | .number n => n.chars
  | .string s => quote s
  | .array items => '[' :: (compactItems items ++ [']'])
  | .object members => '{' :: (compactMembers members ++ ['}'])

/-- Items with a comma between neighbours. -/
def compactItems : List Value → List Char
  | [] => []
  | v :: [] => v.compact
  | v :: w :: rest => v.compact ++ ',' :: compactItems (w :: rest)

/-- Members with a comma between neighbours. -/
def compactMembers : List (String × Value) → List Char
  | [] => []
  | (key, v) :: [] => quote key ++ ':' :: v.compact
  | (key, v) :: m :: rest => quote key ++ ':' :: v.compact ++ ',' :: compactMembers (m :: rest)

end

/-- A line break and the indentation of a nesting depth. -/
def lineBreak (depth : Nat) : List Char := '\n' :: List.replicate (2 * depth) ' '

mutual

/-- The indented text of a value at a nesting depth. -/
def Value.indented (depth : Nat) : Value → List Char
  | .array [] => ['[', ']']
  | .array (v :: rest) => '[' :: (indentedItems (depth + 1) (v :: rest) ++ lineBreak depth ++ [']'])
  | .object [] => ['{', '}']
  | .object (m :: rest) => '{' :: (indentedMembers (depth + 1) (m :: rest) ++ lineBreak depth ++ ['}'])
  | .null => Value.compact .null
  | .bool b => (Value.bool b).compact
  | .number n => n.chars
  | .string s => quote s

/-- Items on lines of their own, with a comma behind all but the last. -/
def indentedItems (depth : Nat) : List Value → List Char
  | [] => []
  | v :: [] => lineBreak depth ++ v.indented depth
  | v :: w :: rest => lineBreak depth ++ v.indented depth ++ ',' :: indentedItems depth (w :: rest)

/-- Members on lines of their own, with a comma behind all but the last. -/
def indentedMembers (depth : Nat) : List (String × Value) → List Char
  | [] => []
  | (key, v) :: [] => lineBreak depth ++ quote key ++ ':' :: ' ' :: v.indented depth
  | (key, v) :: m :: rest =>
    lineBreak depth ++ quote key ++ ':' :: ' ' :: v.indented depth ++ ',' ::
      indentedMembers depth (m :: rest)

end

def Value.text (v : Value) : String := String.ofList v.compact

def Value.prettyText (v : Value) : String := String.ofList (v.indented 0)

end Checkup.Json
