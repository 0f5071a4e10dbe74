import Checkup.Text.Hexadecimal

/-!
# The syntax of JSON texts

`Syntax` is what the grammar of JSON says about a text, before any meaning is given to it: strings
keep their escaped code units, numbers their digits, objects their members in order and with
repetitions. Nothing here limits nesting, pairs surrogates or bounds numbers: those are rules of the
reader that gives meaning to a part of a document, and a part that nobody reads is held to the grammar
alone.

`Syntax.parse?` accepts exactly one value, with blanks around it, and refuses any text behind it.
-/
namespace Checkup.Json

/-- A piece of a string literal: a character, or a UTF-16 code unit given as `\uXXXX`. -/
inductive Piece where
  | char (c : Char)
  | unit (code : Nat)
  deriving DecidableEq, Repr

/-- A number as it is spelled: its digits before the point, after the point, and in the exponent. -/
structure Numeral where
  negative : Bool
  whole : List Char
  fraction : Option (List Char)
  exponent : Option (Bool × List Char)
  deriving DecidableEq, Repr

/-- A JSON text as the grammar sees it. -/
inductive Syntax where
  | null
  | bool (b : Bool)
  | number (n : Numeral)
  | string (s : List Piece)
  | array (items : List Syntax)
  | object (members : List (List Piece × Syntax))
  deriving Repr

/-- The four characters that may stand between the tokens of a JSON text. -/
def isGap (c : Char) : Bool := c == ' ' || c == '\n' || c == '\t' || c == '\r'

/-- The text behind leading gaps. -/
def skipGap (cs : List Char) : List Char := cs.dropWhile isGap

/-- The number that four hexadecimal digits spell. -/
def hexUnit? (a b c d : Char) : Option Nat := do
  let a ← Text.hexValue? a
  let b ← Text.hexValue? b
  let c ← Text.hexValue? c
  let d ← Text.hexValue? d
  return ((a * 16 + b) * 16 + c) * 16 + d

/-- The character that a one-letter escape stands for. -/
def escaped? : Char → Option Char
  | '"' => some '"'
  | '\\' => some '\\'
  | '/' => some '/'
  | 'b' => some (Char.ofNat 8)
  | 'f' => some (Char.ofNat 12)
  | 'n' => some '\n'
  | 'r' => some '\r'
  | 't' => some '\t'
  | _ => none

/-- The rest of a string literal, from behind its opening quote; control characters must be escaped. -/
def readString : List Char → Option (List Piece × List Char)
  | [] => none
  | '"' :: rest => some ([], rest)
  | '\\' :: 'u' :: a :: b :: c :: d :: rest => do
    let code ← hexUnit? a b c d
    let (pieces, rest) ← readString rest
    return (.unit code :: pieces, rest)
  | '\\' :: e :: rest => do
    let c ← escaped? e
    let (pieces, rest) ← readString rest
    return (.char c :: pieces, rest)
  | c :: rest =>
    if c.toNat < 32 || c == '\\' then none
    else do
      let (pieces, rest) ← readString rest
      return (.char c :: pieces, rest)

/-- The digits at the front of a text, and what follows them. -/
def splitDigits (cs : List Char) : List Char × List Char := cs.span Char.isDigit

def readDigits (cs : List Char) : Option (List Char × List Char) :=
  let (ds, rest) := splitDigits cs
  if ds.isEmpty then none else some (ds, rest)

/-- Zero alone, or digits that do not start with zero. -/
def readWhole (cs : List Char) : Option (List Char × List Char) := do
  let (ds, rest) ← readDigits cs
  if ds.head? == some '0' && ds.length != 1 then none else some (ds, rest)

/-- The fraction, if a point follows. -/
def readFraction : List Char → Option (Option (List Char) × List Char)
  | '.' :: rest => do
    let (ds, rest) ← readDigits rest
    return (some ds, rest)
  | rest => some (none, rest)

/-- The exponent, if one follows, with whether it is negative. -/
def readExponent : List Char → Option (Option (Bool × List Char) × List Char)
  | c :: rest =>
    if c == 'e' || c == 'E' then do
      let (negative, rest) := match rest with
        | '-' :: rest => (true, rest)
        | '+' :: rest => (false, rest)
        | rest => (false, rest)
      let (ds, rest) ← readDigits rest
      return (some (negative, ds), rest)
    else some (none, c :: rest)
  | [] => some (none, [])

def readNumeral (cs : List Char) : Option (Numeral × List Char) := do
  let (negative, cs) := match cs with
    | '-' :: rest => (true, rest)
    | cs => (false, cs)
  let (whole, cs) ← readWhole cs
  let (fraction, cs) ← readFraction cs
  let (exponent, cs) ← readExponent cs
  return (⟨negative, whole, fraction, exponent⟩, cs)

mutual

/-- A value, from its first character. Each level of nesting takes fuel. -/
def readValue : Nat → List Char → Option (Syntax × List Char)
  | 0, _ => none
  | fuel + 1, cs =>
    match cs with
    | 'n' :: 'u' :: 'l' :: 'l' :: rest => some (.null, rest)
    | 't' :: 'r' :: 'u' :: 'e' :: rest => some (.bool true, rest)
    | 'f' :: 'a' :: 'l' :: 's' :: 'e' :: rest => some (.bool false, rest)
    | '"' :: rest => do
      let (s, rest) ← readString rest
      return (.string s, rest)
    | '[' :: rest =>
      match skipGap rest with
      | ']' :: rest => some (.array [], rest)
      | rest => do
        let (items, rest) ← readItems fuel rest
        return (.array items, rest)
    | '{' :: rest =>
      match skipGap rest with
      | '}' :: rest => some (.object [], rest)
      | rest => do
        let (members, rest) ← readMembers fuel rest
        return (.object members, rest)
    | cs => do
      let (n, rest) ← readNumeral cs
      return (.number n, rest)

/-- The items of an array, from the first one to behind the closing bracket. -/
def readItems : Nat → List Char → Option (List Syntax × List Char)
  | 0, _ => none
  | fuel + 1, cs => do
    let (item, rest) ← readValue fuel cs
    match skipGap rest with
    | ']' :: rest => return ([item], rest)
    | ',' :: rest =>
      let (items, rest) ← readItems fuel (skipGap rest)
      return (item :: items, rest)
    | _ => none

/-- The members of an object, from the first one to behind the closing brace. -/
def readMembers : Nat → List Char → Option (List (List Piece × Syntax) × List Char)
  | 0, _ => none
  | fuel + 1, cs => do
    let '"' :: rest := cs | none
    let (key, rest) ← readString rest
    let ':' :: rest := skipGap rest | none
    let (value, rest) ← readValue fuel (skipGap rest)
    match skipGap rest with
    | '}' :: rest => return ([(key, value)], rest)
    | ',' :: rest =>
      let (members, rest) ← readMembers fuel (skipGap rest)
      return ((key, value) :: members, rest)
    | _ => none

end

/-- The syntax of a text that is one JSON value with nothing but gaps around it. Two units of fuel
for each character are enough, since every second step takes a character. -/
def Syntax.parseChars? (cs : List Char) : Option Syntax := do
  let (s, rest) ← readValue (2 * cs.length + 2) (skipGap cs)
  if (skipGap rest).isEmpty then some s else none

/-- The syntax of a JSON text. -/
def Syntax.parse? (text : String) : Option Syntax := parseChars? text.toList

end Checkup.Json
