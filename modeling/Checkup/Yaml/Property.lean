import Checkup.Text.Hexadecimal
import Checkup.Text.Utf8
import Checkup.Yaml.Spot
import Checkup.Yaml.Token

/-!
# Anchors, tags and directives

What may stand before a node: a name by which it is repeated elsewhere, and a tag that says of what kind
it is. A tag is a handle and a suffix; the directives before a document say what its handles stand for.
-/
namespace Checkup.Yaml

/-! ## Anchors -/

/-- Signs that may follow a name directly. -/
def endsName (c : Char) : Bool := isGap c || "?:,]\x7d%@\u0060".toList.contains c

/-- The name of an anchor or an alias, from behind its sign. -/
def readName? (spots : List Spot) : Option (String × List Spot) :=
  let (name, rest) := spanSpots isWord spots
  if name.isEmpty ∨ !endsName (peek rest) then none else some (String.ofList name, rest)

/-! ## Tags -/

/-- Whether a character may stand in a tag as it is; between angle brackets some more may. -/
def isTagChar (isVerbatim : Bool) (c : Char) : Bool :=
  isWord c || ";/?:@&=+$.!~*'()".toList.contains c || (isVerbatim && ",[]".toList.contains c)

/-- The number of bytes that a leading byte of a character announces, itself included. -/
def announced? (octet : Nat) : Option Nat :=
  if octet < 0x80 then some 1
  else if octet / 0x20 = 6 then some 2
  else if octet / 0x10 = 14 then some 3
  else if octet / 8 = 30 then some 4
  else none

/-- The bytes of a character with one more, and how many are missing. -/
def nextOctet? (bytes : List UInt8) (missing octet : Nat) : Option (List UInt8 × Nat) :=
  if missing = 0 then (announced? octet).map fun n => ([UInt8.ofNat octet], n - 1)
  else if octet / 0x40 = 2 then some (bytes ++ [UInt8.ofNat octet], missing - 1)
  else none

/-- The characters of a tag at the front, with the bytes of escaped ones put together. -/
def readTagText (isVerbatim : Bool) (bytes : List UInt8) (missing : Nat) :
    List Spot → Option (List Char × List Spot)
  | [] => if missing = 0 then some ([], []) else none
  | s :: rest =>
    if s.char = '%' then
      match rest with
      | high :: low :: rest' =>
        match Text.hexValue? high.char, Text.hexValue? low.char with
        | some h, some l =>
          match nextOctet? bytes missing (h * 16 + l) with
          | none => none
          | some (bytes, missing) =>
            let decoded := if missing = 0 then Text.Utf8.decode bytes else []
            (readTagText isVerbatim bytes missing rest').map fun p => (decoded ++ p.1, p.2)
        | _, _ => none
      | _ => none
    else if missing ≠ 0 then none
    else if isTagChar isVerbatim s.char then
      (readTagText isVerbatim bytes missing rest).map fun p => (s.char :: p.1, p.2)
    else some ([], s :: rest)

/-- A text of a tag that must not be empty. -/
def tagText? (isVerbatim : Bool) (spots : List Spot) : Option (List Char × List Spot) :=
  (readTagText isVerbatim [] 0 spots).filter (!·.1.isEmpty)

/-- What may be a handle: an exclamation mark, a word, and another mark if there is one. -/
def spanHandle (spots : List Spot) : List Char × List Spot :=
  let (word, rest) := spanSpots isWord (spots.drop 1)
  if peek rest = '!' then ('!' :: word ++ ['!'], rest.drop 1) else ('!' :: word, rest)

/-- Whether a text that may be a handle ends in a mark of its own. -/
def isHandle (handle : List Char) : Bool := 1 < handle.length && handle.getLast? == some '!'

/-- The handle and the suffix of a tag, from its first mark on. -/
def splitTag? (spots : List Spot) : Option (List Char × List Char × List Spot) := do
  if peekAt 1 spots = '<' then
    let (text, rest) ← tagText? true (spots.drop 2)
    if peek rest = '>' then return ([], text, rest.drop 1) else none
  else
    let (handle, rest) := spanHandle spots
    if isHandle handle then
      let (suffix, rest) ← tagText? false rest
      return (handle, suffix, rest)
    else
      let (text, rest) ← readTagText false [] 0 rest
      let suffix := handle.drop 1 ++ text
      return if suffix.isEmpty then ([], ['!'], rest) else (['!'], suffix, rest)

/-- A tag, from its first mark on; a gap must follow it, or a comma between brackets or braces. -/
def readTag? (inFlow : Bool) (spots : List Spot) : Option (Token × List Spot) := do
  let (handle, suffix, rest) ← splitTag? spots
  let c := peek rest
  if isGap c || (inFlow && c == ',') then
    return (.tag (String.ofList handle) (String.ofList suffix), rest)
  else none

/-! ## Directives -/

/-- The most digits of a number in a version. -/
def maxVersionDigits : Nat := 9

/-- A number of a version. -/
def readVersionNumber? (spots : List Spot) : Option (Nat × List Spot) :=
  let (digits, rest) := spanSpots Char.isDigit spots
  if digits.isEmpty ∨ maxVersionDigits < digits.length then none
  else some (digits.foldl (fun n d => n * 10 + (d.toNat - '0'.toNat)) 0, rest)

/-- The version that a directive names. -/
def readVersion? (spots : List Spot) : Option (Token × List Spot) := do
  let (major, rest) ← readVersionNumber? (skipBlanks spots)
  if peek rest = '.' then
    let (minor, rest) ← readVersionNumber? (rest.drop 1)
    return (.version major minor, rest)
  else none

/-- The handle that a directive gives a meaning, and the meaning. -/
def readTagHandle? (spots : List Spot) : Option (Token × List Spot) := do
  let spots := skipBlanks spots
  let (handle, rest) := spanHandle spots
  if peek spots = '!' ∧ (isHandle handle ∨ handle = ['!']) ∧ isBlank (peek rest) then
    let (replacement, rest) ← tagText? true (skipBlanks rest)
    if isGap (peek rest) then
      return (.tagHandle (String.ofList handle) (String.ofList replacement), rest)
    else none
  else none

/-- A directive, from its percent sign to the end of its line. -/
def readDirective? (spots : List Spot) : Option (Token × List Spot) := do
  let (name, rest) := spanSpots isWord (spots.drop 1)
  if !isGap (peek rest) then none
  else
    let (token, rest) ← match String.ofList name with
      | "YAML" => readVersion? rest
      | "TAG" => readTagHandle? rest
      | _ => none
    return (token, ← skipLine? rest)

end Checkup.Yaml
