import Checkup.Http.Domain.Character
import Checkup.Http.Domain.Composition
import Checkup.Http.Domain.Mapping
import Checkup.Http.Punycode

/-!
# Domain names

A domain name is a row of labels. A label in Punycode counts as the text that it stands for. That text must
not begin with a mark, a joiner must make a difference where it stands, and in a name with text that runs
to the left no label may be shown so that it could be taken for another.
-/
namespace Checkup.Http.Domain

/-- What begins a label in Punycode. -/
def codeStart : List Char := "xn--".toList

def maxLabel : Nat := 1000

def maxCode : Nat := 2000

def isAscii (cs : List Char) : Bool := cs.all (·.toNat < 0x80)

/-- What stands for a text, if all of it may occur. -/
def mapText? (cs : List Char) : Option (List Char) :=
  (cs.mapM mapped?).map fun parts => normalize parts.flatten

/-- The text that a label stands for. Punycode is refused for a text that does not need it and for one that
does not stand for itself. -/
def labelText? (label : List Char) : Option (List Char) :=
  if codeStart.isPrefixOf label then do
    let code := label.drop codeStart.length
    let text ← Punycode.decode? code
    guard (code.length ≤ maxCode)
    guard (!isAscii text && !codeStart.isPrefixOf text)
    guard (mapText? text == some text)
    return text
  else if isAscii label || label.length ≤ maxLabel then some label
  else none

/-- A label in ASCII characters. -/
def asciiLabel (label : List Char) : List Char :=
  if isAscii label then label else codeStart ++ Punycode.encode label

/-! ## Joiners -/

/-- Keeps two letters from being joined. -/
def nonJoiner : Char := Char.ofNat 0x200C

/-- Joins two letters. -/
def joiner : Char := Char.ofNat 0x200D

/-- The class of the marks that take the vowel from a letter. -/
def vowelKiller : Nat := 9

/-- Whether the letter that comes first, if marks are passed over, is joined in one of some ways. -/
def isJoinedTo (joints : List Joint) (cs : List Char) : Bool :=
  ((cs.map joint).find? (· != .transparent)).any joints.contains

/-- Whether every joiner in a text makes a difference, `before` being what stands before the text, last
character first: behind a vowel killer, or, if it parts letters, between two that would be joined. -/
def joinersMatter (before : List Char) : List Char → Bool
  | [] => true
  | c :: cs =>
    let matters :=
      if c = nonJoiner ∨ c = joiner then
        before.head?.any (markClass · = vowelKiller) ||
          (c == nonJoiner && isJoinedTo [.after, .both] before && isJoinedTo [.before, .both] cs)
      else true
    matters && joinersMatter (c :: before) cs

/-! ## Directions -/

/-- Whether a text has characters that run to the left. -/
def runsLeft (cs : List Char) : Bool :=
  (cs.map direction).any fun d => d == .rightToLeft || d == .arabicNumber

/-- Whether a label is safe beside text that runs to the left: all of it runs one way, from its first
character to the last one that is no mark, and with only one kind of numbers if it runs to the left. -/
def keepsDirection (label : List Char) : Bool :=
  match label.map direction with
  | [] => true
  | first :: rest =>
    let body := (rest.reverse.dropWhile (· == .mark)).reverse
    let last := body.getLast?.getD first
    match first with
    | .leftToRight =>
      body.all [.leftToRight, .europeanNumber, .neutral, .mark].contains &&
        [.leftToRight, .europeanNumber].contains last
    | .rightToLeft =>
      body.all [.rightToLeft, .arabicNumber, .europeanNumber, .neutral, .mark].contains &&
        [.rightToLeft, .arabicNumber, .europeanNumber].contains last &&
        !(body.contains .arabicNumber && body.contains .europeanNumber)
    | _ => false

/-! ## Names -/

/-- Whether the text of a label may stand in a domain name. -/
def isLabel (text : List Char) : Bool := !text.head?.any isMark && joinersMatter [] text

/-- The ASCII form of a domain name, if it is one. Labels may be empty, and any signs of ASCII are let
through. -/
def ascii? (name : List Char) : Option (List Char) := do
  let labels := Text.splitChars '.' (← mapText? name)
  let texts ← labels.mapM labelText?
  guard (texts.all isLabel)
  guard (!texts.any runsLeft || texts.all keepsDirection)
  return ['.'].intercalate (labels.map asciiLabel)

end Checkup.Http.Domain
