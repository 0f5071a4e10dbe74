import Checkup.Http.Percent
import Checkup.Text.Split

/-!
# Forms

A form is a list of pairs of texts, as in a query or in the body of a request. In its written form a
blank is a plus sign, and every byte that is not a letter, a digit or one of `*`, `-`, `.` and `_` is
percent-encoded, so that the signs between and inside the pairs are unambiguous.
-/
namespace Checkup.Http.Form

/-- The characters that are written as they are. -/
def isPlain (c : Char) : Bool := c.isAlphanum || c == '*' || c == '-' || c == '.' || c == '_'

def encodeByte (b : UInt8) : List Char :=
  let c := Char.ofNat b.toNat
  if b.toNat < 0x80 && isPlain c then [c]
  else if b = 0x20 then ['+']
  else Percent.encodeByte b

def encode (cs : List Char) : List Char := (Text.Utf8.encode cs).flatMap encodeByte

def encodePair (p : String × String) : List Char :=
  encode p.1.toList ++ '=' :: encode p.2.toList

/-- A form in written form. -/
def encodePairs (pairs : List (String × String)) : List Char :=
  ['&'].intercalate (pairs.map encodePair)

def text (pairs : List (String × String)) : String := String.ofList (encodePairs pairs)

def decode (cs : List Char) : List Char :=
  let spaced := cs.map fun c => if c = '+' then ' ' else c
  Text.Utf8.decode (Percent.decode (Text.Utf8.encode spaced))

/-- The pair of a written form; what has no equals sign is a name without a value. -/
def decodePair (cs : List Char) : String × String :=
  match Text.splitOnce? '=' cs with
  | some (name, value) => (String.ofList (decode name), String.ofList (decode value))
  | none => (String.ofList (decode cs), "")

/-- The pairs of a written form. -/
def decodePairs (cs : List Char) : List (String × String) :=
  ((Text.splitChars '&' cs).filter (!·.isEmpty)).map decodePair

end Checkup.Http.Form
