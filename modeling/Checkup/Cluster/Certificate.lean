import Checkup.Text.Base64
import Checkup.Text.Blank
import Checkup.Text.Split
import Checkup.Text.Utf8

/-!
# Certificates

Certificates are kept in blocks of text. A block begins and ends with a line that names its kind; between
them stand the contents in base64, and in front of those, up to an empty line, there may be headers. What
is not in a block is ignored, but a block must be well-formed whatever it holds.
-/
namespace Checkup.Cluster.Certificate

open Text

def bytesOf (s : String) : List UInt8 := Utf8.encode s.toList

/-- What stands before a mark, with the last byte first, and what follows it. Of the mark the bytes
`expected` are still missing and `found` are behind; a byte that breaks a match off is not taken for the
beginning of another one. -/
def findMark (mark seen found expected : List UInt8) :
    List UInt8 → Option (List UInt8 × List UInt8)
  | [] => if expected.isEmpty then some (seen, []) else none
  | b :: rest =>
    match expected with
    | [] => some (seen, b :: rest)
    | e :: expected =>
      if b = e then findMark mark seen (b :: found) expected rest
      else findMark mark (b :: found ++ seen) [] mark rest

/-- What stands before the first place of a mark, and what follows it. -/
def splitAt? (mark : String) (bytes : List UInt8) : Option (List UInt8 × List UInt8) :=
  (findMark (bytesOf mark) [] [] (bytesOf mark) bytes).map fun p => (p.1.reverse, p.2)

/-- The bytes without blanks and line breaks at their front. -/
def skipBlank (bytes : List UInt8) : List UInt8 :=
  bytes.dropWhile fun b => b = 0x20 || b = 0x09 || b = 0x0A || b = 0x0D

/-- A block as it stands in the text: what its first and its last line name, and what is between them. -/
structure Block where
  opening : List UInt8
  content : List UInt8
  closing : List UInt8
  deriving DecidableEq, Repr

/-- The first block, and what follows it. -/
def nextBlock? (bytes : List UInt8) : Option (Block × List UInt8) := do
  let (_, rest) ← splitAt? "-----BEGIN " bytes
  let (opening, rest) ← splitAt? "-----" rest
  let (content, rest) ← splitAt? "-----END " (skipBlank rest)
  let (closing, rest) ← splitAt? "-----" rest
  return (⟨opening, content, closing⟩, skipBlank rest)

/-- The blocks of a text; every one of them takes fuel. -/
def blocks : (fuel : Nat) → List UInt8 → List Block
  | 0, _ => []
  | fuel + 1, bytes =>
    match nextBlock? bytes with
    | some (b, rest) => b :: blocks fuel rest
    | none => []

/-- The headers of a block and its contents. -/
def Block.parts (b : Block) : List UInt8 × List UInt8 :=
  match splitAt? "\n\n" b.content with
  | some parts => parts
  | none => (splitAt? "\r\n\r\n" b.content).getD ([], b.content)

/-- Whether a text is empty or a list of lines that have a colon. -/
def areHeaders (cs : List Char) : Bool :=
  let lines := splitChars '\n' cs
  let lines := if lines.getLast? = some [] then lines.dropLast else lines
  lines.all (·.contains ':')

/-- The contents of a block, if it is well-formed. -/
def Block.decode? (b : Block) : Option (List UInt8) := do
  let opening ← Utf8.decode? b.opening
  let closing ← Utf8.decode? b.closing
  if opening.isEmpty ∨ opening ≠ closing then none
  else
    let (headers, data) := b.parts
    let contents ← Base64.decode? ((← Utf8.decode? data).filter (!isBlankChar ·))
    if areHeaders (← Utf8.decode? headers) then return contents else none

def kind : String := "CERTIFICATE"

/-- The certificates in some bytes, if all the blocks are well-formed. -/
def parse? (bytes : List UInt8) : Option (List (List UInt8)) := do
  let blocks := blocks (bytes.length + 1) bytes
  let decoded ← blocks.mapM fun b => do return (b.opening, ← b.decode?)
  return decoded.filterMap fun d => if d.1 = bytesOf kind then some d.2 else none

/-- The kinds of the blocks in some bytes. -/
def kinds (bytes : List UInt8) : List String :=
  (blocks (bytes.length + 1) bytes).map fun b => String.ofList (Utf8.decode b.opening)

/-! ## Contents -/

/-- The length of an element, and what follows it. It is written in the fewest bytes that hold it. -/
def elementLength? : List UInt8 → Option (Nat × List UInt8)
  | 0x81 :: a :: rest => if 0x80 ≤ a then some (a.toNat, rest) else none
  | 0x82 :: a :: b :: rest => if a = 0 then none else some (a.toNat * 256 + b.toNat, rest)
  | a :: rest => if a < 0x80 then some (a.toNat, rest) else none
  | [] => none

/-- The contents of an element with a tag, and what follows it. -/
def element? (tag : UInt8) : List UInt8 → Option (List UInt8 × List UInt8)
  | [] => none
  | t :: rest => do
    let (length, rest) ← elementLength? rest
    if t = tag ∧ length ≤ rest.length then some (rest.take length, rest.drop length) else none

/-- The tags of sequences and of strings of bits. -/
def sequenceTag : UInt8 := 0x30
def bitsTag : UInt8 := 0x03

/-- Whether some bytes have the outline of a certificate: what is certified, how it is signed, and the
signature. -/
def isCertificate (bytes : List UInt8) : Bool :=
  match element? sequenceTag bytes with
  | some (inner, []) =>
    ([sequenceTag, sequenceTag, bitsTag].foldlM (fun rest tag => (element? tag rest).map Prod.snd)
      inner) == some []
  | _ => false

end Checkup.Cluster.Certificate
