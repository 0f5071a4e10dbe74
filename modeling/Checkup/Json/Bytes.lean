import Checkup.Json.Syntax
import Checkup.Text.Utf8

/-!
# JSON from bytes

A document that comes as bytes is a text in UTF-8. Bytes that are none can still be read, as long as all
that is wrong with them stands in strings that nobody reads: such a string spells no text, like one with
half a pair of surrogates, and is held to the grammar alone.
-/
namespace Checkup.Json

/-- The pieces of a string literal whose plain characters are bytes; some bytes stand before them. -/
def piecesOf? (before : List UInt8) : List Piece → Option (List Piece)
  | [] => (Text.Utf8.decode? before).map (·.map .char)
  | .char c :: rest => piecesOf? (before ++ [UInt8.ofNat c.toNat]) rest
  | .unit code :: rest => do
    let cs ← Text.Utf8.decode? before
    return cs.map .char ++ .unit code :: (← piecesOf? [] rest)

/-- The same literal with characters for the bytes, or one that spells no text. -/
def literalOf (bytes : List Piece) : List Piece := (piecesOf? [] bytes).getD [.unit 0xDC00]

mutual

/-- The syntax of a document in which the plain characters of the strings are bytes. -/
def Syntax.ofBytes : Syntax → Syntax
  | .string s => .string (literalOf s)
  | .array items => .array (itemsOfBytes items)
  | .object members => .object (membersOfBytes members)
  | s => s

def itemsOfBytes : List Syntax → List Syntax
  | [] => []
  | item :: items => item.ofBytes :: itemsOfBytes items

def membersOfBytes : List (List Piece × Syntax) → List (List Piece × Syntax)
  | [] => []
  | (key, value) :: members => (literalOf key, value.ofBytes) :: membersOfBytes members

end

/-- The syntax of bytes that are one JSON value with nothing but gaps around it. -/
def Syntax.parseBytes? (bytes : List UInt8) : Option Syntax :=
  match Text.Utf8.decode? bytes with
  | some cs => parseChars? cs
  | none => (parseChars? (bytes.map fun b => Char.ofNat b.toNat)).map ofBytes

end Checkup.Json
