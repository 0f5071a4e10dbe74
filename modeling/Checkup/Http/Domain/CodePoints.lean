import Checkup.Text.Hexadecimal
import Checkup.Text.Split

/-!
# Tables of characters

The tables about domain names are written in rows of words. A word is a number in hexadecimal, or two of
them with a hyphen between for a range; what a colon divides is said with each table. Words that cannot be
read count for nothing.
-/
namespace Checkup.Http.Domain

/-- A number in hexadecimal. -/
def readHex? (cs : List Char) : Option Nat :=
  match cs.mapM Text.hexValue? with
  | some (d :: digits) => some (digits.foldl (fun n d => n * 16 + d) d)
  | _ => none

def words (rows : List String) : List (List Char) := rows.flatMap fun row => Text.splitChars ' ' row.toList

structure CodeRange where
  first : Nat
  last : Nat
  deriving DecidableEq, Repr

namespace CodeRange

def contains (r : CodeRange) (n : Nat) : Bool := r.first ≤ n && n ≤ r.last

/-- The range that a word spells. -/
def read? (word : List Char) : Option CodeRange :=
  match Text.splitOnce? '-' word with
  | some (first, last) => do return ⟨← readHex? first, ← readHex? last⟩
  | none => do
    let n ← readHex? word
    return ⟨n, n⟩

def readAll (rows : List String) : List CodeRange := (words rows).filterMap read?

end CodeRange

/-- Ranges with a number each behind a colon. -/
def readShifts (rows : List String) : List (CodeRange × Nat) :=
  (words rows).filterMap fun word => do
    let (range, start) ← Text.splitOnce? ':' word
    return (← CodeRange.read? range, ← readHex? start)

/-- The characters that a word spells, as numbers with points between them. -/
def readChars (word : List Char) : List Char :=
  ((Text.splitChars '.' word).filterMap readHex?).map Char.ofNat

/-- Reads one more word of a table of spellings, the next number being `next`. -/
def readSpelling (table : List (Nat × List Char) × Nat) (word : List Char) :
    List (Nat × List Char) × Nat :=
  match Text.splitOnce? ':' word with
  | some (start, spelling) =>
    let n := (readHex? start).getD table.2
    ((n, readChars spelling) :: table.1, n + 1)
  | none => ((table.2, readChars word) :: table.1, table.2 + 1)

/-- Numbers and the characters written for each; a number stands before a colon, and is left out where it
is one more than the number before. -/
def readSpellings (rows : List String) : List (Nat × List Char) :=
  ((words rows).foldl readSpelling ([], 0)).1.reverse

end Checkup.Http.Domain
