import Checkup.Json.Syntax
import Checkup.Numeric.Double
import Checkup.Numeric.Power
import Checkup.Text.Decimal

/-!
# The values of JSON texts

Reading gives meaning to syntax: escaped surrogates must come in pairs, a number must be within the
range of a double, and only a bounded number of arrays and objects may be open at once. Integers that
fit 64 bits stay exact; every other number becomes a double. In an object a repeated key keeps its last
value, and the keys are kept in ascending order.
-/
namespace Checkup.Json

/-- The text that the pieces of a string literal spell, unless a surrogate stands alone. -/
def textOf? : List Piece → Option (List Char)
  | [] => some []
  | .char c :: rest => (textOf? rest).map (c :: ·)
  | .unit code :: rest =>
    if 0xD800 ≤ code ∧ code < 0xDC00 then
      match rest with
      | .unit low :: rest =>
        if 0xDC00 ≤ low ∧ low < 0xE000 then
          let c := Char.ofNat (0x10000 + (code - 0xD800) * 0x400 + (low - 0xDC00))
          (textOf? rest).map (c :: ·)
        else none
      | _ => none
    else if 0xDC00 ≤ code ∧ code < 0xE000 then none
    else (textOf? rest).map (Char.ofNat code :: ·)

/-- The string that the pieces of a literal spell. -/
def stringOf? (pieces : List Piece) : Option String := (textOf? pieces).map String.ofList

/-- A number: exact if it is an integer of 64 bits, else a double. -/
inductive Number where
  | natural (n : Nat)
  /-- The integer `-n`. -/
  | negative (n : Nat)
  | double (d : Double)
  deriving DecidableEq, Repr

/-- The first digits as a number of at most 64 bits, and how many digits it leaves out. -/
def leading (significand : Nat) : List Char → Nat × Nat
  | [] => (significand, 0)
  | d :: ds =>
    let next := 10 * significand + Text.digitValue d
    if next < 2 ^ (64 : Nat) then leading next ds else (significand, ds.length + 1)

/-- A significand times a power of ten, in double precision. A power beyond the table of `10^308`
takes more than one division; a product beyond the finite range is no number. -/
def scaleByTen (f : Double) (k : Int) : Option Double :=
  if k.natAbs ≤ 308 then
    if 0 ≤ k then
      let p := f.mul (.tenPow k.natAbs)
      if p.isFinite then some p else none
    else some (f.div (.tenPow k.natAbs))
  else if f.isZero then some f
  else if 0 ≤ k then none
  else scaleByTen (f.div (.tenPow 308)) (k + 308)
termination_by k.natAbs
decreasing_by omega

/-- The largest exponent that is looked at; a larger one makes any number zero or too large. -/
def maxExponent : Nat := 2 ^ (31 : Nat) - 1

/-- The double that a number with this significand, power of ten and written exponent has. -/
def doubleOf? (significand : Nat) (k : Int) (exponent : Option (Bool × List Char)) : Option Double :=
  match exponent with
  | none => scaleByTen (.ofNat significand) k
  | some (negative, ds) =>
    let e := Text.valueOfDigits ds
    if maxExponent < e then
      if significand ≠ 0 ∧ !negative then none else some (.zero false)
    else scaleByTen (.ofNat significand) (if negative then k - (e : Int) else k + (e : Int))

/-- The number that a numeral spells, unless it is beyond the range of a double. -/
def Numeral.number? (n : Numeral) : Option Number :=
  let (significand, dropped) := leading 0 n.whole
  let signed (d : Double) : Number := .double (if n.negative then d.neg else d)
  match n.fraction, n.exponent with
  | none, none =>
    if dropped ≠ 0 then (doubleOf? significand dropped none).map signed
    else if !n.negative then some (.natural significand)
    else if 0 < significand ∧ significand ≤ 2 ^ (63 : Nat) then some (.negative significand)
    else some (.double (Double.ofNat significand).neg)
  | fraction, exponent =>
    let ds := fraction.getD []
    let (significand, rest) := leading significand ds
    let k : Int := (dropped : Int) - ((ds.length - rest : Nat) : Int)
    (doubleOf? significand k exponent).map signed

inductive Value where
  | null
  | bool (b : Bool)
  | number (n : Number)
  | string (s : String)
  | array (items : List Value)
  | object (members : List (String × Value))
  deriving Repr

/-- Adds an entry to a list of entries with ascending keys, in the place of one with the same key. -/
def insertEntry {α : Type} (key : String) (value : α) : List (String × α) → List (String × α)
  | [] => [(key, value)]
  | (k, v) :: rest =>
    if key < k then (key, value) :: (k, v) :: rest
    else if key = k then (key, value) :: rest
    else (k, v) :: insertEntry key value rest

/-- The entries in ascending order of their keys; of repeated keys the last one counts. -/
def sortEntries {α : Type} (entries : List (String × α)) : List (String × α) :=
  entries.foldl (fun acc e => insertEntry e.1 e.2 acc) []

/-- The value of some syntax, with at most `budget` arrays and objects open at once. -/
def Value.ofSyntax? : Nat → Syntax → Option Value
  | _, .null => some .null
  | _, .bool b => some (.bool b)
  | _, .number n => n.number?.map .number
  | _, .string s => (stringOf? s).map .string
  | 0, .array _ => none
  | 0, .object _ => none
  | budget + 1, .array items => (items.mapM (ofSyntax? budget)).map .array
  | budget + 1, .object members => do
    let entries ← members.mapM fun m => do
      let key ← stringOf? m.1
      let value ← ofSyntax? budget m.2
      return (key, value)
    return .object (sortEntries entries)

/-- The number of arrays and objects that a document may have open at once. -/
def maxNesting : Nat := 127

def Value.parse? (text : String) : Option Value := do
  Value.ofSyntax? maxNesting (← Syntax.parse? text)

def Value.get? (v : Value) (key : String) : Option Value :=
  match v with
  | .object members => members.lookup key
  | _ => none

end Checkup.Json
