import Checkup.Numeric.Double
import Checkup.Text.Decimal

/-!
# The shortest decimal that reads back

Among the decimals that round to a given double, `shortest` picks one with the fewest digits, and of
those the nearest. For each digit count the only candidates are the value's two neighbours on that
decimal grid, so 17 grids suffice. `Double.text` writes the digits positionally, never with an
exponent.
-/
namespace Checkup
namespace Double

/-- `a / b ≤ c / d`. -/
def ratioLe (x y : Nat × Nat) : Bool := x.1 * y.2 ≤ y.1 * x.2

/-- `a / b < c / d`. -/
def ratioLt (x y : Nat × Nat) : Bool := x.1 * y.2 < y.1 * x.2

/-- `n · 10^k` as numerator and denominator. -/
def tenRatio (n : Nat) : Int → Nat × Nat
  | .ofNat k => (n * 10 ^ k, 1)
  | .negSucc k => (n, 10 ^ (k + 1))

/-- The reals that round to `m · 2^e`: the ends, and whether they belong to it. -/
structure Basin where
  lower : Nat × Nat
  upper : Nat × Nat
  closed : Bool

/-- Whether a quotient lies in the basin. -/
def Basin.contains (b : Basin) (x : Nat × Nat) : Bool :=
  if b.closed then ratioLe b.lower x && ratioLe x b.upper
  else ratioLt b.lower x && ratioLt x b.upper

/-- The basin of a finite double; below a power of two the neighbour is half as far away. -/
def basin (m : Nat) (e : Int) : Basin where
  lower := if m = 2 ^ (52 : Nat) ∧ -1074 < e then ratioOf (4 * m - 1) (e - 2) else ratioOf (2 * m - 1) (e - 1)
  upper := ratioOf (2 * m + 1) (e - 1)
  closed := m % 2 == 0

/-- The `k` with `10^(k-1) ≤ v < 10^k`, found upwards from a guess that is not too large. -/
def magnitudeFrom (v : Nat × Nat) (k : Int) : Nat → Int
  | 0 => k
  | fuel + 1 => if ratioLt v (tenRatio 1 k) then k else magnitudeFrom v (k + 1) fuel

/-- The number of digits before the decimal point of `m · 2^e`, negative for leading zeros. -/
def magnitude (m : Nat) (e : Int) : Int :=
  let bits : Int := (Nat.log2 m : Int) + e
  magnitudeFrom (ratioOf m e) (bits * 30103 / 100000 - 1) 4

/-- The neighbour of `v` on the grid of multiples of `10^k` that lies in the basin, the nearer one if
both do. -/
def onGrid? (v : Nat × Nat) (b : Basin) (k : Int) : Option (Nat × Int) :=
  let unit := tenRatio 1 k
  let low := v.1 * unit.2 / (v.2 * unit.1)
  let lowIn := b.contains (tenRatio low k)
  let highIn := b.contains (tenRatio (low + 1) k)
  -- `v` is nearer to `low` when it is below the middle, `low + 1/2`.
  let middle := tenRatio (2 * low + 1) k
  match lowIn, highIn with
  | true, true =>
    let twice := (2 * v.1, v.2)
    if ratioLt twice middle || (!ratioLt middle twice && low % 2 == 0) then some (low, k)
    else some (low + 1, k)
  | true, false => some (low, k)
  | false, true => some (low + 1, k)
  | false, false => none

/-- The digits, as a number, and the power of ten that they are multiples of. -/
def shortest (m : Nat) (e : Int) : Nat × Int :=
  let v := ratioOf m e
  let b := basin m e
  let k := magnitude m e
  ((List.range 17).findSome? fun d => onGrid? v b (k - (d + 1 : Nat))).getD (m, e)

/-- Digits times a power of ten, written without an exponent. -/
def positional (digits : Nat) (k : Int) : List Char :=
  match k with
  | .ofNat k => Text.decimal digits ++ List.replicate k '0'
  | .negSucc k =>
    let places := k + 1
    let ds := Text.padded (places + 1) digits
    let whole := ds.take (ds.length - places)
    let fraction := ((ds.drop (ds.length - places)).reverse.dropWhile (· == '0')).reverse
    if fraction.isEmpty then whole else whole ++ '.' :: fraction

/-- The shortest text that reads back, without an exponent. -/
def text : Double → String
  | .nan => "NaN"
  | .infinite s => if s then "-inf" else "inf"
  | .finite s m e =>
    let body := if m = 0 then ['0'] else
      let (digits, k) := shortest m e
      positional digits k
    String.ofList (if s then '-' :: body else body)

end Double
end Checkup
