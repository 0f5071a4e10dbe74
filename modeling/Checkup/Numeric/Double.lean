import Checkup.Numeric.Power

/-!
# Double-precision numbers

A binary64 number as an exact value: a finite one is `± m · 2^e` with `m < 2^53` and
`-1074 ≤ e ≤ 971`, and `m ≥ 2^52` unless `e = -1074`. Each operation computes the exact rational
result and rounds it once, to the nearest double and on a tie to the one with even `m`, which is what
the standard prescribes for multiplication, division and addition.
-/
namespace Checkup

inductive Double where
  | nan
  | infinite (negative : Bool)
  | finite (negative : Bool) (significand : Nat) (exponent : Int)
  deriving DecidableEq, Repr

/-- The quotient rounded to the nearest natural number, a tie going to the even one. -/
def roundDiv (num den : Nat) : Nat :=
  let q := num / den
  let r := num % den
  if den < 2 * r ∨ (2 * r = den ∧ q % 2 = 1) then q + 1 else q

namespace Double

def zero (negative : Bool) : Double := .finite negative 0 (-1074)

/-- The quotient `num / (den · 2^e)` as numerator and denominator. -/
def scaled (num den : Nat) : Int → Nat × Nat
  | .ofNat k => (num, den * 2 ^ k)
  | .negSucc k => (num * 2 ^ (k + 1), den)

/-- The exponent that gives `num / den` a significand of 53 bits, or the least exponent there is. -/
def exponentOf (num den : Nat) : Int :=
  let e : Int := (Nat.log2 num : Int) - (Nat.log2 den : Int) - 52
  let (n, d) := scaled num den e
  max (-1074) (if n / d < 2 ^ (52 : Nat) then e - 1 else e)

/-- The double nearest to `± num / den`, infinite when the value is beyond the finite range. -/
def ofRatio (negative : Bool) (num den : Nat) : Double :=
  if num = 0 then zero negative
  else
    let e := exponentOf num den
    let (n, d) := scaled num den e
    let m := roundDiv n d
    let (m, e) := if m = 2 ^ (53 : Nat) then (2 ^ (52 : Nat), e + 1) else (m, e)
    if 971 < e then .infinite negative else .finite negative m e

def ofNat (n : Nat) : Double := ofRatio false n 1

def tenPow (k : Nat) : Double := ofNat (10 ^ k)

/-- Numerator and denominator of `m · 2^e`. -/
def ratioOf (m : Nat) : Int → Nat × Nat
  | .ofNat k => (m * 2 ^ k, 1)
  | .negSucc k => (m, 2 ^ (k + 1))

def isFinite : Double → Bool
  | .finite .. => true
  | _ => false

/-- Whether the value is zero, of either sign. -/
def isZero : Double → Bool
  | .finite _ m _ => m == 0
  | _ => false

def neg : Double → Double
  | .nan => .nan
  | .infinite s => .infinite !s
  | .finite s m e => .finite (!s) m e

def mul : Double → Double → Double
  | .nan, _ => .nan
  | _, .nan => .nan
  | .infinite s, .infinite t => .infinite (s != t)
  | .infinite s, .finite t m _ => if m = 0 then .nan else .infinite (s != t)
  | .finite s m _, .infinite t => if m = 0 then .nan else .infinite (s != t)
  | .finite s m e, .finite t n f =>
    let (num, den) := ratioOf (m * n) (e + f)
    ofRatio (s != t) num den

def div : Double → Double → Double
  | .nan, _ => .nan
  | _, .nan => .nan
  | .infinite _, .infinite _ => .nan
  | .infinite s, .finite t _ _ => .infinite (s != t)
  | .finite s _ _, .infinite t => zero (s != t)
  | .finite s m e, .finite t n f =>
    if n = 0 then (if m = 0 then .nan else .infinite (s != t))
    else
      let (a, b) := ratioOf m e
      let (c, d) := ratioOf n f
      ofRatio (s != t) (a * d) (b * c)

/-- The rounded sum of two numbers that are not negative. -/
def addMagnitudes : Double → Double → Double
  | .finite _ m e, .finite _ n f =>
    let (a, b) := ratioOf m e
    let (c, d) := ratioOf n f
    ofRatio false (a * d + c * b) (b * d)
  | .nan, _ => .nan
  | _, .nan => .nan
  | _, _ => .infinite false

/-- The order of the values; a number that is not one is below nothing and above nothing. -/
def lt : Double → Double → Bool
  | .nan, _ => false
  | _, .nan => false
  | .infinite s, .infinite t => s && !t
  | .infinite s, .finite .. => s
  | .finite .., .infinite t => !t
  | .finite s m e, .finite t n f =>
    let (a, b) := ratioOf m e
    let (c, d) := ratioOf n f
    match s, t with
    | false, false => a * d < c * b
    | true, true => c * b < a * d
    | true, false => !(m == 0 && n == 0)
    | false, true => false

/-- The smaller of two numbers; of a number and one that is none, the number. -/
def min (a b : Double) : Double :=
  match a with
  | .nan => b
  | _ => match b with
    | .nan => a
    | _ => if lt b a then b else a

/-- The product of `n` factors, by repeated squaring: `r` collects the squares that the bits of `n`
call for. -/
def powLoop (r a : Double) (n : Nat) : Double :=
  let r := if n % 2 = 1 then mul r a else r
  if n / 2 = 0 then r else powLoop r (mul a a) (n / 2)
termination_by n
decreasing_by omega

/-- The `n`-th power, by repeated squaring with a rounding at each product. -/
def pow (a : Double) (n : Nat) : Double := powLoop (ofNat 1) a n

end Double
end Checkup
