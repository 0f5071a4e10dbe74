import Checkup.Text.Split

/-!
# Punycode

A label of a host name that has characters beyond ASCII is written with ASCII characters alone: first
its plain characters, then, behind a hyphen, where the others stand and what they are, as numbers in a
notation of variable length.
-/
namespace Checkup.Http.Punycode

/-- The character for a digit below 36. -/
def digit (n : Nat) : Char := if n < 26 then Char.ofNat (97 + n) else Char.ofNat (22 + n)

/-- Divides until a bound is reached, and says how often. -/
def reduce (delta count : Nat) : Nat × Nat :=
  if delta ≤ 455 then (delta, count) else reduce (delta / 35) (count + 1)
termination_by delta
decreasing_by omega

/-- The bias for the next number, after one that placed the `n`-th character. -/
def adapt (delta n : Nat) (first : Bool) : Nat :=
  let d := if first then delta / 700 else delta / 2
  let (rest, count) := reduce (d + d / n) 0
  count * 36 + 36 * rest / (rest + 38)

/-- The threshold at a position of a number. -/
def threshold (k bias : Nat) : Nat := min 26 (max 1 (k - bias))

/-- The digits of a number, from the position `k` on. -/
def numberFrom (q k bias : Nat) : List Char :=
  let t := threshold k bias
  if q < t then [digit q]
  else digit (t + (q - t) % (36 - t)) :: numberFrom ((q - t) / (36 - t)) (k + 36) bias
termination_by q
decreasing_by
  have : 1 ≤ threshold k bias := by unfold threshold; omega
  have : (q - threshold k bias) / (36 - threshold k bias) ≤ q - threshold k bias := Nat.div_le_self _ _
  omega

/-- The state of an encoding: the distance to the next character, the bias, how many characters are
placed, and the output. -/
structure State where
  delta : Nat
  bias : Nat
  placed : Nat
  first : Bool
  output : List Char

/-- Goes over the label once and places the characters with number `n`. -/
def place (n : Nat) (s : State) (c : Nat) : State :=
  if c < n then { s with delta := s.delta + 1 }
  else if c = n then
    { delta := 0
      bias := adapt s.delta (s.placed + 1) s.first
      placed := s.placed + 1
      first := false
      output := s.output ++ numberFrom s.delta 36 s.bias }
  else s

/-- Places the characters with the numbers of a list, which ascends, the previous one being `last`. -/
def placeAll (label : List Nat) : (last : Nat) → List Nat → State → State
  | _, [], s => s
  | last, n :: rest, s =>
    let s := { s with delta := s.delta + (n - last) * (s.placed + 1) }
    let s := label.foldl (place n) s
    placeAll label (n + 1) rest { s with delta := s.delta + 1 }

def encode (label : List Char) : List Char :=
  let numbers := label.map Char.toNat
  let plain := label.filter (·.toNat < 0x80)
  let others := ((numbers.filter (0x80 ≤ ·)).mergeSort).eraseReps
  let start := if plain.isEmpty then [] else plain ++ ['-']
  (placeAll numbers 0x80 others ⟨0, 72, plain.length, true, start⟩).output

/-! ## Reading -/

def digitValue? (c : Char) : Option Nat :=
  if c.isLower then some (c.toNat - 97)
  else if c.isDigit then some (c.toNat - 22)
  else none

/-- The state of a decoding: the text so far, the least number and place that the next character can have,
the bias, and the number that is being read, with the position and the weight of its next digit. -/
structure Reading where
  output : List Char
  code : Nat
  place : Nat
  bias : Nat
  first : Bool
  value : Nat
  position : Nat
  weight : Nat

/-- The most that a digit can count. -/
def maxWeight : Nat := 0xFFFFFFFF

/-- Puts the next character to its place, its number having been read. -/
def insert? (r : Reading) : Option Reading :=
  let count := r.output.length + 1
  let distance := r.place + r.value
  let code := r.code + distance / count
  let place := distance % count
  if h : code.isValidChar then
    some
      { output := r.output.insertIdx place (Char.ofNatAux code h)
        code := code
        place := place + 1
        bias := adapt r.value count r.first
        first := false
        value := 0
        position := 36
        weight := 1 }
  else none

/-- Reads one more digit. -/
def next? (r : Reading) (c : Char) : Option Reading := do
  let d ← digitValue? c
  let t := threshold r.position r.bias
  let r := { r with value := r.value + d * r.weight }
  if d < t then insert? r
  else
    let weight := r.weight * (36 - t)
    guard (weight ≤ maxWeight)
    return { r with position := r.position + 36, weight := weight }

/-- The plain characters of a written form, and the digits behind them. -/
def splitPlain (cs : List Char) : List Char × List Char :=
  match Text.splitOnce? '-' cs.reverse with
  | some (digits, d :: plain) => ((d :: plain).reverse, digits.reverse)
  | _ => ([], cs)

def decode? (cs : List Char) : Option (List Char) := do
  let (plain, digits) := splitPlain cs
  guard (plain.all (·.toNat < 0x80))
  let r ← digits.foldlM next? ⟨plain, 0x80, 0, 72, true, 0, 36, 1⟩
  guard (r.weight = 1)
  return r.output

end Checkup.Http.Punycode
