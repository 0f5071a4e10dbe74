/-!
# UTF-8

`encode` gives the bytes of a text. `decode` reads any bytes: where they are not the encoding of a
character, it takes as many of them as could begin one and puts a replacement character in their place;
`decode?` refuses them.
-/
namespace Checkup.Text.Utf8

def encodeChar (c : Char) : List UInt8 :=
  let n := c.toNat
  if n < 0x80 then [UInt8.ofNat n]
  else if n < 0x800 then [UInt8.ofNat (0xC0 + n / 64), UInt8.ofNat (0x80 + n % 64)]
  else if n < 0x10000 then
    [UInt8.ofNat (0xE0 + n / 4096), UInt8.ofNat (0x80 + n / 64 % 64), UInt8.ofNat (0x80 + n % 64)]
  else
    [UInt8.ofNat (0xF0 + n / 262144), UInt8.ofNat (0x80 + n / 4096 % 64),
      UInt8.ofNat (0x80 + n / 64 % 64), UInt8.ofNat (0x80 + n % 64)]

def encode (cs : List Char) : List UInt8 := cs.flatMap encodeChar

/-- What stands for bytes that are no character. -/
def replacement : Char := Char.ofNat 0xFFFD

/-- What a leading byte announces: how many bytes follow, the range of the first of them, and its own
share of the number. -/
structure Lead where
  following : Nat
  low : Nat
  high : Nat
  share : Nat
  deriving DecidableEq

/-- The meaning of a leading byte. -/
def lead? (b : Nat) : Option Lead :=
  if b < 0x80 then some ⟨0, 0x80, 0xBF, b⟩
  else if b < 0xC2 then none
  else if b < 0xE0 then some ⟨1, 0x80, 0xBF, b - 0xC0⟩
  else if b = 0xE0 then some ⟨2, 0xA0, 0xBF, 0⟩
  else if b = 0xED then some ⟨2, 0x80, 0x9F, 0xD⟩
  else if b < 0xF0 then some ⟨2, 0x80, 0xBF, b - 0xE0⟩
  else if b = 0xF0 then some ⟨3, 0x90, 0xBF, 0⟩
  else if b < 0xF4 then some ⟨3, 0x80, 0xBF, b - 0xF0⟩
  else if b = 0xF4 then some ⟨3, 0x80, 0x8F, 4⟩
  else none

/-- At most `n` following bytes, the first of them in a range of its own. -/
def following : (n low high : Nat) → List UInt8 → List UInt8
  | 0, _, _, _ => []
  | _, _, _, [] => []
  | n + 1, low, high, b :: rest =>
    if low ≤ b.toNat ∧ b.toNat ≤ high then b :: following n 0x80 0xBF rest else []

/-- The character of a leading byte and the bytes that follow it. -/
def assemble (share : Nat) (tail : List UInt8) : Char :=
  Char.ofNat (tail.foldl (fun n b => n * 64 + b.toNat % 64) share)

def decode : List UInt8 → List Char
  | [] => []
  | b :: rest =>
    match lead? b.toNat with
    | none => replacement :: decode rest
    | some l =>
      let tail := following l.following l.low l.high rest
      let c := if tail.length = l.following then assemble l.share tail else replacement
      c :: decode (rest.drop tail.length)
termination_by bytes => bytes.length
decreasing_by all_goals simp only [List.length_cons, List.length_drop]; omega

/-- The text of bytes, if they are one; only then writing it gives the bytes again. -/
def decode? (bytes : List UInt8) : Option (List Char) :=
  let cs := decode bytes
  if encode cs = bytes then some cs else none

end Checkup.Text.Utf8
