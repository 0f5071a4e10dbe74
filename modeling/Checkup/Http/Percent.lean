import Checkup.Text.Hexadecimal
import Checkup.Text.Utf8

/-!
# Percent encoding

A byte may be written as a percent sign and two hexadecimal digits. Encoding writes capital digits;
decoding takes both cases, and a percent sign without two digits behind it stands for itself.
-/
namespace Checkup.Http.Percent

/-- The value of a byte that is a hexadecimal digit. -/
def digitOf? (b : UInt8) : Option Nat := Text.hexValue? (Char.ofNat b.toNat)

def encodeByte (b : UInt8) : List Char :=
  ['%', Text.upperHexDigit (b.toNat / 16), Text.upperHexDigit (b.toNat % 16)]

/-- A text in which every character of a class is encoded, and every one beyond ASCII. -/
def encode (escaped : Char → Bool) (cs : List Char) : List Char :=
  cs.flatMap fun c =>
    if c.toNat < 0x80 && !escaped c then [c] else (Text.Utf8.encodeChar c).flatMap encodeByte

/-- Bytes with every encoded one decoded. -/
def decode : List UInt8 → List UInt8
  | b :: high :: low :: rest =>
    if b = 0x25 then
      match digitOf? high, digitOf? low with
      | some h, some l => UInt8.ofNat (h * 16 + l) :: decode rest
      | _, _ => b :: decode (high :: low :: rest)
    else b :: decode (high :: low :: rest)
  | bytes => bytes

end Checkup.Http.Percent
