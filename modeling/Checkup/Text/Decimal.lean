/-!
# Whole numbers in decimal

Writing a natural number as its digits, and reading digits back. A bounded reading takes an optional
plus sign before the digits, any number of leading zeros, and refuses a value above the bound.
-/
namespace Checkup.Text

def digitChar (d : Nat) : Char := Char.ofNat (48 + d)

def digitValue (c : Char) : Nat := c.toNat - 48

/-- The decimal digits of a number, without leading zeros; zero has one digit. -/
def decimal (n : Nat) : List Char :=
  if n < 10 then [digitChar n] else decimal (n / 10) ++ [digitChar (n % 10)]
termination_by n
decreasing_by omega

def natText (n : Nat) : String := String.ofList (decimal n)

/-- The decimal text of an integer, with a minus sign when it is negative. -/
def intText : Int → String
  | .ofNat n => natText n
  | .negSucc n => String.ofList ('-' :: decimal (n + 1))

/-- The number that a list of digits spells. -/
def valueOfDigits (ds : List Char) : Nat := ds.foldl (fun n d => 10 * n + digitValue d) 0

/-- The number of one or more digits and nothing else. -/
def readDigits? (cs : List Char) : Option Nat :=
  if !cs.isEmpty && cs.all Char.isDigit then some (valueOfDigits cs) else none

/-- A number of at most `bound`: an optional plus sign, then one or more digits. -/
def readBounded? (bound : Nat) (s : String) : Option Nat :=
  let digits := match s.toList with
    | '+' :: rest => rest
    | cs => cs
  (readDigits? digits).filter (· ≤ bound)

/-- The digits of a number, with zeros in front up to a width. -/
def padded (width n : Nat) : List Char :=
  let ds := decimal n
  List.replicate (width - ds.length) '0' ++ ds

end Checkup.Text
