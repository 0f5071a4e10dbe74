import Checkup.Numeric.Power
import Checkup.Text.Decimal
import Checkup.Text.Hexadecimal
import Checkup.Text.Split

/-!
# Network addresses

An address of version 4 is four numbers below 256, written in decimal with points between them. One of
version 6 is eight groups of up to four hexadecimal digits with colons between them; one run of zero
groups may be left out, and the last two groups may be written like an address of version 4. A socket
address is an address and a port, an address of version 6 then being in square brackets.
-/
namespace Checkup.Address

/-- A number of at most three digits below 256, without a superfluous zero. -/
def readOctet? (cs : List Char) : Option Nat :=
  if cs.length ≤ 3 ∧ (cs.length = 1 ∨ cs.head? ≠ some '0') then
    (Text.readDigits? cs).filter (· < 256)
  else none

/-- The four numbers of an address of version 4. -/
def readV4? (cs : List Char) : Option (List Nat) :=
  match (Text.splitChars '.' cs).mapM readOctet? with
  | some [a, b, c, d] => some [a, b, c, d]
  | _ => none

/-- One to four hexadecimal digits. -/
def readGroup? (cs : List Char) : Option Nat :=
  if cs.length = 0 ∨ 4 < cs.length then none
  else do return (← cs.mapM Text.hexValue?).foldl (fun n d => n * 16 + d) 0

/-- Groups with colons between them; the last part may be an address of version 4. -/
def readGroups? : List (List Char) → Option (List Nat)
  | [] => some []
  | part :: rest =>
    match rest, readV4? part with
    | [], some [a, b, c, d] => some [a * 256 + b, c * 256 + d]
    | _, _ => do return (← readGroup? part) :: (← readGroups? rest)

/-- The parts of a text at its first double colon. -/
def splitGap? : List Char → Option (List Char × List Char)
  | ':' :: ':' :: rest => some ([], rest)
  | c :: rest => (splitGap? rest).map fun p => (c :: p.1, p.2)
  | [] => none

/-- The groups of one side of a gap. -/
def readSide? (cs : List Char) : Option (List Nat) :=
  if cs.isEmpty then some [] else readGroups? (Text.splitChars ':' cs)

/-- The eight groups of an address of version 6. -/
def readV6? (cs : List Char) : Option (List Nat) :=
  match splitGap? cs with
  | none => (readGroups? (Text.splitChars ':' cs)).filter (·.length = 8)
  | some (before, after) => do
    let left ← if (Text.splitChars '.' before).length = 1 then readSide? before else none
    let right ← readSide? after
    if left.length + right.length < 8 then
      some (left ++ List.replicate (8 - left.length - right.length) 0 ++ right)
    else none

def v4Text (numbers : List Nat) : String := ".".intercalate (numbers.map Text.natText)

/-- The length of the run of zeros at the beginning. -/
def zeros (groups : List Nat) : Nat := (groups.takeWhile (· == 0)).length

/-- The position and the length of the longest run of zeros, the first of several. -/
def longestZeros (groups : List Nat) : Nat × Nat :=
  (List.range groups.length).foldl (fun best i =>
    let n := zeros (groups.drop i)
    if best.2 < n then (i, n) else best) (0, 0)

def groupsText (groups : List Nat) : String :=
  ":".intercalate (groups.map fun g => String.ofList (Text.hexadecimal g))

/-- The written form of an address of version 6, without its longest run of at least two zeros. -/
def v6Text (groups : List Nat) : String :=
  let (at_, n) := longestZeros groups
  if n < 2 then groupsText groups
  else groupsText (groups.take at_) ++ "::" ++ groupsText (groups.drop (at_ + n))

/-- Whether a text is a number of at most `bound`, in decimal. -/
def isBounded (bound : Nat) (cs : List Char) : Bool := (Text.readDigits? cs).any (· ≤ bound)

/-- Whether a text is an address in square brackets, as in a socket address; a zone may follow it. -/
def isBracketed (cs : List Char) : Bool :=
  match cs, cs.getLast? with
  | '[' :: inner, some ']' =>
    match Text.splitOnce? '%' inner.dropLast with
    | none => (readV6? inner.dropLast).isSome
    | some (address, zone) => (readV6? address).isSome && isBounded (2 ^ (32 : Nat) - 1) zone
  | _, _ => false

/-- Whether a host, to which a port is added, makes a socket address. -/
def isSocketHost (host : String) : Bool := (readV4? host.toList).isSome || isBracketed host.toList

end Checkup.Address
