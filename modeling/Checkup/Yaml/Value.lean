import Checkup.Numeric.Double
import Checkup.Text.Decimal
import Checkup.Yaml.Tree

/-!
# Values

What the nodes of a document mean. A plain scalar is an empty value, a truth value, a number or a text,
by its spelling; a quoted one is a text; and a tag of the standard says what a scalar has to be. Any
other tag of its own is kept with the value. An alias stands for a copy of what it names, keys must
differ, and neither the nesting nor the number of copies is unlimited.
-/
namespace Checkup.Yaml

inductive Value where
  | null
  | bool (b : Bool)
  | integer (n : Int)
  | real (d : Double)
  | text (s : String)
  | list (items : List Value)
  | mapping (entries : List (Value × Value))
  | tagged (tag : String) (v : Value)
  deriving Repr

namespace Value

/-! ## Sameness -/

/-- Whether two numbers are the same: the zeros are, and whatever is no number is. -/
def isSameReal (a b : Double) : Bool := (a.isZero && b.isZero) || a == b

mutual

/-- Whether two values are the same. The order of the entries of a mapping does not matter. -/
def isSame : Value → Value → Bool
  | null, null => true
  | bool a, bool b => a == b
  | integer a, integer b => a == b
  | real a, real b => isSameReal a b
  | text a, text b => a == b
  | list as, list bs => areSame as bs
  | mapping as, mapping bs => as.length == bs.length && areAmong as bs
  | tagged s a, tagged t b => s == t && a.isSame b
  | _, _ => false

/-- Whether two lists have the same values in the same order. -/
def areSame : List Value → List Value → Bool
  | [], [] => true
  | a :: as, b :: bs => a.isSame b && areSame as bs
  | _, _ => false

/-- Whether each entry is among some others. -/
def areAmong : List (Value × Value) → List (Value × Value) → Bool
  | [], _ => true
  | (k, v) :: rest, bs => bs.any (fun e => k.isSame e.1 && v.isSame e.2) && areAmong rest bs

end

/-- Whether no key of a mapping is repeated. -/
def haveDistinctKeys : List (Value × Value) → Bool
  | [] => true
  | (k, _) :: rest => !rest.any (fun e => k.isSame e.1) && haveDistinctKeys rest

/-! ## Numbers -/

/-- The number of one or more digits of a base. -/
def natural? (base : Nat) (cs : List Char) : Option Nat := do
  let digits ← cs.mapM Text.hexValue?
  if digits.isEmpty ∨ digits.any (base ≤ ·) then none
  else some (digits.foldl (fun n d => n * base + d) 0)

/-- Whether a text is a number with zeros in front, perhaps with a sign; such a text is no number. -/
def hasLeadingZero (cs : List Char) : Bool :=
  let digits := match cs with
    | '+' :: rest => rest
    | '-' :: rest => rest
    | cs => cs
  1 < digits.length && digits.head? == some '0' && digits.all Char.isDigit

/-- The number that a text without its sign spells: in a base that its prefix tells, or in decimal. -/
def magnitude? : List Char → Option Nat
  | '0' :: 'x' :: digits => natural? 16 digits
  | '0' :: 'o' :: digits => natural? 8 digits
  | '0' :: 'b' :: digits => natural? 2 digits
  | digits => natural? 10 digits

/-- The integer that a text spells, as long as 128 bits are enough for it. -/
def integer? (cs : List Char) : Option Int :=
  if hasLeadingZero cs then none
  else match cs with
    | '-' :: rest =>
      ((magnitude? rest).filter (· ≤ 2 ^ (127 : Nat))).map fun n => -(n : Int)
    | '+' :: rest => ((magnitude? rest).filter (· < 2 ^ (128 : Nat))).map Int.ofNat
    | rest => ((magnitude? rest).filter (· < 2 ^ (128 : Nat))).map Int.ofNat

/-- The value of an integer; 64 bits must be enough for it, its sign apart if it is positive. -/
def ofInteger? (n : Int) : Option Value :=
  if -(2 ^ (63 : Nat) : Nat) ≤ n ∧ n < (2 ^ (64 : Nat) : Nat) then some (.integer n) else none

/-- The exponent behind a number, if there is one. -/
def exponent? : List Char → Option Int
  | [] => some 0
  | c :: rest =>
    if c = 'e' ∨ c = 'E' then
      match rest with
      | '-' :: digits => (Text.readDigits? digits).map fun n => -(n : Int)
      | '+' :: digits => (Text.readDigits? digits).map Int.ofNat
      | digits => (Text.readDigits? digits).map Int.ofNat
    else none

/-- The power of ten beyond which a number is too large or too small to be told. -/
def maxPower : Nat := 400

/-- The double nearest to `± significand · 10^k`, unless it is infinite. -/
def scaled? (negative : Bool) (significand : Nat) (k : Int) : Option Double :=
  let size : Int := (Text.decimal significand).length + k
  if significand = 0 ∨ size < -(maxPower : Int) then some (.zero negative)
  else if maxPower < size then none
  else
    let d := match k with
      | .ofNat n => Double.ofRatio negative (significand * 10 ^ n) 1
      | .negSucc n => Double.ofRatio negative significand (10 ^ (n + 1))
    if d.isFinite then some d else none

/-- The number of digits with a point among them, or at one end, and an exponent. -/
def decimal? (negative : Bool) (cs : List Char) : Option Double := do
  let (whole, rest) := cs.span Char.isDigit
  let (fraction, rest) := match rest with
    | '.' :: rest => rest.span Char.isDigit
    | rest => ([], rest)
  if whole.isEmpty ∧ fraction.isEmpty then none
  else scaled? negative (Text.valueOfDigits (whole ++ fraction)) ((← exponent? rest) - fraction.length)

def real? (cs : List Char) : Option Double :=
  match String.ofList cs with
  | ".inf" | ".Inf" | ".INF" | "+.inf" | "+.Inf" | "+.INF" => some (.infinite false)
  | "-.inf" | "-.Inf" | "-.INF" => some (.infinite true)
  | ".nan" | ".NaN" | ".NAN" => some .nan
  | _ =>
    match cs with
    | '-' :: rest => decimal? true rest
    | '+' :: rest => decimal? false rest
    | rest => decimal? false rest

/-! ## Scalars -/

/-- Whether a text spells the empty value. -/
def isNullText (s : String) : Bool := ["~", "null", "Null", "NULL"].contains s

/-- The truth value that a text spells. -/
def bool? (s : String) : Option Bool :=
  if ["true", "True", "TRUE"].contains s then some true
  else if ["false", "False", "FALSE"].contains s then some false
  else none

def ofPlain? (s : String) : Option Value :=
  if s.isEmpty ∨ isNullText s then some .null
  else match bool? s with
    | some b => some (.bool b)
    | none =>
      match integer? s.toList with
      | some n => ofInteger? n
      | none =>
        match if hasLeadingZero s.toList then none else real? s.toList with
        | some d => some (.real d)
        | none => some (.text s)

/-- The value of a scalar without a tag. -/
def ofUntagged? (s : String) (isPlain : Bool) : Option Value :=
  if isPlain then ofPlain? s else some (.text s)

/-- The name of a tag of its own, which begins with an exclamation mark. -/
def localTag? (tag : String) : Option String :=
  match tag.toList with
  | ['!'] => some "!"
  | '!' :: name => some (String.ofList name)
  | _ => none

def ofScalar? (tag : Option String) (s : String) (isPlain : Bool) : Option Value :=
  match tag with
  | none => ofUntagged? s isPlain
  | some tag =>
    match localTag? tag with
    | some name => (ofUntagged? s isPlain).map (.tagged name)
    | none =>
      match tag with
      | "tag:yaml.org,2002:null" => if isNullText s then some .null else none
      | "tag:yaml.org,2002:bool" => (bool? s).map .bool
      | "tag:yaml.org,2002:int" => (integer? s.toList).bind ofInteger?
      | "tag:yaml.org,2002:float" => (real? s.toList).map .real
      | _ => some (.text s)

/-- A collection with the tag of its node, if that is one of its own. -/
def withTag (p : Properties) (v : Value) : Value :=
  match p.tag.bind localTag? with
  | some name => .tagged name v
  | none => v

/-! ## Documents -/

/-- Something that may repeat nodes; the state is how many times. -/
abbrev Resolving (α : Type) : Type := StateT Nat Option α

/-- The node that a tree stands for: itself, or what it repeats. -/
def resolve (targets : List (Nat × Tree)) : Tree → Resolving Tree
  | .reference n => do
    let left ← get
    if left = 0 then failure
    set (left - 1)
    targets.lookup n
  | t => return t

/-- The value of a tree with at most `depth` collections inside each other. -/
def ofTree (targets : List (Nat × Tree)) : (depth : Nat) → Tree → Resolving Value
  | 0, t => do
    match ← resolve targets t with
    | .scalar p s isPlain => ofScalar? p.tag s isPlain
    | _ => failure
  | depth + 1, t => do
    match ← resolve targets t with
    | .reference _ => failure
    | .scalar p s isPlain => ofScalar? p.tag s isPlain
    | .sequence p items => return withTag p (.list (← items.mapM (ofTree targets depth)))
    | .mapping p entries =>
      let entries ← entries.mapM fun e => do
        return (← ofTree targets depth e.1, ← ofTree targets depth e.2)
      if haveDistinctKeys entries then return withTag p (.mapping entries) else failure

/-- The most collections inside each other. -/
def maxDepth : Nat := 128

/-- How often aliases may be followed, for each step in which a document is told. -/
def copiesPerStep : Nat := 100

def ofDocument? (t : Tree) : Option Value :=
  ((ofTree t.anchored.reverse maxDepth t).run (copiesPerStep * t.size)).map Prod.fst

/-- The values of the documents of a text. A text without documents is one with an empty value. -/
def parse? (text : String) : Option (List Value) := do
  let values ← (← Tree.documents? text).mapM ofDocument?
  return if values.isEmpty then [.null] else values

end Value
end Checkup.Yaml
