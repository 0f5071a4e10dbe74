import Checkup.Json.Value

/-!
# Records in JSON

A record with named fields is read from an object, where its members stand in any order, unknown ones
are ignored and a known one must not be repeated; or from an array, where the fields stand in the order
of their declaration, the last ones may be missing, and a surplus item is an error. `fields?` gives the
syntax of every field that is present, and each reader below decides what an absent one means.
-/
namespace Checkup.Json

/-- The members whose key, as spelled, is one of the known names; fails on a key that is no text. -/
def knownMembers? (known : List String) (members : List (List Piece × Syntax)) :
    Option (List (String × Syntax)) := do
  let entries ← members.mapM fun m => (stringOf? m.1).map fun key => (key, m.2)
  return entries.filter fun e => known.contains e.1

/-- The syntax of each field that is present. -/
def fields? (known : List String) : Syntax → Option (List (String × Syntax))
  | .object members => do
    let entries ← knownMembers? known members
    if (entries.map Prod.fst).Nodup then some entries else none
  | .array items => if items.length ≤ known.length then some (known.zip items) else none
  | _ => none

def readText? : Syntax → Option String
  | .string s => stringOf? s
  | _ => none

def readBool? : Syntax → Option Bool
  | .bool b => some b
  | _ => none

/-- An integer without sign, fraction and exponent, of at most `bound`. -/
def readNatural? (bound : Nat) : Syntax → Option Nat
  | .number n =>
    match n.number? with
    | some (.natural n) => if n ≤ bound then some n else none
    | _ => none
  | _ => none

/-- A list whose items are read one by one. -/
def readList? {α : Type} (item : Syntax → Option α) : Syntax → Option (List α)
  | .array items => items.mapM item
  | _ => none

/-- Reads with `read` unless the syntax is `null`. -/
def readNullable? {α : Type} (read : Syntax → Option α) : Syntax → Option (Option α)
  | .null => some none
  | s => (read s).map some

/-- A field that must be present. -/
def required? {α : Type} (fields : List (String × Syntax)) (name : String)
    (read : Syntax → Option α) : Option α := (fields.lookup name).bind read

/-- A field with a value to take in its absence. -/
def optional? {α : Type} (fields : List (String × Syntax)) (name : String) (absent : α)
    (read : Syntax → Option α) : Option α :=
  match fields.lookup name with
  | none => some absent
  | some s => read s

end Checkup.Json
