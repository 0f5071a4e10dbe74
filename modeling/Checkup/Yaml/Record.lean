import Checkup.Yaml.Value

/-!
# Records

A record with named fields is read from a mapping, in which all keys are texts; unknown ones are ignored
and a known one must not be repeated. Where a collection is expected, the empty value is an empty one.
Tags of their own are ignored.
-/
namespace Checkup.Yaml

/-- The value without its tags. -/
def Value.untagged : Value → Value
  | .tagged _ v => v.untagged
  | v => v

def readText? (v : Value) : Option String :=
  match v.untagged with
  | .text s => some s
  | _ => none

def readBool? (v : Value) : Option Bool :=
  match v.untagged with
  | .bool b => some b
  | _ => none

/-- A list whose items are read one by one. -/
def readList? {α : Type} (item : Value → Option α) (v : Value) : Option (List α) :=
  match v.untagged with
  | .null => some []
  | .list items => items.mapM item
  | _ => none

/-- The entries of a mapping whose keys are texts. -/
def entries? (v : Value) : Option (List (String × Value)) :=
  match v.untagged with
  | .null => some []
  | .mapping entries => entries.mapM fun e => (readText? e.1).map fun key => (key, e.2)
  | _ => none

/-- The value of each known field that is present. -/
def fields? (known : List String) (v : Value) : Option (List (String × Value)) := do
  let fields := (← entries? v).filter fun e => known.contains e.1
  if (fields.map Prod.fst).Nodup then some fields else none

def required? {α : Type} (fields : List (String × Value)) (name : String)
    (read : Value → Option α) : Option α := (fields.lookup name).bind read

/-- A field that may be absent or empty. -/
def optional? {α : Type} (fields : List (String × Value)) (name : String)
    (read : Value → Option α) : Option (Option α) :=
  match fields.lookup name with
  | none => some none
  | some .null => some none
  | some v => (read v).map some

/-- A mapping of texts to texts. -/
def readTexts? (v : Value) : Option (List (String × String)) := do
  (← entries? v).mapM fun e => (readText? e.2).map fun s => (e.1, s)

mutual

/-- Whether a value has no tags, and texts for keys, so that it can be told in other notations. -/
def isPortable : Value → Bool
  | .list items => arePortable items
  | .mapping entries => haveTextKeys entries
  | .tagged _ _ => false
  | _ => true

def arePortable : List Value → Bool
  | [] => true
  | v :: rest => isPortable v && arePortable rest

def haveTextKeys : List (Value × Value) → Bool
  | [] => true
  | (k, v) :: rest => (readText? k).isSome && isPortable v && haveTextKeys rest

end

end Checkup.Yaml
