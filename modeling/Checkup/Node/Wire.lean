import Checkup.Json.Printer
import Checkup.Json.Record
import Checkup.Node.Basic

/-!
# The wire form of the result tree

A node is written as an object with the members `key`, `name`, `result`, `error`, `errorDescription`,
`statusCode` and `results`, in that order; absent details and an empty list of children are left out. It
is read from any record with these fields: the flag is taken as it is written, and a node counts as two
levels of nesting, one for itself and one for the list of its children, so that a tree of height 64 just
fits into the 127 levels that a document may have.
-/
namespace Checkup
namespace Node

open Json

/-- The names of the fields, in the order in which they are written. -/
def fieldNames : List String :=
  ["key", "name", "result", "error", "errorDescription", "statusCode", "results"]

/-- A member, unless there is nothing to write. -/
def member? (name : String) (value : Option Value) : List (String × Value) :=
  match value with
  | none => []
  | some v => [(name, v)]

mutual

def toJson : Node → Value
  | ⟨key, name, passed, error, detail, code, children⟩ =>
    .object (member? "key" (key.map .string) ++ [("name", .string name), ("result", .bool passed)] ++
      member? "error" (error.map .string) ++ member? "errorDescription" (detail.map .string) ++
      member? "statusCode" (code.map fun c => .number (.natural c.toNat)) ++
      match children with
      | [] => []
      | t :: ts => [("results", .array (toJson t :: listToJson ts))])

def listToJson : List Node → List Value
  | [] => []
  | t :: ts => toJson t :: listToJson ts

end

def text (t : Node) : String := t.toJson.text

/-- A node from its syntax, with at most `budget` arrays and objects open at once. -/
def ofSyntax? : Nat → Syntax → Option Node
  | 0, _ => none
  | budget + 1, s => do
    let fields ← fields? fieldNames s
    let key ← optional? fields "key" none (readNullable? readText?)
    let name ← required? fields "name" readText?
    let passed ← required? fields "result" readBool?
    let error ← optional? fields "error" none (readNullable? readText?)
    let detail ← optional? fields "errorDescription" none (readNullable? readText?)
    let code ← optional? fields "statusCode" none (readNullable? (readNatural? 65535))
    let children ← optional? fields "results" [] fun s =>
      match budget with
      | 0 => none
      | budget + 1 => readList? (ofSyntax? budget) s
    return ⟨key, name, passed, error, detail, code.map UInt16.ofNat, children⟩

def parse? (text : String) : Option Node := do ofSyntax? maxNesting (← Syntax.parse? text)

end Node
end Checkup
