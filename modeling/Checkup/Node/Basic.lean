/-!
# The result tree

A run of checks is reported as a tree. A childless node is one step; a node with children is a check, a
group of steps under a key. `Node.aggregate` is the only way to put children under a node, and the flag
it sets is the conjunction of theirs, so a group without children passes. A node is never changed; the
`with…` functions give a copy with one more detail.

**Names.** A node is the program's `TestResult`; `pass` and `fail` are its `passed` and `failed`, the
`with…` functions its `with_key`, `with_error_detail` and `with_status_code`, and `isLeaf`, `child?`,
`childNames` and `aggregate` its `is_leaf`, `child`, `child_names` and `aggregate`.
-/
namespace Checkup

structure Node where
  key : Option String
  name : String
  passed : Bool
  error : Option String
  errorDetail : Option String
  statusCode : Option UInt16
  children : List Node
  deriving Repr, Inhabited

namespace Node

/-- A childless node for a step that passed. -/
def pass (name : String) : Node := ⟨none, name, true, none, none, none, []⟩

/-- A childless node for a step that failed. -/
def fail (name error : String) : Node := ⟨none, name, false, some error, none, none, []⟩

def withKey (t : Node) (key : String) : Node := { t with key := some key }

def withErrorDetail (t : Node) (detail : String) : Node := { t with errorDetail := some detail }

def withStatusCode (t : Node) (code : UInt16) : Node := { t with statusCode := some code }

/-- The node of a check: it keeps its steps in order and passes when all of them do. -/
def aggregate (key name : String) (children : List Node) : Node :=
  ⟨some key, name, children.all (·.passed), none, none, none, children⟩

def isLeaf (t : Node) : Bool := t.children.isEmpty

/-- The first direct child with a name. -/
def child? (t : Node) (name : String) : Option Node := t.children.find? (·.name == name)

def childNames (t : Node) : List String := t.children.map (·.name)

mutual

def beq : Node → Node → Bool
  | ⟨k, n, p, e, d, c, ts⟩, ⟨k', n', p', e', d', c', ts'⟩ =>
    k == k' && n == n' && p == p' && e == e' && d == d' && c == c' && beqList ts ts'

def beqList : List Node → List Node → Bool
  | [], [] => true
  | t :: ts, u :: us => beq t u && beqList ts us
  | _, _ => false

end

instance : BEq Node := ⟨beq⟩

end Node
end Checkup
