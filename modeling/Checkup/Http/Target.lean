import Checkup.Text.Split

/-!
# Request targets

What a request asks for, as it stands in its first line: a path with or without a query, a whole address,
the name of a host alone, or an asterisk. Unlike a `Url`, which is mended where it can be, a target is
taken as it is written or refused. A fragment is dropped, and characters beyond ASCII are let through in
paths and queries.
-/
namespace Checkup.Http

inductive Target where
  | asterisk
  /-- A host, perhaps with a user before it and a port behind it. -/
  | authority (host : String)
  | origin (path : String) (query : Option String)
  | absolute (scheme host path : String) (query : Option String)
  deriving DecidableEq, Repr

namespace Target

/-- The most bytes of a target. -/
def maxSize : Nat := 65534

def maxScheme : Nat := 64

/-- The most colons of an authority; an address in brackets has up to seven. -/
def maxColons : Nat := 8

/-! ## Paths and queries -/

def inQuery (c : Char) : Bool := '!' ≤ c && !"\"#<>".toList.contains c

/-- Whether a character may stand in a path. Quotes and braces should be escaped and are let through. -/
def inPath (c : Char) : Bool := '!' ≤ c && !"#<>?\u0060".toList.contains c

/-- The path and the query of a text. -/
def splitPath? (cs : List Char) : Option (String × Option String) := do
  let cs := cs.takeWhile (· != '#')
  let path := cs.takeWhile (· != '?')
  guard (path.all inPath)
  match cs.drop path.length with
  | [] => return (String.ofList path, none)
  | _ :: query =>
    guard (query.all inQuery)
    return (String.ofList path, some (String.ofList query))

/-! ## Authorities -/

/-- Where the reading of an authority is: the colons since the last sign that resets them, whether a
bracket is open or has been closed, whether an escape needs a user behind it, and whether the last
character was an at sign. -/
structure Progress where
  colons : Nat
  isOpen : Bool
  isClosed : Bool
  hasEscape : Bool
  endsInAt : Bool
  deriving DecidableEq, Repr

namespace Progress

def start : Progress := ⟨0, false, false, false, false⟩

/-- The signs that may stand in an authority beside letters and digits, and that have no rule. -/
def isSign (c : Char) : Bool := "!$&'()*+,-.;=_~".toList.contains c

/-- One more character; none if it must not stand there. -/
def next? (p : Progress) (c : Char) : Option Progress :=
  let p := { p with endsInAt := c == '@' }
  match c with
  | ':' => if p.colons < maxColons then some { p with colons := p.colons + 1 } else none
  | '[' => if p.hasEscape ∨ p.isOpen then none else some { p with isOpen := true }
  | ']' =>
    if !p.isOpen ∨ p.isClosed then none
    else some { p with isClosed := true, colons := 0, hasEscape := false }
  | '@' => some { p with colons := 0, hasEscape := false }
  | '%' => some { p with hasEscape := true }
  | _ => if c.isAlphanum || isSign c then some p else none

/-- Whether an authority may end here. -/
def isComplete (p : Progress) : Bool :=
  p.isOpen == p.isClosed && p.colons ≤ 1 && !p.endsInAt && !p.hasEscape

end Progress

def isAuthority (cs : List Char) : Bool :=
  (cs.foldlM Progress.next? .start).any (·.isComplete)

/-- The authority before a path, a query or a fragment, and what follows it. -/
def splitAuthority? (cs : List Char) : Option (List Char × List Char) :=
  let host := cs.takeWhile fun c => c != '/' && c != '?' && c != '#'
  if isAuthority host then some (host, cs.drop host.length) else none

/-! ## Schemes -/

def inScheme (c : Char) : Bool := c.isAlphanum || "+-.~".toList.contains c

/-- What a text says of a scheme. -/
inductive Start where
  | tooLong
  | none
  | scheme (name : List Char) (rest : List Char)

/-- Whether a text begins with some lower-case letters and signs, in any case. -/
def beginsWith (start cs : List Char) : Bool := (cs.take start.length).map Char.toLower == start

/-- The scheme at the start of a text. -/
def start (cs : List Char) : Start :=
  let web := ["http://", "https://"].find? fun s => beginsWith s.toList cs
  match web with
  | some s => .scheme (s.toList.dropLast.dropLast.dropLast) (cs.drop s.length)
  | none =>
    let name := cs.takeWhile inScheme
    match cs.drop name.length with
    | ':' :: '/' :: '/' :: rest => if maxScheme < name.length then .tooLong else .scheme name rest
    | _ => .none

/-! ## Targets -/

/-- The target of a text of more than one character that does not begin with a slash. -/
def ofText? (cs : List Char) : Option Target :=
  match start cs with
  | .tooLong => none
  | .none => if isAuthority cs then some (.authority (String.ofList cs)) else none
  | .scheme name rest => do
    let (host, rest) ← splitAuthority? rest
    guard !host.isEmpty
    let (path, query) ← splitPath? rest
    return .absolute (String.ofList name) (String.ofList host) (if path.isEmpty then "/" else path) query

/-- The target that a text spells. -/
def parse? (text : String) : Option Target :=
  if maxSize < text.utf8ByteSize then none
  else match text.toList with
    | [] => none
    | ['*'] => some .asterisk
    | '/' :: rest => do
      let (path, query) ← splitPath? ('/' :: rest)
      return .origin path query
    | cs => ofText? cs

def path : Target → String
  | asterisk => "*"
  | authority _ => ""
  | origin path _ => path
  | absolute _ _ path _ => path

end Target
end Checkup.Http
