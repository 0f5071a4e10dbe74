import Checkup.Yaml.Layout

/-!
# Trees

The documents of a text as trees of nodes. A tag is given in full, and an anchor has become a number: the
number of names that were known before it. Since a name that is used again counts once, two anchors may
have the same number, and an alias then repeats the later one of them.
-/
namespace Checkup.Yaml

structure Properties where
  anchor : Option Nat
  tag : Option String
  deriving DecidableEq, Repr

inductive Tree where
  | reference (anchor : Nat)
  | scalar (p : Properties) (text : String) (isPlain : Bool)
  | sequence (p : Properties) (items : List Tree)
  | mapping (p : Properties) (entries : List (Tree × Tree))
  deriving Repr

namespace Tree

/-- The properties of a node that has none. -/
def bare : Properties := ⟨none, none⟩

/-- A node that is not written at all. -/
def empty : Tree := .scalar bare "" true

mutual

/-- The steps in which a tree is told: one for a scalar, and a beginning and an end of a collection. -/
def size : Tree → Nat
  | reference _ => 1
  | scalar .. => 1
  | sequence _ items => sizeOfItems items + 2
  | mapping _ entries => sizeOfEntries entries + 2

def sizeOfItems : List Tree → Nat
  | [] => 0
  | t :: rest => t.size + sizeOfItems rest

def sizeOfEntries : List (Tree × Tree) → Nat
  | [] => 0
  | (k, v) :: rest => k.size + v.size + sizeOfEntries rest

end

/-- A tree with its number, if it has an anchor. -/
def numbered (p : Properties) (t : Tree) : List (Nat × Tree) := (p.anchor.map fun n => (n, t)).toList

mutual

/-- The trees with anchors, in the order in which they begin. -/
def anchored : Tree → List (Nat × Tree)
  | reference _ => []
  | scalar p text isPlain => numbered p (scalar p text isPlain)
  | sequence p items => numbered p (sequence p items) ++ anchoredItems items
  | mapping p entries => numbered p (mapping p entries) ++ anchoredEntries entries

def anchoredItems : List Tree → List (Nat × Tree)
  | [] => []
  | t :: rest => t.anchored ++ anchoredItems rest

def anchoredEntries : List (Tree × Tree) → List (Nat × Tree)
  | [] => []
  | (k, v) :: rest => k.anchored ++ v.anchored ++ anchoredEntries rest

end

/-! ## Reading -/

/-- What is left to read, what the handles of tags stand for, and the numbers of the anchors. -/
structure Source where
  tokens : List Token
  handles : List (String × String)
  names : List (String × Nat)
  deriving Repr

/-- Something that is read from tokens, which may fail. -/
abbrev Reading (α : Type) : Type := StateT Source Option α

def next : Reading (Option Token) := do return (← get).tokens.head?

def advance : Reading Unit := modify fun s => { s with tokens := s.tokens.drop 1 }

/-- Whether the next token is among some. -/
def isNext (expected : List Token) : Reading Bool := do return (← next).any expected.contains

/-- Goes past the next token if it is the expected one, and says whether it was. -/
def accept (t : Token) : Reading Bool := do
  if ← isNext [t] then
    advance
    return true
  else return false

/-- Goes past the next token, which must be the expected one. -/
def expect (t : Token) : Reading Unit := do if !(← accept t) then failure

/-- Gives a name the next number. -/
def bind (name : String) : Reading Nat := do
  let s ← get
  let n := s.names.length
  set { s with names := (name, n) :: s.names.filter (·.1 != name) }
  return n

/-- The number of a name. -/
def numberOf (name : String) : Reading Nat := do
  match (← get).names.lookup name with
  | some n => return n
  | none => failure

/-- The tag that a handle and a suffix spell. -/
def tagOf (handle suffix : String) : Reading String := do
  if handle.isEmpty then return suffix
  else match (← get).handles.lookup handle with
    | some start => return start ++ suffix
    | none => failure

/-- An anchor, if one comes next. -/
def anchor? : Reading (Option Nat) := do
  match ← next with
  | some (.anchor name) =>
    advance
    return some (← bind name)
  | _ => return none

/-- A tag, if one comes next. -/
def tag? : Reading (Option String) := do
  match ← next with
  | some (.tag handle suffix) =>
    advance
    return some (← tagOf handle suffix)
  | _ => return none

/-- The anchor and the tag of a node, in either order. -/
def properties : Reading Properties := do
  match ← anchor? with
  | some n => return ⟨some n, ← tag?⟩
  | none =>
    match ← tag? with
    | some tag => return ⟨← anchor?, some tag⟩
    | none => return bare

/-- Where a node stands: between brackets or braces, in a block, or as a part of an entry of a block,
where the items of a sequence need not be indented. -/
inductive Position where
  | flow
  | block
  | entry
  deriving DecidableEq, Repr

/-- What may follow a key or a value that is not written. -/
def behindEntry : List Token := [.key, .value, .blockEnd]

mutual

def node : Nat → Position → Reading Tree
  | 0, _ => failure
  | fuel + 1, position => do
    match ← next with
    | some (.reference name) =>
      advance
      return .reference (← numberOf name)
    | _ =>
      let p ← properties
      match ← next with
      | some (.scalar text isPlain) =>
        advance
        return .scalar { p with tag := p.tag.filter (· != "!") } text isPlain
      | some .flowSequence =>
        advance
        return .sequence p (← flowItems fuel true)
      | some .flowMapping =>
        advance
        return .mapping p (← flowEntries fuel true)
      | some t =>
        if position = .entry ∧ t = .item then return .sequence p (← plainItems fuel)
        else if position ≠ .flow ∧ t = .blockSequence then
          advance
          return .sequence p (← items fuel)
        else if position ≠ .flow ∧ t = .blockMapping then
          advance
          return .mapping p (← entries fuel)
        else if p = bare then failure
        else return .scalar p "" true
      | none => if p = bare then failure else return .scalar p "" true

/-- A node, unless a token comes that shows that it is not written. -/
def nodeUnless : Nat → Position → List Token → Reading Tree
  | 0, _, _ => failure
  | fuel + 1, position, ends => do
    if ← isNext ends then return empty else node fuel position

def items : Nat → Reading (List Tree)
  | 0 => failure
  | fuel + 1 => do
    if ← accept .item then
      let t ← nodeUnless fuel .block [.item, .blockEnd]
      return t :: (← items fuel)
    else
      expect .blockEnd
      return []

/-- The items of a sequence that is not indented. -/
def plainItems : Nat → Reading (List Tree)
  | 0 => failure
  | fuel + 1 => do
    if ← accept .item then
      let t ← nodeUnless fuel .block (.item :: behindEntry)
      return t :: (← plainItems fuel)
    else return []

def entries : Nat → Reading (List (Tree × Tree))
  | 0 => failure
  | fuel + 1 => do
    if ← accept .key then
      let k ← nodeUnless fuel .entry behindEntry
      let v ← if ← accept .value then nodeUnless fuel .entry behindEntry else pure empty
      return (k, v) :: (← entries fuel)
    else
      expect .blockEnd
      return []

/-- The items of a sequence in brackets; an item may be a mapping of one entry without braces. -/
def flowItems : Nat → (isFirst : Bool) → Reading (List Tree)
  | 0, _ => failure
  | fuel + 1, isFirst => do
    if ← accept .flowSequenceEnd then return []
    else
      if !isFirst then expect .flowEntry
      if ← accept .flowSequenceEnd then return []
      else
        let t ← if ← accept .key then do pure (.mapping bare [← flowPair fuel])
          else node fuel .flow
        return t :: (← flowItems fuel false)

/-- The entry of a mapping without braces. If its key is not written, the token that shows it is lost. -/
def flowPair : Nat → Reading (Tree × Tree)
  | 0 => failure
  | fuel + 1 => do
    let k ← if ← isNext [.value, .flowEntry, .flowSequenceEnd] then do
        advance
        pure empty
      else node fuel .flow
    let v ← if ← accept .value then nodeUnless fuel .flow [.flowEntry, .flowSequenceEnd]
      else pure empty
    return (k, v)

def flowEntries : Nat → (isFirst : Bool) → Reading (List (Tree × Tree))
  | 0, _ => failure
  | fuel + 1, isFirst => do
    if ← accept .flowMappingEnd then return []
    else
      if !isFirst then expect .flowEntry
      if ← accept .flowMappingEnd then return []
      else
        let e ← if ← accept .key then do
            let k ← nodeUnless fuel .flow [.value, .flowEntry, .flowMappingEnd]
            let v ← if ← accept .value then nodeUnless fuel .flow [.flowEntry, .flowMappingEnd]
              else pure empty
            pure (k, v)
          else do pure (← node fuel .flow, empty)
        return e :: (← flowEntries fuel false)

end

/-! ## Documents -/

/-- The handles that have a meaning without a directive. -/
def standardHandles : List (String × String) := [("!", "!"), ("!!", "tag:yaml.org,2002:")]

/-- The directives before a document. A version must not be given twice, and no handle a meaning. -/
def directives : (fuel : Nat) → (hasVersion : Bool) → (handles : List (String × String)) →
    Reading (List (String × String))
  | 0, _, _ => failure
  | fuel + 1, hasVersion, handles => do
    match ← next with
    | some (.version major minor) =>
      if hasVersion ∨ major ≠ 1 ∨ (minor ≠ 1 ∧ minor ≠ 2) then failure
      advance
      directives fuel true handles
    | some (.tagHandle handle replacement) =>
      if (handles.lookup handle).isSome then failure
      advance
      directives fuel hasVersion ((handle, replacement) :: handles)
    | _ => return handles

/-- Goes past the marks that end documents. -/
def skipEnds : Reading Unit :=
  modify fun s => { s with tokens := s.tokens.dropWhile (· == .documentEnd) }

/-- Whether a document without a mark at its beginning comes next. -/
def isBare : Option Token → Bool
  | some (.version ..) => false
  | some (.tagHandle ..) => false
  | some .documentStart => false
  | _ => true

/-- The root of a document. Only the first one need not begin with a mark. -/
def root (fuel : Nat) (isFirst : Bool) : Reading Tree := do
  modify fun s => { s with handles := standardHandles, names := [] }
  if isFirst && isBare (← next) then node fuel .block
  else
    let handles ← directives fuel false []
    modify fun s => { s with handles := handles ++ standardHandles }
    expect .documentStart
    match ← next with
    | none => return empty
    | some .documentEnd => return empty
    | t => if isBare t then node fuel .block else return empty

/-- The roots of the documents that are left. -/
def roots : Nat → (isFirst : Bool) → Reading (List Tree)
  | 0, _ => failure
  | fuel + 1, isFirst => do
    if !isFirst then skipEnds
    if (← next).isNone then return []
    else
      let t ← root fuel isFirst
      let _ ← accept .documentEnd
      return t :: (← roots fuel false)

/-- The documents of a text. No token is looked at by more than three levels of reading, so three units
of fuel for each are enough. -/
def documents? (text : String) : Option (List Tree) := do
  let tokens ← tokens? text
  let (trees, _) ← (roots (3 * tokens.length + 6) true).run ⟨tokens, [], []⟩
  return trees

end Tree
end Checkup.Yaml
