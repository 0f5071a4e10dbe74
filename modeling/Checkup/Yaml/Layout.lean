import Checkup.Yaml.Property
import Checkup.Yaml.Scalar

/-!
# Layout

The tokens of a document. Outside of brackets and braces indentation opens and closes collections: the
content of the innermost one begins at a margin, and a token before the margin closes it. The key of an
entry is often known as one only when its colon is reached, so each place where a key may begin is kept
as a candidate as long as the line lasts, and the tokens that announce the key are put there afterwards.
-/
namespace Checkup.Yaml

/-- A place where a key may have begun: how many tokens are before it, where it stands, and whether it
must be a key, since it stands at the margin of a mapping. -/
structure Candidate where
  index : Nat
  line : Nat
  column : Nat
  isRequired : Bool
  deriving DecidableEq, Repr

/-- What is known in the middle of a document: the tokens so far, the last one first; the margin of the
innermost block and those of the blocks around it; whether a key may begin here; and the candidates, of
the innermost collection in brackets or braces and of what is around it. -/
structure Layout where
  tokens : List Token
  margin : Nat
  outerMargins : List Nat
  mayStartKey : Bool
  candidate : Option Candidate
  outerCandidates : List (Option Candidate)
  deriving Repr

namespace Layout

def start : Layout := ⟨[], 0, [], true, none, []⟩

/-- Whether a bracket or a brace is open. -/
def inFlow (l : Layout) : Bool := !l.outerCandidates.isEmpty

def push (l : Layout) (t : Token) : Layout := { l with tokens := t :: l.tokens }

/-- Puts a token behind the first `index` ones. -/
def insert (l : Layout) (index : Nat) (t : Token) : Layout :=
  let later := l.tokens.length - index
  { l with tokens := l.tokens.take later ++ t :: l.tokens.drop later }

/-! ## Indentation -/

/-- Closes the blocks with a margin beyond the given one. -/
def closeBlocks (margin : Nat) (tokens : List Token) (current : Nat) :
    List Nat → List Token × Nat × List Nat
  | [] => (tokens, current, [])
  | outer :: rest =>
    if margin < current then closeBlocks margin (.blockEnd :: tokens) outer rest
    else (tokens, current, outer :: rest)

/-- Goes back to a margin. Between brackets and braces indentation has no meaning. -/
def unindent (l : Layout) (margin : Nat) : Layout :=
  if l.inFlow then l
  else
    let (tokens, current, outer) := closeBlocks margin l.tokens l.margin l.outerMargins
    { l with tokens := tokens, margin := current, outerMargins := outer }

/-- Opens a block at a column, if it is not open yet, with a token behind the first `index` ones. -/
def indent (l : Layout) (column index : Nat) (t : Token) : Layout :=
  if l.inFlow ∨ column < l.margin then l
  else { l.insert index t with margin := column + 1, outerMargins := l.margin :: l.outerMargins }

/-! ## Candidates -/

/-- A candidate that has not come true. -/
def Candidate.dropped? : Option Candidate → Option (Option Candidate)
  | some k => if k.isRequired then none else some none
  | none => some none

/-- The longest key, in characters. -/
def maxKey : Nat := 1024

/-- A candidate, unless its line has ended or it is too far away. -/
def Candidate.current? (line column : Nat) (k : Option Candidate) : Option (Option Candidate) :=
  if k.any fun k => k.line < line || k.column + maxKey < column then Candidate.dropped? k else some k

/-- Drops the candidates that can come true no more. -/
def dropStale? (l : Layout) (line column : Nat) : Option Layout := do
  return { l with
    candidate := ← Candidate.current? line column l.candidate
    outerCandidates := ← l.outerCandidates.mapM (Candidate.current? line column) }

/-- Drops the candidate. -/
def drop? (l : Layout) : Option Layout := do
  return { l with candidate := ← Candidate.dropped? l.candidate }

/-- Makes the place before the next token a candidate, if a key may begin there. -/
def offer? (l : Layout) (spots : List Spot) : Option Layout := do
  if l.mayStartKey then
    let l ← l.drop?
    let column := columnOf spots
    let isRequired := !l.inFlow && l.margin == column + 1
    return { l with candidate := some ⟨l.tokens.length, lineOf spots, column, isRequired⟩ }
  else return l

/-- Whether a key may begin behind the next token. -/
def allow (l : Layout) (mayStartKey : Bool) : Layout := { l with mayStartKey := mayStartKey }

/-! ## Kinds of tokens -/

/-- A directive or a mark between documents, which closes all blocks. -/
def boundary? (l : Layout) (t : Token) : Option Layout := do
  return (((← (l.unindent 0).drop?).allow false).push t)

/-- An opening bracket or brace. -/
def openFlow? (l : Layout) (spots : List Spot) (t : Token) : Option Layout := do
  let l ← l.offer? spots
  return ({ l with candidate := none, outerCandidates := l.candidate :: l.outerCandidates }.allow true).push t

/-- A closing bracket or brace. -/
def closeFlow? (l : Layout) (t : Token) : Option Layout := do
  let l ← l.drop?
  let l := match l.outerCandidates with
    | [] => l
    | k :: rest => { l with candidate := k, outerCandidates := rest }
  return (l.allow false).push t

/-- Outside of brackets and braces, opens a block at the next token, before which a key may begin. -/
def openBlock? (l : Layout) (spots : List Spot) (t : Token) : Option Layout :=
  if l.inFlow then some l
  else if l.mayStartKey then some (l.indent (columnOf spots) l.tokens.length t)
  else none

/-- The sign of an item. -/
def item? (l : Layout) (spots : List Spot) : Option Layout := do
  let l ← (← l.openBlock? spots .blockSequence).drop?
  return (l.allow true).push .item

/-- The sign of a key. -/
def key? (l : Layout) (spots : List Spot) : Option Layout := do
  let l ← (← l.openBlock? spots .blockMapping).drop?
  return (l.allow !l.inFlow).push .key

/-- The sign of a value. If there is a candidate, it has come true. -/
def value? (l : Layout) (spots : List Spot) : Option Layout := do
  match l.candidate with
  | some k =>
    let l := (l.insert k.index .key).indent k.column k.index .blockMapping
    return ({ l with candidate := none }.allow false).push .value
  | none =>
    let l ← l.openBlock? spots .blockMapping
    return (l.allow !l.inFlow).push .value

/-! ## Reading -/

/-- What follows blanks, line breaks and comments, and whether a key may begin there. A tab is no blank
where it could be taken for indentation. -/
def skipToToken (inFlow mayStartKey inComment : Bool) : List Spot → Bool × List Spot
  | [] => (mayStartKey, [])
  | s :: rest =>
    if isBreak s.char then skipToToken inFlow (mayStartKey || !inFlow) false rest
    else if inComment ∧ s.char ≠ nul then skipToToken inFlow mayStartKey true rest
    else if s.char = ' ' ∨ (s.char = '\t' ∧ (inFlow ∨ !mayStartKey)) then
      skipToToken inFlow mayStartKey false rest
    else if s.char = '#' then skipToToken inFlow mayStartKey true rest
    else (mayStartKey, s :: rest)

/-- The token of a scalar. -/
def scalarToken (text : List Char) (isPlain : Bool) : Token := .scalar (String.ofList text) isPlain

/-- A token whose text has been read, where a key may begin. -/
def content? (l : Layout) (spots : List Spot) (read : Option (Token × List Spot)) :
    Option (Layout × List Spot) := do
  let (t, rest) ← read
  return (((← l.offer? spots).allow false).push t, rest)

/-- A plain scalar. -/
def plain? (l : Layout) (spots : List Spot) : Option (Layout × List Spot) := do
  let p ← readPlain l.inFlow l.margin .none spots
  return (((← l.offer? spots).allow p.endsLine).push (scalarToken p.text true), p.rest)

/-- A block scalar. -/
def block? (l : Layout) (isFolded : Bool) (spots : List Spot) : Option (Layout × List Spot) := do
  let (text, rest) ← readBlock isFolded l.margin spots
  return (((← l.drop?).allow true).push (scalarToken text false), rest)

/-- The next token, which does not stand at the end. -/
def token? (l : Layout) (spots : List Spot) : Option (Layout × List Spot) :=
  let rest := spots.drop 1
  let hasGap := l.inFlow || isGap (peek rest)
  let behind (n : Nat) (l : Option Layout) : Option (Layout × List Spot) :=
    l.map fun l => (l, spots.drop n)
  let named (token : String → Token) : Option (Layout × List Spot) :=
    l.content? spots ((readName? rest).map fun p => (token p.1, p.2))
  let quoted (read : Option (List Char × List Spot)) : Option (Layout × List Spot) :=
    l.content? spots (read.map fun p => (scalarToken p.1 false, p.2))
  if columnOf spots = 0 ∧ peek spots = '%' then do
    let (t, rest) ← readDirective? spots
    return (← l.boundary? t, rest)
  else if atMark '-' spots then behind 3 (l.boundary? .documentStart)
  else if atMark '.' spots then behind 3 (l.boundary? .documentEnd)
  else match peek spots with
    | '[' => behind 1 (l.openFlow? spots .flowSequence)
    | '{' => behind 1 (l.openFlow? spots .flowMapping)
    | ']' => behind 1 (l.closeFlow? .flowSequenceEnd)
    | '}' => behind 1 (l.closeFlow? .flowMappingEnd)
    | ',' => behind 1 (l.drop?.map fun l => (l.allow true).push .flowEntry)
    | '-' => if isGap (peek rest) then behind 1 (l.item? spots) else l.plain? spots
    | '?' => if hasGap then behind 1 (l.key? spots) else l.plain? spots
    | ':' => if hasGap then behind 1 (l.value? spots) else l.plain? spots
    | '*' => named .reference
    | '&' => named .anchor
    | '!' => l.content? spots (readTag? l.inFlow spots)
    | '|' => if l.inFlow then none else l.block? false rest
    | '>' => if l.inFlow then none else l.block? true rest
    | '\'' => quoted (readSingle .none rest)
    | '"' => quoted (readDouble .none rest)
    | '\t' | '%' | '@' | '\u0060' => none
    | _ => l.plain? spots

/-- Reads the tokens from here to the end; every one of them takes fuel. -/
def run : (fuel : Nat) → Layout → List Spot → Option (List Token)
  | 0, _, _ => none
  | fuel + 1, l, spots => do
    let (mayStartKey, spots) := skipToToken l.inFlow l.mayStartKey false spots
    let l ← (l.allow mayStartKey).dropStale? (lineOf spots) (columnOf spots)
    let l := l.unindent (columnOf spots + 1)
    if peek spots = nul then return (← (l.unindent 0).drop?).tokens.reverse
    else
      let (l, rest) ← l.token? spots
      run fuel l rest

end Layout

/-- The tokens of a text. There are fewer of them than characters, the end included. -/
def tokens? (text : String) : Option (List Token) := do
  let spots ← spots? text
  Layout.start.run spots.length spots

end Checkup.Yaml
