import Checkup.Text.Hexadecimal
import Checkup.Yaml.Spot

/-!
# Scalars

A scalar is written plain, between quotes, or as a block of indented lines. Inside plain and quoted
scalars blanks at the ends of lines are dropped and line breaks are folded: a single one stands for a
space, and of several the first is dropped.
-/
namespace Checkup.Yaml

/-- A text in front of what has been read. -/
def before (text : List Char) (read : Option (List Char × List Spot)) :
    Option (List Char × List Spot) := read.map fun p => (text ++ p.1, p.2)

/-! ## Folding -/

/-- What has been read since the last character of a scalar that is no blank. -/
inductive Pause where
  | blanks (text : List Char)
  /-- A line break, unless it was escaped, and the ones behind it. -/
  | breaks (first : Option Char) (others : List Char)
  deriving DecidableEq, Repr

namespace Pause

def none : Pause := .blanks []

/-- One more blank; those at the beginning of a line do not count. -/
def blank (c : Char) : Pause → Pause
  | .blanks text => .blanks (text ++ [c])
  | .breaks first others => .breaks first others

/-- One more line break; blanks at the end of a line do not count. -/
def newLine (c : Char) : Pause → Pause
  | .blanks _ => .breaks (some c) []
  | .breaks first others => .breaks first (others ++ [c])

/-- What stands for a pause in the scalar. -/
def text : Pause → List Char
  | .blanks text => text
  | .breaks (some '\n') [] => [' ']
  | .breaks (some '\n') others => others
  | .breaks first others => first.toList ++ others

/-- Whether a line has ended in a pause. -/
def hasBreak : Pause → Bool
  | .blanks _ => false
  | .breaks _ _ => true

end Pause

/-! ## Quoted scalars -/

/-- The number of some hexadecimal digits. -/
def hexNumber? (cs : List Char) : Option Nat := do
  return (← cs.mapM Text.hexValue?).foldl (fun n d => n * 16 + d) 0

/-- The character with a number, unless there is none. -/
def charOf? (n : Nat) : Option Char :=
  if n.isValidChar then some (Char.ofNat n) else none

/-- What a letter behind a backslash stands for: a character, or a number of digits that tell one. -/
inductive Escape where
  | char (c : Char)
  | digits (n : Nat)

/-- The meaning of a letter behind a backslash. -/
def escape? : Char → Option Escape
  | '0' => some (.char nul)
  | 'a' => some (.char (Char.ofNat 0x07))
  | 'b' => some (.char (Char.ofNat 0x08))
  | 't' => some (.char '\t')
  | '\t' => some (.char '\t')
  | 'n' => some (.char '\n')
  | 'v' => some (.char (Char.ofNat 0x0B))
  | 'f' => some (.char (Char.ofNat 0x0C))
  | 'r' => some (.char '\r')
  | 'e' => some (.char (Char.ofNat 0x1B))
  | ' ' => some (.char ' ')
  | '"' => some (.char '"')
  | '/' => some (.char '/')
  | '\\' => some (.char '\\')
  | 'N' => some (.char (Char.ofNat 0x85))
  | '_' => some (.char (Char.ofNat 0xA0))
  | 'L' => some (.char (Char.ofNat 0x2028))
  | 'P' => some (.char (Char.ofNat 0x2029))
  | 'x' => some (.digits 2)
  | 'u' => some (.digits 4)
  | 'U' => some (.digits 8)
  | _ => none

/-- The character of an escape, and what follows its digits. -/
def escaped? (letter : Char) (spots : List Spot) : Option (Char × List Spot) :=
  match escape? letter with
  | none => none
  | some (.char c) => some (c, spots)
  | some (.digits n) =>
    if spots.length < n then none
    else ((hexNumber? ((spots.take n).map Spot.char)).bind charOf?).map fun c => (c, spots.drop n)

theorem length_of_escaped? {letter : Char} {spots rest : List Spot} {c : Char}
    (h : escaped? letter spots = some (c, rest)) : rest.length ≤ spots.length := by
  unfold escaped? at h
  split at h
  · simp at h
  · simp_all
  · split at h
    · simp at h
    · simp only [Option.map_eq_some_iff, Prod.mk.injEq] at h
      obtain ⟨_, _, _, rfl⟩ := h
      simp

/-- The rest of a text between single quotes, from behind the first one. -/
def readSingle (pause : Pause) : List Spot → Option (List Char × List Spot)
  | [] => none
  | s :: rest =>
    if s.char = nul ∨ atDocumentMark (s :: rest) then none
    else if isBlank s.char then readSingle (pause.blank s.char) rest
    else if isBreak s.char then readSingle (pause.newLine s.char) rest
    else if s.char = '\'' then
      match rest with
      | [] => some (pause.text, rest)
      | t :: rest' =>
        if t.char = '\'' then before (pause.text ++ ['\'']) (readSingle .none rest')
        else some (pause.text, rest)
    else before (pause.text ++ [s.char]) (readSingle .none rest)

/-- The rest of a text between double quotes, from behind the first one. -/
def readDouble (pause : Pause) : List Spot → Option (List Char × List Spot)
  | [] => none
  | s :: rest =>
    if s.char = nul ∨ atDocumentMark (s :: rest) then none
    else if isBlank s.char then readDouble (pause.blank s.char) rest
    else if isBreak s.char then readDouble (pause.newLine s.char) rest
    else if s.char = '"' then some (pause.text, rest)
    else if s.char = '\\' then
      match rest with
      | [] => none
      | t :: rest' =>
        if isBreak t.char then before pause.text (readDouble (.breaks none []) rest')
        else match _read : escaped? t.char rest' with
          | none => none
          | some (c, rest'') => before (pause.text ++ [c]) (readDouble .none rest'')
    else before (pause.text ++ [s.char]) (readDouble .none rest)
termination_by spots => spots.length
decreasing_by
  all_goals simp only [List.length_cons]
  any_goals have := length_of_escaped? _read
  all_goals omega

/-! ## Plain scalars -/

/-- A plain scalar, whether its last line has ended, and what follows it. -/
structure Plain where
  text : List Char
  endsLine : Bool
  rest : List Spot

/-- Signs that end a plain scalar between brackets and braces. -/
def isFlowSign (c : Char) : Bool := ",[]\x7b\x7d".toList.contains c

/-- Whether a plain scalar ends before a character. Behind a pause it also ends before a comment, before
the end of the document and, outside of brackets and braces, before a line that does not reach the
margin. -/
def endsPlain (inFlow : Bool) (margin : Nat) (afterPause : Bool) (spots : List Spot) : Bool :=
  let c := peek spots
  c == nul || (c == ':' && isGap (peekAt 1 spots)) || (inFlow && isFlowSign c)
    || (afterPause
      && ((!inFlow && columnOf spots < margin) || atDocumentMark spots || c == '#'))

/-- Reads a plain scalar on. Between brackets and braces a colon must not stand directly before one of
their signs, and a tab must not stand before the margin. -/
def readPlain (inFlow : Bool) (margin : Nat) (pause : Pause) : List Spot → Option Plain
  | [] => some ⟨[], pause.hasBreak, []⟩
  | s :: rest =>
    if isBlank s.char then
      if pause.hasBreak ∧ s.column < margin ∧ s.char = '\t' then none
      else readPlain inFlow margin (pause.blank s.char) rest
    else if isBreak s.char then readPlain inFlow margin (pause.newLine s.char) rest
    else
      let next := peek rest
      if !endsPlain inFlow margin (pause != .none) (s :: rest) then
        if inFlow ∧ s.char = ':' ∧ (isFlowSign next ∨ next = '?') then none
        else (readPlain inFlow margin .none rest).map fun p =>
          { p with text := pause.text ++ s.char :: p.text }
      else some ⟨[], pause.hasBreak, s :: rest⟩

/-! ## Block scalars -/

/-- What becomes of the line breaks at the end of a block scalar. -/
inductive Chomping where
  | strip
  | clip
  | keep
  deriving DecidableEq, Repr

/-- The header of a block scalar: its sign, how it ends, and how far it is indented, if it says so. -/
structure Header where
  isFolded : Bool
  chomping : Chomping
  increment : Nat
  deriving DecidableEq, Repr

/-- How a block scalar ends, if a sign says so. -/
def chomping? : Char → Option Chomping
  | '+' => some .keep
  | '-' => some .strip
  | _ => none

/-- The header of a block scalar, from behind its sign, and what follows its line. -/
def readHeader? (isFolded : Bool) (spots : List Spot) : Option (Header × List Spot) := do
  let digit? (spots : List Spot) : Option (Nat × List Spot) :=
    let c := peek spots
    if c = '0' then none
    else if c.isDigit then some (c.toNat - '0'.toNat, spots.drop 1)
    else some (0, spots)
  let sign (spots : List Spot) : Chomping × List Spot :=
    match chomping? (peek spots) with
    | some c => (c, spots.drop 1)
    | none => (.clip, spots)
  match chomping? (peek spots) with
  | some c =>
    let (increment, rest) ← digit? (spots.drop 1)
    return (⟨isFolded, c, increment⟩, ← skipLine? rest)
  | none =>
    let (increment, rest) ← digit? spots
    let (c, rest) := if increment = 0 then (.clip, rest) else sign rest
    return (⟨isFolded, c, increment⟩, ← skipLine? rest)

/-- The line breaks before the first line with content, the deepest column that was reached, and what
follows. A limit of zero is none; a tab must not stand before it. -/
def skipIndentation (limit deepest : Nat) : List Spot → Option (List Char × Nat × List Spot)
  | [] => some ([], deepest, [])
  | s :: rest =>
    let isBefore := limit = 0 ∨ s.column < limit
    if s.char = ' ' ∧ isBefore then skipIndentation limit deepest rest
    else if s.char = '\t' ∧ isBefore then none
    else
      let deepest := max deepest s.column
      if isBreak s.char then
        (skipIndentation limit deepest rest).map fun p => (s.char :: p.1, p.2)
      else some ([], deepest, s :: rest)

/-- What stands between two lines of a block scalar: the break behind the first one, the breaks of empty
lines, and whether the first one begins with a blank. -/
structure Space where
  first : Option Char
  others : List Char
  startsBlank : Bool
  deriving DecidableEq, Repr

/-- What stands for the breaks before a line. They are folded between lines that begin with no blank. -/
def Space.text (s : Space) (isFolded : Bool) (next : Char) : List Char :=
  if isFolded ∧ s.first = some '\n' ∧ !s.startsBlank ∧ !isBlank next then
    (if s.others.isEmpty then [' '] else s.others)
  else s.first.toList ++ s.others

/-- What stands for the breaks behind the last line. -/
def Space.tail (s : Space) : Chomping → List Char
  | .strip => []
  | .clip => s.first.toList
  | .keep => s.first.toList ++ s.others

/-- Reads the lines of a block scalar on, from inside a line or from behind one. -/
def readLines (h : Header) (margin : Nat) (inLine : Bool) (space : Space) :
    List Spot → Option (List Char × List Spot)
  | [] => some (space.tail h.chomping, [])
  | s :: rest =>
    if inLine then
      if isBreak s.char then readLines h margin false { space with first := some s.char } rest
      else if s.char = nul then some ([], s :: rest)
      else before [s.char] (readLines h margin true space rest)
    else if s.char = ' ' ∧ s.column < margin then readLines h margin false space rest
    else if s.char = '\t' ∧ s.column < margin then none
    else if isBreak s.char then
      readLines h margin false { space with others := space.others ++ [s.char] } rest
    else if s.char = nul ∨ s.column ≠ margin then some (space.tail h.chomping, s :: rest)
    else before (space.text h.isFolded s.char ++ [s.char])
      (readLines h margin true ⟨none, [], isBlank s.char⟩ rest)

/-- A block scalar, from behind its sign, inside a block whose content begins at a margin. -/
def readBlock (isFolded : Bool) (margin : Nat) (spots : List Spot) :
    Option (List Char × List Spot) := do
  let (h, rest) ← readHeader? isFolded spots
  let limit := if h.increment = 0 then 0 else margin - 1 + h.increment
  let (breaks, deepest, rest) ← skipIndentation limit 0 rest
  let margin := if limit = 0 then max deepest (max margin 1) else limit
  readLines h margin false ⟨none, breaks, false⟩ rest

end Checkup.Yaml
