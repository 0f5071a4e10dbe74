/-!
# Tokens

What the layout of a document says before any tree is built from it. The beginning and the end of an
indented collection are tokens too, as are the key and the value of an entry, whether a sign announces
them or only their position does.
-/
namespace Checkup.Yaml

inductive Token where
  | version (major minor : Nat)
  | tagHandle (handle replacement : String)
  | documentStart
  | documentEnd
  | blockSequence
  | blockMapping
  | blockEnd
  | flowSequence
  | flowSequenceEnd
  | flowMapping
  | flowMappingEnd
  | flowEntry
  | item
  | key
  | value
  | anchor (name : String)
  | reference (name : String)
  | tag (handle suffix : String)
  | scalar (text : String) (isPlain : Bool)
  deriving DecidableEq, Repr

end Checkup.Yaml
