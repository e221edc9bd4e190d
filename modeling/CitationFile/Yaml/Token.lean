import CitationFile.Yaml.Malformed

namespace CitationFile.Yaml

inductive ScalarStyle where
  | plain | singleQuoted | doubleQuoted | literal | folded
deriving DecidableEq, Repr

namespace Token

inductive Kind where
  | streamStart
  | streamEnd
  | versionDirective (major minor : Nat)
  | tagDirective (handle expansion : List Char)
  | documentStart
  | documentEnd
  | blockSequenceStart
  | blockMappingStart
  | blockEnd
  | flowSequenceStart
  | flowSequenceEnd
  | flowMappingStart
  | flowMappingEnd
  | blockEntry
  | flowEntry
  | key
  | value
  | aliasName (name : List Char)
  | anchorName (name : List Char)
  | tag (handle ending : List Char)
  | scalar (text : List Char) (style : ScalarStyle)
deriving DecidableEq, Repr

end Token

structure Token where
  kind : Token.Kind
  start : Mark
  finish : Mark
deriving DecidableEq, Repr

end CitationFile.Yaml
