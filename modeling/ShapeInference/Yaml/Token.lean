import ShapeInference.Yaml.Failure

/-!
# Tokens

- `Yaml.Directive`: what a line before a document may declare;
- `Yaml.TokenKind`: the tokens of a document;
- `Yaml.Token`: a token with its place;
- `Yaml.TokenKind.label`: how a message names a token.
-/

namespace ShapeInference

namespace Yaml

/-- What a line before a document may declare. -/
inductive Directive where
  | version (major minor : Nat)
  /-- Tags that begin with a handle begin with something else. -/
  | handle (handle beginning : Text)
  | unknown
  deriving DecidableEq, Repr

/-- The tokens of a document. -/
inductive TokenKind where
  | streamStart
  | streamEnd
  | directive (d : Directive)
  | documentStart
  | documentEnd
  | blockSequenceStart
  | blockMappingStart
  | blockEnd
  | sequenceStart
  | sequenceEnd
  | mappingStart
  | mappingEnd
  | entry
  | blockEntry
  | key
  | value
  | reference (name : Text)
  | anchor (name : Text)
  | tag (handle : Option Text) (ending : Text)
  | scalar (t : Text) (plain : Bool)
  deriving DecidableEq, Repr

/-- A token with the places where it begins and ends. -/
structure Token where
  kind : TokenKind
  start : Mark
  stop : Mark
  deriving DecidableEq, Repr

/-- How a message names a token. -/
def TokenKind.label : TokenKind → Text
  | streamStart => "<stream start>"
  | streamEnd => "<stream end>"
  | directive _ => "<directive>"
  | documentStart => "<document start>"
  | documentEnd => "<document end>"
  | blockSequenceStart => "<block sequence start>"
  | blockMappingStart => "<block mapping start>"
  | blockEnd => "<block end>"
  | sequenceStart => "["
  | sequenceEnd => "]"
  | mappingStart => "\x7b"
  | mappingEnd => "\x7d"
  | entry => ","
  | blockEntry => "-"
  | key => "?"
  | value => ":"
  | reference _ => "<alias>"
  | anchor _ => "<anchor>"
  | tag _ _ => "<tag>"
  | scalar _ _ => "<scalar>"

end Yaml

end ShapeInference
