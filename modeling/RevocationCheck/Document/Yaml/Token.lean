/-!
# Tokens

What a text in the notation consists of.  Collections in brackets and braces show where they
begin and end; those that indentation gives have tokens for it that no character stands for.
-/

namespace RevocationCheck.Document.Yaml

/-- A tag as it is written: a handle and what stands behind it. -/
structure Tag where
  handle : String
  suffix : String
deriving Repr, DecidableEq

/-- A token. -/
inductive Token
  /-- The version that a document asks for. -/
  | version
  /-- A handle with the text it stands for. -/
  | handle (name : String) (meaning : String)
  | documentStart
  | documentEnd
  | blockSequence
  | blockMapping
  | blockEnd
  | flowSequence
  | flowSequenceEnd
  | flowMapping
  | flowMappingEnd
  /-- The dash in front of an item. -/
  | item
  /-- The comma behind an item or entry. -/
  | comma
  | key
  | value
  | alias (name : String)
  | anchor (name : String)
  | tag (tag : Tag)
  | scalar (isPlain : Bool) (text : String)
  | streamEnd
deriving Repr, DecidableEq

/-- Is a token an anchor or a tag, which belong to the node that follows? -/
def Token.isProperty : Token → Bool
  | anchor _ | tag _ => true
  | _ => false

end RevocationCheck.Document.Yaml
