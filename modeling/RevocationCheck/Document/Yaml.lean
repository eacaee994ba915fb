import RevocationCheck.Document.Yaml.Layout
import RevocationCheck.Document.Yaml.Nesting

/-!
# YAML

A file holds one document.  Its text is cut into tokens, the tokens are nested into nodes, and
nodes become values.  Anchors and tags are understood; keys that are neither text nor numbers nor
truth values are refused.
-/

namespace RevocationCheck.Document.Yaml

/-- Read a text.  A text without a document is an empty table. -/
def parse? (s : String) : Option Document := do
  match ← readDocument? (← tokens? s) with
  | none => some (.table [])
  | some node => node.toDocument?

end RevocationCheck.Document.Yaml
