import RevocationCheck.Document.Yaml.Node
import RevocationCheck.Document.Yaml.Token

/-!
# Nesting

From tokens to nodes.  Collections nest; an entry or item that holds nothing is null.  A tag's
handle gives way to what it stands for, and an alias to the node that its anchor names.
-/

namespace RevocationCheck.Document.Yaml

/-- The names that anchors have given so far, the latest first.  A name can be given again before
the node it was given to is complete, so names go by number. -/
structure Anchors where
  names : List (String × Nat)
  nodes : List (Nat × Node)

namespace Anchors

/-- Give a name to the node that begins; gives back its number. -/
def name (a : Anchors) (s : String) : Nat × Anchors :=
  (a.names.length, { a with names := (s, a.names.length) :: a.names })

/-- Keep a node that is complete, if it has a number. -/
def complete (a : Anchors) (number : Option Nat) (node : Node) : Anchors :=
  match number with
  | some n => { a with nodes := (n, node) :: a.nodes }
  | none => a

/-- The node of a name.  A node inside itself is bad. -/
def node? (a : Anchors) (s : String) : Option Node :=
  (valueAt? s a.names).map fun n =>
    match a.nodes.find? (·.1 = n) with
    | some (_, node) => node
    | none => .bad

end Anchors

/-- The tokens that are left, and the anchors that have been passed. -/
structure Tail where
  tokens : List Token
  anchors : Anchors

/-- Drop some tokens. -/
def Tail.drop (t : Tail) (n : Nat) : Tail := { t with tokens := t.tokens.drop n }

/-- What stands in front of a node. -/
structure Properties where
  /-- The number of its anchor. -/
  anchor : Option Nat
  tag : Option Tag

/-- The handle of the notation's own tags. -/
def ownHandle : String := "tag:yaml.org,2002:"

/-- Replace a handle by what it stands for.  A closed handle has to be declared, except for the
one of the notation's own tags. -/
def resolveTag? (handles : List (String × String)) (tag : Tag) : Option Tag :=
  match valueAt? tag.handle handles with
  | some meaning => some { tag with handle := meaning }
  | none =>
    if tag.handle = "!!" then some { tag with handle := ownHandle }
    else if 2 ≤ tag.handle.length then none
    else some tag

/-- Read an anchor and a tag in either order. -/
def readProperties? (handles : List (String × String)) (t : Tail) : Option (Properties × Tail) :=
  let named (s : String) (tag : Option Tag) (n : Nat) : Properties × Tail :=
    let (number, anchors) := t.anchors.name s
    (⟨some number, tag⟩, { t.drop n with anchors })
  match t.tokens with
  | .anchor s :: .tag tag :: _ =>
    (resolveTag? handles tag).map fun tag => named s (some tag) 2
  | .anchor s :: _ => some (named s none 1)
  | .tag tag :: .anchor s :: _ =>
    (resolveTag? handles tag).map fun tag => named s (some tag) 2
  | .tag tag :: _ => (resolveTag? handles tag).map fun tag => (⟨none, some tag⟩, t.drop 1)
  | _ => some (⟨none, none⟩, t)

/-- The value of a scalar. -/
def scalarNode (isPlain : Bool) (tag : Option Tag) (written : String) : Node :=
  match isPlain, tag with
  | false, _ => .text written
  | true, none => .ofPlain written
  | true, some tag =>
    if tag.handle = ownHandle then .ofTagged tag.suffix written else .text written

/-- Is there nothing before one of some tokens? -/
def isAt (ends : List Token) (t : Tail) : Bool := t.tokens.head?.any ends.contains

mutual

/-- Read a node.  Not all kinds of block may stand everywhere. -/
def readNode (handles : List (String × String)) (isBlock isBare : Bool) (fuel : Nat) (t : Tail) :
    Option (Node × Tail) :=
  match fuel with
  | 0 => none
  | fuel + 1 =>
    match t.tokens with
    | .alias s :: _ => (t.anchors.node? s).map (·, t.drop 1)
    | _ => do
      let (properties, t) ← readProperties? handles t
      let (node, t) ← readContent handles isBlock isBare properties fuel t
      some (node, { t with anchors := t.anchors.complete properties.anchor node })

/-- Read what a node holds.  Behind an anchor or a tag that may be nothing. -/
def readContent (handles : List (String × String)) (isBlock isBare : Bool)
    (properties : Properties) (fuel : Nat) (t : Tail) : Option (Node × Tail) :=
  match fuel with
  | 0 => none
  | fuel + 1 =>
    let next := t.drop 1
    match t.tokens.head?, isBlock, isBare with
    | some .item, _, true =>
      (readBareItems handles fuel t).map fun (items, t) => (.sequence items, t)
    | some (.scalar isPlain written), _, _ =>
      some (scalarNode isPlain properties.tag written, next)
    | some .flowSequence, _, _ =>
      (readFlowItems handles true fuel next).map fun (items, t) => (.sequence items, t)
    | some .flowMapping, _, _ => do
      let (nodes, t) ← readFlowEntries handles true fuel next
      some (.mapping (← Node.entriesOf? [] nodes), t)
    | some .blockSequence, true, _ =>
      (readItems handles fuel next).map fun (items, t) => (.sequence items, t)
    | some .blockMapping, true, _ => do
      let (nodes, t) ← readEntries handles fuel next
      some (.mapping (← Node.entriesOf? [] nodes), t)
    | _, _, _ =>
      if properties.anchor.isSome || properties.tag.isSome then
        some (scalarNode true properties.tag "", t)
      else none

/-- Read a node, unless one of some tokens stands there, which means that there is nothing. -/
def readUnless (ends : List Token) (handles : List (String × String)) (isBlock isBare : Bool)
    (fuel : Nat) (t : Tail) : Option (Node × Tail) :=
  match fuel with
  | 0 => none
  | fuel + 1 => if isAt ends t then some (.null, t) else readNode handles isBlock isBare fuel t

/-- Read the items of a block. -/
def readItems (handles : List (String × String)) (fuel : Nat) (t : Tail) :
    Option (List Node × Tail) :=
  match fuel with
  | 0 => none
  | fuel + 1 =>
    match t.tokens.head? with
    | some .blockEnd => some ([], t.drop 1)
    | some .item => do
      let (item, t) ← readUnless [.item, .blockEnd] handles true false fuel (t.drop 1)
      let (items, t) ← readItems handles fuel t
      some (item :: items, t)
    | _ => none

/-- Read the items of a sequence that is not indented further than the mapping around it. -/
def readBareItems (handles : List (String × String)) (fuel : Nat) (t : Tail) :
    Option (List Node × Tail) :=
  match fuel with
  | 0 => none
  | fuel + 1 =>
    match t.tokens.head? with
    | some .item => do
      let (item, t) ←
        readUnless [.item, .key, .value, .blockEnd] handles true false fuel (t.drop 1)
      let (items, t) ← readBareItems handles fuel t
      some (item :: items, t)
    | _ => some ([], t)

/-- Read the keys and values of a block, one after the other. -/
def readEntries (handles : List (String × String)) (fuel : Nat) (t : Tail) :
    Option (List Node × Tail) :=
  match fuel with
  | 0 => none
  | fuel + 1 =>
    let ends : List Token := [.key, .value, .blockEnd]
    match t.tokens.head? with
    | some .blockEnd => some ([], t.drop 1)
    | some .key => do
      let (key, t) ← readUnless ends handles true true fuel (t.drop 1)
      let (value, t) ← readValue ends handles true fuel t
      let (nodes, t) ← readEntries handles fuel t
      some (key :: value :: nodes, t)
    | some .value => do
      let (value, t) ← readValue ends handles true fuel t
      let (nodes, t) ← readEntries handles fuel t
      some (.null :: value :: nodes, t)
    | _ => none

/-- Read the value behind a key, which may be missing. -/
def readValue (ends : List Token) (handles : List (String × String)) (isBlock : Bool) (fuel : Nat)
    (t : Tail) : Option (Node × Tail) :=
  match fuel with
  | 0 => none
  | fuel + 1 =>
    match t.tokens.head? with
    | some .value => readUnless ends handles isBlock isBlock fuel (t.drop 1)
    | _ => some (.null, t)

/-- Read the items between brackets.  An item can be a mapping of one entry. -/
def readFlowItems (handles : List (String × String)) (isFirst : Bool) (fuel : Nat) (t : Tail) :
    Option (List Node × Tail) :=
  match fuel with
  | 0 => none
  | fuel + 1 => do
    let isDone := isAt [.flowSequenceEnd] t
    if !isDone && !isFirst && !isAt [.comma] t then none
    else
      let t := if isDone || isFirst then t else t.drop 1
      match t.tokens.head? with
      | some .flowSequenceEnd => some ([], t.drop 1)
      | some .key =>
        let t := t.drop 1
        let (key, t) ←
          if isAt [.value, .comma, .flowSequenceEnd] t then some (.null, t.drop 1)
          else readNode handles false false fuel t
        let (value, t) ← readValue [.comma, .flowSequenceEnd] handles false fuel t
        let entries ← Node.entriesOf? [] [key, value]
        let (items, t) ← readFlowItems handles false fuel t
        some (.mapping entries :: items, t)
      | _ =>
        let (item, t) ← readNode handles false false fuel t
        let (items, t) ← readFlowItems handles false fuel t
        some (item :: items, t)

/-- Read the keys and values between braces, one after the other. -/
def readFlowEntries (handles : List (String × String)) (isFirst : Bool) (fuel : Nat) (t : Tail) :
    Option (List Node × Tail) :=
  match fuel with
  | 0 => none
  | fuel + 1 => do
    let ends : List Token := [.comma, .flowMappingEnd]
    let isDone := isAt [.flowMappingEnd] t
    if !isDone && !isFirst && !isAt [.comma] t then none
    else
      let t := if isDone || isFirst then t else t.drop 1
      match t.tokens.head? with
      | some .flowMappingEnd => some ([], t.drop 1)
      | some .key =>
        let (key, t) ← readUnless (.value :: ends) handles false false fuel (t.drop 1)
        let (value, t) ← readValue ends handles false fuel t
        let (nodes, t) ← readFlowEntries handles false fuel t
        some (key :: value :: nodes, t)
      | some .value =>
        let (value, t) ← readValue ends handles false fuel t
        let (nodes, t) ← readFlowEntries handles false fuel t
        some (.null :: value :: nodes, t)
      | _ =>
        let (key, t) ← readNode handles false false fuel t
        let (nodes, t) ← readFlowEntries handles false fuel t
        some (key :: .null :: nodes, t)

end

/-- Read the directives in front of a document: the handles they declare.  Each one takes back
what the one before it declared; there can be one version. -/
def readDirectives? (handles : List (String × String)) (hasVersion : Bool) :
    List Token → Option (List (String × String) × List Token)
  | .version :: rest => if hasVersion then none else readDirectives? [] true rest
  | .handle name meaning :: rest => readDirectives? [(name, meaning)] hasVersion rest
  | rest => some (handles, rest)

/-- Is a token a directive? -/
def Token.isDirective : Token → Bool
  | version | handle _ _ => true
  | _ => false

/-- Read the only document that tokens hold; nothing, if there is none.  Directives need a mark
behind them, and behind the mark there may be nothing. -/
def readDocument? (tokens : List Token) : Option (Option Node) := do
  let tokens := tokens.dropWhile (· = .documentEnd)
  if tokens = [.streamEnd] then some none
  else
    let (handles, rest) ← readDirectives? [] false tokens
    let (node, t) ←
      match rest with
      | .documentStart :: rest =>
        let isOver : Token → Bool
          | .documentStart | .documentEnd | .streamEnd => true
          | token => token.isDirective
        if rest.head?.any isOver then some (.null, ⟨rest, ⟨[], []⟩⟩)
        else readNode handles true false (4 * rest.length + 4) ⟨rest, ⟨[], []⟩⟩
      | _ =>
        if tokens.head?.any Token.isDirective then none
        else readNode handles true false (4 * rest.length + 4) ⟨rest, ⟨[], []⟩⟩
    if t.tokens.dropWhile (· = .documentEnd) = [.streamEnd] then some (some node) else none

end RevocationCheck.Document.Yaml
