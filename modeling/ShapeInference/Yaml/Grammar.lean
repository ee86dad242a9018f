import ShapeInference.Entries
import ShapeInference.Yaml.Node
import ShapeInference.Yaml.TokenStream

/-!
# Grammar

The tokens of a document form its nodes. An alias stands for the node with its anchor, also inside
that node.

- `Yaml.Grammar`: the tokens that are left, the nodes so far, the anchors seen, and the handles
  declared;
- `Yaml.Compose.node`: the node that comes next;
- `Yaml.Graph.ofTokens`: the nodes of a document, if it has one.
-/

namespace ShapeInference

namespace Yaml

/-- The tokens that are left with the failure after them, the nodes so far, the anchors with the
numbers of their nodes, and the handles with what they stand for. -/
structure Grammar where
  stream : TokenStream
  nodes : Array Node
  anchors : List (Text × Nat)
  handles : List (Text × Text)

/-- A step of building nodes. -/
abbrev Compose := StateT Grammar (Except Failure)

namespace Compose

/-- The next token. -/
def peek : Compose Token := do
  let stream := (← get).stream
  match stream.tokens, stream.failure with
  | token :: _, _ => return token
  | [], some f => throw f
  | [], none => return ⟨.streamEnd, ⟨0, 0⟩, ⟨0, 0⟩⟩

/-- Moves over the next token and gives it. -/
def next : Compose Token := do
  let token ← peek
  modify fun g => { g with stream := { g.stream with tokens := g.stream.tokens.tail } }
  return token

/-- Moves over the next token if it is of a kind, and says whether it was. -/
def nextIf (kind : TokenKind) : Compose Bool := do
  if (← peek).kind = kind then
    let _ ← next
    return true
  else return false

/-- Fails at the next token, with what was being read from another place on. -/
def refuse {α : Type} (context : Option Text) (start : Option Mark) (expected : Text) :
    Compose α := do
  let token ← peek
  throw (.grammar ⟨context, start, expected ++ token.kind.label.quoted, token.start⟩)

/-- Adds a node and gives its number. -/
def add (n : Node) : Compose Nat := do
  let number := (← get).nodes.size
  modify fun g => { g with nodes := g.nodes.push n }
  return number

/-- A scalar that was left out at a place. -/
def absent (m : Mark) : Compose Nat :=
  add (.absent m)

/-- Gives a node its content. -/
def fill (number : Nat) (content : Content) : Compose Unit :=
  modify fun g => { g with nodes := g.nodes.modify number fun n => { n with content } }

/-- What stands before the content of a node. -/
structure Properties where
  anchor : Option Text
  tag : Option Text
  start : Option Mark

/-- The full name of a tag with a handle. -/
def fullTag (start place : Mark) (handle : Option Text) (ending : Text) : Compose Text := do
  match handle with
  | none => return ending
  | some h =>
    match Entries.first? (· = ·) h (← get).handles with
    | some beginning => return beginning ++ ending
    | none =>
      throw (.grammar ⟨some "while parsing a node", some start,
        ("found undefined tag handle " : Text) ++ h.quoted, place⟩)

/-- The anchor and the tag of a node, in either order. -/
def properties : Compose Properties := do
  let first ← peek
  match first.kind with
  | .anchor name =>
    let _ ← next
    let second ← peek
    match second.kind with
    | .tag handle ending =>
      let _ ← next
      let tag ← fullTag first.start second.start handle ending
      return ⟨some name, some tag, some first.start⟩
    | _ => return ⟨some name, none, some first.start⟩
  | .tag handle ending =>
    let _ ← next
    let second ← peek
    match second.kind with
    | .anchor name =>
      let _ ← next
      let tag ← fullTag first.start first.start handle ending
      return ⟨some name, some tag, some first.start⟩
    | _ =>
      let tag ← fullTag first.start first.start handle ending
      return ⟨none, some tag, some first.start⟩
  | _ => return ⟨none, none, none⟩

namespace Properties

/-- Whether the tag is left to the content of the node. -/
def isOpen (p : Properties) : Bool :=
  p.tag = none || p.tag = some ("!" : Text)

/-- The tag that is given, or else another one. -/
def tagOr (p : Properties) (tag : Tag) : Tag :=
  if p.isOpen then tag else (p.tag.map Tag.ofText).getD tag

/-- The tag of a scalar. A quoted one is a text, unless a mark alone leaves its tag open. -/
def scalarTag (p : Properties) (t : Text) (plain : Bool) : Tag :=
  p.tagOr (if plain || p.tag.isSome then .ofPlain t else .text)

end Properties

/-- The place where the node with an anchor begins, if the anchor was used before. -/
def anchored? (name : Text) : Compose (Option Mark) := do
  let g ← get
  return (Entries.first? (· = ·) name g.anchors).bind fun number => g.nodes[number]?.map (·.start)

/-- Fails if an anchor was used before. -/
def checkAnchor (anchor : Option Text) (start : Mark) : Compose Unit := do
  match anchor with
  | none => return ()
  | some name =>
    match ← anchored? name with
    | none => return ()
    | some first =>
      throw (.references
        ⟨some (("found duplicate anchor " : Text) ++ name.quoted ++ ("; first occurrence" : Text)),
          some first, "second occurrence", start⟩)

/-- Gives a node its anchor. -/
def setAnchor (anchor : Option Text) (number : Nat) : Compose Unit :=
  match anchor with
  | none => return ()
  | some name => modify fun g => { g with anchors := Entries.insert (· = ·) name number g.anchors }

/-- The node that an alias stands for. -/
def resolve (name : Text) (place : Mark) : Compose Nat := do
  match Entries.first? (· = ·) name (← get).anchors with
  | some number => return number
  | none =>
    throw (.references ⟨none, none, ("found undefined alias " : Text) ++ name.quoted, place⟩)

/-- A scalar with the properties before it. -/
def scalar (p : Properties) (start : Mark) (tag : Tag) (t : Text) : Compose Nat := do
  checkAnchor p.anchor start
  let number ← add ⟨tag, .scalar t, start⟩
  setAnchor p.anchor number
  return number

/-- A sequence or mapping with the properties before it, which has its anchor already when its
content is read. -/
def collection (p : Properties) (start : Mark) (tag : Tag) (content : Compose Content) :
    Compose Nat := do
  checkAnchor p.anchor start
  let number ← add ⟨p.tagOr tag, .sequence [], start⟩
  setAnchor p.anchor number
  fill number (← content)
  return number

/-- Whether nothing stands where a part of a block could. -/
def endsBlockPart (kind : TokenKind) : Bool :=
  kind = .key || kind = .value || kind = .blockEnd

/-- Whether nothing stands where an entry of an unindented sequence could. -/
def endsEntry (kind : TokenKind) : Bool :=
  endsBlockPart kind || kind = .blockEntry

/-- Whether nothing stands where a part inside brackets could. -/
def endsFlowPart (closing kind : TokenKind) : Bool :=
  kind = .entry || kind = closing

/-- Moves over the comma before a part inside brackets that is not the first. -/
def flowComma (isFirst : Bool) (context : Text) (start : Mark) (expected : Text) :
    Compose Unit := do
  if !isFirst then
    if !(← nextIf .entry) then refuse (some context) (some start) expected

mutual

/-- The node that comes next. `block` says that it may be a block, and `indentless` that it may be a
sequence without an indentation of its own. -/
def node (block indentless : Bool) : Nat → Compose Nat
  | 0 => refuse none none "expected the node content, but found "
  | fuel + 1 => do
    let first ← peek
    match first.kind with
    | .reference name =>
      let _ ← next
      resolve name first.start
    | _ =>
      let p ← properties
      let token ← peek
      let start := p.start.getD token.start
      match token.kind with
      | .scalar t plain =>
        let _ ← next
        scalar p start (p.scalarTag t plain) t
      | .sequenceStart =>
        collection p start .sequence do
          let _ ← next
          return .sequence (← flowItems token.start [] fuel)
      | .mappingStart =>
        collection p start .mapping do
          let _ ← next
          return .mapping (← flowMembers token.start [] fuel)
      | kind =>
        if indentless && kind = .blockEntry then
          collection p start .sequence do
            return .sequence (← indentlessItems [] fuel)
        else if block && kind = .blockSequenceStart then
          collection p start .sequence do
            let _ ← next
            return .sequence (← blockItems token.start [] fuel)
        else if block && kind = .blockMappingStart then
          collection p start .mapping do
            let _ ← next
            return .mapping (← blockMembers token.start [] fuel)
        else if p.start.isSome then scalar p start (p.tagOr (.ofPlain [])) []
        else
          refuse
            (some (if block then "while parsing a block node" else "while parsing a flow node"))
            (some start) "expected the node content, but found "

/-- The node after a token that a part of a collection begins with, unless nothing stands there. -/
def part (block indentless : Bool) (isEnd : TokenKind → Bool) (absentAt : Mark) :
    Nat → Compose Nat
  | 0 => absent absentAt
  | fuel + 1 => do
    if isEnd (← peek).kind then absent absentAt
    else node block indentless fuel

/-- The items of an indented sequence that began at a place, after those that are done, the last one
first. -/
def blockItems (start : Mark) (done : List Nat) : Nat → Compose (List Nat)
  | 0 => return done.reverse
  | fuel + 1 => do
    let token ← peek
    if token.kind = .blockEntry then
      let _ ← next
      let item ← part true false (fun k => k = .blockEntry || k = .blockEnd) token.stop fuel
      blockItems start (item :: done) fuel
    else if ← nextIf .blockEnd then return done.reverse
    else
      refuse (some "while parsing a block collection") (some start)
        "expected <block end>, but found "

/-- The items of a sequence without an indentation of its own, after those that are done. -/
def indentlessItems (done : List Nat) : Nat → Compose (List Nat)
  | 0 => return done.reverse
  | fuel + 1 => do
    let token ← peek
    if token.kind = .blockEntry then
      let _ ← next
      let item ← part true false endsEntry token.stop fuel
      indentlessItems (item :: done) fuel
    else return done.reverse

/-- The entries of a block mapping that began at a place, after those that are done. -/
def blockMembers (start : Mark) (done : List (Nat × Nat)) : Nat → Compose (List (Nat × Nat))
  | 0 => return done.reverse
  | fuel + 1 => do
    let token ← peek
    if token.kind = .key then
      let _ ← next
      let key ← part true true endsBlockPart token.stop fuel
      let colon ← peek
      let value ←
        if ← nextIf .value then part true true endsBlockPart colon.stop fuel
        else absent colon.start
      blockMembers start ((key, value) :: done) fuel
    else if ← nextIf .blockEnd then return done.reverse
    else
      refuse (some "while parsing a block mapping") (some start) "expected <block end>, but found "

/-- The value of an entry inside brackets. -/
def flowValue (closing : TokenKind) : Nat → Compose Nat
  | 0 => absent ⟨0, 0⟩
  | fuel + 1 => do
    let colon ← peek
    if ← nextIf .value then part false false (endsFlowPart closing) colon.stop fuel
    else absent colon.start

/-- The items of a sequence in brackets that began at a place, after those that are done. -/
def flowItems (start : Mark) (done : List Nat) : Nat → Compose (List Nat)
  | 0 => return done.reverse
  | fuel + 1 => do
    if ← nextIf .sequenceEnd then return done.reverse
    else
      flowComma done.isEmpty "while parsing a flow sequence" start "expected ',' or ']', but got "
      let token ← peek
      if token.kind = .key then
        -- a key in a sequence makes a mapping with one entry
        let item ← collection ⟨none, none, none⟩ token.start .mapping do
          let _ ← next
          let isEnd (k : TokenKind) : Bool := k = .value || endsFlowPart .sequenceEnd k
          let key ← part false false isEnd token.stop fuel
          return .mapping [(key, ← flowValue .sequenceEnd fuel)]
        flowItems start (item :: done) fuel
      else if ← nextIf .sequenceEnd then return done.reverse
      else
        let item ← node false false fuel
        flowItems start (item :: done) fuel

/-- The entries of a mapping in braces that began at a place, after those that are done. -/
def flowMembers (start : Mark) (done : List (Nat × Nat)) : Nat → Compose (List (Nat × Nat))
  | 0 => return done.reverse
  | fuel + 1 => do
    if ← nextIf .mappingEnd then return done.reverse
    else
      flowComma done.isEmpty "while parsing a flow mapping" start
        "expected ',' or '\x7d', but got "
      let token ← peek
      if token.kind = .key then
        let _ ← next
        let isEnd (k : TokenKind) : Bool := k = .value || endsFlowPart .mappingEnd k
        let key ← part false false isEnd token.stop fuel
        let value ← flowValue .mappingEnd fuel
        flowMembers start ((key, value) :: done) fuel
      else if ← nextIf .mappingEnd then return done.reverse
      else
        let key ← node false false fuel
        let value ← absent (← peek).start
        flowMembers start ((key, value) :: done) fuel

end

/-- The handles that stand for themselves or for the tags with a meaning, unless declared anew. -/
def standardHandles : List (Text × Text) :=
  [("!", "!"), ("!!", Tag.beginning)]

/-- The handles that the directives before a document declare; `version` says whether there was a
version among the directives so far. -/
def directives (version : Bool) (handles : List (Text × Text)) :
    Nat → Compose (List (Text × Text))
  | 0 => return handles
  | fuel + 1 => do
    let token ← peek
    match token.kind with
    | .directive d =>
      let _ ← next
      match d with
      | .version major _ =>
        if version then
          throw (.grammar ⟨none, none, "found duplicate YAML directive", token.start⟩)
        if major ≠ 1 then
          throw (.grammar ⟨none, none,
            "found incompatible YAML document (version 1.* is required)", token.start⟩)
        directives true handles fuel
      | .handle handle beginning =>
        if (Entries.first? (· = ·) handle handles).isSome then
          throw (.grammar ⟨none, none, ("duplicate tag handle " : Text) ++ handle.quoted,
            token.start⟩)
        directives version (handles ++ [(handle, beginning)]) fuel
      | .unknown => directives version handles fuel
    | _ => return handles

/-- Moves over the ends of documents. -/
def skipDocumentEnds : Nat → Compose Unit
  | 0 => return ()
  | fuel + 1 => do
    if ← nextIf .documentEnd then skipDocumentEnds fuel

/-- The mark at the beginning of a document with the directives before it. -/
def documentStart (fuel : Nat) : Compose Unit := do
  let handles ← directives false [] fuel
  modify fun g => { g with handles := handles ++ standardHandles }
  if !(← nextIf .documentStart) then
    refuse none none "expected '<document start>', but found "

/-- Whether a token begins a document with a mark or ends the stream. -/
def isDocumentMark : TokenKind → Bool
  | .directive _ => true
  | .documentStart => true
  | .streamEnd => true
  | _ => false

/-- The first document, if there is one. -/
def document (fuel : Nat) : Compose (Option Nat) := do
  let token ← peek
  if token.kind = .streamEnd then return none
  else if isDocumentMark token.kind then
    documentStart fuel
    let content ← peek
    if isDocumentMark content.kind || content.kind = .documentEnd then
      return some (← absent content.start)
    else return some (← node true false fuel)
  else return some (← node true false fuel)

/-- The only document of the stream, if there is one. -/
def single (fuel : Nat) : Compose (Option Graph) := do
  let _ ← next
  match ← document fuel with
  | none => return none
  | some root =>
    skipDocumentEnds fuel
    let token ← peek
    let nodes := (← get).nodes
    if token.kind = .streamEnd then return some ⟨nodes, root⟩
    else
      documentStart fuel
      throw (.references ⟨some "expected a single document in the stream",
        nodes[root]?.map (·.start), "but found another document", token.start⟩)

end Compose

/-- The nodes of a document, if it has one. Every step moves over a token, or ends with one that is
moved over next. -/
def Graph.ofTokens (stream : TokenStream) : Except Failure (Option Graph) :=
  let fuel := 3 * stream.tokens.length + 8
  (Compose.single fuel ⟨stream, #[], [], Compose.standardHandles⟩).map (·.1)

end Yaml

end ShapeInference
