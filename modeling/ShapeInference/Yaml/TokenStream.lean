import ShapeInference.Yaml.Lexeme.Block
import ShapeInference.Yaml.Lexeme.Plain

/-!
# Token streams

A document is divided into tokens from its beginning to its end, or to the first place that fits no
token. Blocks have no brackets of their own: their tokens follow from indentation. A key without a
mark is known as one only when its colon is reached, so the token for it is put in before what was
already read; until then everything from there on is held back.

- `Yaml.PendingKey`: a place where a key may have begun;
- `Yaml.Reader`: how far a document has been divided;
- `Yaml.Reader.step`: the division up to the next tokens;
- `Yaml.TokenStream`: tokens, and the failure that follows them, if any;
- `Yaml.TokenStream.ofSource`: the tokens of a document.
-/

namespace ShapeInference

namespace Yaml

/-- A place where a key may have begun: the number of tokens before it, whether there has to be a
key, and where it is. -/
structure PendingKey where
  before : Nat
  required : Bool
  index : Nat
  mark : Mark

/-- How far a document has been divided: the tokens so far, the last one first, and their number,
the number of open brackets, the indentations of the open blocks, whether a key may begin now, and
the pending keys with the number of brackets around each. -/
structure Reader where
  cursor : Cursor
  latest : List Token
  count : Nat
  depth : Int
  indent : Int
  outerIndents : List Int
  allowsKey : Bool
  pending : List (Int × PendingKey)
  finished : Bool

/-- A step of dividing a document. -/
abbrev Divide := StateT Reader (Except Failure)

namespace Divide

/-- A step of reading. -/
def scan {α : Type} (step : Scan α) : Divide α := do
  let (a, c) ← step (← get).cursor
  modify fun r => { r with cursor := c }
  return a

/-- The place reached. -/
def mark : Divide Mark := do
  return (← get).cursor.mark

/-- The column reached. -/
def column : Divide Int := do
  return (← get).cursor.column

/-- Whether brackets are open. -/
def inFlow : Divide Bool := do
  return (← get).depth ≠ 0

/-- Adds a token at the end. -/
def add (token : Token) : Divide Unit :=
  modify fun r => { r with latest := token :: r.latest, count := r.count + 1 }

/-- Adds a token that takes no room. -/
def addHere (kind : TokenKind) : Divide Unit := do
  let m ← mark
  add ⟨kind, m, m⟩

/-- Adds a token for a number of code points. -/
def addOver (length : Nat) (kind : TokenKind) : Divide Unit := do
  let start ← mark
  scan (Scan.skip length)
  add ⟨kind, start, ← mark⟩

/-- Says whether a key may begin now. -/
def allowKey (allowed : Bool) : Divide Unit :=
  modify fun r => { r with allowsKey := allowed }

/-- Fails at the place reached, without a context. -/
def refuse {α : Type} (problem : Text) : Divide α := do
  throw (.tokens ⟨none, none, problem, ← mark⟩)

/-- Fails because a key that had to come has no colon. -/
def refuseKey {α : Type} (key : PendingKey) : Divide α := do
  throw (.tokens
    ⟨some "while scanning a simple key", some key.mark, "could not find expected ':'", ← mark⟩)

/-- Gives up the pending keys that were not finished on their line or within 1024 code points. -/
def dropStale : Divide Unit := do
  let r ← get
  let isStale (key : PendingKey) : Bool :=
    key.mark.line ≠ r.cursor.line || key.index + 1024 < r.cursor.index
  match r.pending.find? fun p => isStale p.2 && p.2.required with
  | some p => refuseKey p.2
  | none => set { r with pending := r.pending.filter fun p => !isStale p.2 }

/-- Gives up the pending key inside the innermost brackets. -/
def dropKey : Divide Unit := do
  let r ← get
  match r.pending.find? (·.1 = r.depth) with
  | some p =>
    if p.2.required then refuseKey p.2
    else set { r with pending := r.pending.filter (·.1 ≠ r.depth) }
  | none => return ()

/-- Notes that a key may begin here. -/
def noteKey : Divide Unit := do
  let r ← get
  if r.allowsKey then
    dropKey
    let key : PendingKey :=
      { before := r.count
        required := r.depth = 0 && r.indent = r.cursor.column
        index := r.cursor.index
        mark := r.cursor.mark }
    modify fun r => { r with pending := r.pending ++ [(r.depth, key)] }

/-- Ends the blocks that are indented by more than a column, of at most `fuel` blocks. -/
def unwindTo (column : Int) : Nat → Divide Unit
  | 0 => return ()
  | fuel + 1 => do
    let r ← get
    if column < r.indent then
      set { r with indent := r.outerIndents.headD (-1), outerIndents := r.outerIndents.tail }
      addHere .blockEnd
      unwindTo column fuel

/-- Ends the blocks that are indented by more than a column; inside brackets there are none to end.
-/
def unwind (column : Int) : Divide Unit := do
  if !(← inFlow) then unwindTo column ((← get).outerIndents.length + 1)

/-- Begins a block with an indentation, if that is wider than the one around it; inside brackets
none begins. -/
def widen (column : Int) : Divide Bool := do
  let r ← get
  if r.depth = 0 && r.indent < column then
    set { r with indent := column, outerIndents := r.indent :: r.outerIndents }
    return true
  else return false

/-- Moves over a byte order mark at the beginning of the document. -/
def skipOrderMark : Divide Unit := do
  if (← get).cursor.index = 0 then
    if (← scan Scan.peek).any (·.val = 0xFEFF) then scan (Scan.skip 1)

/-- Moves to the next token, over blanks, comments and line ends, of at most `fuel` lines. -/
def skipToToken : Nat → Divide Unit
  | 0 => return ()
  | fuel + 1 => do
    scan Scan.skipSpaces
    if (← scan Scan.peek) = some ('#' : CodePoint) then scan Scan.skipLine
    let lineEnd ← scan Scan.lineBreak
    if !lineEnd.isEmpty then
      if !(← inFlow) then allowKey true
      skipToToken fuel

/-- The end of the document. -/
def streamEnd : Divide Unit := do
  unwind (-1)
  dropKey
  allowKey false
  modify fun r => { r with pending := [], finished := true }
  addHere .streamEnd

/-- What stands outside all blocks: a directive, or what separates documents. -/
def outside (tokens : Divide Unit) : Divide Unit := do
  unwind (-1)
  dropKey
  allowKey false
  tokens

/-- An opening bracket. -/
def openFlow (kind : TokenKind) : Divide Unit := do
  noteKey
  modify fun r => { r with depth := r.depth + 1 }
  allowKey true
  addOver 1 kind

/-- A closing bracket. -/
def closeFlow (kind : TokenKind) : Divide Unit := do
  dropKey
  modify fun r => { r with depth := r.depth - 1 }
  allowKey false
  addOver 1 kind

/-- A comma inside brackets. -/
def flowEntry : Divide Unit := do
  allowKey true
  dropKey
  addOver 1 .entry

/-- The beginning of an entry or a key in a block, which also begins the block if it is new. -/
def blockPart (problem : Text) (block : TokenKind) : Divide Unit := do
  if !(← inFlow) then
    if !(← get).allowsKey then refuse problem
    if ← widen (← column) then addHere block

/-- A hyphen before an entry. -/
def blockEntry : Divide Unit := do
  blockPart "sequence entries are not allowed here" .blockSequenceStart
  allowKey true
  dropKey
  addOver 1 .blockEntry

/-- A question mark before a key. -/
def explicitKey : Divide Unit := do
  blockPart "mapping keys are not allowed here" .blockMappingStart
  allowKey (!(← inFlow))
  dropKey
  addOver 1 .key

/-- Puts tokens in before all but the first `before` ones. -/
def insertAt (before : Nat) (tokens : List Token) : Divide Unit :=
  modify fun r =>
    let after := r.count - before
    { r with
      latest := r.latest.take after ++ tokens.reverse ++ r.latest.drop after
      count := r.count + tokens.length }

/-- A colon: it makes a key of what is pending, or it follows a key with a mark. -/
def value : Divide Unit := do
  let r ← get
  match r.pending.find? (·.1 = r.depth) with
  | some (_, key) =>
    -- the key was read already, and its tokens come before it
    set { r with pending := r.pending.filter (·.1 ≠ r.depth) }
    let keyToken : Token := ⟨.key, key.mark, key.mark⟩
    if ← widen key.mark.column then
      insertAt key.before [⟨.blockMappingStart, key.mark, key.mark⟩, keyToken]
    else insertAt key.before [keyToken]
    allowKey false
  | none =>
    blockPart "mapping values are not allowed here" .blockMappingStart
    allowKey (!(← inFlow))
    dropKey
  addOver 1 .value

/-- A lexeme that may be a key. -/
def word (lexeme : Scan Token) : Divide Unit := do
  noteKey
  allowKey false
  add (← scan lexeme)

/-- A plain scalar, after which a key may begin if it ended at the beginning of a line. -/
def plain : Divide Unit := do
  noteKey
  let r ← get
  let (token, broke) ← scan (Lexeme.plain (r.depth ≠ 0) (r.indent + 1))
  allowKey broke
  add token

/-- A block scalar. -/
def blockScalar (isFolded : Bool) : Divide Unit := do
  allowKey true
  dropKey
  add (← scan (Lexeme.block isFolded (← get).indent))

/-- Whether a hyphen or point at the margin begins what separates documents. -/
def separates (c : CodePoint) : Divide Bool := do
  if (c = '-' || c = '.') && (← column) = 0 then scan Scan.seesSeparator
  else return false

/-- Whether a code point is a mark: a hyphen, a question mark or a colon, with a blank after it.
Inside brackets the last two need none. -/
def isMark (c : CodePoint) : Divide Bool := do
  if (c = '?' || c = ':') && (← inFlow) then return true
  else if c = '-' || c = '?' || c = ':' then return endsWord (← scan (Scan.peekAt 1))
  else return false

/-- The tokens of a lexeme that no other token begins like. -/
def plainAt (c : CodePoint) : Divide Unit := do
  if ← scan (Lexeme.startsPlain (← inFlow) c) then plain
  else
    throw (.tokens
      ⟨some "while scanning for the next token", none,
        ("found character " : Text) ++ shownPoint (some c)
          ++ (" that cannot start any token" : Text), ← mark⟩)

/-- The tokens that begin with a code point. -/
def tokensAt (c : CodePoint) : Divide Unit := do
  let flow ← inFlow
  let atMargin := (← column) = 0
  let separates ← separates c
  -- what stands outside all blocks begins at the margin
  if c = '%' && atMargin then outside do add (← scan Lexeme.directive)
  else if separates then outside (addOver 3 (if c = '-' then .documentStart else .documentEnd))
  -- brackets
  else if c = '[' then openFlow .sequenceStart
  else if c = '{' then openFlow .mappingStart
  else if c = ']' then closeFlow .sequenceEnd
  else if c = '}' then closeFlow .mappingEnd
  else if c = ',' then flowEntry
  else if ← isMark c then
    if c = '-' then blockEntry else if c = '?' then explicitKey else value
  -- everything else begins a lexeme
  else if c = '*' || c = '&' then word Lexeme.anchor
  else if c = '!' then word Lexeme.tag
  else if c = '|' && !flow then blockScalar false
  else if c = '>' && !flow then blockScalar true
  else if c = '\'' || c = '"' then word Lexeme.quoted
  else plainAt c

/-- The next tokens. -/
def next : Divide Unit := do
  skipOrderMark
  skipToToken ((← get).cursor.left + 2)
  dropStale
  unwind (← column)
  match ← scan Scan.peek with
  | none => streamEnd
  | some c =>
    tokensAt c
    dropStale

end Divide

namespace Reader

/-- Before anything of a document is divided. -/
def ofSource (source : Source) : Reader where
  cursor := .ofSource source
  latest := [⟨.streamStart, ⟨0, 0⟩, ⟨0, 0⟩⟩]
  count := 1
  depth := 0
  indent := -1
  outerIndents := []
  allowsKey := true
  pending := []
  finished := false

/-- The division up to the next tokens. -/
def step (r : Reader) : Except Failure Reader :=
  (Divide.next r).map (·.2)

/-- The tokens that can be told from those that a pending key may still come before. -/
def settled (r : Reader) : List Token :=
  match (r.pending.map (·.2.before)).min? with
  | some n => (r.latest.drop (r.count - n)).reverse
  | none => r.latest.reverse

end Reader

/-- Tokens, and the failure that follows them, if any. -/
structure TokenStream where
  tokens : List Token
  failure : Option Failure

namespace TokenStream

/-- The tokens that a reader finds, in at most `fuel` steps. -/
def ofReader : Nat → Reader → TokenStream
  | 0, r => ⟨r.latest.reverse, none⟩
  | fuel + 1, r =>
    if r.finished then ⟨r.latest.reverse, none⟩
    else
      match r.step with
      | .ok next => ofReader fuel next
      | .error f => ⟨r.settled, some f⟩

/-- The tokens of a document. Every step but the last moves over a code point. A document whose
first piece is wrong has none. -/
def ofSource (source : Source) : TokenStream :=
  match source with
  | .error f :: _ => ⟨[], some f⟩
  | _ => ofReader (source.length + 2) (.ofSource source)

end TokenStream

end Yaml

end ShapeInference
