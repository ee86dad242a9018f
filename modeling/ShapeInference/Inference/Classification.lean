import ShapeInference.Inference.Event
import ShapeInference.Inference.Path
import ShapeInference.Request
import ShapeInference.Shape.Merge
import ShapeInference.Value.Snapshot

/-!
# Classification (`classify`)

The shape of a value is built by a walk through its dictionaries and through the sampled elements of
its lists and tuples. The shapes of the elements of one array are merged. The walk reports every
array without elements and fails at the first value that cannot be classified.

- `Value.spellKey`: the member name of a dictionary key;
- `Value.classifyAt`: the walk through the value at a path;
- `Value.classify`: the walk through a whole value.
-/

namespace ShapeInference

namespace Value

/-- The name of the member for a dictionary key. -/
def spellKey (key : Value) : Logged Text :=
  match key.spell? with
  | some t => .done t
  | none => .fail .longNumeral

/-- The failure for a value that cannot be classified. -/
def refuse (v : Value) (path : Path) : Logged Shape :=
  match v.snapshot? with
  | some t => .fail (.unsupported v.classOf.name t path.write)
  | none => .fail .longNumeral

/-- The shape of a value whose parts are not looked at. -/
def classifyLeaf (v : Value) (path : Path) : Logged Shape :=
  match v.kind? with
  | some (.simple p) => .done (.simple p)
  | some .named => .done (.named v.classOf.name)
  | _ => v.refuse path

/-- The report on an array at a path: it is only made when there are no elements. -/
def reportEmpty (items : List Value) (path : Path) : Logged Unit :=
  if items.isEmpty then .report (.emptyArray path.write) else .done ()

mutual

/-- The shape of the value at a path (`_classify`). -/
def classifyAt (s : Strategy) (path : Path) : Value → Logged Shape
  | list items => do
    reportEmpty items path
    let shapes ← classifyItems s path items.length 0 items
    return .arrayOf (.fold (shapes.map some))
  | tuple items => do
    reportEmpty items path
    let shapes ← classifyItems s path items.length 0 items
    return .arrayOf (.fold (shapes.map some))
  | dictionary entries => do
    let members ← classifyEntries s path entries
    return .objectOf (Entries.collapse (· = ·) members)
  | v => classifyLeaf v path

/-- The shapes of the sampled elements among those from index `i` on, of an array with `length`
elements. -/
def classifyItems (s : Strategy) (path : Path) (length : Nat) :
    Nat → List Value → Logged (List Shape)
  | _, [] => return []
  | i, v :: rest =>
    if s.picks length i then do
      let shape ← classifyAt s (path ++ [.element i]) v
      return shape :: (← classifyItems s path length (i + 1) rest)
    else classifyItems s path length (i + 1) rest

/-- The names and shapes of the values of a dictionary. -/
def classifyEntries (s : Strategy) (path : Path) :
    List (Value × Value) → Logged (List (Text × Shape))
  | [] => return []
  | (key, v) :: rest => do
    let name ← key.spellKey
    let shape ← classifyAt s (path ++ [.member name]) v
    return (name, shape) :: (← classifyEntries s path rest)

end

/-- The shape of a value (`classify`). -/
def classify (s : Strategy) (v : Value) : Logged Shape :=
  classifyAt s [] v

end Value

end ShapeInference
