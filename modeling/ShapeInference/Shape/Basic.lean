import ShapeInference.Text.Order
import ShapeInference.Entries

/-!
# Shapes (`Type`, `SimpleKind`)

A shape describes the type of one value, or of several values at once. It is no tagged union: each
of its four parts may be there or not, and each that is there adds an alternative. A shape with no
part says nothing.

- `Primitive`: the kinds of simple values;
- `Primitives`: a set of them;
- `Names`: a set of class names, kept in order;
- `Shape`: primitives, class names, the shape of array elements, and the members of an object;
- `Shape.member?`, `Shape.memberNames`: looking into an object.
-/

namespace ShapeInference

/-- The kinds of simple values (`SimpleKind`), in the order of their names. -/
inductive Primitive where
  | boolean
  | function
  | null
  | number
  | string
  | undefined
  deriving DecidableEq, Repr

/-- All kinds of simple values, in the order of their names. -/
def Primitive.all : List Primitive :=
  [.boolean, .function, .null, .number, .string, .undefined]

/-- The name of a kind in a declaration. -/
def Primitive.name : Primitive → Text
  | .boolean => "boolean"
  | .function => "function"
  | .null => "null"
  | .number => "number"
  | .string => "string"
  | .undefined => "undefined"

/-- The kind with a name. -/
def Primitive.ofName? (name : Text) : Option Primitive :=
  Primitive.all.find? (·.name = name)

/-- A set of primitives: for each, whether it belongs to the set. -/
structure Primitives where
  boolean : Bool := false
  function : Bool := false
  null : Bool := false
  number : Bool := false
  string : Bool := false
  undefined : Bool := false
  deriving DecidableEq, Repr

namespace Primitives

/-- The empty set. -/
def empty : Primitives := {}

/-- Whether a primitive belongs to a set. -/
def contains (s : Primitives) : Primitive → Bool
  | .boolean => s.boolean
  | .function => s.function
  | .null => s.null
  | .number => s.number
  | .string => s.string
  | .undefined => s.undefined

/-- The set with one more primitive. -/
def insert (s : Primitives) : Primitive → Primitives
  | .boolean => { s with boolean := true }
  | .function => { s with function := true }
  | .null => { s with null := true }
  | .number => { s with number := true }
  | .string => { s with string := true }
  | .undefined => { s with undefined := true }

/-- The primitives of either set. -/
def union (s t : Primitives) : Primitives where
  boolean := s.boolean || t.boolean
  function := s.function || t.function
  null := s.null || t.null
  number := s.number || t.number
  string := s.string || t.string
  undefined := s.undefined || t.undefined

/-- The members of a set, in the order of their names. -/
def toList (s : Primitives) : List Primitive :=
  Primitive.all.filter s.contains

/-- The set of the members of a list. -/
def ofList (ps : List Primitive) : Primitives :=
  ps.foldl insert empty

end Primitives

/-- A set of names as a list without repetitions, each name before the next one in the order of code
points. -/
structure Names where
  toList : List Text
  sorted : toList.Pairwise (fun a b => a.precedes b = true) := by decide

namespace Names

/-- The names of a sorted list with one more, put in its place. -/
def insertSorted (name : Text) : List Text → List Text
  | [] => [name]
  | n :: rest =>
    if name.precedes n then name :: n :: rest
    else if n.precedes name then n :: insertSorted name rest
    else n :: rest

theorem mem_insertSorted {name m : Text} {names : List Text} (h : m ∈ insertSorted name names) :
    m = name ∨ m ∈ names := by
  induction names with
  | nil => exact .inl (by simpa [insertSorted] using h)
  | cons n rest ih =>
    unfold insertSorted at h
    split at h
    · simpa using h
    · split at h
      · rcases List.mem_cons.1 h with rfl | h
        · exact .inr (by simp)
        · exact (ih h).imp_right (List.mem_cons_of_mem _)
      · exact .inr h

theorem insertSorted_sorted {name : Text} {names : List Text}
    (h : names.Pairwise (fun a b => a.precedes b = true)) :
    (insertSorted name names).Pairwise (fun a b => a.precedes b = true) := by
  induction names with
  | nil => simp [insertSorted]
  | cons n rest ih =>
    obtain ⟨hn, hrest⟩ := List.pairwise_cons.1 h
    unfold insertSorted
    split
    · next before =>
      refine List.pairwise_cons.2 ⟨fun m hm => ?_, h⟩
      rcases List.mem_cons.1 hm with rfl | hm
      · exact before
      · exact Text.precedes_trans before (hn m hm)
    · split
      · next after =>
        refine List.pairwise_cons.2 ⟨fun m hm => ?_, ih hrest⟩
        rcases mem_insertSorted hm with rfl | hm
        · exact after
        · exact hn m hm
      · exact h

/-- The empty set. -/
def empty : Names := ⟨[], .nil⟩

/-- The set with one more name. -/
def insert (s : Names) (name : Text) : Names :=
  ⟨insertSorted name s.toList, insertSorted_sorted s.sorted⟩

/-- The names of either set. -/
def union (s t : Names) : Names :=
  t.toList.foldl insert s

/-- The set of the names of a list. -/
def ofList (names : List Text) : Names :=
  names.foldl insert empty

/-- Whether a name belongs to a set. -/
def contains (s : Names) (name : Text) : Bool :=
  s.toList.contains name

/-- Sets with the same names are the same set. -/
theorem ext {s t : Names} (h : s.toList = t.toList) : s = t := by
  cases s; cases t; cases h; rfl

instance : DecidableEq Names := fun s t =>
  if h : s.toList = t.toList then isTrue (ext h) else isFalse fun e => h (e ▸ rfl)

end Names

/-- What is known about the type of one or of several values (`Type`). -/
inductive Shape where
  /-- A shape with its primitives, the names of its classes, the shape of the elements of its arrays
  if there were any, and the members of its objects if there were any. -/
  | node (primitives : Primitives) (classes : Names) (element : Option Shape)
      (members : Option (List (Text × Shape)))

namespace Shape

/-- The kinds of simple values. -/
def primitives : Shape → Primitives
  | node p _ _ _ => p

/-- The names of classes. -/
def classes : Shape → Names
  | node _ c _ _ => c

/-- The shape of array elements, if there were arrays. -/
def element : Shape → Option Shape
  | node _ _ e _ => e

/-- The members of objects in order, if there were objects. -/
def members : Shape → Option (List (Text × Shape))
  | node _ _ _ m => m

/-- The shape that says nothing. -/
def empty : Shape :=
  node .empty .empty none none

/-- The shape of values of one simple kind (`Type.simple`). -/
def simple (p : Primitive) : Shape :=
  node (Primitives.empty.insert p) .empty none none

/-- The shape of values of one class (`Type.named`). -/
def named (name : Text) : Shape :=
  node .empty (Names.empty.insert name) none none

/-- The shape of arrays with elements of a shape (`Type.array_of`). -/
def arrayOf (element : Shape) : Shape :=
  node .empty .empty (some element) none

/-- The shape of objects with members of given shapes (`Type.object_of`). -/
def objectOf (members : List (Text × Shape)) : Shape :=
  node .empty .empty none (some members)

/-- The shape that a member takes in samples that lack it. -/
def missing : Shape :=
  simple .undefined

/-- The shape of the first member with a name (`Type.member`). -/
def member? (s : Shape) (name : Text) : Option Shape :=
  s.members.bind (Entries.first? (· = ·) name)

/-- The names of the members in order (`Type.member_names`). -/
def memberNames (s : Shape) : List Text :=
  (s.members.getD []).map (·.1)

mutual

/-- Whether two shapes are the same, the order of members included. -/
def decEq : (s t : Shape) → Decidable (s = t)
  | node p c e m, node p' c' e' m' =>
    if hp : p = p' then
      if hc : c = c' then
        match e, e' with
        | none, some _ => isFalse fun h => by simp at h
        | some _, none => isFalse fun h => by simp at h
        | none, none =>
          match m, m' with
          | none, some _ => isFalse fun h => by simp at h
          | some _, none => isFalse fun h => by simp at h
          | none, none => isTrue (by rw [hp, hc])
          | some ms, some ms' =>
            match decEqMembers ms ms' with
            | isTrue hm => isTrue (by rw [hp, hc, hm])
            | isFalse hm => isFalse fun h => hm (by injection h with _ _ _ h; injection h)
        | some x, some x' =>
          match decEq x x' with
          | isFalse hx => isFalse fun h => hx (by injection h with _ _ h; injection h)
          | isTrue hx =>
            match m, m' with
            | none, some _ => isFalse fun h => by simp at h
            | some _, none => isFalse fun h => by simp at h
            | none, none => isTrue (by rw [hp, hc, hx])
            | some ms, some ms' =>
              match decEqMembers ms ms' with
              | isTrue hm => isTrue (by rw [hp, hc, hx, hm])
              | isFalse hm => isFalse fun h => hm (by injection h with _ _ _ h; injection h)
      else isFalse fun h => hc (by injection h)
    else isFalse fun h => hp (by injection h)

/-- Whether two lists of members are the same. -/
def decEqMembers : (ms ns : List (Text × Shape)) → Decidable (ms = ns)
  | [], [] => isTrue rfl
  | [], _ :: _ => isFalse fun h => by cases h
  | _ :: _, [] => isFalse fun h => by cases h
  | (a, s) :: ms, (b, t) :: ns =>
    if hn : a = b then
      match decEq s t with
      | isFalse hs => isFalse fun h => hs (by injection h with h; injection h)
      | isTrue hs =>
        match decEqMembers ms ns with
        | isTrue hm => isTrue (by rw [hn, hs, hm])
        | isFalse hm => isFalse fun h => hm (by injection h)
    else isFalse fun h => hn (by injection h with h; injection h)

end

instance : DecidableEq Shape := decEq

end Shape

end ShapeInference
