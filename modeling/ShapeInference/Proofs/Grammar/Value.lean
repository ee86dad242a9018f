import ShapeInference.Proofs.Entries
import ShapeInference.Proofs.Grammar.Literal
import ShapeInference.Proofs.Grammar.Number

/-!
# The grammar of values

A value is a word, a number, a string, an array or an object. Gaps of blanks may stand around the
elements of an array, and around the names and values of an object, but not inside anything else.

- `Json.Tree`: what a derivation is told by: its numbers and strings, and what is inside what;
- `Json.Derives`: the grammar: a text is a value, or the inside of an array or object;
- `Json.Number.denoted`, `Json.Tree.value`: the values that a number and a derivation say, an
  integer exactly;
- `Json.Tree.Fits`: no integer has too many digits;
- `Json.Number.toInt_eq_integer`: an integer is read as what it says;
- `Json.result`: a value, unless some number on the way to it is too long;
- `Json.skipSpaces_gap`, `Json.exists_gap`: what is skipped is a gap;
- `Json.Derives.starts`: how a value begins, by which the end of a gap is known;
- `Json.EndsValue`: what may follow a value.
-/

namespace ShapeInference

namespace Json

/-! ## The grammar -/

/-- What a derivation of a value is told by. -/
inductive Tree where
  | null
  | bool (b : Bool)
  | number (n : Number)
  | string (symbols : List Symbol)
  | array (elements : List Tree)
  | object (members : List (List Symbol × Tree))

/-- The words, each with what it says. -/
def Tree.words : List (Text × Tree) :=
  [("null", .null), ("true", .bool true), ("false", .bool false)]

theorem Tree.mem_words {x : Tree} {t : Text} (h : (t, x) ∈ words) :
    t = "null" ∧ x = .null ∨ t = "true" ∧ x = .bool true ∨ t = "false" ∧ x = .bool false := by
  simpa [words] using h

/-- What may stand in a gap. -/
def blanks : Text := " \t\n\r"

/-- A gap: blanks, or nothing. -/
def IsGap (t : Text) : Prop :=
  ∀ c ∈ t, c ∈ blanks

/-- The parts that the grammar derives: a value, the elements of an array, and one or all members of
an object. -/
inductive Part where
  | value (x : Tree)
  | elements (xs : List Tree)
  | member (m : List Symbol × Tree)
  | members (ms : List (List Symbol × Tree))

/-- A text is a part of a document. -/
inductive Derives : Part → Text → Prop
  | word {x : Tree} {t : Text} (h : (t, x) ∈ Tree.words) : Derives (.value x) t
  | number {n : Number} {t : Text} (h : n.IsWritten t) : Derives (.value (.number n)) t
  | string {symbols : List Symbol} {t : Text} (h : Spells symbols t) :
      Derives (.value (.string symbols)) ('"' :: (t ++ [('"' : CodePoint)]))
  | emptyArray {gap : Text} (hgap : IsGap gap) :
      Derives (.value (.array [])) ('[' :: (gap ++ [(']' : CodePoint)]))
  | array {xs : List Tree} {gap t : Text} (hgap : IsGap gap) (h : Derives (.elements xs) t) :
      Derives (.value (.array xs)) ('[' :: (gap ++ (t ++ [(']' : CodePoint)])))
  | emptyObject {gap : Text} (hgap : IsGap gap) :
      Derives (.value (.object [])) ('{' :: (gap ++ [('}' : CodePoint)]))
  | object {ms : List (List Symbol × Tree)} {gap t : Text} (hgap : IsGap gap)
      (h : Derives (.members ms) t) :
      Derives (.value (.object ms)) ('{' :: (gap ++ (t ++ [('}' : CodePoint)])))
  | lastElement {x : Tree} {t gap : Text} (h : Derives (.value x) t) (hgap : IsGap gap) :
      Derives (.elements [x]) (t ++ gap)
  | element {x : Tree} {xs : List Tree} {t gap gap' u : Text} (h : Derives (.value x) t)
      (hgap : IsGap gap) (hgap' : IsGap gap') (hrest : Derives (.elements xs) u) :
      Derives (.elements (x :: xs)) (t ++ (gap ++ (',' : CodePoint) :: (gap' ++ u)))
  | member {symbols : List Symbol} {x : Tree} {name gap gap' t : Text}
      (hname : Spells symbols name) (hgap : IsGap gap) (hgap' : IsGap gap')
      (h : Derives (.value x) t) :
      Derives (.member (symbols, x))
        ('"' :: (name ++ ('"' : CodePoint) :: (gap ++ (':' : CodePoint) :: (gap' ++ t))))
  | lastMember {m : List Symbol × Tree} {t gap : Text} (h : Derives (.member m) t)
      (hgap : IsGap gap) : Derives (.members [m]) (t ++ gap)
  | nextMember {m : List Symbol × Tree} {ms : List (List Symbol × Tree)} {t gap gap' u : Text}
      (h : Derives (.member m) t) (hgap : IsGap gap) (hgap' : IsGap gap')
      (hrest : Derives (.members ms) u) :
      Derives (.members (m :: ms)) (t ++ (gap ++ (',' : CodePoint) :: (gap' ++ u)))

/-! ## What derivations say -/

namespace Number

/-- The integer that the sign of a number and the digits before its point say. -/
def integer (n : Number) : Int :=
  if n.negative then -(decimalValue n.whole : Int) else decimalValue n.whole

/-- What a number says: an integer exactly, if it has neither fraction nor exponent. What any other
number amounts to is left to the reader. -/
def denoted (n : Number) : Value :=
  match n.fraction, n.exponent with
  | none, none => .int n.integer
  | _, _ => .float n.toBinary64

end Number

/-- The dictionary that members say: every name at the place where it stands first, with the value
that it has last. -/
def dictionaryOf (members : List (Text × Value)) : Value :=
  .dictionary ((Entries.keys members).eraseDups.filterMap fun name =>
    (Entries.last? (· = ·) name members).map fun v => (.text name, v))

namespace Tree

mutual

/-- The value that a derivation says. -/
def value : Tree → Value
  | null => .null
  | bool b => .bool b
  | number n => n.denoted
  | string symbols => .text (Symbol.join symbols)
  | array elements => .list (values elements)
  | object members => dictionaryOf (namedValues members)

/-- The values of elements, in order. -/
def values : List Tree → List Value
  | [] => []
  | x :: rest => value x :: values rest

/-- The values of members with their names, in order. -/
def namedValues : List (List Symbol × Tree) → List (Text × Value)
  | [] => []
  | (symbols, x) :: rest => (Symbol.join symbols, value x) :: namedValues rest

end

mutual

/-- The numbers in a derivation, in order. -/
def numbers : Tree → List Number
  | null => []
  | bool _ => []
  | number n => [n]
  | string _ => []
  | array elements => numbersOfElements elements
  | object members => numbersOfMembers members

/-- The numbers in elements. -/
def numbersOfElements : List Tree → List Number
  | [] => []
  | x :: rest => numbers x ++ numbersOfElements rest

/-- The numbers in members. -/
def numbersOfMembers : List (List Symbol × Tree) → List Number
  | [] => []
  | (_, x) :: rest => numbers x ++ numbersOfMembers rest

end

/-- No integer in a derivation has more than 4300 digits. -/
def Fits (x : Tree) : Prop :=
  ∀ n ∈ x.numbers, n.fraction = none → n.exponent = none → n.whole.length ≤ 4300

end Tree

theorem objectOf_eq_dictionaryOf (members : List (Text × Value)) :
    objectOf members = dictionaryOf members := by
  have hnodup := Entries.nodup_collapse members
  rw [objectOf, dictionaryOf, ← Entries.keys_collapse, Entries.keys, List.filterMap_map]
  congr 1
  rw [← List.filterMap_eq_map]
  refine List.filterMap_congr fun entry hentry => ?_
  have hlast := (Entries.last?_eq_some_iff hnodup).mpr hentry
  rw [Entries.last?_collapse] at hlast
  simp only [Function.comp_apply, hlast, Option.map_some]

/-! ## Numbers that are too long -/

namespace Number

/-- Whether a number is an integer with more digits than numerals may have. -/
def isTooLong (n : Number) : Bool :=
  n.isInteger && Numeral.maxDigits < n.whole.length

theorem isInteger_iff {n : Number} :
    n.isInteger = true ↔ n.fraction = none ∧ n.exponent = none := by
  simp [isInteger]

theorem isTooLong_iff {n : Number} : n.isTooLong = true ↔
    (n.fraction = none ∧ n.exponent = none) ∧ 4300 < n.whole.length := by
  rw [isTooLong, Bool.and_eq_true, isInteger_iff, decide_eq_true_eq]
  rfl

/-- **An integer is read** as what it says. -/
theorem toInt_eq_integer {n : Number} (h : IsWhole n.whole) : n.toInt = n.integer := by
  unfold toInt integer
  rw [digitsValue_eq h.mem_decimals]
  split
  · exact Int.negOfNat_eq
  · rfl

theorem denoted_of_isInteger {n : Number} (h : n.isInteger = true) :
    n.denoted = .int n.integer := by
  obtain ⟨hfraction, hexponent⟩ := isInteger_iff.mp h
  rw [denoted, hfraction, hexponent]

theorem denoted_of_not_isInteger {n : Number} (h : ¬n.isInteger = true) :
    n.denoted = .float n.toBinary64 := by
  unfold denoted
  split
  next hfraction hexponent => exact absurd (isInteger_iff.mpr ⟨hfraction, hexponent⟩) h
  next => rfl

end Number

section Result

variable {α β : Type}

/-- What a reader ends with that meets numbers on the way to a result: the first number that is too
long is a flaw. -/
def result (numbers : List Number) (a : α) : Except Flaw α :=
  match numbers.find? Number.isTooLong with
  | some n => .error (.longInteger n.whole.length)
  | none => .ok a

theorem map_result (f : α → β) (numbers : List Number) (a : α) :
    (result numbers a).map f = result numbers (f a) := by
  unfold result
  split <;> rfl

/-- Numbers are met one after the other. -/
theorem result_bind_result {numbers numbers' : List Number} {a : α} {b : β}
    {f : α → Except Flaw β} (h : f a = result numbers' b) :
    (result numbers a >>= f) = result (numbers ++ numbers') b := by
  unfold result at h ⊢
  -- the first number that is too long decides, wherever it stands
  rw [List.find?_append]
  cases numbers.find? Number.isTooLong with
  | none => exact h
  | some n => rfl

theorem result_bind_ok {numbers : List Number} {a : α} {b : β} {f : α → Except Flaw β}
    (h : f a = .ok b) : (result numbers a >>= f) = result numbers b := by
  have hresult : f a = result [] b := h
  rw [result_bind_result hresult, List.append_nil]

theorem value_eq_result {n : Number} (h : IsWhole n.whole) :
    n.value = result [n] n.denoted := by
  unfold Number.value result
  rw [List.find?_singleton, Number.isTooLong, Number.toInt_eq_integer h]
  by_cases hinteger : n.isInteger = true
  · rw [Number.denoted_of_isInteger hinteger]
    by_cases hlong : n.whole.length ≤ Numeral.maxDigits
    · simp [hinteger, hlong, Nat.not_lt.mpr hlong]
    · simp [hinteger, hlong, Nat.lt_of_not_le hlong]
  · rw [Number.denoted_of_not_isInteger hinteger]
    simp [hinteger]

theorem result_ok_iff {x : Tree} {a b : α} : result x.numbers a = .ok b ↔ x.Fits ∧ a = b := by
  have hfits : x.Fits ↔ x.numbers.find? Number.isTooLong = none := by
    simp only [Tree.Fits, List.find?_eq_none, Number.isTooLong_iff, not_and, Nat.not_lt, and_imp]
  rw [hfits, result]
  split
  next n hn => simp [hn]
  next hnone => simp [hnone]

end Result

/-! ## Gaps -/

variable {t rest gap : Text} {c : CodePoint}

theorem isSpace_iff : isSpace c = true ↔ c ∈ blanks := by
  have hblanks : blanks = [(' ' : CodePoint), '\t', '\n', '\r'] := rfl
  simp [isSpace, hblanks, or_assoc]

theorem IsGap.all_isSpace (hgap : IsGap gap) : gap.all isSpace = true :=
  List.all_eq_true.mpr fun c hc => isSpace_iff.mpr (hgap c hc)

/-- A gap ends where something else begins. -/
theorem skipSpaces_gap (hgap : IsGap gap) (hc : c ∉ blanks) :
    skipSpaces (gap ++ c :: rest) = c :: rest := by
  refine Text.dropWhile_append_of_all hgap.all_isSpace fun d hd => ?_
  obtain rfl := Option.some.inj hd
  exact Bool.eq_false_iff.mpr fun h => hc (isSpace_iff.mp h)

theorem skipSpaces_of_isGap (hgap : IsGap gap) : skipSpaces gap = [] :=
  List.dropWhile_eq_nil_iff.mpr (List.all_eq_true.mp hgap.all_isSpace)

theorem exists_gap (t : Text) : ∃ gap, IsGap gap ∧ t = gap ++ skipSpaces t := by
  refine ⟨t.takeWhile isSpace, fun c hc => ?_, List.takeWhile_append_dropWhile.symm⟩
  exact isSpace_iff.mp (List.mem_takeWhile_imp hc)

theorem exists_gap_of_head? (h : (skipSpaces t).head? = some c) :
    ∃ gap, IsGap gap ∧ t = gap ++ c :: (skipSpaces t).tail := by
  obtain ⟨gap, hgap, ht⟩ := exists_gap t
  obtain ⟨u, hu⟩ := List.head?_eq_some_iff.mp h
  refine ⟨gap, hgap, ?_⟩
  rw [hu, List.tail_cons, ← hu, ← ht]

/-! ## How values begin and what follows them -/

/-- What a value or a name may begin with. -/
def startsValue (c : CodePoint) : Bool :=
  List.contains ("\"[\x7bntf-" : Text) c || c.isDigit

theorem not_mem_blanks_of_startsValue (h : startsValue c = true) : c ∉ blanks := by
  have hblanks : blanks.any startsValue = false := by decide
  exact fun hc => List.any_eq_false.mp hblanks c hc h

theorem ne_of_startsValue {d : CodePoint} (h : startsValue c = true)
    (hd : startsValue d = false) : c ≠ d := by
  rintro rfl
  rw [hd] at h
  cases h

/-- Every part of a document begins like a value or a name. -/
theorem Derives.starts {p : Part} (h : Derives p t) :
    ∃ c u, t = c :: u ∧ startsValue c = true := by
  have happend : ∀ {t u : Text}, (∃ c v, t = c :: v ∧ startsValue c = true) →
      ∃ c v, t ++ u = c :: v ∧ startsValue c = true := by
    rintro _ u ⟨c, v, rfl, hc⟩
    exact ⟨c, v ++ u, rfl, hc⟩
  induction h with
  | word h =>
    rcases Tree.mem_words h with ⟨rfl, -⟩ | ⟨rfl, -⟩ | ⟨rfl, -⟩
    all_goals exact ⟨_, _, rfl, by decide⟩
  | number h =>
    obtain ⟨c, u, hc, rfl | rfl⟩ := h.eq_cons
    · exact ⟨c, u, rfl, Bool.or_eq_true_iff.mpr (.inr hc)⟩
    · exact ⟨_, _, rfl, by decide⟩
  | lastElement _ _ ih => exact happend ih
  | element _ _ _ _ ih => exact happend ih
  | lastMember _ _ ih => exact happend ih
  | nextMember _ _ _ _ ih => exact happend ih
  | _ => exact ⟨_, _, rfl, by decide⟩

/-- A gap ends where a part of a document begins. -/
theorem skipSpaces_part {p : Part} (hgap : IsGap gap) (h : Derives p t) :
    skipSpaces (gap ++ (t ++ rest)) = t ++ rest := by
  obtain ⟨c, u, rfl, hc⟩ := h.starts
  exact skipSpaces_gap hgap (not_mem_blanks_of_startsValue hc)

/-- What follows a value: a blank, a comma, a closing bracket or brace, or nothing. -/
def EndsValue (rest : Text) : Prop :=
  Text.GoesOnWith (blanks ++ (",]\x7d" : Text)) rest

theorem EndsValue.endsNumber (h : EndsValue rest) : EndsNumber rest := by
  have hnone : (blanks ++ (",]\x7d" : Text)).any
      (fun c => c.isDigit || c = '.' || c = 'e' || c = 'E') = false := by decide
  have hall : ∀ c ∈ rest.head?, ((c.isDigit = false ∧ c ≠ '.') ∧ c ≠ 'e') ∧ c ≠ 'E' := by
    intro c hc
    simpa using List.any_eq_false.mp hnone c (h c hc)
  exact ⟨fun c hc => (hall c hc).1.1,
    fun c hc => ⟨(hall c hc).1.1.1, (hall c hc).1.2, (hall c hc).2⟩⟩

/-- A gap does not keep a value from ending. -/
theorem endsValue_gap (hgap : IsGap gap) (hrest : EndsValue rest) : EndsValue (gap ++ rest) := by
  cases gap with
  | nil => exact hrest
  | cons c gap =>
    have hc := hgap c List.mem_cons_self
    exact Text.goesOnWith_cons.mpr (List.mem_append_left _ hc)

theorem endsValue_of_mem (hc : c ∈ (",]\x7d" : Text)) : EndsValue (c :: rest) :=
  Text.goesOnWith_cons.mpr (List.mem_append_right _ hc)

end Json

end ShapeInference
