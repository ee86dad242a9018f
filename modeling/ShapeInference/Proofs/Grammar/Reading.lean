import ShapeInference.Proofs.Grammar.Value

/-!
# Reading what the grammar derives

The readers of values accept what the grammar derives and nothing else. What they read is what the
derivation says, unless some integer in it has more digits than numerals may have. One direction is
by induction on the derivation, the other one by the fuel of the readers.

- `Json.readRow`: elements and members are read in the same way;
- `Json.readRow_last`, `Json.readRow_next`, `Json.of_readRow`: what such a row is;
- `Json.IsRead`: a part of a document is read as what it says;
- `Json.isRead_of_derives`: so is whatever the grammar derives;
- `Json.IsSound`, `Json.isSound`: whatever is read is derived by the grammar.
-/

namespace ShapeInference

namespace Json

variable {t rest gap : Text} {c : CodePoint}

/-! ## Rows

The elements of an array and the members of an object are read in the same way. -/

section Row

variable {α : Type} {close : CodePoint} {item : Text → Except Flaw (α × Text)}
  {more : Text → Except Flaw (List α × Text)} {a : α} {as : List α} {after : Text}
  {ns ns' : List Number}

/-- A reader of the items of a row from the first or next one on, through the code point that closes
the row. -/
def readRow (close : CodePoint) (item : Text → Except Flaw (α × Text))
    (more : Text → Except Flaw (List α × Text)) (t : Text) : Except Flaw (List α × Text) :=
  item t >>= fun (a, rest) =>
    if (skipSpaces rest).head? = some close then .ok ([a], (skipSpaces rest).tail)
    else expect ',' .comma (skipSpaces rest) >>= fun rest =>
      more (skipSpaces rest) >>= fun (items, rest) => .ok (a :: items, rest)

theorem expect_ok_iff {reason : Reason} : expect c reason t = .ok rest ↔ t = c :: rest := by
  cases t with
  | nil => simp [expect]
  | cons d t =>
    unfold expect
    dsimp only
    split
    next hd => simp [hd]
    next hd => simp [hd]

/-- What closes a row. -/
def closers : Text := "]\x7d"

theorem endsValue_of_mem_closers (hclose : close ∈ closers) : EndsValue (close :: rest) := by
  have hsub : closers ⊆ (",]\x7d" : Text) := List.subset_cons_self _ _
  exact endsValue_of_mem (hsub hclose)

/-- A row ends after its last item. -/
theorem readRow_last (hclose : close ∈ closers) (hgap : IsGap gap)
    (hitem : ∀ rest, EndsValue rest → item (t ++ rest) = result ns (a, rest)) :
    readRow close item more (t ++ gap ++ close :: rest) = result ns ([a], rest) := by
  have hblank : closers.any (· ∈ blanks) = false := by decide
  have hskip : close ∉ blanks := by simpa using List.any_eq_false.mp hblank close hclose
  rw [List.append_assoc, readRow, hitem _ (endsValue_gap hgap (endsValue_of_mem_closers hclose))]
  refine result_bind_ok ?_
  dsimp only
  rw [skipSpaces_gap hgap hskip]
  exact if_pos rfl

/-- A row goes on after a comma. -/
theorem readRow_next {gap' u : Text} {p : Part} (hclose : close ∈ closers) (hgap : IsGap gap)
    (hgap' : IsGap gap') (hnext : Derives p u)
    (hitem : ∀ rest, EndsValue rest → item (t ++ rest) = result ns (a, rest))
    (hmore : more (u ++ close :: rest) = result ns' (as, rest)) :
    readRow close item more (t ++ (gap ++ (',' : CodePoint) :: (gap' ++ u)) ++ close :: rest)
      = result (ns ++ ns') (a :: as, rest) := by
  -- a comma closes no row
  have hopen : ∀ v, ¬((',' : CodePoint) :: v).head? = some close := by
    intro v h
    obtain rfl := Option.some.inj h
    exact absurd hclose (by decide)
  rw [List.append_assoc, List.append_assoc, List.cons_append, List.append_assoc, readRow,
    hitem _ (endsValue_gap hgap (endsValue_of_mem (by decide)))]
  refine result_bind_result ?_
  dsimp only
  rw [skipSpaces_gap hgap (by decide), if_neg (hopen _), expect_ok_iff.mpr rfl]
  show (more (skipSpaces _) >>= _) = _
  rw [skipSpaces_part hgap' hnext, hmore]
  exact result_bind_ok rfl

/-- **What a row is**: an item with a gap, and the end or a comma and the rest of the row. -/
theorem of_readRow (h : readRow close item more t = .ok (as, rest)) :
    ∃ a after gap, item t = .ok (a, after) ∧ IsGap gap ∧ (after = gap ++ close :: rest ∨
      ∃ gap' next as', after = gap ++ (',' : CodePoint) :: (gap' ++ next) ∧ IsGap gap' ∧
        more next = .ok (as', rest)) := by
  obtain ⟨⟨a, after⟩, hitem, h⟩ := Except.bind_ok_iff.mp h
  obtain ⟨gap, hgap, hafter⟩ := exists_gap after
  refine ⟨a, after, gap, hitem, hgap, ?_⟩
  dsimp only at h
  split at h
  next hclose =>
    obtain ⟨u, hu⟩ := List.head?_eq_some_iff.mp hclose
    obtain ⟨-, rfl⟩ := Prod.mk.inj (Except.ok.inj h)
    exact .inl (by rw [hu, List.tail_cons, ← hu, ← hafter])
  next =>
    obtain ⟨next, hnext, h⟩ := Except.bind_ok_iff.mp h
    obtain ⟨⟨as', rest'⟩, hmore, heq⟩ := Except.bind_ok_iff.mp h
    obtain ⟨-, rfl⟩ := Prod.mk.inj (Except.ok.inj heq)
    obtain ⟨gap', hgap', hgaps⟩ := exists_gap next
    refine .inr ⟨gap', skipSpaces next, as', ?_, hgap', hmore⟩
    rw [← hgaps, ← expect_ok_iff.mp hnext, ← hafter]

end Row

/-! ## Scalars -/

theorem readScalar_word {x : Tree} (h : (t, x) ∈ Tree.words) (rest : Text) :
    readScalar (t ++ rest) = result x.numbers (x.value, rest) := by
  rcases Tree.mem_words h with ⟨rfl, rfl⟩ | ⟨rfl, rfl⟩ | ⟨rfl, rfl⟩
  all_goals rfl

/-- What begins with a digit, or with a minus sign and a digit, is neither a word nor the name of a
number that is not finite. -/
theorem readScalar_of_digit (hc : c.isDigit = true)
    (h : t = c :: rest ∨ t = ('-' : CodePoint) :: c :: rest) :
    readScalar t = match readNumber? t with
      | some (number, rest) => number.value.map (·, rest)
      | none => .error (.malformed .value t) := by
  have hne : ∀ {d : CodePoint}, d.isDigit = false → d ≠ c := by
    rintro d hd rfl
    rw [hc] at hd
    cases hd
  have hletter : ∀ {start : Text} {d : CodePoint}, start.head? = some d → d.isLetter = true →
      Text.dropStart? start t = none := by
    intro start d hstart hd
    have hdigit : d.isDigit = false := by
      simp only [CodePoint.isLetter, Bool.or_eq_true, Bool.and_eq_true, decide_eq_true_eq] at hd
      simp only [CodePoint.isDigit, Bool.and_eq_false_iff, decide_eq_false_iff_not]
      omega
    rcases h with rfl | rfl
    · exact Text.dropStart?_eq_none hstart (hne hdigit)
    · refine Text.dropStart?_eq_none hstart ?_
      rintro rfl
      exact absurd hd (by decide)
  have hinfinity : Text.dropStart? "-Infinity" t = none := by
    rcases h with rfl | rfl
    · exact Text.dropStart?_eq_none rfl (hne (by decide))
    · have hafter : Text.dropStart? "Infinity" (c :: rest) = none :=
        Text.dropStart?_eq_none rfl (hne (by decide))
      exact hafter
  have hwords :
      (words.findSome? fun word => (Text.dropStart? word.1 t).map (word.2, ·)) = none := by
    refine List.findSome?_eq_none_iff.mpr fun word hword => ?_
    simp only [words, List.mem_cons, List.not_mem_nil, or_false] at hword
    rcases hword with rfl | rfl | rfl <;> exact Option.map_eq_none_iff.mpr (hletter rfl (by decide))
  have hconstants : constants.find? (fun name => (Text.dropStart? name t).isSome) = none := by
    refine List.find?_eq_none.mpr fun name hname => ?_
    simp only [constants, List.mem_cons, List.not_mem_nil, or_false] at hname
    rw [Bool.not_eq_true, Option.isSome_eq_false_iff, Option.isNone_iff_eq_none]
    rcases hname with rfl | rfl | rfl
    · exact hletter rfl (by decide)
    · exact hletter rfl (by decide)
    · exact hinfinity
  cases hread : readNumber? t <;> simp only [readScalar, hwords, hconstants, hread]

theorem readScalar_number {n : Number} (h : n.IsWritten t) (hrest : EndsValue rest) :
    readScalar (t ++ rest) = result [n] (n.denoted, rest) := by
  have hscalar : readScalar (t ++ rest) = n.value.map (·, rest) := by
    obtain ⟨c, u, hc, ht⟩ := h.eq_cons
    have hcons : t ++ rest = c :: (u ++ rest) ∨ t ++ rest = ('-' : CodePoint) :: c :: (u ++ rest) :=
      ht.imp (fun h => by rw [h]; rfl) fun h => by rw [h]; rfl
    rw [readScalar_of_digit hc hcons, readNumber?_of_isWritten h hrest.endsNumber]
  rw [hscalar, value_eq_result h.isWhole, map_result]

theorem derives_of_readScalar {v : Value} (h : readScalar t = .ok (v, rest)) :
    ∃ x u, t = u ++ rest ∧ Derives (.value x) u := by
  unfold readScalar at h
  split at h
  next found hfound =>
    obtain rfl := Except.ok.inj h
    obtain ⟨word, hword, hdrop⟩ := List.exists_of_findSome?_eq_some hfound
    obtain ⟨after, hafter, heq⟩ := Option.map_eq_some_iff.mp hdrop
    obtain ⟨-, rfl⟩ := Prod.mk.inj heq
    obtain ⟨x, hx⟩ : ∃ x, (word.1, x) ∈ Tree.words := by
      simp only [words, List.mem_cons, List.not_mem_nil, or_false] at hword
      rcases hword with rfl | rfl | rfl
      · exact ⟨.null, by simp [Tree.words]⟩
      · exact ⟨.bool true, by simp [Tree.words]⟩
      · exact ⟨.bool false, by simp [Tree.words]⟩
    exact ⟨x, word.1, Text.eq_append_of_dropStart? hafter, .word hx⟩
  next =>
    split at h
    · cases h
    · split at h
      next n after hread =>
        obtain ⟨v', -, heq⟩ := Except.map_ok_iff.mp h
        obtain ⟨-, rfl⟩ := Prod.mk.inj heq
        obtain ⟨u, ht, hu⟩ := isWritten_of_readNumber? hread
        exact ⟨.number n, u, ht, .number hu⟩
      · cases h

/-! ## What is derived is read -/

/-- The reader of one member. -/
def readMember (fuel : Nat) (t : Text) : Except Flaw ((Text × Value) × Text) := do
  let (name, rest) ← readLiteral (← expect '"' .name t)
  let rest ← expect ':' .colon (skipSpaces rest)
  let (value, rest) ← readValue fuel (skipSpaces rest)
  return ((name, value), rest)

theorem readElements_succ (fuel : Nat) (t : Text) :
    readElements (fuel + 1) t = readRow ']' (readValue fuel) (readElements fuel) t :=
  rfl

theorem readMembers_succ (fuel : Nat) (t : Text) :
    readMembers (fuel + 1) t = readRow '\x7d' (readMember fuel) (readMembers fuel) t := by
  rw [readMembers, readRow, readMember]
  simp only [bind_assoc, pure_bind]
  rfl

/-- A part of a document is read as what it says, if enough text may be left and what follows ends
it. -/
def IsRead : Part → Text → Prop
  | .value x, t => ∀ fuel rest, 2 * t.length + 1 ≤ fuel → EndsValue rest →
      readValue fuel (t ++ rest) = result x.numbers (x.value, rest)
  | .elements xs, t => ∀ fuel rest, 2 * t.length + 2 ≤ fuel →
      readElements fuel (t ++ (']' : CodePoint) :: rest)
        = result (Tree.numbersOfElements xs) (Tree.values xs, rest)
  | .member m, t => ∀ fuel rest, 2 * t.length + 1 ≤ fuel → EndsValue rest →
      readMember fuel (t ++ rest) = result m.2.numbers ((Symbol.join m.1, m.2.value), rest)
  | .members ms, t => ∀ fuel rest, 2 * t.length + 2 ≤ fuel →
      readMembers fuel (t ++ ('\x7d' : CodePoint) :: rest)
        = result (Tree.numbersOfMembers ms) (Tree.namedValues ms, rest)

/-- There is fuel for another step. -/
theorem exists_fuel {n fuel : Nat} (h : n + 1 ≤ fuel) : ∃ m, fuel = m + 1 ∧ n ≤ m :=
  ⟨fuel - 1, by omega, by omega⟩

theorem isRead_word {x : Tree} (h : (t, x) ∈ Tree.words) : IsRead (.value x) t := by
  intro fuel rest hfuel _
  obtain ⟨fuel, rfl, -⟩ := exists_fuel hfuel
  rw [← readScalar_word h]
  rcases Tree.mem_words h with ⟨rfl, rfl⟩ | ⟨rfl, rfl⟩ | ⟨rfl, rfl⟩
  all_goals rfl

/-- What begins neither with a quote nor with a bracket or brace is a word or a number. -/
theorem readValue_scalar (fuel : Nat) (hc : c ∉ ("\"[\x7b" : Text)) :
    readValue (fuel + 1) (c :: rest) = readScalar (c :: rest) := by
  have hne : c ≠ '"' ∧ c ≠ '[' ∧ c ≠ '\x7b' := by simpa [Text.ofString] using hc
  rw [readValue, if_neg hne.1, if_neg hne.2.1, if_neg hne.2.2]

theorem isRead_number {n : Number} (h : n.IsWritten t) : IsRead (.value (.number n)) t := by
  intro fuel rest hfuel hrest
  obtain ⟨fuel, rfl, -⟩ := exists_fuel hfuel
  have hopening : ("\"[\x7b" : Text).any CodePoint.isDigit = false := by decide
  refine Eq.trans ?_ (readScalar_number h hrest)
  obtain ⟨c, u, hc, rfl | rfl⟩ := h.eq_cons
  · exact readValue_scalar fuel fun hmem => List.any_eq_false.mp hopening c hmem hc
  · exact readValue_scalar fuel (by decide)

theorem isRead_string {symbols : List Symbol} (h : Spells symbols t) :
    IsRead (.value (.string symbols)) ('"' :: (t ++ [('"' : CodePoint)])) := by
  intro fuel rest hfuel _
  obtain ⟨fuel, rfl, -⟩ := exists_fuel hfuel
  rw [List.cons_append, List.append_assoc, readValue, if_pos rfl]
  show (readLiteral (t ++ ('"' : CodePoint) :: rest)).map _ = _
  rw [readLiteral_of_spells h]
  rfl

/-! ### Arrays and objects -/

section Inside

variable {close : CodePoint} {p : Part}

/-- After the gap at its beginning an empty row ends. -/
theorem skipSpaces_empty (hgap : IsGap gap) (hclose : close ∉ blanks) :
    skipSpaces (gap ++ [close] ++ rest) = close :: rest := by
  rw [List.append_assoc]
  exact skipSpaces_gap hgap hclose

/-- After the gap at its beginning a row goes on with its first item. -/
theorem skipSpaces_inside (hgap : IsGap gap) (h : Derives p t) :
    skipSpaces (gap ++ (t ++ [close]) ++ rest) = t ++ close :: rest := by
  rw [List.append_assoc, List.append_assoc]
  exact skipSpaces_part hgap h

/-- The first item of a row does not begin as the row ends. -/
theorem Derives.not_closed (h : Derives p t) (hclose : startsValue close = false) :
    ¬(t ++ rest).head? = some close := by
  obtain ⟨c, u, rfl, hc⟩ := h.starts
  exact fun hhead => ne_of_startsValue hc hclose (Option.some.inj hhead)

/-- There is fuel for the items of a row. -/
theorem fuel_inside {open' : CodePoint} {fuel : Nat}
    (h : 2 * (open' :: (gap ++ (t ++ [close]))).length ≤ fuel) : 2 * t.length + 2 ≤ fuel := by
  simp only [List.length_cons, List.length_append, List.length_nil] at h
  omega

end Inside

theorem isRead_emptyArray (hgap : IsGap gap) :
    IsRead (.value (.array [])) ('[' :: (gap ++ [(']' : CodePoint)])) := by
  intro fuel rest hfuel _
  obtain ⟨fuel, rfl, -⟩ := exists_fuel hfuel
  rw [List.cons_append, readValue, if_neg (by decide), if_pos rfl,
    skipSpaces_empty hgap (by decide)]
  rfl

theorem isRead_array {xs : List Tree} (hgap : IsGap gap) (h : Derives (.elements xs) t)
    (ih : IsRead (.elements xs) t) :
    IsRead (.value (.array xs)) ('[' :: (gap ++ (t ++ [(']' : CodePoint)]))) := by
  intro fuel rest hfuel _
  obtain ⟨fuel, rfl, henough⟩ := exists_fuel hfuel
  rw [List.cons_append, readValue, if_neg (by decide), if_pos rfl, skipSpaces_inside hgap h]
  dsimp only
  rw [if_neg (h.not_closed (by decide)), ih fuel rest (fuel_inside henough), map_result]
  rfl

theorem isRead_emptyObject (hgap : IsGap gap) :
    IsRead (.value (.object [])) ('\x7b' :: (gap ++ [('\x7d' : CodePoint)])) := by
  intro fuel rest hfuel _
  obtain ⟨fuel, rfl, -⟩ := exists_fuel hfuel
  rw [List.cons_append, readValue, if_neg (by decide), if_neg (by decide), if_pos rfl,
    skipSpaces_empty hgap (by decide)]
  rfl

theorem isRead_object {ms : List (List Symbol × Tree)} (hgap : IsGap gap)
    (h : Derives (.members ms) t) (ih : IsRead (.members ms) t) :
    IsRead (.value (.object ms)) ('\x7b' :: (gap ++ (t ++ [('\x7d' : CodePoint)]))) := by
  intro fuel rest hfuel _
  obtain ⟨fuel, rfl, henough⟩ := exists_fuel hfuel
  rw [List.cons_append, readValue, if_neg (by decide), if_neg (by decide), if_pos rfl,
    skipSpaces_inside hgap h]
  dsimp only
  rw [if_neg (h.not_closed (by decide)), ih fuel rest (fuel_inside henough), map_result]
  dsimp only
  rw [objectOf_eq_dictionaryOf]
  rfl

theorem isRead_lastElement {x : Tree} (hgap : IsGap gap) (ih : IsRead (.value x) t) :
    IsRead (.elements [x]) (t ++ gap) := by
  intro fuel rest hfuel
  obtain ⟨fuel, rfl, henough⟩ := exists_fuel hfuel
  have hvalue : 2 * t.length + 1 ≤ fuel := by
    rw [List.length_append] at henough
    omega
  rw [readElements_succ, readRow_last (by decide) hgap fun rest hrest => ih fuel rest hvalue hrest]
  simp only [Tree.numbersOfElements, Tree.values, List.append_nil]

theorem isRead_element {x : Tree} {xs : List Tree} {gap' u : Text} (hgap : IsGap gap)
    (hgap' : IsGap gap') (hrest : Derives (.elements xs) u) (ih : IsRead (.value x) t)
    (ihRest : IsRead (.elements xs) u) :
    IsRead (.elements (x :: xs)) (t ++ (gap ++ (',' : CodePoint) :: (gap' ++ u))) := by
  intro fuel rest hfuel
  obtain ⟨fuel, rfl, henough⟩ := exists_fuel hfuel
  obtain ⟨hvalue, hmore⟩ : 2 * t.length + 1 ≤ fuel ∧ 2 * u.length + 2 ≤ fuel := by
    simp only [List.length_append, List.length_cons] at henough
    omega
  rw [readElements_succ, readRow_next (by decide) hgap hgap' hrest
    (fun rest hrest => ih fuel rest hvalue hrest) (ihRest fuel rest hmore)]
  rfl

theorem isRead_member {symbols : List Symbol} {x : Tree} {name gap' : Text}
    (hname : Spells symbols name) (hgap : IsGap gap) (hgap' : IsGap gap')
    (h : Derives (.value x) t) (ih : IsRead (.value x) t) : IsRead (.member (symbols, x))
      ('"' :: (name ++ ('"' : CodePoint) :: (gap ++ (':' : CodePoint) :: (gap' ++ t)))) := by
  intro fuel rest hfuel hrest
  have hvalue : 2 * t.length + 1 ≤ fuel := by
    simp only [List.length_append, List.length_cons] at hfuel
    omega
  simp only [List.cons_append, List.append_assoc]
  unfold readMember
  rw [expect_ok_iff.mpr rfl]
  show (readLiteral _ >>= _) = _
  rw [readLiteral_of_spells hname]
  show (expect ':' .colon (skipSpaces _) >>= _) = _
  rw [skipSpaces_gap hgap (by decide), expect_ok_iff.mpr rfl]
  show (readValue fuel (skipSpaces _) >>= _) = _
  rw [skipSpaces_part hgap' h, ih fuel rest hvalue hrest]
  exact result_bind_ok rfl

theorem isRead_lastMember {m : List Symbol × Tree} (hgap : IsGap gap) (ih : IsRead (.member m) t) :
    IsRead (.members [m]) (t ++ gap) := by
  intro fuel rest hfuel
  obtain ⟨fuel, rfl, henough⟩ := exists_fuel hfuel
  have hmember : 2 * t.length + 1 ≤ fuel := by
    rw [List.length_append] at henough
    omega
  rw [readMembers_succ, readRow_last (by decide) hgap fun rest hrest => ih fuel rest hmember hrest]
  simp only [Tree.numbersOfMembers, Tree.namedValues, List.append_nil]

theorem isRead_nextMember {m : List Symbol × Tree} {ms : List (List Symbol × Tree)} {gap' u : Text}
    (hgap : IsGap gap) (hgap' : IsGap gap') (hrest : Derives (.members ms) u)
    (ih : IsRead (.member m) t) (ihRest : IsRead (.members ms) u) :
    IsRead (.members (m :: ms)) (t ++ (gap ++ (',' : CodePoint) :: (gap' ++ u))) := by
  intro fuel rest hfuel
  obtain ⟨fuel, rfl, henough⟩ := exists_fuel hfuel
  obtain ⟨hmember, hmore⟩ : 2 * t.length + 1 ≤ fuel ∧ 2 * u.length + 2 ≤ fuel := by
    simp only [List.length_append, List.length_cons] at henough
    omega
  rw [readMembers_succ, readRow_next (by decide) hgap hgap' hrest
    (fun rest hrest => ih fuel rest hmember hrest) (ihRest fuel rest hmore)]
  rfl

/-- **What the grammar derives is read** as what it says. -/
theorem isRead_of_derives {p : Part} (h : Derives p t) : IsRead p t := by
  induction h with
  | word h => exact isRead_word h
  | number h => exact isRead_number h
  | string h => exact isRead_string h
  | emptyArray hgap => exact isRead_emptyArray hgap
  | array hgap h ih => exact isRead_array hgap h ih
  | emptyObject hgap => exact isRead_emptyObject hgap
  | object hgap h ih => exact isRead_object hgap h ih
  | lastElement _ hgap ih => exact isRead_lastElement hgap ih
  | element _ hgap hgap' hrest ih ihRest => exact isRead_element hgap hgap' hrest ih ihRest
  | member hname hgap hgap' h ih => exact isRead_member hname hgap hgap' h ih
  | lastMember _ hgap ih => exact isRead_lastMember hgap ih
  | nextMember _ hgap hgap' hrest ih ihRest => exact isRead_nextMember hgap hgap' hrest ih ihRest

/-! ## What is read is derived -/

/-- With some fuel, whatever is read is derived by the grammar. -/
structure IsSound (fuel : Nat) : Prop where
  value : ∀ {t v rest}, readValue fuel t = .ok (v, rest) →
    ∃ x u, t = u ++ rest ∧ Derives (.value x) u
  elements : ∀ {t vs rest}, readElements fuel t = .ok (vs, rest) →
    ∃ xs u, t = u ++ (']' : CodePoint) :: rest ∧ Derives (.elements xs) u
  members : ∀ {t vs rest}, readMembers fuel t = .ok (vs, rest) →
    ∃ ms u, t = u ++ ('\x7d' : CodePoint) :: rest ∧ Derives (.members ms) u

/-- Without fuel nothing is read. -/
theorem isSound_zero : IsSound 0 where
  value h := by
    unfold readValue at h
    cases h
  elements h := by
    unfold readElements at h
    cases h
  members h := by
    unfold readMembers at h
    cases h

section Step

variable {fuel : Nat} (ih : IsSound fuel)
include ih

theorem IsSound.readValue_succ {v : Value} (h : readValue (fuel + 1) t = .ok (v, rest)) :
    ∃ x u, t = u ++ rest ∧ Derives (.value x) u := by
  cases t with
  | nil =>
    unfold readValue at h
    cases h
  | cons c t =>
    rw [readValue] at h
    -- one case for each code point that a value may begin with, and the scalars at the end
    split at h
    next hquote =>
      obtain ⟨⟨name, after⟩, hread, heq⟩ := Except.map_ok_iff.mp h
      obtain ⟨-, rfl⟩ := Prod.mk.inj heq
      obtain ⟨symbols, inside, rfl, hinside, -⟩ := spells_of_readLiteral hread
      exact ⟨_, _, by simp [hquote], .string hinside⟩
    split at h
    next hbracket =>
      dsimp only at h
      split at h
      next hclose =>
        obtain ⟨-, rfl⟩ := Prod.mk.inj (Except.ok.inj h)
        obtain ⟨gap, hgap, ht⟩ := exists_gap_of_head? hclose
        exact ⟨_, _, by simpa [hbracket] using ht, .emptyArray hgap⟩
      next =>
        obtain ⟨⟨vs, after⟩, hread, heq⟩ := Except.map_ok_iff.mp h
        obtain ⟨-, rfl⟩ := Prod.mk.inj heq
        obtain ⟨xs, inside, hrest, hinside⟩ := ih.elements hread
        obtain ⟨gap, hgap, ht⟩ := exists_gap t
        exact ⟨_, _, by simpa [hbracket, hrest] using ht, .array hgap hinside⟩
    split at h
    next hbrace =>
      dsimp only at h
      split at h
      next hclose =>
        obtain ⟨-, rfl⟩ := Prod.mk.inj (Except.ok.inj h)
        obtain ⟨gap, hgap, ht⟩ := exists_gap_of_head? hclose
        exact ⟨_, _, by simpa [hbrace] using ht, .emptyObject hgap⟩
      next =>
        obtain ⟨⟨vs, after⟩, hread, heq⟩ := Except.map_ok_iff.mp h
        obtain ⟨-, rfl⟩ := Prod.mk.inj heq
        obtain ⟨ms, inside, hrest, hinside⟩ := ih.members hread
        obtain ⟨gap, hgap, ht⟩ := exists_gap t
        exact ⟨_, _, by simpa [hbrace, hrest] using ht, .object hgap hinside⟩
    next => exact derives_of_readScalar h

theorem IsSound.readMember {m : Text × Value} (h : readMember fuel t = .ok (m, rest)) :
    ∃ m' u, t = u ++ rest ∧ Derives (.member m') u := by
  obtain ⟨inside, hquote, h⟩ := Except.bind_ok_iff.mp h
  obtain ⟨⟨name, afterName⟩, hname, h⟩ := Except.bind_ok_iff.mp h
  obtain ⟨afterColon, hcolon, h⟩ := Except.bind_ok_iff.mp h
  obtain ⟨⟨v, after⟩, hvalue, heq⟩ := Except.bind_ok_iff.mp h
  obtain ⟨-, rfl⟩ := Prod.mk.inj (Except.ok.inj heq)
  obtain rfl := expect_ok_iff.mp hquote
  obtain ⟨symbols, written, rfl, hwritten, -⟩ := spells_of_readLiteral hname
  obtain ⟨gap, hgap, hafterName⟩ := exists_gap afterName
  obtain ⟨gap', hgap', hafterColon⟩ := exists_gap afterColon
  obtain ⟨x, u, hu, hx⟩ := ih.value hvalue
  rw [expect_ok_iff.mp hcolon, hafterColon, hu] at hafterName
  exact ⟨_, _, by simp [hafterName], .member hwritten hgap hgap' hx⟩

theorem IsSound.readElements_succ {vs : List Value}
    (h : readElements (fuel + 1) t = .ok (vs, rest)) :
    ∃ xs u, t = u ++ (']' : CodePoint) :: rest ∧ Derives (.elements xs) u := by
  rw [Json.readElements_succ] at h
  obtain ⟨v, after, gap, hvalue, hgap, hafter⟩ := of_readRow h
  obtain ⟨x, u, rfl, hx⟩ := ih.value hvalue
  rcases hafter with rfl | ⟨gap', next, vs', rfl, hgap', hmore⟩
  · exact ⟨_, _, by simp, .lastElement hx hgap⟩
  · obtain ⟨xs, u', rfl, hxs⟩ := ih.elements hmore
    exact ⟨_, _, by simp, .element hx hgap hgap' hxs⟩

theorem IsSound.readMembers_succ {vs : List (Text × Value)}
    (h : readMembers (fuel + 1) t = .ok (vs, rest)) :
    ∃ ms u, t = u ++ ('\x7d' : CodePoint) :: rest ∧ Derives (.members ms) u := by
  rw [Json.readMembers_succ] at h
  obtain ⟨v, after, gap, hmember, hgap, hafter⟩ := of_readRow h
  obtain ⟨m, u, rfl, hm⟩ := ih.readMember hmember
  rcases hafter with rfl | ⟨gap', next, vs', rfl, hgap', hmore⟩
  · exact ⟨_, _, by simp, .lastMember hm hgap⟩
  · obtain ⟨ms, u', rfl, hms⟩ := ih.members hmore
    exact ⟨_, _, by simp, .nextMember hm hgap hgap' hms⟩

end Step

/-- **Whatever is read is derived** by the grammar, with any fuel. -/
theorem isSound (fuel : Nat) : IsSound fuel := by
  induction fuel with
  | zero => exact isSound_zero
  | succ fuel ih => exact ⟨ih.readValue_succ, ih.readElements_succ, ih.readMembers_succ⟩

end Json

end ShapeInference
