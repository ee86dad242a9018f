import Mathlib.Data.List.Induction
import Mathlib.Data.Nat.Digits.Defs
import ShapeInference.Text.Basic

/-!
# What digits say

The value of a digit is its place in the row of all digits, and decimal digits say a number by the
powers of ten. The grammars of numbers and of string literals are told by these values. Readers have
arithmetic of their own, with the numbers of code points, which comes to the same.

- `Json.decimals`, `Json.decimalValue`: the decimal digits, and the number that several of them say;
- `Json.hexadecimals`, `Json.IsHexDigit`: the hexadecimal digits, and the value of one;
- `Json.digitsValue_eq`: decimal digits are read as what they say;
- `Json.hexValue?_iff`: so are four hexadecimal digits.
-/

namespace ShapeInference

namespace Json

/-! ## Decimal digits -/

/-- The decimal digits, each at the place of its value. -/
def decimals : Text := "0123456789"

/-- The number that decimal digits say, where the last one counts once and every other one ten times
as much as the one after it. -/
def decimalValue (t : Text) : Nat :=
  Nat.ofDigits 10 (t.reverse.map decimals.idxOf)

variable {c : CodePoint}

theorem isDigit_iff : c.isDigit = true ↔ c ∈ decimals := by
  simp only [CodePoint.isDigit, decimals, Text.ofString, Bool.and_eq_true, decide_eq_true_eq]
  simp [CodePoint.ofChar, Fin.ext_iff]
  omega

/-- **Decimal digits are read** as what they say. -/
theorem digitsValue_eq {t : Text} (h : ∀ c ∈ t, c ∈ decimals) :
    Text.digitsValue t = decimalValue t := by
  have hall : decimals.all (fun d => d.val - 0x30 = decimals.idxOf d) = true := by decide
  -- the reader adds one digit after the other at the end
  induction t using List.reverseRecOn with
  | nil => rfl
  | append_singleton t c ih =>
    have ht := ih fun d hd => h d (List.mem_append_left _ hd)
    have hmem : c ∈ decimals := h c (List.mem_append_right _ (List.mem_singleton_self c))
    have hc : c.val - 0x30 = decimals.idxOf c :=
      of_decide_eq_true (List.all_eq_true.mp hall c hmem)
    have hread : Text.digitsValue (t ++ [c]) = Text.digitsValue t * 10 + (c.val - 0x30) := by
      rw [Text.digitsValue, List.foldl_append]
      rfl
    have hsaid : decimalValue (t ++ [c]) = decimals.idxOf c + 10 * decimalValue t := by
      rw [decimalValue, List.reverse_append, List.reverse_singleton, List.singleton_append,
        List.map_cons, Nat.ofDigits_cons]
      rfl
    rw [hread, hsaid, ht, hc]
    omega

/-! ## Hexadecimal digits -/

/-- The hexadecimal digits, each at the place of its value, with letters in lower or in upper
case. -/
def hexadecimals : List Text := ["0123456789abcdef", "0123456789ABCDEF"]

/-- A code point is the hexadecimal digit of a value. -/
def IsHexDigit (c : CodePoint) (value : Nat) : Prop :=
  ∃ row ∈ hexadecimals, row[value]? = some c

instance (c : CodePoint) (value : Nat) : Decidable (IsHexDigit c value) :=
  inferInstanceAs (Decidable (∃ row ∈ hexadecimals, row[value]? = some c))

/-- Every digit of a row is read as its place. -/
theorem hexValue?_of_row {row : Text} (h : row ∈ hexadecimals) :
    row.map CodePoint.hexValue? = (List.range 16).map some := by
  have hrows : hexadecimals.all
      (fun row => row.map CodePoint.hexValue? = (List.range 16).map some) = true := by decide
  exact of_decide_eq_true (List.all_eq_true.mp hrows row h)

/-- What stands at a place of a row is the digit of that value. -/
theorem isHexDigit_of_val {row : Text} (hrow : row ∈ hexadecimals) {k n : Nat}
    (hplace : (row.map Fin.val)[k]? = some n) (hc : c.val = n) : IsHexDigit c k := by
  rw [List.getElem?_map] at hplace
  obtain ⟨d, hd, rfl⟩ := Option.map_eq_some_iff.mp hplace
  exact ⟨row, hrow, Fin.ext hc ▸ hd⟩

/-- **A hexadecimal digit is read** as what it says. -/
theorem isHexDigit_iff {k : Nat} : IsHexDigit c k ↔ c.hexValue? = some k := by
  constructor
  · rintro ⟨row, hrow, hc⟩
    have hlength : row.length = 16 := by
      have hlengths := congrArg List.length (hexValue?_of_row hrow)
      rwa [List.length_map, List.length_map, List.length_range] at hlengths
    have hk : k < 16 := hlength ▸ (List.getElem?_eq_some_iff.mp hc).1
    have hplace := congrArg (·[k]?) (hexValue?_of_row hrow)
    rw [List.getElem?_map, List.getElem?_map, hc, List.getElem?_range hk] at hplace
    exact Option.some.inj hplace
  · intro h
    -- decimal digits are in both rows, and letters in one
    have hdecimal : ∀ k < 10,
        (("0123456789abcdef" : Text).map Fin.val)[k]? = some (0x30 + k) := by decide
    have hlower : ∀ k < 6,
        (("0123456789abcdef" : Text).map Fin.val)[k + 10]? = some (0x61 + k) := by decide
    have hupper : ∀ k < 6,
        (("0123456789ABCDEF" : Text).map Fin.val)[k + 10]? = some (0x41 + k) := by decide
    simp only [CodePoint.hexValue?, CodePoint.isDigit, Bool.and_eq_true, decide_eq_true_eq] at h
    split_ifs at h with hdigit hcapital hsmall
    · obtain rfl := Option.some.inj h
      exact isHexDigit_of_val List.mem_cons_self (hdecimal (c.val - 0x30) (by omega)) (by omega)
    · obtain rfl := Option.some.inj h
      exact isHexDigit_of_val (List.mem_cons_of_mem _ List.mem_cons_self)
        (hupper (c.val - 0x41) (by omega)) (by omega)
    · obtain rfl := Option.some.inj h
      exact isHexDigit_of_val List.mem_cons_self (hlower (c.val - 0x61) (by omega)) (by omega)

/-- **Four hexadecimal digits are read** as what they say. -/
theorem hexValue?_iff {a b c d : CodePoint} {n : Nat} :
    Text.hexValue? [a, b, c, d] = some n ↔ ∃ i j k l, IsHexDigit a i ∧ IsHexDigit b j ∧
      IsHexDigit c k ∧ IsHexDigit d l ∧ i * 0x1000 + j * 0x100 + k * 0x10 + l = n := by
  simp only [isHexDigit_iff, Text.hexValue?, List.foldlM_cons, List.foldlM_nil,
    Option.bind_eq_bind, Option.bind_eq_some_iff, Option.map_eq_some_iff]
  constructor
  · rintro ⟨_, ⟨i, hi, rfl⟩, _, ⟨j, hj, rfl⟩, _, ⟨k, hk, rfl⟩, _, ⟨l, hl, rfl⟩, hn⟩
    refine ⟨i, j, k, l, hi, hj, hk, hl, ?_⟩
    have hsum := Option.some.inj hn
    omega
  · rintro ⟨i, j, k, l, hi, hj, hk, hl, rfl⟩
    refine ⟨_, ⟨i, hi, rfl⟩, _, ⟨j, hj, rfl⟩, _, ⟨k, hk, rfl⟩, _, ⟨l, hl, rfl⟩, ?_⟩
    exact congrArg some (by omega)

end Json

end ShapeInference
