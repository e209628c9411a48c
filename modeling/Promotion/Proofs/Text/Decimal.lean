import Mathlib.Algebra.Group.Nat.Defs
import Promotion.Text.Blank
import Promotion.Text.Decimal

/-!
# Reading Numerals

What a reader makes of a numeral that something else follows.

A run of digits ends where a character follows that is no digit. So a numeral is
read back from in front of whatever does not begin with a digit, and only from
there; `NoDigit` is that condition.

## Main definitions

* `NoDigit`: A text that does not begin with a digit.

## Theorems

* `splitDigits_append`: Digits are split off where no digit follows.
* `head_numeral`: A numeral has no leading zeros.
* `value_padded`: Leading zeros do not change the number.
* `isBlank_of_isDigit`: No digit is a blank.
-/

namespace Promotion

namespace Decimal

/-- A text that does not begin with a digit. -/
def NoDigit (cs : List Char) : Prop :=
  ∀ c ∈ cs.head?, c.isDigit = false

theorem noDigit_cons {c : Char} {cs : List Char} (h : c.isDigit = false) : NoDigit (c :: cs) := by
  rintro _ ⟨⟩
  exact h

theorem NoDigit.takeWhile {cs : List Char} (h : NoDigit cs) : cs.takeWhile Char.isDigit = [] := by
  cases cs with
  | nil => rfl
  | cons c cs => exact List.takeWhile_cons_of_neg (by simp [h c rfl])

theorem NoDigit.dropWhile {cs : List Char} (h : NoDigit cs) : cs.dropWhile Char.isDigit = cs := by
  cases cs with
  | nil => rfl
  | cons c cs => exact List.dropWhile_cons_of_neg (by simp [h c rfl])

/-- Digits are split off where no digit follows. -/
theorem splitDigits_append {digits rest : List Char} (hdigits : ∀ c ∈ digits, c.isDigit = true)
    (hrest : NoDigit rest) : splitDigits (digits ++ rest) = (digits, rest) := by
  unfold splitDigits
  rw [List.takeWhile_append_of_pos hdigits, List.dropWhile_append_of_pos hdigits,
    hrest.takeWhile, hrest.dropWhile, List.append_nil]

theorem numeral_ne_nil (n : Nat) : numeral n ≠ [] := Nat.toDigits_ne_nil

theorem splitDigits_numeral (n : Nat) {rest : List Char} (hrest : NoDigit rest) :
    splitDigits (numeral n ++ rest) = (numeral n, rest) :=
  splitDigits_append (fun _ => isDigit_of_mem_numeral) hrest

/-- A numeral has no leading zeros. -/
theorem head_numeral {n : Nat} (hn : 0 < n) : (numeral n).head? ≠ some '0' := by
  induction n using Nat.strongRecOn with
  | _ n ih =>
      unfold numeral at ih ⊢
      by_cases hsmall : n < 10
      · rw [Nat.toDigits_of_lt_base hsmall]
        have hnonzero : ∀ d < 10, 0 < d → d.digitChar ≠ '0' := by decide
        intro h
        exact hnonzero n hsmall hn (Option.some.inj h)
      · rw [Nat.toDigits_of_base_le (by omega) (by omega)]
        -- The first digit of `n` is that of `n / 10`, which is still positive.
        have hfirst := ih (n / 10) (by omega) (by omega)
        cases hdigits : Nat.toDigits 10 (n / 10) with
        | nil => exact absurd hdigits Nat.toDigits_ne_nil
        | cons c cs =>
            rw [hdigits] at hfirst
            exact hfirst

/-- A numeral of more than one digit does not begin with a zero. -/
theorem numeral_ne_zero_cons (n : Nat) (c : Char) (cs : List Char) :
    numeral n ≠ '0' :: c :: cs := by
  intro h
  rcases Nat.eq_zero_or_pos n with rfl | hn
  · cases h
  · exact head_numeral hn (by rw [h]; rfl)

/-- Padded digits are digits. -/
theorem isDigit_of_mem_padded {width n : Nat} {c : Char} (h : c ∈ padded width n) :
    c.isDigit = true := by
  rcases List.mem_append.mp h with h | h
  · rw [List.eq_of_mem_replicate h]
    decide
  · exact isDigit_of_mem_numeral h

/-- Leading zeros do not change the number. -/
theorem value_padded (width n : Nat) : value (padded width n) = n := by
  unfold value padded
  rw [Nat.ofDigitChars_append, Nat.ofDigitChars_replicate_zero, Nat.mul_zero]
  exact value_numeral n

/-- A number that fits is padded to exactly the width. -/
theorem length_padded {width n : Nat} (hwidth : 0 < width) (hn : n < 10 ^ width) :
    (padded width n).length = width := by
  have hle : (numeral n).length ≤ width := (Nat.length_toDigits_le_iff (by decide) hwidth).mpr hn
  unfold padded
  rw [List.length_append, List.length_replicate]
  omega

/-- A padded number has digits at all. -/
theorem padded_ne_nil (width n : Nat) : padded width n ≠ [] := by
  unfold padded
  intro h
  exact numeral_ne_nil n (List.append_eq_nil_iff.mp h).2

/-- No digit is a blank. -/
theorem isBlank_of_isDigit {c : Char} (h : c.isDigit = true) : Text.isBlank c = false := by
  simp only [Char.isDigit, Bool.and_eq_true, decide_eq_true_eq, ge_iff_le,
    UInt32.le_iff_toNat_le] at h
  -- As numbers the digits lie between the blanks, and `omega` can see it.
  change 48 ≤ c.toNat ∧ c.toNat ≤ 57 at h
  simp only [Text.isBlank, Bool.or_eq_false_iff, Bool.and_eq_false_iff, decide_eq_false_iff_not,
    beq_eq_false_iff_ne]
  omega

end Decimal

end Promotion
