import Promotion.Proofs.Json.RoundTrip
import Promotion.Uuid

/-!
# Reading Back Written Identifiers

An identifier is read back from its hyphenated text.

Between their hyphens the digits are the 32 digits of one number, the highest
first. `number?_digits` reads a first part of them: the number shifted down so
far that only this part is left.

## Theorems

* `number?_digits`: The first digits are the highest bits.
* `read?_text`: An identifier is read back.
-/

namespace Promotion

namespace Uuid

/-- The first digits are the highest bits. -/
theorem number?_digits (u : Uuid) {count : Nat} (h : count ≤ 32) :
    Hex.number? (u.digits 0 count) = some (u.bits.toNat >>> (4 * (32 - count))) := by
  induction count with
  | zero =>
      have hsmall : u.bits.toNat >>> 128 = 0 := by
        rw [Nat.shiftRight_eq_div_pow]
        exact Nat.div_eq_of_lt u.bits.isLt
      rw [show 4 * (32 - 0) = 128 by decide, hsmall]
      rfl
  | succ count ih =>
      -- One more digit is the next four bits from the top.
      have hstep : u.digits 0 (count + 1) =
          u.digits 0 count ++ [Hex.digit ((u.bits.toNat >>> (4 * (31 - count))) % 16)] := by
        simp only [digits, List.range_succ, List.map_append, List.map_cons, List.map_nil,
          Nat.zero_add]
      have hshift : u.bits.toNat >>> (4 * (32 - count)) =
          u.bits.toNat >>> (4 * (31 - count)) / 16 := by
        rw [show 4 * (32 - count) = 4 * (31 - count) + 4 by omega, Nat.shiftRight_add,
          Nat.shiftRight_eq_div_pow _ 4]
      have hfirst := ih (by omega)
      unfold Hex.number? at hfirst ⊢
      rw [hstep, List.foldlM_append, hfirst]
      simp only [Option.bind_eq_bind, Option.bind_some, List.foldlM_cons, List.foldlM_nil,
        Hex.value?_digit (Nat.mod_lt _ (by decide)), Option.map_some, Option.pure_def, hshift,
        show 32 - (count + 1) = 31 - count by omega, Option.some.injEq]
      omega

/-- A hexadecimal digit begins none of the other forms. -/
theorem digit_ne (n : Nat) (h : n < 16) : Hex.digit n ≠ '\x7b' ∧ Hex.digit n ≠ 'u' :=
  (by decide : ∀ n < 16, Hex.digit n ≠ '\x7b' ∧ Hex.digit n ≠ 'u') n h

/-- An identifier is read back. -/
theorem read?_text (u : Uuid) : read? u.text = some u := by
  -- Where the hyphens stand does not depend on the number, so these are computed.
  have hdigits : u.chars.take 8 ++ (u.chars.drop 9).take 4 ++ (u.chars.drop 14).take 4 ++
      (u.chars.drop 19).take 4 ++ u.chars.drop 24 = u.digits 0 32 := rfl
  have hlength : (u.digits 0 32).length = 32 := rfl
  have hhyphens : u.chars.length = 36 ∧
      [8, 13, 18, 23].all (fun i => u.chars[i]? == some '-') = true := ⟨rfl, rfl⟩
  have hread : ofHyphenated? u.chars = some u := by
    unfold ofHyphenated?
    simp only [hhyphens, and_self, if_true, hdigits]
    unfold ofDigits?
    rw [if_pos hlength, number?_digits u (Nat.le_refl 32)]
    simp
  unfold read? text ofChars?
  rw [String.toList_ofList, hhyphens.1, if_neg (by decide)]
  have hfirst := digit_ne ((u.bits.toNat >>> (4 * 31)) % 16) (Nat.mod_lt _ (by decide))
  split
  · rename_i rest h
    exact absurd (List.cons.inj h).1 hfirst.1
  · rename_i rest h
    exact absurd (List.cons.inj h).1 hfirst.2
  · exact hread

end Uuid

end Promotion
