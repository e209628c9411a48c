import Mathlib.Data.List.TakeWhile
import Promotion.Proofs.Json.RoundTrip

/-!
# More Text behind a Value

What is read does not depend on what stands behind it.

A value ends where its own last character stands, so a reader that has found it
finds it again with more text behind, and leaves that much more. The exception
is a number, which goes on as long as digits do: it is only certain to be over
once something stands behind it.

So behind a whole array or object nothing can be added that makes the two of
them a value. That is what happens to a log's last line if it is not ended
before the next entry is written.

## Main definitions

* `Json.readScaled`, `Json.readArray`, `Json.readObject`: Parts of the readers, by name.
* `Json.Extends`: The readers of a budget find with more text what they found.

## Theorems

* `extends_all`: They do for every budget.
* `print_append_inj`: A value that is no number can be told from what follows it.
* `readChars_append`: Text behind an array or an object makes a text of no value.
* `readChars_blank`: Neither is a blank that the grammar does not know a start.
-/

namespace Promotion

namespace Json

open Decimal

/-- Digits that end before the text does are the same with more text behind. -/
theorem splitDigits_extend {cs digits rest : List Char} (h : splitDigits cs = (digits, rest))
    (hrest : rest ≠ []) (more : List Char) :
    splitDigits (cs ++ more) = (digits, rest ++ more) := by
  unfold splitDigits at h
  rcases Prod.mk.inj h with ⟨rfl, hdrop⟩
  have hdigits : ∀ c ∈ cs.takeWhile Char.isDigit, c.isDigit = true :=
    List.all_eq_true.mp List.all_takeWhile
  -- What stopped the digits is still there, in front of what is added.
  have hnodigit : NoDigit (rest ++ more) := by
    subst hdrop
    have hhead := List.head_dropWhile_not Char.isDigit hrest
    cases hcs : cs.dropWhile Char.isDigit with
    | nil => exact absurd hcs hrest
    | cons c rest => exact noDigit_cons (by simpa only [hcs, List.head_cons] using hhead)
  have hsplit := splitDigits_append hdigits hnodigit
  rwa [← hdrop, ← List.append_assoc, List.takeWhile_append_dropWhile, hdrop] at hsplit

/-- The sign of an exponent, and what follows it. -/
def exponentSign (cs : List Char) : Bool × List Char :=
  match cs with
  | '-' :: rest => (true, rest)
  | '+' :: rest => (false, rest)
  | _ => (false, cs)

theorem exponentSign_append {cs : List Char} (hcs : cs ≠ []) (more : List Char) :
    exponentSign (cs ++ more) = ((exponentSign cs).1, (exponentSign cs).2 ++ more) := by
  unfold exponentSign
  split
  · rename_i h
    cases cs with
    | nil => exact absurd rfl hcs
    | cons c cs =>
        cases h
        rfl
  · rename_i h
    cases cs with
    | nil => exact absurd rfl hcs
    | cons c cs =>
        cases h
        rfl
  · rename_i hminus hplus
    split
    · exact absurd rfl (hminus _)
    · exact absurd rfl (hplus _)
    · rfl

theorem readExponent_eq (cs : List Char) :
    readExponent cs = match splitDigits (exponentSign cs).2 with
      | ([], _) => none
      | (digits, rest) =>
        some (if (exponentSign cs).1 then -(value digits : Int) else value digits, rest) := rfl

theorem readExponent_extend {cs rest : List Char} {e : Int} (h : readExponent cs = some (e, rest))
    (hrest : rest ≠ []) (more : List Char) :
    readExponent (cs ++ more) = some (e, rest ++ more) := by
  have hcs : cs ≠ [] := by
    rintro rfl
    cases h
  rw [readExponent_eq] at h ⊢
  rw [exponentSign_append hcs]
  rcases hsplit : splitDigits (exponentSign cs).2 with ⟨_ | ⟨d, ds⟩, r⟩
  -- Without a digit nothing was read, and `h` says that something was.
  all_goals
    rw [hsplit] at h
    cases h
  rw [splitDigits_extend hsplit hrest]

/-- The number that an exponent makes, if one follows, or else the plain one; and what follows. -/
def readScaled (scaled : Int → Number) (plain : Number) (cs : List Char) :
    Option (Number × List Char) :=
  match cs with
  | 'e' :: rest | 'E' :: rest => (readExponent rest).map fun (e, rest) => (scaled e, rest)
  | rest => some (plain, rest)

theorem readScaled_unmarked (scaled : Int → Number) (plain : Number) {c : Char} (hlower : c ≠ 'e')
    (hupper : c ≠ 'E') (cs : List Char) :
    readScaled scaled plain (c :: cs) = some (plain, c :: cs) := by
  unfold readScaled
  split
  · rename_i h
    exact absurd (List.cons.inj h).1 hlower
  · rename_i h
    exact absurd (List.cons.inj h).1 hupper
  · rfl

theorem readScaled_extend {scaled : Int → Number} {plain n : Number} {cs rest : List Char}
    (h : readScaled scaled plain cs = some (n, rest)) (hrest : rest ≠ []) (more : List Char) :
    readScaled scaled plain (cs ++ more) = some (n, rest ++ more) := by
  have hmarked : ∀ cs', (readExponent cs').map (fun r => (scaled r.1, r.2)) = some (n, rest) →
      (readExponent (cs' ++ more)).map (fun r => (scaled r.1, r.2)) = some (n, rest ++ more) := by
    intro cs' hread
    rcases Option.map_eq_some_iff.mp hread with ⟨⟨e, r⟩, hexponent, hpair⟩
    cases hpair
    rw [readExponent_extend hexponent hrest, Option.map_some]
  cases cs with
  | nil =>
      cases h
      exact absurd rfl hrest
  | cons c cs =>
      by_cases hlower : c = 'e'
      · subst hlower
        exact hmarked cs h
      by_cases hupper : c = 'E'
      · subst hupper
        exact hmarked cs h
      -- Nothing was read here, and the first character, which decides that, has not changed.
      rw [readScaled_unmarked scaled plain hlower hupper] at h
      cases h
      exact readScaled_unmarked scaled plain hlower hupper (cs ++ more)

/-- Behind a point stands a fraction, and then the number may be scaled. -/
theorem readScale_point (negative : Bool) (digits cs : List Char) :
    readScale negative digits ('.' :: cs) =
      match splitDigits cs with
      | ([], _) => none
      | (fraction, rest) =>
        readScaled (fun e => .scaled negative (value (digits ++ fraction)) (e - fraction.length))
          (.scaled negative (value (digits ++ fraction)) (-fraction.length)) rest := rfl

/-- Without a point the number may be scaled all the same. -/
theorem readScale_unpointed (negative : Bool) (digits : List Char) {c : Char} (hpoint : c ≠ '.')
    (cs : List Char) :
    readScale negative digits (c :: cs) =
      readScaled (.scaled negative (value digits))
        (if negative then .negated (value digits) else .natural (value digits)) (c :: cs) := by
  by_cases hlower : c = 'e'
  · subst hlower
    rfl
  by_cases hupper : c = 'E'
  · subst hupper
    rfl
  rw [readScaled_unmarked _ _ hlower hupper]
  unfold readScale
  split
  · rename_i h
    exact absurd (List.cons.inj h).1 hpoint
  · rename_i h
    exact absurd (List.cons.inj h).1 hlower
  · rename_i h
    exact absurd (List.cons.inj h).1 hupper
  · rfl

/-- What follows the digits of a number is the same with more text behind. -/
theorem readScale_extend {negative : Bool} {digits cs rest : List Char} {n : Number}
    (h : readScale negative digits cs = some (n, rest)) (hrest : rest ≠ []) (more : List Char) :
    readScale negative digits (cs ++ more) = some (n, rest ++ more) := by
  cases cs with
  | nil =>
      cases h
      exact absurd rfl hrest
  | cons c cs =>
      by_cases hpoint : c = '.'
      · subst hpoint
        rw [List.cons_append, readScale_point]
        rw [readScale_point] at h
        rcases hsplit : splitDigits cs with ⟨_ | ⟨d, ds⟩, r⟩
        · rw [hsplit] at h
          cases h
        · rw [hsplit] at h
          -- The fraction may be the last part or be followed by an exponent; in both cases
          -- something stands behind its digits.
          have hr : r ≠ [] := by
            rintro rfl
            cases h
            exact hrest rfl
          rw [splitDigits_extend hsplit hr]
          exact readScaled_extend h hrest more
      · rw [List.cons_append, readScale_unpointed negative digits hpoint]
        rw [readScale_unpointed negative digits hpoint] at h
        exact readScaled_extend h hrest more

/-- Behind a sign, digits that end before the text does are the same with more text behind. -/
theorem readMagnitude_extend {negative : Bool} {cs rest : List Char} {n : Number}
    (h : readMagnitude negative cs = some (n, rest)) (hrest : rest ≠ []) (more : List Char) :
    readMagnitude negative (cs ++ more) = some (n, rest ++ more) := by
  unfold readMagnitude at h ⊢
  split at h
  · cases h
  · cases h
  · rename_i digits r hempty hzero hsplit
    have hr : r ≠ [] := by
      rintro rfl
      cases h
      exact hrest rfl
    rw [splitDigits_extend hsplit hr]
    split
    · rename_i heq
      cases heq
      exact (hempty rfl).elim
    · rename_i heq
      cases heq
      exact (hzero _ _ rfl).elim
    · rename_i heq
      cases heq
      exact readScale_extend h hrest more

/-- A number that ends before the text does is the same with more text behind. -/
theorem readNumber_extend {cs rest : List Char} {n : Number} (h : readNumber cs = some (n, rest))
    (hrest : rest ≠ []) (more : List Char) : readNumber (cs ++ more) = some (n, rest ++ more) := by
  cases cs with
  | nil => cases h
  | cons c cs =>
      by_cases hminus : c = '-'
      · subst hminus
        exact readMagnitude_extend h hrest more
      · rw [List.cons_append, readNumber_unsigned hminus]
        rw [readNumber_unsigned hminus] at h
        exact readMagnitude_extend h hrest more

/-- A letter that is escaped stands for its character, and no such letter begins a number. -/
theorem readUnits_letter {c e : Char} (hc : unescape? c = some e) (cs : List Char) :
    readUnits ('\\' :: c :: cs) = (readUnits cs).map (consUnit (.char e)) := by
  rw [readUnits]
  · rw [hc]
  · rintro _ _ _ _ _ rfl
    cases hc

/-- A text between quotes ends with its quote. -/
theorem readUnits_extend {cs rest : List Char} {us : List TextUnit}
    (h : readUnits cs = some (us, rest)) (more : List Char) :
    readUnits (cs ++ more) = some (us, rest ++ more) := by
  fun_induction readUnits cs generalizing us with
  | case1 => cases h
  | case2 rest' =>
      cases h
      rfl
  -- The cases in which the reader gives up are those that `h` excludes.
  | case3 a b c d rest' hnumber => cases h
  | case4 a b c d rest' n hnumber ih =>
      rcases Option.map_eq_some_iff.mp h with ⟨⟨us', r⟩, hread, hpair⟩
      cases hpair
      simp only [List.cons_append, readUnits, hnumber, ih hread, Option.map_some]
      rfl
  | case5 c rest' _ hletter => cases h
  | case6 c rest' _ e hletter ih =>
      rcases Option.map_eq_some_iff.mp h with ⟨⟨us', r⟩, hread, hpair⟩
      cases hpair
      rw [List.cons_append, List.cons_append, readUnits_letter hletter, ih hread]
      rfl
  | case7 c rest' _ _ _ hcontrol => cases h
  | case8 c rest' hquote _ _ hplain ih =>
      rcases Option.map_eq_some_iff.mp h with ⟨⟨us', r⟩, hread, hpair⟩
      cases hpair
      rw [List.cons_append, readUnits_plain hquote (fun h => hplain (.inr h))
        (fun h => hplain (.inl h)), ih hread]
      rfl

theorem readText_extend {cs rest : List Char} {text : Option (List Char)}
    (h : readText cs = some (text, rest)) (more : List Char) :
    readText (cs ++ more) = some (text, rest ++ more) := by
  unfold readText at h ⊢
  rcases Option.map_eq_some_iff.mp h with ⟨⟨us, r⟩, hread, hpair⟩
  cases hpair
  rw [readUnits_extend hread]
  rfl

/-- Blanks that end before the text does end there with more text behind. -/
theorem skipSpace_extend {cs : List Char} (h : skipSpace cs ≠ []) (more : List Char) :
    skipSpace (cs ++ more) = skipSpace cs ++ more := by
  induction cs with
  | nil => exact absurd rfl h
  | cons c cs ih =>
      unfold skipSpace at ih h ⊢
      by_cases hc : isSpace c = true
      · rw [List.dropWhile_cons_of_pos hc] at h ⊢
        rw [List.cons_append, List.dropWhile_cons_of_pos hc]
        exact ih h
      · rw [List.dropWhile_cons_of_neg hc, List.cons_append, List.dropWhile_cons_of_neg hc]

theorem skipSpace_extend_cons {c : Char} {cs rest : List Char} (h : skipSpace cs = c :: rest)
    (more : List Char) : skipSpace (cs ++ more) = c :: (rest ++ more) := by
  rw [skipSpace_extend (by rw [h]; exact List.cons_ne_nil _ _), h, List.cons_append]

/-- What does not go on with a character does not with more text behind. -/
theorem skipSpace_extend_ne {c : Char} {cs : List Char} (hnil : skipSpace cs ≠ [])
    (h : ∀ rest, skipSpace cs = c :: rest → False) (more rest : List Char) :
    skipSpace cs ++ more ≠ c :: rest := by
  intro hmore
  cases hcs : skipSpace cs with
  | nil => exact hnil hcs
  | cons d cs' =>
      rw [hcs] at hmore
      cases hmore
      exact h _ hcs

/-- An array behind its opening bracket, and what follows. -/
def readArray (budget : Nat) (cs : List Char) : Option (Json × List Char) :=
  match skipSpace cs with
  | ']' :: rest => some (.array [], rest)
  | rest => (readElements budget rest).map fun (vs, rest) => (.array vs, rest)

/-- An object behind its opening brace, and what follows. -/
def readObject (budget : Nat) (cs : List Char) : Option (Json × List Char) :=
  match skipSpace cs with
  | '}' :: rest => some (.object [], rest)
  | rest => (readMembers budget rest).map fun (ms, rest) => (ofMembers ms, rest)

/-- The readers of a budget find with more text behind, and with a larger budget, what they
    found. A number has to end before its text does. -/
structure Extends (budget : Nat) : Prop where
  value : ∀ {cs rest v} budget' more, readValue budget cs = some (v, rest) → budget ≤ budget' →
    (rest = [] → ∀ n, v ≠ .number n) → readValue budget' (cs ++ more) = some (v, rest ++ more)
  elements : ∀ {cs rest vs} budget' more, readElements budget cs = some (vs, rest) →
    budget ≤ budget' → readElements budget' (cs ++ more) = some (vs, rest ++ more)
  members : ∀ {cs rest ms} budget' more, readMembers budget cs = some (ms, rest) →
    budget ≤ budget' → readMembers budget' (cs ++ more) = some (ms, rest ++ more)

/-- What begins with neither a sign nor a digit is no number. -/
theorem readNumber_eq_none {c : Char} (hminus : c ≠ '-') (hdigit : ¬ c.isDigit = true)
    (cs : List Char) : readNumber (c :: cs) = none := by
  rw [readNumber_unsigned hminus]
  unfold readMagnitude splitDigits
  rw [List.takeWhile_cons_of_neg hdigit]

/-- What is read as a number begins like one. -/
theorem readNumber_head {c : Char} {cs : List Char} (h : readNumber (c :: cs) ≠ none) :
    c = '-' ∨ c.isDigit = true := by
  by_cases hminus : c = '-'
  · exact .inl hminus
  · exact .inr (Decidable.byContradiction fun hdigit => h (readNumber_eq_none hminus hdigit cs))

theorem readValue_nil (budget : Nat) : readValue budget [] = none := by
  cases budget <;> rfl

theorem readElements_nil (budget : Nat) : readElements budget [] = none := by
  cases budget with
  | zero => rfl
  | succ budget => rw [readElements, readValue_nil]

theorem readMembers_nil (budget : Nat) : readMembers budget [] = none := by
  cases budget <;> rfl

namespace Extends

variable {budget : Nat}

theorem array (h : Extends budget) {cs rest : List Char} {v : Json} (budget' : Nat)
    (more : List Char) (hread : readArray budget cs = some (v, rest)) (hbudget : budget ≤ budget') :
    readArray budget' (cs ++ more) = some (v, rest ++ more) := by
  unfold readArray at hread ⊢
  split at hread
  · rename_i hclose
    cases hread
    simp only [skipSpace_extend_cons hclose]
  · rename_i hopen
    rcases Option.map_eq_some_iff.mp hread with ⟨⟨vs, r⟩, helements, hpair⟩
    cases hpair
    have hnil : skipSpace cs ≠ [] := by
      intro hempty
      rw [hempty, readElements_nil] at helements
      cases helements
    simp only [skipSpace_extend hnil]
    split
    · rename_i hclose
      exact absurd hclose (skipSpace_extend_ne hnil hopen more _)
    · rw [h.elements budget' more helements hbudget]
      rfl

theorem object (h : Extends budget) {cs rest : List Char} {v : Json} (budget' : Nat)
    (more : List Char) (hread : readObject budget cs = some (v, rest)) (hbudget : budget ≤ budget') :
    readObject budget' (cs ++ more) = some (v, rest ++ more) := by
  unfold readObject at hread ⊢
  split at hread
  · rename_i hclose
    cases hread
    simp only [skipSpace_extend_cons hclose]
  · rename_i hopen
    rcases Option.map_eq_some_iff.mp hread with ⟨⟨ms, r⟩, hmembers, hpair⟩
    cases hpair
    have hnil : skipSpace cs ≠ [] := by
      intro hempty
      rw [hempty, readMembers_nil] at hmembers
      cases hmembers
    simp only [skipSpace_extend hnil]
    split
    · rename_i hclose
      exact absurd hclose (skipSpace_extend_ne hnil hopen more _)
    · rw [h.members budget' more hmembers hbudget]
      rfl

theorem value_succ (h : Extends budget) {cs rest : List Char} {v : Json} (budget' : Nat)
    (more : List Char) (hread : readValue (budget + 1) cs = some (v, rest))
    (hbudget : budget ≤ budget') (hend : rest = [] → ∀ n, v ≠ .number n) :
    readValue (budget' + 1) (cs ++ more) = some (v, rest ++ more) := by
  have hskip : skipSpace cs ≠ [] := by
    intro hempty
    simp only [readValue, hempty] at hread
    cases hread
  simp only [readValue, skipSpace_extend hskip]
  simp only [readValue] at hread
  -- From here on only the text behind the blanks matters.
  generalize skipSpace cs = cs' at hread hskip ⊢
  split at hread
  · cases hread
    rfl
  · cases hread
    rfl
  · cases hread
    rfl
  · rename_i cs'
    rcases Option.map_eq_some_iff.mp hread with ⟨⟨text, r⟩, htext, hpair⟩
    cases hpair
    simp only [List.cons_append, readText_extend htext, Option.map_some]
  · exact h.array budget' more hread hbudget
  · exact h.object budget' more hread hbudget
  · rcases Option.map_eq_some_iff.mp hread with ⟨⟨n, r⟩, hnumber, hpair⟩
    cases hpair
    -- The one value that more text could prolong is a number at the very end.
    have hrest : r ≠ [] := fun hempty => hend hempty n rfl
    cases cs' with
    | nil => exact absurd rfl hskip
    | cons c cs' =>
        have hhead := numberHead (readNumber_head (by rw [hnumber]; exact Option.some_ne_none _))
        have hmore := readNumber_extend hnumber hrest more
        rw [List.cons_append] at hmore ⊢
        split
        all_goals first
          | rw [hmore]
            rfl
          -- The other readers are for first characters that no number has.
          | rename_i hcs
            have hc := (List.cons.inj hcs).1
            subst hc
            exact absurd (by decide) hhead.2.2

theorem elements_succ (h : Extends budget) {cs rest : List Char} {vs : List Json} (budget' : Nat)
    (more : List Char) (hread : readElements (budget + 1) cs = some (vs, rest))
    (hbudget : budget ≤ budget') :
    readElements (budget' + 1) (cs ++ more) = some (vs, rest ++ more) := by
  simp only [readElements] at hread ⊢
  cases hvalue : readValue budget cs with
  | none =>
      rw [hvalue] at hread
      cases hread
  | some found =>
      rcases found with ⟨v, r⟩
      rw [hvalue] at hread
      -- A comma or a bracket follows, so an element that is a number ends before it.
      have hr : r ≠ [] := by
        rintro rfl
        cases hread
      rw [h.value budget' more hvalue hbudget fun hempty => absurd hempty hr]
      simp only at hread ⊢
      split at hread
      · rename_i hcomma
        rcases Option.map_eq_some_iff.mp hread with ⟨⟨vs, r'⟩, helements, hpair⟩
        cases hpair
        simp only [skipSpace_extend_cons hcomma, h.elements budget' more helements hbudget,
          Option.map_some]
      · rename_i hclose
        cases hread
        simp only [skipSpace_extend_cons hclose]
      · cases hread

theorem members_succ (h : Extends budget) {cs rest : List Char}
    {ms : List (Option String × Json)} (budget' : Nat) (more : List Char)
    (hread : readMembers (budget + 1) cs = some (ms, rest)) (hbudget : budget ≤ budget') :
    readMembers (budget' + 1) (cs ++ more) = some (ms, rest ++ more) := by
  simp only [readMembers] at hread ⊢
  split at hread
  · rename_i r hquote
    simp only [skipSpace_extend_cons hquote]
    cases htext : readText r with
    | none =>
        rw [htext] at hread
        cases hread
    | some found =>
        rcases found with ⟨key, r₁⟩
        rw [htext] at hread
        simp only at hread
        simp only [readText_extend htext]
        split at hread
        · rename_i r₂ hcolon
          simp only [skipSpace_extend_cons hcolon]
          cases hvalue : readValue budget r₂ with
          | none =>
              rw [hvalue] at hread
              cases hread
          | some found =>
              rcases found with ⟨v, r₃⟩
              rw [hvalue] at hread
              -- As with elements, something follows every member's value.
              have hr : r₃ ≠ [] := by
                rintro rfl
                cases hread
              rw [h.value budget' more hvalue hbudget fun hempty => absurd hempty hr]
              simp only at hread ⊢
              split at hread
              · rename_i hcomma
                rcases Option.map_eq_some_iff.mp hread with ⟨⟨ms, r'⟩, hmembers, hpair⟩
                cases hpair
                simp only [skipSpace_extend_cons hcomma,
                  h.members budget' more hmembers hbudget, Option.map_some]
              · rename_i hclose
                cases hread
                simp only [skipSpace_extend_cons hclose]
              · cases hread
        · cases hread
  · cases hread

end Extends

/-- Whatever the budget, what was found is found with more text behind. -/
theorem extends_all (budget : Nat) : Extends budget := by
  induction budget with
  | zero => exact ⟨nofun, nofun, nofun⟩
  | succ budget ih =>
      constructor
      · intro cs rest v budget' more hread hbudget hend
        rcases Nat.exists_eq_succ_of_ne_zero (show budget' ≠ 0 by omega) with ⟨b, rfl⟩
        exact ih.value_succ b more hread (by omega) hend
      · intro cs rest vs budget' more hread hbudget
        rcases Nat.exists_eq_succ_of_ne_zero (show budget' ≠ 0 by omega) with ⟨b, rfl⟩
        exact ih.elements_succ b more hread (by omega)
      · intro cs rest ms budget' more hread hbudget
        rcases Nat.exists_eq_succ_of_ne_zero (show budget' ≠ 0 by omega) with ⟨b, rfl⟩
        exact ih.members_succ b more hread (by omega)

/-- Behind a whole value that is no number, a text that begins with no blank makes none. -/
theorem readChars_append {cs : List Char} {v : Json} (h : readChars cs = some v)
    (hv : ∀ n, v ≠ .number n) {c : Char} (hc : isSpace c = false) (more : List Char) :
    readChars (cs ++ c :: more) = none := by
  unfold readChars at h ⊢
  split at h
  · rename_i v' rest hread
    by_cases hspace : (skipSpace rest).isEmpty = true
    · rw [if_pos hspace] at h
      cases h
      have hmore := (extends_all _).value (2 * (cs ++ c :: more).length + 2) (c :: more) hread
        (by rw [List.length_append]; omega) fun _ => hv
      -- Behind the value only blanks were left; now the new text is left behind them.
      rw [List.isEmpty_iff] at hspace
      have hblanks : ∀ c ∈ rest, isSpace c = true := List.dropWhile_eq_nil_iff.mp hspace
      simp only [hmore, skipSpace_append hblanks, skipSpace_cons hc, List.isEmpty_cons,
        Bool.false_eq_true, if_false]
    · rw [if_neg hspace] at h
      cases h
  · cases h

/-- A value that is no number ends where it ends, whatever follows. -/
theorem readValue_print_append {v : Json} (hv : ∀ n, v ≠ .number n) {budget : Nat}
    (hbudget : 2 * v.print.length ≤ budget) (more : List Char) :
    readValue budget (v.print ++ more) = some (v, more) := by
  have hread := readValue_print v _ [] (Nat.le_refl _) follows_nil
  rw [List.append_nil] at hread
  exact (extends_all _).value budget more hread hbudget fun _ => hv

/-- Values that are no numbers can be told from what follows them. -/
theorem print_append_inj {v v' : Json} (hv : ∀ n, v ≠ .number n) (hv' : ∀ n, v' ≠ .number n)
    {more more' : List Char} (h : v.print ++ more = v'.print ++ more') : v = v' ∧ more = more' := by
  have hread := congrArg (readValue (2 * v.print.length + 2 * v'.print.length)) h
  rw [readValue_print_append hv (by omega), readValue_print_append hv' (by omega)] at hread
  simpa using hread

/-- The blanks of the grammar are blank. -/
theorem isBlank_of_isSpace {c : Char} (h : isSpace c = true) : Text.isBlank c = true := by
  simp only [isSpace, Bool.or_eq_true, beq_iff_eq] at h
  rcases h with ((rfl | rfl) | rfl) | rfl <;> decide

/-- What is not all blanks has a first character that is none. -/
theorem exists_blanks_append {cs : List Char} (h : ¬ ∀ c ∈ cs, isSpace c = true) :
    ∃ blanks c rest, cs = blanks ++ c :: rest ∧ (∀ b ∈ blanks, isSpace b = true) ∧
      isSpace c = false := by
  have hne : cs.dropWhile isSpace ≠ [] := by
    simpa only [ne_eq, List.dropWhile_eq_nil_iff] using h
  rcases List.exists_cons_of_ne_nil hne with ⟨c, rest, hrest⟩
  refine ⟨cs.takeWhile isSpace, c, rest, ?_, fun _ => List.mem_takeWhile_imp, ?_⟩
  · rw [← hrest, List.takeWhile_append_dropWhile]
  · have hhead := List.head?_dropWhile_not isSpace cs
    rw [hrest] at hhead
    exact hhead

/-- No value begins with a blank, and the reader skips only those of the grammar. -/
theorem readChars_blank {blanks : List Char} (hblanks : ∀ c ∈ blanks, isSpace c = true) {c : Char}
    (hspace : isSpace c = false) (hblank : Text.isBlank c = true) (more : List Char) :
    readChars (blanks ++ c :: more) = none := by
  have hne : ∀ d : Char, Text.isBlank d = false → c ≠ d := by
    rintro d hd rfl
    rw [hblank] at hd
    cases hd
  have hdigit : ¬ c.isDigit = true := fun hdigit => by
    rw [isBlank_of_isDigit hdigit] at hblank
    cases hblank
  -- A blank begins none of the values, and so none of the readers takes it.
  have hother : c ∉ ['n', 't', 'f', '"', '[', '{'] := by
    simp only [List.mem_cons, List.not_mem_nil, or_false, not_or]
    refine ⟨?_, ?_, ?_, ?_, ?_, ?_⟩ <;> exact hne _ (by decide)
  have hnumber : readNumber (c :: more) = none :=
    readNumber_eq_none (hne _ (by decide)) hdigit more
  unfold readChars
  rw [readValue_append hblanks, readValue_of_head hspace hother, hnumber]
  rfl

end Json

end Promotion
