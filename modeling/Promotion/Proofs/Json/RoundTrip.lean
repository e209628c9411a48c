import Promotion.Json.Printer
import Promotion.Json.Reader
import Promotion.Proofs.Text.Decimal

/-!
# Reading Back Written JSON

A value is read back from its compact text, whatever it is.

A value that is part of another is read with more text behind it. Most values
end with a character of their own, but a number ends only where a character
follows that cannot go on with it, so the text behind is restricted to what the
printer puts behind a value: a comma, a closing bracket, or nothing.

The budget of the reader is spent in steps along the text. What is left of it is
always at least twice the length of the part that is still to be read, and that
is the invariant of the induction over the value.

## Main definitions

* `Json.Follows`: A text that may stand behind a value.
* `Json.readMagnitude`: The reader of a number behind its sign, by name.

## Theorems

* `readUnits_quoted`: A text is read back up to its closing quote.
* `readNumber_print`: A number is read back.
* `readValue_print`: A value is read back, and what follows is left.
* `readChars_print`: A value is read back from its text.
* `lineFeed_not_mem_print`: A written value stays on its line.
-/

namespace Promotion

namespace Hex

theorem value?_digit {n : Nat} (h : n < 16) : value? (digit n) = some n :=
  (by decide : ∀ n < 16, value? (digit n) = some n) n h

end Hex

namespace Json

open Decimal

/-- A text that may stand behind a value. -/
def Follows (cs : List Char) : Prop :=
  ∀ c ∈ cs.head?, c = ',' ∨ c = ']' ∨ c = '}'

theorem follows_nil : Follows [] := nofun

theorem follows_cons {c : Char} {cs : List Char} (h : c = ',' ∨ c = ']' ∨ c = '}') :
    Follows (c :: cs) := by
  rintro _ ⟨⟩
  exact h

theorem follows_printElements (vs : List Json) (rest : List Char) :
    Follows (printElements vs ++ rest) := by
  cases vs with
  | nil => exact follows_cons (.inr (.inl rfl))
  | cons v vs => exact follows_cons (.inl rfl)

theorem follows_printMembers (ms : List (String × Json)) (rest : List Char) :
    Follows (printMembers ms ++ rest) := by
  cases ms with
  | nil => exact follows_cons (.inr (.inr rfl))
  | cons m ms => exact follows_cons (.inl rfl)

theorem Follows.noDigit {cs : List Char} (h : Follows cs) : NoDigit cs := by
  intro c hc
  rcases h c hc with rfl | rfl | rfl <;> decide

/-- Blanks are skipped up to the first character that is none. -/
theorem skipSpace_cons {c : Char} (h : isSpace c = false) (cs : List Char) :
    skipSpace (c :: cs) = c :: cs :=
  List.dropWhile_cons_of_neg (by simp [h])

/-- A character that needs no escape stands for itself. -/
theorem readUnits_plain {c : Char} (hquote : c ≠ '"') (hbackslash : c ≠ '\\')
    (hlow : ¬ c.toNat < 0x20) (rest : List Char) :
    readUnits (c :: rest) = (readUnits rest).map (consUnit (.char c)) := by
  rw [readUnits.eq_def]
  split
  · contradiction
  · rename_i h
    exact absurd (List.cons.inj h).1 hquote
  · rename_i h
    exact absurd (List.cons.inj h).1 hbackslash
  · rename_i h
    exact absurd (List.cons.inj h).1 hbackslash
  · rename_i h
    cases h
    rw [if_neg]
    rintro (h | h)
    · exact hlow h
    · exact hbackslash h

/-- The four digits of a control character are read as its number. -/
theorem number?_low {n : Nat} (h : n < 0x20) :
    Hex.number? ['0', '0', Hex.digit (n / 16), Hex.digit (n % 16)] = some n := by
  have h0 : Hex.value? '0' = some 0 := by decide
  simp only [Hex.number?, List.foldlM_cons, List.foldlM_nil, h0, Option.map_some,
    Hex.value?_digit (show n / 16 < 16 by omega), Hex.value?_digit (show n % 16 < 16 by omega),
    Option.bind_eq_bind, Option.bind_some, Option.pure_def, Option.some.injEq]
  omega

/-- The number of a control character stands for it, and not for half of a pair. -/
theorem ofNat_low {c : Char} (h : c.toNat < 0x20) : TextUnit.ofNat c.toNat = .char c := by
  have hhigh : isHighSurrogate c.toNat = false := by
    simp only [isHighSurrogate, Bool.and_eq_false_iff, decide_eq_false_iff_not]
    omega
  have hlow : isLowSurrogate c.toNat = false := by
    simp only [isLowSurrogate, Bool.and_eq_false_iff, decide_eq_false_iff_not]
    omega
  simp only [TextUnit.ofNat, hhigh, hlow, Bool.or_false, Bool.false_eq_true, if_false,
    Char.ofNat_toNat]

/-- A character is read back from its escape. -/
theorem readUnits_escape (c : Char) (rest : List Char) :
    readUnits (escape c ++ rest) = (readUnits rest).map (consUnit (.char c)) := by
  unfold escape
  -- The seven characters with a letter of their own are read by computation.
  by_cases h₁ : c = '"'
  · subst h₁
    rfl
  by_cases h₂ : c = '\\'
  · subst h₂
    rfl
  by_cases h₃ : c = '\x08'
  · subst h₃
    rfl
  by_cases h₄ : c = '\x0c'
  · subst h₄
    rfl
  by_cases h₅ : c = '\n'
  · subst h₅
    rfl
  by_cases h₆ : c = '\r'
  · subst h₆
    rfl
  by_cases h₇ : c = '\t'
  · subst h₇
    rfl
  simp only [h₁, h₂, h₃, h₄, h₅, h₆, h₇, if_false]
  -- Any other control character goes through four digits, and is no half of a pair.
  by_cases hlow : c.toNat < 0x20
  · have hnumber := number?_low hlow
    have hunit := ofNat_low hlow
    simp only [hlow, if_true, List.cons_append, List.nil_append, readUnits, hnumber, hunit]
  · simp only [hlow, if_false, List.cons_append, List.nil_append]
    exact readUnits_plain h₁ h₂ hlow rest

/-- A text is read back up to its closing quote. -/
theorem readUnits_quoted (cs rest : List Char) :
    readUnits (cs.flatMap escape ++ '"' :: rest) = some (cs.map .char, rest) := by
  induction cs with
  | nil => rfl
  | cons c cs ih =>
      rw [List.flatMap_cons, List.append_assoc, readUnits_escape, ih]
      rfl

theorem joinUnits_char (cs : List Char) : joinUnits (cs.map .char) = some cs := by
  induction cs with
  | nil => rfl
  | cons c cs ih => simp only [List.map_cons, joinUnits, ih, Option.map_some]

theorem readText_quoted (s : String) (rest : List Char) :
    readText (s.toList.flatMap escape ++ '"' :: rest) = some (some s.toList, rest) := by
  unfold readText
  rw [readUnits_quoted]
  simp only [Option.map_some, joinUnits_char]

/-- An exponent without a sign is its digits. -/
theorem readExponent_unsigned {d : Char} {cs : List Char} (hminus : d ≠ '-') (hplus : d ≠ '+') :
    readExponent (d :: cs) = match splitDigits (d :: cs) with
      | ([], _) => none
      | (digits, rest) => some ((value digits : Int), rest) := by
  unfold readExponent
  split
  rename_i negative cs' hsign
  split at hsign
  · rename_i h
    exact absurd (List.cons.inj h).1 hminus
  · rename_i h
    exact absurd (List.cons.inj h).1 hplus
  · cases hsign
    rfl

/-- A number behind its sign, and what follows. -/
def readMagnitude (negative : Bool) (cs : List Char) : Option (Number × List Char) :=
  match splitDigits cs with
  | ([], _) => none
  | ('0' :: _ :: _, _) => none
  | (digits, rest) => readScale negative digits rest

theorem readNumber_negated (cs : List Char) : readNumber ('-' :: cs) = readMagnitude true cs := rfl

/-- A number without a sign is its digits and what may follow them. -/
theorem readNumber_unsigned {d : Char} {cs : List Char} (hminus : d ≠ '-') :
    readNumber (d :: cs) = readMagnitude false (d :: cs) := by
  unfold readNumber
  split
  rename_i negative cs' hsign
  split at hsign
  · rename_i h
    exact absurd (List.cons.inj h).1 hminus
  · cases hsign
    rfl

/-- A sign is no digit. -/
theorem ne_of_isDigit {d c : Char} (hd : d.isDigit = true) (hc : c.isDigit = false) : d ≠ c := by
  rintro rfl
  rw [hd] at hc
  cases hc

/-- A numeral begins with a digit. -/
theorem numeral_eq_cons (n : Nat) : ∃ d ds, numeral n = d :: ds ∧ d.isDigit = true := by
  cases h : numeral n with
  | nil => exact absurd h (numeral_ne_nil n)
  | cons d ds => exact ⟨d, ds, rfl, isDigit_of_mem_numeral (h ▸ List.mem_cons_self)⟩

theorem readExponent_print (exponent : Int) {rest : List Char} (hrest : Follows rest) :
    readExponent ((if exponent < 0 then '-' :: numeral exponent.natAbs
      else numeral exponent.natAbs) ++ rest) = some (exponent, rest) := by
  have hsplit := splitDigits_numeral exponent.natAbs hrest.noDigit
  have hvalue := value_numeral exponent.natAbs
  rcases numeral_eq_cons exponent.natAbs with ⟨d, ds, hnumeral, hd⟩
  rw [hnumeral] at hsplit hvalue ⊢
  by_cases hneg : exponent < 0
  · simp only [hneg, if_true, List.cons_append, readExponent]
    rw [List.cons_append] at hsplit
    simp only [hsplit, hvalue, Option.some.injEq, Prod.mk.injEq, and_true]
    omega
  · simp only [hneg, if_false]
    rw [List.cons_append] at hsplit ⊢
    rw [readExponent_unsigned (ne_of_isDigit hd (by decide)) (ne_of_isDigit hd (by decide))]
    simp only [hsplit, hvalue, Option.some.injEq, Prod.mk.injEq, and_true]
    omega

/-- Digits in front of a text are the digits before the point. -/
theorem readMagnitude_numeral (negative : Bool) (n : Nat) {rest : List Char}
    (hrest : NoDigit rest) :
    readMagnitude negative (numeral n ++ rest) = readScale negative (numeral n) rest := by
  unfold readMagnitude
  rw [splitDigits_numeral n hrest]
  split
  · rename_i h
    exact absurd (Prod.mk.inj h).1 (numeral_ne_nil n)
  · rename_i h
    -- Leading zeros are refused, and a numeral has none.
    exact absurd (Prod.mk.inj h).1 (numeral_ne_zero_cons n _ _)
  · rename_i h
    cases h
    rfl

theorem readNumber_numeral (n : Nat) {rest : List Char} (hrest : NoDigit rest) :
    readNumber (numeral n ++ rest) = readScale false (numeral n) rest := by
  rw [← readMagnitude_numeral false n hrest]
  rcases numeral_eq_cons n with ⟨d, ds, hnumeral, hd⟩
  rw [hnumeral, List.cons_append, readNumber_unsigned (ne_of_isDigit hd (by decide))]

theorem readScale_follows (negative : Bool) (digits : List Char) {rest : List Char}
    (hrest : Follows rest) : readScale negative digits rest =
      some (if negative then .negated (value digits) else .natural (value digits), rest) := by
  cases rest with
  | nil => rfl
  | cons c cs => rcases hrest c rfl with rfl | rfl | rfl <;> rfl

/-- A number is read back. -/
theorem readNumber_print (n : Number) {rest : List Char} (hrest : Follows rest) :
    readNumber (n.print ++ rest) = some (n, rest) := by
  cases n with
  | natural n =>
      unfold Number.print
      rw [readNumber_numeral n hrest.noDigit, readScale_follows false _ hrest, value_numeral]
      rfl
  | negated n =>
      unfold Number.print
      rw [List.cons_append, readNumber_negated, readMagnitude_numeral true n hrest.noDigit,
        readScale_follows true _ hrest, value_numeral]
      rfl
  | scaled negative mantissa exponent =>
      have hmark : NoDigit ('e' :: ((if exponent < 0 then '-' :: numeral exponent.natAbs
          else numeral exponent.natAbs) ++ rest)) := noDigit_cons (by decide)
      have hscale : ∀ negative, readScale negative (numeral mantissa)
          ('e' :: ((if exponent < 0 then '-' :: numeral exponent.natAbs
            else numeral exponent.natAbs) ++ rest)) =
          some (.scaled negative mantissa exponent, rest) := by
        intro negative
        simp only [readScale, readExponent_print exponent hrest, Option.map_some, value_numeral]
      unfold Number.print
      cases negative with
      | false =>
          simp only [Bool.false_eq_true, if_false, List.nil_append, List.append_assoc,
            List.cons_append]
          rw [readNumber_numeral mantissa hmark, hscale]
      | true =>
          simp only [if_true, List.nil_append, List.append_assoc, List.cons_append]
          rw [readNumber_negated, readMagnitude_numeral true mantissa hmark, hscale]

/-- What begins like none of the other values is read as a number. -/
theorem readValue_of_head {c : Char} (hspace : isSpace c = false)
    (hc : c ∉ ['n', 't', 'f', '"', '[', '{']) (budget : Nat) (cs : List Char) :
    readValue (budget + 1) (c :: cs) =
      (readNumber (c :: cs)).map fun (n, rest) => (.number n, rest) := by
  rw [readValue, skipSpace_cons hspace]
  split
  all_goals first
    | rfl
    | rename_i h
      cases h
      exact absurd (by decide) hc

/-- The first character of a number. -/
theorem Number.print_eq_cons (n : Number) :
    ∃ c cs, n.print = c :: cs ∧ (c = '-' ∨ c.isDigit = true) := by
  cases n with
  | natural n =>
      rcases numeral_eq_cons n with ⟨d, ds, hnumeral, hd⟩
      exact ⟨d, ds, hnumeral, .inr hd⟩
  | negated n => exact ⟨'-', _, rfl, .inl rfl⟩
  | scaled negative mantissa exponent =>
      rcases numeral_eq_cons mantissa with ⟨d, ds, hnumeral, hd⟩
      cases negative with
      | false => exact ⟨d, _, by simp only [Number.print, hnumeral]; rfl, .inr hd⟩
      | true => exact ⟨'-', _, rfl, .inl rfl⟩

/-- A digit or a sign begins no other value and is no blank. -/
theorem numberHead {c : Char} (h : c = '-' ∨ c.isDigit = true) :
    isSpace c = false ∧ c ≠ ']' ∧ c ∉ ['n', 't', 'f', '"', '[', '{'] := by
  -- One fact for all eleven characters: none of them is a sign or a digit.
  have hne : ∀ d : Char, d ≠ '-' → d.isDigit = false → c ≠ d := by
    intro d hminus hdigit
    rcases h with rfl | h
    · exact hminus.symm
    · exact ne_of_isDigit h hdigit
  simp only [isSpace, Bool.or_eq_false_iff, beq_eq_false_iff_ne, List.mem_cons, List.not_mem_nil,
    or_false, not_or]
  refine ⟨⟨⟨⟨?_, ?_⟩, ?_⟩, ?_⟩, ?_, ?_, ?_, ?_, ?_, ?_, ?_⟩ <;>
    exact hne _ (by decide) (by decide)

/-- The first character of a value is no blank and no closing bracket. -/
theorem print_eq_cons (v : Json) : ∃ c cs, v.print = c :: cs ∧ isSpace c = false ∧ c ≠ ']' := by
  cases v with
  | null => exact ⟨_, _, rfl, by decide, by decide⟩
  | bool b => cases b <;> exact ⟨_, _, rfl, by decide, by decide⟩
  | number n =>
      rcases n.print_eq_cons with ⟨c, cs, hprint, hc⟩
      exact ⟨c, cs, hprint, (numberHead hc).1, (numberHead hc).2.1⟩
  | string s => exact ⟨_, _, rfl, by decide, by decide⟩
  | array elements => cases elements <;> exact ⟨_, _, rfl, by decide, by decide⟩
  | object members => cases members <;> exact ⟨_, _, rfl, by decide, by decide⟩
  | unreadable => exact ⟨_, _, rfl, by decide, by decide⟩

/-- Members with keys that can be read are the members of an object. -/
theorem ofMembers_some (ms : List (String × Json)) :
    ofMembers (ms.map fun m => (some m.1, m.2)) = .object ms := by
  have hall : ∀ f : Option String × Json → Option (String × Json),
      (∀ k v, f (some k, v) = some (k, v)) → (ms.map fun m => (some m.1, m.2)).mapM f = some ms := by
    intro f hf
    induction ms with
    | nil => rfl
    | cons m ms ih =>
        simp only [List.map_cons, List.mapM_cons, hf, ih]
        rfl
  unfold ofMembers
  rw [hall _ fun _ _ => rfl]

mutual

/-- A value is read back, and what follows is left. -/
theorem readValue_print : ∀ (v : Json) (budget : Nat) (rest : List Char),
    2 * v.print.length ≤ budget → Follows rest →
      readValue budget (v.print ++ rest) = some (v, rest)
  | v, 0, rest, hbudget, _ => by
      -- A value has at least one character, so a budget of zero is too small for it.
      rcases print_eq_cons v with ⟨c, cs, hprint, -⟩
      rw [hprint, List.length_cons] at hbudget
      omega
  | .null, budget + 1, rest, _, _ => rfl
  | .bool true, budget + 1, rest, _, _ => rfl
  | .bool false, budget + 1, rest, _, _ => rfl
  | .number n, budget + 1, rest, _, hrest => by
      have hread := readNumber_print n hrest
      rcases n.print_eq_cons with ⟨c, cs, hprint, hc⟩
      rw [print, hprint, List.cons_append]
      rw [hprint, List.cons_append] at hread
      rw [readValue_of_head (numberHead hc).1 (numberHead hc).2.2, hread]
      rfl
  | .string s, budget + 1, rest, _, _ => by
      simp only [print, quoted, List.cons_append, List.append_assoc, List.nil_append]
      rw [readValue, skipSpace_cons (by decide)]
      simp only [readText_quoted, Option.map_some, Option.elim_some, String.ofList_toList]
  | .unreadable, budget + 1, rest, _, _ => rfl
  | .array [], budget + 1, rest, _, _ => rfl
  | .array (v :: vs), budget + 1, rest, hbudget, hrest => by
      -- Behind the bracket no blank and no second bracket follows, so elements are read.
      rcases print_eq_cons v with ⟨c, cs, hprint, hspace, hclose⟩
      simp only [print, List.length_cons, List.length_append] at hbudget
      have hread := readElements_print v vs budget rest (by omega) hrest
      rw [print, List.cons_append, readValue, skipSpace_cons (by decide)]
      rw [hprint, List.cons_append, List.cons_append] at hread ⊢
      simp only [skipSpace_cons hspace]
      split
      · rename_i h
        exact absurd (List.cons.inj h).1 hclose
      · rw [hread]
        rfl
  | .object [], budget + 1, rest, _, _ => rfl
  | .object ((k, v) :: ms), budget + 1, rest, hbudget, hrest => by
      simp only [print, List.length_cons, List.length_append] at hbudget
      have hread := readMembers_print k v ms budget rest (by omega) hrest
      rw [print, List.cons_append, readValue, skipSpace_cons (by decide)]
      simp only [quoted, List.cons_append, List.append_assoc] at hread ⊢
      simp only [skipSpace_cons (show isSpace '"' = false by decide)]
      split
      -- Behind the brace stands the quote of the first key.
      · rename_i h
        exact absurd (List.cons.inj h).1 (by decide)
      · rw [hread, Option.map_some, ofMembers_some]

/-- The elements of an array are read back, and what follows it is left. -/
theorem readElements_print : ∀ (v : Json) (vs : List Json) (budget : Nat) (rest : List Char),
    2 * (v.print.length + (printElements vs).length) + 1 ≤ budget → Follows rest →
      readElements budget (v.print ++ printElements vs ++ rest) = some (v :: vs, rest)
  | v, vs, 0, rest, hbudget, _ => by omega
  | v, [], budget + 1, rest, hbudget, hrest => by
      have hvalue := readValue_print v budget (printElements [] ++ rest) (by omega)
        (follows_printElements [] rest)
      rw [readElements, List.append_assoc, hvalue]
      rfl
  | v, v₂ :: vs, budget + 1, rest, hbudget, hrest => by
      simp only [printElements, List.length_cons, List.length_append] at hbudget
      have hvalue := readValue_print v budget (printElements (v₂ :: vs) ++ rest) (by omega)
        (follows_printElements _ rest)
      -- Each element costs one of the budget, and its comma pays for it.
      have hmore := readElements_print v₂ vs budget rest (by omega) hrest
      rw [readElements, List.append_assoc, hvalue]
      simp only [printElements, List.cons_append, skipSpace_cons (show isSpace ',' = false by decide),
        hmore, Option.map_some]

/-- The members of an object are read back, and what follows it is left. -/
theorem readMembers_print : ∀ (k : String) (v : Json) (ms : List (String × Json)) (budget : Nat)
    (rest : List Char),
    2 * ((quoted k).length + (v.print.length + (printMembers ms).length)) + 1 ≤ budget →
      Follows rest → readMembers budget (quoted k ++ ':' :: (v.print ++ printMembers ms) ++ rest) =
        some (((k, v) :: ms).map fun (k, v) => (some k, v), rest)
  | k, v, ms, 0, rest, hbudget, _ => by omega
  | k, v, [], budget + 1, rest, hbudget, hrest => by
      have hvalue := readValue_print v budget (printMembers [] ++ rest) (by omega)
        (follows_printMembers [] rest)
      simp only [quoted, List.cons_append, List.append_assoc, List.nil_append]
      rw [readMembers, skipSpace_cons (by decide)]
      simp only [readText_quoted, skipSpace_cons (show isSpace ':' = false by decide), hvalue]
      simp only [printMembers, List.cons_append, List.nil_append,
        skipSpace_cons (show isSpace '}' = false by decide), Option.map_some,
        String.ofList_toList, List.map_cons, List.map_nil]
  | k, v, (k₂, v₂) :: ms, budget + 1, rest, hbudget, hrest => by
      simp only [printMembers, List.length_cons, List.length_append] at hbudget
      have hvalue := readValue_print v budget (printMembers ((k₂, v₂) :: ms) ++ rest) (by omega)
        (follows_printMembers _ rest)
      have hmore := readMembers_print k₂ v₂ ms budget rest (by omega) hrest
      simp only [quoted, List.cons_append, List.append_assoc, List.nil_append] at hmore ⊢
      rw [readMembers, skipSpace_cons (by decide)]
      simp only [readText_quoted, skipSpace_cons (show isSpace ':' = false by decide), hvalue]
      simp only [printMembers, quoted, List.cons_append, List.append_assoc, List.nil_append,
        skipSpace_cons (show isSpace ',' = false by decide), hmore, Option.map_some,
        String.ofList_toList, List.map_cons]

end

/-- Blanks in front of a text are skipped. -/
theorem skipSpace_append {blanks : List Char} (hblanks : ∀ c ∈ blanks, isSpace c = true)
    (cs : List Char) : skipSpace (blanks ++ cs) = skipSpace cs :=
  List.dropWhile_append_of_pos hblanks

/-- Blanks in front of a value make no difference. -/
theorem readValue_append {blanks : List Char} (hblanks : ∀ c ∈ blanks, isSpace c = true)
    (budget : Nat) (cs : List Char) : readValue budget (blanks ++ cs) = readValue budget cs := by
  cases budget with
  | zero => rfl
  | succ budget => simp only [readValue, skipSpace_append hblanks]

/-- A value is read back from its text, and from behind blanks. -/
theorem readChars_print (v : Json) {blanks : List Char}
    (hblanks : ∀ c ∈ blanks, isSpace c = true) : readChars (blanks ++ v.print) = some v := by
  -- The budget of a whole text is for the blanks too, so it is large enough.
  have hread := readValue_print v (2 * (blanks ++ v.print).length + 2) []
    (by rw [List.length_append]; omega) follows_nil
  rw [List.append_nil] at hread
  unfold readChars
  rw [readValue_append hblanks, hread]
  rfl

theorem read_compact (v : Json) : read v.compact = some v := by
  unfold read compact
  rw [String.toList_ofList]
  exact readChars_print v (List.forall_mem_nil _)

theorem printMembers_eq_concat (ms : List (String × Json)) :
    ∃ cs, printMembers ms = cs ++ ['}'] := by
  induction ms with
  | nil => exact ⟨[], rfl⟩
  | cons m rest ih =>
      rcases ih with ⟨cs, hcs⟩
      refine ⟨',' :: (quoted m.1 ++ ':' :: (print m.2 ++ cs)), ?_⟩
      simp only [printMembers, hcs, List.cons_append, List.append_assoc]

/-- An object ends with its brace. -/
theorem print_object_eq_concat (ms : List (String × Json)) :
    ∃ cs, (Json.object ms).print = cs ++ ['}'] := by
  cases ms with
  | nil => exact ⟨['{'], rfl⟩
  | cons m rest =>
      rcases printMembers_eq_concat rest with ⟨cs, hcs⟩
      refine ⟨'{' :: (quoted m.1 ++ ':' :: (print m.2 ++ cs)), ?_⟩
      simp only [print, hcs, List.cons_append, List.append_assoc]

theorem lineFeed_not_mem_numeral (n : Nat) : '\n' ∉ numeral n := fun h =>
  absurd (isDigit_of_mem_numeral h) (by decide)

theorem lineFeed_not_mem_quoted (s : String) : '\n' ∉ quoted s := by
  have hdigit : ∀ n < 16, Hex.digit n ≠ '\n' := by decide
  have hescape : ∀ c, '\n' ∉ escape c := by
    intro c
    unfold escape
    -- Only two of the escapes hold something that is not written out.
    repeat' split
    all_goals simp only [List.mem_cons, List.not_mem_nil, or_false, not_or]
    all_goals try decide
    · rename_i hlow
      exact ⟨by decide, by decide, by decide, by decide, (hdigit _ (by omega)).symm,
        (hdigit _ (by omega)).symm⟩
    · rename_i hfeed _ _ _
      exact fun h => hfeed h.symm
  unfold quoted
  simp only [List.mem_append, List.mem_cons, List.mem_flatMap, List.not_mem_nil, or_false, not_or,
    not_exists, not_and]
  exact ⟨⟨by decide, fun c _ => hescape c⟩, by decide⟩

theorem Number.lineFeed_not_mem_print (n : Number) : '\n' ∉ n.print := by
  cases n with
  | natural n => exact lineFeed_not_mem_numeral n
  | negated n =>
      simp only [Number.print, List.mem_cons, not_or]
      exact ⟨by decide, lineFeed_not_mem_numeral n⟩
  | scaled negative mantissa exponent =>
      have hexponent := lineFeed_not_mem_numeral exponent.natAbs
      unfold Number.print
      simp only [List.mem_append, List.mem_cons, not_or]
      refine ⟨⟨?_, lineFeed_not_mem_numeral mantissa⟩, by decide, ?_⟩
      · split <;> decide
      · split
        · simp only [List.mem_cons, not_or]
          exact ⟨by decide, hexponent⟩
        · exact hexponent

mutual

/-- A written value stays on its line. -/
theorem lineFeed_not_mem_print : ∀ v : Json, '\n' ∉ v.print
  | .null => by decide
  | .bool true => by decide
  | .bool false => by decide
  | .number n => n.lineFeed_not_mem_print
  | .string s => lineFeed_not_mem_quoted s
  | .unreadable => by decide
  | .array [] => by decide
  | .array (v :: vs) => by
      simp only [print, List.mem_cons, List.mem_append, not_or]
      exact ⟨by decide, lineFeed_not_mem_print v, lineFeed_not_mem_printElements vs⟩
  | .object [] => by decide
  | .object ((k, v) :: ms) => by
      simp only [print, List.mem_cons, List.mem_append, not_or]
      exact ⟨by decide, lineFeed_not_mem_quoted k, by decide, lineFeed_not_mem_print v,
        lineFeed_not_mem_printMembers ms⟩

theorem lineFeed_not_mem_printElements : ∀ vs : List Json, '\n' ∉ printElements vs
  | [] => by decide
  | v :: vs => by
      simp only [printElements, List.mem_cons, List.mem_append, not_or]
      exact ⟨by decide, lineFeed_not_mem_print v, lineFeed_not_mem_printElements vs⟩

theorem lineFeed_not_mem_printMembers : ∀ ms : List (String × Json), '\n' ∉ printMembers ms
  | [] => by decide
  | (k, v) :: ms => by
      simp only [printMembers, List.mem_cons, List.mem_append, not_or]
      exact ⟨by decide, lineFeed_not_mem_quoted k, by decide, lineFeed_not_mem_print v,
        lineFeed_not_mem_printMembers ms⟩

end

end Json

end Promotion
