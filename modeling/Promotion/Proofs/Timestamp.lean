import Promotion.Proofs.Text.Decimal
import Promotion.Timestamp.Format

/-!
# Reading Back Written Timestamps

A timestamp is read back from its text.

The reader is more tolerant than the printer, but it takes what the printer
writes for what it is: fields of a fixed width with marks between them, a year
that has a sign where it does not fit its width, and a fraction of as many
digits as it needs. One lemma per piece says that it is read from in front of
whatever follows.

So a timestamp ends where it ends, whatever stands behind it. It also begins
where it begins, even right behind a number: its year has exactly four digits or
a sign in front.

## Theorems

* `readField_digits`: A field is read from in front of what follows.
* `readYear_yearText`: A year is read back.
* `readFraction_fractionText`: A fraction is read back.
* `ofLocal?_fields`: The fields of a timestamp are its fields.
* `read?_text`: A timestamp is read back.
* `numeral_yearText_inj`: A number and the year behind it can be told apart.
* `numeral_chars_inj`: So can a number, a timestamp and what follows.
* `rank_inj`: No two timestamps are at one place in their order.
-/

namespace Promotion

namespace Timestamp

open Decimal

theorem skipBlank_cons {c : Char} (h : Text.isBlank c = false) (cs : List Char) :
    Text.skipBlank (c :: cs) = c :: cs :=
  List.dropWhile_cons_of_neg (by simp [h])

theorem skipBlank_digits {digits : List Char} (hnil : digits ≠ [])
    (hdigits : ∀ c ∈ digits, c.isDigit = true) (rest : List Char) :
    Text.skipBlank (digits ++ rest) = digits ++ rest := by
  cases digits with
  | nil => exact absurd rfl hnil
  | cons d ds => exact skipBlank_cons (isBlank_of_isDigit (hdigits d List.mem_cons_self)) _

/-- A field ends at its width, or where no digit follows. -/
theorem readField_digits {width : Nat} {digits rest : List Char} (hnil : digits ≠ [])
    (hdigits : ∀ c ∈ digits, c.isDigit = true) (hwidth : digits.length ≤ width)
    (hend : digits.length = width ∨ NoDigit rest) :
    readField width (digits ++ rest) = some (value digits, rest) := by
  -- Cutting at the width first takes all of the digits, and then nothing behind them.
  have htake : ((digits ++ rest).take width).takeWhile Char.isDigit = digits := by
    rw [List.take_append, List.take_of_length_le hwidth, List.takeWhile_append_of_pos hdigits]
    rcases hend with hfull | hend
    · rw [hfull, Nat.sub_self, List.take_zero, List.takeWhile_nil, List.append_nil]
    · have hrest : NoDigit (rest.take (width - digits.length)) := by
        intro c hc
        cases rest with
        | nil => exact absurd hc (by simp)
        | cons d rest =>
            refine hend c ?_
            cases hn : width - digits.length with
            | zero =>
                rw [hn] at hc
                cases hc
            | succ n =>
                rw [hn] at hc
                exact hc
      rw [hrest.takeWhile, List.append_nil]
  unfold readField
  simp only [skipBlank_digits hnil hdigits, htake, List.isEmpty_iff, hnil, if_false,
    List.drop_left]

/-- A padded field that fits its width is read back. -/
theorem readField_padded {width n : Nat} (hwidth : 0 < width) (hn : n < 10 ^ width)
    (rest : List Char) : readField width (padded width n ++ rest) = some (n, rest) := by
  have hlength := length_padded hwidth hn
  rw [readField_digits (padded_ne_nil width n) (fun _ => isDigit_of_mem_padded)
    (Nat.le_of_eq hlength) (.inl hlength), value_padded]

theorem readYear_unsigned {d : Char} (hd : d.isDigit = true) (cs : List Char) :
    readYear (d :: cs) = (readField 4 (d :: cs)).map fun (n, rest) => ((n : Int), rest) := by
  unfold readYear
  rw [skipBlank_cons (isBlank_of_isDigit hd)]
  split
  · rename_i h
    cases h
    cases hd
  · rename_i h
    cases h
    cases hd
  · rfl

/-- A year is read back in front of its mark. -/
theorem readYear_yearText (year : Int) (rest : List Char) :
    readYear (yearText year ++ '-' :: rest) = some (year, '-' :: rest) := by
  have hdigits : ∀ c ∈ padded 4 year.natAbs, c.isDigit = true := fun _ => isDigit_of_mem_padded
  have hmark : NoDigit ('-' :: rest) := noDigit_cons (by decide)
  -- A signed year has no width of its own; the mark is what ends it.
  have hread : readField (padded 4 year.natAbs ++ '-' :: rest).length
      (padded 4 year.natAbs ++ '-' :: rest) = some (year.natAbs, '-' :: rest) := by
    rw [readField_digits (padded_ne_nil _ _) hdigits (by rw [List.length_append]; omega)
      (.inr hmark), value_padded]
  have hfirst : ((padded 4 year.natAbs ++ '-' :: rest).head?.map Char.isDigit).getD false =
      true := by
    cases hcons : padded 4 year.natAbs with
    | nil => exact absurd hcons (padded_ne_nil _ _)
    | cons d ds => exact hdigits d (by rw [hcons]; exact List.mem_cons_self)
  unfold yearText
  -- Only a year of four digits is written without a sign.
  by_cases hsmall : 0 ≤ year ∧ year ≤ 9999
  · rw [if_pos hsmall]
    have hpadded : readField 4 (padded 4 year.natAbs ++ '-' :: rest) = _ :=
      readField_padded (by decide) (show year.natAbs < 10 ^ 4 by omega) ('-' :: rest)
    cases hcons : padded 4 year.natAbs with
    | nil => exact absurd hcons (padded_ne_nil _ _)
    | cons d ds =>
        rw [hcons] at hpadded
        have hd : d.isDigit = true := hdigits d (by rw [hcons]; exact List.mem_cons_self)
        rw [List.cons_append] at hpadded ⊢
        rw [readYear_unsigned hd, hpadded]
        simp only [Option.map_some, Option.some.injEq, Prod.mk.injEq, and_true]
        omega
  · rw [if_neg hsmall, List.cons_append]
    by_cases hneg : year < 0
    · simp only [hneg, if_true, readYear, skipBlank_cons (show Text.isBlank '-' = false by decide),
        hfirst, hread, Option.map_some, Option.some.injEq, Prod.mk.injEq, and_true]
      omega
    · simp only [hneg, if_false, readYear,
        skipBlank_cons (show Text.isBlank '+' = false by decide), hfirst, if_true, hread,
        Option.map_some, Option.some.injEq, Prod.mk.injEq, and_true]
      omega

/-- A mark is read where it stands. -/
theorem readMark_cons {mark : Char} (h : Text.isBlank mark = false) (rest : List Char) :
    readMark mark (mark :: rest) = some rest := by
  unfold readMark
  rw [skipBlank_cons h]
  simp only [if_true]

/-- A fraction of up to nine digits is read back in front of its zone. -/
theorem readFraction_padded {width n : Nat} (hwidth : 0 < width) (hnine : width ≤ 9)
    (hn : n < 10 ^ width) {rest : List Char} (hrest : NoDigit rest) :
    readFraction ('.' :: (padded width n ++ rest)) = some (n * 10 ^ (9 - width), rest) := by
  have hlength := length_padded hwidth hn
  have hsplit : splitDigits (padded width n ++ rest) = _ :=
    splitDigits_append (fun _ => isDigit_of_mem_padded) hrest
  unfold readFraction
  cases hcons : padded width n with
  | nil => exact absurd hcons (padded_ne_nil _ _)
  | cons d ds =>
      rw [hcons] at hlength hsplit
      simp only [hsplit]
      rw [List.take_of_length_le (by omega), ← hcons, value_padded, hcons, hlength]
      rfl

/-- A fraction is read back in front of what is neither a digit nor a point. -/
theorem readFraction_fractionText {nanosecond : Nat} (h : nanosecond < 1000000000)
    {rest : List Char} (hrest : NoDigit rest) (hpoint : rest.head? ≠ some '.') :
    readFraction (fractionText nanosecond ++ rest) = some (nanosecond, rest) := by
  unfold fractionText
  by_cases hzero : nanosecond = 0
  · rw [if_pos hzero, hzero, List.nil_append]
    unfold readFraction
    split
    · exact absurd rfl hpoint
    · rfl
  -- Each of the three precisions is tried only if the coarser ones lose something.
  rw [if_neg hzero]
  by_cases hmilli : nanosecond % 1000000 = 0
  · rw [if_pos hmilli, List.cons_append, readFraction_padded (by decide) (by decide)
      (show nanosecond / 1000000 < 10 ^ 3 by omega) hrest]
    simp only [Option.some.injEq, Prod.mk.injEq, and_true]
    omega
  rw [if_neg hmilli]
  by_cases hmicro : nanosecond % 1000 = 0
  · rw [if_pos hmicro, List.cons_append, readFraction_padded (by decide) (by decide)
      (show nanosecond / 1000 < 10 ^ 6 by omega) hrest]
    simp only [Option.some.injEq, Prod.mk.injEq, and_true]
    omega
  · rw [if_neg hmicro, List.cons_append, readFraction_padded (by decide) (by decide)
      (show nanosecond < 10 ^ 9 by omega) hrest]
    simp only [Option.some.injEq, Prod.mk.injEq, and_true]
    omega

/-- Neither a digit nor a point begins the mark of a zone. -/
theorem Zone.head_mark (zone : Zone) (rest : List Char) :
    NoDigit (zone.mark ++ rest) ∧ (zone.mark ++ rest).head? ≠ some '.' := by
  cases zone <;> exact ⟨noDigit_cons (by decide), by simp [Zone.mark]⟩

/-- The timestamp of a timestamp's fields is that timestamp. -/
theorem ofFields?_fields (t : Timestamp) :
    ofFields? t.year t.month t.day t.hour t.minute t.second t.nanosecond = some t := by
  unfold ofFields?
  rw [dif_pos t.valid]

/-- In universal time the fields of a timestamp are its fields. -/
theorem ofLocal?_fields (t : Timestamp) :
    ofLocal? t.year t.month t.day t.hour t.minute t.second t.nanosecond 0 = some t := by
  have hhour := t.valid.hour_lt
  have hminute := t.valid.minute_lt
  unfold ofLocal?
  rw [ofFields?_fields]
  simp only [Option.bind_eq_bind, Option.bind_some]
  -- Minutes of the day and back: nothing carries over to another day.
  have hofDay : (((t.hour : Int) * 60 + t.minute - 0) % 1440).toNat = t.hour * 60 + t.minute := by
    omega
  rw [if_neg (by omega), if_neg (by omega), hofDay,
    show (t.hour * 60 + t.minute) / 60 = t.hour by omega,
    show (t.hour * 60 + t.minute) % 60 = t.minute by omega, ofFields?_fields]

theorem daysIn_le (year : Int) (month : Nat) : daysIn year month ≤ 31 := by
  unfold daysIn
  split
  · split <;> omega
  all_goals omega

/-- A timestamp is read back. -/
theorem read?_text (t : Timestamp) : read? t.text = some t := by
  have hmonth := t.valid.month_le
  have hday := Nat.le_trans t.valid.day_le (daysIn_le _ _)
  have hhour := t.valid.hour_lt
  have hminute := t.valid.minute_lt
  have hsecond := t.valid.second_le
  have hzone := Zone.letter.head_mark []
  rw [List.append_nil] at hzone
  -- All five fields have two digits, and a leap second is the largest that occurs.
  have hfield : ∀ n < 60 + 1, ∀ rest, readField 2 (padded 2 n ++ rest) = some (n, rest) :=
    fun n hn rest => readField_padded (by decide) (by omega) rest
  unfold read? text ofChars?
  simp only [String.toList_ofList, chars, readYear_yearText, Option.bind_eq_bind,
    Option.bind_some, readMark_cons (show Text.isBlank '-' = false by decide),
    hfield t.month (by omega), hfield t.day (by omega), readTimeMark, hfield t.hour (by omega),
    readMark_cons (show Text.isBlank ':' = false by decide), hfield t.minute (by omega),
    hfield t.second (by omega), readFraction_fractionText t.valid.nanosecond_lt hzone.1 hzone.2]
  exact ofLocal?_fields t

theorem format_lawful : format.Lawful := fun t => read?_text t

/-- A padded field is what it says, whatever follows. -/
theorem padded_append_inj {width m m' : Nat} (hwidth : 0 < width) (hm : m < 10 ^ width)
    (hm' : m' < 10 ^ width) {rest rest' : List Char}
    (h : padded width m ++ rest = padded width m' ++ rest') : m = m' ∧ rest = rest' := by
  have hread := congrArg (readField width) h
  rw [readField_padded hwidth hm, readField_padded hwidth hm'] at hread
  simpa using hread

/-- A year has four digits, or a sign and at least four. -/
theorem yearText_cases (year : Int) :
    (yearText year = padded 4 year.natAbs ∧ (padded 4 year.natAbs).length = 4) ∨
      ∃ sign, sign.isDigit = false ∧ yearText year = sign :: padded 4 year.natAbs := by
  unfold yearText
  by_cases hsmall : 0 ≤ year ∧ year ≤ 9999
  · rw [if_pos hsmall]
    exact .inl ⟨rfl, length_padded (by decide) (by omega)⟩
  · rw [if_neg hsmall]
    refine .inr ⟨_, ?_, rfl⟩
    split <;> decide

/-- The month behind a date's first mark keeps that mark from being the sign of a year. -/
theorem month_ne_signed {month n : Nat} (hmonth : month < 100) (sign : Char)
    (rest rest' : List Char) :
    '-' :: (padded 2 month ++ '-' :: rest) ≠ sign :: (padded 4 n ++ '-' :: rest') := by
  intro h
  have hmark : ∀ cs, NoDigit ('-' :: cs) := fun cs => noDigit_cons (by decide)
  have hsplit := congrArg splitDigits (List.cons.inj h).2
  rw [splitDigits_append (fun _ => isDigit_of_mem_padded) (hmark rest),
    splitDigits_append (fun _ => isDigit_of_mem_padded) (hmark rest')] at hsplit
  -- Two digits before the next mark are too few for a year.
  have hlength := congrArg List.length (Prod.mk.inj hsplit).1
  rw [length_padded (by decide) (by omega)] at hlength
  unfold padded at hlength
  rw [List.length_append, List.length_replicate] at hlength
  omega

/-- A number and a year behind it can be told apart, although nothing stands between them: a year
    without a sign has the last four of the digits. -/
theorem numeral_yearText_inj {n n' : Nat} {year year' : Int} {month month' : Nat}
    (hmonth : month < 100) (hmonth' : month' < 100) {rest rest' : List Char}
    (h : numeral n ++ (yearText year ++ '-' :: (padded 2 month ++ '-' :: rest)) =
      numeral n' ++ (yearText year' ++ '-' :: (padded 2 month' ++ '-' :: rest'))) :
    n = n' ∧ year = year' ∧ padded 2 month ++ '-' :: rest = padded 2 month' ++ '-' :: rest' := by
  have hmark : ∀ cs, NoDigit ('-' :: cs) := fun cs => noDigit_cons (by decide)
  -- The digits up to the first other character are the number's, and the year's if it has no sign.
  have hunsigned : ∀ n k cs, splitDigits (numeral n ++ (padded 4 k ++ '-' :: cs)) =
      (numeral n ++ padded 4 k, '-' :: cs) := by
    intro n k cs
    rw [← List.append_assoc]
    refine splitDigits_append (fun c hc => ?_) (hmark cs)
    rcases List.mem_append.mp hc with hc | hc
    · exact isDigit_of_mem_numeral hc
    · exact isDigit_of_mem_padded hc
  have hsigned : ∀ n sign cs, sign.isDigit = false → splitDigits (numeral n ++ sign :: cs) =
      (numeral n, sign :: cs) := fun n _ _ hsign => splitDigits_numeral n (noDigit_cons hsign)
  have hnumeral : numeral n = numeral n' := by
    have hsplit := congrArg splitDigits h
    rcases yearText_cases year with ⟨hyear, hlength⟩ | ⟨sign, hsign, hyear⟩ <;>
      rcases yearText_cases year' with ⟨hyear', hlength'⟩ | ⟨sign', hsign', hyear'⟩ <;>
      rw [hyear, hyear'] at hsplit
    · rw [hunsigned, hunsigned] at hsplit
      exact (List.append_inj' (Prod.mk.inj hsplit).1 (hlength.trans hlength'.symm)).1
    · rw [hunsigned, List.cons_append, hsigned _ _ _ hsign'] at hsplit
      exact absurd (Prod.mk.inj hsplit).2 (month_ne_signed hmonth _ _ _)
    · rw [hunsigned, List.cons_append, hsigned _ _ _ hsign] at hsplit
      exact absurd (Prod.mk.inj hsplit).2.symm (month_ne_signed hmonth' _ _ _)
    · rw [List.cons_append, List.cons_append, hsigned _ _ _ hsign, hsigned _ _ _ hsign'] at hsplit
      exact (Prod.mk.inj hsplit).1
  rw [hnumeral] at h
  have hread := congrArg readYear (List.append_cancel_left h)
  rw [readYear_yearText, readYear_yearText] at hread
  have hn := congrArg value hnumeral
  rw [value_numeral, value_numeral] at hn
  rcases Prod.mk.inj (Option.some.inj hread) with ⟨hyear, hrest⟩
  exact ⟨hn, hyear, (List.cons.inj hrest).2⟩

/-- A number, a timestamp behind it and whatever follows can be told apart. -/
theorem numeral_chars_inj {n n' : Nat} {t t' : Timestamp} (zone : Zone) {rest rest' : List Char}
    (h : numeral n ++ (t.chars zone ++ rest) = numeral n' ++ (t'.chars zone ++ rest')) :
    n = n' ∧ t = t' ∧ rest = rest' := by
  have hfield : ∀ {m m' : Nat} {cs cs' : List Char}, m < 60 + 1 → m' < 60 + 1 →
      padded 2 m ++ cs = padded 2 m' ++ cs' → m = m' ∧ cs = cs' := fun hm hm' =>
    padded_append_inj (by decide) (by omega) (by omega)
  have hv := t.valid
  have hv' := t'.valid
  have hdays := Nat.le_trans hv.day_le (daysIn_le _ _)
  have hdays' := Nat.le_trans hv'.day_le (daysIn_le _ _)
  simp only [chars, List.append_assoc, List.cons_append] at h
  -- Field by field, each cut off in front of the mark that follows it.
  rcases numeral_yearText_inj (by have := hv.month_le; omega) (by have := hv'.month_le; omega) h
    with ⟨hn, hyear, h⟩
  rcases hfield (by have := hv.month_le; omega) (by have := hv'.month_le; omega) h with ⟨hmonth, h⟩
  rcases hfield (by omega) (by omega) (List.cons.inj h).2 with ⟨hday, h⟩
  rcases hfield (by have := hv.hour_lt; omega) (by have := hv'.hour_lt; omega)
    (List.cons.inj h).2 with ⟨hhour, h⟩
  rcases hfield (by have := hv.minute_lt; omega) (by have := hv'.minute_lt; omega)
    (List.cons.inj h).2 with ⟨hminute, h⟩
  rcases hfield (by have := hv.second_le; omega) (by have := hv'.second_le; omega)
    (List.cons.inj h).2 with ⟨hsecond, h⟩
  have hread := congrArg readFraction h
  rw [readFraction_fractionText hv.nanosecond_lt (zone.head_mark rest).1 (zone.head_mark rest).2,
    readFraction_fractionText hv'.nanosecond_lt (zone.head_mark rest').1
      (zone.head_mark rest').2] at hread
  rcases Prod.mk.inj (Option.some.inj hread) with ⟨hnanosecond, hmark⟩
  have hsame := ofFields?_fields t
  rw [hyear, hmonth, hday, hhour, hminute, hsecond, hnanosecond, ofFields?_fields] at hsame
  exact ⟨hn, (Option.some.inj hsame).symm, List.append_cancel_left hmark⟩

/-- No two timestamps have one rank, so their order is a total one. -/
theorem rank_inj {t u : Timestamp} (h : t.rank = u.rank) : t = u := by
  have hv := t.valid
  have hv' := u.valid
  have hdays := Nat.le_trans hv.day_le (daysIn_le _ _)
  have hdays' := Nat.le_trans hv'.day_le (daysIn_le _ _)
  rcases hv with ⟨-, -, hmonth, hmonthLe, hday, -, hhour, hminute, hsecond, hnano⟩
  rcases hv' with ⟨-, -, hmonth', hmonthLe', hday', -, hhour', hminute', hsecond', hnano'⟩
  unfold rank at h
  -- Each field is smaller than its base, so the digits of the number are the fields.
  have hfields : t.year = u.year ∧ t.month = u.month ∧ t.day = u.day ∧ t.hour = u.hour ∧
      t.minute = u.minute ∧ t.second = u.second ∧ t.nanosecond = u.nanosecond := by
    omega
  cases t
  cases u
  simpa only [mk.injEq] using hfields

end Timestamp

end Promotion
