import Promotion.Audit.Entry
import Promotion.Proofs.Format
import Promotion.Proofs.Json.RoundTrip
import Promotion.Proofs.Timestamp
import Promotion.Proofs.Uuid

/-!
# Reading Back Entries

An entry is read back from its line in a log.

The format of an entry is made of formats that are lawful, down to the single
members, so it is lawful. `lawful` says so of each format on the way; a change
to one record changes its lemma and no other.

## Theorems

* `Record.format_lawful`: A record is read back.
* `Audit.Entry.format_lawful`: An entry is read back.
* `Audit.Entry.read_line`: An entry is read back from its line.
* `Audit.Entry.line_eq_cons`: A line begins with its brace.
-/

namespace Promotion

open Format Member

theorem PromotionId.format_lawful : PromotionId.format.Lawful :=
  convert_lawful (ofText_lawful Uuid.read?_text) fun _ => rfl

theorem Digest.format_lawful : Digest.format.Lawful :=
  convert_lawful string_lawful fun _ => rfl

theorem Gate.Status.format_lawful : Gate.Status.format.Lawful :=
  oneOf_lawful fun s => by cases s <;> decide

theorem Gate.Result.format_lawful : Gate.Result.format.Lawful :=
  record_lawful
    ⟨required_lawful string_lawful, by decide,
      required_lawful Gate.Status.format_lawful, by decide,
      required_lawful uint64_lawful, by decide,
      whenPresent_lawful string_lawful string_neverNull, by decide,
      defaulted_lawful bool_lawful, by decide, trivial⟩
    fun _ => rfl

theorem Signature.Status.format_lawful : Signature.Status.format.Lawful :=
  oneOf_lawful fun s => by cases s <;> decide

theorem Signature.Verdict.format_lawful : Signature.Verdict.format.Lawful :=
  record_lawful
    ⟨required_lawful Signature.Status.format_lawful, by decide,
      defaulted_lawful (option_lawful string_lawful string_neverNull), by decide,
      defaulted_lawful (option_lawful string_lawful string_neverNull), by decide,
      defaulted_lawful bool_lawful, by decide,
      defaulted_lawful (option_lawful string_lawful string_neverNull), by decide,
      required_lawful Timestamp.format_lawful, by decide, trivial⟩
    fun _ => rfl

/-- A record is read back. -/
theorem Record.format_lawful : Record.format.Lawful :=
  record_lawful
    ⟨required_lawful PromotionId.format_lawful, by decide,
      required_lawful string_lawful, by decide,
      required_lawful Digest.format_lawful, by decide,
      required_lawful string_lawful, by decide,
      required_lawful string_lawful, by decide,
      required_lawful string_lawful, by decide,
      required_lawful bool_lawful, by decide,
      required_lawful (list_lawful Gate.Result.format_lawful), by decide,
      required_lawful bool_lawful, by decide,
      required_lawful Signature.Verdict.format_lawful, by decide,
      required_lawful Timestamp.format_lawful, by decide, trivial⟩
    fun _ => rfl

namespace Audit.Entry

/-- An entry is read back. -/
theorem format_lawful : format.Lawful :=
  record_lawful
    ⟨required_lawful uint64_lawful, by decide,
      required_lawful Timestamp.format_lawful, by decide,
      required_lawful Record.format_lawful, by decide,
      optional_lawful string_lawful string_neverNull, by decide,
      required_lawful string_lawful, by decide, trivial⟩
    fun _ => rfl

/-- An entry is read back from its line, and from behind blanks. -/
theorem read_line (e : Entry) {blanks : List Char}
    (hblanks : ∀ c ∈ blanks, Json.isSpace c = true) :
    (Json.readChars (blanks ++ e.line)).bind format.decode = some e := by
  unfold line
  rw [Json.readChars_print _ hblanks]
  exact format_lawful e

/-- A line begins with its brace. -/
theorem line_eq_cons (e : Entry) : ∃ cs, e.line = '{' :: cs := ⟨_, rfl⟩

/-- A line ends with its brace. -/
theorem line_eq_concat (e : Entry) : ∃ cs, e.line = cs ++ ['}'] :=
  Json.print_object_eq_concat _

/-- An entry stays on its line. -/
theorem lineFeed_not_mem_line (e : Entry) : '\n' ∉ e.line :=
  Json.lineFeed_not_mem_print _

/-- What is an entry is an object or an array. -/
theorem ne_number_of_decode {v : Json} {e : Entry} (h : format.decode v = some e)
    (n : Json.Number) : v ≠ .number n := by
  rintro rfl
  cases h

end Audit.Entry

end Promotion
