import Promotion.Proofs.Json.RoundTrip
import Promotion.Sha256

/-!
# Hashes as Text

The hexadecimal text of a hash is as good as the hash.

Nothing is said here of how hashes come about. What is shown is that nothing is
lost on the way from a hash to the text that stands in a log, and that this text
is never empty.

## Theorems

* `Hex.bytes?_ofByte`: Bytes are read back from their digits.
* `Sha256.hash_eq_of_hexOfText`: The text of a hash determines the hash.
* `Sha256.hexOfText_ne_empty`: There is always a text.
-/

namespace Promotion

namespace Hex

/-- Bytes are read back from their digits. -/
theorem bytes?_ofByte (bytes : List UInt8) : bytes? (bytes.flatMap ofByte) = some bytes := by
  induction bytes with
  | nil => rfl
  | cons b rest ih =>
      have hb := b.toNat_lt
      have hnumber : number? [digit (b.toNat / 16), digit (b.toNat % 16)] = some b.toNat := by
        simp only [number?, List.foldlM_cons, List.foldlM_nil,
          value?_digit (show b.toNat / 16 < 16 by omega),
          value?_digit (show b.toNat % 16 < 16 by omega), Option.map_some, Option.bind_eq_bind,
          Option.bind_some, Option.pure_def, Option.some.injEq]
        omega
      simp only [List.flatMap_cons, ofByte, List.cons_append, List.nil_append, bytes?, hnumber, ih,
        Option.bind_eq_bind, Option.bind_some, UInt8.ofNat_toNat, Option.pure_def]

theorem ofBytes_inj {a b : List UInt8} (h : ofBytes a = ofBytes b) : a = b := by
  have hread := congrArg bytes? (String.ofList_inj.mp h)
  rw [bytes?_ofByte, bytes?_ofByte] at hread
  exact Option.some.inj hread

end Hex

namespace Sha256

/-- The text of a hash determines the hash. -/
theorem hash_eq_of_hexOfText {s s' : String} (h : hexOfText s = hexOfText s') :
    hash s.toUTF8.toList = hash s'.toUTF8.toList :=
  Hex.ofBytes_inj h

/-- There is always a text. -/
theorem hexOfText_ne_empty (s : String) : hexOfText s ≠ "" := by
  intro h
  have hnil : hash s.toUTF8.toList = [] := Hex.ofBytes_inj (b := []) h
  have hlength : (hash s.toUTF8.toList).length = 32 := by
    simp [hash, bigEndian]
  rw [hnil] at hlength
  cases hlength

end Sha256

end Promotion
