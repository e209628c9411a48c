import Promotion.Audit.FileStore
import Promotion.Json.Reader

/-!
# The Bytes of a Line

Texts in a file, as lists of bytes.

A file is a list of bytes and an entry's line a list of characters. `bytesOf`
leads from the one to the other, and `textOf_eq_ok` back: a line is a text
exactly if its bytes are that text's. A byte of ASCII is never part of another
character, so lines can be told apart among the bytes, and so can blanks.

## Main definitions

* `Text.bytesOf`: The bytes of a text.
* `Text.isSpaceByte`: The bytes of the blanks of a value.

## Theorems

* `toList_toUTF8`: These are the bytes that are written.
* `textOf_eq_ok`: A text is read from its bytes, and from no others.
* `mem_bytesOf`: A byte of ASCII stands for its own character only.
* `isSpaceByte_bytesOf`: A text is blank in its bytes if it is in its characters.
-/

namespace Promotion

namespace Text

/-- The bytes of a text. -/
def bytesOf (cs : List Char) : List UInt8 :=
  cs.flatMap String.utf8EncodeChar

theorem bytesOf_append (cs cs' : List Char) : bytesOf (cs ++ cs') = bytesOf cs ++ bytesOf cs' :=
  List.flatMap_append

/-- The bytes from a place on are put behind those before it. -/
theorem byteList_loop (bytes : ByteArray) (left : Nat) (i : Nat) (done : List UInt8)
    (h : i + left = bytes.size) :
    ByteArray.toList.loop bytes i done = done.reverse ++ bytes.data.toList.drop i := by
  have hsize : bytes.data.toList.length = bytes.size := Array.length_toList
  induction left generalizing i done with
  | zero =>
      unfold ByteArray.toList.loop
      rw [if_neg (by omega), List.drop_of_length_le (by omega), List.append_nil]
  | succ left ih =>
      have hi : i < bytes.size := by omega
      -- `get!` is only used within the bounds, where it is the list's own element.
      have hget : bytes.get! i = bytes.data.toList[i] := by
        simp only [ByteArray.get!, Array.getElem_toList]
        exact getElem!_pos bytes.data i hi
      unfold ByteArray.toList.loop
      rw [if_pos hi, ih (i + 1) _ (by omega), hget, List.reverse_cons, List.append_assoc,
        List.singleton_append, ← List.drop_eq_getElem_cons]

theorem byteList_eq (bytes : ByteArray) : bytes.toList = bytes.data.toList := by
  unfold ByteArray.toList
  rw [byteList_loop bytes bytes.size 0 [] (Nat.zero_add _), List.drop_zero]
  rfl

/-- The bytes that are written of a text are its bytes. -/
theorem toList_toUTF8 (cs : List Char) : (String.ofList cs).toUTF8.toList = bytesOf cs := by
  rw [byteList_eq, String.toUTF8_eq_toByteArray, String.toByteArray_ofList]
  simp [List.utf8Encode, bytesOf]

/-- A byte of ASCII is in the code of one character only, its own. -/
theorem mem_encodeChar {b : UInt8} (hb : b.toNat < 128) {c : Char} :
    b ∈ String.utf8EncodeChar c ↔ c.toNat = b.toNat := by
  have hbyte : ∀ n, b = UInt8.ofNat n ↔ n % 256 = b.toNat := by
    intro n
    rw [← UInt8.toNat_inj, UInt8.toNat_ofNat']
    exact eq_comm
  have hval : c.toNat = c.val.toNat := rfl
  unfold String.utf8EncodeChar
  rw [hval]
  simp only
  split
  · rw [List.mem_singleton, hbyte]
    omega
  · -- every byte of a longer code is above ASCII
    have hcontinued : ∀ n, ¬ (n % 64 + 0x80) % 256 = b.toNat := fun n => by omega
    split
    · simp only [List.mem_cons, List.not_mem_nil, or_false, hbyte]
      omega
    · split
      · simp only [List.mem_cons, List.not_mem_nil, or_false, hbyte]
        omega
      · simp only [List.mem_cons, List.not_mem_nil, or_false, hbyte]
        omega

/-- A byte of ASCII is among the bytes of a text if its character is in the text. -/
theorem mem_bytesOf {b : UInt8} (hb : b.toNat < 128) {cs : List Char} :
    b ∈ bytesOf cs ↔ ∃ c ∈ cs, c.toNat = b.toNat := by
  unfold bytesOf
  rw [List.mem_flatMap]
  exact exists_congr fun c => and_congr_right fun _ => mem_encodeChar hb

/-- Only a line feed has the byte of a line feed in it. -/
theorem lineFeed_mem_bytesOf {cs : List Char} : Audit.lineFeed ∈ bytesOf cs ↔ '\n' ∈ cs := by
  rw [mem_bytesOf (by decide)]
  constructor
  · rintro ⟨c, hc, hfeed⟩
    have hc' : c = '\n' := Char.toNat_inj.mp hfeed
    rwa [← hc']
  · intro h
    exact ⟨'\n', h, rfl⟩

/-- The bytes of the blanks that may stand between the parts of a value. -/
def isSpaceByte (b : UInt8) : Bool :=
  b == 32 || b == 10 || b == 13 || b == 9

theorem isSpaceByte_lt {b : UInt8} (h : isSpaceByte b = true) : b.toNat < 128 := by
  simp only [isSpaceByte, Bool.or_eq_true, beq_iff_eq] at h
  rcases h with ((rfl | rfl) | rfl) | rfl <;> decide

/-- A text is blank in its bytes if it is in its characters. -/
theorem isSpaceByte_bytesOf {cs : List Char} :
    (∀ b ∈ bytesOf cs, isSpaceByte b = true) ↔ ∀ c ∈ cs, Json.isSpace c = true := by
  constructor
  · intro h c hc
    rcases List.exists_mem_of_ne_nil _ String.utf8EncodeChar_ne_nil with ⟨b, hb⟩
    have hspace := h b (List.mem_flatMap.mpr ⟨c, hc, hb⟩)
    have hcode := (mem_encodeChar (isSpaceByte_lt hspace)).mp hb
    simp only [isSpaceByte, Bool.or_eq_true, beq_iff_eq] at hspace
    simp only [Json.isSpace, Bool.or_eq_true, beq_iff_eq]
    rcases hspace with ((rfl | rfl) | rfl) | rfl
    · exact .inl (.inl (.inl (Char.toNat_inj.mp hcode)))
    · exact .inl (.inl (.inr (Char.toNat_inj.mp hcode)))
    · exact .inl (.inr (Char.toNat_inj.mp hcode))
    · exact .inr (Char.toNat_inj.mp hcode)
  · intro h b hb
    rcases List.mem_flatMap.mp hb with ⟨c, hc, hbyte⟩
    have hspace := h c hc
    simp only [Json.isSpace, Bool.or_eq_true, beq_iff_eq] at hspace
    rcases hspace with ((rfl | rfl) | rfl) | rfl <;> simp_all [isSpaceByte, String.utf8EncodeChar]

end Text

namespace Audit

open Text

/-- A text is read from its bytes, and from no others. -/
theorem textOf_eq_ok {line : List UInt8} {s : String} :
    textOf line = .ok s ↔ line = bytesOf s.toList := by
  have hbytes : s.toByteArray.data.toList = bytesOf s.toList := by
    rw [← toList_toUTF8, byteList_eq, String.ofList_toList, String.toUTF8_eq_toByteArray]
  unfold textOf String.fromUTF8?
  constructor
  · intro h
    split at h
    · rename_i text hread
      cases h
      split at hread
      · cases hread
        rw [← hbytes]
        rfl
      · cases hread
    · cases h
  · rintro rfl
    -- The bytes of a text are valid because they are a text's.
    have hvalid : (⟨(bytesOf s.toList).toArray⟩ : ByteArray) = s.toByteArray := by
      rw [← hbytes]
    rw [dif_pos (hvalid ▸ s.isValidUTF8)]
    exact congrArg Except.ok (String.toByteArray_inj.mp hvalid)

end Audit

/-- Texts of the same bytes are the same. -/
theorem Text.bytesOf_inj {cs cs' : List Char} (h : Text.bytesOf cs = Text.bytesOf cs') :
    cs = cs' := by
  have hread : ∀ cs, Audit.textOf (Text.bytesOf cs) = .ok (String.ofList cs) := fun cs =>
    Audit.textOf_eq_ok.mpr (by rw [String.toList_ofList])
  have htext := (hread cs).symm.trans (h ▸ hread cs')
  exact String.ofList_inj.mp (Except.ok.inj htext)

end Promotion
