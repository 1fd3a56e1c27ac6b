import BulkImport.Web.Percent
import Mathlib.Data.List.Basic

/-!
# Texts as bytes

Texts are ordered by their characters, which is the order of their bytes in UTF-8 (`utf8_lt_iff`),
and they are known by their bytes (`ofUtf8?_eq_some_iff`).  What is left when characters are taken
out of a text has fewer bytes (`eq_of_sublist_utf8`).
-/

namespace BulkImport.Web

theorem utf8_cons (c : Char) (cs : List Char) :
    utf8 (c :: cs) = String.utf8EncodeChar c ++ utf8 cs := rfl

theorem length_utf8_cons (c : Char) (cs : List Char) :
    (utf8 (c :: cs)).length = c.utf8Size + (utf8 cs).length := by
  rw [utf8_cons, List.length_append, String.length_utf8EncodeChar]

theorem utf8EncodeChar_ne_nil (c : Char) : String.utf8EncodeChar c ≠ [] := by
  intro h
  have hlength := String.length_utf8EncodeChar c
  rw [h] at hlength
  exact absurd c.utf8Size_pos (by simp [← hlength])

/-! ### Texts of bytes -/

/-- Bytes are a text in UTF-8 when they are its own. -/
theorem ofUtf8?_eq_some_iff {bs : List UInt8} {s : String} :
    ofUtf8? bs = some s ↔ bs = utf8 s.toList := by
  have hbytes : s.toByteArray = ⟨(utf8 s.toList).toArray⟩ := by
    conv_lhs => rw [← s.ofList_toList]
    rw [String.toByteArray_ofList]
    exact ByteArray.ext List.data_toByteArray
  constructor
  · intro h
    have hs : (⟨bs.toArray⟩ : ByteArray) = s.toByteArray := by
      unfold ofUtf8? String.fromUTF8? at h
      split at h
      · cases h
        rfl
      · cases h
    rw [hbytes] at hs
    exact List.toArray_inj (congrArg ByteArray.data hs)
  · rintro rfl
    rw [ofUtf8?, ← hbytes]
    exact dif_pos s.isValidUTF8

theorem eq_of_utf8_eq {s t : String} (h : utf8 s.toList = utf8 t.toList) : s = t :=
  Option.some.inj ((ofUtf8?_eq_some_iff.2 rfl).symm.trans (ofUtf8?_eq_some_iff.2 h))

/-! ### Numbers of bytes -/

theorem length_utf8_le_of_sublist {cs ds : List Char} (h : cs.Sublist ds) :
    (utf8 cs).length ≤ (utf8 ds).length := by
  induction h with
  | slnil => exact Nat.le_refl _
  | cons c _ ih =>
    rw [length_utf8_cons]
    omega
  | cons_cons c _ ih =>
    rw [length_utf8_cons, length_utf8_cons]
    omega

/-- A text from which no byte is taken is the whole text. -/
theorem eq_of_sublist_utf8 {cs ds : List Char} (h : cs.Sublist ds)
    (hlength : (utf8 ds).length ≤ (utf8 cs).length) : cs = ds := by
  induction h with
  | slnil => rfl
  | cons c hsub _ =>
    have hle := length_utf8_le_of_sublist hsub
    have hpos := c.utf8Size_pos
    rw [length_utf8_cons] at hlength
    omega
  | cons_cons c _ ih =>
    rw [length_utf8_cons, length_utf8_cons] at hlength
    rw [ih (by omega)]

/-! ### Order -/

/-- The bytes of a character are less than those of a greater one, whatever comes after them. -/
theorem utf8EncodeChar_append_lt {c d : Char} (h : c < d) (bs bs' : List UInt8) :
    String.utf8EncodeChar c ++ bs < String.utf8EncodeChar d ++ bs' := by
  have hlt : c.val.toNat < d.val.toNat := h
  have hc : c.val.toNat < 0x110000 := c.valid.elim (fun h => by omega) fun h => h.2
  have hd : d.val.toNat < 0x110000 := d.valid.elim (fun h => by omega) fun h => h.2
  -- characters of one length are compared by their digits in base 64, others by the first byte
  have hdigits : ∀ n : Nat, n / 4096 = n / 64 / 64 ∧ n / 262144 = n / 64 / 64 / 64 := fun n => by
    omega
  unfold String.utf8EncodeChar
  simp only [hdigits]
  split_ifs <;>
    simp only [List.cons_append, List.nil_append, List.cons_lt_cons_iff, UInt8.lt_iff_toNat_lt,
      ← UInt8.toNat_inj, UInt8.toNat_ofNat'] <;> omega

theorem utf8_lt_of_lt {cs ds : List Char} (h : cs < ds) : utf8 cs < utf8 ds := by
  induction h with
  | nil =>
    rename_i d ds
    rw [utf8_cons]
    cases hd : String.utf8EncodeChar d with
    | nil => exact absurd hd (utf8EncodeChar_ne_nil d)
    | cons b bs => exact .nil
  | rel hlt => exact utf8EncodeChar_append_lt hlt _ _
  | cons _ ih => exact List.append_left_lt ih

/-- The order of texts is the order of their bytes. -/
theorem utf8_lt_iff (s t : String) : utf8 s.toList < utf8 t.toList ↔ s < t := by
  refine ⟨fun h => ?_, utf8_lt_of_lt⟩
  by_contra hnot
  by_cases heq : s = t
  · subst heq
    exact List.lt_irrefl _ h
  · have hgt : t < s := Std.lt_of_le_of_ne (String.not_lt.1 hnot) (Ne.symm heq)
    exact List.lt_asymm h (utf8_lt_of_lt hgt)

end BulkImport.Web
