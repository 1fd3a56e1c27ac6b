import BulkImport.Text.Hexadecimal

/-!
# Percent writing

A character that may not stand as it is stands as its bytes in UTF-8, each written as a percent
sign and two hexadecimal digits.  Main statement: reading gives back the bytes of the text that was
written, if no percent sign was kept as it is (`decode_encode`).
-/

namespace BulkImport.Web

/-- The bytes of a text in UTF-8. -/
def utf8 (cs : List Char) : List UInt8 := cs.flatMap String.utf8EncodeChar

/-- The text that bytes are in UTF-8, if they are one. -/
def ofUtf8? (bs : List UInt8) : Option String := String.fromUTF8? ⟨bs.toArray⟩

namespace Percent

/-- A byte as a percent sign and two digits. -/
def encodeByte (b : UInt8) : List Char :=
  ['%', Text.hexDigit 'A' (b.toNat / 16), Text.hexDigit 'A' (b.toNat % 16)]

/-- A text with only the characters of a class as they are. -/
def encode (keep : Char → Bool) (cs : List Char) : List Char :=
  cs.flatMap fun c => if keep c then [c] else (String.utf8EncodeChar c).flatMap encodeByte

/-- The bytes that are written; a percent sign without two digits after it stands for itself. -/
def decode : List Char → List UInt8
  | [] => []
  | '%' :: a :: b :: rest =>
    match Text.hexValue? a, Text.hexValue? b with
    | some x, some y => UInt8.ofNat (16 * x + y) :: decode rest
    | _, _ => String.utf8EncodeChar '%' ++ decode (a :: b :: rest)
  | c :: rest => String.utf8EncodeChar c ++ decode rest

/-- The text that is written, if the bytes are one in UTF-8. -/
def decode? (cs : List Char) : Option String := ofUtf8? (decode cs)

theorem decode_encodeByte (b : UInt8) (rest : List Char) :
    decode (encodeByte b ++ rest) = b :: decode rest := by
  have hb : b.toNat < 256 := b.toNat_lt_size
  have hs : 16 * (b.toNat / 16) + b.toNat % 16 = b.toNat := by omega
  simp only [encodeByte, List.cons_append, List.nil_append, decode]
  rw [Text.hexValue?_hexDigit (by simp) (by omega), Text.hexValue?_hexDigit (by simp) (by omega)]
  simp [hs]

theorem decode_flatMap_encodeByte (bs : List UInt8) (rest : List Char) :
    decode (bs.flatMap encodeByte ++ rest) = bs ++ decode rest := by
  induction bs with
  | nil => simp
  | cons b bs ih => rw [List.flatMap_cons, List.append_assoc, decode_encodeByte, ih]; rfl

theorem decode_cons_of_ne {c : Char} (h : c ≠ '%') (rest : List Char) :
    decode (c :: rest) = String.utf8EncodeChar c ++ decode rest := by
  rw [decode]
  rintro a b r rfl
  exact absurd rfl h

theorem decode_encode {keep : Char → Bool} (h : keep '%' = false) (cs : List Char) :
    decode (encode keep cs) = utf8 cs := by
  induction cs with
  | nil => rfl
  | cons c cs ih =>
    rw [encode, List.flatMap_cons, ← encode, utf8, List.flatMap_cons, ← utf8]
    split
    · next hc =>
      have hne : c ≠ '%' := by rintro rfl; simp [h] at hc
      rw [List.singleton_append, decode_cons_of_ne hne, ih]
    · rw [decode_flatMap_encodeByte, ih]

end Percent

end BulkImport.Web
