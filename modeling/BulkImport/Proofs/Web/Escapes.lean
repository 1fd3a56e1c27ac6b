import BulkImport.Proofs.Text.Bytes

/-!
# Texts with percent signs

In a text that is read as percent writing an escape is a percent sign with two hexadecimal digits
after it (`HasEscape`).  A text without one stands for itself (`decode_of_noEscape`), and one that
has any for fewer bytes than it has of its own (`length_decode_lt`).  Main statement: what is
written again with its percent signs and digits kept stands for what it stood for
(`decode_encode_kept`).
-/

namespace BulkImport.Web.Percent

/-- A text has a percent sign somewhere with two digits after it. -/
def HasEscape (cs : List Char) : Prop :=
  ∃ a b, (Text.hexValue? a).isSome = true ∧ (Text.hexValue? b).isSome = true ∧
    ['%', a, b] <:+: cs

/-- The byte that two digits at the front of a text write, and the text after them. -/
def byte? : List Char → Option (UInt8 × List Char)
  | a :: b :: rest =>
    match Text.hexValue? a, Text.hexValue? b with
    | some x, some y => some (UInt8.ofNat (16 * x + y), rest)
    | _, _ => none
  | _ => none

theorem decode_percent (cs : List Char) :
    decode ('%' :: cs) =
      match byte? cs with
      | some (b, rest) => b :: decode rest
      | none => String.utf8EncodeChar '%' ++ decode cs := by
  match cs with
  | [] => rfl
  | [a] => rfl
  | a :: b :: rest =>
    rw [decode, byte?]
    cases Text.hexValue? a with
    | none => rfl
    | some x => cases Text.hexValue? b <;> rfl

theorem isSome_byte? {cs : List Char} :
    (byte? cs).isSome = true ↔ ∃ a b, (Text.hexValue? a).isSome = true ∧
      (Text.hexValue? b).isSome = true ∧ [a, b] <+: cs := by
  match cs with
  | [] => simp [byte?]
  | [a] => simp [byte?]
  | a :: b :: rest =>
    rw [byte?]
    cases ha : Text.hexValue? a with
    | none => simp [ha]
    | some x => cases hb : Text.hexValue? b <;> simp [ha, hb]

theorem hasEscape_cons {c : Char} {cs : List Char} :
    HasEscape (c :: cs) ↔ c = '%' ∧ (byte? cs).isSome = true ∨ HasEscape cs := by
  simp only [HasEscape, isSome_byte?, List.infix_cons_iff, List.cons_prefix_cons]
  constructor
  · rintro ⟨a, b, ha, hb, ⟨rfl, hfront⟩ | hlater⟩
    · exact .inl ⟨rfl, a, b, ha, hb, hfront⟩
    · exact .inr ⟨a, b, ha, hb, hlater⟩
  · rintro (⟨rfl, a, b, ha, hb, hfront⟩ | ⟨a, b, ha, hb, hlater⟩)
    · exact ⟨a, b, ha, hb, .inl ⟨rfl, hfront⟩⟩
    · exact ⟨a, b, ha, hb, .inr hlater⟩

theorem noEscape_of_noPercent {cs : List Char} (h : '%' ∉ cs) : ¬ HasEscape cs := by
  rintro ⟨a, b, -, -, hpart⟩
  exact h (hpart.subset List.mem_cons_self)

theorem byte?_eq_some {cs rest : List Char} {b : UInt8} (h : byte? cs = some (b, rest)) :
    ∃ x y, cs = x :: y :: rest := by
  match cs with
  | [] => cases h
  | [a] => cases h
  | x :: y :: rest' =>
    rw [byte?] at h
    cases hx : Text.hexValue? x <;> cases hy : Text.hexValue? y <;> simp_all

/-- A text is read from left to right: a character by itself, or an escape as a whole. -/
@[elab_as_elim] theorem percent_induction {motive : List Char → Prop} (nil : motive [])
    (plain : ∀ c cs, c ≠ '%' → motive cs → motive (c :: cs))
    (percent : ∀ cs, byte? cs = none → motive cs → motive ('%' :: cs))
    (escape : ∀ x y rest b, byte? (x :: y :: rest) = some (b, rest) → motive rest →
      motive ('%' :: x :: y :: rest)) (cs : List Char) : motive cs := by
  induction hn : cs.length using Nat.strongRecOn generalizing cs with
  | ind n ih =>
    cases cs with
    | nil => exact nil
    | cons c cs =>
      have hrest := ih cs.length (by rw [← hn]; exact Nat.lt_succ_self _) cs rfl
      by_cases hc : c = '%'
      · subst hc
        cases hbyte : byte? cs with
        | none => exact percent cs hbyte hrest
        | some found =>
          obtain ⟨b, rest⟩ := found
          obtain ⟨x, y, rfl⟩ := byte?_eq_some hbyte
          refine escape x y rest b hbyte (ih rest.length ?_ rest rfl)
          simp only [List.length_cons] at hn
          omega
      · exact plain c cs hc hrest

/-! ### The number of bytes -/

/-- A text is read as its own bytes, or it has an escape and is read as fewer. -/
theorem decode_cases (cs : List Char) :
    (¬ HasEscape cs ∧ decode cs = utf8 cs) ∨
      (HasEscape cs ∧ (decode cs).length < (utf8 cs).length) := by
  induction cs using percent_induction with
  | nil => exact .inl ⟨by simp [HasEscape], rfl⟩
  | plain c cs hc ih =>
    rw [hasEscape_cons, length_utf8_cons, decode_cons_of_ne hc, List.length_append,
      String.length_utf8EncodeChar]
    refine ih.imp (fun ⟨hnone, heq⟩ => ⟨by simp [hc, hnone], ?_⟩) fun ⟨hsome, hlt⟩ =>
      ⟨.inr hsome, Nat.add_lt_add_left hlt _⟩
    rw [heq, utf8_cons]
  | percent cs hbyte ih =>
    rw [hasEscape_cons, length_utf8_cons, decode_percent, hbyte]
    dsimp only
    rw [List.length_append, String.length_utf8EncodeChar]
    refine ih.imp (fun ⟨hnone, heq⟩ => ⟨by simp [hnone], ?_⟩) fun ⟨hsome, hlt⟩ =>
      ⟨.inr hsome, Nat.add_lt_add_left hlt _⟩
    rw [heq, utf8_cons]
  | escape x y rest b hbyte ih =>
    -- a percent sign and two digits are read as one byte
    have hfewer : (decode rest).length ≤ (utf8 rest).length := by
      rcases ih with ⟨-, heq⟩ | ⟨-, hlt⟩
      · exact Nat.le_of_eq (congrArg _ heq)
      · exact Nat.le_of_lt hlt
    have hx := x.utf8Size_pos
    have hy := y.utf8Size_pos
    refine .inr ⟨hasEscape_cons.2 (.inl ⟨rfl, by rw [hbyte]; rfl⟩), ?_⟩
    rw [decode_percent, hbyte, length_utf8_cons, length_utf8_cons, length_utf8_cons]
    dsimp only
    rw [List.length_cons]
    omega

theorem decode_of_noEscape {cs : List Char} (h : ¬ HasEscape cs) : decode cs = utf8 cs := by
  rcases decode_cases cs with ⟨-, heq⟩ | ⟨hsome, -⟩
  · exact heq
  · exact absurd hsome h

theorem length_decode_lt {cs : List Char} (h : HasEscape cs) :
    (decode cs).length < (utf8 cs).length := by
  rcases decode_cases cs with ⟨hnone, -⟩ | ⟨-, hlt⟩
  · exact absurd h hnone
  · exact hlt

theorem length_decode_le (cs : List Char) : (decode cs).length ≤ (utf8 cs).length := by
  rcases decode_cases cs with ⟨-, heq⟩ | ⟨-, hlt⟩
  · exact Nat.le_of_eq (congrArg _ heq)
  · exact Nat.le_of_lt hlt

/-! ### Writing again -/

section Kept

variable {keep : Char → Bool}

theorem encode_cons_kept {c : Char} (hc : keep c = true) (cs : List Char) :
    encode keep (c :: cs) = c :: encode keep cs := by
  rw [encode, List.flatMap_cons, if_pos hc]
  rfl

theorem encode_cons_escaped {c : Char} (hc : keep c = false) (cs : List Char) :
    encode keep (c :: cs) = (String.utf8EncodeChar c).flatMap encodeByte ++ encode keep cs := by
  rw [encode, List.flatMap_cons, if_neg (by simp [hc])]
  rfl

/-- A character that is not kept begins with a percent sign. -/
theorem exists_encode_escaped {c : Char} (hc : keep c = false) (cs : List Char) :
    ∃ rest, encode keep (c :: cs) = '%' :: rest := by
  obtain ⟨b, bs, hbs⟩ := List.exists_cons_of_ne_nil (utf8EncodeChar_ne_nil c)
  rw [encode_cons_escaped hc, hbs]
  exact ⟨_, rfl⟩

theorem byte?_percent (cs : List Char) : byte? ('%' :: cs) = none := by
  have hvalue : Text.hexValue? '%' = none := by decide
  cases cs with
  | nil => rfl
  | cons c cs => rw [byte?, hvalue]

theorem byte?_cons_percent (c : Char) (cs : List Char) : byte? (c :: '%' :: cs) = none := by
  have hvalue : Text.hexValue? '%' = none := by decide
  rw [byte?, hvalue]
  cases Text.hexValue? c <;> rfl

/-- Two digits that are kept are read where they were. -/
theorem byte?_encode (hdigits : ∀ c, (Text.hexValue? c).isSome = true → keep c = true)
    (cs : List Char) :
    byte? (encode keep cs) = (byte? cs).map fun (b, rest) => (b, encode keep rest) := by
  have hnone : ∀ c, keep c = false → Text.hexValue? c = none := fun c hc => by
    rw [← Option.isNone_iff_eq_none, ← Option.isSome_eq_false_iff]
    exact Bool.eq_false_iff.2 fun hsome => by rw [hdigits c hsome] at hc; cases hc
  match cs with
  | [] => rfl
  | [a] =>
    cases ha : keep a with
    | true => rw [encode_cons_kept ha]; rfl
    | false =>
      obtain ⟨rest, hrest⟩ := exists_encode_escaped ha []
      rw [hrest, byte?_percent]
      rfl
  | a :: b :: rest =>
    cases ha : keep a with
    | false =>
      obtain ⟨rest', hrest⟩ := exists_encode_escaped ha (b :: rest)
      rw [hrest, byte?_percent, byte?, hnone a ha]
      rfl
    | true =>
      rw [encode_cons_kept ha]
      cases hb : keep b with
      | false =>
        obtain ⟨rest', hrest⟩ := exists_encode_escaped hb rest
        rw [hrest, byte?_cons_percent, byte?, hnone b hb]
        cases Text.hexValue? a <;> rfl
      | true =>
        rw [encode_cons_kept hb, byte?, byte?]
        cases Text.hexValue? a with
        | none => rfl
        | some x => cases Text.hexValue? b <;> rfl

/-- A text that is written with its percent signs and digits kept stands for the same bytes. -/
theorem decode_encode_kept (hpercent : keep '%' = true)
    (hdigits : ∀ c, (Text.hexValue? c).isSome = true → keep c = true) (cs : List Char) :
    decode (encode keep cs) = decode cs := by
  induction cs using percent_induction with
  | nil => rfl
  | plain c cs hc ih =>
    rw [decode_cons_of_ne hc]
    cases hkeep : keep c with
    | true => rw [encode_cons_kept hkeep, decode_cons_of_ne hc, ih]
    | false => rw [encode_cons_escaped hkeep, decode_flatMap_encodeByte, ih]
  | percent cs hbyte ih =>
    rw [encode_cons_kept hpercent, decode_percent, decode_percent, byte?_encode hdigits, hbyte]
    exact congrArg _ ih
  | escape x y rest b hbyte ih =>
    rw [encode_cons_kept hpercent, decode_percent, decode_percent, byte?_encode hdigits, hbyte]
    exact congrArg _ ih

end Kept

end BulkImport.Web.Percent
