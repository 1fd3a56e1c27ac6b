import BulkImport.Text.Blank
import Mathlib.Data.List.Induction

/-!
# Texts and their pieces

A text that is cut at a separator falls into the pieces before the separator and those after it
(`piecesChars_append_sep`), and each piece is left when characters are taken out of the text
(`sublist_of_mem_pieces`).  Pieces without the separator can be told from a text in which each of
them comes after one (`eq_of_flatMap_sep`).

What is dropped at the end of a text is a part of it that comes after everything which is not of
the class (`dropEnd_append`).
-/

namespace BulkImport.Text

variable {sep : Char}

theorem piecesChars_append_sep (sep : Char) (cs ds : List Char) :
    piecesChars sep (cs ++ sep :: ds) = piecesChars sep cs ++ piecesChars sep ds := by
  induction cs with
  | nil => simp [piecesChars]
  | cons c cs ih =>
    rw [List.cons_append, piecesChars, piecesChars, ih]
    split
    · rfl
    · cases hp : piecesChars sep cs with
      | nil => exact absurd hp (piecesChars_ne_nil sep cs)
      | cons p ps => rfl

theorem piecesChars_of_not_mem {cs : List Char} (h : sep ∉ cs) : piecesChars sep cs = [cs] := by
  induction cs with
  | nil => rfl
  | cons c cs ih =>
    simp only [List.mem_cons, not_or] at h
    rw [piecesChars, if_neg (Ne.symm h.1), ih h.2]

theorem sublist_of_mem_pieces {cs p : List Char} (h : p ∈ piecesChars sep cs) : p.Sublist cs := by
  induction cs generalizing p with
  | nil =>
    obtain rfl := List.mem_singleton.1 h
    exact .slnil
  | cons c cs ih =>
    unfold piecesChars at h
    split at h
    · rcases List.mem_cons.1 h with rfl | h
      · exact List.nil_sublist _
      · exact (ih h).cons c
    · split at h
      · next hp => exact absurd hp (piecesChars_ne_nil sep cs)
      · next q qs hp =>
        rcases List.mem_cons.1 h with rfl | h
        · exact (ih (hp ▸ List.mem_cons_self)).cons_cons c
        · exact (ih (hp ▸ List.mem_cons_of_mem _ h)).cons c

/-- Pieces of which each comes after a separator. -/
theorem piecesChars_flatMap_sep {ps : List (List Char)} (h : ∀ p ∈ ps, sep ∉ p) :
    piecesChars sep (ps.flatMap (sep :: ·)) = [] :: ps := by
  induction ps using List.reverseRecOn with
  | nil => rfl
  | append_singleton ps p ih =>
    obtain ⟨hps, hp⟩ := List.forall_mem_append.1 h
    rw [List.flatMap_append, List.flatMap_singleton, piecesChars_append_sep, ih hps,
      piecesChars_of_not_mem (hp p (List.mem_singleton_self p)), List.cons_append]

theorem eq_of_flatMap_sep {ps qs : List (List Char)} (hps : ∀ p ∈ ps, sep ∉ p)
    (hqs : ∀ q ∈ qs, sep ∉ q) (h : ps.flatMap (sep :: ·) = qs.flatMap (sep :: ·)) : ps = qs := by
  have hpieces := congrArg (piecesChars sep) h
  rw [piecesChars_flatMap_sep hps, piecesChars_flatMap_sep hqs] at hpieces
  exact (List.cons.inj hpieces).2

/-! ### The end of a text -/

theorem dropEnd_append {p : Char → Bool} {c : Char} (hc : p c = false) (cs ds : List Char) :
    dropEnd p (cs ++ c :: ds) = cs ++ c :: dropEnd p ds := by
  unfold dropEnd
  have hstop : (c :: cs.reverse).dropWhile p = c :: cs.reverse :=
    List.dropWhile_cons_of_neg (by simp [hc])
  have hreverse : (cs ++ c :: ds).reverse = ds.reverse ++ c :: cs.reverse := by simp
  rw [hreverse, List.dropWhile_append, hstop]
  split
  · next hall => simp [List.isEmpty_iff.1 hall]
  · simp

theorem dropEnd_sublist (p : Char → Bool) (cs : List Char) : (dropEnd p cs).Sublist cs := by
  rw [dropEnd, ← List.reverse_sublist, List.reverse_reverse]
  exact List.dropWhile_sublist p

end BulkImport.Text
