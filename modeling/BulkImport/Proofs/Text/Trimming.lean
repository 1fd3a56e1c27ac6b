import BulkImport.Proofs.Text.Pieces
import Mathlib.Data.List.TakeWhile

/-!
# Blanks around a text

A text may be written with blanks around it (`Padded`).  Trimming takes off what was put around a
text that neither begins nor ends with a blank, and nothing else; main statement: `trim_eq_iff`.

Beside it stand the other two things that are done to a text with separators in it: it is cut at the
first one it has (`cut_eq_some_iff`), and texts that were joined are taken apart again
(`pieces_intercalate`).
-/

namespace BulkImport.Text

/-! ### Blanks at the ends -/

/-- A text of blanks, or of nothing. -/
def Blank (s : String) : Prop := ∀ c ∈ s.toList, isBlank c = true

/-- A text that neither begins nor ends with a blank. -/
structure Trimmed (s : String) : Prop where
  head : ∀ c, s.toList.head? = some c → isBlank c = false
  last : ∀ c, s.toList.getLast? = some c → isBlank c = false

/-- The second text is the first one with blanks around it. -/
def Padded (s t : String) : Prop :=
  ∃ before after, Blank before ∧ Blank after ∧ t = before ++ s ++ after

theorem blank_empty : Blank "" := List.forall_mem_nil _

theorem blank_append {s t : String} : Blank (s ++ t) ↔ Blank s ∧ Blank t := by
  simp only [Blank, String.toList_append, List.forall_mem_append]

/-- A character that is no blank is in no text of blanks. -/
theorem Blank.not_mem {s : String} (h : Blank s) {c : Char} (hc : isBlank c = false) :
    c ∉ s.toList := by
  intro hmem
  rw [h c hmem] at hc
  cases hc

namespace Padded

theorem before {p : String} (hp : Blank p) (s : String) : Padded s (p ++ s) :=
  ⟨p, "", hp, blank_empty, by rw [String.append_empty]⟩

theorem after {p : String} (hp : Blank p) (s : String) : Padded s (s ++ p) :=
  ⟨"", p, blank_empty, hp, by rw [String.empty_append]⟩

theorem trans {s t u : String} (h : Padded s t) (h' : Padded t u) : Padded s u := by
  obtain ⟨before, after, hbefore, hafter, rfl⟩ := h
  obtain ⟨before', after', hbefore', hafter', rfl⟩ := h'
  refine ⟨before' ++ before, after ++ after', blank_append.2 ⟨hbefore', hbefore⟩,
    blank_append.2 ⟨hafter, hafter'⟩, ?_⟩
  simp only [String.append_assoc]

/-- Of the characters that are no blanks none is added and none is lost. -/
theorem mem_iff {s t : String} (h : Padded s t) {c : Char} (hc : isBlank c = false) :
    c ∈ t.toList ↔ c ∈ s.toList := by
  obtain ⟨before, after, hbefore, hafter, rfl⟩ := h
  simp [hbefore.not_mem hc, hafter.not_mem hc]

end Padded

theorem trimmed_trim (s : String) : Trimmed (trim s) where
  head _ hc := trimChars_head (by rwa [trim, String.toList_ofList] at hc)
  last _ hc := trimChars_getLast (by rwa [trim, String.toList_ofList] at hc)

theorem padded_trim (s : String) : Padded (trim s) s := by
  have hblank : ∀ cs : List Char, ∀ c ∈ cs.takeWhile isBlank, isBlank c = true := fun _ =>
    List.all_eq_true.1 List.all_takeWhile
  refine ⟨String.ofList (s.toList.takeWhile isBlank),
    String.ofList ((s.toList.dropWhile isBlank).reverse.takeWhile isBlank).reverse, ?_, ?_, ?_⟩
  · intro c hc
    rw [String.toList_ofList] at hc
    exact hblank _ c hc
  · intro c hc
    rw [String.toList_ofList, List.mem_reverse] at hc
    exact hblank _ c hc
  · refine String.toList_inj.1 ?_
    simp only [trim, trimChars, dropEnd, String.toList_append, String.toList_ofList,
      List.append_assoc, ← List.reverse_append, List.takeWhile_append_dropWhile,
      List.reverse_reverse]

theorem trim_of_blank {s : String} (h : Blank s) : trim s = "" := by
  rw [trim, trimChars, List.dropWhile_eq_nil_iff.2 h]
  rfl

/-- What stops at the first character that is not of a class takes all before it. -/
theorem dropWhile_append_of_head {p : Char → Bool} {before cs : List Char}
    (hbefore : ∀ c ∈ before, p c = true) (hhead : ∀ c, cs.head? = some c → p c = false) :
    (before ++ cs).dropWhile p = cs := by
  rw [List.dropWhile_append_of_pos hbefore]
  cases cs with
  | nil => rfl
  | cons c cs => exact List.dropWhile_cons_of_neg (by simp [hhead c rfl])

theorem dropEnd_append_of_last {p : Char → Bool} {cs after : List Char}
    (hafter : ∀ c ∈ after, p c = true) (hlast : ∀ c, cs.getLast? = some c → p c = false) :
    dropEnd p (cs ++ after) = cs := by
  rw [dropEnd, List.reverse_append, dropWhile_append_of_head, List.reverse_reverse]
  · exact fun c hc => hafter c (List.mem_reverse.1 hc)
  · exact fun c hc => hlast c (List.head?_reverse ▸ hc)

/-- Blanks that are put around a trimmed text are what trimming takes off. -/
theorem trim_of_padded {s t : String} (hs : Trimmed s) (h : Padded s t) : trim t = s := by
  obtain ⟨before, after, hbefore, hafter, rfl⟩ := h
  by_cases hempty : s = ""
  · subst hempty
    rw [String.append_empty]
    exact trim_of_blank (blank_append.2 ⟨hbefore, hafter⟩)
  · obtain ⟨c, cs, hcs⟩ := List.exists_cons_of_ne_nil (String.toList_eq_nil_iff.not.2 hempty)
    have hhead : ∀ d, (s.toList ++ after.toList).head? = some d → isBlank d = false := by
      rw [hcs]
      exact fun d hd => hs.head d (hcs ▸ hd)
    refine String.toList_inj.1 ?_
    rw [trim, String.toList_ofList, trimChars, String.toList_append, String.toList_append,
      List.append_assoc, dropWhile_append_of_head hbefore hhead,
      dropEnd_append_of_last hafter hs.last]

/-- A text comes out of trimming exactly when it is trimmed and blanks were put around it. -/
theorem trim_eq_iff {s t : String} : trim t = s ↔ Trimmed s ∧ Padded s t := by
  constructor
  · rintro rfl
    exact ⟨trimmed_trim t, padded_trim t⟩
  · rintro ⟨hs, h⟩
    exact trim_of_padded hs h

theorem trim_eq_empty_iff {s : String} : trim s = "" ↔ Blank s := by
  refine ⟨fun h => ?_, trim_of_blank⟩
  obtain ⟨before, after, hbefore, hafter, hs⟩ := padded_trim s
  rw [h, String.append_empty] at hs
  rw [hs]
  exact blank_append.2 ⟨hbefore, hafter⟩

/-- Trimming does not see blanks that were put around a text. -/
theorem Padded.trim_eq {s t : String} (h : Padded s t) : trim t = trim s :=
  trim_eq_iff.2 ⟨trimmed_trim s, (padded_trim s).trans h⟩

/-! ### Separators -/

section Separators

variable {sep : Char}

theorem cutChars_eq_some_iff {cs before after : List Char} :
    cutChars sep cs = some (before, after) ↔ sep ∉ before ∧ cs = before ++ sep :: after := by
  induction cs generalizing before with
  | nil => simp [cutChars]
  | cons c cs ih =>
    rw [cutChars]
    by_cases hc : c = sep
    · subst hc
      cases before with
      | nil => simp [eq_comm]
      | cons d before =>
        simp only [if_pos, List.mem_cons, not_or, List.cons_append, List.cons.injEq]
        exact ⟨nofun, fun h => absurd h.2.1 h.1.1⟩
    · rw [if_neg hc, Option.map_eq_some_iff]
      cases before with
      | nil => simp [hc]
      | cons d before =>
        simp only [Prod.exists, Prod.mk.injEq, List.cons.injEq, List.mem_cons, not_or,
          List.cons_append]
        constructor
        · rintro ⟨a, b, hcut, ⟨rfl, rfl⟩, rfl⟩
          exact ⟨⟨Ne.symm hc, (ih.1 hcut).1⟩, rfl, (ih.1 hcut).2⟩
        · rintro ⟨⟨-, hnone⟩, rfl, hcs⟩
          exact ⟨_, _, ih.2 ⟨hnone, hcs⟩, ⟨rfl, rfl⟩, rfl⟩

theorem cut_eq_some_iff {s before after : String} :
    cut sep s = some (before, after) ↔
      sep ∉ before.toList ∧ s = before ++ String.singleton sep ++ after := by
  have htext : s = before ++ String.singleton sep ++ after ↔
      s.toList = before.toList ++ sep :: after.toList := by
    rw [← String.toList_inj]
    simp
  rw [htext, ← cutChars_eq_some_iff, cut, Option.map_eq_some_iff]
  constructor
  · rintro ⟨⟨a, b⟩, hcut, heq⟩
    obtain ⟨rfl, rfl⟩ := Prod.mk.inj heq
    simpa using hcut
  · exact fun hcut => ⟨_, hcut, by simp⟩

theorem cut_eq_none_iff {s : String} : cut sep s = none ↔ sep ∉ s.toList := by
  rw [Option.eq_none_iff_forall_ne_some]
  constructor
  · intro h hmem
    obtain ⟨before, after, hs, hbefore⟩ := List.eq_append_cons_of_mem hmem
    refine h (String.ofList before, String.ofList after) (cut_eq_some_iff.2 ⟨?_, ?_⟩)
    · rwa [String.toList_ofList]
    · exact String.toList_inj.1 (by simp [hs])
  · rintro h ⟨before, after⟩ hcut
    rw [(cut_eq_some_iff.1 hcut).2] at h
    simp at h

/-- A text with blanks around it is cut where the text alone is. -/
theorem cut_padded {s t before after : String} (h : Padded s t) (hsep : isBlank sep = false)
    (hcut : cut sep t = some (before, after)) :
    ∃ before' after', cut sep s = some (before', after') ∧ Padded before' before ∧
      Padded after' after := by
  cases hs : cut sep s with
  | none =>
    obtain ⟨-, rfl⟩ := cut_eq_some_iff.1 hcut
    exact absurd ((h.mem_iff hsep).1 (by simp)) (cut_eq_none_iff.1 hs)
  | some parts =>
    obtain ⟨before', after'⟩ := parts
    obtain ⟨hnone, rfl⟩ := cut_eq_some_iff.1 hs
    obtain ⟨front, back, hfront, hback, rfl⟩ := h
    -- the blanks in front stay with what is before the separator, and those behind with the rest
    have hsame : cut sep (front ++ (before' ++ String.singleton sep ++ after') ++ back) =
        some (front ++ before', after' ++ back) := by
      refine cut_eq_some_iff.2 ⟨?_, by simp only [String.append_assoc]⟩
      rw [String.toList_append, List.mem_append, not_or]
      exact ⟨hfront.not_mem hsep, hnone⟩
    obtain ⟨rfl, rfl⟩ := Prod.mk.inj (Option.some.inj (hsame.symm.trans hcut))
    exact ⟨before', after', rfl, .before hfront _, .after hback _⟩

/-- Texts without the separator are the pieces of what they are joined to. -/
theorem pieces_intercalate {ss : List String} (hne : ss ≠ []) (h : ∀ s ∈ ss, sep ∉ s.toList) :
    pieces sep ((String.singleton sep).intercalate ss) = ss := by
  induction ss with
  | nil => exact absurd rfl hne
  | cons s ss ih =>
    obtain ⟨hs, hss⟩ := List.forall_mem_cons.1 h
    cases ss with
    | nil => simp [pieces, piecesChars_of_not_mem hs]
    | cons t ss =>
      have hrest := ih (List.cons_ne_nil _ _) hss
      rw [pieces] at hrest
      rw [pieces, String.intercalate_cons_cons, String.append_assoc, String.toList_append,
        String.toList_append, String.toList_singleton, List.singleton_append,
        piecesChars_append_sep, piecesChars_of_not_mem hs, List.map_append, hrest]
      simp

end Separators

end BulkImport.Text
