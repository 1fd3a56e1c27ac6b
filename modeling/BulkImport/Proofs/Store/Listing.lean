import BulkImport.Proofs.Scheduler.Interleaving
import Mathlib.Data.List.Sort

/-!
# The order of a listing

The jobs of a listing stand in the order of their creation, and those that were created at one time
in the order of their names (`Precedes`, `list_precedes`).  As each job is stored under its own
name, this leaves no choice: jobs that stand in this order are listed in one way only
(`eq_of_precedes`), so that a listing is known by what is on it.
-/

namespace BulkImport.Store

open BulkImport.Job
open BulkImport.Scheduler (Named)

/-- One job stands before another one in a listing. -/
def Precedes (a b : Job) : Prop :=
  a.envelope.createdAt < b.envelope.createdAt ∨
    a.envelope.createdAt = b.envelope.createdAt ∧ a.id < b.id

theorem Precedes.irrefl (a : Job) : ¬ Precedes a a := by
  rintro (htime | ⟨-, hid⟩)
  · exact Int64.lt_irrefl htime
  · exact String.lt_irrefl _ hid

theorem Precedes.asymm {a b : Job} (h : Precedes a b) : ¬ Precedes b a := by
  rintro (htime' | ⟨hsame', hid'⟩)
  · rcases h with htime | ⟨hsame, -⟩
    · exact Int64.lt_asymm htime htime'
    · rw [hsame] at htime'
      exact Int64.lt_irrefl htime'
  · rcases h with htime | ⟨-, hid⟩
    · rw [hsame'] at htime
      exact Int64.lt_irrefl htime
    · exact String.lt_asymm hid hid'

/-- Jobs that stand in the order of a listing are known by which ones they are. -/
theorem eq_of_precedes {α : Type} {f : α → Job} {l l' : List α}
    (h : l.Pairwise fun a b => Precedes (f a) (f b))
    (h' : l'.Pairwise fun a b => Precedes (f a) (f b)) (hmem : ∀ a, a ∈ l ↔ a ∈ l') : l = l' := by
  have : Std.Irrefl fun a b => Precedes (f a) (f b) := ⟨fun a => Precedes.irrefl (f a)⟩
  have : Std.Antisymm fun a b => Precedes (f a) (f b) := ⟨fun _ _ hab hba => absurd hba hab.asymm⟩
  exact h.eq_of_mem_iff h' hmem

/-- What is sorted stands in the order it is sorted by, and otherwise as it did before. -/
theorem pairwise_mergeSort_stable {α : Type} {le : α → α → Bool} {before : α → α → Prop}
    (htrans : ∀ a b c, le a b → le b c → le a c) (htotal : ∀ a b, le a b || le b a) {l : List α}
    (h : l.Pairwise before) :
    (l.mergeSort le).Pairwise fun a b => le a b ∧ (le b a → before a b) := by
  induction l with
  | nil => simp
  | cons a l ih =>
    obtain ⟨ha, hl⟩ := List.pairwise_cons.1 h
    -- the first one comes after those that have to be before it, and before all others
    obtain ⟨l₁, l₂, hcons, hrest, hless⟩ := List.mergeSort_cons htrans htotal a l
    have hsorted := List.pairwise_mergeSort htrans htotal (a :: l)
    have hmem : ∀ b ∈ l₂, b ∈ l := fun b hb =>
      List.mem_mergeSort.1 (hrest ▸ List.mem_append_right _ hb)
    specialize ih hl
    rw [hcons] at hsorted ⊢
    rw [hrest] at ih
    rw [List.pairwise_append, List.pairwise_cons] at hsorted ⊢
    rw [List.pairwise_append] at ih
    obtain ⟨hfirst, hsecond, hacross⟩ := ih
    refine ⟨hfirst, ⟨fun b hb => ⟨hsorted.2.1.1 b hb, fun _ => ha b (hmem b hb)⟩, hsecond⟩, ?_⟩
    intro b hb c hc
    rcases List.mem_cons.1 hc with rfl | hc
    · refine ⟨hsorted.2.2 b hb c List.mem_cons_self, fun hle => ?_⟩
      have hnot := hless b hb
      rw [hle] at hnot
      cases hnot
    · exact hacross b hb c hc

/-- The stored jobs are kept in the order of their names. -/
theorem values_pairwise {m : Memory} (h : Named m) : m.values.Pairwise fun a b => a.id < b.id := by
  refine List.pairwise_map.2 (m.ordered.imp_of_mem fun {a b} ha hb hlt => ?_)
  rwa [h a.1 a.2 (Dictionary.mem_entries_iff.1 ha), h b.1 b.2 (Dictionary.mem_entries_iff.1 hb)]

/-- Whether a job was created no later than another one. -/
def noLater (a b : Job) : Bool := decide (a.envelope.createdAt ≤ b.envelope.createdAt)

theorem noLater_iff {a b : Job} :
    noLater a b = true ↔ a.envelope.createdAt ≤ b.envelope.createdAt :=
  decide_eq_true_iff

theorem noLater_trans (a b c : Job) (hab : noLater a b = true) (hbc : noLater b c = true) :
    noLater a c = true :=
  noLater_iff.2 (Int64.le_trans (noLater_iff.1 hab) (noLater_iff.1 hbc))

theorem noLater_total (a b : Job) : (noLater a b || noLater b a) = true := by
  rw [Bool.or_eq_true, noLater_iff, noLater_iff]
  exact Int64.le_total _ _

/-- Stored jobs by time of creation stand in the order of a listing. -/
theorem byCreation_precedes {m : Memory} (h : Named m) (p : Job → Bool) :
    (Memory.byCreation (m.values.filter p)).Pairwise Precedes := by
  have hsorted : (Memory.byCreation (m.values.filter p)).Pairwise fun a b =>
      noLater a b ∧ (noLater b a → a.id < b.id) :=
    pairwise_mergeSort_stable noLater_trans noLater_total ((values_pairwise h).filter p)
  refine hsorted.imp fun {a b} ⟨hle, hsame⟩ => ?_
  rcases Int64.lt_or_eq_of_le (noLater_iff.1 hle) with hlt | heq
  · exact .inl hlt
  · exact .inr ⟨heq, hsame (noLater_iff.2 (Int64.le_of_eq heq.symm))⟩

/-- The jobs of a listing stand in the order of their creation and their names. -/
theorem list_precedes {m : Memory} (h : Named m) (f : Job.Filter) :
    (m.list f).Pairwise Precedes :=
  byCreation_precedes h f.admits

end BulkImport.Store
