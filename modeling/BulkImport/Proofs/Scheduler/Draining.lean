import BulkImport.Proofs.Scheduler.Sweep
import Mathlib.Logic.Hydra

/-!
# Draining the queue

However cycles and imports take turns, they come to their end unless more and more cycles begin:
every turn takes a question from what a cycle or an import has still to do, and only a cycle makes
another import run (`System.remaining`, `goesOn_wf`).

So sweep can follow sweep (`exists_sweeps`).  Each takes out of the queue the imports that it hands
over, and no others (`Swept.perm`), of which there is at least one as long as there is anything in
the queue (`Sweeps.swept`).  After as many sweeps as there are imports that can be let run, each of
them has ended and was run once, and no other job was touched (`queue_drained`).
-/

namespace BulkImport.Scheduler

open BulkImport.Job BulkImport.Program
open Relation (CutExpand)

/-! ### Everything comes to its end -/

section CutExpand

variable {α : Type} {r : α → α → Prop} {before after : List α} {a b : α}

theorem coe_middle (before after : List α) (a : α) :
    (↑(before ++ a :: after) : Multiset α) = ↑(before ++ after) + {a} := by
  rw [← Multiset.coe_singleton, Multiset.coe_add, Multiset.coe_eq_coe]
  exact List.perm_middle.trans (List.perm_append_singleton _ _).symm

theorem cutExpand_replace (h : r b a) :
    CutExpand r ↑(before ++ b :: after) ↑(before ++ a :: after) := by
  rw [coe_middle, coe_middle]
  exact Relation.cutExpand_add_single _ h

theorem cutExpand_remove : CutExpand r ↑(before ++ after) ↑(before ++ a :: after) := by
  rw [coe_middle]
  simpa using (Relation.cutExpand_add_left ↑(before ++ after)).2 (Relation.cutExpand_zero (x := a))

end CutExpand

/-- What is still to be done: by the cycles, and then by the imports that run. -/
def System.remaining (s : System) : Multiset Remainder × Multiset (Import.Action ImportJob) :=
  (s.cycles, s.state.runs.map Run.rest)

/-- A turn leads from one system to the other, and no cycle begins in it. -/
def GoesOn (im : Import.Importer) (maxQueries : Nat) (s s' : System) : Prop :=
  ∃ e, Step im maxQueries s e s' ∧ e ≠ .begun

variable {im : Import.Importer} {maxQueries : Nat} {s s' s'' : System}

/-- Less is to be done after a turn in which no cycle begins. -/
theorem remaining_lex (h : GoesOn im maxQueries s s') :
    Prod.Lex (CutExpand Follows) (CutExpand Follows) s'.remaining s.remaining := by
  obtain ⟨e, hstep, he⟩ := h
  cases hstep with
  | begin => exact absurd rfl he
  | ask now load hcycles =>
    refine .left _ _ ?_
    rw [hcycles]
    exact cutExpand_replace (.intro _ _)
  | leave hcycles =>
    refine .left _ _ ?_
    rw [hcycles]
    exact cutExpand_remove
  | work now a hruns hrest =>
    refine .right _ ?_
    simp only [hruns, List.map_append, List.map_cons, hrest]
    exact cutExpand_replace (.intro _ _)
  | finish hruns hrest =>
    refine .right _ ?_
    simp only [hruns, List.map_append, List.map_cons]
    exact cutExpand_remove

/-- There is no end of turns only if there is no end of cycles that begin. -/
theorem goesOn_wf : WellFounded fun s' s => GoesOn im maxQueries s s' :=
  Subrelation.wf remaining_lex
    (InvImage.wf System.remaining (follows_wf.cutExpand.prod_lex follows_wf.cutExpand))

/-- As long as something is under way, somebody can take a turn. -/
theorem exists_goesOn (h : ¬ s.Idle) : ∃ s', GoesOn im maxQueries s s' := by
  cases hcycles : s.cycles with
  | cons rest after =>
    cases rest with
    | done r => exact ⟨_, _, @Step.leave im maxQueries s [] after r hcycles, nofun⟩
    | ask q next => exact ⟨_, _, @Step.ask im maxQueries s [] after q next 0 (.ok 0) hcycles, nofun⟩
  | nil =>
    cases hruns : s.state.runs with
    | nil => exact absurd ⟨hcycles, hruns⟩ h
    | cons r after =>
      cases hrest : r.rest with
      | done result =>
        exact ⟨_, _, @Step.finish im maxQueries s [] after r result hruns hrest, nofun⟩
      | ask q next =>
        exact ⟨_, _,
          @Step.work im maxQueries s [] after r q next 0 (Import.oblige q) hruns hrest, nofun⟩

theorem exists_idle (s : System) : ∃ moves s', Execution im maxQueries s moves s' ∧
    (∀ m ∈ moves, m.event ≠ .begun) ∧ s'.Idle := by
  induction s using (@goesOn_wf im maxQueries).induction with
  | h s ih =>
    by_cases hidle : s.Idle
    · exact ⟨[], s, .nil s, List.forall_mem_nil _, hidle⟩
    · obtain ⟨s₁, e, hstep, he⟩ := exists_goesOn hidle
      obtain ⟨moves, s', hexec, halone, hidle'⟩ := ih s₁ ⟨e, hstep, he⟩
      exact ⟨_, s', .cons hstep hexec, List.forall_mem_cons.2 ⟨he, halone⟩, hidle'⟩

/-! ### Sweep after sweep -/

/-- So many sweeps follow one another. -/
inductive Sweeps (im : Import.Importer) (s : System) : Nat → List Move → System → Prop where
  | none : Sweeps im s 0 [] s
  | more {n : Nat} {moves later : List Move} {s' s'' : System} (h : Sweeps im s n moves s')
      (hsweep : Sweep im s' later s'') : Sweeps im s (n + 1) (moves ++ later) s''

theorem exists_sweeps (im : Import.Importer) (s : System) (n : Nat) :
    ∃ moves s', Sweeps im s n moves s' := by
  induction n with
  | zero => exact ⟨[], s, .none⟩
  | succ n ih =>
    obtain ⟨moves, s', h⟩ := ih
    obtain ⟨later, s'', hexec, halone, hidle⟩ :=
      exists_idle { s' with cycles := s'.cycles ++ [cycle 0] }
    exact ⟨_, s'', h.more (.intro (.begin s') hexec halone hidle)⟩

theorem handed_append (moves later : List Move) :
    handed (moves ++ later) = handed moves ++ handed later :=
  List.filterMap_append

theorem not_runnable_of_final {m : Store.Memory} {id : String} (h : StoredFinal m id) :
    id ∉ runnable m := by
  obtain ⟨job, hjob, hfinal⟩ := h
  rw [mem_runnable]
  rintro ⟨job', hjob', hrunnable⟩
  rw [hjob] at hjob'
  cases hjob'
  cases job with
  | exporting e => exact hrunnable
  | importing job =>
    exact absurd (hfinal.symm.trans (isFinal_of_open hrunnable.1)) (by decide)

namespace Swept

variable {moves later : List Move}

theorem refl (hnamed : Named s.memory) (hrest : s.AtRest) : Swept s [] s where
  rest := hrest
  named := hnamed
  permits := rfl
  once := .nil
  runnable := List.forall_mem_nil _
  final := List.forall_mem_nil _
  others _ _ := rfl

/-- What can be let run afterwards could be let run before and was not handed over. -/
theorem mem_runnable_iff (h : Swept s moves s') {id : String} :
    id ∈ Scheduler.runnable s'.memory ↔ id ∈ Scheduler.runnable s.memory ∧ id ∉ handed moves := by
  by_cases hid : id ∈ handed moves
  · exact iff_of_false (not_runnable_of_final (h.final id hid)) fun hboth => hboth.2 hid
  · rw [mem_runnable, mem_runnable, h.others id hid]
    exact (and_iff_left hid).symm

/-- What could be let run was handed over or still can be. -/
theorem perm (h : Swept s moves s') :
    (handed moves ++ Scheduler.runnable s'.memory).Perm (Scheduler.runnable s.memory) := by
  have hapart : (handed moves ++ Scheduler.runnable s'.memory).Nodup := by
    refine List.nodup_append.2 ⟨h.once, runnable_nodup _, ?_⟩
    rintro id hid _ hrunnable rfl
    exact (h.mem_runnable_iff.1 hrunnable).2 hid
  refine (List.perm_ext_iff_of_nodup hapart (runnable_nodup _)).2 fun id => ?_
  rw [List.mem_append, h.mem_runnable_iff]
  constructor
  · rintro (hid | ⟨hrunnable, -⟩)
    · exact h.runnable id hid
    · exact hrunnable
  · intro hrunnable
    by_cases hid : id ∈ handed moves
    · exact .inl hid
    · exact .inr ⟨hrunnable, hid⟩

theorem length_add (h : Swept s moves s') : (handed moves).length +
    (Scheduler.runnable s'.memory).length = (Scheduler.runnable s.memory).length := by
  rw [← List.length_append]
  exact h.perm.length_eq

theorem trans (h : Swept s moves s') (h' : Swept s' later s'') : Swept s (moves ++ later) s'' where
  rest := h'.rest
  named := h'.named
  permits := h'.permits.trans h.permits
  once := by
    rw [handed_append]
    refine List.nodup_append.2 ⟨h.once, h'.once, ?_⟩
    rintro id hid _ hlater rfl
    exact (h.mem_runnable_iff.1 (h'.runnable id hlater)).2 hid
  runnable := by
    rw [handed_append]
    refine List.forall_mem_append.2 ⟨h.runnable, fun id hid => ?_⟩
    exact (h.mem_runnable_iff.1 (h'.runnable id hid)).1
  final := by
    rw [handed_append]
    refine List.forall_mem_append.2 ⟨fun id hid => ?_, h'.final⟩
    -- it has ended, so that it is not handed over again
    have hnot : id ∉ handed later := fun hlater =>
      not_runnable_of_final (h.final id hid) (h'.runnable id hlater)
    unfold StoredFinal
    rw [h'.others id hnot]
    exact h.final id hid
  others := by
    intro id hid
    rw [handed_append, List.mem_append, not_or] at hid
    exact (h'.others id hid.2).trans (h.others id hid.1)

end Swept

/-- What sweeps have done about the queue: they have emptied it, or there are no more of them than
imports that they handed over. -/
theorem Sweeps.swept {n : Nat} {moves : List Move} (hnamed : Named s.memory) (hrest : s.AtRest)
    (hpermits : 0 < s.state.permits) (h : Sweeps im s n moves s') :
    Swept s moves s' ∧ (runnable s'.memory = [] ∨ n ≤ (handed moves).length) := by
  induction h with
  | none => exact ⟨.refl hnamed hrest, .inr (Nat.le_refl 0)⟩
  | @more n moves later s' s'' _ hsweep ih =>
    obtain ⟨hswept, hmany⟩ := ih
    obtain ⟨hswept', hsome⟩ := hsweep.swept hswept.named hswept.rest (hswept.permits ▸ hpermits)
    refine ⟨hswept.trans hswept', ?_⟩
    by_cases hempty : runnable s'.memory = []
    · refine .inl (List.eq_nil_of_length_eq_zero ?_)
      have hlength := hswept'.length_add
      rw [hempty, List.length_nil] at hlength
      omega
    · refine .inr ?_
      have hpos := List.length_pos_iff.2 (hsome hempty)
      have hn := hmany.resolve_left hempty
      rw [handed_append, List.length_append]
      omega

/-- From rest on, with one permit at least, sweep can follow sweep, and each comes to its end
whatever it is answered.  After as many sweeps as there were imports in the queue, each of them is
stored as one that has ended and was handed over once; every sweep that finds an import in the queue
leaves fewer there; and all jobs that were not in the queue are as they were. -/
theorem queue_drained (hnamed : Named s.memory) (hrest : s.AtRest)
    (hpermits : 0 < s.state.permits) :
    (∀ n, ∃ moves s', Sweeps im s n moves s') ∧
      (WellFounded fun s₂ s₁ => GoesOn im 0 s₁ s₂) ∧
      (∀ s₁ : System, ¬ s₁.Idle → ∃ s₂, GoesOn im 0 s₁ s₂) ∧
      ∀ {n moves s'}, Sweeps im s n moves s' →
        ((runnable s.memory).length ≤ n → ∀ id ∈ runnable s.memory,
          StoredFinal s'.memory id ∧ (handed moves).count id = 1) ∧
        (∀ id, id ∉ runnable s.memory →
          s'.memory.find? id = s.memory.find? id ∧ id ∉ handed moves) ∧
        ∀ {later s''}, Sweep im s' later s'' → runnable s'.memory ≠ [] →
          (runnable s''.memory).length < (runnable s'.memory).length := by
  refine ⟨exists_sweeps im s, goesOn_wf, fun _ => exists_goesOn, fun {n moves s'} h => ?_⟩
  obtain ⟨hswept, hmany⟩ := h.swept hnamed hrest hpermits
  refine ⟨fun hn id hid => ?_, fun id hid => ?_, fun {later s''} hsweep hsome => ?_⟩
  · have hempty : runnable s'.memory = [] := by
      rcases hmany with hempty | hmany
      · exact hempty
      · refine List.eq_nil_of_length_eq_zero ?_
        have hlength := hswept.length_add
        omega
    have hperm := hswept.perm
    rw [hempty, List.append_nil] at hperm
    have hhanded := hperm.mem_iff.2 hid
    exact ⟨hswept.final id hhanded, List.count_eq_one_of_mem hswept.once hhanded⟩
  · have hhanded : id ∉ handed moves := fun hmem => hid (hswept.runnable id hmem)
    exact ⟨hswept.others id hhanded, hhanded⟩
  · obtain ⟨hswept', hhanded⟩ :=
      hsweep.swept hswept.named hswept.rest (hswept.permits ▸ hpermits)
    have hpos := List.length_pos_iff.2 (hhanded hsome)
    have hlength := hswept'.length_add
    omega

/-- One sweep is enough for the roads. -/
theorem roads_drained :
    ∃ moves s', Sweeps Import.viewImporter queuedRoads 1 moves s' ∧
      StoredFinal s'.memory "roads" ∧ (handed moves).count "roads" = 1 := by
  obtain ⟨hexists, -, -, hdrained⟩ :=
    @queue_drained Import.viewImporter queuedRoads queuedRoads_named queuedRoads_atRest (by decide)
  obtain ⟨moves, s', hsweeps⟩ := hexists 1
  obtain ⟨hdone, -⟩ := hdrained hsweeps
  exact ⟨moves, s', hsweeps, hdone (by decide +kernel) "roads" (by decide +kernel)⟩

end BulkImport.Scheduler
