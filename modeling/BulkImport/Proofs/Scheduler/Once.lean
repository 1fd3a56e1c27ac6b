import BulkImport.Proofs.Scheduler.Accounts

/-!
# How often an import is run

A cycle goes by the listings it began with, while the imports it listed may have been spawned by an
earlier cycle and may have ended since.  Their targets are free again then, so that they can be
spawned, or stored as queued, once more.  That a cycle works on an import that has ended is the only
way for an import to be handed over twice or for a final status to change
(`once_and_final_iff_fresh`).
-/

namespace BulkImport.Scheduler

open BulkImport.Job

variable {im : Import.Importer} {maxQueries : Nat} {s s' : System}

theorem handed_cons (m : Move) (moves : List Move) :
    handed (m :: moves) = m.event.handed?.toList ++ handed moves := by
  unfold handed
  cases hhanded : m.event.handed? with
  | none => exact List.filterMap_cons_none hhanded
  | some name => exact List.filterMap_cons_some hhanded

/-- Where the imports are accounted for, none of them is handed over again and no final status
changes, if and only if no cycle works on an import that has ended. -/
theorem once_and_final_of_accounted {cs : List Underway} {ids : List String} {moves : List Move}
    (hexec : Execution im maxQueries s moves s') (h : Accounted s cs ids) (hids : ids.Nodup) :
    ((handed moves ++ ids).Nodup ∧ ∀ m ∈ moves, m.KeepsFinal) ↔ ∀ m ∈ moves, m.Fresh := by
  induction hexec generalizing cs ids with
  | nil s => simp [handed, hids]
  | @cons s s₁ s₂ e moves hstep hrest ih =>
    rw [List.forall_mem_cons, List.forall_mem_cons, handed_cons]
    by_cases hfresh : Move.Fresh ⟨s, e, s₁⟩
    · -- what is handed over now joins the names that must not be handed over again
      obtain ⟨cs', h'⟩ := h.turn hstep hfresh
      have hkeeps := h.keepsFinal hstep hfresh
      have hmore : (e.handed?.toList ++ ids).Nodup := by
        cases hhanded : e.handed? with
        | none => exact hids
        | some name => exact List.nodup_cons.2 ⟨h.handed_new hstep hfresh hhanded, hids⟩
      have hperm : (e.handed?.toList ++ handed moves ++ ids).Perm
          (handed moves ++ (e.handed?.toList ++ ids)) := by
        rw [← List.append_assoc]
        exact List.perm_append_comm.append_right ids
      rw [hperm.nodup_iff, ← ih h' hmore]
      exact ⟨fun hall => ⟨hfresh, hall.1, hall.2.2⟩, fun hall => ⟨hall.2.1, hkeeps, hall.2.2⟩⟩
    · refine ⟨fun hall => ?_, fun hall => absurd hall.1 hfresh⟩
      rcases h.of_stale hstep hfresh with hchanged | ⟨name, hname, hhanded⟩
      · exact absurd hall.2.1 hchanged
      · have hnodup := hall.1
        rw [hhanded, List.nodup_append] at hnodup
        have hmem : name ∈ (some name).toList ++ handed moves :=
          List.mem_append_left _ List.mem_cons_self
        exact absurd rfl (hnodup.2.2 name hmem name hname)

/-- From rest on, no import is handed over to be run twice and no final status changes, if and only
if no cycle works on an import that has ended by then. -/
theorem once_and_final_iff_fresh {moves : List Move} (hnamed : Named s.memory) (hrest : s.AtRest)
    (hexec : Execution im maxQueries s moves s') :
    ((handed moves).Nodup ∧ ∀ m ∈ moves, m.KeepsFinal) ↔ ∀ m ∈ moves, m.Fresh := by
  have h := once_and_final_of_accounted hexec (.initial hnamed hrest) .nil
  rwa [List.append_nil] at h

/-! ### An import that is overtaken -/

/-- One import is stored, which is queued, and there are two permits. -/
def queuedRoads : System where
  memory := Store.Memory.replace Dictionary.empty
    (.importing { Import.roadsJob with id := "roads", status := .queued })
  state := { permits := 2 }

/-- The database cannot be reached. -/
def unreachable : (q : Import.Question) → Import.Answer q
  | .connect _ => .error (.unexpectedRow "down")
  | q => Import.oblige q

/-- A cycle spawns the import, which comes to its end. -/
def undisturbed : List Turn :=
  .begin :: List.replicate 7 .cycle ++ List.replicate 4 .run

/-- A second cycle lists the import before it runs and goes on after it has ended; then the import
runs again. -/
def overtaken : List Turn :=
  .begin :: List.replicate 7 .cycle ++ .begin :: List.replicate 2 .cycle ++
    List.replicate 4 .run ++ List.replicate 4 .cycle ++ [.run]

theorem queuedRoads_named : Named queuedRoads.memory := named_empty.replace _

theorem queuedRoads_atRest : queuedRoads.AtRest := ⟨rfl, rfl, rfl⟩

/-- The roads are imported once when nobody else looks for them. -/
theorem roads_once :
    Named queuedRoads.memory ∧ queuedRoads.AtRest ∧
      (handed (queuedRoads.perform Import.viewImporter 0 unreachable undisturbed).1).Nodup ∧
      ∀ m ∈ (queuedRoads.perform Import.viewImporter 0 unreachable undisturbed).1, m.KeepsFinal :=
  ⟨queuedRoads_named, queuedRoads_atRest,
    (once_and_final_iff_fresh queuedRoads_named queuedRoads_atRest
      (System.execution_perform Import.viewImporter 0 unreachable undisturbed queuedRoads)).2
      (by decide +kernel)⟩

theorem not_finalKept_of_status {m m' : Store.Memory} {name : String} {before after : Status}
    (hbefore : (m.find? name).map Job.status = some before) (hfinal : before.isFinal = true)
    (hafter : (m'.find? name).map Job.status = some after) (hne : after ≠ before) :
    ¬ FinalKept m m' := by
  intro hkept
  obtain ⟨job, hjob, rfl⟩ := Option.map_eq_some_iff.1 hbefore
  obtain ⟨job', hjob', hstatus⟩ := hkept name job hjob hfinal
  rw [hjob', Option.map_some, hstatus] at hafter
  exact hne (Option.some.inj hafter).symm

/-- The roads are imported twice, one cycle after the other, and lose a final status. -/
theorem roads_twice :
    (Named queuedRoads.memory ∧ queuedRoads.AtRest ∧
      ∀ m ∈ (queuedRoads.perform Import.viewImporter 0 unreachable overtaken).1, m.Successive) ∧
    Execution Import.viewImporter 0 queuedRoads
      (queuedRoads.perform Import.viewImporter 0 unreachable overtaken).1
      (queuedRoads.perform Import.viewImporter 0 unreachable overtaken).2 ∧
    handed (queuedRoads.perform Import.viewImporter 0 unreachable overtaken).1 =
      ["roads", "roads"] ∧
    ¬ ∀ m ∈ (queuedRoads.perform Import.viewImporter 0 unreachable overtaken).1,
      m.KeepsFinal := by
  refine ⟨⟨queuedRoads_named, queuedRoads_atRest, by decide +kernel⟩,
    System.execution_perform _ _ _ _ _, by decide +kernel, fun hkeeps => ?_⟩
  have hstatuses : (queuedRoads.perform Import.viewImporter 0 unreachable overtaken).1.getLast?.map
      (fun m => ((m.before.memory.find? "roads").map Job.status,
        (m.after.memory.find? "roads").map Job.status)) =
      some (some .aborted, some .validating) := by
    decide +kernel
  obtain ⟨m, hlast, hm⟩ := Option.map_eq_some_iff.1 hstatuses
  obtain ⟨hbefore, hafter⟩ := Prod.mk.inj hm
  have hmem := List.mem_of_getLast? hlast
  exact not_finalKept_of_status hbefore (by decide) hafter (by decide) (hkeeps m hmem)

end BulkImport.Scheduler
