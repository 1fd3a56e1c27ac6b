import BulkImport.Job.Record
import Mathlib.Data.List.Nodup

/-!
# The life of an import

The record of an import is changed by five operations, and two of them may be refused (`Change`,
`attempt`).  What each does is said once here, and a failure does the same to every record but for
the status, which an import that has ended keeps (`failWith_spec`).

Whatever is done to an import, it only ever gets on (`Continues`): its status does not fall back
and is kept once the import has ended, its space version and its error are not taken from it, and
indices are listed after the ones that are listed already, none of them twice.  One change keeps
this (`continues_change`), and so does every sequence of them (`continues_changeAll`).
-/

namespace BulkImport

open BulkImport.Job

/-- A status that a job may move to comes later in the order of declaration. -/
theorem Job.Status.CanAdvanceTo.ordinal_lt {s next : Job.Status} (h : s.CanAdvanceTo next) :
    s.ordinal < next.ordinal := by
  obtain ⟨hopen, hfailure | hlt⟩ := h
  · cases next <;> cases hfailure <;> cases s <;> first | decide | cases hopen
  · exact hlt

namespace ImportJob

variable {job job' middle later : ImportJob} {next : Job.Status} {f : Failure}

/-! ### What the operations do -/

theorem advance_of_canAdvanceTo (h : job.status.CanAdvanceTo next) :
    job.advance next = .ok { job with status := next } :=
  if_pos h

theorem eq_of_advance (h : job.advance next = .ok job') :
    job.status.CanAdvanceTo next ∧ job' = { job with status := next } := by
  unfold advance at h
  split at h
  · next hcan =>
    cases h
    exact ⟨hcan, rfl⟩
  · cases h

theorem advance_eq_error_iff {e : ChangeError} :
    job.advance next = .error e ↔
      ¬ job.status.CanAdvanceTo next ∧ e = .illegalTransition job.status next := by
  unfold advance
  split
  · next hcan => simp [hcan]
  · next hstuck => simp [hstuck, eq_comm]

theorem eq_of_setSpaceVersion {v : Int64} (h : job.setSpaceVersion v = .ok job') :
    job.spaceVersion = none ∧ job' = { job with spaceVersion := some v } := by
  unfold setSpaceVersion at h
  split at h
  · next hnone =>
    cases h
    exact ⟨hnone, rfl⟩
  · cases h

/-- Where setting the space version is refused, the job keeps the one that it has. -/
theorem setSpaceVersion_attempted (job : ImportJob) (v : Int64) :
    (job.setSpaceVersion v).toOption.getD job =
      { job with spaceVersion := job.spaceVersion.or (some v) } := by
  cases hversion : job.spaceVersion with
  | none => simp [setSpaceVersion, hversion, Except.toOption]
  | some w =>
    simp only [setSpaceVersion, hversion, Except.toOption, Option.getD_none, Option.some_or]
    rw [← hversion]

theorem setSpaceVersion_eq_error_iff {v : Int64} {e : ChangeError} :
    job.setSpaceVersion v = .error e ↔
      ∃ w, job.spaceVersion = some w ∧ e = .spaceVersionAlreadySet w := by
  unfold setSpaceVersion
  cases job.spaceVersion with
  | none => simp
  | some w => simp [eq_comm]

theorem isFailure_failureStatus (f : Failure) : (failureStatus f).isFailure = true := by
  unfold failureStatus
  split <;> rfl

theorem isFinal_failureStatus (f : Failure) : (failureStatus f).isFinal = true := by
  unfold failureStatus
  split <;> rfl

/-- An import is moved to a failure exactly when it has not ended. -/
theorem canAdvanceTo_failureStatus :
    job.status.CanAdvanceTo (failureStatus f) ↔ job.status.isFinal = false :=
  ⟨fun h => h.1, fun h => ⟨h, .inl (isFailure_failureStatus f)⟩⟩

/-- A failure sets the type and the description of the error, the latter unless the facade could
not be taken down and something was described before.  It ends an import that has not ended. -/
theorem failWith_spec (job : ImportJob) (f : Failure) :
    ∃ d, job.failWith f = { job with
        status := if job.status.isFinal then job.status else failureStatus f
        errorType := some f.errorType
        errorDescription := some d } ∧
      (d = f.errorDescription ∨
        f.errorDescription = .tableCleanupFailed ∧ job.errorDescription = some d) := by
  -- an import that has ended refuses the status of the failure, and is taken as it is
  have hended : (job.advance (failureStatus f)).toOption.getD job =
      { job with status := if job.status.isFinal then job.status else failureStatus f } := by
    cases hfinal : job.status.isFinal with
    | false => rw [advance_of_canAdvanceTo (canAdvanceTo_failureStatus.2 hfinal)]; rfl
    | true =>
      have hstuck : ¬ job.status.CanAdvanceTo (failureStatus f) := by
        simp [canAdvanceTo_failureStatus, hfinal]
      rw [advance_eq_error_iff.2 ⟨hstuck, rfl⟩]
      rfl
  unfold failWith
  rw [hended]
  refine ⟨_, rfl, ?_⟩
  split
  · next hd => exact .inr ⟨rfl, hd⟩
  · exact .inl rfl

/-- An import that has not ended is ended by a failure with its type, and with its description
unless the facade could not be taken down and something was described before. -/
theorem failWith_eq (hjob : job.status.isFinal = false) (f : Failure) :
    ∃ d, job.failWith f = { job with
        status := failureStatus f, errorType := some f.errorType,
        errorDescription := some d } ∧
      (d = f.errorDescription ∨
        f.errorDescription = .tableCleanupFailed ∧ job.errorDescription = some d) := by
  obtain ⟨d, hend, hd⟩ := failWith_spec job f
  exact ⟨d, by rw [hend, hjob]; rfl, hd⟩

theorem failWith_status (job : ImportJob) (f : Failure) :
    (job.failWith f).status = if job.status.isFinal then job.status else failureStatus f := by
  obtain ⟨d, hend, -⟩ := failWith_spec job f
  rw [hend]

/-- An import that has not ended is ended by a failure in the status that this leads to. -/
theorem status_failWith (hjob : job.status.isFinal = false) (f : Failure) :
    (job.failWith f).status = failureStatus f := by
  rw [failWith_status, hjob]
  rfl

/-- An import that has not ended is ended by a failure as one that failed. -/
theorem isFailure_failWith (hjob : job.status.isFinal = false) (f : Failure) :
    (job.failWith f).status.isFailure = true := by
  rw [status_failWith hjob]
  exact isFailure_failureStatus f

theorem failWith_spaceVersion (job : ImportJob) (f : Failure) :
    (job.failWith f).spaceVersion = job.spaceVersion := by
  obtain ⟨d, hend, -⟩ := failWith_spec job f
  rw [hend]

theorem addIndex_eq (job : ImportJob) (entry : String) :
    job.addIndex entry = { job with
      indexEntries :=
        if entry ∈ job.indexEntries then job.indexEntries else job.indexEntries ++ [entry] } := by
  unfold addIndex
  split <;> rfl

/-- Indices are listed after those that are listed already, each where it comes first. -/
theorem foldl_addIndex (entries : List String) (job : ImportJob) :
    entries.foldl addIndex job = { job with
      indexEntries :=
        job.indexEntries ++ (entries.filter (· ∉ job.indexEntries)).eraseDups } := by
  induction entries generalizing job with
  | nil => simp
  | cons e entries ih =>
    rw [List.foldl_cons, ih, addIndex_eq]
    by_cases he : e ∈ job.indexEntries
    · simp [he]
    · -- of the others, those are new that were so before and are not this one
      have hothers : entries.filter (· ∉ job.indexEntries ++ [e]) =
          (entries.filter (· ∉ job.indexEntries)).filter fun x => !x == e := by
        rw [List.filter_filter]
        refine List.filter_congr fun x _ => ?_
        by_cases hx : x = e <;> simp [hx]
      rw [if_neg he, hothers, List.filter_cons_of_pos (by simpa using he), List.eraseDups_cons,
        List.append_assoc]
      rfl

/-! ### Changes -/

/-- A change of an import: one of the operations on its record, with what it is given. -/
inductive Change where
  | advance (next : Job.Status)
  | fail (f : Failure)
  | setSpaceVersion (version : Int64)
  | addIndex (entry : String)
  | addUpload (u : Upload)

/-- The import after a change, or why the change is refused. -/
def attempt (job : ImportJob) : Change → Except ChangeError ImportJob
  | .advance next => job.advance next
  | .fail f => .ok (job.failWith f)
  | .setSpaceVersion version => job.setSpaceVersion version
  | .addIndex entry => .ok (job.addIndex entry)
  | .addUpload u => .ok (job.addUpload u)

/-- The import after a change that was attempted. -/
def change (job : ImportJob) (c : Change) : ImportJob :=
  (job.attempt c).toOption.getD job

/-- The import after changes that were attempted one after the other. -/
def changeAll (job : ImportJob) (cs : List Change) : ImportJob :=
  cs.foldl change job

/-- The upload that a change adds. -/
def Change.upload? : Change → Option Upload
  | .addUpload u => some u
  | _ => none

theorem change_of_ok {c : Change} (h : job.attempt c = .ok job') : job.change c = job' := by
  simp [change, h, Except.toOption]

theorem change_of_error {c : Change} {e : ChangeError} (h : job.attempt c = .error e) :
    job.change c = job := by
  simp [change, h, Except.toOption]

/-! ### An import gets on -/

/-- What of an import is still so later in its life. -/
structure Continues (job later : ImportJob) : Prop where
  /-- The status does not fall back in the order of declaration. -/
  forward : job.status.ordinal ≤ later.status.ordinal
  /-- An import that has ended keeps its status. -/
  ended : job.status.isFinal = true → later.status = job.status
  /-- The space version is set once. -/
  version : ∀ v, job.spaceVersion = some v → later.spaceVersion = some v
  /-- Indices are listed after the ones that are listed already. -/
  indices : job.indexEntries <+: later.indexEntries
  /-- No index is listed twice. -/
  apart : job.indexEntries.Nodup → later.indexEntries.Nodup

theorem Continues.refl (job : ImportJob) : Continues job job :=
  ⟨Nat.le_refl _, fun _ => rfl, fun _ h => h, List.prefix_refl _, fun h => h⟩

theorem Continues.trans (h : Continues job middle) (h' : Continues middle later) :
    Continues job later where
  forward := Nat.le_trans h.forward h'.forward
  ended hend := by
    have hmiddle := h.ended hend
    rw [h'.ended (hmiddle ▸ hend), hmiddle]
  version v hv := h'.version v (h.version v hv)
  indices := h.indices.trans h'.indices
  apart hjob := h'.apart (h.apart hjob)

theorem continues_advance (h : job.advance next = .ok later) : Continues job later := by
  obtain ⟨hcan, rfl⟩ := eq_of_advance h
  refine { Continues.refl job with forward := Nat.le_of_lt hcan.ordinal_lt, ended := fun hend => ?_ }
  rw [hcan.1] at hend
  cases hend

theorem continues_failWith (job : ImportJob) (f : Failure) : Continues job (job.failWith f) := by
  have hstatus := failWith_status job f
  obtain ⟨d, hend, -⟩ := failWith_spec job f
  rw [hend] at hstatus ⊢
  cases hfinal : job.status.isFinal with
  | true => exact { Continues.refl job with
      forward := by simp
      ended := fun _ => by simp }
  | false => exact { Continues.refl job with
      forward := by
        simpa [hfinal] using Nat.le_of_lt (canAdvanceTo_failureStatus.2 hfinal).ordinal_lt
      ended := fun h => by rw [hfinal] at h; cases h }

theorem continues_setSpaceVersion {v : Int64} (h : job.setSpaceVersion v = .ok later) :
    Continues job later := by
  obtain ⟨hnone, rfl⟩ := eq_of_setSpaceVersion h
  refine { Continues.refl job with version := fun w hw => ?_ }
  rw [hnone] at hw
  cases hw

theorem continues_addIndex (job : ImportJob) (entry : String) :
    Continues job (job.addIndex entry) := by
  unfold addIndex
  split
  · exact .refl job
  · next hnew => exact { Continues.refl job with
      indices := List.prefix_append _ _
      apart := fun hjob => List.concat_eq_append ▸ List.Nodup.concat hnew hjob }

/-- An import gets on with every change. -/
theorem continues_change (job : ImportJob) (c : Change) : Continues job (job.change c) := by
  cases hattempt : job.attempt c with
  | error e =>
    rw [change_of_error hattempt]
    exact .refl job
  | ok later =>
    rw [change_of_ok hattempt]
    cases c with
    | advance next => exact continues_advance hattempt
    | fail f =>
      cases hattempt
      exact continues_failWith job f
    | setSpaceVersion v => exact continues_setSpaceVersion hattempt
    | addIndex entry =>
      cases hattempt
      exact continues_addIndex job entry
    | addUpload u =>
      cases hattempt
      exact { Continues.refl job with }

/-- An import gets on with every sequence of changes. -/
theorem continues_changeAll (job : ImportJob) (cs : List Change) :
    Continues job (job.changeAll cs) := by
  induction cs generalizing job with
  | nil => exact .refl job
  | cons c cs ih => exact (continues_change job c).trans (ih (job.change c))

theorem changeAll_append (job : ImportJob) (before after : List Change) :
    job.changeAll (before ++ after) = (job.changeAll before).changeAll after :=
  List.foldl_append

/-! ### The uploads of an import -/

theorem failWith_uploads (job : ImportJob) (f : Failure) :
    (job.failWith f).uploads = job.uploads := by
  obtain ⟨d, hend, -⟩ := failWith_spec job f
  rw [hend]

/-- Only an added upload changes what is found under a key, and that is its own filename. -/
theorem find?_change (job : ImportJob) (c : Change) (key : String) :
    (job.change c).uploads.find? key =
      (c.upload?.toList.find? (·.filename = key)).or (job.uploads.find? key) := by
  cases hattempt : job.attempt c with
  | error e =>
    rw [change_of_error hattempt]
    cases c with
    | advance | setSpaceVersion => rfl
    | fail | addIndex | addUpload => cases hattempt
  | ok later =>
    rw [change_of_ok hattempt]
    cases c with
    | advance next => rw [(eq_of_advance hattempt).2]; rfl
    | fail f => cases hattempt; rw [failWith_uploads]; rfl
    | setSpaceVersion v => rw [(eq_of_setSpaceVersion hattempt).2]; rfl
    | addIndex entry => cases hattempt; rw [addIndex_eq]; rfl
    | addUpload u =>
      cases hattempt
      rw [addUpload, Dictionary.find?_insert]
      by_cases hkey : u.filename = key
      · simp [Change.upload?, hkey]
      · simp [Change.upload?, hkey, Ne.symm hkey]

/-- Under a key stands the upload of that filename which was added last, or what stood there
before. -/
theorem find?_changeAll (job : ImportJob) (cs : List Change) (key : String) :
    (job.changeAll cs).uploads.find? key =
      ((cs.filterMap Change.upload?).reverse.find? (·.filename = key)).or
        (job.uploads.find? key) := by
  induction cs generalizing job with
  | nil => rfl
  | cons c cs ih =>
    -- read from its end, the list of added uploads has the one of the first change last
    have hadded : ((c :: cs).filterMap Change.upload?).reverse =
        (cs.filterMap Change.upload?).reverse ++ c.upload?.toList := by
      cases c <;> simp [List.filterMap_cons, Change.upload?]
    rw [hadded, List.find?_append, Option.or_assoc, ← find?_change]
    exact ih (job.change c)

/-! ### The whole life -/

/-- How an import meets the changes that are attempted. -/
structure MeetsChanges (job : ImportJob) : Prop where
  /-- Refused are a status that the import may not move to and another space version. -/
  refused : ∀ c e, job.attempt c = .error e ↔
    (∃ next, c = .advance next ∧ ¬ job.status.CanAdvanceTo next ∧
      e = .illegalTransition job.status next) ∨
    ∃ v w, c = .setSpaceVersion v ∧ job.spaceVersion = some w ∧ e = .spaceVersionAlreadySet w
  /-- A change that is refused leaves the whole record as it was. -/
  kept : ∀ c e, job.attempt c = .error e → job.change c = job
  /-- A failure sets the type and the description of the error; only after a failed cleanup the
  description may be an earlier one. -/
  blamed : ∀ f, (job.change (.fail f)).errorType = some f.errorType ∧
    ∃ d, (job.change (.fail f)).errorDescription = some d ∧
      (d = f.errorDescription ∨
        f.errorDescription = .tableCleanupFailed ∧ job.errorDescription = some d)
  /-- A failure that was found before anything was changed aborts the import. -/
  aborted : ∀ f, job.status.isFinal = false →
    ((job.change (.fail f)).status = .aborted ↔ f.isPrecondition = true)
  /-- Every other failure makes it one that failed. -/
  failed : ∀ f, job.status.isFinal = false →
    ((job.change (.fail f)).status = .failed ↔ f.isPrecondition = false)

theorem attempt_eq_error_iff {c : Change} {e : ChangeError} :
    job.attempt c = .error e ↔
      (∃ next, c = .advance next ∧ ¬ job.status.CanAdvanceTo next ∧
        e = .illegalTransition job.status next) ∨
      ∃ v w, c = .setSpaceVersion v ∧ job.spaceVersion = some w ∧
        e = .spaceVersionAlreadySet w := by
  cases c with
  | advance next => simp [attempt, advance_eq_error_iff]
  | setSpaceVersion v => simp [attempt, setSpaceVersion_eq_error_iff]
  | fail | addIndex | addUpload => simp [attempt]

theorem meetsChanges (job : ImportJob) : MeetsChanges job where
  refused _ _ := attempt_eq_error_iff
  kept _ _ := change_of_error
  blamed f := by
    obtain ⟨d, hend, hd⟩ := failWith_spec job f
    rw [show job.change (.fail f) = job.failWith f from rfl, hend]
    exact ⟨rfl, d, rfl, hd⟩
  aborted f hjob := by
    rw [show job.change (.fail f) = job.failWith f from rfl, status_failWith hjob, failureStatus]
    cases f.isPrecondition <;> decide
  failed f hjob := by
    rw [show job.change (.fail f) = job.failWith f from rfl, status_failWith hjob, failureStatus]
    cases f.isPrecondition <;> decide

/-- Between any two moments of its life an import gets on, and at each it lists no index twice,
meets a change as every import does, and has under a key the upload of that filename which was added
last, or what stood there at first. -/
theorem life_of_changes (hjob : job.indexEntries.Nodup) (before after : List Change) :
    Continues (job.changeAll before) (job.changeAll (before ++ after)) ∧
      (job.changeAll before).indexEntries.Nodup ∧ MeetsChanges (job.changeAll before) ∧
      ∀ key, (job.changeAll before).uploads.find? key =
        ((before.filterMap Change.upload?).reverse.find? (·.filename = key)).or
          (job.uploads.find? key) := by
  refine ⟨?_, (continues_changeAll job before).apart hjob, meetsChanges _,
    find?_changeAll job before⟩
  rw [changeAll_append]
  exact continues_changeAll (job.changeAll before) after

/-- An import that failed while it was executed stays so, whatever is attempted. -/
theorem broken_import_stays_broken :
    let job : ImportJob := { indexEntries := ["lanes"] }
    let before : List Change :=
      [.advance .executing, .setSpaceVersion 0, .addIndex "roads", .fail (.allImportsFailed 2)]
    let after : List Change :=
      [.advance .finalized, .setSpaceVersion 7, .addIndex "lanes", .fail .uploadMissing]
    job.indexEntries.Nodup ∧ (job.changeAll before).status = .failed ∧
      (job.changeAll (before ++ after)).status = .failed ∧
      (job.changeAll (before ++ after)).spaceVersion = some 0 ∧
      ["lanes", "roads"] <+: (job.changeAll (before ++ after)).indexEntries := by
  intro job before after
  have hjob : job.indexEntries.Nodup := by decide
  obtain ⟨hcontinues, -⟩ := life_of_changes hjob before after
  exact ⟨hjob, by decide, hcontinues.ended (by decide), hcontinues.version 0 (by decide),
    hcontinues.indices⟩

end ImportJob

end BulkImport
