import BulkImport.Proofs.Import.Conclusion

/-!
# What an execution comes to

An execution takes the valid uploads in turn, in the order of their keys, and stops after the first
that loses the connection (`Turns`).  What it makes of the job is told from its turns alone
(`Concludes`): each upload becomes what its own turn made of it, and the verdict depends on whether
the connection was lost, all turns failed, some of them, or none.  Both ways the turns and the
executions belong together (`execute_turns`, `Turns.execute`), so that every succession of results
is that of some execution.
-/

namespace BulkImport.Import

open BulkImport.Job BulkImport.Sql BulkImport.Table BulkImport.Program

/-- The turn of an upload: what passed while it was loaded, and what came of it. -/
structure LoadTurn where
  upload : Upload
  history : History
  result : Except Failure String

namespace LoadTurn

/-- The connection was lost. -/
def Loses (t : LoadTurn) (m : String) : Prop := t.result = .error (.noConnection m)

/-- The upload could not be loaded, for another reason than a lost connection. -/
def Fails (t : LoadTurn) (f : Failure) : Prop := t.result = .error f ∧ ∀ m, f ≠ .noConnection m

/-- The upload was loaded, with this answer. -/
def Imports (t : LoadTurn) (answer : String) : Prop := t.result = .ok answer

end LoadTurn

namespace Importer

variable {im : Importer} {job : ImportJob} {us : List Upload} {turns : List LoadTurn} {u : Upload}
  {h : History}

/-- Uploads are loaded in turn, to the last or to the first that loses the connection. -/
inductive Turns (im : Importer) (job : ImportJob) : List Upload → List LoadTurn → Prop where
  | finished : Turns im job [] []
  | lost {u : Upload} {us : List Upload} {h : History} {m : String}
      (hload : Answered (im.load job u).run h (.error (.noConnection m))) :
      Turns im job (u :: us) [⟨u, h, .error (.noConnection m)⟩]
  | taken {u : Upload} {us : List Upload} {h : History} {r : Except Failure String}
      {turns : List LoadTurn} (hload : Answered (im.load job u).run h r)
      (hr : ∀ m, r ≠ .error (.noConnection m)) (rest : Turns im job us turns) :
      Turns im job (u :: us) (⟨u, h, r⟩ :: turns)

theorem isRetryable_iff {f : Failure} : f.isRetryable = true ↔ ∃ m, f = .noConnection m := by
  cases f <;> simp [Failure.isRetryable]

theorem isRetryable_eq_false_iff {f : Failure} :
    f.isRetryable = false ↔ ∀ m, f ≠ .noConnection m := by
  rw [← Bool.not_eq_true, isRetryable_iff, not_exists]

/-- What loading comes to when one more upload had this result before. -/
def counted (r : Except Failure String) (o : ImportJob × Except Failure Nat) :
    ImportJob × Except Failure Nat :=
  match r with
  | .ok _ => o
  | .error _ => (o.1, o.2.map (· + 1))

/-- An upload that is loaded or fails, and keeps the connection, is followed by the others. -/
theorem Loads.taken {key : String} {keys : List String} {h' : History}
    {r : Except Failure String} {o : ImportJob × Except Failure Nat}
    (hl : Loads im keys (afterLoad job key u r) h' o) (hkey : job.uploads.find? key = some u)
    (hload : Answered (im.load job u).run h r) (hr : ∀ m, r ≠ .error (.noConnection m)) :
    Loads im (key :: keys) job (h ++ h') (counted r o) := by
  cases r with
  | ok answer => exact .imported hkey hload hl
  | error f =>
    have hkept : f.isRetryable = false :=
      isRetryable_eq_false_iff.2 fun m hm => hr m (congrArg _ hm)
    exact .failed hkey hload hkept hl

/-! ### What loading makes of a job -/

/-- What became of the uploads that had a turn. -/
structure Settles (turns : List LoadTurn) (job job' : ImportJob) : Prop where
  /-- An upload that was loaded is imported, with the answer. -/
  imported : ∀ t ∈ turns, ∀ answer, t.Imports answer →
    job'.uploads.find? t.upload.filename =
      some { t.upload with status := .imported, details := some answer }
  /-- An upload that could not be loaded failed, with what is reported for that. -/
  failed : ∀ t ∈ turns, ∀ f, t.Fails f →
    job'.uploads.find? t.upload.filename =
      some { t.upload with status := .failed, details := some f.message }
  /-- Nothing happens under a key but by the turn of an upload of this name that keeps the
  connection. -/
  others : ∀ key, (∀ t ∈ turns, t.upload.filename = key → ∃ m, t.Loses m) →
    job'.uploads.find? key = job.uploads.find? key

/-- What loading comes to, told from its turns. -/
structure Loaded (turns : List LoadTurn) (job : ImportJob) (o : ImportJob × Except Failure Nat) :
    Prop where
  settles : Settles turns job o.1
  kept : o.1 = { job with uploads := o.1.uploads }
  stops : ∀ t ∈ turns, ∀ m, t.Loses m → o.2 = .error (.noConnection m)
  counts : (∀ t ∈ turns, ∀ m, ¬ t.Loses m) → o.2 = .ok (turns.countP (!·.result.isOk))

/-- An upload stays what its turn made of it, where no later turn is one of the same name. -/
theorem Settles.taken {r : Except Failure String} {job' : ImportJob}
    (hs : Settles turns (afterLoad job u.filename u r) job')
    (hnew : ∀ t ∈ turns, t.upload.filename ≠ u.filename)
    (hr : ∀ m, r ≠ .error (.noConnection m)) : Settles (⟨u, h, r⟩ :: turns) job job' := by
  have hown : job'.uploads.find? u.filename = some (loaded u r) :=
    (hs.others _ fun t ht he => absurd he (hnew t ht)).trans find?_afterLoad_self
  constructor
  · refine List.forall_mem_cons.2 ⟨fun answer himported => ?_, hs.imported⟩
    cases himported
    exact hown
  · refine List.forall_mem_cons.2 ⟨fun f hfailed => ?_, hs.failed⟩
    cases hfailed.1
    exact hown
  · intro key hkey
    obtain ⟨hfirst, hrest⟩ := List.forall_mem_cons.1 hkey
    have hne : key ≠ u.filename := fun he => by
      obtain ⟨m, hm⟩ := hfirst he.symm
      exact hr m hm
    exact (hs.others key hrest).trans (find?_afterLoad_of_ne hne)

theorem Loaded.finished (job : ImportJob) : Loaded [] job (job, .ok 0) :=
  ⟨⟨fun _ ht => absurd ht List.not_mem_nil, fun _ ht => absurd ht List.not_mem_nil,
    fun _ _ => rfl⟩, rfl, fun _ ht => absurd ht List.not_mem_nil, fun _ => rfl⟩

theorem Loaded.lost {m : String} :
    Loaded [⟨u, h, .error (.noConnection m)⟩] job (job, .error (.noConnection m)) := by
  refine ⟨⟨?_, ?_, fun _ _ => rfl⟩, rfl, ?_, fun hkept => ?_⟩
  · exact List.forall_mem_singleton.2 fun answer himported => by cases himported
  · refine List.forall_mem_singleton.2 fun f hfailed => ?_
    cases hfailed.1
    exact absurd rfl (hfailed.2 m)
  · refine List.forall_mem_singleton.2 fun m' hlost => ?_
    cases hlost
    rfl
  · exact absurd rfl (hkept _ (List.mem_singleton_self _) m)

theorem Loaded.taken {r : Except Failure String} {o : ImportJob × Except Failure Nat}
    (hl : Loaded turns (afterLoad job u.filename u r) o)
    (hnew : ∀ t ∈ turns, t.upload.filename ≠ u.filename)
    (hr : ∀ m, r ≠ .error (.noConnection m)) :
    Loaded (⟨u, h, r⟩ :: turns) job (counted r o) := by
  have hjob : (counted r o).1 = o.1 := by cases r <;> rfl
  constructor
  · rw [hjob]
    exact hl.settles.taken hnew hr
  · rw [hjob, hl.kept]
    rfl
  · refine List.forall_mem_cons.2 ⟨fun m hlost => absurd hlost (hr m), fun t ht m hlost => ?_⟩
    have := hl.stops t ht m hlost
    cases r <;> simp [counted, this, Except.map]
  · intro hkept
    have := hl.counts (List.forall_mem_cons.1 hkept).2
    cases r <;> simp [counted, this, Except.map, Except.isOk, Except.toBool]

/-! ### Turns and loads belong together -/

theorem Turns.congr {job' : ImportJob} (ht : Turns im job us turns) (hsame : SameTarget job job')
    (hformat : job'.csvFormat = job.csvFormat) : Turns im job' us turns := by
  induction ht with
  | finished => exact .finished
  | lost hload => exact .lost (load_congr hsame hformat _ ▸ hload)
  | taken hload hr _ ih => exact .taken (load_congr hsame hformat _ ▸ hload) hr ih

theorem Turns.afterLoad (hts : Turns im job us turns) (u : Upload) (r : Except Failure String) :
    Turns im (afterLoad job u.filename u r) us turns :=
  hts.congr ⟨rfl, rfl, rfl⟩ rfl

theorem Turns.mem {t : LoadTurn} (hts : Turns im job us turns) (ht : t ∈ turns) :
    t.upload ∈ us := by
  induction hts with
  | finished => cases ht
  | lost => rw [List.mem_singleton.1 ht]; exact List.mem_cons_self
  | taken _ _ _ ih =>
    rcases List.mem_cons.1 ht with rfl | ht
    · exact List.mem_cons_self
    · exact List.mem_cons_of_mem _ (ih ht)

/-- Uploads that are filed under their names, each under its own. -/
structure Filed (job : ImportJob) (us : List Upload) : Prop where
  found : ∀ u ∈ us, job.uploads.find? u.filename = some u
  apart : (us.map (·.filename)).Nodup

theorem Filed.afterLoad {r : Except Failure String} (hf : Filed job (u :: us)) :
    Filed (afterLoad job u.filename u r) us := by
  obtain ⟨hnew, hrest⟩ := List.nodup_cons.1 hf.apart
  refine ⟨fun v hv => ?_, hrest⟩
  rw [find?_afterLoad_of_ne fun he => hnew (List.mem_map.2 ⟨v, hv, he⟩)]
  exact hf.found v (List.mem_cons_of_mem _ hv)

theorem Filed.name_ne (hf : Filed job (u :: us)) (hts : Turns im job us turns) :
    ∀ t ∈ turns, t.upload.filename ≠ u.filename :=
  fun _ ht he => (List.nodup_cons.1 hf.apart).1 (List.mem_map.2 ⟨_, hts.mem ht, he⟩)

/-- Loads go by turns. -/
theorem Loads.byTurns {o : ImportJob × Except Failure Nat} (hf : Filed job us)
    (hl : Loads im (us.map (·.filename)) job h o) :
    ∃ turns, Turns im job us turns ∧ h = turns.flatMap (·.history) ∧ Loaded turns job o := by
  -- the job is general, as each load leaves another one to those that follow
  induction us generalizing job h o with
  | nil =>
    cases hl
    exact ⟨[], .finished, rfl, .finished job⟩
  | cons u us ih =>
    have hfirst := hf.found u List.mem_cons_self
    have htaken : ∀ {h₁ h₂ : History} {r : Except Failure String}
        {o' : ImportJob × Except Failure Nat}, Answered (im.load job u).run h₁ r →
        (∀ m, r ≠ .error (.noConnection m)) →
        Loads im (us.map (·.filename)) (afterLoad job u.filename u r) h₂ o' →
        ∃ turns, Turns im job (u :: us) turns ∧ h₁ ++ h₂ = turns.flatMap (·.history) ∧
          Loaded turns job (counted r o') := by
      intro h₁ h₂ r o' hload hr hrest
      obtain ⟨turns, hts, rfl, hl⟩ := ih hf.afterLoad hrest
      have hts : Turns im job us turns := hts.congr ⟨rfl, rfl, rfl⟩ rfl
      exact ⟨_, .taken hload hr hts, by simp, hl.taken (hf.name_ne hts) hr⟩
    cases hl with
    | absent hkey => cases hfirst.symm.trans hkey
    | disconnected hkey hload hlost =>
      cases hfirst.symm.trans hkey
      obtain ⟨m, rfl⟩ := isRetryable_iff.1 hlost
      exact ⟨_, .lost hload, by simp, .lost⟩
    | failed hkey hload hkept hrest =>
      cases hfirst.symm.trans hkey
      refine htaken hload (fun m hm => ?_) hrest
      exact isRetryable_eq_false_iff.1 hkept m (Except.error.inj hm)
    | imported hkey hload hrest =>
      cases hfirst.symm.trans hkey
      exact htaken hload (fun m hm => by cases hm) hrest

/-- What turns make up is how loads can go. -/
theorem Turns.loads (hts : Turns im job us turns) (hf : Filed job us) :
    ∃ o, Loads im (us.map (·.filename)) job (turns.flatMap (·.history)) o ∧
      Loaded turns job o := by
  induction us generalizing job turns with
  | nil =>
    cases hts
    exact ⟨_, .finished job, .finished job⟩
  | cons u us ih =>
    have hfirst := hf.found u List.mem_cons_self
    cases hts with
    | lost hload =>
      refine ⟨_, ?_, .lost⟩
      simpa using Loads.disconnected hfirst hload rfl
    | @taken _ _ h₁ r turns hload hr hts =>
      obtain ⟨o, hrest, hl⟩ := ih (hts.afterLoad u r) hf.afterLoad
      exact ⟨_, hrest.taken hfirst hload hr, hl.taken (hf.name_ne hts) hr⟩

/-! ### Executions -/

theorem filed_validUploads (hkeyed : WellKeyed job) : Filed job job.validUploads := by
  refine ⟨fun u hu => ?_, nodup_names hkeyed⟩
  obtain ⟨⟨key, hkey⟩, -⟩ := mem_validUploads.1 hu
  rwa [hkeyed key u hkey]

/-- What an execution comes to, told from its turns. -/
structure Concludes (turns : List LoadTurn) (job : ImportJob) (o : Outcome) : Prop where
  settles : Settles turns job o.1
  /-- Nothing but the uploads and the description of an error changes. -/
  kept : o.1 = { job with uploads := o.1.uploads, errorDescription := o.1.errorDescription }
  /-- A lost connection is what it comes to. -/
  lost : ∀ t ∈ turns, ∀ m, t.Loses m →
    o.2 = .error (.noConnection m) ∧ o.1.errorDescription = job.errorDescription
  /-- It fails when there are valid uploads and none of them could be loaded. -/
  allFailed : turns ≠ [] → (∀ t ∈ turns, ∃ f, t.Fails f) →
    o.2 = .error (.allImportsFailed job.validUploads.length) ∧
      o.1.errorDescription = job.errorDescription
  /-- It only says so when some of them could not be loaded. -/
  someFailed : (∀ t ∈ turns, ∀ m, ¬ t.Loses m) → (∃ t ∈ turns, ∃ f, t.Fails f) →
    (∃ t ∈ turns, ∃ answer, t.Imports answer) →
      o.2 = .ok () ∧ o.1.errorDescription = some .importsPartiallyFailed
  noneFailed : (∀ t ∈ turns, ∃ answer, t.Imports answer) →
    o.2 = .ok () ∧ o.1.errorDescription = job.errorDescription

/-- What an execution makes of what its loads come to. -/
def verdict (total : Nat) (o : ImportJob × Except Failure Nat) : Outcome :=
  match o.2 with
  | .error f => (o.1, .error f)
  | .ok n => loadVerdict o.1 total n

theorem eq_verdict_iff {job' : ImportJob} {failures : Except Failure Nat} {total : Nat}
    {o : Outcome} :
    ((∃ f, failures = .error f ∧ o = (job', .error f)) ∨
        ∃ n, failures = .ok n ∧ o = loadVerdict job' total n) ↔
      o = verdict total (job', failures) := by
  cases failures <;> simp [verdict]

/-- A verdict changes nothing but the description of an error. -/
theorem verdict_kept (total : Nat) (o : ImportJob × Except Failure Nat) :
    ∃ d, (verdict total o).1 = { o.1 with errorDescription := d } := by
  unfold verdict loadVerdict
  split
  · exact ⟨_, rfl⟩
  · split
    · exact ⟨_, rfl⟩
    · split <;> exact ⟨_, rfl⟩

theorem Turns.length (hts : Turns im job us turns) (hkept : ∀ t ∈ turns, ∀ m, ¬ t.Loses m) :
    turns.length = us.length := by
  induction hts with
  | finished => rfl
  | lost => exact absurd rfl (hkept _ (List.mem_singleton_self _) _)
  | taken _ _ _ ih => simp [ih (List.forall_mem_cons.1 hkept).2]

theorem not_loses_of_fails {t : LoadTurn} {f : Failure} (hf : t.Fails f) (m : String) :
    ¬ t.Loses m :=
  fun hm => hf.2 m (Except.error.inj (hf.1.symm.trans hm))

theorem not_loses_of_imports {t : LoadTurn} {answer : String} (ha : t.Imports answer)
    (m : String) : ¬ t.Loses m :=
  fun hm => by cases ha.symm.trans hm

theorem isOk_of_imports {t : LoadTurn} {answer : String} (ha : t.Imports answer) :
    t.result.isOk = true := by
  rw [LoadTurn.Imports] at ha
  rw [ha]
  rfl

theorem isOk_of_fails {t : LoadTurn} {f : Failure} (hf : t.Fails f) : t.result.isOk = false := by
  rw [hf.1]
  rfl

theorem countP_failures_of_fail (hall : ∀ t ∈ turns, ∃ f, t.Fails f) :
    turns.countP (!·.result.isOk) = turns.length :=
  List.countP_eq_length.2 fun t ht => by
    obtain ⟨f, hf⟩ := hall t ht
    simp [isOk_of_fails hf]

theorem countP_failures_of_import (hall : ∀ t ∈ turns, ∃ answer, t.Imports answer) :
    turns.countP (!·.result.isOk) = 0 :=
  List.countP_eq_zero.2 fun t ht => by
    obtain ⟨answer, ha⟩ := hall t ht
    simp [isOk_of_imports ha]

/-- Where some fail and some do not, the failures are counted between none and all. -/
theorem countP_failures_between {t t' : LoadTurn} {f : Failure} {answer : String}
    (ht : t ∈ turns) (hf : t.Fails f) (ht' : t' ∈ turns) (ha : t'.Imports answer) :
    0 < turns.countP (!·.result.isOk) ∧ turns.countP (!·.result.isOk) ≠ turns.length := by
  refine ⟨List.countP_pos_iff.2 ⟨t, ht, by simp [isOk_of_fails hf]⟩, fun hall => ?_⟩
  have hfailed := List.countP_eq_length.1 hall t' ht'
  simp [isOk_of_imports ha] at hfailed

/-- From the turns of all valid uploads follows what an execution comes to. -/
theorem Loaded.concludes {o : ImportJob × Except Failure Nat}
    (hts : Turns im job job.validUploads turns) (hl : Loaded turns job o) :
    Concludes turns job (verdict job.validUploads.length o) := by
  obtain ⟨job', result⟩ := o
  obtain ⟨hsettles, hkept, hstops, hcounts⟩ := hl
  dsimp only at hsettles hkept hstops hcounts
  have hdescription : job'.errorDescription = job.errorDescription := by rw [hkept]
  obtain ⟨d, hd⟩ := verdict_kept job.validUploads.length (job', result)
  -- where no connection is lost the failures are counted among the turns of all valid uploads
  have hcounted : (∀ t ∈ turns, ∀ m, ¬ t.Loses m) →
      verdict job.validUploads.length (job', result) =
        loadVerdict job' turns.length (turns.countP (!·.result.isOk)) := by
    intro hall
    rw [verdict, hcounts hall, hts.length hall]
  constructor
  · rw [hd]
    exact ⟨hsettles.imported, hsettles.failed, hsettles.others⟩
  · rw [hd]
    dsimp only
    rw [hkept]
  · intro t ht m hlost
    obtain rfl : result = _ := hstops t ht m hlost
    exact ⟨rfl, hdescription⟩
  · intro hsome hall
    have hnone : ∀ t ∈ turns, ∀ m, ¬ t.Loses m := fun t ht => by
      obtain ⟨f, hf⟩ := hall t ht
      exact not_loses_of_fails hf
    rw [hcounted hnone, countP_failures_of_fail hall, loadVerdict,
      if_pos ⟨List.length_pos_iff.2 hsome, rfl⟩, ← hts.length hnone]
    exact ⟨rfl, hdescription⟩
  · rintro hnone ⟨t, ht, f, hf⟩ ⟨t', ht', answer, ha⟩
    obtain ⟨hpos, hne⟩ := countP_failures_between ht hf ht' ha
    rw [hcounted hnone, loadVerdict, if_neg fun hall => hne hall.2, if_pos hpos]
    exact ⟨rfl, rfl⟩
  · intro hall
    have hnone : ∀ t ∈ turns, ∀ m, ¬ t.Loses m := fun t ht => by
      obtain ⟨answer, ha⟩ := hall t ht
      exact not_loses_of_imports ha
    rw [hcounted hnone, countP_failures_of_import hall, loadVerdict]
    exact ⟨rfl, hdescription⟩

theorem execute_turns {o : Outcome} (hkeyed : WellKeyed job)
    (hp : Answered (im.execute job) h o) :
    ∃ turns, Turns im job job.validUploads turns ∧ h = turns.flatMap (·.history) ∧
      Concludes turns job o := by
  obtain ⟨job', failures, hloads, hverdict⟩ := answered_execute.1 hp
  rw [List.length_map] at hverdict
  obtain rfl := eq_verdict_iff.1 hverdict
  obtain ⟨turns, hts, hh, hl⟩ := hloads.byTurns (filed_validUploads hkeyed)
  exact ⟨turns, hts, hh, hl.concludes hts⟩

theorem Turns.execute (hkeyed : WellKeyed job) (hts : Turns im job job.validUploads turns) :
    ∃ o, Answered (im.execute job) (turns.flatMap (·.history)) o ∧ Concludes turns job o := by
  obtain ⟨⟨job', failures⟩, hloads, hl⟩ := hts.loads (filed_validUploads hkeyed)
  refine ⟨_, answered_execute.2 ⟨job', failures, hloads, eq_verdict_iff.2 rfl⟩, ?_⟩
  rw [List.length_map]
  exact hl.concludes hts

/-- Every call is carried out, and every query for texts gets this answer. -/
def answering (texts : Except Database.Error (List String)) : (q : Question) → Answer q
  | .fetchTexts _ _ => texts
  | q => oblige q

/-- A load that can be sent can be answered in every way. -/
theorem load_answered {call : Call} (hcall : im.loadCall? job (.ofUpload u) = some call)
    (answer : Except Database.Error (List String)) :
    Answered (im.load job u).run (loadHistory call answer) (loadResult call answer) := by
  have hp := answered_carryOut (answering answer) (im.load job u).run
  rcases load_told hp with ⟨-, -, ⟨c, e, he⟩ | hnone⟩ | ⟨call', answer', hcall', hh, hr⟩
  · cases answer_of_mem_carryOut he
  · rw [hcall] at hnone
    cases hnone
  · obtain rfl : call' = call := Option.some.inj (hcall'.symm.trans hcall)
    have hsent : ⟨.fetchTexts call'.connector call'.statement, answer'⟩ ∈
        ((im.load job u).run.carryOut (answering answer)).1 := by
      rw [hh]
      simp [loadHistory]
    obtain rfl : answer' = answer := answer_of_mem_carryOut hsent
    rw [hh, hr] at hp
    exact hp

/-- Where every upload is filed under its own name, an execution takes the valid uploads in turn, in
the order of their names, to the last or to the first that loses the connection, and what it comes
to is told from the turns; and whatever turns can be taken are those of an execution.  A turn sends
one load and has what it was answered for a result, or fails before; and a load that can be sent can
be answered in every way. -/
theorem execution_by_turns (im : Importer) (hkeyed : WellKeyed job) :
    (names job).Pairwise (· < ·) ∧
      (∀ h o, Answered (im.execute job) h o →
        ∃ turns, Turns im job job.validUploads turns ∧ h = turns.flatMap (·.history) ∧
          Concludes turns job o) ∧
      (∀ turns, Turns im job job.validUploads turns →
        ∃ o, Answered (im.execute job) (turns.flatMap (·.history)) o ∧ Concludes turns job o) ∧
      (∀ u h r, Answered (im.load job u).run h r →
        sent h = [] ∧ (∃ f, r = .error f) ∨
          ∃ call answer, im.loadCall? job (.ofUpload u) = some call ∧ h = loadHistory call answer ∧
            r = loadResult call answer) ∧
      ∀ u call answer, im.loadCall? job (.ofUpload u) = some call →
        Answered (im.load job u).run (loadHistory call answer) (loadResult call answer) := by
  refine ⟨ordered_names hkeyed, fun h o => execute_turns hkeyed, fun turns => Turns.execute hkeyed,
    fun u h r hp => ?_, fun u call answer hcall => load_answered hcall answer⟩
  exact (load_told hp).imp_left fun hfailed => ⟨hfailed.1.sent, hfailed.2.1⟩

/-- What passes while the roads are loaded, and what comes of it, where the connection is lost. -/
def roadsLost : History × Outcome :=
  (tableImporter.execute roadsJob).carryOut (answering (.error (.noConnection "gone")))

/-- The one file of the roads has a turn, which loses the connection. -/
theorem roads_lost_in_turn :
    WellKeyed roadsJob ∧
      ∃ turns, Turns tableImporter roadsJob roadsJob.validUploads turns ∧
        roadsLost.1 = turns.flatMap (·.history) ∧ Concludes turns roadsJob roadsLost.2 := by
  have hp : Answered (tableImporter.execute roadsJob) roadsLost.1 roadsLost.2 :=
    answered_carryOut (answering (.error (.noConnection "gone"))) (tableImporter.execute roadsJob)
  exact ⟨roadsJob_wellKeyed, (execution_by_turns tableImporter roadsJob_wellKeyed).2.1 _ _ hp⟩

end Importer

end BulkImport.Import
