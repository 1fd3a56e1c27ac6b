import BulkImport.Proofs.Import.Preparation

/-!
# What an execution does

The uploads are loaded key by key until the connection is lost (`Loads`, `answered_execute`).  An
execution sends nothing but loads, leaves the job where it was, and none of its failures counts as
found before the table was changed (`execute_calls`).
-/

namespace BulkImport.Import

open BulkImport.Job BulkImport.Sql BulkImport.Table BulkImport.Program

namespace Importer

variable {im : Importer}

/-- The relation that uploads are loaded into: the view where there is one. -/
def loadInto (im : Importer) (table : Identifier) : Except BuildError (Identifier × LoadTarget) :=
  if im.settings.useViewFacade then
    (Identifier.build (viewName table)).map fun view => (view, .view)
  else .ok (table, .table)

/-- A load finds its target, then the relation that it goes into, and then sends its statement. -/
theorem load_eq (im : Importer) (job : ImportJob) (u : Upload) :
    im.load job u = (do
      let (connector, table) ← target .execution job
      let (relation, into) ← Attempt.build .execution (im.loadInto table)
      Attempt.database .execution
        (bulkLoad connector im.settings.schema relation job.csvFormat into (.ofUpload u))) := by
  unfold load loadInto
  refine bind_congr fun (connector, table) => ?_
  dsimp only
  split
  · rw [build_map, bind_map_left]
  · rw [build_ok_bind]

/-- A load is sent, or fails before; where the job names what is needed for it, it fails with the
connector only. -/
theorem load_cases {job : ImportJob} {u : Upload} {h : History} {r : Except Failure String}
    (hp : Answered (im.load job u).run h r) :
    (∃ f, r = .error f ∧ Sends h [] ∧
        ∀ c t into, job.targetConnector = some c → job.targetTable = some t.text →
          im.loadInto t = .ok into → ∃ e, ⟨.connect c, .error e⟩ ∈ h) ∨
      ∃ c t relation into s a, job.targetConnector = some c ∧ job.targetTable = some t.text ∧
        im.loadInto t = .ok (relation, into) ∧
        loadStatement im.settings.schema relation job.csvFormat into (.ofUpload u) = .ok s ∧
        h = [⟨.connect c, .ok ()⟩, ⟨.fetchTexts c s, a⟩] ∧
        r = (a.bind (Database.firstText s.text)).mapError (.ofDatabase .execution) := by
  rw [load_eq] at hp
  rcases answered_attempt.1 hp with ⟨f, htarget, rfl⟩ | ⟨h₁, h₂, ⟨c, t⟩, rfl, htarget, hrest⟩
  · -- the job names its target here, so that only the connector can be missing
    refine .inl ⟨f, rfl, sends_target htarget, fun c t into hc ht _ => ?_⟩
    rcases target_lost ht htarget with ⟨hnone, -⟩ | ⟨c', e, hc', rfl⟩
    · rw [hc] at hnone
      cases hnone
    · rw [hc] at hc'
      cases hc'
      exact ⟨e, List.mem_singleton_self _⟩
  rcases target_cases htarget with ⟨f, hr, -⟩ | ⟨c', t', hr, hc, ht, rfl⟩
  · cases hr
  cases hr
  rcases answered_attempt.1 hrest with
    ⟨f, hinto, rfl⟩ | ⟨h₃, h₄, ⟨relation, into⟩, rfl, hinto, hload⟩
  · obtain ⟨rfl, e, hfailed, rfl⟩ := answered_build_error.1 hinto
    refine .inl ⟨_, rfl, ⟨rfl, rfl⟩, fun c₂ t₂ into _ ht₂ hfound => ?_⟩
    obtain rfl := eq_of_hasTable ht ht₂
    rw [hfound] at hfailed
    cases hfailed
  · obtain ⟨rfl, hmade⟩ := answered_build_ok.1 hinto
    obtain ⟨a, hbulk, rfl⟩ := answered_database.1 hload
    obtain ⟨s, a', hs, rfl, rfl⟩ := bulkLoad_cases hbulk
    exact .inr ⟨c, t, relation, into, s, a', hc, ht, hmade, hs, rfl, rfl⟩

theorem load_calls {job : ImportJob} {u : Upload} {h : History} {r : Except Failure String}
    (hp : Answered (im.load job u).run h r) : ∃ calls, Sends h calls ∧ Does [.load] calls := by
  rcases load_cases hp with ⟨f, -, hs, -⟩ | ⟨c, t, relation, into, s, a, -, -, -, hs, rfl, -⟩
  · exact ⟨[], hs, does_nil _⟩
  · exact ⟨[⟨c, s⟩], ⟨rfl, rfl⟩, does_singleton (List.mem_singleton_self _) (verb_load hs)⟩

/-- The job after an upload under a key was loaded or not. -/
def afterLoad (job : ImportJob) (key : String) (u : Upload) (r : Except Failure String) :
    ImportJob :=
  { job with uploads := job.uploads.insert key (loaded u r) }

theorem find?_afterLoad_self {job : ImportJob} {key : String} {u : Upload}
    {r : Except Failure String} : (afterLoad job key u r).uploads.find? key = some (loaded u r) := by
  rw [afterLoad, Dictionary.find?_insert, if_pos rfl]

theorem find?_afterLoad_of_ne {job : ImportJob} {key k : String} {u : Upload}
    {r : Except Failure String} (hne : k ≠ key) :
    (afterLoad job key u r).uploads.find? k = job.uploads.find? k := by
  rw [afterLoad, Dictionary.find?_insert, if_neg hne]

/-- How the loads of the uploads under some keys go: key by key, until the connection is lost. -/
inductive Loads (im : Importer) :
    List String → ImportJob → History → ImportJob × Except Failure Nat → Prop where
  | finished (job : ImportJob) : Loads im [] job [] (job, .ok 0)
  | absent {key : String} {keys : List String} {job : ImportJob} {h : History}
      {o : ImportJob × Except Failure Nat} (hkey : job.uploads.find? key = none)
      (rest : Loads im keys job h o) : Loads im (key :: keys) job h o
  | disconnected {key : String} {keys : List String} {job : ImportJob} {u : Upload} {h : History}
      {f : Failure} (hkey : job.uploads.find? key = some u)
      (hload : Answered (im.load job u).run h (.error f)) (hf : f.isRetryable = true) :
      Loads im (key :: keys) job h (job, .error f)
  | failed {key : String} {keys : List String} {job : ImportJob} {u : Upload} {h h' : History}
      {f : Failure} {o : ImportJob × Except Failure Nat}
      (hkey : job.uploads.find? key = some u)
      (hload : Answered (im.load job u).run h (.error f)) (hf : f.isRetryable = false)
      (rest : Loads im keys (afterLoad job key u (.error f)) h' o) :
      Loads im (key :: keys) job (h ++ h') (o.1, o.2.map (· + 1))
  | imported {key : String} {keys : List String} {job : ImportJob} {u : Upload} {h h' : History}
      {answer : String} {o : ImportJob × Except Failure Nat}
      (hkey : job.uploads.find? key = some u)
      (hload : Answered (im.load job u).run h (.ok answer))
      (rest : Loads im keys (afterLoad job key u (.ok answer)) h' o) :
      Loads im (key :: keys) job (h ++ h') o

theorem loadAll_cases {keys : List String} {job : ImportJob} {h : History}
    {o : ImportJob × Except Failure Nat} (hp : Answered (im.loadAll keys job) h o) :
    Loads im keys job h o := by
  induction keys generalizing job h o with
  | nil =>
    obtain ⟨rfl, rfl⟩ := answered_pure.1 hp
    exact .finished job
  | cons key keys ih =>
    unfold loadAll at hp
    cases hkey : job.uploads.find? key with
    | none =>
      rw [hkey] at hp
      exact .absent hkey (ih hp)
    | some u =>
      rw [hkey] at hp
      obtain ⟨h₁, h₂, result, rfl, hload, hrest⟩ := answered_andThen.1 hp
      cases result with
      | ok answer => exact .imported hkey hload (ih hrest)
      | error f =>
        dsimp only at hrest
        split at hrest
        · next hf =>
          obtain ⟨rfl, rfl⟩ := answered_pure.1 hrest
          rw [List.append_nil]
          exact .disconnected hkey hload hf
        · next hf =>
          obtain ⟨h₃, h₄, o', rfl, hkeys, hend⟩ := answered_andThen.1 hrest
          obtain ⟨rfl, rfl⟩ := answered_pure.1 hend
          rw [List.append_nil]
          exact .failed hkey hload (by simpa using hf) (ih hkeys)

/-- So loads can go in every one of these ways. -/
theorem Loads.answered {keys : List String} {job : ImportJob} {h : History}
    {o : ImportJob × Except Failure Nat} (hl : Loads im keys job h o) :
    Answered (im.loadAll keys job) h o := by
  induction hl with
  | finished job => exact answered_pure.2 ⟨rfl, rfl⟩
  | absent hkey _ ih =>
    rw [loadAll, hkey]
    exact ih
  | @disconnected key keys job u h f hkey hload hf =>
    rw [loadAll, hkey]
    refine answered_andThen.2 ⟨h, [], _, (List.append_nil h).symm, hload, ?_⟩
    dsimp only
    rw [if_pos hf]
    exact answered_pure.2 ⟨rfl, rfl⟩
  | @failed key keys job u h h' f o hkey hload hf _ ih =>
    rw [loadAll, hkey]
    refine answered_andThen.2 ⟨h, h', _, rfl, hload, ?_⟩
    dsimp only
    rw [if_neg (by simp [hf])]
    exact answered_andThen.2 ⟨h', [], o, (List.append_nil h').symm, ih, answered_pure.2 ⟨rfl, rfl⟩⟩
  | @imported key keys job u h h' answer o hkey hload _ ih =>
    rw [loadAll, hkey]
    exact answered_andThen.2 ⟨h, h', _, rfl, hload, ih⟩

/-- Loading changes nothing but the uploads, and breaks off only on a lost connection. -/
theorem Loads.calls {keys : List String} {job : ImportJob} {h : History}
    {o : ImportJob × Except Failure Nat} (hl : Loads im keys job h o) :
    (∃ calls, Sends h calls ∧ Does [.load] calls) ∧
      (∃ uploads, o.1 = { job with uploads := uploads }) ∧
      ∀ f, o.2 = .error f → f.isRetryable = true := by
  induction hl with
  | finished job =>
    exact ⟨⟨[], ⟨rfl, rfl⟩, does_nil _⟩, ⟨job.uploads, rfl⟩, fun f hf => by cases hf⟩
  | absent _ _ ih => exact ih
  | @disconnected key keys job u h f _ hload hf =>
    refine ⟨load_calls hload, ⟨job.uploads, rfl⟩, fun f' hf' => ?_⟩
    cases hf'
    exact hf
  | @failed key keys job u h h' f o _ hload _ _ ih =>
    obtain ⟨⟨calls', hs', hd'⟩, ⟨uploads, ho⟩, hfail⟩ := ih
    obtain ⟨calls, hs, hd⟩ := load_calls hload
    refine ⟨⟨_, hs.append hs', hd.append hd'⟩, ⟨uploads, ho⟩, fun f' hf' => ?_⟩
    cases hr : o.2 with
    | ok n =>
      rw [hr] at hf'
      cases hf'
    | error f =>
      rw [hr] at hf'
      cases hf'
      exact hfail _ hr
  | imported _ hload _ ih =>
    obtain ⟨⟨calls', hs', hd'⟩, ⟨uploads, ho⟩, hfail⟩ := ih
    obtain ⟨calls, hs, hd⟩ := load_calls hload
    exact ⟨⟨_, hs.append hs', hd.append hd'⟩, ⟨uploads, ho⟩, hfail⟩

/-- An execution loads under the filenames of the valid uploads, and what comes of it is told from
the number of failures. -/
theorem answered_execute {job : ImportJob} {h : History} {o : Outcome} :
    Answered (im.execute job) h o ↔
      ∃ job' failures,
        Loads im (job.validUploads.map (·.filename)) job h (job', failures) ∧
          ((∃ f, failures = .error f ∧ o = (job', .error f)) ∨
            ∃ n, failures = .ok n ∧
              o = loadVerdict job' (job.validUploads.map (·.filename)).length n) := by
  unfold execute
  rw [answered_andThen]
  constructor
  · rintro ⟨h₁, h₂, ⟨job', failures⟩, rfl, hload, hend⟩
    cases failures with
    | error f =>
      obtain ⟨rfl, rfl⟩ := answered_pure.1 hend
      rw [List.append_nil]
      exact ⟨job', _, loadAll_cases hload, .inl ⟨f, rfl, rfl⟩⟩
    | ok n =>
      obtain ⟨rfl, rfl⟩ := answered_pure.1 hend
      rw [List.append_nil]
      exact ⟨job', _, loadAll_cases hload, .inr ⟨n, rfl, rfl⟩⟩
  · rintro ⟨job', failures, hl, ⟨f, rfl, rfl⟩ | ⟨n, rfl, rfl⟩⟩ <;>
      exact ⟨h, [], _, (List.append_nil h).symm, hl.answered, answered_pure.2 ⟨rfl, rfl⟩⟩

/-- An execution loads, and leaves the job where it was and with the version it had. -/
theorem execute_calls {job : ImportJob} {h : History} {o : Outcome}
    (hp : Answered (im.execute job) h o) :
    (∃ calls, Sends h calls ∧ Does [.load] calls) ∧ Kept job o.1 ∧
      o.1.spaceVersion = job.spaceVersion ∧ ∀ f, o.2 = .error f → f.isPrecondition = false := by
  obtain ⟨job', failures, hl, ho⟩ := answered_execute.1 hp
  obtain ⟨hcalls, ⟨uploads, rfl⟩, hretry⟩ := hl.calls
  rcases ho with ⟨f, rfl, rfl⟩ | ⟨n, -, rfl⟩
  · refine ⟨hcalls, .refl _, rfl, fun f' hf' => ?_⟩
    cases hf'
    have := hretry f rfl
    cases f <;> first | rfl | cases this
  · unfold loadVerdict
    split
    · refine ⟨hcalls, .refl _, rfl, fun f' hf' => ?_⟩
      cases hf'
      rfl
    · split
      · exact ⟨hcalls, rfl, rfl, fun f' hf' => by cases hf'⟩
      · exact ⟨hcalls, rfl, rfl, fun f' hf' => by cases hf'⟩

end Importer

end BulkImport.Import
