import BulkImport.Proofs.Import.Coverage
import BulkImport.Proofs.Import.Groundwork
import BulkImport.Proofs.Import.Rebuilding

/-!
# What a finalized record says

Each phase that is passed writes its own part of the record: the execution what became of every
valid upload (`Loads.told`, `Passage.executed`), the finalization which indices are there
(`Passage.finalized`).  A record that is finalized has the parts of all four of them, and no part is
lost to a later one (`finalized_truthful`).
-/

namespace BulkImport.Import

open BulkImport.Job BulkImport.Sql BulkImport.Table BulkImport.Program

namespace Importer

variable {im : Importer} {job job' result : ImportJob} {h : History} {c : String} {t : Identifier}

/-! ### What becomes of each upload -/

/-- Every upload under one of these keys became what its own load made of it. -/
def Became (im : Importer) (keys : List String) (job job' : ImportJob) (h : History) : Prop :=
  ∀ key ∈ keys, ∀ u, job.uploads.find? key = some u →
    ∃ h' r, h' <:+: h ∧ Answered (im.load job u).run h' r ∧
      job'.uploads.find? key = some (loaded u r)

/-- One more upload, that nothing happens to after its load. -/
theorem Became.cons {first : String} {keys : List String} {u : Upload}
    {r : Except Failure String} {h' : History} (hfirst : job.uploads.find? first = some u)
    (hload : Answered (im.load job u).run h r) (hnew : first ∉ keys)
    (hlast : job'.uploads.find? first = some (loaded u r))
    (hb : Became im keys (afterLoad job first u r) job' h') :
    Became im (first :: keys) job job' (h ++ h') := by
  intro key hkey v hv
  rcases List.mem_cons.1 hkey with rfl | hkey
  · obtain rfl : u = v := Option.some.inj (hfirst.symm.trans hv)
    exact ⟨h, r, ⟨[], h', by simp⟩, hload, hlast⟩
  · have hother : (afterLoad job first u r).uploads.find? key = some v :=
      (find?_afterLoad_of_ne (ne_of_mem_of_not_mem hkey hnew)).trans hv
    obtain ⟨h'', r', hin, hload', hv'⟩ := hb key hkey v hother
    exact ⟨h'', r', hin.trans ⟨h, [], by simp⟩, hload', hv'⟩

/-- An upload under a key that does not come again stays what its load made of it. -/
theorem Loads.find?_first {first : String} {keys : List String} {u : Upload}
    {r : Except Failure String} {o : ImportJob × Except Failure Nat}
    (hl : Loads im keys (afterLoad job first u r) h o) (hnew : first ∉ keys) :
    o.1.uploads.find? first = some (loaded u r) := by
  rw [hl.untouched hnew, find?_afterLoad_self]

/-- Where no key comes twice, every upload becomes what its own load makes of it, and the failures
are counted. -/
theorem Loads.became {keys : List String} {o : ImportJob × Except Failure Nat}
    (hl : Loads im keys job h o) {n : Nat} (hok : o.2 = .ok n) (hnodup : keys.Nodup) :
    Became im keys job o.1 h ∧
      (0 < n ↔ ∃ key ∈ keys, ∃ u, o.1.uploads.find? key = some u ∧ u.status = .failed) := by
  induction hl generalizing n with
  | finished =>
    cases hok
    exact ⟨fun key hkey => absurd hkey List.not_mem_nil, by simp⟩
  | @absent first keys job h o hnone hrest ih =>
    obtain ⟨hnew, hnodup⟩ := List.nodup_cons.1 hnodup
    obtain ⟨hbecame, hcount⟩ := ih hok hnodup
    constructor
    · intro key hkey u hu
      rcases List.mem_cons.1 hkey with rfl | hkey
      · rw [hnone] at hu
        cases hu
      · exact hbecame key hkey u hu
    · have hlast : o.1.uploads.find? first = none := (hrest.untouched hnew).trans hnone
      simpa [hlast] using hcount
  | disconnected => cases hok
  | failed hfirst hload _ hrest ih =>
    obtain ⟨m, hm, rfl⟩ := eq_of_map_succ hok
    obtain ⟨hnew, hnodup⟩ := List.nodup_cons.1 hnodup
    have hlast := hrest.find?_first hnew
    refine ⟨.cons hfirst hload hnew hlast (ih hm hnodup).1, ?_⟩
    simp [hlast, loaded]
  | imported hfirst hload hrest ih =>
    obtain ⟨hnew, hnodup⟩ := List.nodup_cons.1 hnodup
    obtain ⟨hbecame, hcount⟩ := ih hok hnodup
    have hlast := hrest.find?_first hnew
    refine ⟨.cons hfirst hload hnew hlast hbecame, ?_⟩
    simpa [hlast, loaded] using hcount

theorem valid_loaded (u : Upload) (r : Except Failure String) : (loaded u r).valid = u.valid := by
  cases r <;> rfl

/-- A valid upload that could not be loaded. -/
def LoadFailed (job : ImportJob) : Prop :=
  ∃ key u, job.uploads.find? key = some u ∧ u.valid = true ∧ u.status = .failed

/-- Every valid upload is what its own load in a history made of it. -/
def Told (im : Importer) (job result : ImportJob) (h : History) : Prop :=
  ∀ key u, result.uploads.find? key = some u → u.valid = true →
    ∃ v h' r, h' <:+: h ∧ Answered (im.load job v).run h' r ∧ u = loaded v r

section Loads

variable {o : ImportJob × Except Failure Nat} {n : Nat}

/-- After its loads a job tells of every valid upload what became of it, and some load failed where
failures were counted. -/
theorem Loads.told (hl : Loads im (names job) job h o) (hok : o.2 = .ok n)
    (hkeyed : WellKeyed job) : Told im job o.1 h ∧ (0 < n ↔ LoadFailed o.1) := by
  obtain ⟨hbecame, hcount⟩ := hl.became hok (nodup_names hkeyed)
  have hnamed : ∀ key u, o.1.uploads.find? key = some u → u.valid = true → key ∈ names job := by
    intro key u hu hvalid
    by_contra hkey
    rw [hl.untouched hkey] at hu
    exact hkey (name_of_valid hkeyed hu hvalid)
  constructor
  · intro key u hu hvalid
    have hkey := hnamed key u hu hvalid
    obtain ⟨v, hv, -⟩ := valid_of_name hkeyed hkey
    obtain ⟨h', r, hin, hload, hbecome⟩ := hbecame key hkey v hv
    exact ⟨v, h', r, hin, hload, Option.some.inj (hu.symm.trans hbecome)⟩
  · rw [hcount]
    constructor
    · rintro ⟨key, hkey, u, hu, hstatus⟩
      obtain ⟨v, hv, hvalid⟩ := valid_of_name hkeyed hkey
      obtain ⟨h', r, -, -, hbecome⟩ := hbecame key hkey v hv
      obtain rfl : u = loaded v r := Option.some.inj (hu.symm.trans hbecome)
      exact ⟨key, _, hu, by rw [valid_loaded, hvalid], hstatus⟩
    · rintro ⟨key, u, hu, hvalid, hstatus⟩
      exact ⟨key, hnamed key u hu hvalid, u, hu, hstatus⟩

/-- Where not all loads of some valid uploads failed, one of them is imported. -/
theorem Loads.imports_valid (hl : Loads im (names job) job h o) (hok : o.2 = .ok n)
    (hkeyed : WellKeyed job) (hn : n ≠ (names job).length) :
    ∃ key u, o.1.uploads.find? key = some u ∧ u.valid = true ∧ u.status = .imported := by
  have hle := hl.failures_le hok
  obtain ⟨key, hkey, u, hu, hstatus⟩ := hl.imports hok (by omega) (nodup_names hkeyed)
    fun key hkey => by
      obtain ⟨u, hu, -⟩ := valid_of_name hkeyed hkey
      simp [hu]
  obtain ⟨v, hv, hvalid⟩ := valid_of_name hkeyed hkey
  obtain ⟨h', r, -, -, hbecome⟩ := (hl.became hok (nodup_names hkeyed)).1 key hkey v hv
  obtain rfl : u = loaded v r := Option.some.inj (hu.symm.trans hbecome)
  exact ⟨key, _, hu, by rw [valid_loaded, hvalid], hstatus⟩

end Loads

/-! ### The parts of the record -/

/-- Loading an upload depends on the target of a job and on the layout of its files only. -/
theorem load_congr (hsame : SameTarget job job') (hformat : job'.csvFormat = job.csvFormat)
    (u : Upload) : im.load job' u = im.load job u := by
  unfold load target
  rw [hsame.connector, hsame.table, hformat]

/-- What is told of loads is told of the whole that they are a part of. -/
theorem Told.widen {job₁ last : ImportJob} {before after : History} (htold : Told im job₁ result h)
    (hsame : SameTarget job job₁) (hformat : job₁.csvFormat = job.csvFormat)
    (huploads : last.uploads = result.uploads) : Told im job last (before ++ (h ++ after)) := by
  intro key u hu hvalid
  obtain ⟨v, h', r, hin, hload, hu'⟩ := htold key u (huploads ▸ hu) hvalid
  rw [load_congr hsame hformat] at hload
  exact ⟨v, h', r, hin.trans ⟨before, after, List.append_assoc ..⟩, hload, hu'⟩

theorem Told.imported (htold : Told im job result h) (hall : ¬ LoadFailed result) {key : String}
    {u : Upload} (hu : result.uploads.find? key = some u) (hvalid : u.valid = true) :
    u.status = .imported := by
  obtain ⟨v, h', r, -, -, rfl⟩ := htold key u hu hvalid
  cases r with
  | ok answer => rfl
  | error f => exact absurd ⟨key, _, hu, hvalid, rfl⟩ hall

/-- An execution that is passed puts on the job the uploads as their loads left them, that some of
them failed where this is so, and the time. -/
theorem Passage.executed (hp : Passage im .execute job h job') (hkeyed : WellKeyed job)
    (hsome : job.validUploads ≠ []) :
    Told im job job' h ∧
      (∃ key u, job'.uploads.find? key = some u ∧ u.valid = true ∧ u.status = .imported) ∧
      ∃ uploads description time, ⟨.now, time⟩ ∈ h ∧
        (LoadFailed job' → description = some .importsPartiallyFailed) ∧
        (¬ LoadFailed job' → description = job.errorDescription) ∧
        job' = { job with
          uploads := uploads, errorDescription := description, executedAt := some time,
          status := .executed } := by
  obtain ⟨job₀, job₂, job₃, hw, hs, e, e', rfl, -, -, hentered, hwork, hstamp, hleft⟩ := hp.parts
  obtain ⟨time, rfl, hstamped⟩ := stampEnd_execute hstamp
  obtain ⟨job₁, n, hl, hpart, hverdict⟩ := execute_loads hwork
  obtain ⟨uploads, hloaded⟩ : ∃ uploads, job₁ = { job₀ with uploads := uploads } := hl.calls.2.1
  have hsame : SameTarget job job₀ := by rw [hentered]; exact ⟨rfl, rfl, rfl⟩
  have huploads₀ : job₀.uploads = job.uploads := by rw [hentered]
  have huploads : job'.uploads = job₁.uploads := by rw [hleft, hstamped, hverdict]
  have hkeyed₀ : WellKeyed job₀ := by rwa [WellKeyed, huploads₀]
  have hn : n ≠ (names job₀).length := by
    have hlength : 0 < (names job₀).length := by
      rw [names, List.length_map, ImportJob.validUploads, huploads₀]
      exact List.length_pos_iff.2 hsome
    omega
  obtain ⟨htold, hfailed⟩ := hl.told rfl hkeyed₀
  have hfailed' : 0 < n ↔ LoadFailed job' := by rw [hfailed, LoadFailed, LoadFailed, huploads]
  refine ⟨htold.widen hsame (by rw [hentered]) huploads, ?_, uploads,
    if 0 < n then some .importsPartiallyFailed else job.errorDescription, time, by simp,
    fun hfail => if_pos (hfailed'.2 hfail), fun hall => if_neg (hall ∘ hfailed'.1), ?_⟩
  · rw [huploads]
    exact hl.imports_valid rfl hkeyed₀ hn
  · rw [hleft, hstamped, hverdict, hloaded, hentered]
    rfl

/-- The builds that are planned on a table. -/
def plannedOn (im : Importer) (t : Identifier) : List Build :=
  plannedBuilds im.settings.schema t im.settings.layout im.settings.segments

/-- A planned build cannot be stated, or the database refused one. -/
def BuildFailed (im : Importer) (t : Identifier) (h : History) : Prop :=
  (∃ b ∈ im.plannedOn t, ∃ e, b.statement = .error e) ∨ ∃ e, .error e ∈ buildAnswers h

/-- What comes before and after does not matter to whether a build failed where it builds
nothing. -/
theorem buildFailed_between {before after : History} {verbs : List Verb}
    (hbefore : Does verbs (sent before)) (hafter : Does verbs (sent after))
    (hverbs : .createIndex ∉ verbs) :
    im.BuildFailed t (before ++ (h ++ after)) ↔ im.BuildFailed t h := by
  rw [BuildFailed, BuildFailed, buildAnswers_between hbefore hafter hverbs]

/-- A report is complete where no build failed, and then lists every one of them. -/
theorem complete_of_rebuild {report : Report}
    (hp : Answered (rebuild c im.settings.schema t im.settings.layout im.settings.segments) h
      report) :
    (im.BuildFailed t h → report.isComplete = false) ∧
      (¬ im.BuildFailed t h →
        report.isComplete = true ∧ report.built = (im.plannedOn t).map (·.entry)) := by
  obtain ⟨outcomes, rfl, haccounts⟩ := rebuild_accounts hp
  have hcomplete : (Report.ofOutcomes outcomes).isComplete = true ↔ ¬ im.BuildFailed t h := by
    rw [Report.isComplete_ofOutcomes, haccounts.complete_iff, BuildFailed, plannedOn]
    push Not
    refine and_congr (forall_congr' fun b => imp_congr_right fun _ => ?_) Iff.rfl
    cases b.statement <;> simp
  refine ⟨fun hfailed => ?_, fun hall => ?_⟩
  · rw [← Bool.not_eq_true, hcomplete]
    exact not_not_intro hfailed
  · have hreport := hcomplete.2 hall
    exact ⟨hreport, haccounts.built_of_complete hreport⟩

/-- A finalization that is passed puts on the job the indices that were built, that some of them are
missing where this is so, and the time. -/
theorem Passage.finalized (hp : Passage im .finalize job h job') :
    ∃ c t entries description time, Aims job c t ∧ ⟨.now, time⟩ ∈ h ∧
      (im.BuildFailed t h → description = some .idxCreationFailed) ∧
      (¬ im.BuildFailed t h →
        description = job.errorDescription ∧ ∀ b ∈ im.plannedOn t, b.entry ∈ entries) ∧
      job' = { job with
        indexEntries := entries, errorDescription := description, finalizedAt := some time,
        status := .finalized } := by
  obtain ⟨job₀, job₂, job₃, hw, hs, e, e', rfl, he, he', hentered, hwork, hstamp, hleft⟩ := hp.parts
  obtain ⟨time, rfl, hstamped⟩ := stampEnd_finalize hstamp
  generalize ho : (job₂, Except.ok ()) = o at hwork
  cases finalized_of_answered hwork with
  | lost | standing => cases ho
  | @down c t report s a hfind hb hd htarget hrebuild hdown hmark =>
    obtain ⟨hrebuilt, -⟩ := Prod.mk.inj ho
    obtain ⟨entries, hentries, -, hlisted⟩ := addIndices_eq report.built job₀
    have haims : Aims job c t := by
      rcases target_cases htarget with ⟨f, hr, -⟩ | ⟨c', t', hr, hc, ht, -⟩
      · cases hr
      · cases hr
        rw [hentered] at hc ht
        exact ⟨hc, ht⟩
    -- only the rebuild builds indices
    have hbefore : Does [.dropTrigger, .dropView, .markMaintenance] (sent ([e] ++ hfind)) := by
      rw [sent_append, he, (sends_target htarget).sent]
      exact does_nil _
    have hafter : Does [.dropTrigger, .dropView, .markMaintenance]
        (sent ((hd ++ [⟨.execute c s, a⟩]) ++ [⟨.now, time⟩, e'])) := by
      have hmarking : Does [.dropTrigger, .dropView, .markMaintenance] [(⟨c, s⟩ : Call)] :=
        does_singleton (by decide) (verb_maintenance hmark)
      have hquiet : sent [⟨.now, time⟩, e'] = [] := he'
      rw [sent_append, sent_append, (tearDown_calls hdown).sent, hquiet, List.append_nil]
      exact ((does_downCalls im c t).mono (by decide)).append hmarking
    have hbuilds : im.BuildFailed t ([e] ++ ((hfind ++ (hb ++ (hd ++ [⟨.execute c s, a⟩]))) ++
        ([⟨.now, time⟩] ++ [e']))) ↔ im.BuildFailed t hb := by
      rw [← @buildFailed_between im hb t _ _ _ hbefore hafter (by decide)]
      simp only [List.append_assoc, List.cons_append, List.nil_append]
    obtain ⟨hfail, hall⟩ := complete_of_rebuild hrebuild
    refine ⟨c, t, entries,
      if report.isComplete then job.errorDescription else some .idxCreationFailed, time, haims,
      by simp, fun hfailed => ?_, fun hnone => ?_, ?_⟩
    · rw [hfail (hbuilds.1 hfailed)]
      rfl
    · obtain ⟨hcomplete, hbuilt⟩ := hall (hnone ∘ hbuilds.2)
      rw [hcomplete]
      refine ⟨rfl, fun b hb => hlisted _ ?_⟩
      rw [hbuilt]
      exact List.mem_map_of_mem hb
    · rw [hleft, hstamped, hrebuilt, afterRebuild, hentries, hentered]
      split <;> rfl

/-! ### The whole record -/

/-- A record of an import that came to its end, as it should be. -/
structure Truthful (im : Importer) (job : ImportJob) (t : Identifier) (h : History)
    (result : ImportJob) : Prop where
  untyped : result.errorType = none
  version : result.spaceVersion = some 1
  executed : ∃ time, result.executedAt = some time ∧ ⟨.now, time⟩ ∈ h
  finalized : ∃ time, result.finalizedAt = some time ∧ ⟨.now, time⟩ ∈ h
  imported : ∃ key u, result.uploads.find? key = some u ∧ u.valid = true ∧ u.status = .imported
  told : Told im job result h
  missing : im.BuildFailed t h → result.errorDescription = some .idxCreationFailed
  partly : ¬ im.BuildFailed t h → LoadFailed result →
    result.errorDescription = some .importsPartiallyFailed
  wholly : ¬ im.BuildFailed t h → ¬ LoadFailed result → result.errorDescription = none
  /-- With nothing described, every valid upload is imported and every planned index is listed. -/
  complete : result.errorDescription = none →
    (∀ key u, result.uploads.find? key = some u → u.valid = true → u.status = .imported) ∧
      ∀ segment ∈ im.settings.segments, ∀ k ∈ segment.plan im.settings.layout,
        k.entryNamed (segmentText t segment) ∈ result.indexEntries

/-- Where nothing is described as failed, nothing failed. -/
theorem complete_of_undescribed (htold : Told im job result h)
    (hmissing : im.BuildFailed t h → result.errorDescription = some .idxCreationFailed)
    (hpartly : ¬ im.BuildFailed t h → LoadFailed result →
      result.errorDescription = some .importsPartiallyFailed)
    (hlisted : ¬ im.BuildFailed t h → ∀ b ∈ im.plannedOn t, b.entry ∈ result.indexEntries)
    (hnone : result.errorDescription = none) :
    (∀ key u, result.uploads.find? key = some u → u.valid = true → u.status = .imported) ∧
      ∀ segment ∈ im.settings.segments, ∀ k ∈ segment.plan im.settings.layout,
        k.entryNamed (segmentText t segment) ∈ result.indexEntries := by
  have hbuilt : ¬ im.BuildFailed t h := fun hfail => by
    rw [hmissing hfail] at hnone
    cases hnone
  have hloaded : ¬ LoadFailed result := fun hfail => by
    rw [hpartly hbuilt hfail] at hnone
    cases hnone
  refine ⟨fun key u hu hvalid => htold.imported hloaded hu hvalid, fun segment hsegment k hk => ?_⟩
  refine hlisted hbuilt (segmentBuild im.settings.schema t segment k) ?_
  exact List.mem_flatMap.2 ⟨segment, hsegment, List.mem_map_of_mem hk⟩

/-- The record of an import that came to its end tells the truth, where its uploads are filed under
their own names and nothing was described as failed before. -/
theorem finalized_truthful (hjob : job.status.isFinal = false) (hkeyed : WellKeyed job)
    (htype : job.errorType = none) (hdescription : job.errorDescription = none)
    (hp : Answered (im.run job) h result) (hresult : result.status = .finalized) :
    ∃ c t, Aims job c t ∧ Truthful im job t h result := by
  have hpasses := passes_of_run hjob hp (by rw [hresult]; rfl)
  rw [← Phase.execute.earlier_append_later] at hpasses
  obtain ⟨hb, hr, job₁, rfl, hbefore, hrest⟩ := hpasses.split
  obtain _ | @⟨_, _, _, job₂, _, hx, _, hexecute, hrest⟩ := hrest
  obtain _ | @⟨_, _, _, _, _, hf, _, hfinalize, hnone⟩ := hrest
  cases hnone
  -- each phase tells its own part of the record
  obtain ⟨⟨uploads, hjob₁⟩, hkeyed₁, hsome⟩ := hbefore.claimed
  obtain ⟨htold, himported, uploads', description, time, htime, hpart, hwhole, hjob₂⟩ :=
    hexecute.executed (hkeyed₁ hkeyed) hsome
  obtain ⟨c, t, entries, description', time', haims, htime', hmissing, hall, hend⟩ :=
    hfinalize.finalized
  have haims' : Aims job c t :=
    (haims.sameTarget hexecute.sameTarget).sameTarget hbefore.sameTarget
  have huploads : result.uploads = job₂.uploads := by rw [hend]
  have hfailed : LoadFailed result ↔ LoadFailed job₂ := by rw [LoadFailed, LoadFailed, huploads]
  have hdescribed : result.errorDescription = description' := by rw [hend]
  -- nothing but the finalization builds indices
  have hbuilds : im.BuildFailed t (hb ++ (hx ++ (hf ++ []))) ↔ im.BuildFailed t hf := by
    have hfirst : Does ((Phase.execute.earlier ++ [Phase.execute]).flatMap Phase.verbs)
        (sent (hb ++ hx)) := by
      rw [sent_append]
      exact (hbefore.does.mono (by decide)).append (hexecute.does.mono (by decide))
    rw [← List.append_assoc]
    exact buildFailed_between hfirst (does_nil _) (by decide)
  have htold' : Told im job result (hb ++ (hx ++ (hf ++ []))) :=
    htold.widen hbefore.sameTarget (by rw [hjob₁]) huploads
  have hmissing' : im.BuildFailed t (hb ++ (hx ++ (hf ++ []))) →
      result.errorDescription = some .idxCreationFailed := by
    rw [hdescribed, hbuilds]
    exact hmissing
  have hpartly : ¬ im.BuildFailed t (hb ++ (hx ++ (hf ++ []))) → LoadFailed result →
      result.errorDescription = some .importsPartiallyFailed := by
    rw [hdescribed, hbuilds, hfailed]
    intro hbuild hload
    rw [(hall hbuild).1, hjob₂, hpart hload]
  have hwholly : ¬ im.BuildFailed t (hb ++ (hx ++ (hf ++ []))) → ¬ LoadFailed result →
      result.errorDescription = none := by
    rw [hdescribed, hbuilds, hfailed]
    intro hbuild hload
    rw [(hall hbuild).1, hjob₂, hwhole hload, hjob₁, hdescription]
  have hlisted : ¬ im.BuildFailed t (hb ++ (hx ++ (hf ++ []))) →
      ∀ b ∈ im.plannedOn t, b.entry ∈ result.indexEntries := by
    rw [hbuilds, hend]
    exact fun hbuild => (hall hbuild).2
  exact ⟨c, t, haims',
    { untyped := by rw [hend, hjob₂, hjob₁, htype]
      version := by rw [hend, hjob₂, hjob₁]; rfl
      executed := ⟨time, by rw [hend, hjob₂], by simp [htime]⟩
      finalized := ⟨time', by rw [hend], by simp [htime']⟩
      imported := by rw [huploads]; exact himported
      told := htold'
      missing := hmissing'
      partly := hpartly
      wholly := hwholly
      complete := complete_of_undescribed htold' hmissing' hpartly hlisted }⟩

/-- Imports through a view that build the indices of the table itself. -/
def rootImporter : Importer :=
  { viewImporter with settings := { viewImporter.settings with segments := [.root] } }

/-- The record of the roads tells the truth once they are imported. -/
theorem roads_truthful :
    ((rootImporter.run roadsJob).carryOut oblige).2.status = .finalized ∧
      ∃ c t, Aims roadsJob c t ∧
        Truthful rootImporter roadsJob t ((rootImporter.run roadsJob).carryOut oblige).1
          ((rootImporter.run roadsJob).carryOut oblige).2 := by
  have hp := answered_carryOut oblige (rootImporter.run roadsJob)
  have hend := finalized_of_helpful (roads_ready rfl) hp (helpful_oblige _)
  exact ⟨hend, finalized_truthful (by decide) roadsJob_wellKeyed rfl rfl hp hend⟩

end Importer

end BulkImport.Import
