import BulkImport.Proofs.Import.Course

/-!
# No facade is left behind

What a run puts up in front of a table it takes down again.  A trigger is asked for only after
this run claimed the table, so the failures of the preparation and of the execution that can
come after it all lead to its removal, and a finalization removes it before it can fail in any
other way.  So the calls of a run in which a trigger was asked for are those before it, the
facade, the loads, the index builds, the removal of the facade and the mark, in this order
(`Staged`), and every trigger and every view is dropped exactly once, after the last load
(`run_takes_facade_down`).
-/

namespace BulkImport.Import

open BulkImport.Job BulkImport.Sql BulkImport.Table BulkImport.Program
open BulkImport.ImportJob (eq_of_advance eq_of_setSpaceVersion)

/-! ### One creation, one removal -/

/-- A part of the facade of a table: the statements that put it up, and the one that removes it. -/
structure Part where
  create : Verb
  drop : Verb
  creates : Identifier → Statement → Prop
  dropStatement : Identifier → Except BuildError Statement

/-- Whatever puts the part up is followed by exactly one removal: it goes to the connector and to
the table of the job as the creation did, and no load comes after it. -/
def TakenDown (part : Part) (job : ImportJob) (calls : List Call) : Prop :=
  ∀ before c after, calls = before ++ c :: after → c.verb? = some part.create →
    ∃ table between d rest, job.targetConnector = some c.connector ∧
      job.targetTable = some table.text ∧ part.creates table c.statement ∧
      after = between ++ d :: rest ∧ d.connector = c.connector ∧
      part.dropStatement table = .ok d.statement ∧
      (∀ e ∈ between ++ rest, e.verb? ≠ some part.drop) ∧ ∀ e ∈ rest, e.verb? ≠ some .load

/-- The trigger on a table. -/
def Importer.triggerPart (im : Importer) : Part where
  create := .createTrigger
  drop := .dropTrigger
  creates table s := ∃ stamp, writeTriggerStatement im.settings.schema table stamp = .ok s
  dropStatement := dropTriggerStatement im.settings.schema

/-- The view in front of a table. -/
def Importer.viewPart (im : Importer) : Part where
  create := .createView
  drop := .dropView
  creates table s := createViewStatement im.settings.schema table = .ok s
  dropStatement := dropViewStatement im.settings.schema

variable {part : Part} {job : ImportJob}

/-- Calls that do not put a part up take down whatever they put up. -/
theorem takenDown_of_none {calls : List Call} (h : ∀ e ∈ calls, e.verb? ≠ some part.create) :
    TakenDown part job calls := by
  rintro before c after rfl hc
  exact absurd hc (h c (List.mem_append_right _ List.mem_cons_self))

/-- One creation and one removal after it take down what they put up. -/
theorem takenDown_of_one {connector : String} {table : Identifier} {s s' : Statement}
    {A B C : List Call} {vA vB vC : List Verb} (hconnector : job.targetConnector = some connector)
    (htable : job.targetTable = some table.text) (hs : part.creates table s)
    (hs' : part.dropStatement table = .ok s') (hdrop : Verb.of? s' = some part.drop)
    (hA : Does vA A) (hB : Does vB B) (hC : Does vC C)
    (hcreate : part.create ∉ vA ∧ part.create ∉ vB ∧ part.create ≠ part.drop ∧ part.create ∉ vC)
    (hone : part.drop ∉ vB ∧ part.drop ∉ vC) (hload : .load ∉ vC) :
    TakenDown part job (A ++ ⟨connector, s⟩ :: (B ++ ⟨connector, s'⟩ :: C)) := by
  intro before c after h hc
  obtain ⟨hA', hB', hne, hC'⟩ := hcreate
  have hrest : ∀ e ∈ B ++ ⟨connector, s'⟩ :: C, ¬ e.verb? = some part.create := by
    intro e he
    rcases List.mem_append.1 he with he | he
    · exact hB.verb_ne hB' e he
    rcases List.mem_cons.1 he with rfl | he
    · intro hverb
      rw [Call.verb?, hdrop] at hverb
      exact hne (Option.some.inj hverb).symm
    · exact hC.verb_ne hC' e he
  -- nothing else puts the part up, so this is the one place that does
  obtain ⟨-, rfl, rfl⟩ := split_unique (hA.verb_ne hA') hrest hc h
  refine ⟨table, B, ⟨connector, s'⟩, C, hconnector, htable, hs, rfl, rfl, hs', ?_,
    hC.verb_ne hload⟩
  intro e he
  rcases List.mem_append.1 he with he | he
  · exact hB.verb_ne hone.1 e he
  · exact hC.verb_ne hone.2 e he

namespace Importer

variable {im : Importer} {registry : String → Except Database.Error Unit}

/-! ### The calls of a run, phase by phase -/

/-- What a failure in a phase leaves to be released is the facade, or nothing. -/
theorem release_calls {p : Phase} {job : ImportJob} {f : Failure} {h : History} {c : String}
    {t : Identifier} (hl : Located registry job c t) (hf : Follows registry h)
    (hp : Answered (im.release p job f) h ()) :
    sent h = if mustRelease p job f then im.downCalls c t else [] := by
  rcases release_cases hp with
    ⟨hmust, rfl⟩ | ⟨hmust, ⟨f', htarget⟩ | ⟨c', t', h₁, h₂, rfl, htarget, hs⟩⟩
  · simp [hmust]
  · obtain ⟨hfound, -⟩ := target_located hl hf htarget
    cases hfound
  · obtain ⟨hfound, -⟩ := target_located hl (follows_append.1 hf).1 htarget
    cases hfound
    rw [((sends_target htarget).append hs).sent, if_pos hmust]
    rfl

/-- A finalization of an executed job creates indices, takes the facade down and marks the
table. -/
theorem finalize_course {job result : ImportJob} {h : History} {c : String} {t : Identifier}
    (hc : Course im [.finalize] job h result) (hjob : job.status = .executed)
    (hl : Located registry job c t) (hf : Follows registry h) :
    ∃ builds marks, sent h = builds ++ (im.downCalls c t ++ marks) ∧
      Does [.createIndex] builds ∧ Does [.markMaintenance] marks := by
  obtain ⟨job₂, r, hw, hr, hsent, hfollows, hwork, hnext⟩ := hc.step (by rw [hjob]; decide)
  obtain ⟨hfw, hfr⟩ := hfollows registry hf
  have hl' : Located registry { job with status := Phase.finalize.running } c t :=
    hl.sameTarget rfl rfl
  have hrest : sent hr = [] := by
    rcases hnext with ⟨f, -, hrelease⟩ | ⟨_, _, -, hrest⟩
    · obtain ⟨rfl, -⟩ := answered_pure.1 hrelease
      rfl
    · cases hrest with
      | finished => rfl
  rw [hsent, hrest, List.append_nil]
  rcases finalize_cases hwork with
    ⟨f, -, ht⟩ | ⟨c', t', h₁, h₂, builds, marks, rfl, ht, hs, hb, hm, -⟩
  · obtain ⟨hfound, -⟩ := target_located hl' hfw ht
    cases hfound
  · obtain ⟨hfound, -⟩ := target_located hl' (follows_append.1 hfw).1 ht
    cases hfound
    exact ⟨builds, marks, ((sends_target ht).append hs).sent, hb, hm⟩

/-- An execution of a job whose table this run claimed loads, and the facade goes after the
loads. -/
theorem execute_course {job result : ImportJob} {h : History} {c : String} {t : Identifier}
    (hc : Course im [.execute, .finalize] job h result) (hjob : job.status = .prepared)
    (hclaimed : job.spaceVersion = some freshVersion) (hl : Located registry job c t)
    (hf : Follows registry h) :
    ∃ loads builds marks, sent h = loads ++ (builds ++ (im.downCalls c t ++ marks)) ∧
      Does [.load] loads ∧ Does [.createIndex] builds ∧ Does [.markMaintenance] marks := by
  obtain ⟨job₂, r, hw, hr, hsent, hfollows, hwork, hnext⟩ := hc.step (by rw [hjob]; decide)
  obtain ⟨hfw, hfr⟩ := hfollows registry hf
  have hl' : Located registry { job with status := Phase.execute.running } c t :=
    hl.sameTarget rfl rfl
  obtain ⟨⟨loads, hloads, hload⟩, hkept, hversion, hfailure⟩ := execute_calls hwork
  have hl₂ : Located registry job₂ c t := hkept.located hl'
  have hversion₂ : job₂.spaceVersion = some freshVersion := hversion.trans hclaimed
  rw [hsent, hloads.sent]
  rcases hnext with ⟨f, rfl, hrelease⟩ | ⟨_, _, -, hrest⟩
  · -- the table is claimed and the failure came after that, so the facade is released
    have hmust : mustRelease .execute job₂ f = true := by
      simp [mustRelease, Phase.mayLeaveFacade, hversion₂, hfailure f rfl]
    refine ⟨loads, [], [], ?_, hload, does_nil _, does_nil _⟩
    rw [release_calls hl₂ hfr hrelease, if_pos hmust, List.append_nil, List.nil_append]
  · obtain ⟨builds, marks, hs, hb, hm⟩ :=
      finalize_course hrest rfl (hl₂.sameTarget rfl rfl) hfr
    exact ⟨loads, builds, marks, by rw [hs], hload, hb, hm⟩

/-- The calls of a run: none of them creates anything, or they are those before the facade, the
facade, the loads, the index builds, the removal of the facade and the mark. -/
inductive Staged (im : Importer) (job : ImportJob) : List Call → Prop where
  | bare {verbs : List Verb} {calls : List Call} (h : Does verbs calls)
      (htrigger : .createTrigger ∉ verbs) (hview : .createView ∉ verbs) : Staged im job calls
  | facade {c : String} {t : Identifier} {before raised loads builds marks : List Call}
      (hconnector : job.targetConnector = some c) (htable : job.targetTable = some t.text)
      (hbefore : Does [.probe, .claim, .listIndices, .dropIndices] before)
      (hraised : Raised im c t raised) (hloads : Does [.load] loads)
      (hbuilds : Does [.createIndex] builds) (hmarks : Does [.markMaintenance] marks) :
      Staged im job
        (before ++ (raised ++ (loads ++ (builds ++ (im.downCalls c t ++ marks)))))

/-- A preparation that does not come to install anything claims at most, and fails. -/
theorem prepared_or_installed {job : ImportJob} {h : History} {o : Outcome}
    (hp : Prepared im job h o) :
    (Does [.claim] (sent h) ∧ ∃ f, o.2 = .error f) ∨
      ∃ c t s job' h' r, job.targetConnector = some c ∧ job.targetTable = some t.text ∧
        claimStatement im.settings.schema t = .ok s ∧
        job.setSpaceVersion freshVersion = .ok job' ∧
        Answered (im.install job' c t freshVersion).run h' r ∧ o = (job', r) ∧
        h = ⟨.connect c, .ok ()⟩ :: ⟨.fetchInteger c s, .ok freshVersion⟩ :: h' := by
  have hclaim : ∀ {c : String} {t : Identifier} {s : Statement},
      claimStatement im.settings.schema t = .ok s → Does [.claim] [⟨c, s⟩] :=
    fun hs => does_singleton (List.mem_singleton_self _) (verb_claimed hs)
  cases hp with
  | lost htarget =>
    rw [(sends_target htarget).sent]
    exact .inl ⟨does_nil _, _, rfl⟩
  | unclaimable => exact .inl ⟨does_nil _, _, rfl⟩
  | refused _ _ hs | versionKept _ _ hs | notFresh _ _ hs => exact .inl ⟨hclaim hs, _, rfl⟩
  | installed hc ht hs hjob hp =>
    exact .inr ⟨_, _, _, _, _, _, hc, ht, hs, hjob, hp, rfl, rfl⟩

/-- A preparation that fails leaves nothing up, or is followed by the removal of what it put up;
one that does not is followed by the execution. -/
theorem prepare_course {job result : ImportJob} {h : History}
    (hc : Course im [.prepare, .execute, .finalize] job h result) (hjob : job.status = .validated)
    (hf : Follows registry h) :
    Staged im job (sent h) := by
  obtain ⟨job₂, r, hw, hr, hsent, hfollows, hwork, hnext⟩ := hc.step (by rw [hjob]; decide)
  obtain ⟨hfw, hfr⟩ := hfollows registry hf
  have hprepared := prepare_cases hwork
  have hkept := (kept_of_prepared hprepared).1
  rw [hsent]
  rcases prepared_or_installed hprepared with
    ⟨hclaim, f, hfailed⟩ | ⟨c, t, s, job', h', r', hc, ht, hs, hset, hinstall, ho, rfl⟩
  · obtain rfl : r = .error f := hfailed
    rcases hnext with ⟨f, -, hrelease⟩ | ⟨_, _, hok, -⟩
    · have hdoes : Does [.claim, .dropTrigger, .dropView] (sent hw ++ sent hr) :=
        (hclaim.mono (by decide)).append ((does_release hrelease).mono (by decide))
      exact .bare hdoes (by decide) (by decide)
    · cases hok
  cases ho
  have hl : Located registry job₂ c t :=
    hkept.located ⟨(hfw c _ List.mem_cons_self).symm, hc, ht⟩
  have hversion : job₂.spaceVersion = some freshVersion := by rw [(eq_of_setSpaceVersion hset).2]
  obtain ⟨⟨calls, raised, hsends, hdoes, hraised⟩, hfailure⟩ := install_calls hinstall
  have hclaimed : Does [.probe, .claim, .listIndices, .dropIndices] [⟨c, s⟩] :=
    does_singleton (by decide) (verb_claimed hs)
  have hbefore := hclaimed.append (hdoes.mono (by decide))
  have hsent' : sent (⟨.connect c, .ok ()⟩ :: ⟨.fetchInteger c s, .ok freshVersion⟩ :: h') =
      [⟨c, s⟩] ++ calls ++ raised := by
    rw [List.append_assoc, ← hsends.sent]
    rfl
  rw [hsent', List.append_assoc]
  rcases hnext with ⟨f, rfl, hrelease⟩ | ⟨_, _, rfl, hrest⟩
  · -- the version that was just set is the first one, so that this failure releases the facade
    have hmust : mustRelease .prepare job₂ f = true := by
      simp [mustRelease, Phase.mayLeaveFacade, hversion, hfailure f rfl]
    have hstaged : Staged im job _ := .facade hc ht hbefore hraised (does_nil _) (does_nil _)
      (does_nil _)
    rw [release_calls hl hfr hrelease, if_pos hmust]
    simpa only [List.nil_append, List.append_nil] using hstaged
  · obtain ⟨loads, builds, marks, hexecuted, hload, hb, hm⟩ :=
      execute_course hrest rfl hversion (hl.sameTarget rfl rfl) hfr
    rw [hexecuted]
    exact .facade hc ht hbefore hraised hload hb hm

/-- Looking for the table before the rest of a run puts nothing up. -/
theorem Staged.probed {job job' : ImportJob} {probes calls : List Call}
    (hs : Staged im job' calls) (hp : Does [.probe] probes)
    (hconnector : job'.targetConnector = job.targetConnector)
    (htable : job'.targetTable = job.targetTable) : Staged im job (probes ++ calls) := by
  cases hs with
  | @bare verbs _ h htrigger hview =>
    have hdoes : Does (.probe :: verbs) (probes ++ calls) :=
      (hp.mono (by simp)).append (h.mono fun _ => List.mem_cons_of_mem _)
    exact .bare hdoes (by simpa using htrigger) (by simpa using hview)
  | facade hc ht hbefore hraised hloads hbuilds hmarks =>
    rw [← List.append_assoc]
    exact .facade (hconnector ▸ hc) (htable ▸ ht) ((hp.mono (by decide)).append hbefore) hraised
      hloads hbuilds hmarks

/-- The calls of every run. -/
theorem staged_of_run {job result : ImportJob} {h : History}
    (hjob : job.status.isFinal = false) (hf : Follows registry h)
    (hp : Answered (im.run job) h result) : Staged im job (sent h) := by
  have hc := course_of_run hjob hp
  cases hcan : job.advance Phase.validate.running with
  | error e =>
    cases hc with
    | refused => exact .bare (does_nil []) (by decide) (by decide)
    | broken henter | passed henter =>
      rw [hcan] at henter
      cases henter
  | ok job₁ =>
    obtain ⟨job₂, r, hw, hr, hsent, hfollows, hwork, hnext⟩ := hc.step (eq_of_advance hcan).1
    obtain ⟨⟨probes, hsends, hdoes⟩, uploads, rfl⟩ := validate_calls hwork
    rw [hsent, hsends.sent]
    rcases hnext with ⟨f, -, hrelease⟩ | ⟨_, _, -, hrest⟩
    · have hstaged : Staged im job _ := .bare (does_release hrelease) (by decide) (by decide)
      exact hstaged.probed hdoes rfl rfl
    · have hstaged := prepare_course hrest rfl (hfollows registry hf).2
      exact hstaged.probed hdoes rfl rfl

/-! ### Nothing is left -/

/-- The trigger that a run puts up is dropped, once and after all loads. -/
theorem Staged.trigger {job : ImportJob} {calls : List Call} (hs : Staged im job calls) :
    TakenDown im.triggerPart job calls := by
  cases hs with
  | bare h htrigger _ => exact takenDown_of_none (h.verb_ne htrigger)
  | @facade c t before raised loads builds marks hc ht hbefore hraised hloads hbuilds hmarks =>
    obtain ⟨s', hs', hdown⟩ := downCalls_eq im c t
    have hbetween : Does [.load, .createIndex] (loads ++ builds) :=
      (hloads.mono (by decide)).append (hbuilds.mono (by decide))
    have hafter : Does [.dropView, .markMaintenance] (im.downView c t ++ marks) :=
      ((does_downView im c t).mono (by decide)).append (hmarks.mono (by decide))
    -- the trigger goes up alone or with the view, or the run breaks off before either
    cases hraised with
    | nothing =>
      have hdropped : Does [.dropTrigger] [⟨c, s'⟩] :=
        does_singleton (List.mem_singleton_self _) (verb_dropTrigger hs')
      have hnone : ∀ e ∈ before ++ ([] ++ (loads ++ (builds ++ (im.downCalls c t ++ marks)))),
          e.verb? ≠ some .createTrigger := by
        intro e he
        simp only [hdown, List.nil_append, List.mem_append, List.mem_cons] at he
        rcases he with he | he | he | (rfl | he) | he
        · exact hbefore.verb_ne (by decide) e he
        · exact hloads.verb_ne (by decide) e he
        · exact hbuilds.verb_ne (by decide) e he
        · exact hdropped.verb_ne (by decide) _ (List.mem_singleton_self _)
        · exact (does_downView im c t).verb_ne (by decide) e he
        · exact hmarks.verb_ne (by decide) e he
      exact takenDown_of_none hnone
    | trigger htrigger =>
      have hone : TakenDown im.triggerPart job _ := takenDown_of_one hc ht ⟨_, htrigger⟩ hs'
        (verb_dropTrigger hs') hbefore hbetween hafter (by simp [triggerPart])
        (by simp [triggerPart]) (by decide)
      simpa only [hdown, List.append_assoc, List.cons_append, List.nil_append] using hone
    | @facade _ _ s'' htrigger _ hview =>
      have hcreated : Does [.createView, .load, .createIndex] [⟨c, s''⟩] :=
        does_singleton (by decide) (verb_createView hview)
      have hone : TakenDown im.triggerPart job _ := takenDown_of_one hc ht ⟨_, htrigger⟩ hs'
        (verb_dropTrigger hs') hbefore (hcreated.append (hbetween.mono (by decide))) hafter
        (by simp [triggerPart]) (by simp [triggerPart]) (by decide)
      simpa only [hdown, List.append_assoc, List.cons_append, List.nil_append] using hone

/-- The view that a run puts up is dropped, once and after all loads. -/
theorem Staged.view {job : ImportJob} {calls : List Call} (hs : Staged im job calls) :
    TakenDown im.viewPart job calls := by
  cases hs with
  | bare h _ hview => exact takenDown_of_none (h.verb_ne hview)
  | @facade c t before raised loads builds marks hc ht hbefore hraised hloads hbuilds hmarks =>
    obtain ⟨s', hs', hdown⟩ := downCalls_eq im c t
    have hdropped : Does [.load, .createIndex, .dropTrigger] [⟨c, s'⟩] :=
      does_singleton (by decide) (verb_dropTrigger hs')
    have hbetween : Does [.load, .createIndex, .dropTrigger] (loads ++ (builds ++ [⟨c, s'⟩])) :=
      (hloads.mono (by decide)).append ((hbuilds.mono (by decide)).append hdropped)
    -- without a view nothing in the calls creates one, whatever else was put up
    have hnone : ∀ raised', Does [.createTrigger] raised' →
        ∀ e ∈ before ++ (raised' ++ (loads ++ (builds ++ (im.downCalls c t ++ marks)))),
          e.verb? ≠ some .createView := by
      intro raised' hraised' e he
      simp only [List.mem_append] at he
      rcases he with he | he | he | he | he | he
      · exact hbefore.verb_ne (by decide) e he
      · exact hraised'.verb_ne (by decide) e he
      · exact hloads.verb_ne (by decide) e he
      · exact hbuilds.verb_ne (by decide) e he
      · exact (does_downCalls im c t).verb_ne (by decide) e he
      · exact hmarks.verb_ne (by decide) e he
    cases hraised with
    | nothing => exact takenDown_of_none (hnone [] (does_nil _))
    | trigger htrigger =>
      exact takenDown_of_none
        (hnone _ (does_singleton (List.mem_singleton_self _) (verb_writeTrigger htrigger)))
    | @facade _ s _ htrigger huse hview =>
      obtain ⟨view, hname⟩ := viewName_of_createView hview
      obtain ⟨s₂, hs₂⟩ : ∃ s₂, dropViewStatement im.settings.schema t = .ok s₂ :=
        ⟨_, dropViewStatement_eq _ hname⟩
      have hcreated : Does [.probe, .claim, .listIndices, .dropIndices, .createTrigger]
          (before ++ [⟨c, s⟩]) :=
        (hbefore.mono (by decide)).append (does_singleton (by decide) (verb_writeTrigger htrigger))
      have hone : TakenDown im.viewPart job _ := takenDown_of_one hc ht hview hs₂
        (verb_dropView hs₂) hcreated hbetween hmarks (by simp [viewPart]) (by simp [viewPart])
        (by decide)
      have hdownView : im.downView c t = [⟨c, s₂⟩] := by
        rw [downView, if_pos huse, hs₂]
        rfl
      simpa only [hdown, hdownView, List.append_assoc, List.cons_append, List.nil_append] using hone

/-- What a run puts up in front of a table it takes down, once and after all its loads: its trigger,
and its view too, whatever became of the trigger. -/
theorem run_takes_facade_down {job result : ImportJob} {h : History}
    (hjob : job.status.isFinal = false) (hf : Follows registry h)
    (hp : Answered (im.run job) h result) :
    TakenDown im.triggerPart job (sent h) ∧ TakenDown im.viewPart job (sent h) :=
  have hs := staged_of_run hjob hf hp
  ⟨hs.trigger, hs.view⟩

theorem roads_facade_taken_down :
    TakenDown viewImporter.triggerPart roadsJob
        (sent ((viewImporter.run roadsJob).carryOut oblige).1) ∧
      TakenDown viewImporter.viewPart roadsJob
        (sent ((viewImporter.run roadsJob).carryOut oblige).1) :=
  run_takes_facade_down (by decide) (follows_oblige _) (answered_carryOut _ _)

end Importer

end BulkImport.Import
