import BulkImport.Proofs.Import.Coverage
import BulkImport.Proofs.Import.Passage

/-!
# Imports that succeed

An import has nothing of its own in the way when it can enter its first phase, has a valid upload
and no version yet, and everything that is done to its table can be named (`Ready`).  Where its
surroundings help with every question (`Helpful`), each of its attempts succeeds (`Yields`), and so
does each of its phases (`work_succeeds`): the import comes to its end (`finalized_of_helpful`).
Surroundings that only resist what a finalization does let it come as far as that
(`reaches_finalize`).
-/

namespace BulkImport.Import

open BulkImport.Job BulkImport.Sql BulkImport.Table BulkImport.Program
open BulkImport.ImportJob (advance_of_canAdvanceTo failWith_eq)

/-- An exchange that is not in the way of an import: the connector is there, a statement is carried
out unless it does one of the resisted things, a number is that of the first version, a load gives a
row, and indices that are listed can be dropped. -/
def Helpful (schema : Identifier) (resisted : List Verb) : Exchange Question Answer → Prop
  | ⟨.connect _, a⟩ => a = .ok ()
  | ⟨.execute _ s, a⟩ => (∀ v ∈ resisted, Verb.of? s ≠ some v) → a = .ok ()
  | ⟨.fetchInteger _ _, a⟩ => a = .ok freshVersion
  | ⟨.fetchTexts _ s, a⟩ => ∃ texts, a = .ok texts ∧ (Verb.of? s = some .load → texts ≠ []) ∧
      (Verb.of? s = some .listIndices → texts ≠ [] →
        ∃ drop, dropIndicesStatement schema texts = .ok drop)
  | _ => True

/-- An attempt succeeds with a value of some kind wherever all exchanges are good. -/
def Yields {α : Type} (good : Exchange Question Answer → Prop) (x : Attempt α) (Q : α → Prop) :
    Prop :=
  ∀ h r, Answered x.run h r → (∀ e ∈ h, good e) → ∃ a, r = .ok a ∧ Q a

namespace Yields

variable {α β : Type} {good : Exchange Question Answer → Prop} {P : α → Prop} {Q : β → Prop}

theorem andThen {x : Attempt α} {f : α → Attempt β} (hx : Yields good x P)
    (hf : ∀ a, P a → Yields good (f a) Q) : Yields good (x >>= f) Q := by
  intro h r hp hgood
  rcases answered_attempt.1 hp with ⟨e, hfail, -⟩ | ⟨h₁, h₂, a, rfl, hfirst, hrest⟩
  · obtain ⟨a, ha, -⟩ := hx _ _ hfail hgood
    cases ha
  · obtain ⟨a', ha, hP⟩ := hx _ _ hfirst fun e he => hgood e (List.mem_append_left _ he)
    cases ha
    exact hf a hP _ _ hrest fun e he => hgood e (List.mem_append_right _ he)

theorem value {a : α} (ha : P a) : Yields good (pure a) P := by
  intro h r hp _
  obtain ⟨-, rfl⟩ := answered_return.1 hp
  exact ⟨a, rfl, ha⟩

theorem build {stage : Stage} {x : Except BuildError α} {a : α} (hx : x = .ok a) (ha : P a) :
    Yields good (Attempt.build stage x) P := by
  intro h r hp _
  obtain ⟨-, rfl⟩ := answered_build.1 hp
  exact ⟨a, by rw [hx]; rfl, ha⟩

end Yields

namespace Importer

variable {im : Importer} {job job' result : ImportJob} {h : History} {c : String} {t : Identifier}
  {schema : Identifier} {resisted : List Verb}

/-! ### Attempts that succeed -/

theorem target_yields {stage : Stage} (haims : Aims job c t) :
    Yields (Helpful schema resisted) (target stage job) (· = (c, t)) := by
  intro h r hp hgood
  have hfollows : Follows (fun _ => .ok ()) h := fun c a ha => hgood _ ha
  obtain ⟨rfl, -⟩ := target_located ⟨rfl, haims.connector, haims.table⟩ hfollows hp
  exact ⟨_, rfl, rfl⟩

theorem executeBuilt_yields {stage : Stage} {x : Except BuildError Statement} {s : Statement}
    {v : Verb} (hx : x = .ok s) (hverb : Verb.of? s = some v) (hv : v ∉ resisted) :
    Yields (Helpful schema resisted) (executeBuilt stage c x) fun _ => True := by
  intro h r hp hgood
  rcases executeBuilt_cases hp with ⟨e, he, -⟩ | ⟨s', a, hs, rfl, rfl⟩
  · rw [hx] at he
    cases he
  · obtain rfl : s' = s := Except.ok.inj (hs.symm.trans hx)
    have ha : a = .ok () := hgood _ (List.mem_singleton_self _) fun w hw hw' => by
      obtain rfl : v = w := Option.some.inj (hverb.symm.trans hw')
      exact hv hw
    exact ⟨(), by rw [ha]; rfl, trivial⟩

theorem checkTarget_yields (haims : Aims job c t) (hsome : job.uploads.isEmpty = false) :
    Yields (Helpful schema resisted) (im.checkTarget job) fun _ => True := by
  unfold checkTarget
  refine (target_yields haims).andThen ?_
  rintro _ rfl
  have hexists : Yields (Helpful schema resisted) (Attempt.database .validation
      (tableExists c im.settings.schema t)) (· = true) := by
    intro h r hp hgood
    obtain ⟨a, hexists, rfl⟩ := answered_database.1 hp
    obtain ⟨n, rfl, rfl⟩ := tableExists_cases hexists
    obtain rfl : n = .ok freshVersion := hgood _ (List.mem_singleton_self _)
    exact ⟨true, rfl, rfl⟩
  refine hexists.andThen ?_
  rintro _ rfl
  rw [hsome]
  exact .value trivial

theorem install_yields {v : Int64} (hviewed : im.settings.useViewFacade = true →
      ∃ view, viewName t = .ok view)
    (hresisted : ∀ v ∈ resisted, v ∉ Phase.prepare.verbs) :
    Yields (Helpful im.settings.schema resisted) (im.install job c t v) fun _ => True := by
  have hfree : ∀ v ∈ Phase.prepare.verbs, v ∉ resisted := fun v hv hr => hresisted v hr hv
  have hlist : Yields (Helpful im.settings.schema resisted)
      (Attempt.database .preparation
        (fetchTexts c (listIndicesStatement im.settings.schema t)))
      fun names => names ≠ [] → ∃ s, dropIndicesStatement im.settings.schema names = .ok s := by
    intro h r hp hgood
    obtain ⟨a, hq, rfl⟩ := answered_database.1 hp
    obtain rfl := answered_query.1 hq
    obtain ⟨names, rfl, -, hdrop⟩ := hgood _ (List.mem_singleton_self _)
    exact ⟨names, rfl, hdrop (verb_listIndices _ _)⟩
  have hraise : Yields (Helpful im.settings.schema resisted) (do
      createTrigger c im.settings.schema t (im.stamp job v)
      if im.settings.useViewFacade then
        let _ ← createView c im.settings.schema t) fun _ => True := by
    refine (executeBuilt_yields (writeTriggerStatement_eq _ _ _)
      (verb_writeTrigger (writeTriggerStatement_eq _ _ _)) (hfree _ (by decide))).andThen ?_
    intro _ _
    split
    · next huse =>
      obtain ⟨view, hview⟩ := hviewed huse
      have hs := createViewStatement_eq im.settings.schema hview
      have hname : Identifier.build (viewName t) = .ok view := by rw [hview, Identifier.build_ok]
      refine Yields.andThen (P := fun _ => True) ?_ fun _ _ => .value trivial
      exact (executeBuilt_yields hs (verb_createView hs) (hfree _ (by decide))).andThen
        fun _ _ => .build hname trivial
    · exact .value trivial
  refine hlist.andThen fun names hnames => ?_
  cases names with
  | nil => exact hraise
  | cons name names =>
    have hne : name :: names ≠ [] := List.cons_ne_nil _ _
    obtain ⟨s, hs⟩ := hnames hne
    exact (executeBuilt_yields hs (verb_dropIndices hne hs) (hfree _ (by decide))).andThen
      fun _ _ => hraise

theorem tearDown_succeeds {failures : List Failure}
    (hviewed : im.settings.useViewFacade = true →
      ∃ view, viewName t = .ok view)
    (htrigger : .dropTrigger ∉ resisted) (hview : .dropView ∉ resisted)
    (hp : Answered (im.tearDown c t) h failures) (hgood : ∀ e ∈ h, Helpful schema resisted e) :
    failures = [] := by
  unfold tearDown at hp
  obtain ⟨h₁, h₂, trigger, rfl, hdropped, hrest⟩ := answered_andThen.1 hp
  obtain ⟨_, rfl, -⟩ := executeBuilt_yields (dropTriggerStatement_eq _ _)
    (verb_dropTrigger (dropTriggerStatement_eq im.settings.schema t)) htrigger _ _ hdropped
    fun e he => hgood e (List.mem_append_left _ he)
  have hleft : ∀ e ∈ h₂, Helpful schema resisted e :=
    fun e he => hgood e (List.mem_append_right _ he)
  split at hrest
  · next huse =>
    obtain ⟨view, hname⟩ := hviewed huse
    obtain ⟨h₃, h₄, r, rfl, hdropped', hend⟩ := answered_andThen.1 hrest
    obtain ⟨_, rfl, -⟩ := executeBuilt_yields (dropViewStatement_eq _ hname)
      (verb_dropView (dropViewStatement_eq im.settings.schema hname)) hview _ _ hdropped'
      fun e he => hleft e (List.mem_append_left _ he)
    exact (answered_pure.1 hend).2
  · obtain ⟨h₃, h₄, r, rfl, hnone, hend⟩ := answered_andThen.1 hrest
    obtain ⟨-, rfl⟩ := answered_pure.1 hnone
    exact (answered_pure.1 hend).2

/-! ### Loads that succeed -/

theorem loadInto_ok (hviewed : im.settings.useViewFacade = true →
      ∃ view, viewName t = .ok view) :
    ∃ into, im.loadInto t = .ok into := by
  unfold loadInto
  split
  · next huse =>
    obtain ⟨view, hview⟩ := hviewed huse
    exact ⟨(view, .view), by rw [hview]; rfl⟩
  · exact ⟨_, rfl⟩

/-- A load that is helped sends its one statement and succeeds. -/
theorem load_succeeds {u : Upload} {r : Except Failure String} (haims : Aims job c t)
    (hinto : ∃ into, im.loadInto t = .ok into) (hp : Answered (im.load job u).run h r)
    (hgood : ∀ e ∈ h, Helpful schema resisted e) :
    ∃ answer call, r = .ok answer ∧ sent h = [call] ∧ call.verb? = some .load := by
  obtain ⟨into, hinto⟩ := hinto
  rcases load_cases hp with
    ⟨f, -, -, hlost⟩ | ⟨c', t', relation, into', s, a, -, -, -, hs, rfl, rfl⟩
  · obtain ⟨e, he⟩ := hlost _ _ _ haims.connector haims.table hinto
    cases hgood _ he
  · obtain ⟨texts, rfl, hsome, -⟩ := hgood ⟨.fetchTexts c' s, a⟩ (by simp)
    obtain ⟨text, texts, rfl⟩ := List.exists_cons_of_ne_nil (hsome (verb_load hs))
    exact ⟨text, ⟨c', s⟩, rfl, rfl, verb_load hs⟩

/-- Loads that are helped do not fail, and load what is there. -/
theorem Loads.succeeds {keys : List String} {o : ImportJob × Except Failure Nat}
    (hl : Loads im keys job h o) (haims : Aims job c t) (hinto : ∃ into, im.loadInto t = .ok into)
    (hgood : ∀ e ∈ h, Helpful schema resisted e) :
    o.2 = .ok 0 ∧ ((∃ key ∈ keys, job.uploads.find? key ≠ none) →
      ∃ call ∈ sent h, call.verb? = some .load) := by
  induction hl with
  | finished => exact ⟨rfl, by simp⟩
  | absent hkey _ ih =>
    obtain ⟨hok, hload⟩ := ih haims hgood
    exact ⟨hok, by simpa [hkey] using hload⟩
  | disconnected _ hload | failed _ hload =>
    obtain ⟨answer, call, hr, -⟩ :=
      load_succeeds haims hinto hload fun e he => hgood e (by simp [he])
    cases hr
  | imported hkey hload hrest ih =>
    obtain ⟨answer, call, -, hsent, hverb⟩ :=
      load_succeeds haims hinto hload fun e he => hgood e (List.mem_append_left _ he)
    obtain ⟨hok, -⟩ :=
      ih ⟨haims.connector, haims.table⟩ fun e he => hgood e (List.mem_append_right _ he)
    exact ⟨hok, fun _ => ⟨call, by simp [hsent], hverb⟩⟩

/-! ### Phases that succeed -/

theorem validUploads_afterInspections (hsome : job.validUploads ≠ []) :
    (afterInspections job []).validUploads ≠ [] := by
  obtain ⟨u, hu⟩ := List.exists_mem_of_ne_nil _ hsome
  obtain ⟨⟨key, hkey⟩, hvalid⟩ := mem_validUploads.1 hu
  have hkept : markInvalid u = u := if_pos hvalid
  refine List.ne_nil_of_mem (mem_validUploads.2 ⟨⟨key, ?_⟩, hvalid⟩)
  simp [afterInspections, applyInspections, Dictionary.find?_mapValues, hkey, hkept]

theorem validate_succeeds {o : Outcome} (haims : Aims job c t) (hsome : job.validUploads ≠ [])
    (htrusted : im.inspects = false) (hp : Answered (im.validate job) h o)
    (hgood : ∀ e ∈ h, Helpful schema resisted e) : o.2 = .ok () := by
  have hentries : job.uploads.isEmpty = false := by
    rw [← Bool.not_eq_true, Dictionary.isEmpty, List.isEmpty_iff]
    intro hnone
    exact hsome (by simp [ImportJob.validUploads, Dictionary.values, hnone])
  rcases validate_ends hp with ⟨f, hcheck, -⟩ | ⟨h₁, h₂, found, rfl, -, hfound, rfl⟩
  · obtain ⟨_, hok, -⟩ := checkTarget_yields haims hentries _ _ hcheck hgood
    cases hok
  · rw [if_neg (by simp [htrusted])] at hfound
    obtain ⟨-, rfl⟩ := answered_pure.1 hfound
    have hvalid : (afterInspections job []).validUploads.isEmpty = false := by
      simpa using validUploads_afterInspections hsome
    exact if_neg (Bool.not_eq_true _ ▸ hvalid)

theorem prepare_succeeds {o : Outcome} (haims : Aims job c t) (hversion : job.spaceVersion = none)
    (hcounter : ∃ counter, versionSequence t = .ok counter)
    (hviewed : im.settings.useViewFacade = true →
      ∃ view, viewName t = .ok view)
    (hresisted : ∀ v ∈ resisted, v ∉ Phase.prepare.verbs) (hp : Answered (im.prepare job) h o)
    (hgood : ∀ e ∈ h, Helpful im.settings.schema resisted e) : o.2 = .ok () := by
  cases prepare_cases hp with
  | lost htarget =>
    obtain ⟨_, ha, -⟩ := target_yields haims _ _ htarget hgood
    cases ha
  | @unclaimable c' t' f hc ht hf =>
    obtain ⟨counter, hcounter⟩ := hcounter
    obtain rfl := eq_of_hasTable haims.table ht
    rw [claimStatement, claimStatement_eq _ hcounter] at hf
    cases hf
  | @refused c' t' s e => cases hgood ⟨.fetchInteger c' s, .error e⟩ (by simp)
  | @notFresh c' t' s v _ _ _ hv =>
    have ha : Except.ok v = Except.ok freshVersion := hgood ⟨.fetchInteger c' s, .ok v⟩ (by simp)
    exact absurd (Except.ok.inj ha) hv
  | versionKept _ _ _ he =>
    obtain ⟨w, hw, -⟩ := ImportJob.setSpaceVersion_eq_error_iff.1 he
    rw [hversion] at hw
    cases hw
  | @installed c' t' s job' h' r _ ht _ _ hinstall =>
    obtain rfl := eq_of_hasTable haims.table ht
    obtain ⟨_, hr, -⟩ := install_yields hviewed hresisted _ _ hinstall
      fun e he => hgood e (by simp [he])
    exact hr

theorem execute_succeeds {o : Outcome} (haims : Aims job c t)
    (hinto : ∃ into, im.loadInto t = .ok into) (hp : Answered (im.execute job) h o)
    (hgood : ∀ e ∈ h, Helpful schema resisted e) : o.2 = .ok () := by
  obtain ⟨job', failures, hl, ho⟩ := answered_execute.1 hp
  obtain ⟨hnone, -⟩ := hl.succeeds haims hinto hgood
  dsimp only at hnone
  rcases ho with ⟨f, rfl, -⟩ | ⟨n, rfl, rfl⟩
  · cases hnone
  · cases hnone
    rfl

/-! ### Runs that succeed -/

/-- A job that has nothing of its own in the way of its import. -/
structure Ready (im : Importer) (job : ImportJob) (connector : String) (table : Identifier) :
    Prop where
  aims : Aims job connector table
  enters : job.status.CanAdvanceTo .validating
  unversioned : job.spaceVersion = none
  uploads : job.validUploads ≠ []
  /-- Uploads are taken as they are. -/
  trusted : im.inspects = false
  counted : ∃ counter, versionSequence table = .ok counter
  viewed : im.settings.useViewFacade = true →
    ∃ view, viewName table = .ok view

/-- Phases that are passed leave the target as it was for the next one. -/
theorem Passes.aims {ps : List Phase} (hp : Passes im ps job h job') (haims : Aims job c t)
    (s : Job.Status) : Aims { job' with status := s } c t :=
  ⟨hp.sameTarget.connector ▸ haims.connector, hp.sameTarget.table ▸ haims.table⟩

/-- An import that is only resisted in its finalization does not break off before. -/
theorem breaks_late {h' : History} {p : Phase} (hready : Ready im job c t)
    (hresisted : ∀ v ∈ resisted, v ∉ Phase.prepare.verbs)
    (hpasses : Passes im p.earlier job h job') (hbreaks : Breaks im p job' h' result)
    (hgood : ∀ e ∈ h', Helpful im.settings.schema resisted e) : p = .finalize := by
  obtain @⟨job₂, f, hw, hr, kept, kept', hwork, -⟩ := hbreaks
  have haims := hpasses.aims hready.aims p.running
  have hhelp : ∀ e ∈ hw, Helpful im.settings.schema resisted e := fun e he => hgood e (by simp [he])
  cases p with
  | validate =>
    cases hpasses
    have hok := validate_succeeds haims hready.uploads hready.trusted hwork hhelp
    cases hok
  | prepare =>
    obtain _ | ⟨hvalidate, hnone⟩ := hpasses
    cases hnone
    obtain ⟨uploads, hvalidated⟩ := hvalidate.validated
    have hversion : job'.spaceVersion = none := by rw [hvalidated]; exact hready.unversioned
    have hok := prepare_succeeds haims hversion hready.counted hready.viewed hresisted hwork
      hhelp
    cases hok
  | execute =>
    have hok := execute_succeeds haims (loadInto_ok hready.viewed) hwork hhelp
    cases hok
  | finalize => rfl

/-- An import that is only resisted in its finalization comes as far as that. -/
theorem reaches_finalize (hready : Ready im job c t)
    (hresisted : ∀ v ∈ resisted, v ∉ Phase.prepare.verbs) (hp : Answered (im.run job) h result)
    (hgood : ∀ e ∈ h, Helpful im.settings.schema resisted e) :
    ∃ h₁ h₂ job', h = h₁ ++ h₂ ∧ Passes im Phase.finalize.earlier job h₁ job' ∧
      (Passage im .finalize job' h₂ result ∨ Breaks im .finalize job' h₂ result) := by
  cases progress_of_run hready.enters.1 hp with
  | refused henter =>
    rw [advance_of_canAdvanceTo hready.enters] at henter
    cases henter
  | @broken p job' _ h₁ h₂ hpasses hbreaks =>
    obtain rfl := breaks_late hready hresisted hpasses hbreaks fun e he =>
      hgood e (List.mem_append_right _ he)
    exact ⟨h₁, h₂, job', rfl, hpasses, .inr hbreaks⟩
  | finished hpasses =>
    rw [← Phase.finalize.earlier_append_later] at hpasses
    obtain ⟨h₁, h₂, job', rfl, hearlier, hlast⟩ := hpasses.split
    obtain _ | ⟨hpassage, hnone⟩ := hlast
    cases hnone
    exact ⟨h₁, _, job', rfl, hearlier, .inl (by simpa using hpassage)⟩

/-- An import that is only resisted in its finalization, and breaks off there, does so because what
takes the facade down fails. -/
theorem tornDown_of_breaks (hready : Ready im job c t)
    (hpasses : Passes im Phase.finalize.earlier job h job')
    {h' : History} (hbreaks : Breaks im .finalize job' h' result)
    (hgood : ∀ e ∈ h', Helpful im.settings.schema resisted e) :
    ∃ before hd after failures, h' = before ++ (hd ++ after) ∧ sent after = [] ∧
      Answered (im.tearDown c t) hd failures ∧ failures ≠ [] ∧ result.status = .failed ∧
      result.errorType = some .finalizationFailed := by
  obtain ⟨job₁, job₂, f, hw, hr, e, e', rfl, -, hquiet, hentered, hwork, hrelease, hopen, hend⟩ :=
    hbreaks.parts
  have haims : Aims job₁ c t := hentered ▸ hpasses.aims hready.aims _
  obtain rfl : hr = [] := by
    rcases release_cases hrelease with ⟨-, hnone⟩ | ⟨hmust, -⟩
    · exact hnone
    · cases hmust
  generalize ho : (job₂, Except.error f) = o at hwork
  cases finalized_of_answered hwork with
  | lost htarget =>
    obtain ⟨_, ha, -⟩ := target_yields haims _ _ htarget fun e he => hgood e (by simp [he])
    cases ha
  | @standing c' t' report failures h₁ h₂ h₃ htarget hrebuild hdown hfailures =>
    obtain ⟨_, ha, hct⟩ := target_yields haims _ _ htarget fun e he => hgood e (by simp [he])
    cases ha
    cases hct
    cases ho
    obtain ⟨d, hfailed, -⟩ := failWith_eq hopen
      (.tableCleanupFailed (String.intercalate "; " (failures.map (·.message))))
    rw [hend, hfailed]
    exact ⟨[e] ++ (h₁ ++ h₂), h₃, [e'], failures, by simp, hquiet, hdown, hfailures, rfl, rfl⟩
  | down => cases ho

/-- An import that has nothing of its own in the way comes to its end where it is helped. -/
theorem finalized_of_helpful (hready : Ready im job c t) (hp : Answered (im.run job) h result)
    (hgood : ∀ e ∈ h, Helpful im.settings.schema [] e) : result.status = .finalized := by
  obtain ⟨h₁, h₂, job', rfl, hpasses, hpassage | hbreaks⟩ :=
    reaches_finalize hready (by simp) hp hgood
  · exact hpassage.status
  · have hhelp : ∀ e ∈ h₂, Helpful im.settings.schema [] e := fun e he => hgood e (by simp [he])
    obtain ⟨before, hd, after, failures, rfl, -, hdown, hfailures, -⟩ :=
      tornDown_of_breaks hready hpasses hbreaks hhelp
    exact absurd (tearDown_succeeds hready.viewed (by simp) (by simp) hdown
      fun e he => hhelp e (by simp [he])) hfailures

/-! ### The import of the roads -/

/-- The roads can be imported, into whatever they are loaded. -/
theorem roads_ready (htrusted : im.inspects = false) : Ready im roadsJob "db" roads where
  aims := ⟨rfl, rfl⟩
  enters := by decide
  unversioned := rfl
  uploads := by decide
  trusted := htrusted
  counted := ⟨⟨"roads_version_seq", by decide, by decide⟩, Identifier.withSuffix_eq (by decide)⟩
  viewed := fun _ => ⟨⟨"roads_view", by decide, by decide⟩, Identifier.withSuffix_eq (by decide)⟩

/-- What obliges is not in the way of an import. -/
theorem helpful_of_oblige {resisted : List Verb} {q : Question} :
    Helpful viewImporter.settings.schema resisted ⟨q, oblige q⟩ := by
  have hdrop : (dropIndicesStatement viewImporter.settings.schema ["a"]).isOk = true := by
    decide +kernel
  cases q with
  | connect | fetchInteger => rfl
  | execute => exact fun _ => rfl
  | fetchTexts c s =>
    refine ⟨["a"], rfl, fun _ => by simp, fun _ _ => ?_⟩
    cases hs : dropIndicesStatement viewImporter.settings.schema ["a"] with
    | ok drop => exact ⟨drop, rfl⟩
    | error e =>
      rw [hs] at hdrop
      cases hdrop
  | executeAll | inspect | record | now => trivial

theorem helpful_oblige {α : Type} (p : Action α) :
    ∀ e ∈ (p.carryOut oblige).1, Helpful viewImporter.settings.schema [] e := by
  rintro ⟨q, a⟩ he
  obtain rfl : a = oblige q := answer_of_mem_carryOut he
  exact helpful_of_oblige

example : ((viewImporter.run roadsJob).carryOut oblige).2.status = .finalized :=
  finalized_of_helpful (roads_ready rfl) (answered_carryOut oblige _) (helpful_oblige _)

end Importer

end BulkImport.Import
