import BulkImport.Proofs.Import.Preparation
import BulkImport.Proofs.Table.Batch

/-!
# The agenda of a preparation

What a preparation is to ask of the database is settled before it asks anything, but for the batch
that drops the indices, which depends on the ones that are listed (`agenda`).  It asks one thing
after the other and stops at the first that has no statement or is not answered as it should be
(`Performed`), whichever that is.  So what it asked is the beginning of its agenda, and it succeeds
exactly when it asked all of it and every answer was as it should be (`preparation_stops`).  Of the
job it changes the space version at most.
-/

namespace BulkImport.Import

open BulkImport.Job BulkImport.Sql BulkImport.Table BulkImport.Program

/-! ### Doing one thing after the other -/

/-- The questions of a plan are asked one after the other, up to the first that cannot be put or is
not answered so that one can go on; and whether all of them were. -/
inductive Performed (clear : Exchange Question Answer → Prop) :
    List (Except BuildError Question) → History → Bool → Prop where
  | finished : Performed clear [] [] true
  | unbuildable {e : BuildError} {plan : List (Except BuildError Question)} :
      Performed clear (.error e :: plan) [] false
  | stopped {q : Question} {a : Answer q} {plan : List (Except BuildError Question)}
      (hclear : ¬ clear ⟨q, a⟩) : Performed clear (.ok q :: plan) [⟨q, a⟩] false
  | passed {q : Question} {a : Answer q} {plan : List (Except BuildError Question)} {h : History}
      {done : Bool} (hclear : clear ⟨q, a⟩) (hrest : Performed clear plan h done) :
      Performed clear (.ok q :: plan) (⟨q, a⟩ :: h) done

namespace Performed

variable {clear : Exchange Question Answer → Prop} {plan plan' : List (Except BuildError Question)}
  {h h' : History} {done : Bool}

/-- What was asked is the beginning of the plan. -/
theorem asked_prefix (hp : Performed clear plan h done) :
    h.map (fun e => .ok e.question) <+: plan := by
  induction hp with
  | finished | unbuildable => exact List.nil_prefix
  | stopped _ => exact ⟨_, rfl⟩
  | passed _ _ ih => exact List.cons_prefix_cons.2 ⟨rfl, ih⟩

/-- One went on after every answer but the last. -/
theorem clear_dropLast (hp : Performed clear plan h done) : ∀ e ∈ h.dropLast, clear e := by
  induction hp with
  | finished | unbuildable | stopped _ => exact List.forall_mem_nil _
  | @passed q a plan h done hclear _ ih =>
    cases h with
    | nil => exact List.forall_mem_nil _
    | cons e h => exact List.forall_mem_cons.2 ⟨hclear, ih⟩

/-- All was done exactly when all was asked and one could go on after every answer. -/
theorem done_iff (hp : Performed clear plan h done) :
    done = true ↔ h.length = plan.length ∧ ∀ e ∈ h, clear e := by
  induction hp with
  | finished => simp
  | unbuildable => simp
  | stopped hclear => simp [hclear]
  | passed hclear _ ih => simp [hclear, ih]

/-- Where not all was done, the next question cannot be put or the last answer is in the way. -/
theorem stuck (hp : Performed clear plan h false) :
    (∃ e, plan[h.length]? = some (.error e)) ∨ ∃ e, h.getLast? = some e ∧ ¬ clear e := by
  generalize hdone : false = done at hp
  induction hp with
  | finished => cases hdone
  | unbuildable => exact .inl ⟨_, rfl⟩
  | stopped hclear => exact .inr ⟨_, rfl, hclear⟩
  | passed _ _ ih =>
    rcases ih hdone with ⟨e, he⟩ | ⟨e, he, hclear⟩
    · exact .inl ⟨e, by simpa using he⟩
    · exact .inr ⟨e, by rw [List.getLast?_cons, he]; rfl, hclear⟩

theorem append (hp : Performed clear plan h true) (hp' : Performed clear plan' h' done) :
    Performed clear (plan ++ plan') (h ++ h') done := by
  generalize hdone : true = before at hp
  induction hp with
  | finished => exact hp'
  | unbuildable | stopped _ => cases hdone
  | passed hclear _ ih => exact .passed hclear (ih hdone)

theorem append_of_stuck (hp : Performed clear plan h false) :
    Performed clear (plan ++ plan') h false := by
  generalize hdone : false = before at hp ⊢
  induction hp with
  | finished => cases hdone
  | unbuildable => exact .unbuildable
  | stopped hclear => exact .stopped hclear
  | passed hclear _ ih => exact .passed hclear (ih hdone)

/-- Of two attempts after one another the second is made where all of the first was done. -/
theorem attempt {α β : Type} {x : Attempt α} {f : α → Attempt β} {r : Except Failure β}
    (hp : Answered (x >>= f).run h r)
    (hx : ∀ {h r}, Answered x.run h r → Performed clear plan h r.isOk)
    (hf : ∀ {a h}, Answered (f a).run h r → Performed clear plan' h r.isOk) :
    Performed clear (plan ++ plan') h r.isOk := by
  rcases answered_attempt.1 hp with ⟨e, hfailed, rfl⟩ | ⟨h₁, h₂, a, rfl, hdone, hrest⟩
  · exact (hx hfailed).append_of_stuck
  · exact (hx hdone).append (hf hrest)

/-- The statements that were sent do what those of the plan do, as far as they were sent. -/
theorem verbs {verbs : List Verb} (hp : Performed clear plan h done)
    (hverbs : List.Forall₂ (fun step v => ∀ q, step = .ok q → q.calls.map Call.verb? = [some v])
      plan verbs) : (sent h).map Call.verb? <+: verbs.map some := by
  induction hp generalizing verbs with
  | finished | unbuildable => exact List.nil_prefix
  | stopped _ =>
    cases hverbs with
    | cons hverb _ =>
      rw [sent_cons, sent_nil, List.append_nil, hverb _ rfl]
      exact ⟨_, rfl⟩
  | passed _ _ ih =>
    cases hverbs with
    | cons hverb hverbs =>
      rw [sent_cons, List.map_append, hverb _ rfl]
      exact List.cons_prefix_cons.2 ⟨rfl, ih hverbs⟩

end Performed

/-! ### The agenda -/

/-- A job whose connector and table are known has no others. -/
theorem Located.unique {registry : String → Except Database.Error Unit} {job : ImportJob}
    {c c' : String} {t t' : Identifier} (hl : Located registry job c t)
    (hc : job.targetConnector = some c') (ht : job.targetTable = some t'.text) :
    c = c' ∧ t = t' :=
  ⟨Option.some.inj (hl.hasConnector.symm.trans hc), (eq_of_hasTable hl.hasTable ht).symm⟩

namespace Importer

variable {im : Importer} {job job' : ImportJob} {c : String} {t : Identifier} {h : History}

/-- What is put in place of indices of these names: the batch that drops them where there are any,
then the trigger, and then the view where loads go through one. -/
def installation (im : Importer) (job : ImportJob) (c : String) (t : Identifier)
    (names : List String) : List (Except BuildError Question) :=
  let schema := im.settings.schema
  (if names.isEmpty then [] else [(dropIndicesStatement schema names).map (.execute c)]) ++
    ((writeTriggerStatement schema t (im.stamp job freshVersion)).map (.execute c) ::
      if im.settings.useViewFacade then [(createViewStatement schema t).map (.execute c)] else [])

/-- What a preparation asks, where the indices of these names are listed: it claims the table, lists
its indices, and puts the facade in their place. -/
def agenda (im : Importer) (job : ImportJob) (c : String) (t : Identifier) (names : List String) :
    List (Except BuildError Question) :=
  (Table.claimStatement im.settings.schema t).map (.fetchInteger c) ::
    .ok (.fetchTexts c (listIndicesStatement im.settings.schema t)) ::
      im.installation job c t names

/-- What the statements of a preparation do, where these indices are listed. -/
def agendaVerbs (im : Importer) (names : List String) : List Verb :=
  [.claim, .listIndices] ++ (if names.isEmpty then [] else [.dropIndices]) ++
    .createTrigger :: if im.settings.useViewFacade then [.createView] else []

/-- A preparation goes on after this: a statement was carried out, texts were given, or the first
version was given to a job that has none. -/
def Proceeds (job : ImportJob) : Exchange Question Answer → Prop
  | ⟨.fetchInteger _ _, a⟩ => a = .ok freshVersion ∧ job.spaceVersion = none
  | ⟨.fetchTexts _ _, a⟩ => ∃ texts, a = .ok texts
  | ⟨.execute _ _, a⟩ => a = .ok ()
  | _ => False

/-- The texts that were given first. -/
def listed : History → List String
  | ⟨.fetchTexts _ _, .ok names⟩ :: _ => names
  | _ :: h => listed h
  | [] => []

/-- The whole number that was given first, if one was. -/
def claimed? : History → Option Int64
  | ⟨.fetchInteger _ _, .ok version⟩ :: _ => some version
  | _ :: h => claimed? h
  | [] => none

/-! ### Putting the facade up -/

/-- A statement of the preparation is sent when it is built. -/
theorem executeBuilt_performed {x : Except BuildError Statement} {r : Except Failure Unit}
    (hp : Answered (executeBuilt .preparation c x).run h r) :
    Performed (Proceeds job) [x.map (.execute c)] h r.isOk := by
  rcases executeBuilt_cases hp with ⟨e, rfl, rfl, rfl⟩ | ⟨s, a, rfl, rfl, rfl⟩
  · exact .unbuildable
  · cases a with
    | ok u => exact .passed rfl .finished
    | error e => exact .stopped nofun

/-- The view has a name when its statement is built. -/
theorem createView_performed {schema : Identifier} {r : Except Failure Identifier}
    (hp : Answered (createView c schema t).run h r) :
    Performed (Proceeds job) [(createViewStatement schema t).map (.execute c)] h r.isOk := by
  rcases answered_attempt.1 hp with ⟨f, hfailed, rfl⟩ | ⟨h₁, h₂, u, rfl, hdone, hend⟩
  · exact executeBuilt_performed hfailed
  · obtain ⟨rfl, rfl⟩ := answered_build.1 hend
    rw [List.append_nil]
    rcases executeBuilt_cases hdone with ⟨e, -, -, hr⟩ | ⟨s, a, hs, -, -⟩
    · cases hr
    · obtain ⟨view, hview⟩ := viewName_of_createView hs
      rw [hview]
      exact executeBuilt_performed hdone

theorem install_performed {v : Int64} {r : Except Failure Unit}
    (hstamp : im.stamp job' v = im.stamp job freshVersion)
    (hp : Answered (im.install job' c t v).run h r) :
    Performed (Proceeds job) (.ok (.fetchTexts c (listIndicesStatement im.settings.schema t)) ::
      im.installation job c t (listed h)) h r.isOk := by
  unfold install at hp
  rcases answered_attempt.1 hp with ⟨f, hfetch, rfl⟩ | ⟨h₁, h₂, names, rfl, hfetch, hrest⟩
  · obtain ⟨e, hq, rfl⟩ := answered_database_error.1 hfetch
    obtain rfl := answered_query.1 hq
    exact .stopped nofun
  obtain rfl := answered_query.1 (answered_database_ok.1 hfetch)
  refine .passed ⟨names, rfl⟩ ?_
  -- the trigger and the view are put up in the same way whether or not there is an index to drop
  have hraise : ∀ {h}, Answered (do
      createTrigger c im.settings.schema t (im.stamp job' v)
      if im.settings.useViewFacade then
        let _ ← createView c im.settings.schema t : Attempt Unit).run h r →
      Performed (Proceeds job)
        ([(writeTriggerStatement im.settings.schema t (im.stamp job freshVersion)).map
            (.execute c)] ++
          if im.settings.useViewFacade then
            [(createViewStatement im.settings.schema t).map (.execute c)] else []) h r.isOk := by
    intro h hp
    refine Performed.attempt hp (fun htrigger => ?_) fun hview => ?_
    · rw [← hstamp]
      exact executeBuilt_performed htrigger
    · split at hview
      · next huse =>
        rw [if_pos huse, ← List.append_nil [_]]
        exact Performed.attempt hview createView_performed fun hend => by
          obtain ⟨rfl, rfl⟩ := answered_return.1 hend
          exact .finished
      · next huse =>
        rw [if_neg huse]
        obtain ⟨rfl, rfl⟩ := answered_return.1 hview
        exact .finished
  dsimp only at hrest
  split at hrest
  · next hsome =>
    have hnames : names.isEmpty = false := by simpa using hsome
    show Performed _ (im.installation job c t names) _ _
    rw [installation, hnames]
    exact Performed.attempt hrest executeBuilt_performed hraise
  · next hnone =>
    have hnames : names.isEmpty = true := by simpa using hnone
    show Performed _ (im.installation job c t names) _ _
    rw [installation, hnames]
    exact hraise hrest

/-! ### What its statements do -/

/-- Every statement of the agenda does what it is there for. -/
theorem verbs_of_agenda (im : Importer) (job : ImportJob) (c : String) (t : Identifier)
    (names : List String) :
    List.Forall₂ (fun step v => ∀ q, step = .ok q → q.calls.map Call.verb? = [some v])
      (im.agenda job c t names) (im.agendaVerbs names) := by
  have hexecute : ∀ {x : Except BuildError Statement} {v : Verb},
      (∀ s, x = .ok s → Verb.of? s = some v) →
        ∀ q, x.map (Question.execute c) = .ok q → q.calls.map Call.verb? = [some v] := by
    intro x v hverb q hq
    obtain ⟨s, hs, rfl⟩ := map_eq_ok_iff.1 hq
    exact congrArg (fun verb => [verb]) (hverb s hs)
  refine .cons ?_ (.cons ?_ (List.rel_append ?_ (.cons ?_ ?_)))
  · intro q hq
    obtain ⟨s, hs, rfl⟩ := map_eq_ok_iff.1 hq
    exact congrArg (fun verb => [verb]) (verb_claim hs)
  · rintro q ⟨⟩
    exact congrArg (fun verb => [verb]) (verb_listIndices _ _)
  · cases names with
    | nil => exact .nil
    | cons name names =>
      exact .cons (hexecute fun s hs => verb_dropIndices (List.cons_ne_nil _ _) hs) .nil
  · exact hexecute fun s hs => verb_writeTrigger hs
  · split
    · exact .cons (hexecute fun s hs => verb_createView hs) .nil
    · exact .nil

/-- Something is put in place of indices only if each of them has a name that can be used. -/
theorem nameable_of_installation {names : List String} {done : Bool}
    (hp : Performed (Proceeds job) (im.installation job c t names) h done) (hsome : h ≠ []) :
    ∀ name ∈ names, ∃ index : Identifier, index.text = name := by
  cases names with
  | nil => exact List.forall_mem_nil _
  | cons name names =>
    have hbatch : ∃ s, dropIndicesStatement im.settings.schema (name :: names) = .ok s := by
      cases hdrop : dropIndicesStatement im.settings.schema (name :: names) with
      | ok s => exact ⟨s, rfl⟩
      | error e =>
        rw [installation, hdrop] at hp
        cases hp
        exact absurd rfl hsome
    exact exists_dropIndicesStatement_iff.1 hbatch

/-- Something is executed only if each of the listed indices has a name that can be used. -/
theorem nameable_of_agenda {done : Bool}
    (hp : Performed (Proceeds job) (im.agenda job c t (listed h)) h done) {c' : String}
    {s : Statement} {a : Except Database.Error Unit} (hexecuted : ⟨.execute c' s, a⟩ ∈ h) :
    ∀ name ∈ listed h, ∃ index : Identifier, index.text = name := by
  generalize listed h = names at hp
  cases hclaim : Table.claimStatement im.settings.schema t with
  | error e =>
    rw [agenda, hclaim] at hp
    cases hp
    cases hexecuted
  | ok claim =>
    rw [agenda, hclaim] at hp
    cases hp with
    | stopped _ => simp at hexecuted
    | passed _ hrest =>
      cases hrest with
      | stopped _ => simp at hexecuted
      | passed _ hinstall =>
        refine nameable_of_installation hinstall ?_
        rintro rfl
        simp at hexecuted

/-! ### The whole preparation -/

/-- A preparation whose target is found carries its agenda out, and keeps the version that it was
given where the job has none. -/
theorem prepare_performed {registry : String → Except Database.Error Unit} {o : Outcome}
    (hl : Located registry job c t) (hf : Follows registry h)
    (hp : Answered (im.prepare job) h o) :
    ∃ asked, h = ⟨.connect c, .ok ()⟩ :: asked ∧
      Performed (Proceeds job) (im.agenda job c t (listed asked)) asked o.2.isOk ∧
      o.1 = { job with spaceVersion := job.spaceVersion.or (claimed? asked) } := by
  have hkept : ∀ version, job.spaceVersion = version →
      job = { job with spaceVersion := version } := by
    rintro _ rfl
    rfl
  obtain hprepared := prepare_cases hp
  cases hprepared with
  | lost htarget =>
    obtain ⟨hr, -⟩ := target_located hl hf htarget
    cases hr
  | unclaimable hc ht hclaim =>
    obtain ⟨rfl, rfl⟩ := hl.unique hc ht
    obtain ⟨e, he, -⟩ := mapError_eq_error_iff.1 hclaim
    refine ⟨[], rfl, ?_, hkept _ (Option.or_none).symm⟩
    rw [agenda, he]
    exact .unbuildable
  | refused hc ht hclaim =>
    obtain ⟨rfl, rfl⟩ := hl.unique hc ht
    refine ⟨_, rfl, ?_, hkept _ (Option.or_none).symm⟩
    rw [agenda, mapError_eq_ok_iff.1 hclaim]
    exact .stopped nofun
  | @notFresh c' t' s v hc ht hclaim hv =>
    obtain ⟨rfl, rfl⟩ := hl.unique hc ht
    refine ⟨_, rfl, ?_, ?_⟩
    · rw [agenda, mapError_eq_ok_iff.1 hclaim]
      exact .stopped fun hproceeds => hv (Except.ok.inj hproceeds.1)
    · exact ImportJob.setSpaceVersion_attempted job v
  | versionKept hc ht hclaim herror =>
    obtain ⟨rfl, rfl⟩ := hl.unique hc ht
    obtain ⟨current, hversion, -⟩ := ImportJob.setSpaceVersion_eq_error_iff.1 herror
    refine ⟨_, rfl, ?_, ?_⟩
    · rw [agenda, mapError_eq_ok_iff.1 hclaim]
      refine .stopped fun hproceeds => ?_
      rw [hproceeds.2] at hversion
      cases hversion
    · rw [hversion]
      exact hkept _ hversion
  | installed hc ht hclaim hversion hinstall =>
    obtain ⟨rfl, rfl⟩ := hl.unique hc ht
    obtain ⟨hnone, rfl⟩ := ImportJob.eq_of_setSpaceVersion hversion
    have hstamp : im.stamp { job with spaceVersion := some freshVersion } freshVersion =
        im.stamp job freshVersion := rfl
    refine ⟨_, rfl, ?_, ?_⟩
    · rw [agenda, mapError_eq_ok_iff.1 hclaim]
      exact .passed ⟨rfl, hnone⟩ (install_performed hstamp hinstall)
    · rw [hnone]
      rfl

/-- A preparation of a job for a table asked this once its connector was found, and came to this. -/
structure Stepwise (im : Importer) (job : ImportJob) (c : String) (t : Identifier) (h : History)
    (o : Outcome) : Prop where
  /-- It asked the beginning of its agenda and nothing else. -/
  asked : h.map (fun e => .ok e.question) <+: im.agenda job c t (listed h)
  /-- What it sent claims the table, lists its indices, drops them where there are any, and puts up
  the trigger and then the view where loads go through one, as far as it was sent. -/
  verbs : (sent h).map Call.verb? <+: (im.agendaVerbs (listed h)).map some
  /-- It went on after what was carried out only, and after a claim that gave the first version to a
  job that had none. -/
  proceeded : ∀ e ∈ h.dropLast, Proceeds job e
  /-- It succeeds exactly when it asked all of its agenda and could go on after each answer. -/
  succeeded : o.2 = .ok () ↔
    h.length = (im.agenda job c t (listed h)).length ∧ ∀ e ∈ h, Proceeds job e
  /-- Otherwise the next statement cannot be built, or the last answer is in the way. -/
  stuck : o.2 ≠ .ok () →
    (∃ e, (im.agenda job c t (listed h))[h.length]? = some (.error e)) ∨
      ∃ e, h.getLast? = some e ∧ ¬ Proceeds job e
  /-- Nothing is dropped or created unless every listed index has a name that can be used. -/
  nameable : ∀ c' s a, ⟨.execute c' s, a⟩ ∈ h →
    ∀ name ∈ listed h, ∃ index : Identifier, index.text = name
  /-- The job keeps the version that it was given if it had none, and nothing else changes. -/
  job_eq : o.1 = { job with spaceVersion := job.spaceVersion.or (claimed? h) }

/-- Whatever it is answered, a preparation whose target is found carries its agenda out up to the
first statement that cannot be built or that fails. -/
theorem preparation_stops {registry : String → Except Database.Error Unit} {o : Outcome}
    (hl : Located registry job c t) (hf : Follows registry h)
    (hp : Answered (im.prepare job) h o) :
    ∃ asked, h = ⟨.connect c, .ok ()⟩ :: asked ∧ Stepwise im job c t asked o := by
  obtain ⟨asked, rfl, hperformed, hjob⟩ := prepare_performed hl hf hp
  have hok : o.2 = .ok () ↔ o.2.isOk = true := by
    cases o.2 <;> simp [Except.isOk, Except.toBool]
  refine ⟨asked, rfl, hperformed.asked_prefix, hperformed.verbs (verbs_of_agenda im job c t _),
    hperformed.clear_dropLast, hok.trans hperformed.done_iff, fun hfailed => ?_,
    fun _ _ _ => nameable_of_agenda hperformed, hjob⟩
  rw [ne_eq, hok, Bool.not_eq_true] at hfailed
  exact (hfailed ▸ hperformed).stuck

/-- A database that lists an index whose name has a blank in it, and does all it is asked. -/
def misnaming : (q : Question) → Answer q
  | .fetchTexts _ _ => .ok ["an index"]
  | q => oblige q

/-- What passes while the roads are prepared where one of their indices has such a name. -/
def roadsStopped : History × Outcome := (viewImporter.prepare roadsJob).carryOut misnaming

/-- The preparation of the roads claims them and lists their indices, and stops at a name that
cannot be used. -/
theorem roads_stop :
    Located (fun _ => .ok ()) roadsJob "db" roads ∧ Follows (fun _ => .ok ()) roadsStopped.1 ∧
      (∃ asked, roadsStopped.1 = ⟨.connect "db", .ok ()⟩ :: asked ∧
        Stepwise viewImporter roadsJob "db" roads asked roadsStopped.2) ∧
      roadsStopped.1.length = 3 := by
  have hl : Located (fun _ => .ok ()) roadsJob "db" roads := ⟨rfl, rfl, rfl⟩
  have hf : Follows (fun _ => .ok ()) roadsStopped.1 := fun _ _ ha => answer_of_mem_carryOut ha
  exact ⟨hl, hf, preparation_stops hl hf (answered_carryOut misnaming _), by decide +kernel⟩

end Importer

end BulkImport.Import
