import BulkImport.Import.Run
import BulkImport.Proofs.History
import BulkImport.Proofs.Table.Verb

/-!
# The calls of an import

The statements that an import sends to a database, in the order in which it sends them, and what
each single step adds to them (`executeBuilt_cases`, `claim_cases`, `bulkLoad_cases`).  The target
of a job is looked for in one of a few ways (`Sought`).  A registry is steady when it answers every
look-up of a connector as a function of its name (`Follows`); with a steady registry the target of a
job is found from every stage or from none (`target_located`).
-/

namespace BulkImport.Import

open BulkImport.Job BulkImport.Sql BulkImport.Table BulkImport.Program

/-- What an import asked, and what it was told. -/
abbrev History := List (Exchange Question Answer)

/-- A statement that was sent, and where to. -/
structure Call where
  connector : String
  statement : Statement
deriving DecidableEq

/-- What the statement of a call does. -/
def Call.verb? (c : Call) : Option Verb := Verb.of? c.statement

/-- The calls that a question makes. -/
def Question.calls : Question → List Call
  | execute c s | fetchInteger c s | fetchTexts c s => [⟨c, s⟩]
  | executeAll c ss => ss.map fun s => ⟨c, s⟩
  | _ => []

/-- The calls of a history, in order. -/
def sent (h : History) : List Call := h.flatMap fun e => e.question.calls

@[simp] theorem sent_nil : sent [] = [] := rfl

@[simp] theorem sent_cons (q : Question) (a : Answer q) (h : History) :
    sent (⟨q, a⟩ :: h) = q.calls ++ sent h := rfl

@[simp] theorem sent_append (h h' : History) : sent (h ++ h') = sent h ++ sent h' :=
  List.flatMap_append

theorem mem_sent {h : History} {e : Exchange Question Answer} {call : Call} (he : e ∈ h)
    (hcall : call ∈ e.question.calls) : call ∈ sent h :=
  List.mem_flatMap.2 ⟨e, he, hcall⟩

/-- Statements that are started together, each with its result. -/
def pairResults (connector : String) :
    (ss : List Statement) → Results ss → List (Call × Except Database.Error Unit)
  | [], _ => []
  | s :: ss, (r, results) => (⟨connector, s⟩, r) :: pairResults connector ss results

/-- The calls that a question makes, each with whether it was answered. -/
def Question.replies : (q : Question) → Answer q → List (Call × Except Database.Error Unit)
  | execute c s, a => [(⟨c, s⟩, a)]
  | executeAll c ss, results => pairResults c ss results
  | fetchInteger c s, a => [(⟨c, s⟩, a.map fun _ => ())]
  | fetchTexts c s, a => [(⟨c, s⟩, a.map fun _ => ())]
  | _, _ => []

/-- The calls of a history, each with whether it was answered, in order. -/
def replies (h : History) : List (Call × Except Database.Error Unit) :=
  h.flatMap fun e => e.question.replies e.answer

@[simp] theorem replies_nil : replies [] = [] := rfl

@[simp] theorem replies_cons (q : Question) (a : Answer q) (h : History) :
    replies (⟨q, a⟩ :: h) = q.replies a ++ replies h := rfl

@[simp] theorem replies_append (h h' : History) : replies (h ++ h') = replies h ++ replies h' :=
  List.flatMap_append

theorem map_fst_pairResults (c : String) (ss : List Statement) (results : Results ss) :
    (pairResults c ss results).map Prod.fst = ss.map fun s => ⟨c, s⟩ := by
  induction ss with
  | nil => rfl
  | cons s ss ih =>
    obtain ⟨r, results⟩ := results
    exact congrArg (⟨c, s⟩ :: ·) (ih results)

theorem map_fst_replies (h : History) : (replies h).map Prod.fst = sent h := by
  induction h with
  | nil => rfl
  | cons e h ih =>
    obtain ⟨q, a⟩ := e
    rw [replies_cons, sent_cons, List.map_append, ih]
    cases q with
    | executeAll c ss => rw [Question.replies, map_fst_pairResults, Question.calls]
    | connect | execute | fetchInteger | fetchTexts | inspect | record | now => rfl

theorem replies_of_silent {h : History} (hsilent : sent h = []) : replies h = [] := by
  rw [← List.map_eq_nil_iff, map_fst_replies, hsilent]

theorem call_of_reply {h : History} {reply : Call × Except Database.Error Unit}
    (hreply : reply ∈ replies h) : reply.1 ∈ sent h := by
  rw [← map_fst_replies]
  exact List.mem_map_of_mem hreply

/-- The jobs that a history records, in order. -/
def recorded (h : History) : List ImportJob :=
  h.filterMap fun e =>
    match e.question with
    | .record job => some job
    | _ => none

@[simp] theorem recorded_nil : recorded [] = [] := rfl

@[simp] theorem recorded_record (job : ImportJob) (kept : Bool) (h : History) :
    recorded (⟨.record job, kept⟩ :: h) = job :: recorded h := rfl

@[simp] theorem recorded_append (h h' : History) :
    recorded (h ++ h') = recorded h ++ recorded h' :=
  List.filterMap_append

/-- A history makes these calls, and records no job. -/
structure Sends (h : History) (calls : List Call) : Prop where
  sent : sent h = calls
  unrecorded : recorded h = []

theorem Sends.append {h h' : History} {calls calls' : List Call} (hs : Sends h calls)
    (hs' : Sends h' calls') : Sends (h ++ h') (calls ++ calls') := by
  constructor
  · rw [sent_append, hs.sent, hs'.sent]
  · rw [recorded_append, hs.unrecorded, hs'.unrecorded, List.append_nil]

/-- Each of these calls does one of these things. -/
def Does (verbs : List Verb) (calls : List Call) : Prop :=
  ∀ c ∈ calls, ∃ v ∈ verbs, c.verb? = some v

theorem does_nil (verbs : List Verb) : Does verbs [] := fun _ hc => absurd hc List.not_mem_nil

theorem does_singleton {v : Verb} {verbs : List Verb} {c : Call} (hv : v ∈ verbs)
    (hc : c.verb? = some v) : Does verbs [c] := by
  intro c' hc'
  obtain rfl := List.mem_singleton.1 hc'
  exact ⟨v, hv, hc⟩

theorem Does.append {verbs : List Verb} {calls calls' : List Call} (h : Does verbs calls)
    (h' : Does verbs calls') : Does verbs (calls ++ calls') := by
  intro c hc
  rcases List.mem_append.1 hc with hc | hc
  · exact h c hc
  · exact h' c hc

theorem Does.mono {verbs verbs' : List Verb} {calls : List Call} (h : Does verbs calls)
    (hsub : ∀ v ∈ verbs, v ∈ verbs') : Does verbs' calls := by
  intro c hc
  obtain ⟨v, hv, hverb⟩ := h c hc
  exact ⟨v, hsub v hv, hverb⟩

/-- Every look-up of a connector is answered as the registry says. -/
def Follows (registry : String → Except Database.Error Unit) (h : History) : Prop :=
  ∀ c a, ⟨.connect c, a⟩ ∈ h → a = registry c

theorem follows_append {registry : String → Except Database.Error Unit} {h h' : History} :
    Follows registry (h ++ h') ↔ Follows registry h ∧ Follows registry h' := by
  constructor
  · exact fun hf => ⟨fun c a ha => hf c a (List.mem_append_left _ ha),
      fun c a ha => hf c a (List.mem_append_right _ ha)⟩
  · rintro ⟨hf, hf'⟩ c a ha
    rcases List.mem_append.1 ha with ha | ha
    · exact hf c a ha
    · exact hf' c a ha

theorem follows_cons {registry : String → Except Database.Error Unit}
    {e : Exchange Question Answer} {h : History} (hf : Follows registry (e :: h)) :
    Follows registry h :=
  fun c a ha => hf c a (List.mem_cons_of_mem _ ha)

theorem Does.verb_ne {verbs : List Verb} {calls : List Call} {v : Verb} (h : Does verbs calls)
    (hv : v ∉ verbs) : ∀ c ∈ calls, c.verb? ≠ some v := by
  intro c hc hverb
  obtain ⟨w, hw, hw'⟩ := h c hc
  rw [hverb] at hw'
  cases hw'
  exact hv hw

/-! ### Questions -/

theorem answered_database {α : Type} {stage : Stage} {call : Action (Except Database.Error α)}
    {h : History} {r : Except Failure α} :
    Answered (Attempt.database stage call).run h r ↔
      ∃ a, Answered call h a ∧ r = a.mapError (Failure.ofDatabase stage) := by
  rw [Attempt.database, ExceptT.run_mk, answered_andThen]
  constructor
  · rintro ⟨h₁, h₂, a, rfl, hc, hr⟩
    obtain ⟨rfl, rfl⟩ := answered_pure.1 hr
    exact ⟨a, by rwa [List.append_nil], rfl⟩
  · rintro ⟨a, hc, rfl⟩
    exact ⟨h, [], a, (List.append_nil h).symm, hc, answered_pure.2 ⟨rfl, rfl⟩⟩

theorem answered_database_ok {α : Type} {stage : Stage} {call : Action (Except Database.Error α)}
    {h : History} {a : α} :
    Answered (Attempt.database stage call).run h (.ok a) ↔ Answered call h (.ok a) := by
  rw [answered_database]
  refine ⟨fun ⟨x, hx, ha⟩ => ?_, fun hx => ⟨_, hx, rfl⟩⟩
  rwa [mapError_eq_ok_iff.1 ha.symm] at hx

theorem answered_database_error {α : Type} {stage : Stage}
    {call : Action (Except Database.Error α)} {h : History} {f : Failure} :
    Answered (Attempt.database stage call).run h (.error f) ↔
      ∃ e, Answered call h (.error e) ∧ f = .ofDatabase stage e := by
  rw [answered_database]
  constructor
  · rintro ⟨x, hx, hf⟩
    obtain ⟨e, rfl, rfl⟩ := mapError_eq_error_iff.1 hf.symm
    exact ⟨e, hx, rfl⟩
  · rintro ⟨e, hx, rfl⟩
    exact ⟨_, hx, rfl⟩

theorem answered_build {α : Type} {stage : Stage} {x : Except BuildError α} {h : History}
    {r : Except Failure α} :
    Answered (Attempt.build stage x).run h r ↔
      h = [] ∧ r = x.mapError (Failure.ofBuild stage) := by
  rw [Attempt.build, ExceptT.run_mk, answered_pure]

theorem answered_build_ok {α : Type} {stage : Stage} {x : Except BuildError α} {h : History}
    {a : α} : Answered (Attempt.build stage x).run h (.ok a) ↔ h = [] ∧ x = .ok a := by
  rw [answered_build, @eq_comm _ (Except.ok a), mapError_eq_ok_iff]

theorem answered_build_error {α : Type} {stage : Stage} {x : Except BuildError α} {h : History}
    {f : Failure} : Answered (Attempt.build stage x).run h (.error f) ↔
      h = [] ∧ ∃ e, x = .error e ∧ f = .ofBuild stage e := by
  rw [answered_build, @eq_comm _ (Except.error f), mapError_eq_error_iff]

theorem build_map {α β : Type} (stage : Stage) (f : α → β) (x : Except BuildError α) :
    Attempt.build stage (x.map f) = f <$> Attempt.build stage x := by
  cases x <;> rfl

theorem build_ok_bind {α β : Type} {stage : Stage} (a : α) (k : α → Attempt β) :
    (Attempt.build stage (.ok a) >>= k) = k a :=
  rfl

theorem answered_record {job : ImportJob} {h : History} {u : Unit} :
    Answered (record job) h u ↔ ∃ kept, h = [⟨.record job, kept⟩] := by
  rw [record, answered_andThen]
  constructor
  · rintro ⟨h₁, h₂, kept, rfl, hq, hend⟩
    obtain rfl := answered_query.1 hq
    obtain ⟨rfl, -⟩ := answered_pure.1 hend
    exact ⟨kept, rfl⟩
  · rintro ⟨kept, rfl⟩
    exact ⟨_, [], kept, rfl, answered_query.2 rfl, answered_pure.2 ⟨rfl, rfl⟩⟩

/-! ### The target of a job -/

/-- The connector of a job is known and its table has a name that can be used. -/
structure Located (registry : String → Except Database.Error Unit) (job : ImportJob)
    (connector : String) (table : Identifier) : Prop where
  known : registry connector = .ok ()
  hasConnector : job.targetConnector = some connector
  hasTable : job.targetTable = some table.text

theorem Located.sameTarget {registry : String → Except Database.Error Unit}
    {job job' : ImportJob} {c : String} {t : Identifier} (hl : Located registry job c t)
    (hc : job'.targetConnector = job.targetConnector) (ht : job'.targetTable = job.targetTable) :
    Located registry job' c t :=
  ⟨hl.known, hc.trans hl.hasConnector, ht.trans hl.hasTable⟩

/-- A table is known by its name. -/
theorem eq_of_hasTable {name : Option String} {t t' : Identifier} (ht : name = some t.text)
    (ht' : name = some t'.text) : t' = t :=
  Identifier.ext (Option.some.inj (ht'.symm.trans ht))

/-- How the target of a job is looked for: what is asked on the way, and how it ends. -/
inductive Sought (stage : Stage) (job : ImportJob) :
    History → Except Failure (String × Identifier) → Prop where
  | noConnector (hc : job.targetConnector = none) :
      Sought stage job []
        (.error (.ofDatabase stage (.configuration "job has no target connector")))
  | unknown {c : String} {e : Database.Error} (hc : job.targetConnector = some c) :
      Sought stage job [⟨.connect c, .error e⟩] (.error (.ofDatabase stage e))
  | noTable {c : String} (hc : job.targetConnector = some c) (ht : job.targetTable = none) :
      Sought stage job [⟨.connect c, .ok ()⟩]
        (.error (.ofDatabase stage (.configuration "job has no target table")))
  | misnamed {c name : String} {e : IdentifierError} (hc : job.targetConnector = some c)
      (ht : job.targetTable = some name) (hname : Identifier.ofText name = .error e) :
      Sought stage job [⟨.connect c, .ok ()⟩] (.error (.ofBuild stage (.identifier e)))
  | found {c : String} {t : Identifier} (hc : job.targetConnector = some c)
      (ht : job.targetTable = some t.text) :
      Sought stage job [⟨.connect c, .ok ()⟩] (.ok (c, t))

theorem sought_of_answered {stage : Stage} {job : ImportJob} {h : History}
    {r : Except Failure (String × Identifier)} (hp : Answered (target stage job).run h r) :
    Sought stage job h r := by
  unfold target at hp
  cases hc : job.targetConnector with
  | none =>
    rw [hc] at hp
    obtain ⟨rfl, rfl⟩ := answered_throw.1 hp
    exact .noConnector hc
  | some c =>
    rw [hc] at hp
    rcases answered_attempt.1 hp with ⟨f, hconnect, rfl⟩ | ⟨h₁, h₂, u, rfl, hconnect, hrest⟩
    · obtain ⟨e, hq, rfl⟩ := answered_database_error.1 hconnect
      obtain rfl := answered_query.1 hq
      exact .unknown hc
    obtain rfl := answered_query.1 (answered_database_ok.1 hconnect)
    cases ht : job.targetTable with
    | none =>
      rw [ht] at hrest
      obtain ⟨rfl, rfl⟩ := answered_throw.1 hrest
      exact .noTable hc ht
    | some name =>
      rw [ht] at hrest
      rcases answered_attempt.1 hrest with ⟨f, hb, rfl⟩ | ⟨h₃, h₄, t, rfl, hb, hend⟩
      · obtain ⟨rfl, e, hbuilt, rfl⟩ := answered_build_error.1 hb
        obtain ⟨e, hname, rfl⟩ := mapError_eq_error_iff.1 hbuilt
        exact .misnamed hc ht hname
      · obtain ⟨rfl, hbuilt⟩ := answered_build_ok.1 hb
        obtain ⟨rfl, rfl⟩ := answered_return.1 hend
        refine .found hc ?_
        rw [ht, Identifier.text_of_ofText (mapError_eq_ok_iff.1 hbuilt)]

/-- Finding the target of a job asks for its connector at most, and finds what the job says. -/
theorem target_cases {stage : Stage} {job : ImportJob} {h : History}
    {r : Except Failure (String × Identifier)} (hp : Answered (target stage job).run h r) :
    (∃ f, r = .error f ∧ Sends h []) ∨
      ∃ c t, r = .ok (c, t) ∧ job.targetConnector = some c ∧ job.targetTable = some t.text ∧
        h = [⟨.connect c, .ok ()⟩] := by
  cases sought_of_answered hp with
  | noConnector | unknown | noTable | misnamed => exact .inl ⟨_, rfl, rfl, rfl⟩
  | found hc ht => exact .inr ⟨_, _, rfl, hc, ht, rfl⟩

/-- A target whose table has a usable name is lost with its connector only. -/
theorem target_lost {stage : Stage} {job : ImportJob} {h : History} {t : Identifier} {f : Failure}
    (ht : job.targetTable = some t.text) (hp : Answered (target stage job).run h (.error f)) :
    (job.targetConnector = none ∧ h = []) ∨
      ∃ c e, job.targetConnector = some c ∧ h = [⟨.connect c, .error e⟩] := by
  cases sought_of_answered hp with
  | noConnector hc => exact .inl ⟨hc, rfl⟩
  | unknown hc => exact .inr ⟨_, _, hc, rfl⟩
  | noTable _ hnone =>
    rw [ht] at hnone
    cases hnone
  | misnamed _ ht' hname =>
    obtain rfl := Option.some.inj (ht.symm.trans ht')
    rw [t.ofText_text] at hname
    cases hname

theorem isPrecondition_ofDatabase {stage : Stage} (hstage : stage ≠ .validation)
    (e : Database.Error) : (Failure.ofDatabase stage e).isPrecondition = false := by
  cases e <;> cases stage <;> simp_all [Failure.ofDatabase, Failure.isPrecondition]

theorem isPrecondition_unexpected {stage : Stage} (hstage : stage ≠ .validation) (m : String) :
    (Failure.unexpected stage m).isPrecondition = false := by
  cases stage <;> simp_all [Failure.isPrecondition]

/-- Once an import is validated, a target that is not found does not count as found before a
change. -/
theorem target_failure {stage : Stage} {job : ImportJob} {h : History} {f : Failure}
    (hstage : stage ≠ .validation) (hp : Answered (target stage job).run h (.error f)) :
    f.isPrecondition = false := by
  cases sought_of_answered hp with
  | noConnector | unknown | noTable => exact isPrecondition_ofDatabase hstage _
  | misnamed => exact isPrecondition_unexpected hstage _

theorem sends_target {stage : Stage} {job : ImportJob} {h : History}
    {r : Except Failure (String × Identifier)} (hp : Answered (target stage job).run h r) :
    Sends h [] := by
  rcases target_cases hp with ⟨_, _, hs⟩ | ⟨c, t, _, _, _, rfl⟩
  · exact hs
  · exact ⟨rfl, rfl⟩

/-- A job whose target can be found has it found from every stage. -/
theorem target_located {registry : String → Except Database.Error Unit} {stage : Stage}
    {job : ImportJob} {h : History} {c : String} {t : Identifier}
    {r : Except Failure (String × Identifier)} (hl : Located registry job c t)
    (hf : Follows registry h) (hp : Answered (target stage job).run h r) :
    r = .ok (c, t) ∧ h = [⟨.connect c, .ok ()⟩] := by
  cases r with
  | error f =>
    rcases target_lost hl.hasTable hp with ⟨hnone, -⟩ | ⟨c', e, hc, rfl⟩
    · rw [hl.hasConnector] at hnone
      cases hnone
    · -- the registry knows the connector, so this look-up did not fail
      obtain rfl := Option.some.inj (hl.hasConnector.symm.trans hc)
      have hknown := hf c (.error e) (List.mem_singleton_self _)
      rw [hl.known] at hknown
      cases hknown
  | ok found =>
    rcases target_cases hp with ⟨f, hr, -⟩ | ⟨c', t', hr, hc, ht, rfl⟩
    · cases hr
    · obtain rfl := Except.ok.inj hr
      obtain rfl := Option.some.inj (hl.hasConnector.symm.trans hc)
      obtain rfl := eq_of_hasTable hl.hasTable ht
      exact ⟨rfl, rfl⟩

/-! ### Single steps -/

theorem tableExists_cases {connector : String} {schema table : Identifier} {h : History}
    {r : Except Database.Error Bool} (hp : Answered (tableExists connector schema table) h r) :
    ∃ a, h = [⟨.fetchInteger connector (existsStatement schema table), a⟩] ∧
      r = a.map fun n => decide (0 < n) := by
  obtain ⟨h₁, h₂, a, rfl, hq, hend⟩ := answered_andThen.1 hp
  obtain rfl := answered_query.1 hq
  obtain ⟨rfl, rfl⟩ := answered_pure.1 hend
  exact ⟨a, rfl, rfl⟩

theorem verb_claimed {schema table : Identifier} {s : Statement}
    (h : claimStatement schema table = .ok s) : Verb.of? s = some .claim :=
  verb_claim (mapError_eq_ok_iff.1 h)

/-- A claim fails before anything is sent, or asks for the next version and has it when that is
the first. -/
theorem claim_cases {connector : String} {schema table : Identifier} {h : History}
    {r : Except Failure Int64} (hp : Answered (claim connector schema table).run h r) :
    (∃ f, claimStatement schema table = .error f ∧ h = [] ∧ r = .error f) ∨
      ∃ s a, claimStatement schema table = .ok s ∧ h = [⟨.fetchInteger connector s, a⟩] ∧
        ((∃ e, a = .error e ∧ r = .error (.ofDatabase .preparation e)) ∨
          (a = .ok freshVersion ∧ r = .ok freshVersion) ∨
          ∃ v, v ≠ freshVersion ∧ a = .ok v ∧ r = .error (.sequenceNotZero v)) := by
  unfold claim at hp
  rcases answered_attempt.1 hp with ⟨f, hb, rfl⟩ | ⟨h₁, h₂, s, rfl, hb, hrest⟩
  · rw [ExceptT.run_mk, answered_pure] at hb
    exact .inl ⟨f, hb.2.symm, hb.1, rfl⟩
  rw [ExceptT.run_mk, answered_pure] at hb
  obtain ⟨rfl, hs⟩ := hb
  refine .inr ?_
  rcases answered_attempt.1 hrest with ⟨f, hfetch, rfl⟩ | ⟨h₃, h₄, v, rfl, hfetch, hend⟩
  · obtain ⟨e, hq, rfl⟩ := answered_database_error.1 hfetch
    obtain rfl := answered_query.1 hq
    exact ⟨s, _, hs.symm, rfl, .inl ⟨e, rfl, rfl⟩⟩
  · obtain rfl := answered_query.1 (answered_database_ok.1 hfetch)
    by_cases hv : v = freshVersion
    · rw [if_pos hv] at hend
      obtain ⟨rfl, rfl⟩ := answered_return.1 hend
      subst hv
      exact ⟨s, _, hs.symm, rfl, .inr (.inl ⟨rfl, rfl⟩)⟩
    · rw [if_neg hv] at hend
      obtain ⟨rfl, rfl⟩ := answered_throw.1 hend
      exact ⟨s, _, hs.symm, rfl, .inr (.inr ⟨v, hv, rfl, rfl⟩)⟩

/-- A statement is sent once it is built. -/
theorem executeBuilt_cases {stage : Stage} {connector : String} {x : Except BuildError Statement}
    {h : History} {r : Except Failure Unit}
    (hp : Answered (executeBuilt stage connector x).run h r) :
    (∃ e, x = .error e ∧ h = [] ∧ r = .error (.ofBuild stage e)) ∨
      ∃ s a, x = .ok s ∧ h = [⟨.execute connector s, a⟩] ∧
        r = a.mapError (Failure.ofDatabase stage) := by
  unfold executeBuilt at hp
  rcases answered_attempt.1 hp with ⟨f, hb, rfl⟩ | ⟨h₁, h₂, s, rfl, hb, hrest⟩
  · obtain ⟨rfl, e, rfl, rfl⟩ := answered_build_error.1 hb
    exact .inl ⟨e, rfl, rfl, rfl⟩
  · obtain ⟨rfl, rfl⟩ := answered_build_ok.1 hb
    obtain ⟨a, hq, rfl⟩ := answered_database.1 hrest
    obtain rfl := answered_query.1 hq
    exact .inr ⟨s, a, rfl, rfl, rfl⟩

/-- A load is always sent. -/
theorem bulkLoad_cases {connector : String} {schema relation : Identifier}
    {format : Option CsvFormat} {t : LoadTarget} {request : LoadRequest} {h : History}
    {r : Except Database.Error String}
    (hp : Answered (bulkLoad connector schema relation format t request) h r) :
    ∃ s a, loadStatement schema relation format t request = .ok s ∧
      h = [⟨.fetchTexts connector s, a⟩] ∧ r = a.bind (Database.firstText s.text) := by
  unfold bulkLoad at hp
  cases hs : loadStatement schema relation format t request with
  | error e =>
    rw [loadStatement_eq] at hs
    cases hs
  | ok s =>
    rw [hs] at hp
    obtain ⟨h₁, h₂, a, rfl, hq, hend⟩ := answered_andThen.1 hp
    obtain rfl := answered_query.1 hq
    obtain ⟨rfl, rfl⟩ := answered_pure.1 hend
    exact ⟨s, a, rfl, rfl, rfl⟩

/-! ### A small import -/

/-- Every statement is carried out, every number is one, and every text is `a`. -/
def oblige : (q : Question) → Answer q
  | .connect _ | .execute _ _ => .ok ()
  | .executeAll _ ss => obligeAll ss
  | .fetchInteger _ _ => .ok 1
  | .fetchTexts _ _ => .ok ["a"]
  | .inspect _ _ => .ok none
  | .record _ => true
  | .now => 0
where
  /-- The result of statements that are all carried out. -/
  obligeAll : (ss : List Statement) → Results ss
    | [] => ()
    | _ :: ss => (.ok (), obligeAll ss)

theorem follows_oblige {α : Type} (p : Action α) :
    Follows (fun _ => .ok ()) (p.carryOut oblige).1 :=
  fun _ _ ha => answer_of_mem_carryOut ha

/-- Imports through a view that build no indices. -/
def viewImporter : Importer where
  settings :=
    { schema := ⟨"geo", by decide, by decide⟩
      layout := .legacy
      segments := []
      useViewFacade := true
      statusSchema := ⟨"geo", by decide, by decide⟩
      statusTable := ⟨"status", by decide, by decide⟩
      author := "import" }

/-- A job with one file for the table `roads`. -/
def roadsJob : ImportJob where
  targetConnector := some "db"
  targetTable := some "roads"
  uploads := Dictionary.empty.insert "f"
    { filename := "f", key := "k", bucket := "b", region := "r", valid := true }

/-- The table of the roads. -/
def Importer.roads : Identifier := ⟨"roads", by decide, by decide⟩

end BulkImport.Import
