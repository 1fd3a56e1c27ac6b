import BulkImport.Proofs.Scheduler.Interleaving
import BulkImport.Proofs.Surroundings
import Mathlib.Logic.Function.Basic

/-!
# The repository as a map

What the repository does with the jobs in memory is what can be said of a map from names to jobs
(`onMap`): a new job is put under its name if its space admits it and nothing is there, a changed
one is put there in any case, and taking a job out leaves nothing there.  Each operation gives the
result and leaves the contents that it has on the map (`carryOut_onMap`), and so does any sequence
of them, whatever the statistics answer each time (`repository_as_map`).

An operation that fails leaves the store as it is, none reaches an entry of another name, and a new
job replaces nothing (`Atomic`, `atomic`).
-/

namespace BulkImport.Store

open BulkImport.Job BulkImport.Program
open BulkImport.Scheduler (Named named_empty)

/-! ### Operations -/

/-- An operation of the repository on the job of one name. -/
inductive Operation where
  | store (job : Job)
  | update (job : Job)
  | record (job : ImportJob)
  | find (name : String)
  | delete (name : String)

/-- What an operation gives when it succeeds. -/
abbrev Operation.Result : Operation → Type
  | .store _ => Job
  | .update _ => Job
  | .record _ => Unit
  | .find _ => Option Job
  | .delete _ => Option Job

/-- What the repository does for an operation. -/
def Operation.attempt : (op : Operation) → Attempt op.Result
  | .store job => Store.store job
  | .update job => Store.update job
  | .record job => Store.record job
  | .find name => Store.find name
  | .delete name => Store.delete name

/-- What an operation meets with: what the statistics answer, the time, and a name to give. -/
structure Occasion where
  countFeatures : String → Except Error (Option Int64)
  now : Int64
  freshId : String

namespace Occasion

/-- A job as it is stored when it comes new. -/
def stamped (o : Occasion) (job : Job) : Job :=
  job.withEnvelope (stampNew o.now o.freshId job.envelope)

/-- A job as it is stored when it has changed. -/
def changed (o : Occasion) (job : Job) : Job :=
  job.withEnvelope { job.envelope with updatedAt := o.now }

/-- Why the target space of a new job does not admit it, if that is so. -/
def refusal? (o : Occasion) (job : Job) : Option Error :=
  match job.envelope.targetSpaceId with
  | none => none
  | some space =>
    match o.countFeatures space with
    | .error e => some e
    | .ok none => none
    | .ok (some n) => if n = 0 then none else some (.preconditionFailed "Layer is not empty!")

end Occasion

/-- The name whose entry an operation is about. -/
def Operation.name (o : Occasion) : Operation → String
  | .store job => (o.stamped job).id
  | .update job => job.id
  | .record job => job.id
  | .find name => name
  | .delete name => name

/-- The result of an operation on the jobs in memory, and the memory after it. -/
def carryOut (o : Occasion) (op : Operation) (m : Memory) : Except Error op.Result × Memory :=
  op.attempt.run.runWith (Memory.answer o.countFeatures o.now o.freshId) m

/-! ### The map -/

/-- The job under each name. -/
abbrev Contents := String → Option Job

/-- Whether a new job comes into a map, and the map after that. -/
def takeIn (o : Occasion) (job : Job) (c : Contents) : Except Error Job × Contents :=
  match o.refusal? job, c (o.stamped job).id with
  | some e, _ => (.error e, c)
  | none, some _ => (.error (.conflict (o.stamped job).id), c)
  | none, none =>
    (.ok (o.stamped job), Function.update c (o.stamped job).id (some (o.stamped job)))

/-- The result of an operation on a map, and the map after it. -/
def onMap (o : Occasion) : (op : Operation) → Contents → Except Error op.Result × Contents
  | .store job, c => takeIn o job c
  | .update job, c => (.ok (o.changed job), Function.update c job.id (some (o.changed job)))
  | .record job, c =>
    (.ok (), Function.update c job.id (some (o.changed (.importing job))))
  | .find name, c => (.ok (c name), c)
  | .delete name, c => (.ok (c name), Function.update c name none)

/-! ### Names -/

@[simp] theorem envelope_withEnvelope (job : Job) (e : Envelope) :
    (job.withEnvelope e).envelope = e := by
  cases job <;> rfl

@[simp] theorem Occasion.changed_id (o : Occasion) (job : Job) : (o.changed job).id = job.id := by
  simp [Occasion.changed, Job.id]

/-- A new job keeps the name that it has, and is given one that is not in use otherwise. -/
theorem Occasion.stamped_id (o : Occasion) (job : Job) :
    (o.stamped job).id = if job.id = "" then o.freshId else job.id := by
  simp only [Occasion.stamped, Job.id, envelope_withEnvelope, stampNew]
  rfl

/-! ### Carrying an operation out -/

variable (o : Occasion) (m : Memory)

theorem runWith_checkSpace (job : Job) :
    (checkSpace job).run.runWith (Memory.answer o.countFeatures o.now o.freshId) m =
      ((o.refusal? job).elim (.ok ()) .error, m) := by
  unfold checkSpace Occasion.refusal?
  cases job.envelope.targetSpaceId with
  | none => rfl
  | some space =>
    have hcounted : runWith (Memory.answer o.countFeatures o.now o.freshId)
        (ExceptT.mk (query (Question.countFeatures space))).run m =
          (o.countFeatures space, m) := rfl
    dsimp only
    rw [runWith_attempt, hcounted]
    cases o.countFeatures space with
    | error e => rfl
    | ok count =>
      cases count with
      | none => rfl
      | some n =>
        by_cases hn : n = 0
        · simp only [hn, if_true]
          rfl
        · simp only [hn, if_false]
          rfl

/-- A new job is refused for its space, or else for its name, or else stored. -/
theorem carryOut_store (job : Job) :
    carryOut o (.store job) m =
      match o.refusal? job, m.insertNew (o.stamped job) with
      | some e, _ => (.error e, m)
      | none, .error e => (.error e, m)
      | none, .ok m' => (.ok (o.stamped job), m') := by
  have hname : ∃ name, (nameFor job).runWith (Memory.answer o.countFeatures o.now o.freshId) m =
      (name, m) ∧ stampNew o.now name job.envelope = stampNew o.now o.freshId job.envelope := by
    unfold nameFor
    by_cases hid : job.id = ""
    · rw [if_pos hid]
      exact ⟨o.freshId, rfl, rfl⟩
    · rw [if_neg hid]
      have hid' : ¬ job.envelope.id = "" := hid
      exact ⟨job.id, rfl, by simp only [stampNew, hid', if_false]⟩
  obtain ⟨name, hname, hstamped⟩ := hname
  unfold carryOut Operation.attempt Store.store
  rw [runWith_attempt, runWith_checkSpace]
  cases o.refusal? job with
  | some e => rfl
  | none =>
    have hnow : (query Question.now).runWith (Memory.answer o.countFeatures o.now o.freshId) m =
        (o.now, m) := rfl
    have hinsert : runWith (Memory.answer o.countFeatures o.now o.freshId)
        (ExceptT.mk (query (Question.insert (o.stamped job)))).run m =
          Memory.answer o.countFeatures o.now o.freshId (.insert (o.stamped job)) m := rfl
    dsimp only [Option.elim_none]
    rw [runWith_attempt, runWith_lift, hnow]
    dsimp only
    rw [runWith_attempt, runWith_lift, hname]
    dsimp only
    rw [runWith_attempt, hstamped, ← Occasion.stamped, hinsert, Memory.answer]
    cases m.insertNew (o.stamped job) with
    | error e => rfl
    | ok m' => rfl

theorem carryOut_update (job : Job) :
    carryOut o (.update job) m = (.ok (o.changed job), m.replace (o.changed job)) := rfl

theorem carryOut_record (job : ImportJob) :
    carryOut o (.record job) m = (.ok (), m.replace (o.changed (.importing job))) := rfl

/-! ### The memory and the map -/

theorem find?_insertNew_eq {m m' : Memory} {job : Job} (h : m.insertNew job = .ok m') :
    m'.find? = Function.update m.find? job.id (some job) := by
  funext name
  rw [Memory.find?_insertNew h, Function.update_apply]

theorem find?_replace_eq (job : Job) :
    (m.replace job).find? = Function.update m.find? job.id (some job) := by
  funext name
  rw [Memory.find?_replace, Function.update_apply]

theorem find?_erase_eq (name : String) :
    (m.erase name).find? = Function.update m.find? name none := by
  funext other
  rw [Dictionary.find?_erase, Function.update_apply]

/-- An operation gives the result that it has on the map, and leaves its contents. -/
theorem carryOut_onMap (op : Operation) :
    (carryOut o op m).1 = (onMap o op m.find?).1 ∧
      (carryOut o op m).2.find? = (onMap o op m.find?).2 := by
  cases op with
  | store job =>
    rw [carryOut_store, onMap, takeIn]
    cases o.refusal? job with
    | some e => exact ⟨rfl, rfl⟩
    | none =>
      cases hinsert : m.insertNew (o.stamped job) with
      | error e =>
        obtain ⟨htaken, rfl⟩ := Memory.insertNew_eq_error_iff.1 hinsert
        obtain ⟨stored, hstored⟩ := Option.isSome_iff_exists.1 htaken
        rw [hstored]
        exact ⟨rfl, rfl⟩
      | ok m' =>
        have hfree : m.find? (o.stamped job).id = none := by
          by_contra htaken
          have herror := Memory.insertNew_eq_error_iff.2
            ⟨Option.isSome_iff_ne_none.2 htaken, rfl⟩
          rw [herror] at hinsert
          cases hinsert
        rw [hfree]
        exact ⟨rfl, find?_insertNew_eq hinsert⟩
  | update job =>
    rw [carryOut_update, onMap, find?_replace_eq, o.changed_id]
    exact ⟨rfl, rfl⟩
  | record job =>
    rw [carryOut_record, onMap, find?_replace_eq, o.changed_id]
    exact ⟨rfl, rfl⟩
  | find name => exact ⟨rfl, rfl⟩
  | delete name => exact ⟨rfl, find?_erase_eq m name⟩

theorem named_carryOut (op : Operation) {m : Memory} (h : Named m) : Named (carryOut o op m).2 :=
  h.runWith o.countFeatures o.now o.freshId op.attempt.run

/-! ### One operation -/

/-- The space of a new job is not given, or the statistics answer that it has no features, or no
count of them. -/
def Occasion.Admits (job : Job) : Prop :=
  ∀ space, job.envelope.targetSpaceId = some space →
    o.countFeatures space = .ok none ∨ o.countFeatures space = .ok (some 0)

theorem Occasion.refusal?_eq_none_iff (job : Job) : o.refusal? job = none ↔ o.Admits job := by
  unfold Occasion.refusal? Occasion.Admits
  cases job.envelope.targetSpaceId with
  | none => simp
  | some space =>
    cases hcount : o.countFeatures space with
    | error e => simp [hcount]
    | ok count =>
      cases count with
      | none => simp [hcount]
      | some n => by_cases hn : n = 0 <;> simp [hcount, hn]

/-- An operation fails without a trace, and is about one entry. -/
structure Atomic (op : Operation) : Prop where
  failed : ∀ e, (carryOut o op m).1 = .error e → (carryOut o op m).2 = m
  apart : ∀ name, name ≠ op.name o → (carryOut o op m).2.find? name = m.find? name

/-- A new job is stored as it should be, or refused as it should be, and replaces nothing. -/
structure Admission (job : Job) : Prop where
  stored_iff : (carryOut o (.store job) m).1 = .ok (o.stamped job) ↔
    o.Admits job ∧ m.find? (o.stamped job).id = none
  /-- Its name is to blame only where its space is not. -/
  refused_iff : ∀ e, (carryOut o (.store job) m).1 = .error e ↔
    o.refusal? job = some e ∨
      o.Admits job ∧ (m.find? (o.stamped job).id).isSome ∧ e = .conflict (o.stamped job).id
  kept : ∀ name stored, m.find? name = some stored →
    (carryOut o (.store job) m).2.find? name = some stored

theorem atomic (op : Operation) : Atomic o m op where
  failed := by
    intro e herror
    cases op with
    | store job =>
      rw [carryOut_store] at herror ⊢
      cases hrefusal : o.refusal? job with
      | some e' => rfl
      | none =>
        cases hinsert : m.insertNew (o.stamped job) with
        | error e' => rfl
        | ok m' =>
          rw [hrefusal, hinsert] at herror
          cases herror
    | update | record | find | delete => cases herror
  apart := by
    intro name hname
    rw [(carryOut_onMap o m op).2]
    cases op with
    | store job =>
      rw [onMap, takeIn]
      split
      · rfl
      · rfl
      · exact Function.update_of_ne hname _ _
    | update | record | delete => exact Function.update_of_ne hname _ _
    | find => rfl

theorem admission (job : Job) : Admission o m job where
  stored_iff := by
    rw [(carryOut_onMap o m _).1, ← o.refusal?_eq_none_iff]
    rw [onMap, takeIn]
    split <;> simp [*]
  refused_iff := by
    intro e
    rw [(carryOut_onMap o m _).1, ← o.refusal?_eq_none_iff]
    rw [onMap, takeIn]
    split
    · next hrefusal => simp [hrefusal]
    · next hrefusal htaken =>
      simp only [hrefusal, htaken, Option.isSome_some, reduceCtorEq, false_or, true_and,
        Except.error.injEq]
      exact eq_comm
    · next hrefusal hfree => simp [hrefusal, hfree]
  kept := by
    intro name stored hstored
    by_cases hname : name = (o.stamped job).id
    · -- the name is taken, so that nothing is stored under it
      subst hname
      rw [(carryOut_onMap o m _).2, onMap, takeIn, hstored]
      cases o.refusal? job with
      | some | none => exact hstored
    · exact ((atomic o m (.store job)).apart name hname).trans hstored

/-! ### One operation after the other -/

/-- An operation that is asked for, with what it meets with. -/
structure Request where
  occasion : Occasion
  operation : Operation

/-- An operation that was asked for, with its result. -/
structure Reply extends Request where
  result : Except Error operation.Result

/-- The replies to requests that are met one after the other, and what is stored after them. -/
def serve {σ : Type} (step : Occasion → (op : Operation) → σ → Except Error op.Result × σ) :
    List Request → σ → List Reply × σ
  | [], s => ([], s)
  | r :: requests, s =>
    let (result, s') := step r.occasion r.operation s
    let (replies, last) := serve step requests s'
    (⟨r, result⟩ :: replies, last)

theorem serve_onMap (requests : List Request) (m : Memory) :
    (serve carryOut requests m).1 = (serve onMap requests m.find?).1 ∧
      (serve carryOut requests m).2.find? = (serve onMap requests m.find?).2 := by
  induction requests generalizing m with
  | nil => exact ⟨rfl, rfl⟩
  | cons r requests ih =>
    obtain ⟨hresult, hcontents⟩ := carryOut_onMap r.occasion m r.operation
    obtain ⟨hreplies, hlast⟩ := ih (carryOut r.occasion r.operation m).2
    rw [hcontents] at hreplies hlast
    exact ⟨congrArg₂ List.cons (congrArg (Reply.mk r) hresult) hreplies, hlast⟩

theorem named_serve (requests : List Request) {m : Memory} (h : Named m) :
    Named (serve carryOut requests m).2 := by
  induction requests generalizing m with
  | nil => exact h
  | cons r requests ih => exact ih (named_carryOut r.occasion r.operation h)

/-- Whatever is asked of the repository, one request after the other, it replies as it would on a
map, and what is stored then are the contents of the map; each job is stored under its own name; and
whatever is asked next, it fails without a trace, is about one entry, and a new job is stored or
refused as it should be. -/
theorem repository_as_map {m : Memory} (hnamed : Named m) (requests : List Request) :
    (serve carryOut requests m).1 = (serve onMap requests m.find?).1 ∧
      (serve carryOut requests m).2.find? = (serve onMap requests m.find?).2 ∧
      Named (serve carryOut requests m).2 ∧
      (∀ o op, Atomic o (serve carryOut requests m).2 op) ∧
      ∀ o job, Admission o (serve carryOut requests m).2 job :=
  ⟨(serve_onMap requests m).1, (serve_onMap requests m).2, named_serve requests hnamed,
    fun o op => atomic o _ op, fun o job => admission o _ job⟩

/-- The roads come new into the store, twice, at a time and with no features in their space. -/
def roadsTwice : List Request :=
  let request : Request :=
    { occasion := { countFeatures := fun _ => .ok (some 0), now := 7, freshId := "roads" }
      operation := .store (.exporting { description := "roads", targetSpaceId := some "space" }) }
  [request, request]

/-- The roads are stored once. -/
theorem roads_stored_once :
    Named Dictionary.empty ∧
      (serve carryOut roadsTwice Dictionary.empty).1.map (fun r => r.result.isOk) =
        [true, false] ∧
      ((serve carryOut roadsTwice Dictionary.empty).2.find? "roads").isSome := by
  obtain ⟨hreplies, hcontents, -⟩ := repository_as_map named_empty roadsTwice
  refine ⟨named_empty, ?_, ?_⟩
  · rw [hreplies]
    decide +kernel
  · rw [hcontents]
    decide +kernel

end BulkImport.Store
