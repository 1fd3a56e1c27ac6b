import BulkImport.Proofs.Store.Listing
import BulkImport.Proofs.Text.Bytes

/-!
# Listings of what is stored

A listing has the stored jobs that are asked for, each once and in the order of their creation and
of the bytes of their names (`Lists`).  A store need not keep its jobs in this order: in whatever
order the stored jobs are gone through, those that are asked for are sorted into the one listing
(`sorted_filter`).  Main statement: whatever was stored and taken out before, what is listed depends
on the contents of the store only, and the imports that are on their way into a space are those that
a listing of the imports into it shows neither waiting nor ended (`listing_canonical`).
-/

namespace BulkImport.Store

open BulkImport.Job
open BulkImport.Scheduler (Named named_empty)

/-! ### The order of a listing -/

/-- One job was created before another one, or at the same time and has the lesser name, as its
bytes are. -/
def Earlier (a b : Job) : Prop :=
  a.envelope.createdAt < b.envelope.createdAt ∨
    a.envelope.createdAt = b.envelope.createdAt ∧ Web.utf8 a.id.toList < Web.utf8 b.id.toList

theorem precedes_iff_earlier {a b : Job} : Precedes a b ↔ Earlier a b := by
  rw [Precedes, Earlier, Web.utf8_lt_iff]

instance (a b : Job) : Decidable (Precedes a b) :=
  inferInstanceAs (Decidable (_ ∨ _ ∧ _))

/-- Of two jobs that have different names one stands before the other. -/
theorem precedes_of_not {a b : Job} (hid : a.id ≠ b.id) (h : ¬ Precedes b a) : Precedes a b := by
  rcases Int64.lt_or_eq_of_le (Int64.not_lt.1 fun hlt => h (.inl hlt)) with hlt | heq
  · exact .inl hlt
  · exact .inr ⟨heq, Std.lt_of_le_of_ne (String.not_lt.1 fun hlt => h (.inr ⟨heq.symm, hlt⟩)) hid⟩

/-- Of two jobs that stand one before the other, any third one stands after the first or before the
second. -/
theorem Precedes.split {a c : Job} (h : Precedes a c) (b : Job) : Precedes a b ∨ Precedes b c := by
  by_contra hneither
  obtain ⟨hab, hbc⟩ := not_or.1 hneither
  have htime : b.envelope.createdAt ≤ a.envelope.createdAt :=
    Int64.not_lt.1 fun hlt => hab (.inl hlt)
  rcases h with hlt | ⟨heq, hid⟩
  · exact hbc (.inl (Int64.lt_of_le_of_lt htime hlt))
  · rcases Int64.lt_or_eq_of_le htime with hlt | hsame
    · exact hbc (.inl (heq ▸ hlt))
    · have hname : b.id ≤ a.id := String.not_lt.1 fun hlt => hab (.inr ⟨hsame.symm, hlt⟩)
      exact hbc (.inr ⟨hsame.trans heq, Std.lt_of_le_of_lt hname hid⟩)

/-! ### Any order of the stored jobs -/

/-- Jobs sorted into the order of a listing. -/
def sorted (jobs : List Job) : List Job := jobs.mergeSort fun a b => decide (¬ Precedes b a)

theorem sorted_perm (jobs : List Job) : (sorted jobs).Perm jobs := List.mergeSort_perm _ _

/-- Jobs that have different names stand one before the other once they are sorted. -/
theorem sorted_precedes {jobs : List Job} (h : jobs.Pairwise fun a b => a.id ≠ b.id) :
    (sorted jobs).Pairwise Precedes := by
  have hsorted : (sorted jobs).Pairwise fun a b => decide (¬ Precedes b a) = true := by
    refine List.pairwise_mergeSort (fun a b c hab hbc => ?_) (fun a b => ?_) jobs
    · rw [decide_eq_true_iff] at hab hbc ⊢
      exact fun hca => (hca.split b).elim hbc hab
    · rw [Bool.or_eq_true, decide_eq_true_iff, decide_eq_true_iff, ← not_and_or]
      exact fun ⟨hba, hab⟩ => hab.asymm hba
  have hids : (sorted jobs).Pairwise fun a b => a.id ≠ b.id :=
    ((sorted_perm jobs).pairwise_iff Ne.symm).2 h
  exact hids.imp₂ (fun a b hid hnot => precedes_of_not hid (of_decide_eq_true hnot)) hsorted

/-- These are the stored jobs, one after the other in any order. -/
def Enumerates (jobs : List Job) (m : Memory) : Prop :=
  jobs.Nodup ∧ ∀ job, job ∈ jobs ↔ ∃ name, m.find? name = some job

section Stored

variable {m : Memory} {jobs : List Job}

theorem Enumerates.perm (hjobs : Enumerates jobs m) (h : Named m) : jobs.Perm m.values := by
  have hvalues : m.values.Nodup :=
    ((values_pairwise h).imp String.ne_of_lt).imp fun hid heq => hid (congrArg Job.id heq)
  refine (List.perm_ext_iff_of_nodup hjobs.1 hvalues).2 fun job => ?_
  rw [hjobs.2, Dictionary.mem_values_iff]

/-- In whatever order the stored jobs are gone through, some of them are sorted as they are found
by time of creation. -/
theorem sorted_filter (hjobs : Enumerates jobs m) (h : Named m) (p : Job → Bool) :
    sorted (jobs.filter p) = Memory.byCreation (m.values.filter p) := by
  have hids : jobs.Pairwise fun a b => a.id ≠ b.id :=
    ((hjobs.perm h).pairwise_iff Ne.symm).2 ((values_pairwise h).imp String.ne_of_lt)
  refine eq_of_precedes (f := id) (sorted_precedes (hids.filter p)) (byCreation_precedes h p)
    fun job => ?_
  rw [(sorted_perm _).mem_iff, Memory.byCreation, List.mem_mergeSort]
  exact ((hjobs.perm h).filter p).mem_iff

theorem mem_byCreation {p : Job → Bool} {job : Job} :
    job ∈ Memory.byCreation (m.values.filter p) ↔
      (∃ name, m.find? name = some job) ∧ p job = true := by
  rw [Memory.byCreation, List.mem_mergeSort, List.mem_filter, Dictionary.mem_values_iff]

/-- Restricting a listing lists what is restricted. -/
theorem filter_byCreation (h : Named m) (p q : Job → Bool) :
    (Memory.byCreation (m.values.filter p)).filter q =
      Memory.byCreation (m.values.filter fun job => p job && q job) := by
  refine eq_of_precedes (f := id) ((byCreation_precedes h p).filter q) (byCreation_precedes h _)
    fun job => ?_
  rw [List.mem_filter, mem_byCreation, mem_byCreation, Bool.and_eq_true, and_assoc]

end Stored

/-! ### What was done to the store -/

namespace Memory

/-- What is stored after a question. -/
def next (m : Memory) (q : Question) : Memory := (answer (fun _ => .ok none) 0 "" q m).2

/-- Nothing but the stored jobs decides what is stored after a question. -/
theorem answer_next (countFeatures : String → Except Error (Option Int64)) (now : Int64)
    (freshId : String) (q : Question) (m : Memory) :
    (answer countFeatures now freshId q m).2 = m.next q := by
  cases q with
  | insert job => cases hinsert : m.insertNew job <;> simp only [next, answer, hinsert]
  | find | list | runningImports | replace | remove | countFeatures | now | freshId => rfl

/-- What is stored after questions that were put to an empty store, one after the other. -/
def after (questions : List Question) : Memory := questions.foldl next Dictionary.empty

end Memory

theorem named_after (questions : List Question) : Named (Memory.after questions) := by
  suffices hnext : ∀ m, Named m → Named (questions.foldl Memory.next m) from
    hnext _ named_empty
  intro m h
  induction questions generalizing m with
  | nil => exact h
  | cons q questions ih => exact ih _ (h.answer _ _ _ q)

/-! ### Listings -/

/-- An import is neither waiting nor has it ended. -/
def onItsWay (job : Job) : Bool := decide (job.status ≠ .waiting) && !job.status.isFinal

/-- The imports into a space. -/
def importsInto (space : String) : Job.Filter := { kind := some .importing, space := some space }

/-- What the repository lists of a store shows what is stored. -/
structure Lists (m : Memory) : Prop where
  listed : ∀ count now freshId f,
    (Store.list f).run.runWith (Memory.answer count now freshId) m = (.ok (m.list f), m)
  listedRunning : ∀ count now freshId space,
    (Store.runningImports space).run.runWith (Memory.answer count now freshId) m =
      (.ok (m.runningImports space), m)
  mem_iff : ∀ f job, job ∈ m.list f ↔ (∃ name, m.find? name = some job) ∧ f.admits job = true
  once : ∀ f, (m.list f).Nodup
  ordered : ∀ f, (m.list f).Pairwise Earlier
  /-- A filter takes out of the listing of all jobs what it does not admit. -/
  restricted : ∀ f, m.list f = (m.list {}).filter f.admits
  running : ∀ space,
    m.runningImports space = ((m.list (importsInto space)).filter onItsWay).map (·.id)

theorem isRunningImport_eq (job : Job) (space : String) :
    (job.isRunningImport && job.envelope.targetSpaceId == some space) =
      ((importsInto space).admits job && onItsWay job) := by
  rw [Bool.eq_iff_iff]
  simp only [Job.isRunningImport, Status.isRunning, importsInto, Job.Filter.admits, onItsWay,
    Option.all_some, Option.all_none, Bool.and_true, Bool.and_eq_true, beq_iff_eq, bne_iff_ne,
    decide_eq_true_iff]
  rw [@eq_comm _ job.kind, and_right_comm]

theorem lists_of_named {m : Memory} (h : Named m) : Lists m where
  listed _ _ _ _ := rfl
  listedRunning _ _ _ _ := rfl
  mem_iff _ _ := Memory.mem_list
  once f := by
    refine List.Pairwise.imp (fun {a b} hbefore heq => ?_) (list_precedes h f)
    rw [heq] at hbefore
    exact Precedes.irrefl b hbefore
  ordered f := (list_precedes h f).imp precedes_iff_earlier.1
  restricted f := by
    have hall : ∀ job, ({} : Job.Filter).admits job = true := fun _ => rfl
    simp only [Memory.list, filter_byCreation h, hall, Bool.true_and]
  running space := by
    simp only [Memory.runningImports, Memory.list, filter_byCreation h, isRunningImport_eq]

/-- Whatever was done to a store, each of its listings shows the stored jobs that are asked for,
each once and in order.  It is the same for every store with these contents, whatever was done to
that one and in whatever order its jobs are gone through to be listed. -/
theorem listing_canonical (questions : List Question) :
    Lists (Memory.after questions) ∧
      ∀ questions', (Memory.after questions').find? = (Memory.after questions).find? →
        ∀ jobs, Enumerates jobs (Memory.after questions') →
          (∀ f, sorted (jobs.filter f.admits) = (Memory.after questions).list f) ∧
            ∀ space, (sorted (jobs.filter fun job =>
              job.isRunningImport && job.envelope.targetSpaceId == some space)).map (·.id) =
                (Memory.after questions).runningImports space := by
  refine ⟨lists_of_named (named_after questions), fun questions' hsame jobs hjobs => ?_⟩
  obtain heq : Memory.after questions' = Memory.after questions :=
    Dictionary.ext_find? (congrFun hsame)
  rw [heq] at hjobs
  have hsorted := sorted_filter hjobs (named_after questions)
  exact ⟨fun f => hsorted f.admits, fun space => by rw [hsorted, Memory.runningImports]⟩

/-- A job as it is stored. -/
def sampleJob (name : String) (createdAt : Int64) : Job :=
  .exporting { id := name, createdAt := createdAt }

/-- Roads are stored, and then rivers that were created before them. -/
def roadsFirst : List Question :=
  [.insert (sampleJob "roads" 2), .insert (sampleJob "rivers" 1)]

/-- Rivers are stored and then roads, and rails are taken out again. -/
def riversFirst : List Question :=
  [.insert (sampleJob "rivers" 1), .insert (sampleJob "rails" 3), .remove "rails",
    .insert (sampleJob "roads" 2)]

/-- What is stored either way is listed alike, also where the roads are gone through first. -/
theorem roads_listed :
    (Memory.after riversFirst).find? = (Memory.after roadsFirst).find? ∧
      Enumerates [sampleJob "roads" 2, sampleJob "rivers" 1] (Memory.after riversFirst) ∧
      sorted [sampleJob "roads" 2, sampleJob "rivers" 1] = (Memory.after roadsFirst).list {} ∧
      sorted [sampleJob "roads" 2, sampleJob "rivers" 1] =
        [sampleJob "rivers" 1, sampleJob "roads" 2] := by
  have hsame : Memory.after riversFirst = Memory.after roadsFirst := by decide +kernel
  have hvalues : (Memory.after riversFirst).values =
      [sampleJob "rivers" 1, sampleJob "roads" 2] := by
    decide +kernel
  have hjobs : Enumerates [sampleJob "roads" 2, sampleJob "rivers" 1]
      (Memory.after riversFirst) := by
    refine ⟨by decide +kernel, fun job => ?_⟩
    rw [← Dictionary.mem_values_iff, hvalues, List.mem_pair, List.mem_pair, or_comm]
  have hrivers : Precedes (sampleJob "rivers" 1) (sampleJob "roads" 2) := by decide
  have hfind := congrArg Dictionary.find? hsame
  exact ⟨hfind, hjobs, ((listing_canonical roadsFirst).2 _ hfind _ hjobs).1 {},
    by simp [sorted, List.mergeSort, hrivers]⟩

end BulkImport.Store
