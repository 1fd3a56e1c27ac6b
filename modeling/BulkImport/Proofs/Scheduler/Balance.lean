import BulkImport.Proofs.Scheduler.Traffic
import Mathlib.Data.List.Induction

/-!
# Where the permits are

A permit is free, or an import runs with it, or a cycle has it on it between taking it and leaving
it to an import or giving it back.  Nothing that a cycle is told changes how many there are of these
together (`Told.permits`), and so no turn does (`Balanced.turn`).

For one candidate a cycle takes at most one permit, and there are few ways in which it settles what
it took (`Account`): where it gives the candidate up it returns the permit, and lets the target go
if and only if it had claimed it (`account_consider`).

However cycles and imports take turns, and whether or not jobs can be stored, the permits are as
many as they were at rest; none is lost, and no target stays taken (`permits_balanced`).
-/

namespace BulkImport.Scheduler

open BulkImport.Job BulkImport.Program

/-! ### The permit of a cycle -/

/-- The cycle is rid of its permit: it returned it, or left it to an import that it spawned. -/
def HandsIn (e : Exchange Question Answer) : Prop :=
  e.question = .returnPermit ∨ ∃ job t, e.question = .spawn job t

/-- By what it asked and was told, a cycle has taken a permit and is not rid of it since. -/
def HasPermit (past : List (Exchange Question Answer)) : Prop :=
  Since ⟨.takePermit, true⟩ HandsIn past

theorem permit_next (g : Custody) (q : Question) (a : Answer q) :
    (custody.next g q a).permit = true ↔
      (⟨q, a⟩ : Exchange Question Answer) = ⟨.takePermit, true⟩ ∨
        (g.permit = true ∧ ¬ HandsIn ⟨q, a⟩) := by
  cases q with
  | takePermit | claim => cases a <;> simp [custody, HandsIn]
  | list | isTaken | countQueries | returnPermit | release | store | spawn =>
    simp [custody, HandsIn]

/-- A cycle has a permit by what it asked if it has one in its custody. -/
theorem permit_after_iff (past : List (Exchange Question Answer)) :
    (custody.after {} past).permit = true ↔ HasPermit past := by
  induction past using List.reverseRecOn with
  | nil => exact iff_of_false Bool.false_ne_true (not_since_nil _ _)
  | append_singleton past e ih =>
    rw [Protocol.after_append, permit_next, ih]
    exact since_append.symm

instance (past : List (Exchange Question Answer)) : Decidable (HasPermit past) :=
  decidable_of_iff _ (permit_after_iff past)

/-! ### How many there are -/

/-- The permits that are free, those that imports run with, and the one that a cycle has, if it has
one. -/
def permits (s : State) (g : Custody) : Nat := s.permits + s.runs.length + g.permit.toNat

/-- What a cycle is told moves a permit, if it does anything with it. -/
theorem Told.permits {im : Import.Importer} {s s' : State} {q : Question} {a : Answer q}
    {g : Custody} (htold : Told im s q a s') (hallows : custody.allows g q) :
    permits s' (custody.next g q a) = permits s g := by
  obtain ⟨permit, target⟩ := g
  cases htold with
  | takePermit =>
    obtain ⟨rfl, -⟩ : permit = false ∧ _ := hallows
    unfold Scheduler.permits State.takePermit
    cases hfree : s.permits with
    | zero => simp [custody, hfree]
    | succ n =>
      simp only [custody, Bool.toNat_true, Bool.toNat_false]
      omega
  | returnPermit =>
    obtain ⟨rfl, -⟩ : permit = true ∧ _ := hallows
    simp only [Scheduler.permits, State.returnPermit, custody, Bool.toNat_true, Bool.toNat_false]
    omega
  | spawn job t =>
    obtain ⟨rfl, -⟩ : permit = true ∧ _ := hallows
    simp only [Scheduler.permits, State.spawn, custody, List.length_append, List.length_singleton,
      Bool.toNat_true, Bool.toNat_false]
    omega
  | claim t =>
    unfold Scheduler.permits State.claim
    by_cases htaken : t ∈ s.taken <;> simp [custody, htaken]
  | list | isTaken | countQueries | release | store => rfl

/-- The scheduler is sound, and as many permits as these are free, run with or held. -/
structure Balanced (total : Nat) (x : Traffic) : Prop where
  sound : x.Sound
  total : x.state.permits + x.state.runs.length +
    x.rounds.countP (fun c => c.custody.permit) = total

namespace Balanced

variable {im : Import.Importer} {maxQueries total : Nat} {x y : Traffic}

theorem initial (hx : x.AtRest) : Balanced x.state.permits x where
  sound := .initial hx
  total := by simp [hx.runs, hx.rounds]

theorem ask {state state' : State} {before after : List Round} {c : Round} {q : Question}
    {next : Answer q → Remainder} {a : Answer q}
    (h : Balanced total ⟨state, before ++ c :: after⟩) (hrest : c.rest = .ask q next)
    (htold : Told im state q a state') :
    Balanced total ⟨state', before ++ ⟨c.past ++ [⟨q, a⟩], next a⟩ :: after⟩ := by
  have hallows : custody.allows c.custody q :=
    (hrest ▸ (h.sound.rounds c List.mem_append_cons_self).obeys).1
  have hpermits := htold.permits hallows
  have hnext : Round.custody ⟨c.past ++ [⟨q, a⟩], next a⟩ = custody.next c.custody q a :=
    Protocol.after_append _ _ _ _
  refine ⟨h.sound.ask hrest htold, ?_⟩
  rw [← h.total]
  have hcount : ∀ b : Bool, b.toNat = if b = true then 1 else 0 := fun b => by cases b <;> rfl
  simp only [permits, hcount] at hpermits
  simp only [List.countP_append, List.countP_cons, hnext]
  omega

theorem leave {state : State} {before after : List Round} {c : Round} {r : Except Store.Error Nat}
    (h : Balanced total ⟨state, before ++ c :: after⟩) (hrest : c.rest = .done r) :
    Balanced total ⟨state, before ++ after⟩ := by
  have hnothing : c.custody = {} := by
    have hobeys := (h.sound.rounds c List.mem_append_cons_self).obeys
    rwa [hrest] at hobeys
  refine ⟨h.sound.leave hrest, ?_⟩
  rw [← h.total]
  simp [List.countP_append, hnothing]

/-- No turn makes or loses a permit. -/
theorem turn (h : Balanced total x) (hturn : Advances im maxQueries x y) : Balanced total y := by
  cases hturn with
  | begin =>
    refine ⟨h.sound.begin, ?_⟩
    have hnothing : (Round.custody { rest := cycle maxQueries }).permit = false := rfl
    simpa [List.countP_append, hnothing] using h.total
  | ask hrest htold => exact h.ask hrest htold
  | leave hrest => exact h.leave hrest
  | work a hruns hrest =>
    refine ⟨h.sound.work hruns _, ?_⟩
    rw [← h.total, hruns]
    simp
  | finish hruns hrest =>
    refine ⟨h.sound.finish hruns, ?_⟩
    rw [← h.total, hruns]
    simp only [State.finish, State.release, State.returnPermit, List.length_append,
      List.length_cons]
    omega

theorem run (h : Balanced total x) (hrun : Relation.ReflTransGen (Advances im maxQueries) x y) :
    Balanced total y := by
  induction hrun with
  | refl => exact h
  | tail _ hturn ih => exact ih.turn hturn

end Balanced

/-! ### One candidate -/

/-- What a cycle does with permits and targets. -/
inductive Dealing where
  | tookPermit
  | returnedPermit
  | claimed (target : Target)
  | released (target : Target)
  /-- An import that fills the target runs with the permit from now on. -/
  | handedOver (target : Target)
deriving DecidableEq

/-- What an exchange does with permits and targets; a permit or a target that was refused was not
taken. -/
def dealing? : Exchange Question Answer → Option Dealing
  | ⟨.takePermit, true⟩ => some .tookPermit
  | ⟨.returnPermit, _⟩ => some .returnedPermit
  | ⟨.claim t, true⟩ => some (.claimed t)
  | ⟨.release t, _⟩ => some (.released t)
  | ⟨.spawn _ t, _⟩ => some (.handedOver t)
  | _ => none

/-- What is done with permits and targets, in order. -/
def dealings (h : List (Exchange Question Answer)) : List Dealing := h.filterMap dealing?

/-- How a cycle settles what it took for a candidate with a target. -/
inductive Account (t : Target) : Verdict → List Dealing → Prop where
  /-- It took nothing and goes on. -/
  | deferred : Account t .deferred []
  /-- There is no permit for it. -/
  | exhausted : Account t .exhausted []
  /-- Somebody else claimed the target first. -/
  | beaten : Account t .deferred [.tookPermit, .returnedPermit]
  /-- The candidate cannot be queued. -/
  | givenUp : Account t .deferred [.tookPermit, .claimed t, .released t, .returnedPermit]
  /-- The candidate runs. -/
  | handedOver : Account t .dispatched [.tookPermit, .claimed t, .handedOver t]

/-- The protocol that keeps account of what is done with permits and targets. -/
def settling : Protocol Question Answer (List Dealing) where
  allows _ _ := True
  expects _ _ _ := True
  next g q a := g ++ (dealing? ⟨q, a⟩).toList

theorem settling_after (g : List Dealing) (h : List (Exchange Question Answer)) :
    settling.after g h = g ++ dealings h := by
  induction h generalizing g with
  | nil => exact (List.append_nil g).symm
  | cons e h ih =>
    unfold Protocol.after dealings
    rw [ih, List.filterMap_cons]
    cases hdealing : dealing? e <;> simp [settling, dealings, hdealing]

theorem settling_enqueue (g : List Dealing) (job : ImportJob) :
    Obeys settling (fun g' _ => g' = g) g (enqueue job) :=
  obeys_enqueue_of (fun _ => rfl) fun _ => ⟨trivial, fun _ _ => List.append_nil g⟩

theorem settling_consider (maxQueries : Nat) (load : List (String × Bool)) {job : ImportJob}
    {t : Target} (htarget : Target.ofJob? job = some t) :
    Obeys settling (fun g result => Account t result.1 g) [] (consider maxQueries load job) := by
  unfold consider
  rw [htarget]
  refine obeys_query trivial fun isTaken _ => ?_
  cases isTaken with
  | true => exact .deferred
  | false =>
    refine obeys_andThen
      (obeys_lookUpBusy maxQueries load trivial fun _ => List.append_nil _) ?_
    rintro _ ⟨busy, load'⟩ rfl
    cases busy with
    | true => exact .deferred
    | false =>
      refine obeys_query trivial fun permit _ => ?_
      cases permit with
      | false => exact .exhausted
      | true =>
        refine obeys_query trivial fun claimed _ => ?_
        cases claimed with
        | false => exact obeys_query trivial fun _ _ => .beaten
        | true =>
          refine obeys_andThen (settling_enqueue _ job) ?_
          rintro _ queued rfl
          cases queued with
          | none => exact obeys_query trivial fun _ _ => obeys_query trivial fun _ _ => .givenUp
          | some j => exact obeys_query trivial fun _ _ => .handedOver

/-- Whatever it is told, a cycle takes nothing for a candidate without a target, and settles what it
took for one with a target. -/
theorem account_consider {maxQueries : Nat} {load load' : List (String × Bool)} {job : ImportJob}
    {verdict : Verdict} {h : List (Exchange Question Answer)}
    (hp : Answered (consider maxQueries load job) h (verdict, load')) :
    (Target.ofJob? job = none ∧ verdict = .deferred ∧ dealings h = []) ∨
      ∃ t, Target.ofJob? job = some t ∧ Account t verdict (dealings h) := by
  cases htarget : Target.ofJob? job with
  | none =>
    unfold consider at hp
    rw [htarget] at hp
    obtain ⟨rfl, hend⟩ := answered_pure.1 hp
    cases hend
    exact .inl ⟨rfl, rfl, rfl⟩
  | some t =>
    have hsettled := fits_of_answered (settling_consider maxQueries load htarget)
      (fun _ _ _ => trivial) hp
    rw [settling_after, List.nil_append] at hsettled
    exact .inr ⟨t, rfl, hsettled⟩

/-! ### All of them -/

/-- From rest on, no more imports run than there were permits; those that are free, that imports run
with and that cycles have are as many; for every candidate a cycle settles what it took, whatever it
is told; and when all cycles and all imports have come to their end, all permits are free and no
target is taken. -/
theorem permits_balanced {im : Import.Importer} {maxQueries : Nat} {x y : Traffic}
    (hx : x.AtRest) (hrun : Relation.ReflTransGen (Advances im maxQueries) x y) :
    y.state.runs.length ≤ x.state.permits ∧
      y.state.permits + y.state.runs.length + y.rounds.countP (fun c => HasPermit c.past) =
        x.state.permits ∧
      (∀ (load load' : List (String × Bool)) (job : ImportJob) (verdict : Verdict)
        (h : List (Exchange Question Answer)),
        Answered (consider maxQueries load job) h (verdict, load') →
          (Target.ofJob? job = none ∧ verdict = .deferred ∧ dealings h = []) ∨
            ∃ t, Target.ofJob? job = some t ∧ Account t verdict (dealings h)) ∧
      (y.rounds = [] → y.state.runs = [] →
        y.state.permits = x.state.permits ∧ y.state.taken = []) := by
  have hbalanced := (Balanced.initial hx).run hrun
  have htotal : y.state.permits + y.state.runs.length +
      y.rounds.countP (fun c => HasPermit c.past) = x.state.permits := by
    rw [← hbalanced.total]
    congr 1
    refine List.countP_congr fun c _ => ?_
    rw [decide_eq_true_iff]
    exact (permit_after_iff c.past).symm
  refine ⟨by omega, htotal, fun _ _ _ _ _ => account_consider, fun hrounds hruns => ⟨?_, ?_⟩⟩
  · simpa [hrounds, hruns] using htotal
  · refine List.eq_nil_iff_forall_not_mem.2 fun t ht => ?_
    have hheld := (hbalanced.sound.guarded.mem_iff t).1 ht
    simp [Traffic.holdings, hrounds, hruns] at hheld

/-- Of the two permits, one is free while a cycle has claimed the target of the roads, and it is
that cycle that has the other. -/
theorem roads_permits :
    ∃ y, Relation.ReflTransGen (Advances Import.viewImporter 0) ⟨queuedRoads.state, []⟩ y ∧
      y.state.permits = 1 ∧ y.state.runs = [] ∧
      y.rounds.countP (fun c => HasPermit c.past) = 1 := by
  have hshows : Traffic.Shows ⟨queuedRoads.state, []⟩ queuedRoads := ⟨rfl, rfl⟩
  obtain ⟨y, hrun, hy⟩ := exists_run
    (System.execution_perform Import.viewImporter 0 unreachable claimed queuedRoads) hshows
  have hpermits : y.state.permits = 1 := by
    rw [hy.state]
    decide +kernel
  have hruns : y.state.runs = [] := by
    rw [hy.state]
    exact List.isEmpty_iff.1 (by decide +kernel)
  obtain ⟨-, htotal, -⟩ := permits_balanced ⟨rfl, rfl, rfl⟩ hrun
  rw [hpermits, hruns] at htotal
  have hfree : queuedRoads.state.permits = 2 := rfl
  refine ⟨y, hrun, hpermits, hruns, ?_⟩
  simp only [List.length_nil, hfree] at htotal
  omega

end BulkImport.Scheduler
