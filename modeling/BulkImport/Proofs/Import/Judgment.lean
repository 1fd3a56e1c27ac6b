import BulkImport.Proofs.Import.Validation

/-!
# Judging attempts by their failures

Much that is to be said of an attempt is said of its history and of the failure that it breaks off
with, and holds because it holds of each thing that the attempt does (`Judgment`).  Whatever is
judged so holds of the attempts that the validation and the preparation are made of
(`Judgment.target`, `Judgment.checkTarget`, `Judgment.install`).
-/

namespace BulkImport.Import

open BulkImport.Job BulkImport.Sql BulkImport.Table BulkImport.Program

/-- A failure is blamed on the connection to the database or on a stage. -/
def FailsIn (stage : Stage) (f : Failure) : Prop :=
  f.errorType = .noDbConnection ∨ f.errorType = stage.errorType

/-- The failure that an attempt breaks off with. -/
def failure? {α : Type} : Except Failure α → Option Failure
  | .ok _ => none
  | .error f => some f

/-- A judgment on the history of an attempt and the failure that it breaks off with, as it can be
made part by part: on nothing at all, on one thing after another, on a failure of the stage, and on
one question with its answer. -/
structure Judgment (stage : Stage) (P : History → Option Failure → Prop) : Prop where
  nothing : P [] none
  append {h h' : History} {o : Option Failure} (first : P h none) (rest : P h' o) : P (h ++ h') o
  failed {f : Failure} (hf : FailsIn stage f) : P [] (some f)
  connected (c : String) (a : Except Database.Error Unit) :
    P [⟨.connect c, a⟩] (failure? (a.mapError (.ofDatabase stage)))
  executed (c : String) (s : Statement) (a : Except Database.Error Unit) :
    P [⟨.execute c s, a⟩] (failure? (a.mapError (.ofDatabase stage)))
  counted (c : String) (s : Statement) (a : Except Database.Error Int64) :
    P [⟨.fetchInteger c s, a⟩] (failure? (a.mapError (.ofDatabase stage)))
  listed (c : String) (s : Statement) (a : Except Database.Error (List String)) :
    P [⟨.fetchTexts c s, a⟩] (failure? (a.mapError (.ofDatabase stage)))

/-- What is judged holds of an attempt, however it is answered. -/
def Holds {α : Type} (P : History → Option Failure → Prop) (x : Attempt α) : Prop :=
  ∀ h r, Answered x.run h r → P h (failure? r)

variable {α β : Type} {stage : Stage} {P : History → Option Failure → Prop}

theorem Holds.ifThenElse {p : Prop} [Decidable p] {x y : Attempt α} (hx : Holds P x)
    (hy : Holds P y) : Holds P (if p then x else y) := by
  split
  · exact hx
  · exact hy

/-- A database call is judged by its answers. -/
theorem Holds.database {call : Action (Except Database.Error α)}
    (hcall : ∀ h a, Answered call h a → P h (failure? (a.mapError (.ofDatabase stage)))) :
    Holds P (Attempt.database stage call) := by
  intro h r hp
  obtain ⟨a, ha, rfl⟩ := answered_database.1 hp
  exact hcall h a ha

theorem failsIn_ofDatabase (stage : Stage) (e : Database.Error) :
    FailsIn stage (.ofDatabase stage e) := by
  cases e with
  | noConnection m => exact .inl rfl
  | _ => exact .inr rfl

namespace Judgment

/-! ### The parts of an attempt -/

theorem andThen (hj : Judgment stage P) {x : Attempt α} {f : α → Attempt β} (hx : Holds P x)
    (hf : ∀ a, Holds P (f a)) : Holds P (x >>= f) := by
  intro h r hp
  rcases answered_attempt.1 hp with ⟨e, hfail, rfl⟩ | ⟨h₁, h₂, a, rfl, hfirst, hrest⟩
  · exact hx _ _ hfail
  · exact hj.append (hx _ _ hfirst) (hf a _ _ hrest)

theorem value (hj : Judgment stage P) (a : α) : Holds P (pure a : Attempt α) := by
  intro h r hp
  obtain ⟨rfl, rfl⟩ := answered_return.1 hp
  exact hj.nothing

theorem throw (hj : Judgment stage P) {f : Failure} (hf : FailsIn stage f) :
    Holds P (MonadExcept.throw f : Attempt α) := by
  intro h r hp
  obtain ⟨rfl, rfl⟩ := answered_throw.1 hp
  exact hj.failed hf

theorem build (hj : Judgment stage P) (x : Except BuildError α) :
    Holds P (Attempt.build stage x) := by
  intro h r hp
  obtain ⟨rfl, rfl⟩ := answered_build.1 hp
  cases x with
  | ok a => exact hj.nothing
  | error e => exact hj.failed (.inr rfl)

/-! ### The attempts that phases are made of -/

theorem target (hj : Judgment stage P) (job : ImportJob) : Holds P (target stage job) := by
  have hconnect : ∀ c, Holds P (Attempt.database stage (connect c)) := fun c =>
    .database fun h a hp => by
      obtain rfl := answered_query.1 hp
      exact hj.connected c a
  unfold Import.target
  split
  · exact hj.throw (failsIn_ofDatabase _ _)
  · refine hj.andThen (hconnect _) fun _ => ?_
    split
    · exact hj.throw (failsIn_ofDatabase _ _)
    · exact hj.andThen (hj.build _) fun _ => hj.value _

theorem executeBuilt (hj : Judgment stage P) (c : String) (x : Except BuildError Statement) :
    Holds P (executeBuilt stage c x) := by
  refine hj.andThen (hj.build x) fun s => .database fun h a hp => ?_
  obtain rfl := answered_query.1 hp
  exact hj.executed c s a

theorem checkTarget (hj : Judgment .validation P) (im : Importer) (job : ImportJob) :
    Holds P (im.checkTarget job) := by
  have hexists : ∀ c t,
      Holds P (Attempt.database .validation (tableExists c im.settings.schema t)) := fun c t =>
    .database fun h a hp => by
      obtain ⟨n, rfl, rfl⟩ := tableExists_cases hp
      have hcounted := hj.counted c (existsStatement im.settings.schema t) n
      cases n <;> exact hcounted
  refine hj.andThen (hj.target job) fun found => hj.andThen (hexists _ _) fun _ => ?_
  exact .ifThenElse
    (hj.andThen (hj.throw (.inr rfl)) fun _ => .ifThenElse (hj.throw (.inr rfl)) (hj.value _))
    (.ifThenElse (hj.throw (.inr rfl)) (hj.value _))

theorem install (hj : Judgment .preparation P) (im : Importer) (job : ImportJob) (c : String)
    (t : Identifier) (v : Int64) : Holds P (im.install job c t v) := by
  have hlist : Holds P (Attempt.database .preparation
      (fetchTexts c (listIndicesStatement im.settings.schema t))) :=
    .database fun h a hp => by
      obtain rfl := answered_query.1 hp
      exact hj.listed _ _ a
  have hview : Holds P (do
      let _ ← createView c im.settings.schema t
      pure ()) :=
    hj.andThen (hj.andThen (hj.executeBuilt _ _) fun _ => hj.build _) fun _ => hj.value _
  have hraise : Holds P (do
      createTrigger c im.settings.schema t (im.stamp job v)
      if im.settings.useViewFacade then
        let _ ← createView c im.settings.schema t) :=
    hj.andThen (hj.executeBuilt _ _) fun _ => .ifThenElse hview (hj.value _)
  exact hj.andThen hlist fun indices =>
    .ifThenElse (hj.andThen (hj.executeBuilt _ _) fun _ => hraise) hraise

end Judgment

end BulkImport.Import
