import BulkImport.Text.Vocabulary

/-!
# Job status

The life of a job: ten statuses that follow one another, and two in which it ends when something
goes wrong.  A job only ever moves forward, and never again once it has ended.  Main statements:
advancing is irreflexive and transitive (`not_canAdvanceTo_self`, `CanAdvanceTo.trans`) and a
status can be left exactly when it is not final (`isFinal_eq_false_iff`).
-/

namespace BulkImport.Job

/-- Where a job stands. -/
inductive Status where
  | waiting
  | queued
  | validating
  | validated
  | preparing
  | prepared
  | executing
  | executed
  | finalizing
  | finalized
  /-- Refused before anything was changed. -/
  | aborted
  /-- Broken off after something was changed. -/
  | failed
deriving DecidableEq

namespace Status

/-- The word for a status. -/
def name : Status → String
  | waiting => "waiting"
  | queued => "queued"
  | validating => "validating"
  | validated => "validated"
  | preparing => "preparing"
  | prepared => "prepared"
  | executing => "executing"
  | executed => "executed"
  | finalizing => "finalizing"
  | finalized => "finalized"
  | aborted => "aborted"
  | failed => "failed"

instance : Vocabulary Status where
  all := [waiting, queued, validating, validated, preparing, prepared, executing, executed,
    finalizing, finalized, aborted, failed]
  word := name

instance : Inhabited Status := ⟨waiting⟩

/-- The position of a status in the order of declaration. -/
def ordinal : Status → Nat
  | waiting => 0
  | queued => 1
  | validating => 2
  | validated => 3
  | preparing => 4
  | prepared => 5
  | executing => 6
  | executed => 7
  | finalizing => 8
  | finalized => 9
  | aborted => 10
  | failed => 11

/-- Whether a job has ended. -/
def isFinal : Status → Bool
  | finalized | aborted | failed => true
  | _ => false

/-- Whether a job has ended without success. -/
def isFailure : Status → Bool
  | aborted | failed => true
  | _ => false

/-- A job that has not ended may move to any later status. -/
def CanAdvanceTo (s next : Status) : Prop :=
  s.isFinal = false ∧ (next.isFailure = true ∨ s.ordinal < next.ordinal)

instance (s next : Status) : Decidable (s.CanAdvanceTo next) := by
  unfold CanAdvanceTo; infer_instance

/-- Whether an import in this status is on its way. -/
def isRunning (s : Status) : Bool := s != waiting && !s.isFinal

theorem not_canAdvanceTo_self (s : Status) : ¬ s.CanAdvanceTo s := by
  cases s <;> decide

theorem CanAdvanceTo.trans {a b c : Status} (h : a.CanAdvanceTo b) (h' : b.CanAdvanceTo c) :
    a.CanAdvanceTo c := by
  refine ⟨h.1, ?_⟩
  rcases h'.2 with h' | hlt
  · exact .inl h'
  · rcases h.2 with hf | hlt'
    · have := h'.1
      cases b <;> simp_all [isFailure, isFinal]
    · exact .inr (Nat.lt_trans hlt' hlt)

theorem isFinal_eq_false_iff {s : Status} : s.isFinal = false ↔ ∃ next, s.CanAdvanceTo next :=
  ⟨fun h => ⟨failed, h, .inl rfl⟩, fun ⟨_, h⟩ => h.1⟩

end Status

end BulkImport.Job
