import BulkImport.Proofs.Import.Blame
import BulkImport.Proofs.Import.Claim
import BulkImport.Proofs.Import.Rivals
import BulkImport.Proofs.Surroundings

/-!
# Trying again after a lost connection

A run that lost its connection may be followed by another one for the same table, against a
database that nobody else uses (`Retry`).  The version sequence of the table is counted up by each
claim, and a claim may have been carried out though its answer was lost (`Draws`).  Nothing counts
the sequence down, so whether the second run is turned away is settled by how far the first one
came: a run that broke off before its claim leaves the table as fresh as it was, and a run whose
claim was counted has used it up, though it ended as one that can be tried again
(`retry_turned_away_iff`, `not_always_retried`).
-/

namespace BulkImport.Import

open BulkImport.Job BulkImport.Sql BulkImport.Table BulkImport.Program
open BulkImport.ImportJob (failWith_eq status_failWith)

/-! ### A database that counts -/

/-- How a database that nobody else uses answers and counts.  A claim gives the next number of its
sequence.  A claim that fails was carried out or not. -/
inductive Draws (now : Statement → Nat) :
    (q : Question) → Answer q → (Statement → Nat) → Prop where
  | drawn {c : String} {s : Statement} (hverb : Verb.of? s = some .claim)
      (hbound : now s < lastNumber) :
      Draws now (.fetchInteger c s) (.ok (Int64.ofNat (now s + 1)))
        (Function.update now s (now s + 1))
  | unheard {c : String} {s : Statement} {e : Database.Error} (hverb : Verb.of? s = some .claim) :
      Draws now (.fetchInteger c s) (.error e) (Function.update now s (now s + 1))
  | undone {c : String} {s : Statement} {e : Database.Error} (hverb : Verb.of? s = some .claim) :
      Draws now (.fetchInteger c s) (.error e) now
  | other {q : Question} {a : Answer q}
      (hverb : ∀ c s, q = .fetchInteger c s → Verb.of? s ≠ some .claim) : Draws now q a now

/-- The sequences before and after a history. -/
inductive Counts : (Statement → Nat) → History → (Statement → Nat) → Prop where
  | nil (now : Statement → Nat) : Counts now [] now
  | cons {now now' now'' : Statement → Nat} {q : Question} {a : Answer q} {h : History}
      (hdraws : Draws now q a now') (hrest : Counts now' h now'') :
      Counts now (⟨q, a⟩ :: h) now''

variable {start now later : Statement → Nat} {h h' : History}

theorem counts_append :
    Counts start (h ++ h') later ↔ ∃ now, Counts start h now ∧ Counts now h' later := by
  induction h generalizing start with
  | nil =>
    constructor
    · exact fun hcounts => ⟨start, .nil start, hcounts⟩
    · rintro ⟨now, hnil, hcounts⟩
      cases hnil
      exact hcounts
  | cons e h ih =>
    constructor
    · rintro (_ | ⟨hdraws, hrest⟩)
      obtain ⟨now, hfirst, hlast⟩ := ih.1 hrest
      exact ⟨now, .cons hdraws hfirst, hlast⟩
    · rintro ⟨now, _ | ⟨hdraws, hfirst⟩, hlast⟩
      exact .cons hdraws (ih.2 ⟨now, hfirst, hlast⟩)

/-- What is answered from the sequences and counts them is a history of such a database. -/
theorem counts_trace {α : Type} {answer : (q : Question) → (Statement → Nat) →
      Answer q × (Statement → Nat)}
    (hanswer : ∀ now q, Draws now q (answer q now).1 (answer q now).2) (p : Action α)
    (now : Statement → Nat) : Counts now (p.trace answer now) (p.runWith answer now).2 := by
  induction p generalizing now with
  | done a => exact .nil now
  | ask q next ih => exact .cons (hanswer now q) (ih _ _)

namespace Importer

variable {im : Importer} {job job' result result' : ImportJob}

/-- Where nothing is claimed, nothing is counted. -/
theorem counts_of_unclaiming (hcounts : Counts start h now) (hh : Unclaiming h) : now = start := by
  induction hcounts with
  | nil => rfl
  | @cons _ _ _ q a h hdraws _ ih =>
    obtain ⟨hq, hh⟩ := unclaiming_append (h := [⟨q, a⟩]).1 hh
    have hcall : ∀ c s, q = .fetchInteger c s → Verb.of? s ≠ some .claim := by
      rintro c s rfl
      exact hq ⟨c, s⟩ (by simp [Question.calls])
    rw [ih hh]
    cases hdraws with
    | other => rfl
    | drawn hverb | unheard hverb | undone hverb => exact absurd hverb (hcall _ _ rfl)

/-! ### The claim of the first run -/

/-- A history in which the table of a job is claimed once. -/
inductive ClaimsOnce (im : Importer) (job : ImportJob) : History → Prop where
  | intro {before after : History} {c : String} {t : Identifier} {s : Statement}
      {a : Except Database.Error Int64} (haims : Aims job c t)
      (hs : claimStatement im.settings.schema t = .ok s) (hbefore : Unclaiming before)
      (hafter : Unclaiming after) :
      ClaimsOnce im job (before ++ ⟨.fetchInteger c s, a⟩ :: after)

/-- What claims nothing may come before and after. -/
theorem ClaimsOnce.between {before after : History} (hclaims : ClaimsOnce im job' h)
    (hsame : SameTarget job job') (hbefore : Unclaiming before) (hafter : Unclaiming after) :
    ClaimsOnce im job (before ++ (h ++ after)) := by
  obtain @⟨earlier, later, c, t, s, a, haims, hs, hearlier, hlater⟩ := hclaims
  rw [List.append_assoc, List.cons_append, ← List.append_assoc]
  exact .intro (haims.sameTarget hsame) hs (unclaiming_append.2 ⟨hbefore, hearlier⟩)
    (unclaiming_append.2 ⟨hlater, hafter⟩)

theorem unclaiming_connect {c : String} {a : Except Database.Error Unit} :
    Unclaiming [⟨.connect c, a⟩] := unclaiming_of_silent rfl

/-- A preparation claims the table once, if it comes so far. -/
theorem prepare_claims {o : Outcome} (hp : Answered (im.prepare job) h o) :
    Unclaiming h ∨ ClaimsOnce im job h := by
  cases prepare_cases hp with
  | lost htarget => exact .inl (unclaiming_of_silent (sends_target htarget).sent)
  | unclaimable => exact .inl unclaiming_connect
  | refused hconnector htable hs | notFresh hconnector htable hs
  | versionKept hconnector htable hs =>
    exact .inr (.intro ⟨hconnector, htable⟩ hs unclaiming_connect (unclaiming_of_silent rfl))
  | installed hconnector htable hs _ hinstall =>
    exact .inr (.intro ⟨hconnector, htable⟩ hs unclaiming_connect (unclaiming_of_install hinstall))

/-- A run claims nothing, or its table once. -/
theorem run_claims (hp : Answered (im.run job) h result) : Unclaiming h ∨ ClaimsOnce im job h := by
  cases hjob : job.status.isFinal with
  | true =>
    obtain ⟨rfl, -⟩ := run_of_final hjob hp
    exact .inl (unclaiming_of_silent rfl)
  | false =>
    rcases (progress_of_run hjob hp).divided .prepare with hdoes | hdivision
    · exact .inl (unclaiming_of_does hdoes (by decide))
    obtain @⟨job₁, o, before, hw, after, kept, hpasses, hwork, hafter⟩ := hdivision
    have hbefore : Unclaiming
        (before ++ [⟨.record { job₁ with status := Phase.prepare.running }, kept⟩]) :=
      unclaiming_append.2 ⟨unclaiming_of_does hpasses.does (by decide), unclaiming_of_silent rfl⟩
    have hlater : Unclaiming after := unclaiming_of_does hafter (by decide)
    rw [← List.singleton_append, ← List.append_assoc]
    rcases prepare_claims hwork with hnone | honce
    · exact .inl (unclaiming_append.2 ⟨hbefore, unclaiming_append.2 ⟨hnone, hlater⟩⟩)
    · exact .inr (honce.between (hpasses.sameTarget.trans ⟨rfl, rfl, rfl⟩) hbefore hlater)

/-! ### Being turned away -/

/-- A job that ends because its table was written to before. -/
def TurnedAway (result : ImportJob) : Prop :=
  result.status = .aborted ∧ result.errorDescription = some .sequenceNotZero

/-- Of the failures of a preparation only that of a claim that was answered counts as found before
a change. -/
theorem claims_of_precondition {f : Failure} (hp : Answered (im.prepare job) h (job', .error f))
    (hf : f.isPrecondition = true) : ¬ Unclaiming h := by
  have hlasting : f.isPrecondition ≠ false := by simp [hf]
  cases prepare_cases hp with
  | lost htarget => exact absurd (target_failure (by decide) htarget) hlasting
  | unclaimable _ _ hs =>
    obtain ⟨m, rfl⟩ := claimStatement_failure hs
    exact absurd rfl hlasting
  | refused => exact absurd (not_isPrecondition_of_database _) hlasting
  | versionKept => exact absurd rfl hlasting
  | installed _ _ _ _ hinstall => exact absurd ((install_calls hinstall).2 f rfl) hlasting
  | @notFresh c t s v hconnector htable hs =>
    exact fun hunclaiming => hunclaiming ⟨c, s⟩ (by simp [Question.calls]) (verb_claimed hs)

/-- A job is turned away by the answer to its claim. -/
theorem claims_of_turnedAway (hp : Answered (im.run job) h result)
    (hundescribed : job.errorDescription = none) (haway : TurnedAway result) : ¬ Unclaiming h := by
  obtain ⟨haborted, hdescribed⟩ := haway
  cases hjob : job.status.isFinal with
  | true =>
    obtain ⟨-, rfl⟩ := run_of_final hjob hp
    rw [hundescribed] at hdescribed
    cases hdescribed
  | false =>
    cases progress_of_run hjob hp with
    | @refused e =>
      obtain ⟨d, hend, hd⟩ := failWith_eq hjob (.unexpected .validation e.message)
      rw [hend] at hdescribed
      cases hdescribed
      rcases hd with hd | ⟨hd, -⟩ <;> cases hd
    | finished hpasses =>
      rw [hpasses.status_finalized] at haborted
      cases haborted
    | @broken p job' _ h h' hpasses hbreaks =>
      obtain ⟨job₁, job₂, f, hw, hr, e, e', rfl, -, -, -, hwork, -, hopen, rfl⟩ := hbreaks.parts
      have hf : f.isPrecondition = true := by
        rw [status_failWith hopen, ImportJob.failureStatus] at haborted
        by_contra hlasting
        simp [hlasting] at haborted
      cases p with
      | execute => exact absurd hf (by simp [work_failure (.inl rfl) hwork])
      | finalize => exact absurd hf (by simp [work_failure (.inr rfl) hwork])
      | prepare =>
        intro hunclaiming
        refine claims_of_precondition hwork hf ?_
        have hall := (unclaiming_append.1 hunclaiming).2
        exact (unclaiming_append.1 (unclaiming_append.1 hall).2).1
      | validate =>
        -- what goes wrong in a validation is described otherwise
        obtain ⟨d, hend, hd⟩ := failWith_eq hopen f
        rw [hend] at hdescribed
        cases hdescribed
        have hstage := work_failsIn hwork
        cases f <;> simp_all [FailsIn, Failure.errorType, Failure.errorDescription, Phase.stage,
          Stage.errorType]

/-- After a claim that was answered comes no other one. -/
theorem Fate.unclaiming {a : Except Database.Error Int64} {after : History}
    (hfate : Fate job a after result) : Unclaiming after := by
  cases hfate with
  | unanswered hsilent | turnedAway _ hsilent => exact unclaiming_of_silent hsilent
  | admitted hclaims => exact hclaims

end Importer

open Importer

/-! ### The retry -/

variable {im : Importer} {job job' result result' : ImportJob} {c : String} {t : Identifier}
  {s : Statement}

/-- A run on a table that nobody wrote to loses its connection.  After it a job without a space
version is run for the same table, and each of its statements is answered. -/
structure Retry (im : Importer) (job job' : ImportJob) (c : String) (t : Identifier)
    (s : Statement) (start now : Statement → Nat) (h h' : History) (result result' : ImportJob) :
    Prop where
  claim : claimStatement im.settings.schema t = .ok s
  aims : Aims job c t
  run : Answered (im.run job) h result
  lost : result.errorType = some .noDbConnection
  untouched : start s = 0
  counts : Counts start h now
  aims' : Aims job' c t
  unversioned : job'.spaceVersion = none
  undescribed : job'.errorDescription = none
  rerun : Answered (im.run job') h' result'
  recounts : ∃ later, Counts now h' later
  answered : ∀ reply ∈ replies h', reply.2 = .ok ()

/-- With one claim in a history, its sequences are counted by that claim only. -/
theorem draws_of_counts {before after : History} {q : Question} {a : Answer q}
    (hbefore : Unclaiming before) (hafter : Unclaiming after)
    (hcounts : Counts start (before ++ ⟨q, a⟩ :: after) now) : Draws start q a now := by
  obtain ⟨now₁, hfirst, _ | ⟨hdraws, hlast⟩⟩ := counts_append.1 hcounts
  obtain rfl := counts_of_unclaiming hfirst hbefore
  obtain rfl := counts_of_unclaiming hlast hafter
  exact hdraws

/-- A claim that was answered is in no history without claims. -/
theorem not_unclaiming {a : Except Database.Error Int64} (hverb : Verb.of? s = some .claim)
    (hclaim : ⟨.fetchInteger c s, a⟩ ∈ h) : ¬ Unclaiming h := fun hunclaiming =>
  hunclaiming ⟨c, s⟩ (mem_sent hclaim (List.mem_singleton_self _)) hverb

/-- The first run has counted the sequence of its table once at most: not at all when it did not
come to its claim, and once when its claim was answered. -/
theorem Retry.counted (r : Retry im job job' c t s start now h h' result result') :
    now s ≤ 1 ∧ (Unclaiming h → now s = 0) ∧
      ∀ c v, ⟨.fetchInteger c s, .ok v⟩ ∈ h → now s = 1 := by
  have hverb := verb_claimed r.claim
  rcases run_claims r.run with hnone | honce
  · have hnow : now s = 0 := by rw [counts_of_unclaiming r.counts hnone, r.untouched]
    exact ⟨by omega, fun _ => hnow, fun c v hclaim => absurd hnone (not_unclaiming hverb hclaim)⟩
  obtain @⟨before, after, c', t', s', a, haims, hs, hbefore, hafter⟩ := honce
  obtain ⟨rfl, rfl⟩ := r.aims.unique haims
  obtain rfl : s = s' := Except.ok.inj (r.claim.symm.trans hs)
  have hdraws := draws_of_counts hbefore hafter r.counts
  have hnot : ¬ Unclaiming (before ++ ⟨.fetchInteger c' s, a⟩ :: after) :=
    not_unclaiming hverb List.mem_append_cons_self
  have hat : ∀ c v, ⟨.fetchInteger c s, .ok v⟩ ∈ before ++ ⟨.fetchInteger c' s, a⟩ :: after →
      a = .ok v := by
    intro c v hclaim
    rcases List.mem_append.1 hclaim with hearly | hlate
    · exact absurd hbefore (not_unclaiming hverb hearly)
    · rcases List.mem_cons.1 hlate with heq | hlater
      · cases heq
        rfl
      · exact absurd hafter (not_unclaiming hverb hlater)
  have hcounted : Function.update start s (start s + 1) s = 1 := by simp [r.untouched]
  cases hdraws with
  | drawn | unheard =>
    exact ⟨hcounted.le, fun hnone => absurd hnone hnot, fun c v _ => hcounted⟩
  | undone =>
    refine ⟨by simp [r.untouched], fun _ => r.untouched, fun c v hclaim => ?_⟩
    cases hat c v hclaim
  | other hother => exact absurd hverb (hother _ _ rfl)

/-- The second run, if it comes to its claim, is given the number after that of the first. -/
theorem Retry.fate (r : Retry im job job' c t s start now h h' result result')
    (hclaims : ¬ Unclaiming h') :
    ∃ after, Fate job' (.ok (Int64.ofNat (now s + 1))) after result' := by
  have hverb := verb_claimed r.claim
  rcases entry_cases r.rerun (by simp [r.unversioned]) with
    hprobes | ⟨c', t', s', a, before, after, rfl, haims, hs, hbefore, hfate⟩
  · refine absurd (fun call hcall => ?_) hclaims
    obtain ⟨c', t', -, rfl⟩ := hprobes call hcall
    simp [Call.verb?, verb_exists]
  obtain ⟨rfl, rfl⟩ := r.aims'.unique haims
  obtain rfl : s = s' := Except.ok.inj (r.claim.symm.trans hs)
  have hearly : Unclaiming before := by
    intro call hcall
    rw [hbefore, List.mem_singleton] at hcall
    simp [hcall, Call.verb?, verb_exists]
  obtain ⟨later, hcounts⟩ := r.recounts
  have hdraws := draws_of_counts hearly hfate.unclaiming hcounts
  have hanswered : a.map (fun _ => ()) = .ok () :=
    r.answered (⟨c', s⟩, a.map fun _ => ()) (by simp [Question.replies])
  cases hdraws with
  | drawn => exact ⟨after, hfate⟩
  | unheard | undone => cases hanswered
  | other hother => exact absurd hverb (hother _ _ rfl)

/-- A retry is turned away exactly when it comes to its claim and the first run has counted the
sequence of the table.  The first run has not when it did not come to its own claim, and has when
that claim was answered, whatever it lost its connection at. -/
theorem retry_turned_away_iff (r : Retry im job job' c t s start now h h' result result') :
    (TurnedAway result' ↔ ¬ Unclaiming h' ∧ now s = 1) ∧
      now s ≤ 1 ∧ (Unclaiming h → now s = 0) ∧
        ∀ c v, ⟨.fetchInteger c s, .ok v⟩ ∈ h → now s = 1 := by
  refine ⟨?_, r.counted⟩
  by_cases hclaims : Unclaiming h'
  · have hnot : ¬ TurnedAway result' := fun haway =>
      claims_of_turnedAway r.rerun r.undescribed haway hclaims
    simp [hclaims, hnot]
  obtain ⟨after, hfate⟩ := r.fate hclaims
  rcases Nat.le_one_iff_eq_zero_or_eq_one.1 r.counted.1 with hnow | hnow
  · -- the table is as fresh as it was, and the first version admits the run
    rw [hnow] at hfate
    cases hfate with
    | turnedAway hv => exact absurd rfl hv
    | admitted _ hstatus => simp [TurnedAway, hstatus, hnow]
  · rw [hnow] at hfate
    generalize hv : Int64.ofNat (1 + 1) = v at hfate
    cases hfate with
    | turnedAway _ _ hstatus hdescription => simp [TurnedAway, hstatus, hdescription, hclaims, hnow]
    | admitted => exact absurd hv (by decide)

/-! ### The roads again -/

theorem draws_count (now : Statement → Nat) (q : Question) :
    Draws now q (Contest.count now q).1 (Contest.count now q).2 := by
  cases q with
  | fetchInteger c s =>
    by_cases hverb : Verb.of? s = some .claim
    · by_cases hbound : now s < lastNumber
      · simp only [Contest.count, if_pos hverb, if_pos hbound]
        exact .drawn hverb hbound
      · simp only [Contest.count, if_pos hverb, if_neg hbound]
        exact .undone hverb
    · simp only [Contest.count, if_neg hverb]
      refine .other fun c' s' hq => ?_
      cases hq
      exact hverb
  | connect | execute | executeAll | fetchTexts | inspect | record | now =>
    exact .other fun c s hq => by cases hq

/-- The connection is lost when the indices are listed. -/
def interrupted (now : Statement → Nat) : (q : Question) → Answer q × (Statement → Nat)
  | .fetchTexts _ _ => (.error (.noConnection "pool timed out"), now)
  | q => Contest.count now q

theorem draws_interrupted (now : Statement → Nat) (q : Question) :
    Draws now q (interrupted now q).1 (interrupted now q).2 := by
  cases q with
  | fetchTexts => exact .other fun c s hq => by cases hq
  | connect | execute | executeAll | fetchInteger | inspect | record | now =>
    exact draws_count now _

/-- The first of two imports of the roads, which loses its connection, with the sequences after
it. -/
def lostRoads : ImportJob × (Statement → Nat) :=
  (viewImporter.run roadsJob).runWith (fun q now => interrupted now q) fun _ => 0

/-- The second one, which does not. -/
def retriedRoads : ImportJob × (Statement → Nat) :=
  (viewImporter.run roadsJob).runWith (fun q now => Contest.count now q) lostRoads.2

/-- What the second one asked and was told. -/
def retriedHistory : History :=
  (viewImporter.run roadsJob).trace (fun q now => Contest.count now q) lostRoads.2

theorem roads_retry : Retry viewImporter roadsJob roadsJob "db" roads claimOfRoads (fun _ => 0)
    lostRoads.2
    ((viewImporter.run roadsJob).trace (fun q now => interrupted now q) fun _ => 0) retriedHistory
    lostRoads.1 retriedRoads.1 where
  claim := rfl
  aims := ⟨rfl, rfl⟩
  run := answered_trace _ _ _
  lost := by decide +kernel
  untouched := rfl
  counts := counts_trace draws_interrupted _ _
  aims' := ⟨rfl, rfl⟩
  unversioned := rfl
  undescribed := rfl
  rerun := answered_trace _ _ _
  recounts := ⟨_, counts_trace draws_count _ _⟩
  answered := by decide +kernel

/-- The second import of the roads is turned away. -/
theorem roads_turned_away_again : lostRoads.2 claimOfRoads = 1 ∧ TurnedAway retriedRoads.1 := by
  have hcounted : lostRoads.2 claimOfRoads = 1 := by decide +kernel
  have hclaims : ¬ Unclaiming retriedHistory := by
    unfold Unclaiming
    decide +kernel
  exact ⟨hcounted, (retry_turned_away_iff roads_retry).1.2 ⟨hclaims, hcounted⟩⟩

/-- A run that can be tried again may have used up what a second one needs. -/
theorem not_always_retried : ¬ ∀ (im : Importer) (job job' : ImportJob) (c : String)
    (t : Identifier) (s : Statement) (start now : Statement → Nat) (h h' : History)
    (result result' : ImportJob),
    Retry im job job' c t s start now h h' result result' → ¬ TurnedAway result' := by
  intro hall
  refine hall _ _ _ _ _ _ _ _ _ _ _ _ roads_retry ?_
  unfold TurnedAway
  decide +kernel

end BulkImport.Import
