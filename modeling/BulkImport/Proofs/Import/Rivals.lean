import BulkImport.Proofs.Import.Entry
import Mathlib.Data.List.Pairwise
import Mathlib.Logic.Relation

/-!
# Rivals for a table

Any number of runs want the same table, each with a job that has no space version yet, and ask
their questions in any order (`Contest.Step`).  The database counts each version sequence up by one
for every claim that it answers (`Replies`); what else it answers is open, and others may draw from
its sequences too.

A run does nothing to the table but look for it and claim it until its claim was answered with the
first version (`admitted_of_work`), and a sequence gives its first number once (`Fair.step`).  So
at most one of the rivals ever works on the table, and every run whose claim gave another version
is turned away (`one_rival_works`).
-/

namespace BulkImport.Import

open BulkImport.Job BulkImport.Sql BulkImport.Table BulkImport.Program

namespace Importer

variable {im : Importer} {job result : ImportJob} {h : History}

/-! ### The one claim of a run -/

/-- A run sends nothing but a look for its table, or claims it once after that look. -/
theorem entry_cases (hp : Answered (im.run job) h result)
    (hversion : job.spaceVersion ≠ some freshVersion) :
    (∀ call ∈ sent h, ∃ c t, Aims job c t ∧ call = ⟨c, existsStatement im.settings.schema t⟩) ∨
      ∃ c t s a before after, h = before ++ ⟨.fetchInteger c s, a⟩ :: after ∧ Aims job c t ∧
        claimStatement im.settings.schema t = .ok s ∧
        sent before = [⟨c, existsStatement im.settings.schema t⟩] ∧ Fate job a after result := by
  cases hjob : job.status.isFinal with
  | true =>
    obtain ⟨rfl, -⟩ := run_of_final hjob hp
    exact .inl fun call hcall => by cases hcall
  | false =>
    rcases entry_of_run hjob hp (.inl hversion) with hsilent | ⟨c, t, haims, hentry⟩
    · exact .inl fun call hcall => by simp [hsilent] at hcall
    cases hentry with
    | unclaimed hsent =>
      exact .inl fun call hcall => ⟨c, t, haims, by simpa [hsent] using hcall⟩
    | claimed haims' hs hbefore hfate =>
      obtain ⟨rfl, rfl⟩ := haims.unique haims'
      exact .inr ⟨_, _, _, _, _, _, rfl, haims, hs, hbefore, hfate⟩

/-- The claim that a run sent is the one that decides its fate. -/
theorem fate_of_claim {c : String} {s : Statement} {a : Except Database.Error Int64}
    (hp : Answered (im.run job) h result) (hversion : job.spaceVersion ≠ some freshVersion)
    (hclaim : ⟨.fetchInteger c s, a⟩ ∈ h) (hverb : Verb.of? s = some .claim) :
    ∃ after, Fate job a after result := by
  have hcall : ∀ {h' : History}, ⟨.fetchInteger c s, a⟩ ∈ h' → (⟨c, s⟩ : Call) ∈ sent h' :=
    fun hmem => mem_sent hmem (List.mem_singleton_self _)
  -- a look for a table is no claim
  have hlook : ∀ {c' : String} {t : Identifier},
      (⟨c, s⟩ : Call) ≠ ⟨c', existsStatement im.settings.schema t⟩ := by
    rintro c' t heq
    cases heq
    simp [verb_exists] at hverb
  rcases entry_cases hp hversion with
    hprobes | ⟨c', t, s', a', before, after, rfl, -, -, hbefore, hfate⟩
  · obtain ⟨c', t, -, heq⟩ := hprobes _ (hcall hclaim)
    exact absurd heq hlook
  rcases List.mem_append.1 hclaim with hearly | hlate
  · have hsent := hcall hearly
    rw [hbefore, List.mem_singleton] at hsent
    exact absurd hsent hlook
  rcases List.mem_cons.1 hlate with heq | hlater
  · cases heq
    exact ⟨after, hfate⟩
  · -- nothing is claimed after the claim
    have hsent := hcall hlater
    cases hfate with
    | unanswered hsilent | turnedAway _ hsilent =>
      rw [hsilent] at hsent
      cases hsent
    | admitted hclaims => exact absurd hverb (hclaims _ hsent)

/-- What may be sent about a table of a schema before it is claimed, and the claim itself. -/
inductive Approaches (schema : Identifier) (table : String) : Call → Prop where
  | probe {c : String} {t : Identifier} (ht : t.text = table) :
      Approaches schema table ⟨c, existsStatement schema t⟩
  | claim {c : String} {t : Identifier} {s : Statement} (ht : t.text = table)
      (hs : claimStatement schema t = .ok s) : Approaches schema table ⟨c, s⟩

/-- Anything else is sent once the claim was answered with the first version. -/
theorem admitted_of_work {table : String} {past later : History} {call : Call}
    (hp : Answered (im.run job) (past ++ later) result)
    (hversion : job.spaceVersion ≠ some freshVersion) (htable : job.targetTable = some table)
    (hcall : call ∈ sent past) (hwork : ¬ Approaches im.settings.schema table call) :
    ∃ c t s, t.text = table ∧ claimStatement im.settings.schema t = .ok s ∧
      ⟨.fetchInteger c s, .ok freshVersion⟩ ∈ past := by
  have hsent : call ∈ sent (past ++ later) := by simp [hcall]
  have hname : ∀ {c t}, Aims job c t → t.text = table := fun haims =>
    Option.some.inj (haims.table.symm.trans htable)
  rcases entry_cases hp hversion with
    hprobes | ⟨c, t, s, a, before, after, hall, haims, hs, hbefore, hfate⟩
  · obtain ⟨c, t, haims, rfl⟩ := hprobes _ hsent
    exact absurd (.probe (hname haims)) hwork
  have happroach : ∀ call ∈ sent (before ++ [⟨.fetchInteger c s, a⟩]),
      Approaches im.settings.schema table call := by
    intro call hcall
    simp only [sent_append, sent_cons, sent_nil, hbefore, Question.calls, List.mem_append,
      List.mem_singleton, List.append_nil] at hcall
    rcases hcall with rfl | rfl
    · exact .probe (hname haims)
    · exact .claim (hname haims) hs
  have hshape : before ++ ⟨.fetchInteger c s, a⟩ :: after =
      (before ++ [⟨.fetchInteger c s, a⟩]) ++ after := by simp
  -- the work is done after the claim, which therefore was answered with the first version
  have hfirst : a = .ok freshVersion := by
    rw [hall, hshape, sent_append] at hsent
    have hafter := (List.mem_append.1 hsent).resolve_left fun hearly =>
      hwork (happroach _ hearly)
    cases hfate with
    | unanswered hsilent | turnedAway _ hsilent =>
      rw [hsilent] at hafter
      cases hafter
    | admitted => rfl
  subst hfirst
  refine ⟨c, t, s, hname haims, hs, ?_⟩
  have hprefix : past <+: before ++ [⟨.fetchInteger c s, .ok freshVersion⟩] ++ after :=
    ⟨later, hall.trans hshape⟩
  rcases List.prefix_or_prefix_of_prefix hprefix (List.prefix_append _ _) with hearly | hlate
  · obtain ⟨rest, hrest⟩ := hearly
    refine absurd (happroach call ?_) hwork
    rw [← hrest]
    simp [hcall]
  · exact hlate.subset (by simp)

end Importer

open Importer

/-! ### The contest -/

/-- A run on its way: what it asked so far, and what it has still to do. -/
structure Rival where
  im : Importer
  job : ImportJob
  past : History
  rest : Action ImportJob

/-- Runs on their way, and the numbers that the version sequences have come to, each under the
statement that draws from it. -/
structure Contest where
  sequences : Statement → Nat
  rivals : List Rival

/-- The number at which a sequence has come to its end. -/
def lastNumber : Nat := 9223372036854775807

/-- How a database answers and counts.  A claim gives the next number of its sequence, as long as
there is one, or fails and may have used numbers up; anything else may be answered in any way.
Nothing counts a sequence down. -/
inductive Replies (sequences : Statement → Nat) :
    (q : Question) → Answer q → (Statement → Nat) → Prop where
  | drawn {c : String} {s : Statement} (hverb : Verb.of? s = some .claim)
      (hbound : sequences s < lastNumber) :
      Replies sequences (.fetchInteger c s) (.ok (Int64.ofNat (sequences s + 1)))
        (Function.update sequences s (sequences s + 1))
  | lost {c : String} {s : Statement} {e : Database.Error} {sequences' : Statement → Nat}
      (hverb : Verb.of? s = some .claim) (hgrown : ∀ s, sequences s ≤ sequences' s) :
      Replies sequences (.fetchInteger c s) (.error e) sequences'
  | other {q : Question} {a : Answer q} {sequences' : Statement → Nat}
      (hverb : ∀ c s, q = .fetchInteger c s → Verb.of? s ≠ some .claim)
      (hgrown : ∀ s, sequences s ≤ sequences' s) : Replies sequences q a sequences'

/-- One question of one of the runs is answered, or somebody else draws from the sequences. -/
inductive Contest.Step : Contest → Contest → Prop where
  | asked {sequences sequences' : Statement → Nat} {before after : List Rival} {r : Rival}
      {q : Question} {next : Answer q → Action ImportJob} {a : Answer q}
      (hrest : r.rest = .ask q next) (hreply : Replies sequences q a sequences') :
      Step ⟨sequences, before ++ r :: after⟩
        ⟨sequences', before ++ { r with past := r.past ++ [⟨q, a⟩], rest := next a } :: after⟩
  | elsewhere {sequences sequences' : Statement → Nat} {rivals : List Rival}
      (hgrown : ∀ s, sequences s ≤ sequences' s) : Step ⟨sequences, rivals⟩ ⟨sequences', rivals⟩

namespace Rival

/-- The run has a job for this table of this schema, without a space version, and has not begun. -/
structure Enters (schema : Identifier) (table : String) (r : Rival) : Prop where
  schema : r.im.settings.schema = schema
  table : r.job.targetTable = some table
  unversioned : r.job.spaceVersion = none
  past : r.past = []
  rest : r.rest = r.im.run r.job

/-- The run has sent something else than the look for its table and the claim of it. -/
def Works (schema : Identifier) (table : String) (r : Rival) : Prop :=
  ∃ call ∈ sent r.past, ¬ Approaches schema table call

/-- The run was given this number for a claim. -/
def Drew (r : Rival) (s : Statement) (v : Int64) : Prop :=
  ∃ c, ⟨.fetchInteger c s, .ok v⟩ ∈ r.past ∧ Verb.of? s = some .claim

/-- What holds of a run on its way, between the numbers at the beginning and those of now. -/
structure Fits (schema : Identifier) (table : String) (start now : Statement → Nat) (r : Rival) :
    Prop where
  schema : r.im.settings.schema = schema
  table : r.job.targetTable = some table
  unversioned : r.job.spaceVersion = none
  along : ∀ h result, Answered r.rest h result → Answered (r.im.run r.job) (r.past ++ h) result
  first : ∀ s, r.Drew s freshVersion → start s = 0 ∧ 0 < now s

variable {schema : Identifier} {table : String} {start now now' : Statement → Nat} {r : Rival}

theorem Enters.fits (h : r.Enters schema table) : r.Fits schema table start now where
  schema := h.schema
  table := h.table
  unversioned := h.unversioned
  along := by
    intro history result hp
    rw [h.past]
    exact h.rest ▸ hp
  first := by
    rintro s ⟨c, hdrawn, -⟩
    rw [h.past] at hdrawn
    cases hdrawn

theorem Fits.later (h : r.Fits schema table start now) (hgrown : ∀ s, now s ≤ now' s) :
    r.Fits schema table start now' :=
  { h with
    first := fun s hdrew =>
      ⟨(h.first s hdrew).1, Nat.lt_of_lt_of_le (h.first s hdrew).2 (hgrown s)⟩ }

/-- A run that works was given the first number of the sequence of its table. -/
theorem Fits.first_of_works (h : r.Fits schema table start now) (hworks : r.Works schema table) :
    ∃ t s, t.text = table ∧ claimStatement schema t = .ok s ∧ r.Drew s freshVersion := by
  obtain ⟨call, hcall, hwork⟩ := hworks
  rw [← h.schema] at hwork
  -- however the run goes on, it was admitted by now
  obtain ⟨c, t, s, ht, hs, hdrawn⟩ := admitted_of_work
    (h.along _ _ (answered_carryOut oblige r.rest)) (by simp [h.unversioned]) h.table hcall hwork
  exact ⟨t, s, ht, h.schema ▸ hs, c, hdrawn, verb_claimed hs⟩

/-- The run after one of its questions was answered. -/
def told (r : Rival) (q : Question) (a : Answer q) (rest : Action ImportJob) : Rival :=
  { r with past := r.past ++ [⟨q, a⟩], rest := rest }

theorem drew_told {q : Question} {a : Answer q} {rest : Action ImportJob} {s : Statement}
    {v : Int64} (h : (r.told q a rest).Drew s v) :
    r.Drew s v ∨ ∃ c, (⟨q, a⟩ : Exchange Question Answer) = ⟨.fetchInteger c s, .ok v⟩ ∧
      Verb.of? s = some .claim := by
  obtain ⟨c, hdrawn, hverb⟩ := h
  rcases List.mem_append.1 hdrawn with hdrawn | hnow
  · exact .inl ⟨c, hdrawn, hverb⟩
  · exact .inr ⟨c, (List.mem_singleton.1 hnow).symm, hverb⟩

end Rival

/-- A claim that is answered with the first version has the first number of its sequence. -/
theorem Replies.first {now now' : Statement → Nat} {q : Question} {a : Answer q} {c : String}
    {s : Statement} (hreply : Replies now q a now')
    (hfirst : (⟨q, a⟩ : Exchange Question Answer) = ⟨.fetchInteger c s, .ok freshVersion⟩)
    (hverb : Verb.of? s = some .claim) : now s = 0 ∧ 0 < now' s := by
  cases hreply with
  | @drawn c' s' hverb' hbound =>
    simp only [Exchange.mk.injEq, Question.fetchInteger.injEq] at hfirst
    obtain ⟨⟨rfl, rfl⟩, hanswer⟩ := hfirst
    have hone := congrArg Int64.toInt (Except.ok.inj (eq_of_heq hanswer))
    rw [Int64.toInt_ofNat_of_lt (by simp only [lastNumber] at hbound; omega)] at hone
    have hzero : now s' = 0 := by
      simp [freshVersion] at hone
      omega
    simp [hzero]
  | lost => cases hfirst
  | other hother =>
    cases hfirst
    exact absurd hverb (hother c s rfl)

theorem Replies.grown {now now' : Statement → Nat} {q : Question} {a : Answer q}
    (hreply : Replies now q a now') : ∀ s, now s ≤ now' s := by
  cases hreply with
  | @drawn c s =>
    intro s'
    by_cases hs : s' = s
    · subst hs
      simp
    · simp [Function.update_of_ne hs]
  | lost _ hgrown => exact hgrown
  | other _ hgrown => exact hgrown

/-- A run is on its way as before when one of its questions was answered. -/
theorem Rival.Fits.told {schema : Identifier} {table : String} {start now now' : Statement → Nat}
    {r : Rival} {q : Question} {next : Answer q → Action ImportJob} {a : Answer q}
    (h : r.Fits schema table start now) (hstart : ∀ s, start s ≤ now s)
    (hrest : r.rest = .ask q next) (hreply : Replies now q a now') :
    (r.told q a (next a)).Fits schema table start now' where
  schema := h.schema
  table := h.table
  unversioned := h.unversioned
  along := by
    intro history result hp
    have hbefore : Answered r.rest (⟨q, a⟩ :: history) result := hrest ▸ .ask a hp
    simpa [Rival.told] using h.along _ result hbefore
  first := by
    intro s hdrew
    rcases Rival.drew_told hdrew with hearlier | ⟨c, hnow, hverb⟩
    · exact (h.later hreply.grown).first s hearlier
    · obtain ⟨hzero, hone⟩ := hreply.first hnow hverb
      exact ⟨Nat.le_zero.1 (hzero ▸ hstart s), hone⟩

namespace Contest

/-- What holds in the course of a contest: the sequences have only grown, and no two runs were
given the first number of one. -/
structure Fair (schema : Identifier) (table : String) (start : Statement → Nat) (x : Contest) :
    Prop where
  grown : ∀ s, start s ≤ x.sequences s
  fits : ∀ r ∈ x.rivals, r.Fits schema table start x.sequences
  once : x.rivals.Pairwise fun r r' => ∀ s, ¬ (r.Drew s freshVersion ∧ r'.Drew s freshVersion)

variable {schema : Identifier} {table : String} {start : Statement → Nat} {x y : Contest}

theorem Fair.initial (hx : ∀ r ∈ x.rivals, r.Enters schema table) :
    Fair schema table x.sequences x where
  grown := fun s => Nat.le_refl _
  fits := fun r hr => (hx r hr).fits
  once := by
    refine List.pairwise_of_forall_mem_list fun r hr r' _ s hboth => ?_
    obtain ⟨c, hdrawn, -⟩ := hboth.1
    rw [(hx r hr).past] at hdrawn
    cases hdrawn

theorem Fair.step (h : Fair schema table start x) (hstep : Step x y) :
    Fair schema table start y := by
  cases hstep with
  | elsewhere hgrown =>
    exact ⟨fun s => Nat.le_trans (h.grown s) (hgrown s),
      fun r hr => (h.fits r hr).later hgrown, h.once⟩
  | @asked now now' before after r q next a hrest hreply =>
    refine ⟨fun s => Nat.le_trans (h.grown s) (hreply.grown s), ?_, ?_⟩
    · exact forall_mem_replace (fun r' hr' => (h.fits r' hr').later hreply.grown)
        ((h.fits r List.mem_append_cons_self).told h.grown hrest hreply)
    have hsymm : ∀ {r r' : Rival}, (∀ s, ¬ (r.Drew s freshVersion ∧ r'.Drew s freshVersion)) →
        ∀ s, ¬ (r'.Drew s freshVersion ∧ r.Drew s freshVersion) :=
      fun hone s hboth => hone s hboth.symm
    have honce := (List.pairwise_middle hsymm).1 h.once
    rw [List.pairwise_cons] at honce
    refine (List.pairwise_middle hsymm).2 (List.pairwise_cons.2 ⟨?_, honce.2⟩)
    rintro r' hr' s ⟨hdrew, hdrew'⟩
    rcases Rival.drew_told hdrew with hearlier | ⟨c, hnow, hverb⟩
    · exact honce.1 r' hr' s ⟨hearlier, hdrew'⟩
    · -- a first number that is given now was given to nobody before
      have hgiven := ((forall_mem_remove h.fits r' hr').first s hdrew').2
      have hunused := (hreply.first hnow hverb).1
      exact absurd hgiven (by simp [hunused])

theorem Fair.run (h : Fair schema table start x) (hrun : Relation.ReflTransGen Step x y) :
    Fair schema table start y := by
  induction hrun with
  | refl => exact h
  | tail _ hstep ih => exact ih.step hstep

/-- Of the runs that want a table at most one does anything to it but look for it and claim it, and
none does when its sequence had begun.  A run whose claim gave another version than the first one
ends aborted, whatever it is told from then on, and shows that version. -/
theorem one_rival_works (hx : ∀ r ∈ x.rivals, r.Enters schema table)
    (hrun : Relation.ReflTransGen Step x y) :
    (y.rivals.Pairwise fun r r' => ¬ (r.Works schema table ∧ r'.Works schema table)) ∧
      ((∀ t s, t.text = table → claimStatement schema t = .ok s → 0 < x.sequences s) →
        ∀ r ∈ y.rivals, ¬ r.Works schema table) ∧
      ∀ r ∈ y.rivals, ∀ s v, r.Drew s v → v ≠ freshVersion →
        (∃ h result, Answered r.rest h result) ∧
          ∀ h result, Answered r.rest h result → result.status = .aborted ∧
            result.errorDescription = some .sequenceNotZero ∧ result.spaceVersion = some v := by
  have hfair := (Fair.initial hx).run hrun
  refine ⟨?_, ?_, ?_⟩
  · refine hfair.once.imp_of_mem fun {r r'} hr hr' hone => ?_
    rintro ⟨hworks, hworks'⟩
    obtain ⟨t, s, ht, hs, hdrew⟩ := (hfair.fits r hr).first_of_works hworks
    obtain ⟨t', s', ht', hs', hdrew'⟩ := (hfair.fits r' hr').first_of_works hworks'
    -- both were given the first number of the one sequence that the table has
    obtain rfl : t' = t := Identifier.ext (ht'.trans ht.symm)
    rw [hs] at hs'
    cases hs'
    exact hone s ⟨hdrew, hdrew'⟩
  · intro hbegun r hr hworks
    obtain ⟨t, s, ht, hs, hdrew⟩ := (hfair.fits r hr).first_of_works hworks
    have hzero := ((hfair.fits r hr).first s hdrew).1
    exact absurd (hbegun t s ht hs) (by simp [hzero])
  · rintro r hr s v ⟨c, hdrawn, hverb⟩ hv
    refine ⟨⟨_, _, answered_carryOut oblige r.rest⟩, fun h result hp => ?_⟩
    have hfits := hfair.fits r hr
    obtain ⟨after, hfate⟩ := fate_of_claim (hfits.along h result hp) (by simp [hfits.unversioned])
      (List.mem_append_left h hdrawn) hverb
    cases hfate with
    | turnedAway _ _ hstatus hdescription hversion =>
      exact ⟨hstatus, hdescription, hversion hfits.unversioned⟩
    | admitted => exact absurd rfl hv

/-! ### A small contest -/

/-- A database that counts its sequences, and does whatever else it is asked to. -/
def count (sequences : Statement → Nat) : (q : Question) → Answer q × (Statement → Nat)
  | .fetchInteger _ s =>
    if Verb.of? s = some .claim then
      if sequences s < lastNumber then
        (.ok (Int64.ofNat (sequences s + 1)), Function.update sequences s (sequences s + 1))
      else (.error (.unexpectedRow "the sequence is used up"), sequences)
    else (.ok 1, sequences)
  | q => (oblige q, sequences)

theorem replies_count (sequences : Statement → Nat) (q : Question) :
    Replies sequences q (count sequences q).1 (count sequences q).2 := by
  have hsame : ∀ s, sequences s ≤ sequences s := fun s => Nat.le_refl _
  cases q with
  | fetchInteger c s =>
    by_cases hverb : Verb.of? s = some .claim
    · by_cases hbound : sequences s < lastNumber
      · simp only [count, if_pos hverb, if_pos hbound]
        exact .drawn hverb hbound
      · simp only [count, if_pos hverb, if_neg hbound]
        exact .lost hverb hsame
    · simp only [count, if_neg hverb]
      refine .other (fun c' s' hq => ?_) hsame
      cases hq
      exact hverb
  | connect | execute | executeAll | fetchTexts | inspect | record | now =>
    exact .other (fun c s hq => by cases hq) hsame

/-- The run at a place of the list has its next question answered by such a database. -/
def turn (x : Contest) (place : Nat) : Contest :=
  match x.rivals.drop place with
  | [] => x
  | r :: after =>
    match r.rest with
    | .done _ => x
    | .ask q next =>
      let (a, sequences) := count x.sequences q
      ⟨sequences, x.rivals.take place ++ r.told q a (next a) :: after⟩

theorem step_turn (x : Contest) (place : Nat) : Relation.ReflTransGen Step x (x.turn place) := by
  unfold turn
  split
  · exact .refl
  · next r after hplace =>
    split
    · exact .refl
    · next q next hrest =>
      have hsplit : x.rivals = x.rivals.take place ++ r :: after := by
        rw [← hplace, List.take_append_drop]
      have hstep := @Step.asked x.sequences _ (x.rivals.take place) after r q next _ hrest
        (replies_count x.sequences q)
      rw [← hsplit] at hstep
      exact .single hstep

/-- The runs at these places take turns. -/
def play (x : Contest) (places : List Nat) : Contest := places.foldl turn x

theorem run_play (x : Contest) (places : List Nat) :
    Relation.ReflTransGen Step x (x.play places) := by
  induction places generalizing x with
  | nil => exact .refl
  | cons place places ih => exact (step_turn x place).trans (ih _)

/-- Two imports of the same roads. -/
def roadsContest : Contest where
  sequences := fun _ => 0
  rivals := [⟨viewImporter, roadsJob, [], viewImporter.run roadsJob⟩,
    ⟨viewImporter, roadsJob, [], viewImporter.run roadsJob⟩]

/-- The two imports of the roads after they took turns. -/
def contestedRoads : Contest := roadsContest.play (List.replicate 9 [0, 1]).flatten

theorem roadsContest_enters : ∀ r ∈ roadsContest.rivals,
    r.Enters viewImporter.settings.schema "roads" := by
  have henters : Rival.Enters viewImporter.settings.schema "roads"
      ⟨viewImporter, roadsJob, [], viewImporter.run roadsJob⟩ := ⟨rfl, rfl, rfl, rfl, rfl⟩
  intro r hr
  simp only [roadsContest, List.mem_cons, List.not_mem_nil, or_false, or_self] at hr
  exact hr ▸ henters

/-- Of the two imports of the roads one goes on to drop its indices, and the other is turned
away. -/
theorem roads_one_works :
    (contestedRoads.rivals.map fun r => (sent r.past).length) = [4, 2] ∧
      contestedRoads.rivals.Pairwise fun r r' =>
        ¬ (r.Works viewImporter.settings.schema "roads" ∧
          r'.Works viewImporter.settings.schema "roads") :=
  ⟨by decide +kernel, (one_rival_works roadsContest_enters (run_play _ _)).1⟩

end Contest

end BulkImport.Import
