import BulkImport.Proofs.Import.Calls

/-!
# What a validation does

No phase of an import touches the name, the status or the target of the job (`Kept`).  A validation
breaks off where there is no target table or no upload (`BreaksOff`), and looks at the uploads
otherwise (`checkTarget_cases`).  A validation that passes has looked for the target table, and no
validation does anything else to a database or changes anything but the uploads (`validate_ends`,
`validate_cases`, `validate_calls`).
-/

namespace BulkImport.Import

open BulkImport.Job BulkImport.Sql BulkImport.Table BulkImport.Program

/-- The facts of a job's life are the same, apart from its space version and the description of
what went wrong. -/
def Kept (job job' : ImportJob) : Prop :=
  ({ job'.toEnvelope with spaceVersion := none, errorDescription := none } : Envelope) =
    { job.toEnvelope with spaceVersion := none, errorDescription := none }

namespace Kept

variable {job job' job'' : ImportJob}

theorem refl (job : ImportJob) : Kept job job := rfl

theorem trans (h : Kept job job') (h' : Kept job' job'') : Kept job job'' := Eq.trans h' h

theorem id (h : Kept job job') : job'.id = job.id := (congrArg Envelope.id h :)

theorem status (h : Kept job job') : job'.status = job.status := (congrArg Envelope.status h :)

theorem executedAt (h : Kept job job') : job'.executedAt = job.executedAt :=
  (congrArg Envelope.executedAt h :)

theorem finalizedAt (h : Kept job job') : job'.finalizedAt = job.finalizedAt :=
  (congrArg Envelope.finalizedAt h :)

theorem targetConnector (h : Kept job job') : job'.targetConnector = job.targetConnector :=
  (congrArg Envelope.targetConnector h :)

theorem targetTable (h : Kept job job') : job'.targetTable = job.targetTable :=
  (congrArg Envelope.targetTable h :)

/-- What was found as the target of a job stays its target. -/
theorem located {registry : String → Except Database.Error Unit} {c : String} {t : Identifier}
    (h : Kept job job') (hl : Located registry job c t) : Located registry job' c t :=
  hl.sameTarget h.targetConnector h.targetTable

end Kept

/-- Two records of one import, which has one name and one target. -/
structure SameTarget (job job' : ImportJob) : Prop where
  id : job'.id = job.id
  connector : job'.targetConnector = job.targetConnector
  table : job'.targetTable = job.targetTable

namespace SameTarget

variable {job job' job'' : ImportJob}

theorem refl (job : ImportJob) : SameTarget job job := ⟨rfl, rfl, rfl⟩

theorem trans (h : SameTarget job job') (h' : SameTarget job' job'') : SameTarget job job'' :=
  ⟨h'.id.trans h.id, h'.connector.trans h.connector, h'.table.trans h.table⟩

end SameTarget

theorem Kept.sameTarget {job job' : ImportJob} (h : Kept job job') : SameTarget job job' :=
  ⟨h.id, h.targetConnector, h.targetTable⟩

namespace Importer

variable {im : Importer}

theorem mem_validUploads {job : ImportJob} {u : Upload} :
    u ∈ job.validUploads ↔ (∃ key, job.uploads.find? key = some u) ∧ u.valid = true := by
  rw [ImportJob.validUploads, List.mem_filter, Dictionary.mem_values_iff]

theorem inspectAll_sends {entries : List (String × Upload)} {h : History}
    {found : List (String × Except Unit (Option UInt64))}
    (hp : Answered (inspectAll entries) h found) : Sends h [] := by
  induction entries generalizing h found with
  | nil =>
    obtain ⟨rfl, -⟩ := answered_pure.1 hp
    exact ⟨rfl, rfl⟩
  | cons e entries ih =>
    obtain ⟨key, u⟩ := e
    obtain ⟨h₁, h₂, a, rfl, hq, hrest⟩ := answered_andThen.1 hp
    obtain rfl := answered_query.1 hq
    obtain ⟨h₃, h₄, others, rfl, hothers, hend⟩ := answered_andThen.1 hrest
    obtain ⟨rfl, -⟩ := answered_pure.1 hend
    rw [List.append_nil]
    exact ⟨(ih hothers).sent, (ih hothers).unrecorded⟩

/-- The connector and the table that a job names. -/
structure Aims (job : ImportJob) (connector : String) (table : Identifier) : Prop where
  connector : job.targetConnector = some connector
  table : job.targetTable = some table.text

/-- What passes when a table is looked for. -/
def probing (im : Importer) (c : String) (t : Identifier) (count : Except Database.Error Int64) :
    History :=
  [⟨.connect c, .ok ()⟩, ⟨.fetchInteger c (existsStatement im.settings.schema t), count⟩]

/-- How a validation breaks off before it looks at the uploads: what has passed until then, and what
is reported. -/
inductive BreaksOff (im : Importer) (job : ImportJob) : History → Failure → Prop where
  /-- There is no such connector, or no name of a table. -/
  | lost {h : History} {f : Failure} (hsought : Sought .validation job h (.error f)) :
      BreaksOff im job h f
  | unanswered {c : String} {t : Identifier} {e : Database.Error} (haims : Aims job c t) :
      BreaksOff im job (im.probing c t (.error e)) (.ofDatabase .validation e)
  | missing {c : String} {t : Identifier} {n : Int64} (haims : Aims job c t) (hn : ¬ 0 < n) :
      BreaksOff im job (im.probing c t (.ok n)) (.targetTableMissing t.text)
  | noUpload {c : String} {t : Identifier} {n : Int64} (haims : Aims job c t) (hn : 0 < n)
      (hnone : job.uploads.isEmpty = true) :
      BreaksOff im job (im.probing c t (.ok n)) .uploadMissing

/-- The target table is there and the job has uploads, or the validation breaks off. -/
theorem checkTarget_cases {job : ImportJob} {h : History} {r : Except Failure Unit}
    (hp : Answered (im.checkTarget job).run h r) :
    (∃ f, r = .error f ∧ BreaksOff im job h f) ∨
      r = .ok () ∧ job.uploads.isEmpty = false ∧
        ∃ c t n, Aims job c t ∧ 0 < n ∧ h = im.probing c t (.ok n) := by
  unfold checkTarget at hp
  rcases answered_attempt.1 hp with ⟨f, htarget, rfl⟩ | ⟨h₁, h₂, ⟨c, t⟩, rfl, htarget, hrest⟩
  · exact .inl ⟨f, rfl, .lost (sought_of_answered htarget)⟩
  rcases target_cases htarget with ⟨f, hlost, -⟩ | ⟨c', t', hfound, hc, ht, rfl⟩
  · cases hlost
  cases hfound
  have haims : Aims job c t := ⟨hc, ht⟩
  rcases answered_attempt.1 hrest with ⟨f, hexists, rfl⟩ | ⟨h₃, h₄, present, rfl, hexists, hend⟩
  · obtain ⟨e, hcall, rfl⟩ := answered_database_error.1 hexists
    obtain ⟨a, rfl, ha⟩ := tableExists_cases hcall
    obtain rfl := map_eq_error_iff.1 ha.symm
    exact .inl ⟨_, rfl, .unanswered haims⟩
  obtain ⟨a, rfl, ha⟩ := tableExists_cases (answered_database_ok.1 hexists)
  obtain ⟨n, rfl, rfl⟩ := map_eq_ok_iff.1 ha.symm
  by_cases hn : 0 < n
  · cases hnone : job.uploads.isEmpty with
    | true =>
      simp only [hn, hnone] at hend
      obtain ⟨rfl, rfl⟩ := answered_throw.1 hend
      exact .inl ⟨_, rfl, .noUpload haims hn hnone⟩
    | false =>
      simp only [hn, hnone] at hend
      obtain ⟨rfl, rfl⟩ := answered_return.1 hend
      exact .inr ⟨rfl, rfl, c, t, n, haims, hn, rfl⟩
  · simp only [hn] at hend
    rcases answered_attempt.1 hend with ⟨f, hthrow, rfl⟩ | ⟨h₅, h₆, u, rfl, hthrow, -⟩
    · obtain ⟨rfl, hf⟩ := answered_throw.1 hthrow
      cases hf
      exact .inl ⟨_, rfl, .missing haims hn⟩
    · cases (answered_throw.1 hthrow).2

/-- The target table is looked for once it is found what to look for. -/
theorem checkTarget_probes {job : ImportJob} {h : History} {r : Except Failure Unit}
    (hp : Answered (im.checkTarget job).run h r) :
    (Sends h [] ∧ ∃ f, r = .error f) ∨
      ∃ c t, Aims job c t ∧ Sends h [⟨c, existsStatement im.settings.schema t⟩] := by
  rcases checkTarget_cases hp with ⟨f, rfl, hbreaks⟩ | ⟨rfl, -, c, t, n, haims, -, rfl⟩
  · cases hbreaks with
    | lost hsought =>
      refine .inl ⟨?_, f, rfl⟩
      cases hsought <;> exact ⟨rfl, rfl⟩
    | unanswered haims | missing haims | noUpload haims =>
      exact .inr ⟨_, _, haims, rfl, rfl⟩
  · exact .inr ⟨c, t, haims, rfl, rfl⟩

/-- A job whose uploads were looked up. -/
def afterInspections (job : ImportJob) (found : List (String × Except Unit (Option UInt64))) :
    ImportJob :=
  { job with
    uploads := (applyInspections job.uploads found).mapValues fun _ u => markInvalid u }

/-- A validation fails with the look for its target, or looks its uploads up and fails where none of
them is valid then. -/
theorem validate_ends {job : ImportJob} {h : History} {o : Outcome}
    (hp : Answered (im.validate job) h o) :
    (∃ f, Answered (im.checkTarget job).run h (.error f) ∧ o = (job, .error f)) ∨
      ∃ h₁ h₂ found, h = h₁ ++ h₂ ∧ Answered (im.checkTarget job).run h₁ (.ok ()) ∧
        Answered (if im.inspects then inspectAll job.uploads.entries else pure []) h₂ found ∧
        o = (afterInspections job found,
          if (afterInspections job found).validUploads.isEmpty then .error .noValidFilesFound
          else .ok ()) := by
  unfold validate at hp
  obtain ⟨h₁, h₂, checked, rfl, hcheck, hrest⟩ := answered_andThen.1 hp
  cases checked with
  | error f =>
    obtain ⟨rfl, rfl⟩ := answered_pure.1 hrest
    rw [List.append_nil]
    exact .inl ⟨f, hcheck, rfl⟩
  | ok _ =>
    dsimp only at hrest
    split at hrest
    · next hinspects =>
      obtain ⟨h₃, h₄, found, rfl, hfound, hend⟩ := answered_andThen.1 hrest
      obtain ⟨rfl, rfl⟩ := answered_pure.1 hend
      exact .inr ⟨h₁, h₃, found, by rw [List.append_nil], hcheck, by rwa [if_pos hinspects], rfl⟩
    · next hinspects =>
      obtain ⟨h₃, h₄, found, rfl, hfound, hend⟩ := answered_andThen.1 hrest
      obtain ⟨rfl, rfl⟩ := answered_pure.1 hend
      exact .inr ⟨h₁, h₃, found, by rw [List.append_nil], hcheck, by rwa [if_neg hinspects], rfl⟩

/-- A validation looks uploads up once the target table is found, and judges by what is found. -/
theorem validate_of_check {job : ImportJob} {h₁ h₂ : History}
    {found : List (String × Except Unit (Option UInt64))}
    (hcheck : Answered (im.checkTarget job).run h₁ (.ok ()))
    (hfound : Answered (if im.inspects then inspectAll job.uploads.entries else pure []) h₂ found) :
    Answered (im.validate job) (h₁ ++ h₂) (afterInspections job found,
      if (afterInspections job found).validUploads.isEmpty then .error .noValidFilesFound
      else .ok ()) := by
  refine answered_andThen.2 ⟨h₁, h₂, .ok (), rfl, hcheck, ?_⟩
  dsimp only
  split
  · next hinspects =>
    rw [if_pos hinspects] at hfound
    exact answered_andThen.2 ⟨h₂, [], found, (List.append_nil h₂).symm, hfound,
      answered_pure.2 ⟨rfl, rfl⟩⟩
  · next hinspects =>
    rw [if_neg hinspects] at hfound
    exact answered_andThen.2 ⟨h₂, [], found, (List.append_nil h₂).symm, hfound,
      answered_pure.2 ⟨rfl, rfl⟩⟩

/-- A validation that passes has looked for the target table, and none changes anything but the
uploads. -/
theorem validate_cases {job : ImportJob} {h : History} {o : Outcome}
    (hp : Answered (im.validate job) h o) :
    ((Sends h [] ∧ ∃ f, o.2 = .error f) ∨
      ∃ c t, Aims job c t ∧ Sends h [⟨c, existsStatement im.settings.schema t⟩]) ∧
      ∃ uploads, o.1 = { job with uploads := uploads } := by
  rcases validate_ends hp with ⟨f, hcheck, rfl⟩ | ⟨h₁, h₂, found, rfl, hcheck, hfound, rfl⟩
  · exact ⟨(checkTarget_probes hcheck).imp_left fun hlost => ⟨hlost.1, f, rfl⟩, job.uploads, rfl⟩
  · refine ⟨?_, _, rfl⟩
    rcases checkTarget_probes hcheck with ⟨-, f, hlost⟩ | ⟨c, t, haims, hsends⟩
    · cases hlost
    -- looking uploads up sends nothing
    have hsilent : Sends h₂ [] := by
      split at hfound
      · exact inspectAll_sends hfound
      · obtain ⟨rfl, -⟩ := answered_pure.1 hfound
        exact ⟨rfl, rfl⟩
    exact .inr ⟨c, t, haims, hsends.append hsilent⟩

/-- A validation does nothing to a database but look for the target table. -/
theorem validate_calls {job : ImportJob} {h : History} {o : Outcome}
    (hp : Answered (im.validate job) h o) :
    (∃ calls, Sends h calls ∧ Does [.probe] calls) ∧
      ∃ uploads, o.1 = { job with uploads := uploads } := by
  obtain ⟨⟨hsends, -⟩ | ⟨c, t, -, hsends⟩, huploads⟩ := validate_cases hp
  · exact ⟨⟨[], hsends, does_nil _⟩, huploads⟩
  · exact ⟨⟨_, hsends, does_singleton (List.mem_singleton_self _) (verb_exists _ _)⟩, huploads⟩

end Importer

end BulkImport.Import
