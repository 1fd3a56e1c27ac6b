import BulkImport.Proofs.Import.Validation
import Mathlib.Logic.Function.Basic

/-!
# What a validation finds of the uploads

A validation that breaks off before it looks at the uploads leaves the job as it is (`BreaksOff`).
Otherwise every upload is assessed by itself (`Assessed`): with what object storage says of it where
uploads are looked up, and with what is known of it where they are not.  A look-up is answered for
each upload, whatever is found (`answered_inspectAll`).

An assessment is final: an upload that was assessed is assessed in the same way again
(`Assessed.again`).  Main statement: a validation either breaks off or assesses every upload, passes
exactly when one of them is valid then, and comes to the same when it is made again with the same
answers (`validation_assesses`).
-/

namespace BulkImport.Import

open BulkImport.Job BulkImport.Sql BulkImport.Table BulkImport.Program

/-! ### One upload -/

/-- The size that a look-up found, if there was one and it found something. -/
def foundSize? : Option (Except Unit (Option UInt64)) → Option UInt64
  | some (.ok size) => size
  | _ => none

/-- An upload before and after it is assessed, with what was found in object storage if it was
looked up there. -/
structure Assessed (seen : Option (Except Unit (Option UInt64))) (u u' : Upload) : Prop where
  /-- It is valid if it was found and is not empty, or was not looked up and was valid before. -/
  valid_iff : u'.valid = true ↔
    (∃ size, foundSize? seen = some size ∧ 0 < size) ∨ seen = none ∧ u.valid = true
  filesize : u'.filesize = (foundSize? seen).or u.filesize
  /-- If it is not valid it says what it said before, or that it is not valid. -/
  details : u'.details = if u'.valid then u.details else some (u.details.getD "INVALID_FILE")
  kept : u' = { u with valid := u'.valid, filesize := u'.filesize, details := u'.details }

namespace Assessed

variable {seen : Option (Except Unit (Option UInt64))} {u u' : Upload}

/-- What was seen of an upload leaves no choice. -/
theorem unique {u'' : Upload} (h : Assessed seen u u') (h' : Assessed seen u u'') : u'' = u' := by
  have hvalid : u''.valid = u'.valid := by rw [Bool.eq_iff_iff, h.valid_iff, h'.valid_iff]
  have hfilesize : u''.filesize = u'.filesize := h'.filesize.trans h.filesize.symm
  have hdetails : u''.details = u'.details := by rw [h.details, h'.details, hvalid]
  rw [h'.kept, hvalid, hfilesize, hdetails]
  exact h.kept.symm

/-- An upload that was assessed is assessed in the same way again. -/
theorem again (h : Assessed seen u u') : Assessed seen u' u' where
  valid_iff := by
    cases seen with
    | some found => simpa using h.valid_iff
    | none => simp [foundSize?]
  filesize := by
    rw [h.filesize]
    cases foundSize? seen <;> rfl
  details := by
    rw [h.details]
    split <;> rfl
  kept := rfl

end Assessed

namespace Importer

variable {im : Importer} {job : ImportJob} {h : History}

/-- An upload after the look-up that was made for it, if one was made. -/
def assess (seen : Option (Except Unit (Option UInt64))) (u : Upload) : Upload :=
  markInvalid (seen.elim u (inspected u))

/-- Marking an upload that is not valid changes nothing but what it says. -/
theorem markInvalid_eq (u : Upload) :
    markInvalid u = { u with
      details := if u.valid then u.details else some (u.details.getD "INVALID_FILE") } := by
  unfold markInvalid
  split <;> rfl

theorem assessed_assess (seen : Option (Except Unit (Option UInt64))) (u : Upload) :
    Assessed seen u (assess seen u) := by
  rw [assess, markInvalid_eq]
  match seen with
  | none => exact ⟨by simp [foundSize?], rfl, rfl, rfl⟩
  | some (.error _) | some (.ok none) => exact ⟨by simp [foundSize?, inspected], rfl, rfl, rfl⟩
  | some (.ok (some size)) =>
    refine ⟨?_, rfl, rfl, rfl⟩
    simp [foundSize?, inspected, Upload.withFilesize, UInt64.pos_iff_ne_zero]

/-! ### All uploads -/

/-- What passes when these uploads are looked up, one after the other. -/
def lookUps (entries : List (String × Upload)) (found : String → Except Unit (Option UInt64)) :
    History :=
  entries.map fun e => ⟨.inspect e.2.bucket e.2.key, found e.1⟩

/-- Uploads that are looked up are each answered for. -/
theorem answered_inspectAll {entries : List (String × Upload)}
    (hkeys : entries.Pairwise fun a b => a.1 < b.1)
    {answers : List (String × Except Unit (Option UInt64))}
    (hp : Answered (inspectAll entries) h answers) :
    ∃ found, h = lookUps entries found ∧ answers = entries.map fun e => (e.1, found e.1) := by
  induction entries generalizing h answers with
  | nil =>
    obtain ⟨rfl, rfl⟩ := answered_pure.1 hp
    exact ⟨fun _ => .ok none, rfl, rfl⟩
  | cons e entries ih =>
    obtain ⟨key, u⟩ := e
    obtain ⟨hfirst, hrest⟩ := List.pairwise_cons.1 hkeys
    obtain ⟨h₁, h₂, a, rfl, hq, hothers⟩ := answered_andThen.1 hp
    obtain rfl := answered_query.1 hq
    obtain ⟨h₃, h₄, others, rfl, hanswered, hend⟩ := answered_andThen.1 hothers
    obtain ⟨rfl, rfl⟩ := answered_pure.1 hend
    obtain ⟨found, rfl, rfl⟩ := ih hrest hanswered
    -- no other upload has this key
    have hne : ∀ e ∈ entries, Function.update found key a e.1 = found e.1 := fun e he =>
      Function.update_of_ne (String.ne_of_lt (hfirst e he)).symm _ _
    refine ⟨Function.update found key a, ?_, ?_⟩
    · simp only [lookUps, List.map_cons, Function.update_self, List.append_nil,
        List.singleton_append, List.cons.injEq, true_and]
      exact List.map_congr_left fun e he => by rw [hne e he]
    · rw [List.map_cons, Function.update_self, List.cons.injEq]
      exact ⟨rfl, List.map_congr_left fun e he => by rw [hne e he]⟩

/-- Uploads are looked up by where they lie. -/
theorem inspectAll_map {f : String → Upload → Upload} (entries : List (String × Upload))
    (hplace : ∀ key u, (f key u).bucket = u.bucket ∧ (f key u).key = u.key) :
    inspectAll (entries.map fun e => (e.1, f e.1 e.2)) = inspectAll entries := by
  induction entries with
  | nil => rfl
  | cons e entries ih =>
    obtain ⟨key, u⟩ := e
    rw [List.map_cons, inspectAll, inspectAll, ih, (hplace key u).1, (hplace key u).2]

theorem place_assess (seen : Option (Except Unit (Option UInt64))) (u : Upload) :
    (assess seen u).bucket = u.bucket ∧ (assess seen u).key = u.key := by
  rw [(assessed_assess seen u).kept]
  exact ⟨rfl, rfl⟩

theorem assess_assess (seen : Option (Except Unit (Option UInt64))) (u : Upload) :
    assess seen (assess seen u) = assess seen u :=
  (assessed_assess seen u).again.unique (assessed_assess seen _)

theorem uploads_afterInspections (job : ImportJob)
    (answers : List (String × Except Unit (Option UInt64))) :
    (afterInspections job answers).uploads =
      job.uploads.mapValues fun key u => assess (answers.lookup key) u := by
  refine Dictionary.ext_find? fun key => ?_
  simp only [afterInspections, applyInspections, Dictionary.find?_mapValues, Option.map_map]
  refine congrArg (Option.map · _) (funext fun u => ?_)
  cases answers.lookup key <;> rfl

/-- Uploads are assessed again as they were. -/
theorem afterInspections_twice (job : ImportJob)
    (answers : List (String × Except Unit (Option UInt64))) :
    afterInspections (afterInspections job answers) answers = afterInspections job answers := by
  have hsame : (afterInspections (afterInspections job answers) answers).uploads =
      (afterInspections job answers).uploads := by
    refine Dictionary.ext_find? fun key => ?_
    simp only [uploads_afterInspections, Dictionary.find?_mapValues, Option.map_map]
    exact congrArg (Option.map · _) (funext fun u => assess_assess _ u)
  exact congrArg (fun uploads => ({ job with uploads := uploads } : ImportJob)) hsame

/-- The look for the target does not depend on what the uploads are. -/
theorem checkTarget_afterInspections (im : Importer) (job : ImportJob)
    (answers : List (String × Except Unit (Option UInt64))) :
    im.checkTarget (afterInspections job answers) = im.checkTarget job := by
  have hempty : (afterInspections job answers).uploads.isEmpty = job.uploads.isEmpty := by
    rw [uploads_afterInspections]
    exact List.isEmpty_map
  rw [checkTarget, checkTarget, hempty]
  rfl

theorem inspectAll_afterInspections (job : ImportJob)
    (answers : List (String × Except Unit (Option UInt64))) :
    inspectAll (afterInspections job answers).uploads.entries =
      inspectAll job.uploads.entries := by
  rw [uploads_afterInspections]
  exact inspectAll_map _ fun key => place_assess (answers.lookup key)

/-- A validation that is made again with the same answers comes to the same. -/
theorem validate_again {o : Outcome} (hp : Answered (im.validate job) h o) :
    Answered (im.validate o.1) h o := by
  rcases validate_ends hp with ⟨f, -, rfl⟩ | ⟨h₁, h₂, answers, rfl, hcheck, hanswers, rfl⟩
  · exact hp
  · rw [← checkTarget_afterInspections im job answers] at hcheck
    rw [← inspectAll_afterInspections job answers] at hanswers
    have hagain := validate_of_check hcheck hanswers
    rwa [afterInspections_twice] at hagain

/-! ### The validation -/

/-- A validation that assesses the uploads, with what is found of each in object storage. -/
structure Assessment (im : Importer) (job : ImportJob)
    (found : String → Except Unit (Option UInt64)) (h : History) (o : Outcome) : Prop where
  /-- The target table is there, and uploads are looked up when that is asked for. -/
  asked : ∃ c t n, Aims job c t ∧ 0 < n ∧
    h = im.probing c t (.ok n) ++ if im.inspects then lookUps job.uploads.entries found else []
  supplied : job.uploads.isEmpty = false
  /-- Every upload is assessed by itself, and there are no others. -/
  assessed : ∀ key, Option.Rel (Assessed (if im.inspects then some (found key) else none))
    (job.uploads.find? key) (o.1.uploads.find? key)
  kept : o.1 = { job with uploads := o.1.uploads }
  ok_iff : o.2 = .ok () ↔ ∃ key u, o.1.uploads.find? key = some u ∧ u.valid = true
  failure : ∀ f, o.2 = .error f → f = .noValidFilesFound

/-- An assessment by what was seen of every upload that there is. -/
theorem assessed_afterInspections {seen : String → Option (Except Unit (Option UInt64))}
    {answers : List (String × Except Unit (Option UInt64))}
    (hseen : ∀ key u, job.uploads.find? key = some u → answers.lookup key = seen key)
    (key : String) :
    Option.Rel (Assessed (seen key)) (job.uploads.find? key)
      ((afterInspections job answers).uploads.find? key) := by
  rw [uploads_afterInspections, Dictionary.find?_mapValues]
  cases hu : job.uploads.find? key with
  | none => exact .none
  | some u =>
    rw [← hseen key u hu]
    exact .some (assessed_assess _ u)

/-- What is seen of the uploads decides an assessment of them. -/
theorem assessment_of_answers {found : String → Except Unit (Option UInt64)}
    {answers : List (String × Except Unit (Option UInt64))} {c : String} {t : Identifier}
    {n : Int64} (haims : Aims job c t) (hn : 0 < n) (hsupplied : job.uploads.isEmpty = false)
    (hh : h = if im.inspects then lookUps job.uploads.entries found else [])
    (hseen : ∀ key u, job.uploads.find? key = some u →
      answers.lookup key = if im.inspects then some (found key) else none) :
    Assessment im job found (im.probing c t (.ok n) ++ h) (afterInspections job answers,
      if (afterInspections job answers).validUploads.isEmpty then .error .noValidFilesFound
      else .ok ()) where
  asked := ⟨c, t, n, haims, hn, by rw [hh]⟩
  supplied := hsupplied
  assessed := assessed_afterInspections hseen
  kept := rfl
  ok_iff := by
    have hvalid : (afterInspections job answers).validUploads.isEmpty = false ↔
        ∃ key u, (afterInspections job answers).uploads.find? key = some u ∧ u.valid = true := by
      rw [List.isEmpty_eq_false_iff_exists_mem]
      simp only [mem_validUploads]
      exact ⟨fun ⟨u, ⟨key, hu⟩, hvalid⟩ => ⟨key, u, hu, hvalid⟩,
        fun ⟨key, u, hu, hvalid⟩ => ⟨u, ⟨key, hu⟩, hvalid⟩⟩
    rw [← hvalid]
    cases (afterInspections job answers).validUploads.isEmpty <;> simp
  failure := by
    intro f hf
    dsimp only at hf
    split at hf
    · exact (Except.error.inj hf).symm
    · cases hf

/-- A validation breaks off and leaves the job as it is, or assesses every upload and passes exactly
when one of them is valid then; made again with the same answers it comes to the same. -/
theorem validation_assesses {o : Outcome} (hp : Answered (im.validate job) h o) :
    ((∃ f, BreaksOff im job h f ∧ o = (job, .error f)) ∨ ∃ found, Assessment im job found h o) ∧
      ∀ o', Answered (im.validate o.1) h o' ↔ o' = o := by
  have hagain := validate_again hp
  refine ⟨?_, fun o' => ⟨answered_unique hagain, fun heq => heq ▸ hagain⟩⟩
  rcases validate_ends hp with ⟨f, hcheck, rfl⟩ | ⟨h₁, h₂, answers, rfl, hcheck, hanswers, rfl⟩
  · rcases checkTarget_cases hcheck with ⟨f', hf, hbreaks⟩ | ⟨hpassed, -⟩
    · cases hf
      exact .inl ⟨f, hbreaks, rfl⟩
    · cases hpassed
  · rcases checkTarget_cases hcheck with ⟨f', hf, -⟩ | ⟨-, hsupplied, c, t, n, haims, hn, rfl⟩
    · cases hf
    refine .inr ?_
    split at hanswers
    · next hinspects =>
      obtain ⟨found, hlooked, rfl⟩ := answered_inspectAll job.uploads.ordered hanswers
      refine ⟨found, assessment_of_answers haims hn hsupplied (by rwa [if_pos hinspects]) ?_⟩
      intro key u hu
      rw [if_pos hinspects, Dictionary.lookup_map (fun key _ => found key)]
      exact congrArg (Option.map _) hu
    · next hinspects =>
      obtain ⟨rfl, rfl⟩ := answered_pure.1 hanswers
      refine ⟨fun _ => .ok none, assessment_of_answers haims hn hsupplied ?_ fun key u _ => ?_⟩
      · rw [if_neg hinspects]
      · rw [if_neg hinspects, List.lookup_nil]

/-- The roads are validated, and their upload is looked up and is not there. -/
def roadsLookedUp : History × Outcome :=
  (({ viewImporter with inspects := true } : Importer).validate roadsJob).carryOut oblige

/-- The upload that is not there is assessed, and nothing can be imported. -/
theorem roads_assessed :
    (∃ found, Assessment { viewImporter with inspects := true } roadsJob found roadsLookedUp.1
      roadsLookedUp.2) ∧
      roadsLookedUp.2.2.isOk = false ∧
      (roadsLookedUp.2.1.uploads.find? "f").bind (·.details) = some "INVALID_FILE" := by
  have hchanged : roadsLookedUp.2.1 ≠ roadsJob := by decide +kernel
  refine ⟨?_, by decide +kernel, by decide +kernel⟩
  obtain ⟨⟨f, -, hkept⟩ | hassessed, -⟩ := validation_assesses (answered_carryOut oblige
    (({ viewImporter with inspects := true } : Importer).validate roadsJob))
  · exact absurd (congrArg Prod.fst hkept) hchanged
  · exact hassessed

end Importer

end BulkImport.Import
