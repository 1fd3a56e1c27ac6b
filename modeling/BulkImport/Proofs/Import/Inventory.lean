import BulkImport.Proofs.Import.Rebuilding
import Mathlib.Data.List.Nodup

/-!
# Every planned index is accounted for

An index is planned for a place in the list of segments (`PlannedIndex`, `mem_plannedIndices`).
Its statement is there exactly when its table and the index itself can be named
(`PlannedIndex.statement?_eq_some_iff`).  A rebuild sends these statements and no others, in the
order of the plan, whatever becomes of them; it reports an index as built when its statement was
carried out and as missing otherwise, each once and in the order of the plan (`Reckoning`,
`rebuild_complete`).
-/

namespace BulkImport.Import

open BulkImport.Sql BulkImport.Table BulkImport.Program BulkImport.Index

/-! ### The plan -/

/-- An index that is to be built on the segment at a place of a list. -/
structure PlannedIndex where
  place : Nat
  segment : Segment
  kind : Kind
deriving DecidableEq

/-- The indices that are planned on segments of which the first one has this place. -/
def plannedFrom (layout : Layout) : Nat → List Segment → List PlannedIndex
  | _, [] => []
  | place, segment :: segments =>
    (segment.plan layout).map (⟨place, segment, ·⟩) ++ plannedFrom layout (place + 1) segments

/-- The indices that are planned on segments, in building order. -/
def plannedIndices (layout : Layout) (segments : List Segment) : List PlannedIndex :=
  plannedFrom layout 0 segments

variable {layout : Layout} {segments : List Segment} {schema base : Identifier} {x : PlannedIndex}

/-- The visualisation index is planned on the partitioned parent only, every other index of the
layout on every segment. -/
theorem mem_plan {segment : Segment} {k : Kind} :
    k ∈ segment.plan layout ↔ k ∈ layout.kinds ∧ (k = .viz → segment = .root) := by
  have hroot : segment.isRoot = true ↔ segment = .root := by
    cases segment <;> simp [Segment.isRoot]
  rw [Segment.plan, List.mem_filter, Bool.or_eq_true, bne_iff_ne, hroot]
  by_cases hviz : k = .viz <;> simp [hviz]

theorem mem_plannedFrom {first : Nat} :
    x ∈ plannedFrom layout first segments ↔
      first ≤ x.place ∧ segments[x.place - first]? = some x.segment ∧
        x.kind ∈ x.segment.plan layout := by
  obtain ⟨place, segment, k⟩ := x
  induction segments generalizing first with
  | nil => simp [plannedFrom]
  | cons s segments ih =>
    rw [plannedFrom, List.mem_append, ih]
    simp only [List.mem_map, PlannedIndex.mk.injEq]
    rcases Nat.lt_trichotomy place first with hlt | rfl | hgt
    · -- the place lies before both the first segment and the others
      have hne : ¬ first ≤ place := by omega
      have hne' : ¬ first + 1 ≤ place := by omega
      simp only [hne, hne', false_and, or_false, iff_false]
      rintro ⟨k', -, rfl, -⟩
      exact hne (Nat.le_refl _)
    · simp only [Nat.sub_self, List.getElem?_cons_zero, Option.some.injEq, Nat.le_refl, true_and,
        Nat.not_succ_le_self, false_and, or_false]
      constructor
      · rintro ⟨k', hk, rfl, rfl⟩
        exact ⟨rfl, hk⟩
      · rintro ⟨rfl, hk⟩
        exact ⟨k, hk, rfl, rfl⟩
    · obtain ⟨n, rfl⟩ : ∃ n, place = first + 1 + n := ⟨place - (first + 1), by omega⟩
      have hsub : first + 1 + n - first = n + 1 := by omega
      have hsub' : first + 1 + n - (first + 1) = n := by omega
      have hne : first ≠ first + 1 + n := by omega
      have hle : first ≤ first + 1 + n := by omega
      simp [hsub, hsub', hne, hle]

/-- One index is planned before another: on an earlier segment, or earlier on the same. -/
def PlannedIndex.Before (layout : Layout) (x y : PlannedIndex) : Prop :=
  x.place < y.place ∨ x.place = y.place ∧ [x.kind, y.kind].Sublist layout.kinds

theorem PlannedIndex.Before.ne {y : PlannedIndex} (h : x.Before layout y) : x ≠ y := by
  rintro rfl
  rcases h with hlt | ⟨-, htwice⟩
  · exact Nat.lt_irrefl _ hlt
  · have hkinds : layout.kinds.Nodup := by cases layout <;> decide
    exact List.nodup_iff_sublist.1 hkinds _ htwice

theorem pairwise_plannedFrom (first : Nat) :
    (plannedFrom layout first segments).Pairwise (PlannedIndex.Before layout) := by
  induction segments generalizing first with
  | nil => exact .nil
  | cons segment segments ih =>
    refine List.pairwise_append.2 ⟨List.pairwise_map.2 ?_, ih _, ?_⟩
    · refine List.pairwise_iff_forall_sublist.2 fun hsub => ?_
      exact .inr ⟨rfl, hsub.trans List.filter_sublist⟩
    · rintro x hx y hy
      obtain ⟨k, -, rfl⟩ := List.mem_map.1 hx
      exact .inl (mem_plannedFrom.1 hy).1

theorem nodup_plannedFrom (first : Nat) : (plannedFrom layout first segments).Nodup :=
  (pairwise_plannedFrom first).imp PlannedIndex.Before.ne

theorem length_plannedFrom (first : Nat) :
    (plannedFrom layout first segments).length = planned layout segments := by
  induction segments generalizing first with
  | nil => rfl
  | cons segment segments ih =>
    rw [plannedFrom, List.length_append, List.length_map, ih, planned, planned, List.flatMap_cons,
      List.length_append]

/-- An index is planned for every segment at its place, and nowhere else. -/
theorem mem_plannedIndices :
    x ∈ plannedIndices layout segments ↔
      segments[x.place]? = some x.segment ∧ x.kind ∈ layout.kinds ∧
        (x.kind = .viz → x.segment = .root) := by
  simp [plannedIndices, mem_plannedFrom, mem_plan]

namespace PlannedIndex

/-- The build of a planned index. -/
def build (schema base : Identifier) (x : PlannedIndex) : Build :=
  segmentBuild schema base x.segment x.kind

/-- The statement that builds a planned index, where there is one. -/
def statement? (schema base : Identifier) (x : PlannedIndex) : Option Statement :=
  (x.build schema base).statement.toOption

/-- The entry of a planned index in a job's index list. -/
def entry (base : Identifier) (x : PlannedIndex) : String :=
  x.kind.key ++ "@" ++ segmentText base x.segment

/-- The statement builds a planned index: the texts that name its table and the index itself are
identifiers, and the statement creates the one on the other. -/
def Named (schema base : Identifier) (x : PlannedIndex) (s : Statement) : Prop :=
  ∃ table name : Identifier, table.text = segmentText base x.segment ∧
    name.text = Text.fold ("idx_" ++ table.text ++ "_" ++ x.kind.key) ∧
    s = ⟨"CREATE INDEX IF NOT EXISTS " ++ name.quoted ++ " ON " ++ schema.quoted ++ "." ++
      table.quoted ++ " " ++ x.kind.expression, []⟩

/-- Whether the statement of an index is there and was carried out. -/
def isBuilt (schema base : Identifier) (answer : Except Database.Error Unit) (x : PlannedIndex) :
    Bool :=
  (x.statement? schema base).isSome && answer.isOk

end PlannedIndex

theorem map_build_plannedFrom (first : Nat) :
    (plannedFrom layout first segments).map (·.build schema base) =
      plannedBuilds schema base layout segments := by
  induction segments generalizing first with
  | nil => rfl
  | cons segment segments ih =>
    rw [plannedFrom, List.map_append, ih, List.map_map, plannedBuilds, plannedBuilds,
      List.flatMap_cons]
    rfl

/-! ### The statement of a planned index -/

theorem table_eq_ok_iff {segment : Segment} {table : Identifier} :
    segment.table base = .ok table ↔ table.text = segmentText base segment := by
  refine ⟨fun h => (segmentText_of_table h).symm, fun h => ?_⟩
  cases segment with
  | root => exact congrArg Except.ok (Identifier.ext h.symm)
  | «partition» name =>
    refine Identifier.ofText_eq_ok_iff.2 (h.trans ?_)
    rw [segmentText, String.append_assoc]

/-- An index has a statement exactly when it can be named. -/
theorem statement_eq_ok_iff {k : Kind} {schema table : Identifier} {s : Statement} :
    k.statement schema table = .ok s ↔
      ∃ name : Identifier, name.text = Text.fold ("idx_" ++ table.text ++ "_" ++ k.key) ∧
        s = ⟨"CREATE INDEX IF NOT EXISTS " ++ name.quoted ++ " ON " ++ schema.quoted ++ "." ++
          table.quoted ++ " " ++ k.expression, []⟩ := by
  constructor
  · intro h
    obtain ⟨name, hname, -⟩ := build_bind_eq_ok_iff.1 h
    rw [createIndex_eq schema hname] at h
    exact ⟨name, Identifier.ofText_eq_ok_iff.1 hname, (Except.ok.inj h).symm⟩
  · rintro ⟨name, hname, rfl⟩
    exact createIndex_eq schema (Identifier.ofText_eq_ok_iff.2 hname)

/-- A planned index has a statement exactly when its table and the index itself can be named. -/
theorem PlannedIndex.statement?_eq_some_iff {s : Statement} :
    x.statement? schema base = some s ↔ x.Named schema base s := by
  rw [statement?, toOption_eq_some, build, segmentBuild, build_bind_eq_ok_iff, Named]
  refine exists_congr fun table => ?_
  rw [table_eq_ok_iff, statement_eq_ok_iff, exists_and_left]

/-- An index is built exactly when it can be named and its statement was carried out. -/
theorem PlannedIndex.isBuilt_iff {answer : Except Database.Error Unit} :
    x.isBuilt schema base answer = true ↔ (∃ s, x.Named schema base s) ∧ answer = .ok () := by
  have hok : answer.isOk = true ↔ answer = .ok () := by
    cases answer <;> simp [Except.isOk, Except.toBool]
  simp only [isBuilt, Bool.and_eq_true, Option.isSome_iff_exists, statement?_eq_some_iff, hok]

/-! ### What becomes of a build -/

/-- What is reported of a build whose statement, if it has one, is answered in this way. -/
def Build.outcome (b : Build) (answer : Except Database.Error Unit) : Except MissingIndex String :=
  match b.statement, answer with
  | .error e, _ => .error ⟨b.entry, e.message⟩
  | .ok _, .error e => .error ⟨b.entry, e.message⟩
  | .ok _, .ok _ => .ok b.entry

/-- The call that a build makes, where it has a statement. -/
def Build.call? (connector : String) (b : Build) : Option Call :=
  b.statement.toOption.map (⟨connector, ·⟩)

/-- An account says what each build was answered, the builds without a statement apart. -/
theorem Accounts.exists_told {bs : List Build} {answers : List (Except Database.Error Unit)}
    {outcomes : List (Except MissingIndex String)} (h : Accounts bs answers outcomes)
    (connector : String) :
    ∃ told : List (Except Database.Error Unit), told.length = bs.length ∧
      outcomes = (bs.zip told).map (fun p => p.1.outcome p.2) ∧
      (bs.filterMap (Build.call? connector)).zip answers =
        (bs.zip told).filterMap fun p => (p.1.call? connector).map (·, p.2) := by
  induction h with
  | nothing => exact ⟨[], rfl, rfl, rfl⟩
  | unbuildable _ ih =>
    obtain ⟨told, hlength, houtcomes, hcalls⟩ := ih
    exact ⟨.ok () :: told, congrArg (· + 1) hlength, congrArg (_ :: ·) houtcomes, hcalls⟩
  | built _ ih =>
    obtain ⟨told, hlength, houtcomes, hcalls⟩ := ih
    exact ⟨.ok () :: told, congrArg (· + 1) hlength, congrArg (_ :: ·) houtcomes,
      congrArg (_ :: ·) hcalls⟩
  | refused _ ih =>
    obtain ⟨told, hlength, houtcomes, hcalls⟩ := ih
    exact ⟨.error _ :: told, congrArg (· + 1) hlength, congrArg (_ :: ·) houtcomes,
      congrArg (_ :: ·) hcalls⟩

theorem buildStatements_eq (bs : List Build) :
    buildStatements bs = bs.filterMap fun b => b.statement.toOption := by
  induction bs with
  | nil => rfl
  | cons b bs ih =>
    obtain ⟨entry, statement⟩ := b
    cases statement with
    | error e => exact ih
    | ok s => exact congrArg (s :: ·) ih

/-- Where the table of a segment has no name, no build on it has a statement. -/
theorem call?_segmentBuild_of_error {segment : Segment} {e : IdentifierError}
    (h : segment.table base = .error e) (connector : String) (k : Kind) :
    (segmentBuild schema base segment k).call? connector = none := by
  rw [segmentBuild, h]
  rfl

theorem rebuildSegment_sent {connector : String} {segment : Segment} {h : History}
    {report : Report}
    (hp : Answered (rebuildSegment connector schema base layout segment) h report) :
    sent h = ((segment.plan layout).map (segmentBuild schema base segment)).filterMap
      (Build.call? connector) := by
  unfold rebuildSegment at hp
  split at hp
  · next e he =>
    obtain ⟨rfl, -⟩ := answered_pure.1 hp
    symm
    rw [sent_nil, List.filterMap_map, List.filterMap_eq_nil_iff]
    exact fun k _ => call?_segmentBuild_of_error he connector k
  · next table htable =>
    obtain ⟨h₁, h₂, results, rfl, hbuilds, hend⟩ := answered_andThen.1 hp
    obtain ⟨rfl, -⟩ := answered_pure.1 hend
    obtain rfl := answered_query.1 hbuilds
    rw [map_segmentBuild htable, List.append_nil, sent_cons, sent_nil, List.append_nil,
      Question.calls, buildStatements_eq, List.map_filterMap]
    rfl

/-- A rebuild sends the statements of all builds that have one, in order. -/
theorem rebuild_sent {connector : String} {h : History} {report : Report}
    (hp : Answered (rebuild connector schema base layout segments) h report) :
    sent h = (plannedBuilds schema base layout segments).filterMap (Build.call? connector) := by
  induction segments generalizing h report with
  | nil =>
    obtain ⟨rfl, -⟩ := answered_pure.1 hp
    rfl
  | cons segment segments ih =>
    obtain ⟨h₁, h₂, first, rfl, hfirst, hrest⟩ := answered_andThen.1 hp
    obtain ⟨h₃, h₄, rest, rfl, htail, hend⟩ := answered_andThen.1 hrest
    obtain ⟨rfl, -⟩ := answered_pure.1 hend
    rw [List.append_nil, sent_append, rebuildSegment_sent hfirst, ih htail, plannedBuilds,
      plannedBuilds, List.flatMap_cons, List.filterMap_append]

/-! ### The account -/

/-- Every list of values belongs to a function of the elements of a list without repetitions. -/
theorem exists_map_eq {α β : Type} [DecidableEq α] [Inhabited β] {l : List α} (hl : l.Nodup)
    {values : List β} (hlength : values.length = l.length) : ∃ f, l.map f = values := by
  induction l generalizing values with
  | nil => exact ⟨fun _ => default, (List.eq_nil_of_length_eq_zero hlength).symm⟩
  | cons a l ih =>
    obtain ⟨v, values, rfl⟩ := List.exists_cons_of_length_eq_add_one hlength
    obtain ⟨ha, hl⟩ := List.nodup_cons.1 hl
    obtain ⟨f, rfl⟩ := ih hl (Nat.succ.inj hlength)
    refine ⟨Function.update f a v, ?_⟩
    rw [List.map_cons, Function.update_self]
    refine congrArg (v :: ·) (List.map_congr_left fun b hb => ?_)
    have hne : b ≠ a := by
      rintro rfl
      exact ha hb
    exact Function.update_of_ne hne v f

/-- What a rebuild sends and reports, against what the statement of each planned index is
answered. -/
structure Reckoning (connector : String) (schema base : Identifier) (layout : Layout)
    (segments : List Segment) (answers : PlannedIndex → Except Database.Error Unit) (h : History)
    (report : Report) : Prop where
  /-- The statement of every index that has one is sent once, and is answered. -/
  replies : replies h = (plannedIndices layout segments).filterMap fun x =>
    (x.statement? schema base).map fun s => (⟨connector, s⟩, answers x)
  built : report.built = ((plannedIndices layout segments).filter fun x =>
    x.isBuilt schema base (answers x)).map (·.entry base)
  missing : report.missing.map (·.entry) = ((plannedIndices layout segments).filter fun x =>
    !x.isBuilt schema base (answers x)).map (·.entry base)
  attempted : report.attempted = planned layout segments
  total : report.built.length + report.missing.length = planned layout segments

/-- The outcome of a planned index is its entry, or that it is missing under that entry. -/
theorem entry_outcome (schema base : Identifier) (x : PlannedIndex)
    (answer : Except Database.Error Unit) :
    ((x.build schema base).outcome answer = .ok (x.entry base) ∧
        x.isBuilt schema base answer = true) ∨
      ∃ m, (x.build schema base).outcome answer = .error m ∧ m.entry = x.entry base ∧
        x.isBuilt schema base answer = false := by
  unfold Build.outcome PlannedIndex.isBuilt PlannedIndex.statement?
  cases (x.build schema base).statement with
  | error e => exact .inr ⟨_, rfl, rfl, rfl⟩
  | ok s =>
    cases answer with
    | error e => exact .inr ⟨_, rfl, rfl, rfl⟩
    | ok _ => exact .inl ⟨rfl, rfl⟩

section Outcomes

variable (entry : String) (m : MissingIndex) (outcomes : List (Except MissingIndex String))

@[simp] theorem built_ofOutcomes_ok : (Report.ofOutcomes (.ok entry :: outcomes)).built =
    entry :: (Report.ofOutcomes outcomes).built := rfl

@[simp] theorem built_ofOutcomes_error : (Report.ofOutcomes (.error m :: outcomes)).built =
    (Report.ofOutcomes outcomes).built := rfl

@[simp] theorem missing_ofOutcomes_ok : (Report.ofOutcomes (.ok entry :: outcomes)).missing =
    (Report.ofOutcomes outcomes).missing := rfl

@[simp] theorem missing_ofOutcomes_error : (Report.ofOutcomes (.error m :: outcomes)).missing =
    m :: (Report.ofOutcomes outcomes).missing := rfl

theorem length_ofOutcomes : (Report.ofOutcomes outcomes).built.length +
    (Report.ofOutcomes outcomes).missing.length = outcomes.length := by
  induction outcomes with
  | nil => rfl
  | cons outcome outcomes ih =>
    cases outcome with
    | ok entry =>
      rw [built_ofOutcomes_ok, missing_ofOutcomes_ok, List.length_cons, List.length_cons]
      omega
    | error m =>
      rw [built_ofOutcomes_error, missing_ofOutcomes_error, List.length_cons, List.length_cons]
      omega

end Outcomes

/-- Of outcomes that are told index by index, the entries come in the order of the indices. -/
theorem entries_ofOutcomes (schema base : Identifier)
    (answers : PlannedIndex → Except Database.Error Unit) (xs : List PlannedIndex) :
    (Report.ofOutcomes (xs.map fun x => (x.build schema base).outcome (answers x))).built =
        (xs.filter fun x => x.isBuilt schema base (answers x)).map (·.entry base) ∧
      (Report.ofOutcomes (xs.map fun x => (x.build schema base).outcome (answers x))).missing.map
          (·.entry) =
        (xs.filter fun x => !x.isBuilt schema base (answers x)).map (·.entry base) := by
  induction xs with
  | nil => exact ⟨rfl, rfl⟩
  | cons x xs ih =>
    obtain ⟨hbuilt, hmissing⟩ := ih
    rcases entry_outcome schema base x (answers x) with ⟨hout, his⟩ | ⟨m, hout, hm, his⟩
    · rw [List.map_cons, hout, built_ofOutcomes_ok, missing_ofOutcomes_ok, hbuilt, hmissing]
      simp [his]
    · rw [List.map_cons, hout, built_ofOutcomes_error, missing_ofOutcomes_error, List.map_cons,
        hbuilt, hmissing, hm]
      simp [his]

/-- A rebuild reports the outcome of every planned index. -/
theorem rebuild_told {connector : String} {h : History} {report : Report}
    (hp : Answered (rebuild connector schema base layout segments) h report) :
    ∃ answers : PlannedIndex → Except Database.Error Unit,
      replies h = (plannedIndices layout segments).filterMap (fun x =>
        ((x.build schema base).call? connector).map (·, answers x)) ∧
      report = .ofOutcomes ((plannedIndices layout segments).map fun x =>
        (x.build schema base).outcome (answers x)) := by
  obtain ⟨outcomes, rfl, haccounts⟩ := rebuild_accounts hp
  obtain ⟨told, hlength, rfl, hcalls⟩ := haccounts.exists_told connector
  rw [← map_build_plannedFrom 0, List.length_map] at hlength
  obtain ⟨answers, rfl⟩ := exists_map_eq (nodup_plannedFrom 0) hlength
  have hzip : (plannedBuilds schema base layout segments).zip
      ((plannedFrom layout 0 segments).map answers) =
      (plannedIndices layout segments).map fun x => (x.build schema base, answers x) := by
    rw [← map_build_plannedFrom 0, List.zip_map']
    rfl
  refine ⟨answers, ?_, ?_⟩
  · obtain ⟨calls, hsends, hdoes⟩ := Importer.rebuild_calls hp
    have hsnd : buildAnswers h = (replies h).map Prod.snd :=
      buildAnswers_eq_map (hsends.sent ▸ hdoes)
    rw [hzip, List.filterMap_map, ← rebuild_sent hp, ← map_fst_replies, hsnd] at hcalls
    rw [← List.zip_unzip (replies h), List.unzip_eq_map, hcalls]
    rfl
  · rw [hzip, List.map_map]
    rfl

/-- What a rebuild sends and reports is told from what the statements of the planned indices are
answered. -/
theorem rebuild_reckoned {connector : String} {h : History} {report : Report}
    (hp : Answered (rebuild connector schema base layout segments) h report) :
    ∃ answers, Reckoning connector schema base layout segments answers h report := by
  obtain ⟨answers, hreplies, rfl⟩ := rebuild_told hp
  obtain ⟨hbuilt, hmissing⟩ := entries_ofOutcomes schema base answers
    (plannedIndices layout segments)
  refine ⟨answers, ⟨?_, hbuilt, hmissing, ?_, ?_⟩⟩
  · rw [hreplies]
    refine List.filterMap_congr fun x _ => ?_
    rw [Build.call?, Option.map_map]
    rfl
  · rw [Report.ofOutcomes, List.length_map, plannedIndices, length_plannedFrom]
  · rw [length_ofOutcomes, List.length_map, plannedIndices, length_plannedFrom]

/-- A rebuild accounts for every planned index once: it is told in order which of them were built
and which are missing, according to what their statements were answered. -/
theorem rebuild_complete {connector : String} {h : History} {report : Report}
    (hp : Answered (rebuild connector schema base layout segments) h report) :
    (plannedIndices layout segments).Nodup ∧
      (plannedIndices layout segments).Pairwise (PlannedIndex.Before layout) ∧
      (∀ x : PlannedIndex, x ∈ plannedIndices layout segments ↔
        segments[x.place]? = some x.segment ∧ x.kind ∈ layout.kinds ∧
          (x.kind = .viz → x.segment = .root)) ∧
      (∀ (x : PlannedIndex) s, x.statement? schema base = some s ↔ x.Named schema base s) ∧
      (∀ (x : PlannedIndex) answer, x.isBuilt schema base answer = true ↔
        (∃ s, x.Named schema base s) ∧ answer = .ok ()) ∧
      ∃ answers, Reckoning connector schema base layout segments answers h report := by
  exact ⟨nodup_plannedFrom 0, pairwise_plannedFrom 0, fun _ => mem_plannedIndices,
    fun _ _ => PlannedIndex.statement?_eq_some_iff, fun _ _ => PlannedIndex.isBuilt_iff,
    rebuild_reckoned hp⟩

/-- The first of statements that are carried out together is refused. -/
def refuseFirst : (q : Question) → Answer q
  | .executeAll _ (_ :: ss) => (.error (.unexpectedRow "locked"), oblige.obligeAll ss)
  | q => oblige q

/-- A rebuild of `roads` with a partition that cannot be named. -/
def rebuildRoads : Action Report :=
  rebuild "db" viewImporter.settings.schema Importer.roads .legacy [.partition "p 0", .root]

theorem roads_accounted_for :
    ((rebuildRoads.carryOut refuseFirst).2.built,
        (rebuildRoads.carryOut refuseFirst).2.missing.map (·.entry)) =
      (["geo@roads", "createdAt@roads", "updatedAt@roads", "serial@roads", "tags@roads",
          "viz@roads"],
        ["id@roads_p 0", "geo@roads_p 0", "createdAt@roads_p 0", "updatedAt@roads_p 0",
          "serial@roads_p 0", "tags@roads_p 0", "id@roads"]) ∧
    ∃ answers, Reckoning "db" viewImporter.settings.schema Importer.roads .legacy
      [.partition "p 0", .root] answers (rebuildRoads.carryOut refuseFirst).1
      (rebuildRoads.carryOut refuseFirst).2 := by
  have hreckoning := (rebuild_complete (answered_carryOut refuseFirst rebuildRoads)).2.2.2.2.2
  exact ⟨by decide +kernel, hreckoning⟩

end BulkImport.Import
