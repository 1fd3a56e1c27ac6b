import BulkImport.Proofs.Import.Finalization

/-!
# What a rebuild reports

Every index that is planned on a segment is one build, whether or not it can be named
(`plannedBuilds`).  A rebuild reports each of them once and in order: a build that has no statement
is missing, and every other is built or missing as its statement was answered (`Accounts`,
`rebuild_accounts`).  So a report is complete exactly when every build has a statement and none was
refused (`Accounts.complete_iff`), and then lists every planned entry
(`Accounts.built_of_complete`).
-/

namespace BulkImport.Import

open BulkImport.Sql BulkImport.Table BulkImport.Program BulkImport.Index

/-- What a segment of a table is called, whether or not the name can be used. -/
def segmentText (base : Identifier) : Segment → String
  | .root => base.text
  | .partition name => base.text ++ "_" ++ name

/-- The build of an index on a segment, which has a statement where both can be named. -/
def segmentBuild (schema base : Identifier) (segment : Segment) (k : Kind) : Build where
  entry := k.entryNamed (segmentText base segment)
  statement := Identifier.build (segment.table base) >>= fun table => k.statement schema table

/-- The builds that are planned on segments, in order. -/
def plannedBuilds (schema base : Identifier) (layout : Layout) (segments : List Segment) :
    List Build :=
  segments.flatMap fun segment => (segment.plan layout).map (segmentBuild schema base segment)

/-- What the builds of indices in a history were answered, in order. -/
def buildAnswers (h : History) : List (Except Database.Error Unit) :=
  ((replies h).filter fun reply => reply.1.verb? = some .createIndex).map Prod.snd

@[simp] theorem buildAnswers_append (h h' : History) :
    buildAnswers (h ++ h') = buildAnswers h ++ buildAnswers h' := by
  simp [buildAnswers]

theorem buildAnswers_eq_nil {h : History} {verbs : List Verb} (hd : Does verbs (sent h))
    (hverbs : .createIndex ∉ verbs) : buildAnswers h = [] := by
  rw [buildAnswers, List.map_eq_nil_iff, List.filter_eq_nil_iff]
  intro reply hreply
  simpa using hd.verb_ne hverbs _ (call_of_reply hreply)

/-- What comes before and after a history does not matter to its builds where it builds nothing. -/
theorem buildAnswers_between {before h after : History} {verbs : List Verb}
    (hbefore : Does verbs (sent before)) (hafter : Does verbs (sent after))
    (hverbs : .createIndex ∉ verbs) : buildAnswers (before ++ (h ++ after)) = buildAnswers h := by
  rw [buildAnswers_append, buildAnswers_append, buildAnswers_eq_nil hbefore hverbs,
    buildAnswers_eq_nil hafter hverbs, List.nil_append, List.append_nil]

/-- A history that does nothing but build is answered about builds. -/
theorem buildAnswers_eq_map {h : History} (hd : Does [.createIndex] (sent h)) :
    buildAnswers h = (replies h).map Prod.snd := by
  rw [buildAnswers, List.filter_eq_self.2]
  intro reply hreply
  obtain ⟨v, hv, hverb⟩ := hd _ (call_of_reply hreply)
  obtain rfl := List.mem_singleton.1 hv
  simpa using hverb

/-- What is reported of builds against what their statements were answered. -/
inductive Accounts :
    List Build → List (Except Database.Error Unit) → List (Except MissingIndex String) → Prop where
  | nothing : Accounts [] [] []
  | unbuildable {entry : String} {e : BuildError} {bs : List Build}
      {answers : List (Except Database.Error Unit)} {outcomes : List (Except MissingIndex String)}
      (rest : Accounts bs answers outcomes) :
      Accounts (⟨entry, .error e⟩ :: bs) answers (.error ⟨entry, e.message⟩ :: outcomes)
  | built {entry : String} {s : Statement} {bs : List Build}
      {answers : List (Except Database.Error Unit)} {outcomes : List (Except MissingIndex String)}
      (rest : Accounts bs answers outcomes) :
      Accounts (⟨entry, .ok s⟩ :: bs) (.ok () :: answers) (.ok entry :: outcomes)
  | refused {entry : String} {s : Statement} {e : Database.Error} {bs : List Build}
      {answers : List (Except Database.Error Unit)} {outcomes : List (Except MissingIndex String)}
      (rest : Accounts bs answers outcomes) :
      Accounts (⟨entry, .ok s⟩ :: bs) (.error e :: answers)
        (.error ⟨entry, e.message⟩ :: outcomes)

namespace Accounts

variable {bs bs' : List Build} {answers answers' : List (Except Database.Error Unit)}
  {outcomes outcomes' : List (Except MissingIndex String)}

theorem append (h : Accounts bs answers outcomes) (h' : Accounts bs' answers' outcomes') :
    Accounts (bs ++ bs') (answers ++ answers') (outcomes ++ outcomes') := by
  induction h with
  | nothing => exact h'
  | unbuildable _ ih => exact .unbuildable ih
  | built _ ih => exact .built ih
  | refused _ ih => exact .refused ih

/-- Nothing is missing exactly when every build has a statement and none was refused. -/
theorem complete_iff (h : Accounts bs answers outcomes) :
    (∀ m, .error m ∉ outcomes) ↔
      (∀ b ∈ bs, ∃ s, b.statement = .ok s) ∧ ∀ e, .error e ∉ answers := by
  induction h with
  | nothing => simp
  | unbuildable =>
    constructor
    · exact fun hall => absurd List.mem_cons_self (hall _)
    · rintro ⟨hall, -⟩
      obtain ⟨s, hs⟩ := hall _ List.mem_cons_self
      cases hs
  | built _ ih => simpa using ih
  | refused =>
    constructor
    · exact fun hall => absurd List.mem_cons_self (hall _)
    · exact fun hall => absurd List.mem_cons_self (hall.2 _)

/-- Where nothing is missing, the entries are those of the builds. -/
theorem eq_of_complete (h : Accounts bs answers outcomes) (hall : ∀ m, .error m ∉ outcomes) :
    outcomes = bs.map fun b => .ok b.entry := by
  induction h with
  | nothing => rfl
  | unbuildable | refused => exact absurd List.mem_cons_self (hall _)
  | built _ ih => rw [ih fun m hm => hall m (List.mem_cons_of_mem _ hm), List.map_cons]

end Accounts

theorem Report.isComplete_ofOutcomes {outcomes : List (Except MissingIndex String)} :
    (Report.ofOutcomes outcomes).isComplete = true ↔ ∀ m, .error m ∉ outcomes := by
  simp only [Report.isComplete, Report.ofOutcomes, List.isEmpty_iff, List.filterMap_eq_nil_iff]
  constructor
  · exact fun hall m hm => by simpa using hall _ hm
  · intro hall outcome houtcome
    cases outcome with
    | ok entry => rfl
    | error m => exact absurd houtcome (hall m)

/-- A complete report lists the entry of every build. -/
theorem Accounts.built_of_complete {bs : List Build} {answers : List (Except Database.Error Unit)}
    {outcomes : List (Except MissingIndex String)} (h : Accounts bs answers outcomes)
    (hcomplete : (Report.ofOutcomes outcomes).isComplete = true) :
    (Report.ofOutcomes outcomes).built = bs.map (·.entry) := by
  rw [h.eq_of_complete (Report.isComplete_ofOutcomes.1 hcomplete), Report.ofOutcomes,
    List.filterMap_map]
  exact congrFun List.filterMap_eq_map bs

/-! ### The report of a rebuild -/

theorem Report.append_ofOutcomes (outcomes outcomes' : List (Except MissingIndex String)) :
    (Report.ofOutcomes outcomes).append (Report.ofOutcomes outcomes') =
      Report.ofOutcomes (outcomes ++ outcomes') := by
  simp [Report.append, Report.ofOutcomes]

/-- The outcomes of builds that are carried out together account for them. -/
theorem accounts_buildOutcomes (connector : String) (bs : List Build)
    (results : Results (buildStatements bs)) :
    Accounts bs ((pairResults connector (buildStatements bs) results).map Prod.snd)
      (buildOutcomes bs results) := by
  induction bs with
  | nil => exact .nothing
  | cons b bs ih =>
    obtain ⟨entry, statement⟩ := b
    cases statement with
    | error e => exact .unbuildable (ih results)
    | ok s =>
      obtain ⟨r, results⟩ := results
      cases r with
      | ok _ => exact .built (ih results)
      | error e => exact .refused (ih results)

/-- Builds on a table that a segment cannot name are all missing. -/
theorem accounts_unnamed {schema base : Identifier} {segment : Segment} {e : IdentifierError}
    (h : segment.table base = .error e) (kinds : List Kind) :
    Accounts (kinds.map (segmentBuild schema base segment)) []
      (kinds.map fun k =>
        .error ⟨k.entryNamed (base.text ++ "_" ++ segment.name), e.message⟩) := by
  have hbuild : ∀ k, segmentBuild schema base segment k =
      ⟨k.entryNamed (base.text ++ "_" ++ segment.name), .error (.identifier e)⟩ := by
    intro k
    cases segment with
    | root => cases h
    | partition name =>
      unfold segmentBuild
      rw [h]
      rfl
  induction kinds with
  | nil => exact .nothing
  | cons k kinds ih =>
    rw [List.map_cons, List.map_cons, hbuild]
    exact .unbuildable ih

theorem segmentText_of_table {base table : Identifier} {segment : Segment}
    (h : segment.table base = .ok table) : segmentText base segment = table.text := by
  cases segment with
  | root =>
    cases h
    rfl
  | partition name =>
    rw [Identifier.text_of_ofText h, segmentText, String.append_assoc]

/-- Where the table of a segment has a name, its builds are those on that table. -/
theorem map_segmentBuild {schema base : Identifier} {segment : Segment} {table : Identifier}
    (h : segment.table base = .ok table) (kinds : List Kind) :
    kinds.map (segmentBuild schema base segment) = buildsOn schema table kinds := by
  refine List.map_congr_left fun k _ => ?_
  rw [segmentBuild, h, Identifier.build_ok, ok_bind, segmentText_of_table h, Kind.entry]

theorem rebuildSegment_accounts {connector : String} {schema base : Identifier} {layout : Layout}
    {segment : Segment} {h : History} {report : Report}
    (hp : Answered (rebuildSegment connector schema base layout segment) h report) :
    ∃ outcomes, report = .ofOutcomes outcomes ∧
      Accounts ((segment.plan layout).map (segmentBuild schema base segment)) (buildAnswers h)
        outcomes := by
  unfold rebuildSegment at hp
  split at hp
  · next e he =>
    obtain ⟨rfl, rfl⟩ := answered_pure.1 hp
    exact ⟨_, rfl, accounts_unnamed he _⟩
  · next table htable =>
    obtain ⟨h₁, h₂, results, rfl, hbuilds, hend⟩ := answered_andThen.1 hp
    obtain ⟨rfl, rfl⟩ := answered_pure.1 hend
    obtain rfl := answered_query.1 hbuilds
    have hdoes : Does [.createIndex] (sent
        [⟨.executeAll connector (buildStatements (buildsOn schema table (segment.plan layout))),
          results⟩]) := by
      simpa [Question.calls] using Importer.does_buildStatements (segment.plan layout)
    refine ⟨_, rfl, ?_⟩
    rw [map_segmentBuild htable, List.append_nil, buildAnswers_eq_map hdoes]
    simpa [Question.replies] using accounts_buildOutcomes connector _ results

/-- A rebuild accounts for every build that is planned. -/
theorem rebuild_accounts {connector : String} {schema base : Identifier} {layout : Layout}
    {segments : List Segment} {h : History} {report : Report}
    (hp : Answered (rebuild connector schema base layout segments) h report) :
    ∃ outcomes, report = .ofOutcomes outcomes ∧
      Accounts (plannedBuilds schema base layout segments) (buildAnswers h) outcomes := by
  induction segments generalizing h report with
  | nil =>
    obtain ⟨rfl, rfl⟩ := answered_pure.1 hp
    exact ⟨[], rfl, .nothing⟩
  | cons segment segments ih =>
    obtain ⟨h₁, h₂, first, rfl, hfirst, hrest⟩ := answered_andThen.1 hp
    obtain ⟨h₃, h₄, rest, rfl, htail, hend⟩ := answered_andThen.1 hrest
    obtain ⟨rfl, rfl⟩ := answered_pure.1 hend
    obtain ⟨outcomes, rfl, haccounts⟩ := rebuildSegment_accounts hfirst
    obtain ⟨outcomes', rfl, haccounts'⟩ := ih htail
    refine ⟨outcomes ++ outcomes', Report.append_ofOutcomes _ _, ?_⟩
    rw [List.append_nil, buildAnswers_append]
    exact haccounts.append haccounts'

end BulkImport.Import
