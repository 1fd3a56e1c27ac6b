import BulkImport.Proofs.Import.Inventory
import BulkImport.Proofs.Import.Together

/-!
# Segments are rebuilt one after the other

A rebuild asks one question for each segment that has a name, and its calls are those of the builds
on that segment (`carries_of_batch`).  So when the builds of a segment are started together and end
in any order, none of a later segment is started before all of the earlier ones have ended.  What
is reported depends on the answers only, and is what building one index after the other
(`rebuildEach`) reports where answers are given by the text of a statement (`segments_apart`).
-/

namespace BulkImport.Import

open BulkImport.Sql BulkImport.Table BulkImport.Program BulkImport.Index Relation

variable {connector : String} {schema base : Identifier} {layout : Layout}
  {segments : List Segment}

/-! ### The place of a call -/

/-- The calls of builds on segments of which the first one has this place, each with the index it
builds. -/
def numberedFrom (connector : String) (schema base : Identifier) (layout : Layout) (first : Nat)
    (segments : List Segment) : List (PlannedIndex × Call) :=
  (plannedFrom layout first segments).filterMap fun x =>
    ((x.build schema base).call? connector).map (x, ·)

/-- The calls of a rebuild in the order in which they are made, each with the index it builds. -/
def numbered (connector : String) (schema base : Identifier) (layout : Layout)
    (segments : List Segment) : List (PlannedIndex × Call) :=
  numberedFrom connector schema base layout 0 segments

theorem map_snd_numberedFrom (first : Nat) :
    (numberedFrom connector schema base layout first segments).map Prod.snd =
      (plannedBuilds schema base layout segments).filterMap (Build.call? connector) := by
  rw [numberedFrom, ← map_build_plannedFrom first, List.filterMap_map, List.map_filterMap]
  refine List.filterMap_congr fun x _ => ?_
  rw [Option.map_map]
  exact Option.map_id' ..

theorem plannedFrom_append (first : Nat) (segments segments' : List Segment) :
    plannedFrom layout first (segments ++ segments') =
      plannedFrom layout first segments ++
        plannedFrom layout (first + segments.length) segments' := by
  induction segments generalizing first with
  | nil => rfl
  | cons segment segments ih =>
    rw [List.cons_append, plannedFrom, plannedFrom, ih, List.append_assoc, List.length_cons,
      Nat.add_assoc, Nat.add_comm 1]

theorem place_of_mem {first : Nat} {y : PlannedIndex × Call}
    (hy : y ∈ numberedFrom connector schema base layout first segments) :
    first ≤ y.1.place ∧ y.1.place < first + segments.length := by
  obtain ⟨x, hx, hcall⟩ := List.mem_filterMap.1 hy
  obtain ⟨call, -, rfl⟩ := Option.map_eq_some_iff.1 hcall
  obtain ⟨hfirst, hsegment, -⟩ := mem_plannedFrom.1 hx
  obtain ⟨hlt, -⟩ := List.getElem?_eq_some_iff.1 hsegment
  exact ⟨hfirst, by dsimp only; omega⟩

theorem numberedFrom_append (first : Nat) (segments segments' : List Segment) :
    numberedFrom connector schema base layout first (segments ++ segments') =
      numberedFrom connector schema base layout first segments ++
        numberedFrom connector schema base layout (first + segments.length) segments' := by
  rw [numberedFrom, plannedFrom_append, List.filterMap_append]
  rfl

/-- The builds on the segment at a place make these calls, of which the first one has this
number. -/
structure Carries (connector : String) (schema base : Identifier) (layout : Layout)
    (segments : List Segment) (place first : Nat) (calls : List Call) : Prop where
  segment : ∃ segment, segments[place]? = some segment ∧
    calls.length ≤ (segment.plan layout).length
  earlier : ∀ n x call, (numbered connector schema base layout segments)[n]? = some (x, call) →
    x.place < place → n < first
  within : ∀ n call, first ≤ n → calls[n - first]? = some call →
    ∃ x : PlannedIndex, x.place = place ∧
      (numbered connector schema base layout segments)[n]? = some (x, call)

/-- A segment is rebuilt with one question, or with none where it has no name. -/
theorem rebuildSegment_asks {segment : Segment} {h : History} {report : Report}
    (hp : Answered (rebuildSegment connector schema base layout segment) h report) :
    h = [] ∨ ∃ e, h = [e] := by
  unfold rebuildSegment at hp
  split at hp
  · obtain ⟨rfl, -⟩ := answered_pure.1 hp
    exact .inl rfl
  · obtain ⟨h₁, h₂, results, rfl, hbuilds, hend⟩ := answered_andThen.1 hp
    obtain ⟨rfl, -⟩ := answered_pure.1 hend
    exact .inr ⟨_, by rw [List.append_nil, answered_query.1 hbuilds]⟩

/-- Every question of a rebuild is that of one segment, after those of the earlier ones. -/
theorem segment_of_question {h h' : History} {q : Question} {a : Answer q} {report : Report}
    (hp : Answered (rebuild connector schema base layout segments) (h ++ ⟨q, a⟩ :: h') report) :
    ∃ earlier segment later, segments = earlier ++ segment :: later ∧
      sent h = (plannedBuilds schema base layout earlier).filterMap (Build.call? connector) ∧
      q.calls = ((segment.plan layout).map (segmentBuild schema base segment)).filterMap
        (Build.call? connector) := by
  induction segments generalizing h report with
  | nil =>
    obtain ⟨hnil, -⟩ := answered_pure.1 hp
    cases h <;> cases hnil
  | cons segment segments ih =>
    obtain ⟨h₁, h₂, first, hsplit, hfirst, hrest⟩ := answered_andThen.1 hp
    obtain ⟨h₃, h₄, rest, rfl, htail, hend⟩ := answered_andThen.1 hrest
    obtain ⟨rfl, -⟩ := answered_pure.1 hend
    rw [List.append_nil] at hsplit
    have hsent := rebuildSegment_sent hfirst
    -- the question is that of the first segment, or one of the others
    have hothers : ∀ h₅, h₃ = h₅ ++ ⟨q, a⟩ :: h' → h = h₁ ++ h₅ → ∃ earlier segment' later,
        segment :: segments = earlier ++ segment' :: later ∧
          sent h = (plannedBuilds schema base layout earlier).filterMap (Build.call? connector) ∧
          q.calls = ((segment'.plan layout).map (segmentBuild schema base segment')).filterMap
            (Build.call? connector) := by
      rintro h₅ rfl rfl
      obtain ⟨earlier, segment', later, rfl, hearlier, hcalls⟩ := ih htail
      refine ⟨segment :: earlier, segment', later, rfl, ?_, hcalls⟩
      rw [sent_append, hsent, hearlier, plannedBuilds, plannedBuilds, List.flatMap_cons,
        List.filterMap_append]
    rcases rebuildSegment_asks hfirst with rfl | ⟨e, rfl⟩
    · exact hothers h hsplit.symm rfl
    · cases h with
      | nil =>
        obtain ⟨rfl, -⟩ := List.cons.inj hsplit
        refine ⟨[], segment, segments, rfl, rfl, ?_⟩
        rw [← hsent, sent_cons, sent_nil, List.append_nil]
      | cons e' h =>
        obtain ⟨rfl, hrest⟩ := List.cons.inj hsplit
        exact hothers h hrest.symm rfl

/-- Every batch of a rebuild carries the builds on one segment. -/
theorem carries_of_batch {first : Nat} {calls : List Call}
    (hb : Batch (rebuild connector schema base layout segments) first calls) :
    ∃ place, Carries connector schema base layout segments place first calls := by
  obtain ⟨h, q, a, h', report, hp, rfl, rfl⟩ := hb
  obtain ⟨earlier, segment, later, rfl, hsent, hcalls⟩ := segment_of_question hp
  have hnumbered : numbered connector schema base layout (earlier ++ segment :: later) =
      numberedFrom connector schema base layout 0 earlier ++
        numberedFrom connector schema base layout earlier.length (segment :: later) := by
    rw [numbered, numberedFrom_append, Nat.zero_add]
  have hfirst : (numberedFrom connector schema base layout 0 earlier).length = (sent h).length := by
    rw [hsent, ← map_snd_numberedFrom 0, List.length_map]
  have hbuilds : (numberedFrom connector schema base layout earlier.length [segment]).map Prod.snd =
      q.calls := by
    rw [hcalls, map_snd_numberedFrom, plannedBuilds, List.flatMap_cons, List.flatMap_nil,
      List.append_nil]
  refine ⟨earlier.length, ⟨segment, by simp, ?_⟩, ?_, ?_⟩
  · rw [hcalls, ← List.length_map (segmentBuild schema base segment)]
    exact List.length_filterMap_le _ _
  · intro n x call hn hplace
    refine Nat.lt_of_not_le fun hle => ?_
    rw [hnumbered, List.getElem?_append_right (hfirst ▸ hle)] at hn
    exact Nat.not_lt_of_le (place_of_mem (List.mem_of_getElem? hn)).1 hplace
  · intro n call hle hn
    rw [← hbuilds, List.getElem?_map] at hn
    obtain ⟨⟨x, call⟩, hx, rfl⟩ := Option.map_eq_some_iff.1 hn
    obtain ⟨hfrom, hto⟩ := place_of_mem (List.mem_of_getElem? hx)
    refine ⟨x, ?_, ?_⟩
    · exact Nat.le_antisymm (Nat.le_of_lt_succ hto) hfrom
    · obtain ⟨hlt, -⟩ := List.getElem?_eq_some_iff.1 hx
      rw [hnumbered, List.getElem?_append_right (hfirst ▸ hle), hfirst,
        ← List.singleton_append (l := later), numberedFrom_append,
        List.getElem?_append_left hlt, hx]

/-! ### One index after the other -/

/-- Make a build on its own, and tell what came of it. -/
def Build.make (connector : String) (b : Build) : Action (Except MissingIndex String) :=
  match b.statement with
  | .error e => pure (.error ⟨b.entry, e.message⟩)
  | .ok s => do
    match ← execute connector s with
    | .error e => return .error ⟨b.entry, e.message⟩
    | .ok _ => return .ok b.entry

/-- Make builds one after the other. -/
def makeEach (connector : String) : List Build → Action (List (Except MissingIndex String))
  | [] => pure []
  | b :: bs => do
    let outcome ← b.make connector
    let outcomes ← makeEach connector bs
    return outcome :: outcomes

/-- Build the indices of all segments one after the other. -/
def rebuildEach (connector : String) (schema base : Identifier) (layout : Layout)
    (segments : List Segment) : Action Report := do
  let outcomes ← makeEach connector (plannedBuilds schema base layout segments)
  return .ofOutcomes outcomes

/-- Every statement is answered by its text. -/
def byText (reply : String → Except Database.Error Unit) (q : Question) : Answer q :=
  q.conclude (q.calls.map fun call => reply call.statement.text)

/-- What comes of a build whose statement is answered by its text. -/
def settled (reply : String → Except Database.Error Unit) (b : Build) :
    Except MissingIndex String :=
  b.outcome ((b.statement.toOption.map fun s => reply s.text).getD (.ok ()))

/-- Every call of a history is answered by the text of its statement. -/
def ByText (reply : String → Except Database.Error Unit) (h : History) : Prop :=
  ∀ r ∈ replies h, r.2 = reply r.1.statement.text

variable {reply : String → Except Database.Error Unit}

theorem byText_append {h h' : History} :
    ByText reply (h ++ h') ↔ ByText reply h ∧ ByText reply h' := by
  simp only [ByText, replies_append, List.forall_mem_append]

theorem byText_carryOut {α : Type} (p : Action α) : ByText reply (p.carryOut (byText reply)).1 := by
  intro r hr
  obtain ⟨⟨q, a⟩, he, hra⟩ := List.mem_flatMap.1 hr
  obtain rfl : a = byText reply q := answer_of_mem_carryOut he
  dsimp only at hra
  obtain ⟨n, hn⟩ := List.getElem?_of_mem hra
  have hsnd : (q.replies (byText reply q)).map Prod.snd =
      q.calls.map fun call => reply call.statement.text := replies_conclude (by simp)
  have hanswer : (q.calls.map fun call => reply call.statement.text)[n]? = some r.2 := by
    rw [← hsnd, List.getElem?_map, hn, Option.map_some]
  rw [← replies_question q (byText reply q), List.map_map, List.getElem?_map, hn] at hanswer
  exact (Option.some.inj hanswer).symm

theorem settled_of_make {b : Build} {h : History} {outcome : Except MissingIndex String}
    (hp : Answered (b.make connector) h outcome) (hreply : ByText reply h) :
    outcome = settled reply b := by
  obtain ⟨entry, statement⟩ := b
  cases statement with
  | error e => exact (answered_pure.1 hp).2
  | ok s =>
    obtain ⟨h₁, h₂, answer, rfl, hanswer, hend⟩ := answered_andThen.1 hp
    obtain rfl := answered_query.1 hanswer
    obtain rfl : answer = reply s.text := hreply (⟨connector, s⟩, answer) List.mem_cons_self
    change outcome = Build.outcome ⟨entry, .ok s⟩ (reply s.text)
    cases hs : reply s.text with
    | error e | ok u =>
      rw [hs] at hend
      exact (answered_pure.1 hend).2

theorem settled_of_makeEach {bs : List Build} {h : History}
    {outcomes : List (Except MissingIndex String)}
    (hp : Answered (makeEach connector bs) h outcomes)
    (hreply : ByText reply h) : outcomes = bs.map (settled reply) := by
  induction bs generalizing h outcomes with
  | nil => exact (answered_pure.1 hp).2
  | cons b bs ih =>
    obtain ⟨h₁, h₂, first, rfl, hfirst, hothers⟩ := answered_andThen.1 hp
    obtain ⟨h₃, h₄, rest, rfl, hrest, hend⟩ := answered_andThen.1 hothers
    obtain ⟨rfl, rfl⟩ := answered_pure.1 hend
    obtain ⟨hreply₁, hreply₃⟩ := byText_append.1 (List.append_nil h₃ ▸ hreply)
    rw [settled_of_make hfirst hreply₁, ih hrest hreply₃, List.map_cons]

theorem rebuildEach_settled {h : History} {report : Report}
    (hp : Answered (rebuildEach connector schema base layout segments) h report)
    (hreply : ByText reply h) :
    report = .ofOutcomes ((plannedBuilds schema base layout segments).map (settled reply)) := by
  obtain ⟨h₁, h₂, outcomes, rfl, houtcomes, hend⟩ := answered_andThen.1 hp
  obtain ⟨rfl, rfl⟩ := answered_pure.1 hend
  rw [settled_of_makeEach houtcomes (List.append_nil h₁ ▸ hreply)]

/-- What a rebuild reports depends on the answers to its statements only. -/
theorem rebuild_settled {h : History} {report : Report}
    (hp : Answered (rebuild connector schema base layout segments) h report)
    (hreply : ByText reply h) :
    report = .ofOutcomes ((plannedBuilds schema base layout segments).map (settled reply)) := by
  obtain ⟨answers, hreplies, rfl⟩ := rebuild_told hp
  rw [← map_build_plannedFrom 0, List.map_map]
  refine congrArg Report.ofOutcomes (List.map_congr_left fun x hx => ?_)
  change _ = settled reply (x.build schema base)
  unfold settled
  cases hs : (x.build schema base).statement with
  | error e => simp [Build.outcome, hs]
  | ok s =>
    have hcall : (x.build schema base).call? connector = some ⟨connector, s⟩ := by
      rw [Build.call?, hs]
      rfl
    have hmem : (⟨connector, s⟩, answers x) ∈ replies h := by
      rw [hreplies]
      exact List.mem_filterMap.2 ⟨x, hx, by rw [hcall, Option.map_some]⟩
    obtain hanswer : answers x = reply s.text := hreply _ hmem
    rw [hanswer]
    rfl

/-- How the builds of a rebuild lie to each other, wherever it has come to. -/
structure Apart (connector : String) (schema base : Identifier) (layout : Layout)
    (segments : List Segment) (db : Call → Except Database.Error Unit → Prop) (x : Site Report) :
    Prop where
  /-- A build is started after all builds on earlier segments have ended. -/
  started : ∀ before n call after, x.log = before ++ .started n call :: after →
    ∃ y : PlannedIndex, (numbered connector schema base layout segments)[n]? = some (y, call) ∧
      ∀ (m : Nat) (z : PlannedIndex) call',
        (numbered connector schema base layout segments)[m]? = some (z, call') →
          z.place < y.place → ∃ a, .ended m a ∈ before
  /-- The builds in progress are on one segment. -/
  inProgress : inProgress x.log = [] ∨ ∃ place segment, segments[place]? = some segment ∧
    (inProgress x.log).length ≤ (segment.plan layout).length ∧
    ∀ n ∈ inProgress x.log, ∃ (y : PlannedIndex) (call : Call), y.place = place ∧
      (numbered connector schema base layout segments)[n]? = some (y, call)
  /-- The rebuild can be brought to its end. -/
  ends : (∀ call, ∃ a, db call a) →
    ∃ y report, ReflTransGen (Site.Step db) x y ∧ y.work = .going (pure report)
  /-- Where statements are answered by their texts, it reports what building one index after the
  other does. -/
  settled : ∀ reply : String → Except Database.Error Unit,
    (∀ call a, db call a → a = reply call.statement.text) →
      ∀ report, x.work = .going (pure report) → report =
        ((rebuildEach connector schema base layout segments).carryOut (byText reply)).2

/-- In whatever order the builds of a segment end, no two segments are rebuilt at the same time,
and the report does not depend on the order. -/
theorem segments_apart {db : Call → Except Database.Error Unit → Prop} {x : Site Report}
    (hx : Reaches db (rebuild connector schema base layout segments) x) :
    Apart connector schema base layout segments db x := by
  constructor
  case started =>
    intro before n call after hlog
    obtain ⟨first, calls, hbatch, hle, hcall, hended⟩ := batch_of_started hx hlog
    obtain ⟨place, hcarries⟩ := carries_of_batch hbatch
    obtain ⟨y, rfl, hy⟩ := hcarries.within n call hle hcall
    exact ⟨y, hy, fun m z call' hz hplace => hended m (hcarries.earlier m z call' hz hplace)⟩
  case inProgress =>
    rcases inProgress_of_reaches hx with hnone | ⟨first, calls, hbatch, hlength, hbetween⟩
    · exact .inl hnone
    · obtain ⟨place, hcarries⟩ := carries_of_batch hbatch
      obtain ⟨segment, hsegment, hplan⟩ := hcarries.segment
      refine .inr ⟨place, segment, hsegment, Nat.le_trans hlength hplan, fun n hn => ?_⟩
      obtain ⟨hle, hlt⟩ := hbetween n hn
      have hsub : n - first < calls.length := by omega
      obtain ⟨y, hy, hnumber⟩ := hcarries.within n _ hle (List.getElem?_eq_getElem hsub)
      exact ⟨y, _, hy, hnumber⟩
  case ends => exact fun hdb => exists_finished hdb hx
  case settled =>
    intro reply hreply report hdone
    obtain ⟨h, hp, hdb⟩ := history_of_finished hx hdone
    rw [rebuild_settled hp fun r hr => hreply r.1 r.2 (hdb r hr),
      rebuildEach_settled (answered_carryOut _ _) (byText_carryOut _)]

/-- Long statements are refused. -/
def refuseLong (text : String) : Except Database.Error Unit :=
  if text.length < 70 then .ok () else .error (.unexpectedRow "too long")

/-- A rebuild of `roads` and one partition, where the builds of each segment end last to first. -/
def roadsReversed : Site Report :=
  [0, 5, 4, 3, 2, 1, 0, 0, 0, 6, 5, 4, 3, 2, 1, 0, 0].foldl
    (Site.turn fun call => refuseLong call.statement.text)
    ⟨[], 0, .going (rebuild "db" viewImporter.settings.schema Importer.roads .legacy
      [.partition "head", .root])⟩

theorem roads_apart :
    roadsReversed.log.map (fun e => (e.started?, e.ended?)) =
      (List.range 6).map (some ·, none) ++ (List.range 6).reverse.map (none, some ·) ++
        (List.range' 6 7).map (some ·, none) ++ (List.range' 6 7).reverse.map (none, some ·) ∧
    Apart "db" viewImporter.settings.schema Importer.roads .legacy [.partition "head", .root]
      (fun call a => a = refuseLong call.statement.text) roadsReversed := by
  have hx : Reaches (fun call a => a = refuseLong call.statement.text)
      (rebuild "db" viewImporter.settings.schema Importer.roads .legacy [.partition "head", .root])
      roadsReversed := by
    refine Reaches.turns ?_ _ .refl
    exact fun _ => rfl
  exact ⟨by decide +kernel, segments_apart hx⟩

end BulkImport.Import
