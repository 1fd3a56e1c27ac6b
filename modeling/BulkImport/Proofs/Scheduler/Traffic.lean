import BulkImport.Proofs.Scheduler.Custody
import BulkImport.Proofs.Scheduler.Once
import Mathlib.Logic.Relation

/-!
# A scheduler among its imports, wherever the jobs are stored

Any number of cycles of one scheduler and the imports that they have spawned take turns in any order
(`Advances`).  Nothing is known of where the jobs are stored: any jobs may be listed, and storing
one may fail each time.

In all that can come of it, every import that runs was spawned for the target that its job names, no
two of those that run have the same one, and the targets that are taken are exactly theirs and those
that a cycle has claimed and is not rid of (`targets_exclusive`).
-/

namespace BulkImport.Scheduler

open BulkImport.Job BulkImport.Program

/-- A cycle on its way: what it asked and was told so far, and what it has still to do. -/
structure Round where
  past : List (Exchange Question Answer) := []
  rest : Remainder

/-- A scheduler with the cycles that have not ended. -/
structure Traffic where
  state : State
  rounds : List Round := []

/-- Nothing is under way, and no target is taken. -/
structure Traffic.AtRest (x : Traffic) : Prop where
  rounds : x.rounds = []
  runs : x.state.runs = []
  taken : x.state.taken = []

/-- A turn: a cycle begins, is answered or has come to its end, an import that runs is answered, or
has come to its end and releases its target. -/
inductive Advances (im : Import.Importer) (maxQueries : Nat) : Traffic → Traffic → Prop where
  | begin (x : Traffic) :
      Advances im maxQueries x { x with rounds := x.rounds ++ [{ rest := cycle maxQueries }] }
  | ask {state state' : State} {before after : List Round} {c : Round} {q : Question}
      {next : Answer q → Remainder} {a : Answer q} (hrest : c.rest = .ask q next)
      (htold : Told im state q a state') :
      Advances im maxQueries ⟨state, before ++ c :: after⟩
        ⟨state', before ++ ⟨c.past ++ [⟨q, a⟩], next a⟩ :: after⟩
  | leave {state : State} {before after : List Round} {c : Round} {r : Except Store.Error Nat}
      (hrest : c.rest = .done r) :
      Advances im maxQueries ⟨state, before ++ c :: after⟩ ⟨state, before ++ after⟩
  | work {x : Traffic} {earlier later : List Run} {r : Run} {q : Import.Question}
      {next : Import.Answer q → Import.Action ImportJob} (a : Import.Answer q)
      (hruns : x.state.runs = earlier ++ r :: later) (hrest : r.rest = .ask q next) :
      Advances im maxQueries x
        { x with state := { x.state with runs := earlier ++ { r with rest := next a } :: later } }
  | finish {x : Traffic} {earlier later : List Run} {r : Run} {result : ImportJob}
      (hruns : x.state.runs = earlier ++ r :: later) (hrest : r.rest = .done result) :
      Advances im maxQueries x
        { x with state := { x.state.finish r with runs := earlier ++ later } }

/-! ### What stays so -/

/-- What a cycle has on it by what it asked and was told. -/
def Round.custody (c : Round) : Custody := Scheduler.custody.after {} c.past

/-- The target that a cycle goes by. -/
def Round.held (c : Round) : Option Target := c.custody.target

/-- A cycle keeps to its protocol, and goes by the target that it holds. -/
structure Round.Sound (c : Round) : Prop where
  obeys : Obeys Scheduler.custody (fun g _ => g = {}) c.custody c.rest
  holds : ∀ t, Holds c.past t ↔ c.held = some t

/-- The targets that imports and cycles hold. -/
def Traffic.holdings (x : Traffic) : List Target :=
  x.state.runs.map Run.target ++ x.rounds.filterMap Round.held

/-- The cycles are sound, the imports run for the targets that their jobs name, and the targets are
guarded. -/
structure Traffic.Sound (x : Traffic) : Prop where
  rounds : ∀ c ∈ x.rounds, c.Sound
  runs : ∀ r ∈ x.state.runs, Target.ofJob? r.job = some r.target
  guarded : Guarded x.holdings x.state.taken

/-- A changed job is stored with the time of the change, or not at all. -/
theorem update_cases {job : Job} {h : List (Exchange Store.Question Store.Answer)}
    {r : Except Store.Error Job} (hp : Answered (Store.update job).run h r) :
    (∃ e, r = .error e) ∨
      ∃ time, r = .ok (job.withEnvelope { job.envelope with updatedAt := time }) := by
  unfold Store.update at hp
  rcases answered_attempt.1 hp with ⟨e, -, rfl⟩ | ⟨h₁, h₂, time, -, -, hrest⟩
  · exact .inl ⟨e, rfl⟩
  rcases answered_attempt.1 hrest with ⟨e, -, rfl⟩ | ⟨h₃, h₄, u, -, -, hend⟩
  · exact .inl ⟨e, rfl⟩
  · exact .inr ⟨time, (answered_return.1 hend).2⟩

/-- What a cycle is told is what it can expect. -/
theorem Told.expected {im : Import.Importer} {s s' : State} {q : Question} {a : Answer q}
    (h : Told im s q a s') (g : Custody) : custody.expects g q a := by
  cases h with
  | store hupdate =>
    rcases update_cases hupdate with ⟨e, rfl⟩ | ⟨time, rfl⟩
    · trivial
    · exact ⟨rfl, rfl, rfl⟩
  | list | isTaken | countQueries | takePermit | returnPermit | claim | release | spawn =>
    trivial

/-- An import that runs after a cycle was told something ran before, or was spawned by that. -/
theorem Told.runs {im : Import.Importer} {s s' : State} {q : Question} {a : Answer q}
    (h : Told im s q a s') {r : Run} (hr : r ∈ s'.runs) :
    r ∈ s.runs ∨ q = .spawn r.job r.target := by
  cases h with
  | spawn job t =>
    rcases List.mem_append.1 hr with hr | hr
    · exact .inl hr
    · obtain rfl := List.mem_singleton.1 hr
      exact .inr rfl
  | takePermit => exact .inl (by simpa using hr)
  | claim t => exact .inl (by simpa using hr)
  | list | isTaken | countQueries | returnPermit | release | store => exact .inl hr

theorem held_asked (c : Round) {q : Question} (a : Answer q) (rest : Remainder) :
    Round.held ⟨c.past ++ [⟨q, a⟩], rest⟩ = heldAfter c.held q a := by
  unfold Round.held Round.custody
  rw [Protocol.after_append, target_next]

/-- A cycle that was answered is sound as before. -/
theorem Round.Sound.asked {c : Round} {q : Question} {next : Answer q → Remainder} {a : Answer q}
    (h : c.Sound) (hrest : c.rest = .ask q next)
    (hexpected : Scheduler.custody.expects c.custody q a) :
    Round.Sound ⟨c.past ++ [⟨q, a⟩], next a⟩ := by
  obtain ⟨hallows, hnext⟩ := hrest ▸ h.obeys
  refine ⟨?_, fun t => ?_⟩
  · rw [Round.custody, Protocol.after_append]
    exact hnext a hexpected
  · rw [held_asked]
    exact holds_heldAfter (due_of_custody hallows) h.holds t

namespace Traffic

theorem holdings_round {state : State} {before after : List Round} {c : Round} :
    (holdings ⟨state, before ++ c :: after⟩).Perm
      (state.runs.map Run.target ++ (c.held.toList ++ (before ++ after).filterMap Round.held)) :=
  (filterMap_middle Round.held before after c).append_left _

theorem holdings_run {x : Traffic} {earlier later : List Run} {r : Run}
    (hruns : x.state.runs = earlier ++ r :: later) :
    x.holdings.Perm
      (r.target :: ((earlier ++ later).map Run.target ++ x.rounds.filterMap Round.held)) := by
  simp only [holdings, hruns, List.map_append, List.map_cons, List.append_assoc, List.cons_append]
  exact List.perm_middle

end Traffic

namespace Traffic.Sound

variable {im : Import.Importer} {maxQueries : Nat} {x y : Traffic}

theorem initial (hx : x.AtRest) : x.Sound where
  rounds := by simp [hx.rounds]
  runs := by simp [hx.runs]
  guarded := by
    rw [Traffic.holdings, hx.runs, hx.rounds, hx.taken]
    exact ⟨.nil, fun t => .rfl⟩

theorem begin (h : x.Sound) :
    Traffic.Sound { x with rounds := x.rounds ++ [{ rest := cycle maxQueries }] } where
  rounds := by
    intro c hc
    rcases List.mem_append.1 hc with hc | hc
    · exact h.rounds c hc
    · obtain rfl := List.mem_singleton.1 hc
      exact ⟨custody_cycle maxQueries, fun t => by simp [not_holds_nil, Round.held, Round.custody,
        Protocol.after]⟩
  runs := h.runs
  guarded := by
    have hnothing : Round.held { rest := cycle maxQueries } = none := rfl
    simpa [Traffic.holdings, hnothing] using h.guarded

theorem ask {state state' : State} {before after : List Round} {c : Round} {q : Question}
    {next : Answer q → Remainder} {a : Answer q}
    (h : Traffic.Sound ⟨state, before ++ c :: after⟩) (hrest : c.rest = .ask q next)
    (htold : Told im state q a state') :
    Traffic.Sound ⟨state', before ++ ⟨c.past ++ [⟨q, a⟩], next a⟩ :: after⟩ := by
  have hc := h.rounds c List.mem_append_cons_self
  have hallows : Scheduler.custody.allows c.custody q := (hrest ▸ hc.obeys).1
  refine ⟨?_, fun r hr => ?_, ?_⟩
  · exact forall_mem_replace h.rounds (hc.asked hrest (htold.expected _))
  · rcases htold.runs hr with hran | rfl
    · exact h.runs r hran
    · exact hallows.2.2
  · have hguarded := (Guarded.congr holdings_round).1 h.guarded
    refine (Guarded.congr holdings_round).2 ?_
    rw [held_asked]
    exact hguarded.told htold (due_of_custody hallows)

theorem leave {state : State} {before after : List Round} {c : Round} {r : Except Store.Error Nat}
    (h : Traffic.Sound ⟨state, before ++ c :: after⟩) (hrest : c.rest = .done r) :
    Traffic.Sound ⟨state, before ++ after⟩ := by
  -- a cycle that has come to its end holds nothing
  have hnothing : c.custody = {} := by
    have hobeys := (h.rounds c List.mem_append_cons_self).obeys
    rwa [hrest] at hobeys
  have hguarded := (Guarded.congr holdings_round).1 h.guarded
  refine ⟨forall_mem_remove h.rounds, h.runs, ?_⟩
  rwa [Round.held, hnothing] at hguarded

theorem work {earlier later : List Run} {r : Run} (h : x.Sound)
    (hruns : x.state.runs = earlier ++ r :: later) (rest : Import.Action ImportJob) :
    Traffic.Sound
      { x with state := { x.state with runs := earlier ++ { r with rest := rest } :: later } } := by
  refine ⟨h.rounds, ?_, ?_⟩
  · exact forall_mem_replace (hruns ▸ h.runs) (h.runs r (by simp [hruns]))
  · refine (Guarded.congr (holdings_run rfl)).2 ?_
    exact (Guarded.congr (holdings_run hruns)).1 h.guarded

theorem finish {earlier later : List Run} {r : Run} (h : x.Sound)
    (hruns : x.state.runs = earlier ++ r :: later) :
    Traffic.Sound { x with state := { x.state.finish r with runs := earlier ++ later } } := by
  refine ⟨h.rounds, forall_mem_remove (hruns ▸ h.runs), ?_⟩
  exact ((Guarded.congr (holdings_run hruns)).1 h.guarded).release

theorem turn (h : x.Sound) (hturn : Advances im maxQueries x y) : y.Sound := by
  cases hturn with
  | begin => exact h.begin
  | ask hrest htold => exact h.ask hrest htold
  | leave hrest => exact h.leave hrest
  | work a hruns hrest => exact h.work hruns _
  | finish hruns hrest => exact h.finish hruns

theorem run (h : x.Sound) (hrun : Relation.ReflTransGen (Advances im maxQueries) x y) :
    y.Sound := by
  induction hrun with
  | refl => exact h
  | tail _ hturn ih => exact ih.turn hturn

end Traffic.Sound

/-- From rest on, no two imports run that have the same target, and the targets that are taken are
those of the imports that run and those that a cycle has claimed and is not rid of. -/
theorem targets_exclusive {im : Import.Importer} {maxQueries : Nat} {x y : Traffic}
    (hx : x.AtRest) (hrun : Relation.ReflTransGen (Advances im maxQueries) x y) :
    (y.state.runs.map fun r => Target.ofJob? r.job).Nodup ∧
      ∀ t, t ∈ y.state.taken ↔
        (∃ r ∈ y.state.runs, Target.ofJob? r.job = some t) ∨ ∃ c ∈ y.rounds, Holds c.past t := by
  have hsound := (Traffic.Sound.initial hx).run hrun
  have htargets : (y.state.runs.map fun r => Target.ofJob? r.job) =
      (y.state.runs.map Run.target).map some := by
    rw [List.map_map]
    exact List.map_congr_left hsound.runs
  refine ⟨?_, fun t => ?_⟩
  · rw [htargets]
    exact List.Pairwise.map some (fun t t' hne heq => hne (Option.some.inj heq))
      (List.nodup_append.1 hsound.guarded.nodup).1
  · rw [hsound.guarded.mem_iff, Traffic.holdings, List.mem_append, List.mem_map,
      List.mem_filterMap]
    refine or_congr ?_ ?_
    · refine exists_congr fun r => and_congr_right fun hr => ?_
      rw [hsound.runs r hr, Option.some.injEq]
    · refine exists_congr fun c => and_congr_right fun hc => ?_
      exact ((hsound.rounds c hc).holds t).symm

/-! ### With the jobs in memory -/

/-- A system with its store, seen without the store. -/
structure Traffic.Shows (x : Traffic) (s : System) : Prop where
  state : x.state = s.state
  cycles : x.rounds.map Round.rest = s.cycles

variable {im : Import.Importer} {maxQueries : Nat} {s s' : System} {x : Traffic}

/-- A turn of a system with its store is one of the turns that are possible wherever it is. -/
theorem exists_advances {e : Event} (hstep : Step im maxQueries s e s') (hx : x.Shows s) :
    ∃ y, Advances im maxQueries x y ∧ y.Shows s' := by
  obtain ⟨state, rounds⟩ := x
  obtain ⟨hstate, hcycles⟩ := hx
  dsimp only at hstate hcycles
  subst hstate
  cases hstep with
  | begin => exact ⟨_, .begin _, rfl, by simp [hcycles]⟩
  | ask now load hplace =>
    obtain ⟨before, c, after, rfl, hrest, rfl, rfl⟩ := exists_place (hcycles.trans hplace)
    exact ⟨_, .ask hrest (Orderly.told_answer now load _), rfl, by simp⟩
  | leave hplace =>
    obtain ⟨before, c, after, rfl, hrest, rfl, rfl⟩ := exists_place (hcycles.trans hplace)
    exact ⟨_, .leave hrest, rfl, by simp⟩
  | work now a hruns hrest => exact ⟨_, .work a hruns hrest, rfl, hcycles⟩
  | finish hruns hrest => exact ⟨_, .finish hruns hrest, rfl, hcycles⟩

theorem exists_run {moves : List Move} (hexec : Execution im maxQueries s moves s')
    (hx : x.Shows s) :
    ∃ y, Relation.ReflTransGen (Advances im maxQueries) x y ∧ y.Shows s' := by
  induction hexec generalizing x with
  | nil => exact ⟨x, .refl, hx⟩
  | cons hstep _ ih =>
    obtain ⟨y, hturn, hy⟩ := exists_advances hstep hx
    obtain ⟨z, hrun, hz⟩ := ih hy
    exact ⟨z, .head hturn hrun, hz⟩

/-- The turns of a cycle up to where it has claimed the target of the first candidate. -/
def claimed : List Turn := .begin :: List.replicate 5 .cycle

/-- The roads are taken before they are imported, by the cycle that has claimed them. -/
theorem roads_claimed :
    ∃ y, Relation.ReflTransGen (Advances Import.viewImporter 0) ⟨queuedRoads.state, []⟩ y ∧
      y.state.taken = [⟨"db", "roads"⟩] ∧ ∃ c ∈ y.rounds, Holds c.past ⟨"db", "roads"⟩ := by
  have hshows : Traffic.Shows ⟨queuedRoads.state, []⟩ queuedRoads := ⟨rfl, rfl⟩
  obtain ⟨y, hrun, hy⟩ := exists_run
    (System.execution_perform Import.viewImporter 0 unreachable claimed queuedRoads) hshows
  have htaken : y.state.taken = [⟨"db", "roads"⟩] := by
    rw [hy.state]
    decide +kernel
  have hruns : y.state.runs = [] := by
    rw [hy.state]
    exact List.isEmpty_iff.1 (by decide +kernel)
  obtain ⟨-, hheld⟩ := targets_exclusive ⟨rfl, rfl, rfl⟩ hrun
  refine ⟨y, hrun, htaken, ?_⟩
  rcases (hheld ⟨"db", "roads"⟩).1 (by simp [htaken]) with ⟨r, hr, -⟩ | hround
  · simp [hruns] at hr
  · exact hround

end BulkImport.Scheduler
