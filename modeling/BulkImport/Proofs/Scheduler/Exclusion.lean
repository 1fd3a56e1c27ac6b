import BulkImport.Proofs.Scheduler.Conduct
import BulkImport.Proofs.Surroundings

/-!
# Who holds the targets

The targets that are taken are those of the imports that run and those that the cycles hold, and
nobody else's; no target is held twice (`Guarded`).  A cycle that claims only when it holds nothing,
and releases and spawns only what it holds, leaves it so, whatever it is told of the stored imports
(`Guarded.told`).  In a system with its store, whatever turn is taken, this stays so (`Orderly`,
`Orderly.begin`, `Orderly.ask`, `Orderly.leave`, `Orderly.work`, `Orderly.finish`).
-/

namespace BulkImport.Scheduler

open BulkImport.Job BulkImport.Program

/-- A cycle with what it has still to do and what it goes by. -/
structure Underway where
  rest : Remainder
  standing : Standing

/-- The target that a cycle holds. -/
def Underway.held (c : Underway) : Option Target := c.standing.held

/-- The targets that imports and cycles hold. -/
def holdings (runs : List Run) (cs : List Underway) : List Target :=
  runs.map Run.target ++ cs.filterMap Underway.held

/-- The targets that are taken are the ones that are held, each of them once. -/
structure Guarded (held taken : List Target) : Prop where
  nodup : held.Nodup
  mem_iff : ∀ t, t ∈ taken ↔ t ∈ held

/-- The cycles keep to their protocol, and the targets are guarded. -/
structure Orderly (s : System) (cs : List Underway) : Prop where
  cycles : s.cycles = cs.map (·.rest)
  obeys : ∀ c ∈ cs, Obeys conduct (fun g _ => g.held = none) c.standing c.rest
  guarded : Guarded (holdings s.state.runs cs) s.state.taken

/-! ### Targets -/

theorem holdings_middle (runs : List Run) (before after : List Underway) (c : Underway) :
    (holdings runs (before ++ c :: after)).Perm
      (runs.map Run.target ++ (c.held.toList ++ (before ++ after).filterMap Underway.held)) :=
  (filterMap_middle Underway.held before after c).append_left _

theorem holdings_cycle (runs : List Run) (before after : List Underway) (c : Underway) :
    (holdings runs (before ++ c :: after)).Perm
      (c.held.toList ++ holdings runs (before ++ after)) := by
  refine (holdings_middle runs before after c).trans ?_
  rw [← List.append_assoc, holdings, ← List.append_assoc]
  exact List.perm_append_comm.append_right _

theorem holdings_run (before after : List Run) (r : Run) (cs : List Underway) :
    (holdings (before ++ r :: after) cs).Perm (r.target :: holdings (before ++ after) cs) := by
  unfold holdings
  rw [List.map_append, List.map_append, List.map_cons, List.append_assoc, List.append_assoc]
  exact List.perm_middle

namespace Guarded

variable {held held' taken : List Target} {t : Target}

theorem congr (hp : held.Perm held') : Guarded held taken ↔ Guarded held' taken := by
  constructor
  · intro h
    exact ⟨hp.nodup h.nodup, fun t => (h.mem_iff t).trans hp.mem_iff⟩
  · intro h
    exact ⟨hp.symm.nodup h.nodup, fun t => (h.mem_iff t).trans hp.symm.mem_iff⟩

theorem cycle_iff {runs : List Run} {before after : List Underway} {c : Underway} :
    Guarded (holdings runs (before ++ c :: after)) taken ↔
      Guarded (c.held.toList ++ holdings runs (before ++ after)) taken :=
  congr (holdings_cycle runs before after c)

theorem run_iff {before after : List Run} {r : Run} {cs : List Underway} :
    Guarded (holdings (before ++ r :: after) cs) taken ↔
      Guarded (r.target :: holdings (before ++ after) cs) taken :=
  congr (holdings_run before after r cs)

theorem claim (h : Guarded held taken) (ht : t ∉ taken) : Guarded (t :: held) (t :: taken) := by
  refine ⟨List.nodup_cons.2 ⟨fun hmem => ht ((h.mem_iff t).2 hmem), h.nodup⟩, fun u => ?_⟩
  rw [List.mem_cons, List.mem_cons, h.mem_iff u]

theorem release (h : Guarded (t :: held) taken) : Guarded held (taken.filter (· ≠ t)) := by
  obtain ⟨hnot, hnodup⟩ := List.nodup_cons.1 h.nodup
  refine ⟨hnodup, fun u => ?_⟩
  rw [List.mem_filter, h.mem_iff u, List.mem_cons, decide_eq_true_iff]
  constructor
  · rintro ⟨hu, hne⟩
    exact hu.resolve_left hne
  · intro hu
    refine ⟨.inr hu, ?_⟩
    rintro rfl
    exact hnot hu

end Guarded

/-! ### What a cycle is told -/

/-- What a cycle may be told in a state of the scheduler, and the state afterwards.  Which imports
are listed and how busy a connector is, is open, and so is whether a job can be stored. -/
inductive Told (im : Import.Importer) (s : State) : (q : Question) → Answer q → State → Prop where
  | list {status : Status} (found : Except Store.Error (List Job)) :
      Told im s (.list status) found s
  | isTaken (t : Target) : Told im s (.isTaken t) (decide (t ∈ s.taken)) s
  | countQueries {connector : String} (running : Except Database.Error Nat) :
      Told im s (.countQueries connector) running s
  | takePermit : Told im s .takePermit s.takePermit.1 s.takePermit.2
  | returnPermit : Told im s .returnPermit () s.returnPermit
  | claim (t : Target) : Told im s (.claim t) (s.claim t).1 (s.claim t).2
  | release (t : Target) : Told im s (.release t) () (s.release t)
  | store {job : ImportJob} {h : List (Exchange Store.Question Store.Answer)}
      {r : Except Store.Error Job} (hupdate : Answered (Store.update (.importing job)).run h r) :
      Told im s (.store job) (r.map fun stored => stored.import?.getD job) s
  | spawn (job : ImportJob) (t : Target) : Told im s (.spawn job t) () (s.spawn im job t)

/-- The target that a cycle holds after it was answered. -/
def heldAfter (held : Option Target) : (q : Question) → Answer q → Option Target
  | .claim t, true => some t
  | .release _, _ => none
  | .spawn _ _, _ => none
  | _, _ => held

/-- A cycle that holds this target may ask this: it claims when it holds nothing, and releases and
spawns what it holds. -/
def Due (held : Option Target) : Question → Prop
  | .claim _ => held = none
  | .release t => held = some t
  | .spawn _ t => held = some t
  | _ => True

/-- The targets stay guarded when one of those who hold them is answered. -/
theorem Guarded.told {im : Import.Importer} {s s' : State} {q : Question} {a : Answer q}
    {mine : Option Target} {others : List Target} (htold : Told im s q a s') (hdue : Due mine q)
    (h : Guarded (s.runs.map Run.target ++ (mine.toList ++ others)) s.taken) :
    Guarded (s'.runs.map Run.target ++ ((heldAfter mine q a).toList ++ others)) s'.taken := by
  -- a claim adds to what is held, a release takes from it, and a spawned import goes on holding
  cases htold with
  | claim t =>
    have hnone : mine = none := hdue
    by_cases htaken : t ∈ s.taken
    · simpa [State.claim, htaken, heldAfter] using h
    · subst hnone
      have hclaimed := h.claim htaken
      simp only [State.claim, if_neg htaken, heldAfter]
      exact (congr List.perm_middle).2 hclaimed
  | release t =>
    have hheld : mine = some t := hdue
    subst hheld
    have hmine := (congr List.perm_middle).1 h
    exact hmine.release
  | spawn job t =>
    have hheld : mine = some t := hdue
    subst hheld
    simpa [State.spawn, heldAfter] using h
  | takePermit => simpa [heldAfter] using h
  | list | isTaken | countQueries | returnPermit | store => exact h

/-- What a cycle lists are the imports in a status. -/
theorem admits_listing {status : Status} {job : Job} :
    Job.Filter.admits { kind := some .importing, status := some status } job = true ↔
      job.kind = .importing ∧ job.status = status := by
  simp only [Job.Filter.admits, Option.all_some, Option.all_none, Bool.and_true, Bool.and_eq_true,
    beq_iff_eq]
  exact and_congr eq_comm eq_comm

/-! ### Turns -/

namespace Orderly

variable {im : Import.Importer} {maxQueries : Nat} {s : System} {cs before after : List Underway}

theorem initial (hrest : s.AtRest) : Orderly s [] := by
  refine ⟨hrest.cycles, fun c hc => absurd hc List.not_mem_nil, ?_⟩
  rw [hrest.runs, hrest.taken]
  exact ⟨.nil, fun t => .rfl⟩

theorem begin (h : Orderly s cs) :
    Orderly { s with cycles := s.cycles ++ [cycle maxQueries] }
      (cs ++ [⟨cycle maxQueries, {}⟩]) := by
  refine ⟨?_, ?_, ?_⟩
  · rw [h.cycles, List.map_append, List.map_singleton]
  · intro c hc
    rcases List.mem_append.1 hc with hc | hc
    · exact h.obeys c hc
    · obtain rfl := List.mem_singleton.1 hc
      exact obeys_cycle maxQueries
  · rw [Guarded.cycle_iff, List.append_nil]
    exact h.guarded

/-- What the cycle that has its place among the others goes by. -/
theorem exists_underway {earlier later : List Remainder} {rest : Remainder}
    (hcycles : s.cycles = earlier ++ rest :: later) (h : Orderly s cs) :
    ∃ before g after, cs = before ++ ⟨rest, g⟩ :: after ∧
      before.map Underway.rest = earlier ∧ after.map Underway.rest = later := by
  obtain ⟨before, c, after, rfl, rfl, hbefore, hafter⟩ :=
    exists_place (h.cycles.symm.trans hcycles)
  exact ⟨before, c.standing, after, rfl, hbefore, hafter⟩

/-- The next question of a cycle is allowed. -/
theorem allows {q : Question} {next : Answer q → Remainder} {g : Standing}
    (h : Orderly s (before ++ ⟨.ask q next, g⟩ :: after)) : conduct.allows g q :=
  (h.obeys ⟨.ask q next, g⟩ List.mem_append_cons_self).1

/-- What a cycle is told is what it can expect. -/
theorem expects (g : Standing) (now : Int64) (load : Except Database.Error Nat) (q : Question)
    (s : System) : conduct.expects g q (s.answer im now load q).1 := by
  cases q with
  | list status =>
    intro job hjob
    obtain ⟨listed, hlisted, himport⟩ := List.mem_filterMap.1 hjob
    obtain ⟨-, hadmits⟩ := Store.Memory.mem_list.1 hlisted
    cases listed with
    | exporting e => cases himport
    | importing j =>
      cases himport
      exact (admits_listing.1 hadmits).2
  | store job => exact ⟨⟨rfl, rfl, rfl⟩, rfl⟩
  | isTaken _ | countQueries _ | takePermit | returnPermit | claim _ | release _ | spawn _ _ =>
    trivial

theorem held_next (g : Standing) (q : Question) (a : Answer q) :
    (conduct.next g q a).held = heldAfter g.held q a := by
  cases q with
  | list | store =>
    cases a with
    | ok => rfl
    | error => rfl
  | claim => cases a <;> rfl
  | isTaken | countQueries | takePermit | returnPermit | release | spawn => rfl

theorem due_of_allows {g : Standing} {q : Question} (h : conduct.allows g q) : Due g.held q := by
  cases q with
  | claim | release => exact h
  | spawn => exact h.2.2.1
  | list | isTaken | countQueries | takePermit | returnPermit | store => trivial

/-- What a cycle is told in a system with its store is what it may be told. -/
theorem told_answer (now : Int64) (load : Except Database.Error Nat) (q : Question) :
    Told im s.state q (s.answer im now load q).1 (s.answer im now load q).2.state := by
  cases q with
  | list status => exact .list _
  | isTaken t => exact .isTaken t
  | countQueries c => exact .countQueries load
  | takePermit => exact .takePermit
  | returnPermit => exact .returnPermit
  | claim t => exact .claim t
  | release t => exact .release t
  | store job =>
    exact .store (answered_trace (Store.Memory.answer (fun _ => .ok none) now "") _ s.memory)
  | spawn job t => exact .spawn job t

/-- The targets stay guarded when a cycle is answered. -/
theorem guarded_answer {g : Standing} (now : Int64) (load : Except Database.Error Nat)
    {q : Question} {rest rest' : Remainder}
    (hallows : conduct.allows g q)
    (h : Guarded (holdings s.state.runs (before ++ ⟨rest, g⟩ :: after)) s.state.taken) :
    Guarded
      (holdings (s.answer im now load q).2.state.runs
        (before ++ ⟨rest', conduct.next g q (s.answer im now load q).1⟩ :: after))
      (s.answer im now load q).2.state.taken := by
  rw [Guarded.congr (holdings_middle _ _ _ _)] at h ⊢
  rw [Underway.held, held_next]
  exact h.told (told_answer now load q) (due_of_allows hallows)

theorem ask {q : Question} {next : Answer q → Remainder} {g : Standing}
    (now : Int64) (load : Except Database.Error Nat)
    (h : Orderly s (before ++ ⟨.ask q next, g⟩ :: after)) :
    Orderly
      { (s.answer im now load q).2 with
        cycles := before.map Underway.rest ++ next (s.answer im now load q).1 ::
          after.map Underway.rest }
      (before ++ ⟨next (s.answer im now load q).1,
        conduct.next g q (s.answer im now load q).1⟩ :: after) := by
  obtain ⟨hallows, hnext⟩ := h.obeys ⟨.ask q next, g⟩ List.mem_append_cons_self
  refine ⟨by rw [List.map_append, List.map_cons], ?_, guarded_answer now load hallows h.guarded⟩
  exact forall_mem_replace h.obeys (hnext _ (expects g now load q s))

theorem leave {r : Except Store.Error Nat} {g : Standing}
    (h : Orderly s (before ++ ⟨.done r, g⟩ :: after)) :
    Orderly { s with cycles := before.map Underway.rest ++ after.map Underway.rest }
      (before ++ after) := by
  have hnone : g.held = none := h.obeys ⟨.done r, g⟩ List.mem_append_cons_self
  have hguarded := Guarded.cycle_iff.1 h.guarded
  rw [Underway.held, hnone] at hguarded
  exact ⟨List.map_append.symm, forall_mem_remove h.obeys, hguarded⟩

theorem work {earlier later : List Run} {r : Run} (rest : Import.Action ImportJob)
    (memory : Store.Memory) (hruns : s.state.runs = earlier ++ r :: later) (h : Orderly s cs) :
    Orderly
      { s with
        memory := memory
        state := { s.state with runs := earlier ++ { r with rest := rest } :: later } } cs := by
  have hguarded := h.guarded
  rw [hruns, Guarded.run_iff] at hguarded
  exact ⟨h.cycles, h.obeys, Guarded.run_iff.2 hguarded⟩

theorem finish {earlier later : List Run} {r : Run}
    (hruns : s.state.runs = earlier ++ r :: later) (h : Orderly s cs) :
    Orderly { s with state := { s.state.finish r with runs := earlier ++ later } } cs := by
  have hguarded := h.guarded
  rw [hruns, Guarded.run_iff] at hguarded
  exact ⟨h.cycles, h.obeys, hguarded.release⟩

/-- An import does not run while a cycle holds its target. -/
theorem not_running_of_held {c : Underway} {t : Target} (h : Orderly s cs) (hc : c ∈ cs)
    (hheld : c.held = some t) {r : Run} (hr : r ∈ s.state.runs) : r.target ≠ t := by
  obtain ⟨-, -, hapart⟩ := List.nodup_append.1 h.guarded.nodup
  exact hapart _ (List.mem_map_of_mem hr) t (List.mem_filterMap.2 ⟨c, hc, hheld⟩)

/-- Two imports that run have different targets. -/
theorem ne_of_running {earlier later : List Run} {r r' : Run}
    (hruns : s.state.runs = earlier ++ r :: later) (h : Orderly s cs)
    (hr' : r' ∈ earlier ++ later) : r'.target ≠ r.target := by
  have hguarded := h.guarded
  rw [hruns, Guarded.run_iff] at hguarded
  intro heq
  refine (List.nodup_cons.1 hguarded.nodup).1 (List.mem_append_left _ ?_)
  exact heq ▸ List.mem_map_of_mem hr'

end Orderly

end BulkImport.Scheduler
