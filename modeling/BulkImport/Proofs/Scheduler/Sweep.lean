import BulkImport.Proofs.Scheduler.Tour

/-!
# One sweep of the queue

A *sweep* is a cycle that begins where nothing is under way, with all that comes of it until nothing
is under way again (`Sweep`); statements are not counted, so that no connector is found to be busy.

While it lasts, the only stored jobs that change are those that the cycle has spawned and the one
that it is about to spawn, and these could be let run when it began (`Sweeping`, `Sweeping.turn`).
When it has come to its end, the imports that were handed over are stored as ones that have ended,
all other jobs are as they were, and an import was handed over if there was one that could be let
run (`Sweep.swept`).
-/

namespace BulkImport.Scheduler

open BulkImport.Job BulkImport.Program

/-- Nothing is under way. -/
structure System.Idle (s : System) : Prop where
  cycles : s.cycles = []
  runs : s.state.runs = []

/-- A cycle begins, and what comes of it has come to its end before another one begins. -/
inductive Sweep (im : Import.Importer) (s : System) : List Move → System → Prop where
  | intro {s₁ s' : System} {moves : List Move} (hbegin : Step im 0 s .begun s₁)
      (hexec : Execution im 0 s₁ moves s') (halone : ∀ m ∈ moves, m.event ≠ .begun)
      (hidle : s'.Idle) : Sweep im s (⟨s, .begun, s₁⟩ :: moves) s'

/-- A cycle is on its tour, and goes by the target in its custody. -/
structure OnTour (m : Store.Memory) (g : Tour) (c : Underway) : Prop where
  held : c.held = g.custody.target
  custody : Obeys custody (fun g' _ => g' = {}) g.custody c.rest
  touring : Obeys (touring m) (fun g' _ => Toured m g') g c.rest

/-- A sweep is under way that began with these jobs stored and this many permits: the cycle is on
its tour or has ended it, and the stored jobs are as they were apart from those that it touched,
which could be let run. -/
structure Sweeping (m : Store.Memory) (total : Nat) (s : System) (cs : List Underway) (g : Tour) :
    Prop where
  accounted : Accounted s cs g.spawned
  permits : Scheduler.permits s.state g.custody = total
  cycle : (cs = [] ∧ Toured m g) ∨ ∃ c, cs = [c] ∧ OnTour m g c
  nodup : g.spawned.Nodup
  touched : ∀ id, id ∈ g.spawned ∨ g.kept = some id → id ∈ runnable m
  others : ∀ id, id ∉ g.spawned → g.kept ≠ some id → s.memory.find? id = m.find? id

theorem custody_next (m : Store.Memory) (g : Tour) (q : Question) (a : Answer q) :
    ((touring m).next g q a).custody = custody.next g.custody q a := by
  cases q <;> rfl

theorem spawned_next (m : Store.Memory) (g : Tour) (q : Question) (a : Answer q) :
    ((touring m).next g q a).spawned = (Event.asked q a).handed?.toList ++ g.spawned := by
  cases q <;> rfl

namespace Sweeping

variable {im : Import.Importer} {m : Store.Memory} {total : Nat} {s : System}
  {cs : List Underway} {g : Tour} {c : Underway}

theorem initial (hnamed : Named s.memory) (hrest : s.AtRest) :
    Sweeping s.memory s.state.permits { s with cycles := s.cycles ++ [Scheduler.cycle 0] }
      [⟨Scheduler.cycle 0, {}⟩] {} where
  accounted := (Accounted.initial hnamed hrest).begin
  permits := by simp [Scheduler.permits, hrest.runs]
  cycle := .inr ⟨_, rfl, rfl, custody_cycle 0, touring_cycle hnamed⟩
  nodup := .nil
  touched := by simp
  others := fun _ _ _ => rfl

/-- The cycle that is under way is the only one, and is on its tour. -/
theorem onTour (h : Sweeping m total s [c] g) : OnTour m g c := by
  rcases h.cycle with ⟨hnone, -⟩ | ⟨c', hc, htour⟩
  · cases hnone
  · cases hc
    exact htour

/-! ### What the cycle is told -/

theorem memory_eq (h : Sweeping m total s cs g) (hkept : g.kept = none) (hnone : g.spawned = []) :
    s.memory = m := by
  refine Dictionary.ext_find? fun id => h.others id ?_ ?_
  · rw [hnone]
    exact List.not_mem_nil
  · rw [hkept]
    exact nofun

theorem runs_eq_nil (h : Sweeping m total s cs g) (hnone : g.spawned = []) : s.state.runs = [] := by
  refine List.eq_nil_iff_forall_not_mem.2 fun r hr => ?_
  have hhanded := (h.accounted.running r hr).handed
  rw [hnone] at hhanded
  exact List.not_mem_nil hhanded

/-- Nothing is taken before an import is spawned, when the cycle has no target on it. -/
theorem not_taken (h : Sweeping m total s [c] g) (hnone : g.spawned = [])
    (htarget : g.custody.target = none) (t : Target) : t ∉ s.state.taken := by
  have hheld : c.held = none := h.onTour.held.trans htarget
  rw [h.accounted.orderly.guarded.mem_iff, holdings, h.runs_eq_nil hnone]
  simp [hheld]

/-- The cycle is told what it can expect on its tour. -/
theorem expects (htotal : 0 < total) {q : Question} {next : Answer q → Remainder} {g' : Standing}
    (h : Sweeping m total s [⟨.ask q next, g'⟩] g) (now : Int64)
    (load : Except Database.Error Nat) :
    (touring m).expects g q (s.answer im now load q).1 := by
  have hallows := h.onTour.touring.1
  have hcustody := h.onTour.custody.1
  cases q with
  | list status =>
    obtain rfl := h.memory_eq hallows.1 hallows.2
    rfl
  | isTaken t => exact fun hnone => decide_eq_false (h.not_taken hnone hallows t)
  | takePermit =>
    intro hnone
    -- all permits are free
    have hpermits := h.permits
    simp only [Scheduler.permits, h.runs_eq_nil hnone, hcustody.1, List.length_nil,
      Bool.toNat_false, Nat.add_zero] at hpermits
    simp only [System.answer, State.takePermit]
    cases hfree : s.state.permits with
    | zero => omega
    | succ n => rfl
  | claim t =>
    intro hnone
    have hfree := h.not_taken hnone hcustody.2 t
    simp only [System.answer, State.claim, if_neg hfree]
  | store job => exact ⟨_, rfl, rfl⟩
  | countQueries _ | returnPermit | release _ | spawn _ _ => trivial

/-! ### Which jobs it touches -/

/-- An import that the cycle knows and has not touched could be let run when it began, if it has a
target. -/
theorem runnable_of_known {job : ImportJob} {t : Target} (h : Sweeping m total s [c] g)
    (hjob : job ∈ c.standing.known) (hnew : job.id ∉ g.spawned) (hkept : g.kept ≠ some job.id)
    (htarget : Target.ofJob? job = some t) : job.id ∈ runnable m := by
  obtain ⟨stored, hstored, hsame, hopen⟩ := h.accounted.known c List.mem_cons_self job hjob
  rw [h.others job.id hnew hkept] at hstored
  refine mem_runnable.2 ⟨_, hstored, ?_, ?_⟩
  · exact or_assoc.2 hopen |>.resolve_right hnew
  · rw [ofJob?_congr hsame, htarget]
    rfl

/-- The next question of the cycle is allowed. -/
theorem allows {q : Question} {next : Answer q → Remainder} {g' : Standing}
    (h : Sweeping m total s [⟨.ask q next, g'⟩] g) : conduct.allows g' q :=
  @Orderly.allows s [] [] q next g' h.accounted.orderly

theorem runnable_of_store {job : ImportJob} {next : Except Store.Error ImportJob → Remainder}
    {g' : Standing} (h : Sweeping m total s [⟨.ask (.store job) next, g'⟩] g) :
    job.id ∈ runnable m := by
  obtain ⟨hkept, hnew⟩ := h.onTour.touring.1
  obtain ⟨-, ⟨j, hj, hsame⟩, t, -, htarget⟩ := h.allows
  rw [hsame.id] at hnew ⊢
  rw [ofJob?_congr hsame] at htarget
  refine h.runnable_of_known hj hnew ?_ htarget
  rw [hkept]
  exact nofun

theorem runnable_of_spawn {job : ImportJob} {t : Target} {next : Unit → Remainder}
    {g' : Standing} (h : Sweeping m total s [⟨.ask (.spawn job t) next, g'⟩] g) :
    job.id ∈ runnable m := by
  obtain ⟨-, hnew⟩ := h.onTour.touring.1
  obtain ⟨-, hjob, -, htarget⟩ := h.allows
  by_cases hkept : g.kept = some job.id
  · exact h.touched job.id (.inr hkept)
  · exact h.runnable_of_known hjob hnew hkept htarget

/-- The cycle does not work on an import that has ended. -/
theorem fresh {q : Question} {next : Answer q → Remainder} {g' : Standing} {s' : System}
    (h : Sweeping m total s [⟨.ask q next, g'⟩] g) (a : Answer q) :
    Move.Fresh ⟨s, .asked q a, s'⟩ := by
  have hopen : ∀ job ∈ g'.known, job.id ∉ g.spawned → ¬ StoredFinal s.memory job.id :=
    fun job hjob hnew hfinal => hnew
      ((h.accounted.known ⟨.ask q next, g'⟩ List.mem_cons_self job hjob).handed_of_final hfinal)
  cases q with
  | store job =>
    obtain ⟨-, hnew⟩ := h.onTour.touring.1
    obtain ⟨-, ⟨j, hj, hsame⟩, -⟩ := h.allows
    show ¬ StoredFinal s.memory job.id
    rw [hsame.id] at hnew ⊢
    exact hopen j hj hnew
  | spawn job t =>
    obtain ⟨-, hnew⟩ := h.onTour.touring.1
    obtain ⟨-, hjob, -⟩ := h.allows
    exact hopen job hjob hnew
  | list _ | isTaken _ | countQueries _ | takePermit | returnPermit | claim _ | release _ =>
    trivial

theorem nodup_next {q : Question} {next : Answer q → Remainder} {g' : Standing}
    (h : Sweeping m total s [⟨.ask q next, g'⟩] g) (a : Answer q) :
    ((touring m).next g q a).spawned.Nodup := by
  have hallows := h.onTour.touring.1
  cases q with
  | spawn job t => exact List.nodup_cons.2 ⟨hallows.2, h.nodup⟩
  | list _ | isTaken _ | countQueries _ | takePermit | returnPermit | claim _ | release _
      | store _ => exact h.nodup

theorem touched_next {q : Question} {next : Answer q → Remainder} {g' : Standing}
    (h : Sweeping m total s [⟨.ask q next, g'⟩] g) (a : Answer q) (id : String)
    (hid : id ∈ ((touring m).next g q a).spawned ∨ ((touring m).next g q a).kept = some id) :
    id ∈ runnable m := by
  cases q with
  | store job =>
    rcases hid with hid | hid
    · exact h.touched id (.inl hid)
    · cases hid
      exact h.runnable_of_store
  | spawn job t =>
    rcases hid with hid | hid
    · rcases List.mem_cons.1 hid with rfl | hid
      · exact h.runnable_of_spawn
      · exact h.touched id (.inl hid)
    · cases hid
  | list _ | isTaken _ | countQueries _ | takePermit | returnPermit | claim _ | release _ =>
    exact h.touched id hid

/-- What the cycle is answered changes no job but the one that it stores. -/
theorem others_next {q : Question} {next : Answer q → Remainder} {g' : Standing}
    (h : Sweeping m total s [⟨.ask q next, g'⟩] g) (now : Int64)
    (load : Except Database.Error Nat) (a : Answer q) (id : String)
    (hid : id ∉ ((touring m).next g q a).spawned)
    (hkept : ((touring m).next g q a).kept ≠ some id) :
    (s.answer im now load q).2.memory.find? id = m.find? id := by
  have hallows := h.onTour.touring.1
  cases q with
  | store job =>
    have hplace : Accounted s ([] ++ ⟨.ask (.store job) next, g'⟩ :: []) g.spawned := h.accounted
    obtain ⟨stored, hrewrites⟩ := hplace.rewrites now
    have hne : id ≠ job.id := fun heq => hkept (congrArg some heq.symm)
    refine (hrewrites.find?_of_ne hne).trans (h.others id hid ?_)
    rw [hallows.1]
    exact nofun
  | spawn job t =>
    obtain ⟨hne, hnew⟩ := not_or.1 (mt List.mem_cons.2 hid)
    exact h.others id hnew fun hkept => hne (hallows.1 id hkept)
  | list _ | isTaken _ | countQueries _ | takePermit | returnPermit | claim _ | release _ =>
    exact h.others id hid hkept

/-! ### Turns -/

/-- The cycle is answered. -/
theorem ask (htotal : 0 < total) {q : Question} {next : Answer q → Remainder} {g' : Standing}
    (h : Sweeping m total s [⟨.ask q next, g'⟩] g) (now : Int64)
    (load : Except Database.Error Nat) :
    Sweeping m total
      { (s.answer im now load q).2 with cycles := [next (s.answer im now load q).1] }
      [⟨next (s.answer im now load q).1, conduct.next g' q (s.answer im now load q).1⟩]
      ((touring m).next g q (s.answer im now load q).1) := by
  have htold : Told im s.state q _ _ := Orderly.told_answer now load q
  obtain ⟨hcustody, hleft⟩ := h.onTour.custody
  refine ⟨?_, ?_, .inr ⟨_, rfl, ?_, ?_, ?_⟩, h.nodup_next _, h.touched_next _,
    h.others_next now load _⟩
  · have hplace : Accounted s ([] ++ ⟨.ask q next, g'⟩ :: []) g.spawned := h.accounted
    rw [spawned_next]
    exact hplace.ask now load (show Move.Fresh ⟨s, _, s⟩ from h.fresh _)
  · rw [custody_next]
    exact (htold.permits hcustody).trans h.permits
  · rw [custody_next, target_next, ← h.onTour.held]
    exact Orderly.held_next g' q _
  · rw [custody_next]
    exact hleft _ (htold.expected _)
  · exact h.onTour.touring.2 _ (h.expects htotal now load)

/-- The cycle has come to its end. -/
theorem leave {r : Except Store.Error Nat} {g' : Standing}
    (h : Sweeping m total s [⟨.done r, g'⟩] g) :
    Sweeping m total { s with cycles := [] } [] g where
  accounted := by
    have hplace : Accounted s ([] ++ ⟨.done r, g'⟩ :: []) g.spawned := h.accounted
    exact hplace.leave
  permits := h.permits
  cycle := .inl ⟨rfl, h.onTour.touring⟩
  nodup := h.nodup
  touched := h.touched
  others := h.others

/-- An import that runs is answered, and may be recorded. -/
theorem work {earlier later : List Run} {r : Run} {q : Import.Question}
    {next : Import.Answer q → Import.Action ImportJob} (now : Int64) (a : Import.Answer q)
    (hruns : s.state.runs = earlier ++ r :: later) (hrest : r.rest = .ask q next)
    (h : Sweeping m total s cs g) :
    Sweeping m total
      { s with
        memory := System.noted now q s.memory
        state := { s.state with runs := earlier ++ { r with rest := next a } :: later } } cs g where
  accounted := h.accounted.work now a hruns hrest
  permits := by
    rw [← h.permits]
    simp [Scheduler.permits, hruns]
  cycle := h.cycle
  nodup := h.nodup
  touched := h.touched
  others := by
    intro id hid hkept
    have hr := h.accounted.running r (hruns ▸ List.mem_append_cons_self)
    refine Eq.trans ?_ (h.others id hid hkept)
    obtain ⟨-, hsame | ⟨stored, written, hrewrites, hwritten, -⟩⟩ := hr.asked hrest now a
    · exact congrArg (·.find? id) hsame
    · refine hrewrites.find?_of_ne ?_
      rintro rfl
      exact hid (hwritten ▸ hr.handed)

/-- An import has come to its end. -/
theorem finish {earlier later : List Run} {r : Run} {result : ImportJob}
    (hruns : s.state.runs = earlier ++ r :: later) (hrest : r.rest = .done result)
    (h : Sweeping m total s cs g) :
    Sweeping m total { s with state := { s.state.finish r with runs := earlier ++ later } } cs g
    where
  accounted := h.accounted.finish hruns hrest
  permits := by
    rw [← h.permits]
    simp only [Scheduler.permits, hruns, State.finish, State.release, State.returnPermit,
      List.length_append, List.length_cons]
    omega
  cycle := h.cycle
  nodup := h.nodup
  touched := h.touched
  others := h.others

/-- The cycle that is under way in its place among all is the one of the sweep. -/
theorem exists_standing {earlier later : List Remainder} {rest : Remainder}
    (hcycles : s.cycles = earlier ++ rest :: later) (h : Sweeping m total s cs g) :
    ∃ g', cs = [⟨rest, g'⟩] ∧ earlier = [] ∧ later = [] := by
  obtain ⟨before, g', after, rfl, rfl, rfl⟩ := h.accounted.orderly.exists_underway hcycles
  rcases h.cycle with ⟨hnone, -⟩ | ⟨c, hc, -⟩
  · simp at hnone
  · cases before with
    | nil =>
      obtain ⟨-, rfl⟩ := List.cons.inj hc
      exact ⟨g', rfl, rfl, rfl⟩
    | cons c' before => simp at hc

/-- The sweep is still under way after a turn in which no other cycle begins. -/
theorem turn (htotal : 0 < total) {e : Event} {s' : System} (hstep : Step im 0 s e s')
    (he : e ≠ .begun) (h : Sweeping m total s cs g) :
    ∃ cs' g', Sweeping m total s' cs' g' ∧ g'.spawned = e.handed?.toList ++ g.spawned := by
  cases hstep with
  | begin => exact absurd rfl he
  | ask now load hcycles =>
    obtain ⟨g', rfl, rfl, rfl⟩ := h.exists_standing hcycles
    exact ⟨_, _, h.ask htotal now load, spawned_next m g _ _⟩
  | leave hcycles =>
    obtain ⟨g', rfl, rfl, rfl⟩ := h.exists_standing hcycles
    exact ⟨_, _, h.leave, rfl⟩
  | work now a hruns hrest => exact ⟨_, _, h.work now a hruns hrest, rfl⟩
  | finish hruns hrest => exact ⟨_, _, h.finish hruns hrest, rfl⟩

theorem run (htotal : 0 < total) {moves : List Move} {s' : System}
    (hexec : Execution im 0 s moves s') (halone : ∀ m ∈ moves, m.event ≠ .begun)
    (h : Sweeping m total s cs g) :
    ∃ cs' g', Sweeping m total s' cs' g' ∧ g'.spawned.Perm (handed moves ++ g.spawned) := by
  induction hexec generalizing cs g with
  | nil s => exact ⟨cs, g, h, .refl _⟩
  | cons hstep _ ih =>
    rw [List.forall_mem_cons] at halone
    obtain ⟨cs₁, g₁, h₁, hspawned⟩ := h.turn htotal hstep halone.1
    obtain ⟨cs', g', h', hperm⟩ := ih halone.2 h₁
    refine ⟨cs', g', h', hperm.trans ?_⟩
    rw [hspawned, handed_cons, ← List.append_assoc]
    exact List.perm_append_comm.append_right _

end Sweeping

/-! ### What it leaves -/

/-- What turns have done about the queue, from rest to rest: the imports that were handed over could
be let run, were so once and are stored as ones that have ended, and all other jobs are as they
were. -/
structure Swept (s : System) (moves : List Move) (s' : System) : Prop where
  rest : s'.AtRest
  named : Named s'.memory
  permits : s'.state.permits = s.state.permits
  once : (handed moves).Nodup
  runnable : ∀ id ∈ handed moves, id ∈ runnable s.memory
  final : ∀ id ∈ handed moves, StoredFinal s'.memory id
  others : ∀ id, id ∉ handed moves → s'.memory.find? id = s.memory.find? id

/-- What a sweep has done about the queue when it has come to its end. -/
theorem Sweeping.swept {s s' : System} {cs : List Underway} {g : Tour}
    {moves : List Move} (hidle : s'.Idle) (hspawned : g.spawned.Perm (handed moves))
    (h : Sweeping s.memory s.state.permits s' cs g) :
    Swept s moves s' ∧ (runnable s.memory ≠ [] → handed moves ≠ []) := by
  obtain rfl : cs = [] := by
    have hnone := h.accounted.orderly.cycles
    rw [hidle.cycles] at hnone
    exact List.map_eq_nil_iff.1 hnone.symm
  obtain ⟨⟨hcustody, hkept⟩, hsome⟩ : Toured s.memory g := by
    rcases h.cycle with ⟨-, htoured⟩ | ⟨c, hc, -⟩
    · exact htoured
    · cases hc
  have hmem : ∀ id, id ∈ handed moves ↔ id ∈ g.spawned := fun id => hspawned.symm.mem_iff
  refine ⟨⟨⟨hidle.cycles, hidle.runs, ?_⟩, h.accounted.named, ?_, hspawned.nodup h.nodup, ?_, ?_,
    ?_⟩, ?_⟩
  · refine List.eq_nil_iff_forall_not_mem.2 fun t ht => ?_
    have hheld := (h.accounted.orderly.guarded.mem_iff t).1 ht
    rw [holdings, hidle.runs] at hheld
    exact List.not_mem_nil hheld
  · simpa [Scheduler.permits, hidle.runs, hcustody] using h.permits
  · exact fun id hid => h.touched id (.inl ((hmem id).1 hid))
  · intro id hid
    rcases h.accounted.handed id ((hmem id).1 hid) with hfinal | ⟨r, hr, -⟩
    · exact hfinal
    · rw [hidle.runs] at hr
      cases hr
  · intro id hid
    exact h.others id (fun hid' => hid ((hmem id).2 hid')) (by simp [hkept])
  · intro hrunnable hnone
    rw [hnone] at hspawned
    exact hrunnable (hsome hspawned.eq_nil)

/-- From rest a sweep leads to rest again, and lets an import run if there is one that can be. -/
theorem Sweep.swept {im : Import.Importer} {s s' : System} {moves : List Move}
    (hnamed : Named s.memory) (hrest : s.AtRest) (hpermits : 0 < s.state.permits)
    (h : Sweep im s moves s') :
    Swept s moves s' ∧ (Scheduler.runnable s.memory ≠ [] → handed moves ≠ []) := by
  cases h with
  | intro hbegin hexec halone hidle =>
    cases hbegin
    obtain ⟨cs, g, hsweeping, hspawned⟩ :=
      (Sweeping.initial hnamed hrest).run hpermits hexec halone
    rw [List.append_nil] at hspawned
    exact hsweeping.swept hidle hspawned

end BulkImport.Scheduler
