import BulkImport.Proofs.Scheduler.Exclusion

/-!
# What the stored imports are accounted for

As long as no cycle works on an import that has ended by then (`Move.Fresh`), every import that was
handed over either runs or is stored as one that has ended, and the imports that the cycles know
and that have not been handed over are stored as queued or waiting (`Accounted`).  Every turn that
is fresh keeps it so (`Accounted.turn`).
-/

namespace BulkImport.Scheduler

open BulkImport.Job BulkImport.Program
open BulkImport.Import (SameTarget)

/-- An import that a cycle knows is stored with its target, and as one that is queued or waiting
unless it was handed over. -/
def Known (m : Store.Memory) (ids : List String) (job : ImportJob) : Prop :=
  ∃ stored, m.find? job.id = some (.importing stored) ∧ SameTarget job stored ∧
    (stored.status = .queued ∨ stored.status = .waiting ∨ job.id ∈ ids)

/-- An import that runs was handed over with its target, is stored with it, and will record its end
unless it is stored as one that has ended. -/
structure Running (m : Store.Memory) (ids : List String) (r : Run) : Prop where
  target : Target.ofJob? r.job = some r.target
  handed : r.job.id ∈ ids
  stored : ∃ stored, m.find? r.job.id = some (.importing stored) ∧ SameTarget r.job stored ∧
    Obeys (recording r.job) (fun ended _ => ended = true) stored.status.isFinal r.rest

/-- The stored imports are accounted for, where these are the names that were handed over. -/
structure Accounted (s : System) (cs : List Underway) (ids : List String) : Prop where
  orderly : Orderly s cs
  named : Named s.memory
  known : ∀ c ∈ cs, ∀ job ∈ c.standing.known, Known s.memory ids job
  running : ∀ r ∈ s.state.runs, Running s.memory ids r
  handed : ∀ id ∈ ids, StoredFinal s.memory id ∨ ∃ r ∈ s.state.runs, r.job.id = id

/-! ### Writing to the store -/

/-- One store is the other with the import of a name written again. -/
structure Rewrites (m m' : Store.Memory) (stored written : ImportJob) : Prop where
  before : m.find? written.id = some (.importing stored)
  sameTarget : SameTarget stored written
  after : m' = m.replace (.importing written)

namespace Rewrites

variable {m m' : Store.Memory} {stored written job : ImportJob} {ids : List String}

theorem find? (h : Rewrites m m' stored written) (id : String) :
    m'.find? id = if id = written.id then some (.importing written) else m.find? id := by
  rw [h.after]
  exact Store.Memory.find?_replace m _ id

theorem find?_self (h : Rewrites m m' stored written) :
    m'.find? written.id = some (.importing written) := by
  rw [h.find?, if_pos rfl]

theorem find?_of_ne (h : Rewrites m m' stored written) {id : String} (hid : id ≠ written.id) :
    m'.find? id = m.find? id := by
  rw [h.find?, if_neg hid]

theorem named (h : Rewrites m m' stored written) (hnamed : Named m) : Named m' :=
  h.after ▸ hnamed.replace _

theorem storedFinal_iff (h : Rewrites m m' stored written) {id : String} (hid : id ≠ written.id) :
    StoredFinal m' id ↔ StoredFinal m id := by
  unfold StoredFinal
  rw [h.find?_of_ne hid]

theorem known (h : Rewrites m m' stored written)
    (hwritten : written.status = .queued ∨ written.id ∈ ids) (hjob : Known m ids job) :
    Known m' ids job := by
  obtain ⟨old, hold, htarget, hopen⟩ := hjob
  by_cases hid : job.id = written.id
  · rw [hid, h.before] at hold
    cases hold
    refine ⟨written, hid ▸ h.find?_self, htarget.trans h.sameTarget, ?_⟩
    rcases hwritten with hqueued | hhanded
    · exact .inl hqueued
    · exact .inr (.inr (hid ▸ hhanded))
  · exact ⟨old, (h.find?_of_ne hid).trans hold, htarget, hopen⟩

theorem running (h : Rewrites m m' stored written) {r : Run} (hid : r.job.id ≠ written.id)
    (hr : Running m ids r) : Running m' ids r := by
  obtain ⟨old, hold, hstored⟩ := hr.stored
  exact ⟨hr.target, hr.handed, old, (h.find?_of_ne hid).trans hold, hstored⟩

/-- No final status changes where the name is not stored with one. -/
theorem finalKept (h : Rewrites m m' stored written) (hopen : ¬ StoredFinal m written.id) :
    FinalKept m m' := by
  intro id job hjob hfinal
  by_cases hid : id = written.id
  · subst hid
    exact absurd ⟨job, hjob, hfinal⟩ hopen
  · exact ⟨job, (h.find?_of_ne hid).trans hjob, rfl⟩

theorem not_finalKept (h : Rewrites m m' stored written) (hfinal : StoredFinal m written.id)
    (hwritten : written.status.isFinal = false) : ¬ FinalKept m m' := by
  intro hkept
  obtain ⟨job, hjob, hended⟩ := hfinal
  obtain ⟨job', hjob', hstatus⟩ := hkept _ job hjob hended
  rw [h.find?_self] at hjob'
  cases hjob'
  have hsame : written.status = job.status := hstatus
  rw [hsame, hended] at hwritten
  cases hwritten

end Rewrites

/-! ### More names -/

theorem Known.mono {m : Store.Memory} {ids ids' : List String} {job : ImportJob}
    (h : Known m ids job) (hids : ∀ id ∈ ids, id ∈ ids') : Known m ids' job := by
  obtain ⟨stored, hstored, hsame, hopen⟩ := h
  exact ⟨stored, hstored, hsame, hopen.imp_right (Or.imp_right (hids _))⟩

theorem Running.mono {m : Store.Memory} {ids ids' : List String} {r : Run}
    (h : Running m ids r) (hids : ∀ id ∈ ids, id ∈ ids') : Running m ids' r :=
  ⟨h.target, hids _ h.handed, h.stored⟩

/-! ### What has ended -/

theorem isFinal_of_open {status : Status} (h : status = .queued ∨ status = .waiting) :
    status.isFinal = false := by
  rcases h with rfl | rfl <;> rfl

/-- What a cycle knows is stored as ended only if it was handed over. -/
theorem Known.handed_of_final {m : Store.Memory} {ids : List String} {job : ImportJob}
    (h : Known m ids job) (hfinal : StoredFinal m job.id) : job.id ∈ ids := by
  obtain ⟨stored, hstored, -, hopen⟩ := h
  obtain ⟨final, hfinal, hended⟩ := hfinal
  rw [hstored] at hfinal
  cases hfinal
  rcases or_assoc.2 hopen with hopen | hid
  · exact absurd (hended.symm.trans (isFinal_of_open hopen)) (by decide)
  · exact hid

/-! ### Imports of one name -/

/-- An import that runs has the target with which its name is stored. -/
theorem Running.ofJob? {m : Store.Memory} {ids : List String} {r : Run} {stored : ImportJob}
    (h : Running m ids r) (hstored : m.find? r.job.id = some (.importing stored)) :
    Target.ofJob? stored = some r.target := by
  obtain ⟨stored', hstored', hsame, -⟩ := h.stored
  rw [hstored] at hstored'
  cases hstored'
  exact (ofJob?_congr hsame).trans h.target

/-- What a question of an import that runs does to the store: nothing, or its job is stored again,
which has not ended yet. -/
theorem Running.asked {m : Store.Memory} {ids : List String} {r : Run} {q : Import.Question}
    {next : Import.Answer q → Import.Action ImportJob} (h : Running m ids r)
    (hrest : r.rest = .ask q next) (now : Int64) (a : Import.Answer q) :
    Running (System.noted now q m) ids { r with rest := next a } ∧
      (System.noted now q m = m ∨
        ∃ stored written, Rewrites m (System.noted now q m) stored written ∧
          written.id = r.job.id ∧ ¬ StoredFinal m written.id) := by
  obtain ⟨stored, hstored, hsame, hobeys⟩ := h.stored
  rw [hrest] at hobeys
  obtain ⟨hallows, hnext⟩ := hobeys
  have hrun := hnext a trivial
  -- only a record writes to the store, and the protocol allows it as long as the job is open
  cases q with
  | record j =>
    obtain ⟨hopen, hj⟩ := hallows
    have hrewrites : Rewrites m (System.noted now (.record j) m) stored
        { j with updatedAt := now } := by
      refine ⟨?_, ⟨?_, ?_, ?_⟩, rfl⟩
      · rw [← hstored, ← hj.id]
      · exact hj.id.trans hsame.id.symm
      · exact hj.connector.trans hsame.connector.symm
      · exact hj.table.trans hsame.table.symm
    refine ⟨⟨h.target, h.handed, { j with updatedAt := now }, ?_, ⟨hj.id, hj.connector, hj.table⟩,
      hrun⟩, .inr
      ⟨stored, { j with updatedAt := now }, hrewrites, hj.id, ?_⟩⟩
    · exact hj.id ▸ hrewrites.find?_self
    · rintro ⟨job, hjob, hfinal⟩
      rw [hrewrites.before] at hjob
      cases hjob
      exact absurd (hopen.symm.trans hfinal) (by decide)
  | connect _ | execute _ _ | executeAll _ _ | fetchInteger _ _ | fetchTexts _ _ | inspect _ _
      | now =>
    exact ⟨⟨h.target, h.handed, stored, hstored, hsame, hrun⟩, .inl rfl⟩

namespace Accounted

variable {s : System} {cs : List Underway} {ids : List String}

/-- An import does not run while a cycle holds its target. -/
theorem not_running {c : Underway} {t : Target} {job : ImportJob} (h : Accounted s cs ids)
    (hc : c ∈ cs) (hheld : c.held = some t) (hjob : job ∈ c.standing.known)
    (htarget : Target.ofJob? job = some t) {r : Run} (hr : r ∈ s.state.runs) :
    r.job.id ≠ job.id := by
  intro hid
  obtain ⟨stored, hstored, hsame, -⟩ := h.known c hc job hjob
  refine h.orderly.not_running_of_held hc hheld hr (Option.some.inj ?_)
  rw [← (h.running r hr).ofJob? (hid ▸ hstored), ofJob?_congr hsame, htarget]

/-- Two imports that run have different names. -/
theorem ne_of_running {earlier later : List Run} {r r' : Run} (h : Accounted s cs ids)
    (hruns : s.state.runs = earlier ++ r :: later) (hr' : r' ∈ earlier ++ later) :
    r'.job.id ≠ r.job.id := by
  intro hid
  have hr : r ∈ s.state.runs := hruns ▸ List.mem_append_cons_self
  have hrunning := forall_mem_remove (hruns ▸ h.running)
  obtain ⟨stored, hstored, -⟩ := (h.running r hr).stored
  refine h.orderly.ne_of_running hruns hr' (Option.some.inj ?_)
  rw [← (hrunning r' hr').ofJob? (hid ▸ hstored), (h.running r hr).ofJob? hstored]

/-- An import that a cycle is about to store or to spawn was not handed over, unless it has
ended. -/
theorem not_handed {c : Underway} {t : Target} {job : ImportJob} (h : Accounted s cs ids)
    (hc : c ∈ cs) (hheld : c.held = some t) (hjob : job ∈ c.standing.known)
    (htarget : Target.ofJob? job = some t) (hopen : ¬ StoredFinal s.memory job.id) :
    job.id ∉ ids := by
  intro hid
  rcases h.handed _ hid with hfinal | ⟨r, hr, hname⟩
  · exact hopen hfinal
  · exact h.not_running hc hheld hjob htarget hr hname

/-! ### Turns -/

variable {im : Import.Importer} {maxQueries : Nat} {before after : List Underway}

theorem initial (hnamed : Named s.memory) (hrest : s.AtRest) : Accounted s [] [] where
  orderly := .initial hrest
  named := hnamed
  known _ hc := absurd hc List.not_mem_nil
  running _ hr := absurd (hrest.runs ▸ hr) List.not_mem_nil
  handed _ hid := absurd hid List.not_mem_nil

theorem begin (h : Accounted s cs ids) :
    Accounted { s with cycles := s.cycles ++ [cycle maxQueries] }
      (cs ++ [⟨cycle maxQueries, {}⟩]) ids where
  orderly := h.orderly.begin
  named := h.named
  known := by
    intro c hc job hjob
    rcases List.mem_append.1 hc with hc | hc
    · exact h.known c hc job hjob
    · obtain rfl := List.mem_singleton.1 hc
      cases hjob
  running := h.running
  handed := h.handed

theorem leave {r : Except Store.Error Nat} {g : Standing}
    (h : Accounted s (before ++ ⟨.done r, g⟩ :: after) ids) :
    Accounted { s with cycles := before.map Underway.rest ++ after.map Underway.rest }
      (before ++ after) ids where
  orderly := h.orderly.leave
  named := h.named
  known := forall_mem_remove h.known
  running := h.running
  handed := h.handed

/-- A cycle is answered that neither stores nor spawns anything. -/
theorem answered {s' : System} {rest rest' : Remainder} {g g' : Standing}
    (h : Accounted s (before ++ ⟨rest, g⟩ :: after) ids)
    (horderly : Orderly s' (before ++ ⟨rest', g'⟩ :: after)) (hmemory : s'.memory = s.memory)
    (hruns : s'.state.runs = s.state.runs) (hknown : ∀ job ∈ g'.known, Known s.memory ids job) :
    Accounted s' (before ++ ⟨rest', g'⟩ :: after) ids := by
  refine ⟨horderly, ?_, ?_, ?_, ?_⟩
  · exact hmemory ▸ h.named
  · rw [hmemory]
    exact forall_mem_replace h.known hknown
  · rw [hmemory, hruns]
    exact h.running
  · rw [hmemory, hruns]
    exact h.handed

/-- What a listing gives is stored like that. -/
theorem known_of_listed {job : ImportJob} {status : Status} (h : Accounted s cs ids)
    (hstatus : status = .queued ∨ status = .waiting)
    (hjob : job ∈ (s.memory.list { kind := some .importing, status := some status }).filterMap
      Job.import?) (hlisted : job.status = status) : Known s.memory ids job := by
  obtain ⟨listed, hmem, himport⟩ := List.mem_filterMap.1 hjob
  obtain ⟨⟨id, hfind⟩, -⟩ := Store.Memory.mem_list.1 hmem
  cases listed with
  | exporting e => cases himport
  | importing j =>
    cases himport
    have hid : job.id = id := h.named id _ hfind
    refine ⟨job, hid ▸ hfind, .refl job, ?_⟩
    rcases hstatus with hqueued | hwaiting
    · exact .inl (hlisted.trans hqueued)
    · exact .inr (.inl (hlisted.trans hwaiting))

/-- What a cycle stores is stored in place of the same import. -/
theorem rewrites {job : ImportJob} {next : Except Store.Error ImportJob → Remainder}
    {g : Standing} (now : Int64)
    (h : Accounted s (before ++ ⟨.ask (.store job) next, g⟩ :: after) ids) :
    ∃ stored, Rewrites s.memory (s.memory.replace (.importing { job with updatedAt := now }))
      stored { job with updatedAt := now } := by
  obtain ⟨-, ⟨j, hj, hsame⟩, -⟩ := h.orderly.allows
  obtain ⟨stored, hstored, hjstored, -⟩ :=
    h.known ⟨.ask (.store job) next, g⟩ List.mem_append_cons_self j hj
  refine ⟨stored, hsame.id ▸ hstored, ⟨?_, ?_, ?_⟩, rfl⟩
  · exact hsame.id.trans hjstored.id.symm
  · exact hsame.connector.trans hjstored.connector.symm
  · exact hsame.table.trans hjstored.table.symm

/-- A cycle stores an import that has not ended. -/
theorem store {job : ImportJob} {next : Except Store.Error ImportJob → Remainder}
    {g : Standing} (now : Int64) (load : Except Database.Error Nat)
    (h : Accounted s (before ++ ⟨.ask (.store job) next, g⟩ :: after) ids)
    (hopen : ¬ StoredFinal s.memory job.id) :
    Accounted
      { (s.answer im now load (.store job)).2 with
        cycles := before.map Underway.rest ++ next (s.answer im now load (.store job)).1 ::
          after.map Underway.rest }
      (before ++ ⟨next (s.answer im now load (.store job)).1,
        conduct.next g (.store job) (s.answer im now load (.store job)).1⟩ :: after) ids := by
  have hc : Underway.mk (.ask (.store job) next) g ∈
      before ++ ⟨.ask (.store job) next, g⟩ :: after := List.mem_append_cons_self
  obtain ⟨hqueued, ⟨j, hj, hsame⟩, t, hheld, htarget⟩ := h.orderly.allows
  rw [ofJob?_congr hsame] at htarget
  obtain ⟨stored, hrewrites⟩ := h.rewrites now
  refine ⟨h.orderly.ask now load, hrewrites.named h.named, ?_, ?_, ?_⟩
  · refine forall_mem_replace (fun c hc k hk =>
      hrewrites.known (.inl hqueued) (h.known c hc k hk)) fun k hk => ?_
    rcases List.mem_cons.1 hk with rfl | hk
    · exact ⟨_, hrewrites.find?_self, .refl _, .inl hqueued⟩
    · exact hrewrites.known (.inl hqueued) (h.known _ hc k hk)
  · intro r hr
    exact hrewrites.running (hsame.id ▸ h.not_running hc hheld hj htarget hr) (h.running r hr)
  · intro id hid
    -- what is stored again was not handed over
    have hne : id ≠ job.id := by
      rintro rfl
      exact h.not_handed hc hheld hj htarget (hsame.id ▸ hopen) (hsame.id ▸ hid)
    exact (h.handed id hid).imp_left (hrewrites.storedFinal_iff hne).2

/-- A cycle spawns an import that has not ended. -/
theorem spawn {job : ImportJob} {t : Target} {next : Unit → Remainder}
    {g : Standing} (now : Int64) (load : Except Database.Error Nat)
    (h : Accounted s (before ++ ⟨.ask (.spawn job t) next, g⟩ :: after) ids)
    (hopen : ¬ StoredFinal s.memory job.id) :
    Accounted
      { (s.answer im now load (.spawn job t)).2 with
        cycles := before.map Underway.rest ++ next (s.answer im now load (.spawn job t)).1 ::
          after.map Underway.rest }
      (before ++ ⟨next (s.answer im now load (.spawn job t)).1,
        conduct.next g (.spawn job t) (s.answer im now load (.spawn job t)).1⟩ :: after)
      (job.id :: ids) := by
  have hc : Underway.mk (.ask (.spawn job t) next) g ∈
      before ++ ⟨.ask (.spawn job t) next, g⟩ :: after := List.mem_append_cons_self
  have hmore : ∀ id ∈ ids, id ∈ job.id :: ids := fun id hid => List.mem_cons_of_mem _ hid
  obtain ⟨hqueued, hjob, -, htarget⟩ := h.orderly.allows
  have hknown := fun c hc k hk => (h.known c hc k hk).mono hmore
  refine ⟨h.orderly.ask now load, h.named, ?_, ?_, ?_⟩
  · exact forall_mem_replace hknown (hknown ⟨.ask (.spawn job t) next, g⟩ hc)
  · have hrunning : ∀ r ∈ s.state.runs, Running s.memory (job.id :: ids) r :=
      fun r hr => (h.running r hr).mono hmore
    refine List.forall_mem_append.2 ⟨hrunning, List.forall_mem_singleton.2 ?_⟩
    obtain ⟨stored, hstored, hsame, -⟩ := h.known _ hc job hjob
    refine ⟨htarget, List.mem_cons_self, stored, hstored, hsame, ?_⟩
    cases hfinal : stored.status.isFinal with
    | true => exact absurd ⟨_, hstored, hfinal⟩ hopen
    | false => exact obeys_run im (by rw [hqueued]; rfl)
  · intro id hid
    rcases List.mem_cons.1 hid with rfl | hid
    · exact .inr ⟨_, List.mem_append_right _ List.mem_cons_self, rfl⟩
    · rcases h.handed id hid with hfinal | ⟨r, hr, hname⟩
      · exact .inl hfinal
      · exact .inr ⟨r, List.mem_append_left _ hr, hname⟩

/-- A cycle is answered, and what it stores or spawns has not ended. -/
theorem ask {s' : System} {q : Question} {next : Answer q → Remainder}
    {g : Standing} (now : Int64) (load : Except Database.Error Nat)
    (h : Accounted s (before ++ ⟨.ask q next, g⟩ :: after) ids)
    (hfresh : Move.Fresh ⟨s, .asked q (s.answer im now load q).1, s'⟩) :
    Accounted
      { (s.answer im now load q).2 with
        cycles := before.map Underway.rest ++ next (s.answer im now load q).1 ::
          after.map Underway.rest }
      (before ++ ⟨next (s.answer im now load q).1,
        conduct.next g q (s.answer im now load q).1⟩ :: after)
      ((Event.asked q (s.answer im now load q).1).handed?.toList ++ ids) := by
  have horderly := @Orderly.ask im s before after q next g now load h.orderly
  have hknown := h.known ⟨.ask q next, g⟩ List.mem_append_cons_self
  cases q with
  | list status =>
    refine h.answered horderly rfl rfl fun job hjob => ?_
    rcases List.mem_append.1 hjob with hjob | hjob
    · exact h.known_of_listed h.orderly.allows hjob
        (@Orderly.expects im g now load (.list status) s job hjob)
    · exact hknown job hjob
  | store job => exact h.store now load hfresh
  | spawn job t => exact h.spawn now load hfresh
  | claim t =>
    refine h.answered horderly rfl (State.claim_runs s.state t) ?_
    rw [known_next_claim]
    exact hknown
  | takePermit => exact h.answered horderly rfl (State.takePermit_runs s.state) hknown
  | isTaken _ | countQueries _ | returnPermit | release _ =>
    exact h.answered horderly rfl rfl hknown

/-- An import that runs is answered. -/
theorem work {earlier later : List Run} {r : Run} {q : Import.Question}
    {next : Import.Answer q → Import.Action ImportJob} (now : Int64) (a : Import.Answer q)
    (hruns : s.state.runs = earlier ++ r :: later) (hrest : r.rest = .ask q next)
    (h : Accounted s cs ids) :
    Accounted
      { s with
        memory := System.noted now q s.memory
        state := { s.state with runs := earlier ++ { r with rest := next a } :: later } }
      cs ids := by
  have hr : r ∈ s.state.runs := hruns ▸ List.mem_append_cons_self
  have hothers := forall_mem_remove (hruns ▸ h.running)
  obtain ⟨hself, hwritten⟩ := (h.running r hr).asked hrest now a
  -- the store is the same, or has the job of this run written again
  generalize System.noted now q s.memory = memory at hself hwritten ⊢
  have hrunning : ∀ r' ∈ earlier ++ later, Running memory ids r' := by
    intro r' hr'
    rcases hwritten with rfl | ⟨stored, written, hrewrites, hid, -⟩
    · exact hothers r' hr'
    · exact hrewrites.running (hid ▸ h.ne_of_running hruns hr') (hothers r' hr')
  refine ⟨h.orderly.work _ _ hruns, ?_, ?_, ?_, ?_⟩
  · rcases hwritten with rfl | ⟨stored, written, hrewrites, -, -⟩
    · exact h.named
    · exact hrewrites.named h.named
  · intro c hc job hjob
    rcases hwritten with rfl | ⟨stored, written, hrewrites, hid, -⟩
    · exact h.known c hc job hjob
    · exact hrewrites.known (.inr (hid ▸ (h.running r hr).handed)) (h.known c hc job hjob)
  · rw [List.forall_mem_append] at hrunning
    exact List.forall_mem_append.2 ⟨hrunning.1, List.forall_mem_cons.2 ⟨hself, hrunning.2⟩⟩
  · intro id hid
    by_cases hname : id = r.job.id
    · exact .inr ⟨{ r with rest := next a }, List.mem_append_cons_self, hname.symm⟩
    · rcases h.handed id hid with hfinal | ⟨r', hr', hid'⟩
      · refine .inl ?_
        rcases hwritten with rfl | ⟨stored, written, hrewrites, hwrittenId, -⟩
        · exact hfinal
        · exact (hrewrites.storedFinal_iff (hwrittenId ▸ hname)).2 hfinal
      · rw [hruns, List.mem_append, List.mem_cons] at hr'
        rcases hr' with hr' | rfl | hr'
        · exact .inr ⟨r', List.mem_append_left _ hr', hid'⟩
        · exact absurd hid'.symm hname
        · exact .inr ⟨r', List.mem_append_right _ (List.mem_cons_of_mem _ hr'), hid'⟩

/-- A run that has come to its end is stored as one that has ended. -/
theorem finish {earlier later : List Run} {r : Run} {result : ImportJob}
    (hruns : s.state.runs = earlier ++ r :: later) (hrest : r.rest = .done result)
    (h : Accounted s cs ids) :
    Accounted { s with state := { s.state.finish r with runs := earlier ++ later } } cs ids where
  orderly := h.orderly.finish hruns
  named := h.named
  known := h.known
  running := forall_mem_remove (hruns ▸ h.running)
  handed := by
    intro id hid
    rcases h.handed id hid with hfinal | ⟨r', hr', rfl⟩
    · exact .inl hfinal
    · rw [hruns, List.mem_append, List.mem_cons] at hr'
      rcases hr' with hr' | rfl | hr'
      · exact .inr ⟨r', List.mem_append_left _ hr', rfl⟩
      · have hr : r' ∈ s.state.runs := hruns ▸ List.mem_append_cons_self
        obtain ⟨stored, hstored, -, hobeys⟩ := (h.running r' hr).stored
        rw [hrest] at hobeys
        exact .inl ⟨_, hstored, hobeys⟩
      · exact .inr ⟨r', List.mem_append_right _ hr', rfl⟩

/-- The imports are still accounted for after a turn in which no cycle works on one that has
ended. -/
theorem turn {e : Event} {s' : System} (hstep : Step im maxQueries s e s')
    (hfresh : Move.Fresh ⟨s, e, s'⟩) (h : Accounted s cs ids) :
    ∃ cs', Accounted s' cs' (e.handed?.toList ++ ids) := by
  cases hstep with
  | begin => exact ⟨_, h.begin⟩
  | @ask before after q next now load hcycles =>
    obtain ⟨before', g, after', rfl, rfl, rfl⟩ := h.orderly.exists_underway hcycles
    exact ⟨_, h.ask now load hfresh⟩
  | @leave before after r hcycles =>
    obtain ⟨before', g, after', rfl, rfl, rfl⟩ := h.orderly.exists_underway hcycles
    exact ⟨_, h.leave⟩
  | work now a hruns hrest => exact ⟨_, h.work now a hruns hrest⟩
  | finish hruns hrest => exact ⟨_, h.finish hruns hrest⟩

/-- What is handed over in a turn in which no cycle works on an import that has ended was not
handed over before. -/
theorem handed_new {e : Event} {s' : System} {id : String} (hstep : Step im maxQueries s e s')
    (hfresh : Move.Fresh ⟨s, e, s'⟩) (hid : e.handed? = some id) (h : Accounted s cs ids) :
    id ∉ ids := by
  cases hstep with
  | @ask before after q next now load hcycles =>
    obtain ⟨before', g, after', rfl, rfl, rfl⟩ := h.orderly.exists_underway hcycles
    cases q with
    | spawn job t =>
      cases hid
      obtain ⟨-, hjob, hheld, htarget⟩ := h.orderly.allows
      exact h.not_handed List.mem_append_cons_self hheld hjob htarget hfresh
    | list _ | store _ | isTaken _ | countQueries _ | takePermit | returnPermit | claim _
        | release _ => cases hid
  | begin | leave _ | work _ _ _ _ | finish _ _ => cases hid

/-- No final status changes in a turn in which no cycle works on an import that has ended. -/
theorem keepsFinal {e : Event} {s' : System} (hstep : Step im maxQueries s e s')
    (hfresh : Move.Fresh ⟨s, e, s'⟩) (h : Accounted s cs ids) : Move.KeepsFinal ⟨s, e, s'⟩ := by
  cases hstep with
  | @ask before after q next now load hcycles =>
    obtain ⟨before', g, after', rfl, rfl, rfl⟩ := h.orderly.exists_underway hcycles
    cases q with
    | store job =>
      obtain ⟨stored, hrewrites⟩ := h.rewrites now
      exact hrewrites.finalKept hfresh
    | list _ | spawn _ _ | isTaken _ | countQueries _ | takePermit | returnPermit | claim _
        | release _ => exact fun id job hjob _ => ⟨job, hjob, rfl⟩
  | @work before after r q next now a hruns hrest =>
    have hr : r ∈ s.state.runs := hruns ▸ List.mem_append_cons_self
    obtain ⟨-, hsame | ⟨stored, written, hrewrites, -, hopen⟩⟩ :=
      (h.running r hr).asked hrest now a
    · exact fun id job hjob _ => ⟨job, (congrArg (·.find? id) hsame).trans hjob, rfl⟩
    · exact hrewrites.finalKept hopen
  | begin | leave _ | finish _ _ => exact fun id job hjob _ => ⟨job, hjob, rfl⟩

/-- Where a cycle works on an import that has ended, a final status changes or the import is handed
over again. -/
theorem of_stale {e : Event} {s' : System} (hstep : Step im maxQueries s e s')
    (hstale : ¬ Move.Fresh ⟨s, e, s'⟩) (h : Accounted s cs ids) :
    ¬ Move.KeepsFinal ⟨s, e, s'⟩ ∨ ∃ id ∈ ids, e.handed? = some id := by
  cases hstep with
  | @ask before after q next now load hcycles =>
    obtain ⟨before', g, after', rfl, rfl, rfl⟩ := h.orderly.exists_underway hcycles
    cases q with
    | store job =>
      obtain ⟨stored, hrewrites⟩ := h.rewrites now
      obtain ⟨hqueued, -⟩ := h.orderly.allows
      have hopen : job.status.isFinal = false := congrArg Status.isFinal hqueued
      exact .inl (hrewrites.not_finalKept (Classical.not_not.1 hstale) hopen)
    | spawn job t =>
      obtain ⟨-, hjob, -⟩ := h.orderly.allows
      have hknown := h.known ⟨.ask (.spawn job t) next, g⟩ List.mem_append_cons_self job hjob
      exact .inr ⟨job.id, hknown.handed_of_final (Classical.not_not.1 hstale), rfl⟩
    | list _ | isTaken _ | countQueries _ | takePermit | returnPermit | claim _ | release _ =>
      exact absurd trivial hstale
  | begin | leave _ | work _ _ _ _ | finish _ _ => exact absurd trivial hstale

end Accounted

end BulkImport.Scheduler
