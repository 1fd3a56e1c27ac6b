import BulkImport.Proofs.Import.Calls
import BulkImport.Proofs.Scheduler.Conduct

/-!
# How often a cycle looks at a connector

What a cycle found out about a connector it keeps in mind (`Learnt`), so that it counts the
statements of each connector once at most and goes by that count for all its candidates (`Reviews`).
It looks at a connector only for a candidate whose target it found free, and at none where no number
of statements is set.  A count that fails speaks for nobody's waiting.

This holds of every cycle, whatever it is told (`connectors_sampled_once`): whatever is stored,
whatever is taken, whatever the databases answer, and whatever the imports do meanwhile that run.
-/

namespace BulkImport.Scheduler

open BulkImport.Job BulkImport.Program

/-! ### Samples -/

/-- Whether a connector for which this was counted is busy. -/
def overloaded (maxQueries : Nat) : Except Database.Error Nat → Bool
  | .ok running => decide (maxQueries ≤ running)
  | .error _ => false

theorem overloaded_eq_false_iff {maxQueries : Nat} {sample : Except Database.Error Nat} :
    overloaded maxQueries sample = false ↔
      ∀ running, sample = .ok running → running < maxQueries := by
  cases sample with
  | ok running => simp [overloaded]
  | error e => simp [overloaded]

/-- What an exchange counted for a connector. -/
def sample? (connector : String) : Exchange Question Answer → Option (Except Database.Error Nat)
  | ⟨.countQueries c, running⟩ => if c = connector then some running else none
  | _ => none

/-- What was counted for a connector, in order. -/
def samples (h : List (Exchange Question Answer)) (connector : String) :
    List (Except Database.Error Nat) :=
  h.filterMap (sample? connector)

/-- What is found of a connector in a cycle: that it is not busy, where no number of statements is
set, and otherwise what the count says that was made for it first. -/
def finding (maxQueries : Nat) (h : List (Exchange Question Answer)) (connector : String) :
    Option Bool :=
  if maxQueries = 0 then some false else (samples h connector).head?.map (overloaded maxQueries)

theorem samples_append (h h' : List (Exchange Question Answer)) (connector : String) :
    samples (h ++ h') connector = samples h connector ++ samples h' connector :=
  List.filterMap_append

theorem samples_eq_nil_iff {h : List (Exchange Question Answer)} {connector : String} :
    samples h connector = [] ↔ ∀ running, ⟨.countQueries connector, running⟩ ∉ h := by
  rw [samples, List.filterMap_eq_nil_iff]
  constructor
  · intro hnone running hmem
    simpa [sample?] using hnone _ hmem
  · rintro hnone ⟨q, a⟩ hmem
    cases q with
    | countQueries c =>
      refine if_neg ?_
      rintro rfl
      exact hnone a hmem
    | list _ | isTaken _ | takePermit | returnPermit | claim _ | release _ | store _ | spawn _ _ =>
      rfl

theorem samples_count (c connector : String) (running : Except Database.Error Nat) :
    samples [⟨.countQueries c, running⟩] connector = if c = connector then [running] else [] := by
  by_cases hc : c = connector <;> simp [samples, sample?, hc]

/-! ### What a cycle keeps in mind -/

/-- What is known of connectors is what was found of them. -/
def Agrees (known : List (String × Bool)) (found : String → Option Bool) : Prop :=
  ∀ c busy, known.lookup c = some busy → found c = some busy

theorem Agrees.cons {known : List (String × Bool)} {found : String → Option Bool}
    {connector : String} {busy : Bool} (h : Agrees known found)
    (hconnector : found connector = some busy) : Agrees ((connector, busy) :: known) found := by
  intro c b hb
  rw [Dictionary.lookup_cons] at hb
  split at hb
  · next hc =>
    cases hb
    rwa [hc]
  · exact h c b hb

/-- A cycle knows as much as before, and maybe more. -/
def Recalls (known known' : List (String × Bool)) : Prop :=
  Agrees known fun c => known'.lookup c

theorem Recalls.refl (known : List (String × Bool)) : Recalls known known := fun _ _ hc => hc

theorem Recalls.trans {known known' : List (String × Bool)} {found : String → Option Bool}
    (h : Recalls known known') (h' : Agrees known' found) : Agrees known found :=
  fun c busy hc => h' c busy (h c busy hc)

/-- What a cycle knows of connectors is what it found out by then, and it found out nothing else. -/
structure Learnt (maxQueries : Nat) (past : List (Exchange Question Answer))
    (known : List (String × Bool)) : Prop where
  found : Agrees known (finding maxQueries past)
  unseen : ∀ c, known.lookup c = none → samples past c = []
  once : ∀ c, (samples past c).length ≤ 1
  disabled : maxQueries = 0 → ∀ c, samples past c = []

theorem learnt_nil (maxQueries : Nat) : Learnt maxQueries [] [] :=
  ⟨nofun, fun _ _ => rfl, fun _ => Nat.zero_le 1, fun _ _ => rfl⟩

theorem Learnt.append {maxQueries : Nat} {past h : List (Exchange Question Answer)}
    {known : List (String × Bool)} (hl : Learnt maxQueries past known)
    (hnone : ∀ c, samples h c = []) : Learnt maxQueries (past ++ h) known := by
  have hsame : ∀ c, samples (past ++ h) c = samples past c := fun c => by
    rw [samples_append, hnone, List.append_nil]
  refine ⟨fun c busy hbusy => ?_, fun c hc => ?_, fun c => ?_, fun hoff c => ?_⟩
  · rw [finding, hsame]
    exact hl.found c busy hbusy
  · exact (hsame c).trans (hl.unseen c hc)
  · rw [hsame]
    exact hl.once c
  · exact (hsame c).trans (hl.disabled hoff c)

/-- A cycle looks at a connector once at most. -/
inductive Looks (maxQueries : Nat) (connector : String) :
    List (Exchange Question Answer) → Bool → Prop where
  | disabled (h : maxQueries = 0) : Looks maxQueries connector [] false
  | sampled (h : maxQueries ≠ 0) (running : Except Database.Error Nat) :
      Looks maxQueries connector [⟨.countQueries connector, running⟩]
        (overloaded maxQueries running)

theorem isBusy_looks {maxQueries : Nat} {connector : String}
    {h : List (Exchange Question Answer)} {busy : Bool}
    (hp : Answered (isBusy maxQueries connector) h busy) : Looks maxQueries connector h busy := by
  unfold isBusy at hp
  split at hp
  · next hoff =>
    obtain ⟨rfl, rfl⟩ := answered_pure.1 hp
    exact .disabled hoff
  · next hon =>
    obtain ⟨h₁, h₂, running, rfl, hcount, hrest⟩ := answered_andThen.1 hp
    obtain rfl := answered_query.1 hcount
    cases running with
    | ok | error =>
      obtain ⟨rfl, rfl⟩ := answered_pure.1 hrest
      exact .sampled hon _

/-- A look at a connector of which nothing is known is kept in mind. -/
theorem Learnt.look {maxQueries : Nat} {past h : List (Exchange Question Answer)}
    {known : List (String × Bool)} {connector : String} {busy : Bool}
    (hl : Learnt maxQueries past known) (hnew : known.lookup connector = none)
    (hlooks : Looks maxQueries connector h busy) :
    Learnt maxQueries (past ++ h) ((connector, busy) :: known) := by
  have hunseen : ∀ c, ((connector, busy) :: known).lookup c = none →
      c ≠ connector ∧ known.lookup c = none := fun c hc => by
    rw [Dictionary.lookup_cons] at hc
    split at hc
    · cases hc
    · next hne => exact ⟨hne, hc⟩
  cases hlooks with
  | disabled hoff =>
    rw [List.append_nil]
    exact ⟨hl.found.cons (if_pos hoff), fun c hc => hl.unseen c (hunseen c hc).2, hl.once,
      hl.disabled⟩
  | sampled hon running =>
    have hsamples : ∀ c, samples (past ++ [⟨.countQueries connector, running⟩]) c =
        if connector = c then [running] else samples past c := fun c => by
      rw [samples_append, samples_count]
      split
      · next hc => rw [← hc, hl.unseen connector hnew, List.nil_append]
      · exact List.append_nil _
    refine ⟨Agrees.cons (fun c busy hbusy => ?_) ?_, fun c hc => ?_, fun c => ?_,
      fun hoff => absurd hoff hon⟩
    · -- what was known of other connectors is not touched by the count
      have hne : connector ≠ c := by
        rintro rfl
        rw [hnew] at hbusy
        cases hbusy
      rw [finding, hsamples, if_neg hne]
      exact hl.found c busy hbusy
    · rw [finding, if_neg hon, hsamples, if_pos rfl]
      rfl
    · obtain ⟨hne, hnone⟩ := hunseen c hc
      rw [hsamples, if_neg hne.symm]
      exact hl.unseen c hnone
    · rw [hsamples]
      split
      · exact Nat.le_refl 1
      · exact hl.once c

/-! ### Candidates -/

/-- A cycle looks at a connector, or knows of it already. -/
def Look (connector : String) (h : List (Exchange Question Answer)) : Prop :=
  h = [] ∨ ∃ running, h = [⟨.countQueries connector, running⟩]

theorem Looks.look {maxQueries : Nat} {connector : String} {h : List (Exchange Question Answer)}
    {busy : Bool} (hlooks : Looks maxQueries connector h busy) : Look connector h := by
  cases hlooks with
  | disabled => exact .inl rfl
  | sampled _ running => exact .inr ⟨running, rfl⟩

/-- By a question like this a cycle tries to let an import run that fills the target. -/
def Tries (t : Target) : Question → Prop
  | .claim t' | .release t' | .spawn _ t' => t' = t
  | .store _ | .returnPermit => True
  | _ => False

/-- What a cycle asks about one candidate, by what it finds of the connector: it leaves the
candidate alone where the target is in flight or the connector is busy, and tries to let it run
otherwise. -/
inductive Review (found : String → Option Bool) (job : ImportJob) :
    List (Exchange Question Answer) → Verdict → Prop where
  | targetless (htarget : Target.ofJob? job = none) : Review found job [] .deferred
  | inFlight {t : Target} (htarget : Target.ofJob? job = some t) :
      Review found job [⟨.isTaken t, true⟩] .deferred
  | busy {t : Target} {look : List (Exchange Question Answer)}
      (htarget : Target.ofJob? job = some t) (hlook : Look t.connector look)
      (hbusy : found t.connector = some true) :
      Review found job (⟨.isTaken t, false⟩ :: look) .deferred
  | exhausted {t : Target} {look : List (Exchange Question Answer)}
      (htarget : Target.ofJob? job = some t) (hlook : Look t.connector look)
      (hidle : found t.connector = some false) :
      Review found job (⟨.isTaken t, false⟩ :: (look ++ [⟨.takePermit, false⟩])) .exhausted
  | tried {t : Target} {look trial : List (Exchange Question Answer)} {verdict : Verdict}
      (htarget : Target.ofJob? job = some t) (hlook : Look t.connector look)
      (hidle : found t.connector = some false) (htrial : ∀ e ∈ trial, Tries t e.question)
      (hverdict : verdict ≠ .exhausted) :
      Review found job (⟨.isTaken t, false⟩ :: (look ++ ⟨.takePermit, true⟩ :: trial)) verdict

/-- What a cycle asks about its candidates, one after the other, as long as there are permits. -/
inductive Reviews (found : String → Option Bool) :
    List ImportJob → List (Exchange Question Answer) → Prop where
  | finished : Reviews found [] []
  | exhausted {job : ImportJob} {jobs : List ImportJob} {h : List (Exchange Question Answer)}
      (hfirst : Review found job h .exhausted) : Reviews found (job :: jobs) h
  | next {job : ImportJob} {jobs : List ImportJob} {h h' : List (Exchange Question Answer)}
      {verdict : Verdict} (hfirst : Review found job h verdict) (hverdict : verdict ≠ .exhausted)
      (hrest : Reviews found jobs h') : Reviews found (job :: jobs) (h ++ h')

section

variable {maxQueries : Nat} {past h : List (Exchange Question Answer)}
  {known known' : List (String × Bool)} {job : ImportJob}

theorem Learnt.lookUp {connector : String} {busy : Bool} (hl : Learnt maxQueries past known)
    (hp : Answered (lookUpBusy maxQueries known connector) h (busy, known')) :
    Learnt maxQueries (past ++ h) known' ∧ Recalls known known' ∧
      known'.lookup connector = some busy ∧ Look connector h := by
  unfold lookUpBusy at hp
  split at hp
  · next b hknown =>
    obtain ⟨rfl, hend⟩ := answered_pure.1 hp
    cases hend
    exact ⟨hl.append fun _ => rfl, Recalls.refl _, hknown, .inl rfl⟩
  · next hnew =>
    obtain ⟨h₁, h₂, b, rfl, hbusy, hend⟩ := answered_andThen.1 hp
    obtain ⟨rfl, hend⟩ := answered_pure.1 hend
    cases hend
    have hlooks := isBusy_looks hbusy
    rw [List.append_nil]
    refine ⟨hl.look hnew hlooks, fun c known hc => ?_, List.lookup_cons_self, hlooks.look⟩
    have hne : c ≠ connector := by
      rintro rfl
      rw [hnew] at hc
      cases hc
    exact (Dictionary.lookup_cons ..).trans ((if_neg hne).trans hc)

theorem Tries.samples_eq_nil {t : Target} (htries : ∀ e ∈ h, Tries t e.question) (c : String) :
    samples h c = [] :=
  samples_eq_nil_iff.2 fun _ hmem => htries _ hmem

/-- The protocol of a cycle that tries to let an import run. -/
def trying (t : Target) : Protocol Question Answer Unit where
  allows _ q := Tries t q
  expects _ _ _ := True
  next _ _ _ := ()

theorem trying_enqueue (t : Target) (job : ImportJob) :
    Obeys (trying t) (fun _ _ => True) () (enqueue job) :=
  obeys_enqueue_of (fun _ => trivial) fun _ => ⟨trivial, fun _ _ => trivial⟩

/-- What a cycle asks about a candidate goes by what it knows of the connector by then. -/
theorem Learnt.consider {verdict : Verdict} (hl : Learnt maxQueries past known)
    (hp : Answered (consider maxQueries known job) h (verdict, known')) :
    Learnt maxQueries (past ++ h) known' ∧ Recalls known known' ∧
      ∀ found, Agrees known' found → Review found job h verdict := by
  unfold Scheduler.consider at hp
  cases htarget : Target.ofJob? job with
  | none =>
    rw [htarget] at hp
    obtain ⟨rfl, hend⟩ := answered_pure.1 hp
    cases hend
    exact ⟨hl.append fun _ => rfl, Recalls.refl _, fun _ _ => .targetless htarget⟩
  | some t =>
    rw [htarget] at hp
    obtain ⟨asked, h₁, taken, rfl, htaken, hp₁⟩ := answered_andThen.1 hp
    obtain rfl := answered_query.1 htaken
    have hl₁ := hl.append (h := [⟨.isTaken t, taken⟩]) fun _ => rfl
    cases taken with
    | true =>
      obtain ⟨rfl, hend⟩ := answered_pure.1 hp₁
      cases hend
      exact ⟨hl₁, Recalls.refl _, fun _ _ => .inFlight htarget⟩
    | false =>
      obtain ⟨look, h₂, ⟨busy, looked⟩, rfl, hlooked, hp₂⟩ := answered_andThen.1 hp₁
      obtain ⟨hl₂, hrecalls, hknown, hlook⟩ := hl₁.lookUp hlooked
      cases busy with
      | true =>
        obtain ⟨rfl, hend⟩ := answered_pure.1 hp₂
        cases hend
        refine ⟨by simpa using hl₂, hrecalls, fun found hfound => ?_⟩
        simpa using Review.busy htarget hlook (hfound _ _ hknown)
      | false =>
        obtain ⟨asked, trial, permit, rfl, hpermit, hp₃⟩ := answered_andThen.1 hp₂
        obtain rfl := answered_query.1 hpermit
        have hl₃ := hl₂.append (h := [⟨.takePermit, permit⟩]) fun _ => rfl
        cases permit with
        | false =>
          obtain ⟨rfl, hend⟩ := answered_pure.1 hp₃
          cases hend
          exact ⟨by simpa using hl₃, hrecalls, fun found hfound =>
            .exhausted htarget hlook (hfound _ _ hknown)⟩
        | true =>
          have htried : (∀ e ∈ trial, Tries t e.question) ∧ known' = looked ∧
              verdict ≠ .exhausted := by
            refine allowed_of_answered (P := trying t) hp₃
              (fun result => result.2 = looked ∧ result.1 ≠ .exhausted) ?_ fun _ _ => trivial
            refine obeys_query rfl fun claimed _ => ?_
            cases claimed with
            | false => exact obeys_query trivial fun _ _ => ⟨rfl, nofun⟩
            | true =>
              refine obeys_andThen (trying_enqueue t job) fun _ queued _ => ?_
              cases queued with
              | none => exact obeys_query rfl fun _ _ => obeys_query trivial fun _ _ => ⟨rfl, nofun⟩
              | some j => exact obeys_query rfl fun _ _ => ⟨rfl, nofun⟩
          obtain ⟨htrial, rfl, hverdict⟩ := htried
          refine ⟨?_, hrecalls, fun found hfound =>
            .tried htarget hlook (hfound _ _ hknown) htrial hverdict⟩
          simpa using hl₃.append (Tries.samples_eq_nil htrial)

/-- What a cycle asks about its candidates goes by what it knows of the connectors in the end. -/
theorem Learnt.dispatch {jobs : List ImportJob} {n : Nat} (hl : Learnt maxQueries past known)
    (hp : Answered (dispatch maxQueries known jobs) h n) :
    ∃ known', Learnt maxQueries (past ++ h) known' ∧ Recalls known known' ∧
      ∀ found, Agrees known' found → Reviews found jobs h := by
  induction jobs generalizing past h known n with
  | nil =>
    obtain ⟨rfl, -⟩ := answered_pure.1 hp
    exact ⟨known, hl.append fun _ => rfl, Recalls.refl _, fun _ _ => .finished⟩
  | cons job jobs ih =>
    obtain ⟨h₁, h₂, ⟨verdict, known₁⟩, rfl, hfirst, hrest⟩ := answered_andThen.1 hp
    obtain ⟨hl₁, hrecalls₁, hreview⟩ := hl.consider hfirst
    have hgo : ∀ {n}, verdict ≠ .exhausted →
        Answered (Scheduler.dispatch maxQueries known₁ jobs) h₂ n →
        ∃ known', Learnt maxQueries (past ++ (h₁ ++ h₂)) known' ∧ Recalls known known' ∧
          ∀ found, Agrees known' found → Reviews found (job :: jobs) (h₁ ++ h₂) := by
      intro n hverdict hp
      obtain ⟨known', hl', hrecalls', hreviews⟩ := ih hl₁ hp
      exact ⟨known', by rwa [← List.append_assoc], hrecalls₁.trans hrecalls', fun found hfound =>
        .next (hreview found (hrecalls'.trans hfound)) hverdict (hreviews found hfound)⟩
    cases verdict with
    | exhausted =>
      obtain ⟨rfl, -⟩ := answered_pure.1 hrest
      rw [List.append_nil]
      exact ⟨known₁, hl₁, hrecalls₁, fun found hfound => .exhausted (hreview found hfound)⟩
    | deferred => exact hgo nofun hrest
    | dispatched =>
      obtain ⟨h₃, h₄, more, rfl, hmore, hend⟩ := answered_andThen.1 hrest
      obtain ⟨rfl, -⟩ := answered_pure.1 hend
      rw [List.append_nil] at hgo ⊢
      exact hgo nofun hmore

end

/-! ### What a review tells -/

section

variable {found : String → Option Bool} {job : ImportJob} {jobs : List ImportJob}
  {h : List (Exchange Question Answer)} {verdict : Verdict}

/-- A cycle looks at the connector of a candidate once it found the target free. -/
theorem Review.free {c : String} {running : Except Database.Error Nat}
    (hr : Review found job h verdict) (hmem : ⟨.countQueries c, running⟩ ∈ h) :
    ∃ t, Target.ofJob? job = some t ∧ t.connector = c ∧ ⟨.isTaken t, false⟩ ∈ h := by
  have hlook : ∀ {t look}, Look t look → ⟨.countQueries c, running⟩ ∈ look → t = c := by
    rintro t _ (rfl | ⟨running', rfl⟩) hmem
    · cases hmem
    · cases List.mem_singleton.1 hmem
      rfl
  cases hr with
  | targetless => cases hmem
  | inFlight => simp at hmem
  | @busy t look htarget hl =>
    exact ⟨t, htarget, hlook hl (by simpa using hmem), List.mem_cons_self⟩
  | @exhausted t look htarget hl =>
    exact ⟨t, htarget, hlook hl (by simpa using hmem), List.mem_cons_self⟩
  | @tried t look trial _ htarget hl _ htrial =>
    refine ⟨t, htarget, hlook hl ?_, List.mem_cons_self⟩
    have hcases : ⟨.countQueries c, running⟩ ∈ look ∨ ⟨.countQueries c, running⟩ ∈ trial := by
      simpa using hmem
    exact hcases.resolve_right fun hmem => htrial _ hmem

/-- A cycle lets only an import run whose connector it found not to be busy. -/
theorem Review.idle {j : ImportJob} {t : Target} (hr : Review found job h verdict)
    (hmem : ⟨.spawn j t, ()⟩ ∈ h) : found t.connector = some false := by
  have hlook : ∀ {c look}, Look c look → ⟨.spawn j t, ()⟩ ∉ look := by
    rintro c _ (rfl | ⟨running', rfl⟩) <;> simp
  cases hr with
  | targetless => cases hmem
  | inFlight => simp at hmem
  | busy _ hl => exact absurd (by simpa using hmem) (hlook hl)
  | exhausted _ hl => exact absurd (by simpa using hmem) (hlook hl)
  | @tried t' look trial _ _ hl hidle htrial =>
    have hcases : ⟨.spawn j t, ()⟩ ∈ look ∨ ⟨.spawn j t, ()⟩ ∈ trial := by
      simpa using hmem
    obtain rfl : t = t' := htrial _ (hcases.resolve_left (hlook hl))
    exact hidle

theorem Reviews.free {c : String} {running : Except Database.Error Nat}
    (hr : Reviews found jobs h) (hmem : ⟨.countQueries c, running⟩ ∈ h) :
    ∃ job ∈ jobs, ∃ t, Target.ofJob? job = some t ∧ t.connector = c ∧ ⟨.isTaken t, false⟩ ∈ h := by
  induction hr with
  | finished => cases hmem
  | exhausted hfirst => exact ⟨_, List.mem_cons_self, hfirst.free hmem⟩
  | next hfirst _ _ ih =>
    rcases List.mem_append.1 hmem with hmem | hmem
    · obtain ⟨t, htarget, hc, hfree⟩ := hfirst.free hmem
      exact ⟨_, List.mem_cons_self, t, htarget, hc, List.mem_append_left _ hfree⟩
    · obtain ⟨job, hjob, t, htarget, hc, hfree⟩ := ih hmem
      exact ⟨job, List.mem_cons_of_mem _ hjob, t, htarget, hc, List.mem_append_right _ hfree⟩

theorem Reviews.idle {j : ImportJob} {t : Target} (hr : Reviews found jobs h)
    (hmem : ⟨.spawn j t, ()⟩ ∈ h) : found t.connector = some false := by
  induction hr with
  | finished => cases hmem
  | exhausted hfirst => exact hfirst.idle hmem
  | next hfirst _ _ ih =>
    rcases List.mem_append.1 hmem with hmem | hmem
    · exact hfirst.idle hmem
    · exact ih hmem

end

/-! ### Statements -/

/-- The databases are sent these statements for the counts that a cycle asks for. -/
inductive Counting (sessionName : String → String) :
    List (Exchange Question Answer) → List Import.Call → Prop where
  | nothing : Counting sessionName [] []
  | count {c : String} {running : Except Database.Error Nat} {asked : Import.History}
      {h : List (Exchange Question Answer)} {calls : List Import.Call}
      (hcount : Answered (Import.runningQueries sessionName c) asked running)
      (hrest : Counting sessionName h calls) :
      Counting sessionName (⟨.countQueries c, running⟩ :: h) (Import.sent asked ++ calls)
  | other {q : Question} {a : Answer q} {h : List (Exchange Question Answer)}
      {calls : List Import.Call} (hother : ∀ c, q ≠ .countQueries c)
      (hrest : Counting sessionName h calls) : Counting sessionName (⟨q, a⟩ :: h) calls

/-- A count fails where the connector is not found, and is made by one statement otherwise. -/
theorem runningQueries_cases {sessionName : String → String} {c : String} {asked : Import.History}
    {running : Except Database.Error Nat}
    (hp : Answered (Import.runningQueries sessionName c) asked running) :
    (∃ e, asked = [⟨.connect c, .error e⟩] ∧ running = .error e) ∨
      ∃ rows, asked = [⟨.connect c, .ok ()⟩,
        ⟨.fetchTexts c (Table.runningQueriesStatement (sessionName c)), rows⟩] ∧
          running = rows.map List.length := by
  obtain ⟨h₁, h₂, client, rfl, hconnect, hrest⟩ := answered_andThen.1 hp
  obtain rfl := answered_query.1 hconnect
  cases client with
  | error e =>
    obtain ⟨rfl, rfl⟩ := answered_pure.1 hrest
    exact .inl ⟨e, rfl, rfl⟩
  | ok u =>
    obtain ⟨h₃, h₄, rows, rfl, hfetch, hend⟩ := answered_andThen.1 hrest
    obtain rfl := answered_query.1 hfetch
    obtain ⟨rfl, rfl⟩ := answered_pure.1 hend
    exact .inr ⟨rows, rfl, rfl⟩

/-- A connector is sent as many statements at most as it was looked at, and each of them counts. -/
theorem Counting.calls {sessionName : String → String} {h : List (Exchange Question Answer)}
    {calls : List Import.Call} (hc : Counting sessionName h calls) :
    (∀ c, (calls.map (·.connector)).count c ≤ (samples h c).length) ∧
      ∀ call ∈ calls,
        call.statement = Table.runningQueriesStatement (sessionName call.connector) := by
  induction hc with
  | nothing => exact ⟨fun _ => Nat.le_refl 0, List.forall_mem_nil _⟩
  | @count c' running asked h calls hcount _ ih =>
    obtain ⟨hcalls, hstatements⟩ := ih
    have hsamples : ∀ c, samples (⟨.countQueries c', running⟩ :: h) c =
        (if c' = c then [running] else []) ++ samples h c := fun c => by
      rw [← samples_count, ← samples_append, List.singleton_append]
    rcases runningQueries_cases hcount with ⟨e, rfl, -⟩ | ⟨rows, rfl, -⟩
    · refine ⟨fun c => ?_, hstatements⟩
      rw [hsamples, List.length_append]
      exact Nat.le_trans (hcalls c) (Nat.le_add_left _ _)
    · refine ⟨fun c => ?_, List.forall_mem_cons.2 ⟨rfl, hstatements⟩⟩
      have hcons : (Import.sent [⟨.connect c', .ok ()⟩,
          ⟨.fetchTexts c' (Table.runningQueriesStatement (sessionName c')), rows⟩] ++ calls).map
          (·.connector) = c' :: calls.map (·.connector) := rfl
      rw [hcons, List.count_cons, hsamples, List.length_append, Nat.add_comm]
      refine Nat.add_le_add ?_ (hcalls c)
      by_cases hc : c' = c <;> simp [hc]
  | @other q a h calls hother _ ih =>
    obtain ⟨hcalls, hstatements⟩ := ih
    refine ⟨fun c => Nat.le_trans (hcalls c) (Nat.le_of_eq ?_), hstatements⟩
    cases q with
    | countQueries c' => exact absurd rfl (hother c')
    | list _ | isTaken _ | takePermit | returnPermit | claim _ | release _ | store _ | spawn _ _ =>
      rfl

/-! ### Cycles -/

/-- A cycle that goes through these candidates looks at each connector once at most. -/
structure SampledOnce (maxQueries : Nat) (jobs : List ImportJob)
    (h : List (Exchange Question Answer)) : Prop where
  once : ∀ c, (samples h c).length ≤ 1
  /-- It looks at none where no number of statements is set. -/
  disabled : maxQueries = 0 → ∀ c, samples h c = []
  /-- It looks at none where the target of each candidate is in flight when it comes to it. -/
  spared : ∀ c, (∀ job ∈ jobs, ∀ t, Target.ofJob? job = some t → t.connector = c →
    ⟨.isTaken t, false⟩ ∉ h) → samples h c = []
  /-- All candidates of a connector are dealt with by what was found of it. -/
  reviewed : Reviews (finding maxQueries h) jobs h
  /-- An import is let run where fewer statements were counted than are allowed, where they could
  not be counted, and where no number is set. -/
  dispatched : ∀ job t, ⟨.spawn job t, ()⟩ ∈ h → maxQueries = 0 ∨
    ∃ sample, samples h t.connector = [sample] ∧
      ∀ running, sample = .ok running → running < maxQueries
  /-- A connector is not busy where its statements could not be counted. -/
  lenient : ∀ c e, .error e ∈ samples h c → finding maxQueries h c = some false

/-- What a cycle keeps in mind in the end tells how it dealt with its candidates. -/
theorem Learnt.sampledOnce {maxQueries : Nat} {jobs : List ImportJob}
    {h : List (Exchange Question Answer)} {known : List (String × Bool)}
    (hl : Learnt maxQueries h known) (hreviews : Reviews (finding maxQueries h) jobs h) :
    SampledOnce maxQueries jobs h := by
  have hsample : ∀ c, samples h c = [] ∨ ∃ sample, samples h c = [sample] := fun c => by
    rw [← List.length_eq_zero_iff, ← List.length_eq_one_iff]
    exact Nat.le_one_iff_eq_zero_or_eq_one.1 (hl.once c)
  refine ⟨hl.once, hl.disabled, fun c hflight => ?_, hreviews, fun job t hspawn => ?_,
    fun c e he => ?_⟩
  · refine samples_eq_nil_iff.2 fun running hmem => ?_
    obtain ⟨job, hjob, t, htarget, hc, hfree⟩ := hreviews.free hmem
    exact hflight job hjob t htarget hc hfree
  · by_cases hoff : maxQueries = 0
    · exact .inl hoff
    have hidle := hreviews.idle hspawn
    rw [finding, if_neg hoff] at hidle
    rcases hsample t.connector with hnone | ⟨sample, hone⟩
    · rw [hnone] at hidle
      cases hidle
    · rw [hone] at hidle
      exact .inr ⟨sample, hone, overloaded_eq_false_iff.1 (Option.some.inj hidle)⟩
  · rcases hsample c with hnone | ⟨sample, hone⟩
    · rw [hnone] at he
      cases he
    · rw [hone] at he
      obtain rfl := List.mem_singleton.1 he
      unfold finding
      split
      · rfl
      · rw [hone]
        rfl

/-- Whatever it is told, a cycle gives up where it cannot list what is stored, and otherwise looks
at each connector once at most.  A connector is sent one statement at most, which counts those that
run on it, and one that is not found fails its count. -/
theorem connectors_sampled_once {maxQueries : Nat} {h : List (Exchange Question Answer)}
    {r : Except Store.Error Nat} (sessionName : String → String)
    (hp : Answered (cycle maxQueries) h r) :
    ((∃ e, r = .error e ∧ ∀ e ∈ h, ∃ status, e.question = .list status) ∨
      ∃ queued waiting later n, r = .ok n ∧
        h = ⟨.list .queued, .ok queued⟩ :: ⟨.list .waiting, .ok waiting⟩ :: later ∧
        SampledOnce maxQueries ((queued ++ waiting).filterMap Job.import?) later) ∧
      (∀ calls, Counting sessionName h calls → (calls.map (·.connector)).Nodup ∧
        ∀ call ∈ calls, samples h call.connector ≠ [] ∧
          call.statement = Table.runningQueriesStatement (sessionName call.connector)) ∧
      ∀ c asked running e, Answered (Import.runningQueries sessionName c) asked running →
        ⟨.connect c, .error e⟩ ∈ asked → running = .error e := by
  have hcycle : (∀ c, (samples h c).length ≤ 1) ∧
      ((∃ e, r = .error e ∧ ∀ e ∈ h, ∃ status, e.question = .list status) ∨
        ∃ queued waiting later n, r = .ok n ∧
          h = ⟨.list .queued, .ok queued⟩ :: ⟨.list .waiting, .ok waiting⟩ :: later ∧
          SampledOnce maxQueries ((queued ++ waiting).filterMap Job.import?) later) := by
    obtain ⟨asked, h₁, queued, rfl, hqueued, hp₁⟩ := answered_andThen.1 hp
    obtain rfl := answered_query.1 hqueued
    cases queued with
    | error e =>
      obtain ⟨rfl, rfl⟩ := answered_pure.1 hp₁
      exact ⟨fun _ => Nat.zero_le 1, .inl ⟨e, rfl, List.forall_mem_singleton.2 ⟨_, rfl⟩⟩⟩
    | ok queued =>
      obtain ⟨asked, h₂, waiting, rfl, hwaiting, hp₂⟩ := answered_andThen.1 hp₁
      obtain rfl := answered_query.1 hwaiting
      cases waiting with
      | error e =>
        obtain ⟨rfl, rfl⟩ := answered_pure.1 hp₂
        exact ⟨fun _ => Nat.zero_le 1,
          .inl ⟨e, rfl, List.forall_mem_cons.2 ⟨⟨_, rfl⟩, List.forall_mem_singleton.2 ⟨_, rfl⟩⟩⟩⟩
      | ok waiting =>
        obtain ⟨later, h₃, n, rfl, hdispatch, hend⟩ := answered_andThen.1 hp₂
        obtain ⟨rfl, rfl⟩ := answered_pure.1 hend
        obtain ⟨known, hl, -, hreviews⟩ := (learnt_nil maxQueries).dispatch hdispatch
        rw [List.append_nil]
        exact ⟨hl.once, .inr ⟨queued, waiting, later, n, rfl, rfl,
          hl.sampledOnce (hreviews _ hl.found)⟩⟩
  refine ⟨hcycle.2, fun calls hcalls => ⟨?_, fun call hcall => ⟨?_, hcalls.calls.2 call hcall⟩⟩, ?_⟩
  · exact List.nodup_iff_count.2 fun c => Nat.le_trans (hcalls.calls.1 c) (hcycle.1 c)
  · intro hnone
    have hcount := hcalls.calls.1 call.connector
    rw [hnone] at hcount
    exact absurd (List.count_pos_iff.2 (List.mem_map_of_mem hcall)) (Nat.not_lt.2 hcount)
  · intro c asked running e hcount hmem
    rcases runningQueries_cases hcount with ⟨e', rfl, rfl⟩ | ⟨rows, rfl, -⟩
    · cases List.mem_singleton.1 hmem
      rfl
    · simp at hmem

/-- The roads and the rails are queued, their targets are free, and three statements run on every
connector. -/
def crowded : (q : Question) → Answer q
  | .list .queued => .ok [.importing { Import.roadsJob with id := "roads", status := .queued },
      .importing { Import.roadsJob with
        id := "rails", targetTable := some "rails", status := .queued }]
  | .list _ => .ok []
  | .isTaken _ => false
  | .countQueries _ => .ok 3
  | .takePermit => true
  | .returnPermit => ()
  | .claim _ => true
  | .release _ => ()
  | .store job => .ok job
  | .spawn _ _ => ()

/-- Where two statements are allowed, neither the roads nor the rails are let run, and their
connector is looked at once. -/
theorem crowded_looked_at_once :
    Answered (cycle 2) ((cycle 2).carryOut crowded).1 ((cycle 2).carryOut crowded).2 ∧
      (∃ queued waiting later n, ((cycle 2).carryOut crowded).2 = .ok n ∧
        ((cycle 2).carryOut crowded).1 =
          ⟨.list .queued, .ok queued⟩ :: ⟨.list .waiting, .ok waiting⟩ :: later ∧
        SampledOnce 2 ((queued ++ waiting).filterMap Job.import?) later) ∧
      (samples ((cycle 2).carryOut crowded).1 "db").length = 1 := by
  have hp := answered_carryOut crowded (cycle 2)
  refine ⟨hp, ((connectors_sampled_once id hp).1).resolve_left ?_, by decide +kernel⟩
  rintro ⟨e, he, -⟩
  cases he

end BulkImport.Scheduler
