import BulkImport.Proofs.History

/-!
# Programs in their surroundings

Surroundings that answer from a state determine what a program asks and is told (`trace`) and with
which result it ends.  A program is deaf to questions when it goes on in the same way whatever they
are answered (`Deaf`); this is established part by part (`deaf_andThen`), or by never asking them
(`deaf_of_unasked`).  Surroundings that differ only in what a program is deaf to are asked the same
questions and lead to the same result, though they may be in other states (`trace_congr`,
`runWith_congr`).
-/

namespace BulkImport.Program

variable {Q : Type} {A : Q → Type} {α β σ τ : Type}

/-- What a program asks and is told when its questions are answered from a state. -/
def trace (answer : (q : Q) → σ → A q × σ) : Program Q A α → σ → List (Exchange Q A)
  | done _, _ => []
  | ask q next, s => ⟨q, (answer q s).1⟩ :: trace answer (next (answer q s).1) (answer q s).2

theorem answered_trace (answer : (q : Q) → σ → A q × σ) (p : Program Q A α) (s : σ) :
    Answered p (p.trace answer s) (p.runWith answer s).1 := by
  induction p generalizing s with
  | done a => exact .done a
  | ask q next ih => exact .ask _ (ih _ _)

/-- Of an attempt and another that depends on its value, the second is carried out if the first one
succeeds, in the state that it leaves. -/
theorem runWith_attempt {ε : Type} (answer : (q : Q) → σ → A q × σ)
    (x : ExceptT ε (Program Q A) α) (f : α → ExceptT ε (Program Q A) β) (s : σ) :
    (x >>= f).run.runWith answer s =
      match x.run.runWith answer s with
      | (.ok a, s') => (f a).run.runWith answer s'
      | (.error e, s') => (.error e, s') := by
  rw [ExceptT.run_bind]
  refine (runWith_bind answer x.run _ s).trans ?_
  generalize x.run.runWith answer s = first
  obtain ⟨r, s'⟩ := first
  cases r with
  | ok | error => rfl

theorem runWith_lift {ε : Type} (answer : (q : Q) → σ → A q × σ) (p : Program Q A α) (s : σ) :
    (ExceptT.lift p : ExceptT ε (Program Q A) α).run.runWith answer s =
      (.ok (p.runWith answer s).1, (p.runWith answer s).2) :=
  runWith_bind answer p (fun a => pure (Except.ok a)) s

/-- The program goes on in the same way whatever these questions are answered. -/
def Deaf (unheard : Q → Prop) : Program Q A α → Prop
  | done _ => True
  | ask q next => (unheard q → ∀ a a', next a = next a') ∧ ∀ a, Deaf unheard (next a)

variable {unheard : Q → Prop}

theorem deaf_pure (a : α) : Deaf unheard (pure a : Program Q A α) := trivial

theorem deaf_andThen {p : Program Q A α} {f : α → Program Q A β} (hp : Deaf unheard p)
    (hf : ∀ a, Deaf unheard (f a)) : Deaf unheard (p >>= f) := by
  induction p with
  | done a => exact hf a
  | ask q next ih =>
    refine ⟨fun hq a a' => ?_, fun a => ih a (hp.2 a)⟩
    show (next a).bind f = (next a').bind f
    rw [hp.1 hq a a']

/-- A program is deaf to what it never asks. -/
theorem deaf_of_unasked [∀ q, Nonempty (A q)] {p : Program Q A α}
    (h : ∀ h a, Answered p h a → ∀ e ∈ h, ¬ unheard e.question) : Deaf unheard p := by
  induction p with
  | done a => trivial
  | ask q next ih =>
    refine ⟨fun hq => ?_, fun answer => ih answer fun h' a hp e he => ?_⟩
    · -- a history begins with the question
      obtain ⟨answer⟩ := (inferInstance : Nonempty (A q))
      obtain ⟨h', a, hp⟩ := exists_answered (next answer)
      exact absurd hq (h _ a (.ask answer hp) _ List.mem_cons_self)
    · exact h _ a (.ask answer hp) e (List.mem_cons_of_mem _ he)

/-! ### Surroundings that differ where a program is deaf -/

/-- Surroundings in states that correspond answer all other questions in the same way, and are in
states that correspond after every question. -/
structure Alike (unheard : Q → Prop) (same : σ → τ → Prop) (answer : (q : Q) → σ → A q × σ)
    (answer' : (q : Q) → τ → A q × τ) : Prop where
  state : ∀ q s t, same s t → same (answer q s).2 (answer' q t).2
  heard : ∀ q s t, same s t → ¬ unheard q → (answer' q t).1 = (answer q s).1

variable {same : σ → τ → Prop} {answer : (q : Q) → σ → A q × σ} {answer' : (q : Q) → τ → A q × τ}
  {s : σ} {t : τ}

/-- A deaf program goes on after a question as it would elsewhere. -/
theorem next_congr {q : Q} {next : A q → Program Q A α}
    (halike : Alike unheard same answer answer') (hdeaf : Deaf unheard (ask q next))
    (hst : same s t) : next (answer' q t).1 = next (answer q s).1 := by
  by_cases hq : unheard q
  · exact hdeaf.1 hq _ _
  · rw [halike.heard q s t hst hq]

theorem runWith_congr {p : Program Q A α} (halike : Alike unheard same answer answer')
    (hdeaf : Deaf unheard p) (hst : same s t) :
    (p.runWith answer' t).1 = (p.runWith answer s).1 := by
  induction p generalizing s t with
  | done a => rfl
  | ask q next ih =>
    simp only [runWith, next_congr halike hdeaf hst]
    exact ih _ (hdeaf.2 _) (halike.state q s t hst)

theorem trace_congr {p : Program Q A α} (halike : Alike unheard same answer answer')
    (hdeaf : Deaf unheard p) (hst : same s t) :
    (p.trace answer' t).map Exchange.question = (p.trace answer s).map Exchange.question := by
  induction p generalizing s t with
  | done a => rfl
  | ask q next ih =>
    simp only [trace, List.map_cons, next_congr halike hdeaf hst]
    rw [ih _ (hdeaf.2 _) (halike.state q s t hst)]

end BulkImport.Program
