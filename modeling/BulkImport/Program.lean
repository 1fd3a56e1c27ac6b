/-!
# Programs that ask

A program is a value: it is finished with a result, or it asks its surroundings a question and goes
on with the answer.  The surroundings (a database, a store, a clock) are no part of it, so a
statement about a program holds whatever they answer.  A program is carried out by answering its
questions from a state (`runWith`); what it asked and was told is its history (`Answered`).  Main
statements: programs form a lawful monad, and the history of two programs one after the other is
the one history followed by the other (`answered_bind_iff`).
-/

namespace BulkImport

/-- A program that asks questions of type `Q`, each with its own type of answer, and ends with a
result of type `α`. -/
inductive Program (Q : Type) (A : Q → Type) (α : Type) where
  | done (result : α)
  | ask (question : Q) (next : A question → Program Q A α)

namespace Program

variable {Q : Type} {A : Q → Type} {α β γ σ : Type}

/-- One program, and then another that depends on its result. -/
def bind (p : Program Q A α) (f : α → Program Q A β) : Program Q A β :=
  match p with
  | done a => f a
  | ask q next => ask q fun answer => (next answer).bind f

instance : Monad (Program Q A) where
  pure := done
  bind := bind

/-- The program that asks one question and ends with the answer. -/
def query (q : Q) : Program Q A (A q) := ask q done

theorem bind_done (p : Program Q A α) : p.bind done = p := by
  induction p with
  | done a => rfl
  | ask q next ih => simp only [bind, ih]

theorem bind_assoc (p : Program Q A α) (f : α → Program Q A β) (g : β → Program Q A γ) :
    (p.bind f).bind g = p.bind fun a => (f a).bind g := by
  induction p with
  | done a => rfl
  | ask q next ih => simp only [bind, ih]

instance : LawfulMonad (Program Q A) :=
  LawfulMonad.mk' (Program Q A) bind_done (fun _ _ => rfl) bind_assoc

/-- The result of a program whose questions are answered from a state, and the state after it. -/
def runWith (answer : (q : Q) → σ → A q × σ) : Program Q A α → σ → α × σ
  | done a, s => (a, s)
  | ask q next, s => runWith answer (next (answer q s).1) (answer q s).2

/-- A question together with the answer that was given to it. -/
structure Exchange (Q : Type) (A : Q → Type) where
  question : Q
  answer : A question

/-- A program can ask these questions, be given these answers, and end with this result. -/
inductive Answered : Program Q A α → List (Exchange Q A) → α → Prop where
  | done (a : α) : Answered (done a) [] a
  | ask {q : Q} {next : A q → Program Q A α} {history : List (Exchange Q A)} {b : α}
      (answer : A q) (h : Answered (next answer) history b) :
      Answered (ask q next) (⟨q, answer⟩ :: history) b

theorem answered_bind {p : Program Q A α} {f : α → Program Q A β} {h h' : List (Exchange Q A)}
    {a : α} {b : β} (hp : Answered p h a) (hf : Answered (f a) h' b) :
    Answered (p.bind f) (h ++ h') b := by
  induction hp with
  | done a => exact hf
  | ask answer _ ih => exact .ask answer (ih hf)

theorem answered_bind_iff {p : Program Q A α} {f : α → Program Q A β}
    {h : List (Exchange Q A)} {b : β} :
    Answered (p.bind f) h b ↔
      ∃ h₁ h₂ a, h = h₁ ++ h₂ ∧ Answered p h₁ a ∧ Answered (f a) h₂ b := by
  constructor
  · intro hb
    induction p generalizing h with
    | done a => exact ⟨[], h, a, rfl, .done a, hb⟩
    | ask q next ih =>
      cases hb with
      | ask answer hb =>
        obtain ⟨h₁, h₂, a, rfl, hp, hf⟩ := ih answer hb
        exact ⟨⟨q, answer⟩ :: h₁, h₂, a, rfl, .ask answer hp, hf⟩
  · rintro ⟨h₁, h₂, a, rfl, hp, hf⟩
    exact answered_bind hp hf

theorem runWith_bind (answer : (q : Q) → σ → A q × σ) (p : Program Q A α)
    (f : α → Program Q A β) (s : σ) :
    runWith answer (p.bind f) s =
      runWith answer (f (runWith answer p s).1) (runWith answer p s).2 := by
  induction p generalizing s with
  | done a => rfl
  | ask q next ih => simp only [bind, runWith, ih]

end Program

end BulkImport
