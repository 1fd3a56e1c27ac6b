import BulkImport.Program

/-!
# Histories of programs

How the history of a program is read off the way it is written: a result has none, a question has
one exchange, and of two programs after one another each has its part (`answered_andThen`).  An
attempt that may break off either breaks off or goes on with a value (`answered_attempt`).

A *protocol* says which questions may come next and how they can be expected to be answered, as a
state that every exchange moves on.  Whether a program obeys it (`Obeys`) can be told of what the
program has still to do at any time, and is established part by part (`obeys_andThen`) or from its
histories (`obeys_of_answered`).
-/

namespace BulkImport.Program

variable {Q : Type} {A : Q → Type} {α β ε σ : Type}

/-! ### Reading a history -/

theorem answered_pure {h : List (Exchange Q A)} {a b : α} :
    Answered (pure a : Program Q A α) h b ↔ h = [] ∧ b = a := by
  constructor
  · intro hp
    cases hp with
    | done => exact ⟨rfl, rfl⟩
  · rintro ⟨rfl, rfl⟩
    exact .done _

/-- What a program is told decides how it ends. -/
theorem answered_unique {p : Program Q A α} {h : List (Exchange Q A)} {a b : α}
    (ha : Answered p h a) (hb : Answered p h b) : b = a := by
  induction ha with
  | done a =>
    cases hb
    rfl
  | ask answer _ ih =>
    cases hb with
    | ask _ hb => exact ih hb

theorem answered_query {q : Q} {h : List (Exchange Q A)} {a : A q} :
    Answered (query q) h a ↔ h = [⟨q, a⟩] := by
  constructor
  · intro hp
    cases hp with
    | ask answer hp =>
      cases hp with
      | done => rfl
  · rintro rfl
    exact .ask a (.done a)

theorem answered_andThen {p : Program Q A α} {f : α → Program Q A β}
    {h : List (Exchange Q A)} {b : β} :
    Answered (p >>= f) h b ↔
      ∃ h₁ h₂ a, h = h₁ ++ h₂ ∧ Answered p h₁ a ∧ Answered (f a) h₂ b :=
  answered_bind_iff

theorem answered_throw {h : List (Exchange Q A)} {e : ε} {r : Except ε α} :
    Answered (throw e : ExceptT ε (Program Q A) α).run h r ↔ h = [] ∧ r = .error e := by
  rw [ExceptT.run_throw, answered_pure]

theorem answered_return {h : List (Exchange Q A)} {a : α} {r : Except ε α} :
    Answered (pure a : ExceptT ε (Program Q A) α).run h r ↔ h = [] ∧ r = .ok a := by
  rw [ExceptT.run_pure, answered_pure]

/-- Of an attempt and another that depends on its value, the first breaks off or both are made. -/
theorem answered_attempt {x : ExceptT ε (Program Q A) α} {f : α → ExceptT ε (Program Q A) β}
    {h : List (Exchange Q A)} {r : Except ε β} :
    Answered (x >>= f).run h r ↔
      (∃ e, Answered x.run h (.error e) ∧ r = .error e) ∨
        ∃ h₁ h₂ a, h = h₁ ++ h₂ ∧ Answered x.run h₁ (.ok a) ∧ Answered (f a).run h₂ r := by
  rw [ExceptT.run_bind, answered_andThen]
  constructor
  · rintro ⟨h₁, h₂, r₁, rfl, hx, hf⟩
    cases r₁ with
    | error e =>
      obtain ⟨rfl, rfl⟩ := answered_pure.1 hf
      exact .inl ⟨e, by rwa [List.append_nil], rfl⟩
    | ok a => exact .inr ⟨h₁, h₂, a, rfl, hx, hf⟩
  · rintro (⟨e, hx, rfl⟩ | ⟨h₁, h₂, a, rfl, hx, hf⟩)
    · exact ⟨h, [], .error e, (List.append_nil h).symm, hx, answered_pure.2 ⟨rfl, rfl⟩⟩
    · exact ⟨h₁, h₂, .ok a, rfl, hx, hf⟩

/-- An attempt and another that depends on its value succeed together when both do. -/
theorem succeeded_attempt {x : ExceptT ε (Program Q A) α} {f : α → ExceptT ε (Program Q A) β}
    {h : List (Exchange Q A)} {b : β} (hp : Answered (x >>= f).run h (.ok b)) :
    ∃ h₁ h₂ a, h = h₁ ++ h₂ ∧ Answered x.run h₁ (.ok a) ∧ Answered (f a).run h₂ (.ok b) := by
  rcases answered_attempt.1 hp with ⟨e, -, hr⟩ | hboth
  · cases hr
  · exact hboth

/-! ### One place of a list -/

theorem forall_mem_replace {P : α → Prop} {before after : List α} {a b : α}
    (h : ∀ x ∈ before ++ a :: after, P x) (hb : P b) : ∀ x ∈ before ++ b :: after, P x := by
  rw [List.forall_mem_append, List.forall_mem_cons] at h ⊢
  exact ⟨h.1, hb, h.2.2⟩

theorem forall_mem_remove {P : α → Prop} {before after : List α} {a : α}
    (h : ∀ x ∈ before ++ a :: after, P x) : ∀ x ∈ before ++ after, P x := by
  rw [List.forall_mem_append, List.forall_mem_cons] at h
  exact List.forall_mem_append.2 ⟨h.1, h.2.2⟩

/-- A place of a list of values is one of the list that they are taken from. -/
theorem exists_place {f : α → β} {l : List α} {earlier later : List β} {b : β}
    (h : l.map f = earlier ++ b :: later) :
    ∃ before a after, l = before ++ a :: after ∧ f a = b ∧ before.map f = earlier ∧
      after.map f = later := by
  obtain ⟨before, others, rfl, rfl, hothers⟩ := List.map_eq_append_iff.1 h
  obtain ⟨a, after, rfl, rfl, rfl⟩ := List.map_eq_cons_iff.1 hothers
  exact ⟨before, a, after, rfl, rfl, rfl, rfl⟩

/-- What one place of a list gives can be brought to the front. -/
theorem filterMap_middle (f : α → Option β) (before after : List α) (a : α) :
    ((before ++ a :: after).filterMap f).Perm
      ((f a).toList ++ (before ++ after).filterMap f) := by
  rw [List.filterMap_append, List.filterMap_append]
  cases hfa : f a with
  | none =>
    rw [List.filterMap_cons_none hfa]
    exact .refl _
  | some b =>
    rw [List.filterMap_cons_some hfa]
    exact List.perm_middle

/-- Something is in a list, and nothing after it undoes it. -/
def Since (done : α) (undoes : α → Prop) (l : List α) : Prop :=
  ∃ before after, l = before ++ done :: after ∧ ∀ x ∈ after, ¬ undoes x

theorem not_since_nil (done : α) (undoes : α → Prop) : ¬ Since done undoes [] := by
  rintro ⟨before, after, hl, -⟩
  simp at hl

/-- After one more entry it is done by that one, or was done before and is not undone by it. -/
theorem since_append {done x : α} {undoes : α → Prop} {l : List α} :
    Since done undoes (l ++ [x]) ↔ x = done ∨ (Since done undoes l ∧ ¬ undoes x) := by
  constructor
  · rintro ⟨before, after, hl, hkept⟩
    rcases List.eq_nil_or_concat after with rfl | ⟨after, y, rfl⟩
    · exact .inl (List.singleton_inj.1 (List.append_inj_right' hl rfl))
    · have hsplit : l ++ [x] = (before ++ done :: after) ++ [y] := by
        simpa using hl
      obtain ⟨rfl, hlast⟩ := List.append_inj' hsplit rfl
      obtain rfl := List.singleton_inj.1 hlast
      exact .inr ⟨⟨before, after, rfl, fun y hy => hkept y (by simp [hy])⟩, hkept x (by simp)⟩
  · rintro (rfl | ⟨⟨before, after, rfl, hkept⟩, hkeeps⟩)
    · exact ⟨l, [], rfl, by simp⟩
    · refine ⟨before, after ++ [x], by simp, fun y hy => ?_⟩
      rcases List.mem_append.1 hy with hy | hy
      · exact hkept y hy
      · exact List.mem_singleton.1 hy ▸ hkeeps

/-- A list is divided in one way only at the only place where something holds. -/
theorem split_unique {marked : α → Prop} {x y : α} {A B before after : List α}
    (hA : ∀ z ∈ A, ¬ marked z) (hB : ∀ z ∈ B, ¬ marked z) (hy : marked y)
    (h : A ++ x :: B = before ++ y :: after) : before = A ∧ y = x ∧ after = B := by
  induction A generalizing before with
  | nil =>
    cases before with
    | nil =>
      cases h
      exact ⟨rfl, rfl, rfl⟩
    | cons b before =>
      cases h
      exact absurd hy (hB y (List.mem_append_right _ List.mem_cons_self))
  | cons a A ih =>
    cases before with
    | nil =>
      cases h
      exact absurd hy (hA y List.mem_cons_self)
    | cons b before =>
      obtain ⟨rfl, hrest⟩ := List.cons.inj h
      obtain ⟨rfl, hend⟩ := ih (fun z hz => hA z (List.mem_cons_of_mem _ hz)) hrest
      exact ⟨rfl, hend⟩

/-- What is marked in a list lies where it can lie. -/
theorem split_between {marked : α → Prop} {x : α} {A W C before after : List α}
    (hA : ∀ z ∈ A, ¬ marked z) (hC : ∀ z ∈ C, ¬ marked z) (hx : marked x)
    (h : A ++ (W ++ C) = before ++ x :: after) :
    ∃ W₁ W₂, W = W₁ ++ x :: W₂ ∧ before = A ++ W₁ ∧ after = W₂ ++ C := by
  have hx' : ∀ l : List α, (∀ z ∈ l, ¬ marked z) → x ∉ l := fun l hl hmem => hl x hmem hx
  obtain ⟨as, rfl, hrest⟩ : ∃ as, before = A ++ as ∧ W ++ C = as ++ x :: after := by
    rcases List.append_eq_append_iff.1 h with hlonger | ⟨bs, rfl, hbs⟩
    · exact hlonger
    · cases bs with
      | nil => exact ⟨[], by simp, hbs.symm⟩
      | cons b bs =>
        obtain ⟨rfl, -⟩ := List.cons.inj hbs
        exact absurd (by simp) (hx' _ hA)
  rcases List.append_eq_append_iff.1 hrest with ⟨cs, -, rfl⟩ | ⟨bs, rfl, hbs⟩
  · exact absurd (by simp) (hx' _ hC)
  · cases bs with
    | nil =>
      rw [List.nil_append] at hbs
      exact absurd (hbs ▸ List.mem_cons_self) (hx' _ hC)
    | cons b bs =>
      obtain ⟨rfl, rfl⟩ := List.cons.inj hbs
      exact ⟨as, bs, rfl, rfl, rfl⟩

/-! ### Carrying a program out -/

/-- The history and the result of a program whose every question is answered for itself. -/
def carryOut (answer : ∀ q, A q) : Program Q A α → List (Exchange Q A) × α
  | done a => ([], a)
  | ask q next =>
    let (h, a) := carryOut answer (next (answer q))
    (⟨q, answer q⟩ :: h, a)

theorem answered_carryOut (answer : ∀ q, A q) (p : Program Q A α) :
    Answered p (p.carryOut answer).1 (p.carryOut answer).2 := by
  induction p with
  | done a => exact .done a
  | ask q next ih => exact .ask (answer q) (ih (answer q))

theorem answer_of_mem_carryOut {answer : ∀ q, A q} {p : Program Q A α} {e : Exchange Q A}
    (he : e ∈ (p.carryOut answer).1) : e.answer = answer e.question := by
  induction p with
  | done a => cases he
  | ask q next ih =>
    rcases List.mem_cons.1 he with rfl | he
    · rfl
    · exact ih (answer q) he

/-- Every program can be carried out to its end. -/
theorem exists_answered [∀ q, Nonempty (A q)] (p : Program Q A α) : ∃ h a, Answered p h a :=
  ⟨_, _, answered_carryOut (fun q => Classical.choice (inferInstance : Nonempty (A q))) p⟩

/-- One program is what another one goes on with after its next question. -/
inductive Follows : Program Q A α → Program Q A α → Prop where
  | intro {q : Q} (next : A q → Program Q A α) (answer : A q) : Follows (next answer) (ask q next)

/-- However its questions are answered, a program comes to its end. -/
theorem follows_wf : WellFounded (Follows : Program Q A α → Program Q A α → Prop) := by
  refine ⟨fun p => ?_⟩
  induction p with
  | done a => exact ⟨_, nofun⟩
  | ask q next ih =>
    refine ⟨_, ?_⟩
    rintro _ ⟨⟩
    exact ih _

/-! ### Protocols -/

/-- Which questions may be asked in a state, which answers can be expected there, and the state
after an exchange. -/
structure Protocol (Q : Type) (A : Q → Type) (σ : Type) where
  allows : σ → Q → Prop
  expects : σ → (q : Q) → A q → Prop
  next : σ → (q : Q) → A q → σ

namespace Protocol

/-- The state after a history. -/
def after (P : Protocol Q A σ) : σ → List (Exchange Q A) → σ
  | s, [] => s
  | s, e :: h => P.after (P.next s e.question e.answer) h

theorem after_append (P : Protocol Q A σ) (s : σ) (h : List (Exchange Q A)) (e : Exchange Q A) :
    P.after s (h ++ [e]) = P.next (P.after s h) e.question e.answer := by
  induction h generalizing s with
  | nil => rfl
  | cons e' h ih => exact ih _

/-- Every question of a history is allowed in the state in which it is asked. -/
def Legal (P : Protocol Q A σ) : σ → List (Exchange Q A) → Prop
  | _, [] => True
  | s, e :: h => P.allows s e.question ∧ P.Legal (P.next s e.question e.answer) h

end Protocol

/-- As long as it is answered as can be expected, the program asks only what the protocol allows,
and its result fits the state in which it ends. -/
def Obeys (P : Protocol Q A σ) (fits : σ → α → Prop) : σ → Program Q A α → Prop
  | s, done a => fits s a
  | s, ask q next =>
    P.allows s q ∧ ∀ answer, P.expects s q answer → Obeys P fits (P.next s q answer) (next answer)

/-- A program whose histories are all legal obeys the protocol. -/
theorem obeys_of_answered [∀ q, Nonempty (A q)] {P : Protocol Q A σ} {fits : σ → α → Prop}
    {s : σ} {p : Program Q A α}
    (h : ∀ h a, Answered p h a → P.Legal s h ∧ fits (P.after s h) a) : Obeys P fits s p := by
  induction p generalizing s with
  | done a => exact (h [] a (.done a)).2
  | ask q next ih =>
    constructor
    · -- there is a history that begins with this question, and it is legal
      obtain ⟨answer⟩ := (inferInstance : Nonempty (A q))
      obtain ⟨h', a, hp⟩ := exists_answered (next answer)
      exact (h _ a (.ask answer hp)).1.1
    · intro answer _
      refine ih answer fun h' a hp => ?_
      obtain ⟨hlegal, hfits⟩ := h _ a (.ask answer hp)
      exact ⟨hlegal.2, hfits⟩

theorem Obeys.imp {P : Protocol Q A σ} {fits fits' : σ → α → Prop} {s : σ} {p : Program Q A α}
    (h : Obeys P fits s p) (hfits : ∀ s' a, fits s' a → fits' s' a) : Obeys P fits' s p := by
  induction p generalizing s with
  | done a => exact hfits s a h
  | ask q next ih => exact ⟨h.1, fun answer hanswer => ih answer (h.2 answer hanswer)⟩

/-- However a program is answered that obeys a protocol which expects any answer, its result
fits. -/
theorem fits_of_answered {P : Protocol Q A σ} {fits : σ → α → Prop} {s : σ} {p : Program Q A α}
    {h : List (Exchange Q A)} {a : α} (hobeys : Obeys P fits s p)
    (hexpects : ∀ s q answer, P.expects s q answer) (hp : Answered p h a) :
    fits (P.after s h) a := by
  induction hp generalizing s with
  | done a => exact hobeys
  | ask answer _ ih => exact ih (hobeys.2 answer (hexpects _ _ _))

/-- However a program is answered that obeys a protocol which has one state and expects any answer,
it asks only what is allowed. -/
theorem allowed_of_answered {P : Protocol Q A Unit} {p : Program Q A α} {h : List (Exchange Q A)}
    {a : α} (hp : Answered p h a) (fits : α → Prop)
    (hobeys : Obeys P (fun _ a => fits a) () p) (hexpects : ∀ q answer, P.expects () q answer) :
    (∀ e ∈ h, P.allows () e.question) ∧ fits a := by
  induction hp with
  | done a => exact ⟨List.forall_mem_nil _, hobeys⟩
  | ask answer _ ih =>
    obtain ⟨hallowed, hfits⟩ := ih (hobeys.2 answer (hexpects _ _))
    exact ⟨List.forall_mem_cons.2 ⟨hobeys.1, hallowed⟩, hfits⟩

/-- Of two programs after one another the second obeys from wherever the first one ends. -/
theorem obeys_andThen {P : Protocol Q A σ} {mid : σ → α → Prop} {fits : σ → β → Prop} {s : σ}
    {p : Program Q A α} {f : α → Program Q A β} (hp : Obeys P mid s p)
    (hf : ∀ s' a, mid s' a → Obeys P fits s' (f a)) : Obeys P fits s (p >>= f) := by
  induction p generalizing s with
  | done a => exact hf s a hp
  | ask q next ih => exact ⟨hp.1, fun answer hanswer => ih answer (hp.2 answer hanswer)⟩

/-- A question that is allowed, and what is done with each answer that can be expected. -/
theorem obeys_query {P : Protocol Q A σ} {fits : σ → β → Prop} {s : σ} {q : Q}
    {f : A q → Program Q A β} (hq : P.allows s q)
    (hf : ∀ answer, P.expects s q answer → Obeys P fits (P.next s q answer) (f answer)) :
    Obeys P fits s (query q >>= f) :=
  ⟨hq, hf⟩

end BulkImport.Program
