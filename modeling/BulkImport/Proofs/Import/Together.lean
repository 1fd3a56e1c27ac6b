import BulkImport.Proofs.Import.Calls
import Mathlib.Data.List.Perm.Subperm
import Mathlib.Logic.Relation

/-!
# Statements that are carried out together

The calls that one question makes are sent together and end in any order, each as the database may
answer it; the program goes on when all of them have ended (`Site.Step`).  What happens is kept in
a log, in which a call is known by its number.  A program that is carried out in this way has a
history as it would have in any surroundings (`Site.Along`, `along_of_reaches`), and from wherever
it is it can be brought to its end (`exists_finished`).
-/

namespace BulkImport.Import

open BulkImport.Sql BulkImport.Program Relation

/-! ### Sites -/

/-- Something that happens to a call.  Calls are numbered in the order in which they are made. -/
inductive Event where
  | started (number : Nat) (call : Call)
  | ended (number : Nat) (answer : Except Database.Error Unit)

/-- What a program does next. -/
inductive Work (α : Type) where
  /-- It goes on. -/
  | going (rest : Action α)
  /-- It waits for the calls of a question, of which the first one has this number. -/
  | waiting (first : Nat) (q : Question) (answers : List (Option (Except Database.Error Unit)))
      (next : Answer q → Action α)

/-- A program that is carried out: what happened up to now, and how many calls were made. -/
structure Site (α : Type) where
  log : List Event
  issued : Nat
  work : Work α

/-- Calls are made, of which the first one has this number. -/
def starts (first : Nat) (calls : List Call) : List Event :=
  (calls.zipIdx first).map fun p => .started p.2 p.1

/-- Those calls have ended that have an answer. -/
def endings (first : Nat) (answers : List (Option (Except Database.Error Unit))) : List Event :=
  (answers.zipIdx first).filterMap fun p => p.1.map (.ended p.2)

variable {α : Type} {db : Call → Except Database.Error Unit → Prop} {p : Action α} {x y : Site α}

/-- One thing happens.  The database answers a call in one of the ways in which it may. -/
inductive Site.Step (db : Call → Except Database.Error Unit → Prop) : Site α → Site α → Prop where
  /-- All calls of a question are made. -/
  | ask {log : List Event} {issued : Nat} {q : Question} {next : Answer q → Action α} :
      Step db ⟨log, issued, .going (.ask q next)⟩
        ⟨log ++ starts issued q.calls, issued + q.calls.length,
          .waiting issued q (q.calls.map fun _ => none) next⟩
  /-- One of the calls that have not ended ends. -/
  | finish {log : List Event} {issued first n : Nat} {q : Question}
      {answers : List (Option (Except Database.Error Unit))} {next : Answer q → Action α}
      {call : Call} {a : Except Database.Error Unit} (hcall : q.calls[n]? = some call)
      (hopen : answers[n]? = some none) (hdb : db call a) :
      Step db ⟨log, issued, .waiting first q answers next⟩
        ⟨log ++ [.ended (first + n) a], issued, .waiting first q (answers.set n (some a)) next⟩
  /-- All calls have ended, and the program goes on. -/
  | goOn {log : List Event} {issued first : Nat} {q : Question} {next : Answer q → Action α}
      (a : Answer q) :
      Step db ⟨log, issued, .waiting first q ((q.replies a).map fun reply => some reply.2) next⟩
        ⟨log, issued, .going (next a)⟩

/-- A program comes to this site. -/
def Reaches (db : Call → Except Database.Error Unit → Prop) (p : Action α) (x : Site α) : Prop :=
  ReflTransGen (Site.Step db) ⟨[], 0, .going p⟩ x

/-! ### What is in a log -/

/-- What is in a log after these calls with these answers. -/
def entries (calls : List Call) (answers : List (Option (Except Database.Error Unit))) :
    List Event :=
  starts 0 calls ++ endings 0 answers

/-- The answers of a history. -/
def told (h : History) : List (Option (Except Database.Error Unit)) :=
  (replies h).map fun reply => some reply.2

@[simp] theorem told_append (h h' : History) : told (h ++ h') = told h ++ told h' := by
  simp [told]

theorem length_told (h : History) : (told h).length = (sent h).length := by
  rw [told, List.length_map, ← map_fst_replies, List.length_map]

/-- Every call of a history has an answer. -/
theorem exists_told {h : History} {n : Nat} (hn : n < (sent h).length) :
    ∃ a, (told h)[n]? = some (some a) := by
  rw [← map_fst_replies, List.length_map] at hn
  exact ⟨_, by rw [told, List.getElem?_map, List.getElem?_eq_getElem hn, Option.map_some]⟩

theorem starts_append (first : Nat) (calls calls' : List Call) :
    starts first (calls ++ calls') =
      starts first calls ++ starts (first + calls.length) calls' := by
  simp [starts, List.zipIdx_append]

theorem endings_append (first : Nat)
    (answers answers' : List (Option (Except Database.Error Unit))) :
    endings first (answers ++ answers') =
      endings first answers ++ endings (first + answers.length) answers' := by
  simp [endings, List.zipIdx_append]

theorem endings_none {β : Type} (first : Nat) (l : List β) :
    endings first (l.map fun _ => none) = [] := by
  induction l generalizing first with
  | nil => rfl
  | cons b l ih => exact ih (first + 1)

theorem endings_set (first n : Nat) {answers : List (Option (Except Database.Error Unit))}
    (hopen : answers[n]? = some none) (a : Except Database.Error Unit) :
    (endings first (answers.set n (some a))).Perm
      (endings first answers ++ [.ended (first + n) a]) := by
  induction answers generalizing first n with
  | nil => cases hopen
  | cons b answers ih =>
    cases n with
    | zero =>
      obtain rfl : b = none := by simpa using hopen
      exact (List.perm_append_singleton _ _).symm
    | succ n =>
      have hrest := ih (first + 1) n (by simpa using hopen)
      rw [show first + 1 + n = first + (n + 1) by omega] at hrest
      cases b with
      | none => exact hrest
      | some b => exact hrest.cons (.ended first b)

section Entries

variable {n : Nat} {call : Call} {a : Except Database.Error Unit} {calls calls' : List Call}
  {answers answers' : List (Option (Except Database.Error Unit))}

theorem mem_starts {first : Nat} :
    .started n call ∈ starts first calls ↔ first ≤ n ∧ calls[n - first]? = some call := by
  simp only [starts, List.mem_map, Prod.exists, List.mk_mem_zipIdx_iff_le_and_getElem?_sub,
    Event.started.injEq]
  constructor
  · rintro ⟨call, n, hn, rfl, rfl⟩
    exact hn
  · exact fun hn => ⟨call, n, hn, rfl, rfl⟩

theorem ended_mem_entries : .ended n a ∈ entries calls answers ↔ answers[n]? = some (some a) := by
  simp only [entries, starts, endings, List.mem_append, List.mem_map, List.mem_filterMap,
    Prod.exists, List.mk_mem_zipIdx_iff_getElem?, Event.ended.injEq, Option.map_eq_some_iff,
    reduceCtorEq, and_false, exists_false, false_or]
  constructor
  · rintro ⟨answer, n, hn, a, rfl, rfl, rfl⟩
    exact hn
  · exact fun hn => ⟨_, n, hn, a, rfl, rfl, rfl⟩

/-- More calls are made, none of which has an answer yet. -/
theorem entries_ask :
    (entries calls answers ++ starts calls.length calls').Perm
      (entries (calls ++ calls') (answers ++ calls'.map fun _ => none)) := by
  rw [entries, entries, starts_append, endings_append, endings_none, List.append_nil, Nat.zero_add,
    List.append_assoc, List.append_assoc]
  exact List.perm_append_comm.append_left _

/-- One more call has an answer. -/
theorem entries_finish (hopen : answers'[n]? = some none) (a : Except Database.Error Unit) :
    (entries calls (answers ++ answers') ++ [Event.ended (answers.length + n) a]).Perm
      (entries calls (answers ++ answers'.set n (some a))) := by
  rw [entries, entries, endings_append, endings_append, Nat.zero_add, List.append_assoc,
    List.append_assoc]
  exact (((endings_set _ _ hopen a).symm).append_left _).append_left _

end Entries

/-! ### Programs at a site -/

theorem replies_question (q : Question) (a : Answer q) : (q.replies a).map Prod.fst = q.calls := by
  simpa using map_fst_replies [⟨q, a⟩]

/-- What a program at a site was told, and that it goes on as it would with this history.  The
database answered each call as it may. -/
inductive Site.Along (db : Call → Except Database.Error Unit → Prop) (p : Action α) :
    Site α → Prop where
  | going {h : History} {log : List Event} {rest : Action α}
      (hlog : log.Perm (entries (sent h) (told h))) (hdb : ∀ reply ∈ replies h, db reply.1 reply.2)
      (hrest : ∀ h' r, Answered rest h' r → Answered p (h ++ h') r) :
      Along db p ⟨log, (sent h).length, .going rest⟩
  | waiting {h : History} {log : List Event} {q : Question}
      {answers : List (Option (Except Database.Error Unit))} {next : Answer q → Action α}
      (hlog : log.Perm (entries (sent h ++ q.calls) (told h ++ answers)))
      (hdb : ∀ reply ∈ replies h, db reply.1 reply.2) (hlength : answers.length = q.calls.length)
      (hanswers : ∀ (n : Nat) (call : Call) (a : Except Database.Error Unit),
        q.calls[n]? = some call → answers[n]? = some (some a) → db call a)
      (hrest : ∀ a h' r, Answered (next a) h' r → Answered p (h ++ ⟨q, a⟩ :: h') r) :
      Along db p ⟨log, (sent h).length + q.calls.length, .waiting (sent h).length q answers next⟩

theorem Site.Along.step (hx : x.Along db p) (hs : x.Step db y) : y.Along db p := by
  cases hs with
  | @ask _ _ q =>
    cases hx with
    | @going h _ _ hlog hdb hrest =>
      refine .waiting ?_ hdb (by simp) ?_ fun a h' r hp => hrest _ r (.ask a hp)
      · exact (hlog.append_right _).trans entries_ask
      · intro n call a hcall ha
        rw [List.getElem?_map, hcall] at ha
        cases ha
  | @finish _ _ _ n q answers next call a hcall hopen hanswer =>
    cases hx with
    | @waiting h _ _ _ _ hlog hdb hlength hanswers hrest =>
      refine .waiting ?_ hdb (by simpa using hlength) ?_ hrest
      · rw [← length_told]
        exact (hlog.append_right _).trans (entries_finish hopen _)
      · intro m call' a' hcall' ha'
        rw [List.getElem?_set] at ha'
        split at ha'
        · next heq =>
          subst heq
          obtain rfl : call = call' := Option.some.inj (hcall.symm.trans hcall')
          split at ha'
          · cases ha'
            exact hanswer
          · cases ha'
        · exact hanswers m call' a' hcall' ha'
  | @goOn _ _ _ q next a =>
    cases hx with
    | @waiting h _ _ _ _ hlog hdb hlength hanswers hrest =>
      have hsent : sent (h ++ [⟨q, a⟩]) = sent h ++ q.calls := by simp
      have htold : told (h ++ [⟨q, a⟩]) =
          told h ++ (q.replies a).map fun reply => some reply.2 := by
        simp [told]
      rw [← List.length_append, ← hsent]
      refine .going (hsent ▸ htold ▸ hlog) ?_ fun h' r hp => ?_
      · intro reply hreply
        rw [replies_append, List.mem_append, replies_cons, replies_nil, List.append_nil] at hreply
        rcases hreply with hreply | hreply
        · exact hdb reply hreply
        · obtain ⟨n, hn⟩ := List.getElem?_of_mem hreply
          refine hanswers n reply.1 reply.2 ?_ ?_
          · rw [← replies_question q a, List.getElem?_map, hn, Option.map_some]
          · rw [List.getElem?_map, hn, Option.map_some]
      · rw [List.append_assoc]
        exact hrest a h' r hp

/-- A program is along its history wherever it comes to. -/
theorem along_of_reaches (hx : Reaches db p x) : x.Along db p := by
  induction hx with
  | refl => exact .going (h := []) .nil nofun fun _ _ hp => hp
  | tail _ hs ih => exact ih.step hs

/-- A program that has come to its end has the history that it was told. -/
theorem history_of_finished {r : α} (hx : Reaches db p x) (hdone : x.work = .going (pure r)) :
    ∃ h, Answered p h r ∧ ∀ reply ∈ replies h, db reply.1 reply.2 := by
  cases along_of_reaches hx with
  | @going h log rest _ hdb hrest =>
    obtain rfl : rest = pure r := Work.going.inj hdone
    have hp := hrest [] r (.done r)
    rw [List.append_nil] at hp
    exact ⟨h, hp, hdb⟩
  | waiting => cases hdone

/-! ### Batches -/

/-- What follows in a list on a part of it, or lies in that part. -/
theorem mem_or_mem_of_append {β : Type} {l l' before after : List β} {b : β}
    (h : l ++ l' = before ++ b :: after) :
    (∃ after', l = before ++ b :: after') ∨ b ∈ l' ∧ ∀ c ∈ l, c ∈ before := by
  rcases List.append_eq_append_iff.1 h with ⟨mid, rfl, hl'⟩ | ⟨mid, rfl, hrest⟩
  · refine .inr ⟨?_, fun c hc => List.mem_append_left _ hc⟩
    rw [hl']
    exact List.mem_append_right _ List.mem_cons_self
  · cases mid with
    | nil =>
      rw [List.nil_append] at hrest
      refine .inr ⟨hrest ▸ List.mem_cons_self, ?_⟩
      rw [List.append_nil]
      exact fun c hc => hc
    | cons c mid =>
      obtain ⟨rfl, -⟩ := List.cons.inj hrest
      exact .inl ⟨mid, rfl⟩

/-- A question is asked by a program, and these are the numbers of its calls. -/
structure Batch (p : Action α) (first : Nat) (calls : List Call) : Prop where
  exists_history : ∃ h q a h' r, Answered p (h ++ ⟨q, a⟩ :: h') r ∧ first = (sent h).length ∧
    calls = q.calls

/-- When a call is made, all calls of earlier batches have ended. -/
theorem batch_of_started {n : Nat} {call : Call} {before after : List Event}
    (hx : Reaches db p x) (hlog : x.log = before ++ .started n call :: after) :
    ∃ first calls, Batch p first calls ∧ first ≤ n ∧ calls[n - first]? = some call ∧
      ∀ m < first, ∃ a, .ended m a ∈ before := by
  induction hx generalizing after with
  | refl => cases before <;> cases hlog
  | @tail x y hx hs ih =>
    cases hs with
    | @ask log issued q next =>
      rcases mem_or_mem_of_append hlog with ⟨after', hbefore⟩ | ⟨hnew, hold⟩
      · exact ih hbefore
      · cases along_of_reaches hx with
        | @going h _ _ hperm _ hrest =>
          -- any answer to the question shows that it is one of the program
          have hnext := answered_carryOut oblige (next (oblige q))
          have hbatch : Batch p (sent h).length q.calls :=
            ⟨h, q, oblige q, _, _, hrest _ _ (.ask (oblige q) hnext), rfl, rfl⟩
          obtain ⟨hfirst, hcall⟩ := mem_starts.1 hnew
          refine ⟨_, _, hbatch, hfirst, hcall, fun m hm => ?_⟩
          obtain ⟨a, ha⟩ := exists_told hm
          exact ⟨a, hold _ (hperm.mem_iff.2 (ended_mem_entries.2 ha))⟩
    | finish =>
      rcases mem_or_mem_of_append hlog with ⟨after', hbefore⟩ | ⟨hnew, -⟩
      · exact ih hbefore
      · cases List.mem_singleton.1 hnew
    | goOn => exact ih hlog

/-! ### Calls in progress -/

/-- The number of a call that is made. -/
def Event.started? : Event → Option Nat
  | .started n _ => some n
  | .ended _ _ => none

/-- The number of a call that ends. -/
def Event.ended? : Event → Option Nat
  | .started _ _ => none
  | .ended n _ => some n

/-- The numbers of the calls that were made and have not ended. -/
def inProgress (log : List Event) : List Nat :=
  (log.filterMap Event.started?).filter fun n => n ∉ log.filterMap Event.ended?

theorem numbers_of_entries {log : List Event} {calls : List Call}
    {answers : List (Option (Except Database.Error Unit))}
    (hlog : log.Perm (entries calls answers)) :
    (log.filterMap Event.started?).Perm (List.range calls.length) := by
  have hstarts : (starts 0 calls).filterMap Event.started? = List.range calls.length := by
    rw [starts, List.filterMap_map, List.range_eq_range', ← List.zipIdx_map_snd 0 calls]
    exact congrFun List.filterMap_eq_map _
  have hendings : (endings 0 answers).filterMap Event.started? = [] := by
    rw [endings, List.filterMap_filterMap, List.filterMap_eq_nil_iff]
    intro p _
    cases p.1 <;> rfl
  have hfilter := hlog.filterMap Event.started?
  rwa [entries, List.filterMap_append, hstarts, hendings, List.append_nil] at hfilter

theorem mem_inProgress {log : List Event} {calls : List Call}
    {answers : List (Option (Except Database.Error Unit))}
    (hlog : log.Perm (entries calls answers)) {n : Nat} :
    n ∈ inProgress log ↔ n < calls.length ∧ ∀ a, answers[n]? ≠ some (some a) := by
  rw [inProgress, List.mem_filter, (numbers_of_entries hlog).mem_iff, List.mem_range,
    decide_eq_true_iff]
  refine and_congr_right fun _ => ?_
  simp only [List.mem_filterMap, not_exists, not_and]
  constructor
  · intro hnone a ha
    exact hnone _ (hlog.mem_iff.2 (ended_mem_entries.2 ha)) rfl
  · intro hnone e he hn
    cases e with
    | started m call => cases hn
    | ended m a =>
      cases hn
      exact hnone a (ended_mem_entries.1 (hlog.mem_iff.1 he))

theorem nodup_inProgress {log : List Event} {calls : List Call}
    {answers : List (Option (Except Database.Error Unit))}
    (hlog : log.Perm (entries calls answers)) : (inProgress log).Nodup :=
  ((numbers_of_entries hlog).nodup_iff.2 List.nodup_range).filter _

/-- The calls in progress are of one batch. -/
theorem inProgress_of_reaches (hx : Reaches db p x) :
    inProgress x.log = [] ∨ ∃ first calls, Batch p first calls ∧
      (inProgress x.log).length ≤ calls.length ∧
      ∀ n ∈ inProgress x.log, first ≤ n ∧ n < first + calls.length := by
  cases along_of_reaches hx with
  | @going h log _ hlog _ _ =>
    refine .inl (List.eq_nil_iff_forall_not_mem.2 fun n hn => ?_)
    obtain ⟨hlt, hnone⟩ := (mem_inProgress hlog).1 hn
    obtain ⟨a, ha⟩ := exists_told hlt
    exact hnone a ha
  | @waiting h log q answers next hlog _ hlength _ hrest =>
    have hnext := answered_carryOut oblige (next (oblige q))
    have hbetween : ∀ n ∈ inProgress log, (sent h).length ≤ n ∧
        n < (sent h).length + q.calls.length := by
      intro n hn
      obtain ⟨hlt, hnone⟩ := (mem_inProgress hlog).1 hn
      refine ⟨Nat.le_of_not_lt fun hearlier => ?_, by simpa using hlt⟩
      obtain ⟨a, ha⟩ := exists_told hearlier
      refine hnone a ?_
      rwa [List.getElem?_append_left (by rwa [length_told])]
    refine .inr ⟨_, _, ⟨h, q, oblige q, _, _, hrest _ _ _ hnext, rfl, rfl⟩, ?_, hbetween⟩
    have hsub : inProgress log ⊆ List.range' (sent h).length q.calls.length := fun n hn =>
      List.mem_range'_1.2 (hbetween n hn)
    simpa using (List.subperm_of_subset (nodup_inProgress hlog) hsub).length_le

/-! ### Coming to an end -/

/-- The calls of a question can be answered in any way. -/
def Question.conclude : (q : Question) → List (Except Database.Error Unit) → Answer q
  | .execute _ _, r :: _ => r
  | .fetchInteger _ _, r :: _ => r.map fun _ => 0
  | .fetchTexts _ _, r :: _ => r.map fun _ => []
  | .executeAll _ ss, results => concludeAll ss results
  | q, _ => oblige q
where
  /-- The results of statements in order. -/
  concludeAll : (ss : List Statement) → List (Except Database.Error Unit) → Results ss
    | [], _ => ()
    | _ :: ss, r :: results => (r, concludeAll ss results)
    | s :: ss, [] => oblige.obligeAll (s :: ss)

theorem pairResults_concludeAll (c : String) {ss : List Statement}
    {answers : List (Except Database.Error Unit)} (hlength : answers.length = ss.length) :
    (pairResults c ss (Question.conclude.concludeAll ss answers)).map Prod.snd = answers := by
  induction ss generalizing answers with
  | nil => exact (List.eq_nil_of_length_eq_zero hlength).symm
  | cons s ss ih =>
    obtain ⟨r, answers, rfl⟩ := List.exists_cons_of_length_eq_add_one hlength
    exact congrArg (r :: ·) (ih (Nat.succ.inj hlength))

theorem replies_conclude {q : Question} {answers : List (Except Database.Error Unit)}
    (hlength : answers.length = q.calls.length) :
    (q.replies (q.conclude answers)).map Prod.snd = answers := by
  cases q with
  | executeAll c ss => exact pairResults_concludeAll c (by simpa [Question.calls] using hlength)
  | execute c s =>
    obtain ⟨r, rfl⟩ := List.length_eq_one_iff.1 hlength
    rfl
  | fetchInteger c s | fetchTexts c s =>
    obtain ⟨r, rfl⟩ := List.length_eq_one_iff.1 hlength
    cases r <;> rfl
  | connect | inspect | record | now => exact (List.eq_nil_of_length_eq_zero hlength).symm

section Ends

variable (log : List Event) (issued first : Nat) {q : Question} (next : Answer q → Action α)

theorem Site.Step.conclude {answers : List (Except Database.Error Unit)}
    (hlength : answers.length = q.calls.length) :
    Step db ⟨log, issued, .waiting first q (answers.map some) next⟩
      ⟨log, issued, .going (next (q.conclude answers))⟩ := by
  have htold : answers.map some =
      (q.replies (q.conclude answers)).map fun reply => some reply.2 := by
    rw [← replies_conclude hlength, List.map_map, replies_conclude hlength]
    rfl
  rw [htold]
  exact .goOn (q.conclude answers)

/-- Calls that are waited for can all end. -/
theorem exists_all_ended (hdb : ∀ c, ∃ a, db c a) (ended : List (Except Database.Error Unit))
    (others : List (Option (Except Database.Error Unit)))
    (hlength : ended.length + others.length = q.calls.length) :
    ∃ (log' : List Event) (answers : List (Except Database.Error Unit)),
      answers.length = q.calls.length ∧
      ReflTransGen (Site.Step db) ⟨log, issued, .waiting first q (ended.map some ++ others) next⟩
        ⟨log', issued, .waiting first q (answers.map some) next⟩ := by
  induction others generalizing ended log with
  | nil => exact ⟨log, ended, hlength, by rw [List.append_nil]⟩
  | cons b others ih =>
    have hnext : ∀ a, (ended ++ [a]).length + others.length = q.calls.length := by
      intro a
      simp only [List.length_append, List.length_cons, List.length_nil] at hlength ⊢
      omega
    have hmoved : ∀ a, (ended ++ [a]).map some ++ others = ended.map some ++ some a :: others := by
      simp
    cases b with
    | some a => simpa only [hmoved] using ih log (ended ++ [a]) (hnext a)
    | none =>
      have hlt : ended.length < q.calls.length := by
        simp only [List.length_cons] at hlength
        omega
      obtain ⟨a, ha⟩ := hdb q.calls[ended.length]
      obtain ⟨log', answers, hanswers, hsteps⟩ :=
        ih (log ++ [.ended (first + ended.length) a]) (ended ++ [a]) (hnext a)
      refine ⟨log', answers, hanswers, .head ?_ hsteps⟩
      have hfinish : Site.Step db
          ⟨log, issued, .waiting first q (ended.map some ++ none :: others) next⟩
          ⟨log ++ [.ended (first + ended.length) a], issued,
            .waiting first q ((ended.map some ++ none :: others).set ended.length (some a)) next⟩ :=
        .finish (List.getElem?_eq_getElem hlt) (by simp) ha
      simpa using hfinish

end Ends

/-- A program that goes on can be brought to its end. -/
theorem exists_finished_of_going (hdb : ∀ c, ∃ a, db c a) (rest : Action α) (log : List Event)
    (issued : Nat) :
    ∃ y r, ReflTransGen (Site.Step db) ⟨log, issued, .going rest⟩ y ∧ y.work = .going (pure r) := by
  induction rest generalizing log issued with
  | done r => exact ⟨_, r, .refl, rfl⟩
  | ask q next ih =>
    obtain ⟨log', answers, hlength, hsteps⟩ := exists_all_ended (log ++ starts issued q.calls)
      (issued + q.calls.length) issued next hdb [] (q.calls.map fun _ => none) (by simp)
    obtain ⟨y, r, hrest, hy⟩ := ih (q.conclude answers) log' (issued + q.calls.length)
    exact ⟨y, r, .head .ask (hsteps.trans (.head (.conclude _ _ _ _ hlength) hrest)), hy⟩

/-- A program can be brought to its end from wherever it comes to. -/
theorem exists_finished (hdb : ∀ c, ∃ a, db c a) (hx : Reaches db p x) :
    ∃ y r, ReflTransGen (Site.Step db) x y ∧ y.work = .going (pure r) := by
  cases along_of_reaches hx with
  | going => exact exists_finished_of_going hdb _ _ _
  | @waiting h log q answers next _ _ hlength =>
    obtain ⟨log', answers', hlength', hsteps⟩ := exists_all_ended log
      ((sent h).length + q.calls.length) (sent h).length next hdb [] answers
      (by simpa using hlength)
    obtain ⟨y, r, hrest, hy⟩ := exists_finished_of_going hdb (next (q.conclude answers')) log'
      ((sent h).length + q.calls.length)
    exact ⟨y, r, hsteps.trans (.head (.conclude _ _ _ _ hlength') hrest), hy⟩

/-! ### Carrying a program out in a chosen order -/

/-- One thing happens: of the calls that are waited for, the one at this place ends if it has not,
or else the program goes on if it can. -/
def Site.turn (reply : Call → Except Database.Error Unit) (x : Site α) (n : Nat) : Site α :=
  match x.work with
  | .going (.done _) => x
  | .going (.ask q next) =>
    ⟨x.log ++ starts x.issued q.calls, x.issued + q.calls.length,
      .waiting x.issued q (q.calls.map fun _ => none) next⟩
  | .waiting first q answers next =>
    match q.calls[n]?, answers[n]? with
    | some call, some none =>
      ⟨x.log ++ [.ended (first + n) (reply call)], x.issued,
        .waiting first q (answers.set n (some (reply call))) next⟩
    | _, _ =>
      if answers.all Option.isSome then
        ⟨x.log, x.issued, .going (next (q.conclude (answers.filterMap id)))⟩
      else x

theorem map_some_filterMap {β : Type} {l : List (Option β)} (h : l.all Option.isSome = true) :
    (l.filterMap id).map some = l := by
  induction l with
  | nil => rfl
  | cons b l ih =>
    obtain ⟨hb, hl⟩ := Bool.and_eq_true_iff.1 h
    obtain ⟨b, rfl⟩ := Option.isSome_iff_exists.1 hb
    exact congrArg (some b :: ·) (ih hl)

theorem Reaches.turn {reply : Call → Except Database.Error Unit}
    (hdb : ∀ call, db call (reply call)) (hx : Reaches db p x) (n : Nat) :
    Reaches db p (x.turn reply n) := by
  have halong := along_of_reaches hx
  obtain ⟨log, issued, work⟩ := x
  unfold Site.turn
  dsimp only
  split
  · exact hx
  · exact hx.tail .ask
  · next first q answers next =>
    split
    · next hcall hopen => exact hx.tail (.finish hcall hopen (hdb _))
    · split
      · next hall =>
        have hsome := map_some_filterMap hall
        have hlength : (answers.filterMap id).length = q.calls.length := by
          cases halong with
          | waiting _ _ hlength => rw [← hlength, ← hsome, List.length_map, hsome]
        rw [← hsome] at hx
        exact hx.tail (.conclude _ _ _ _ hlength)
      · exact hx

/-- What happens turn by turn can happen. -/
theorem Reaches.turns {reply : Call → Except Database.Error Unit}
    (hdb : ∀ call, db call (reply call)) (places : List Nat) (hx : Reaches db p x) :
    Reaches db p (places.foldl (Site.turn reply) x) := by
  induction places generalizing x with
  | nil => exact hx
  | cons n places ih => exact ih (hx.turn hdb n)

end BulkImport.Import
