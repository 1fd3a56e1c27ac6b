import BulkImport.Proofs.Sql.Expansion

/-!
# What a template means

A template text is read once, from left to right: where a hole stands that is what is read, and
where none stands a character (`Reads`).  Every text can be read, in one way only, and cutting it
into pieces reads it (`reads_iff`).

The expansion of a template meets texts and faults, from left to right and depth first (`Meets`): a
variable has the value that the innermost of the templates around it binds (`Binds`), and a fragment
is looked for in the template itself only.  What a hole is filled with is nowhere read again.  Main
statement: a substitution gives the texts that are met, one after the other, where no fault is met,
and the first fault otherwise (`Template.substitute_iff`).
-/

namespace BulkImport.Sql

/-! ### Reading a text -/

/-- The characters of names: Latin letters, digits and the underscore. -/
def NameChar (c : Char) : Prop :=
  ('A' ≤ c ∧ c ≤ 'Z') ∨ ('a' ≤ c ∧ c ≤ 'z') ∨ ('0' ≤ c ∧ c ≤ '9') ∨ c = '_'

namespace Hole

/-- The characters of a hole as it is written. -/
def source : Hole → List Char
  | .variable name => (variableHole name).toList
  | .fragment name => (fragmentHole name).toList

/-- The name of a hole is not empty and has no other characters than names have. -/
def Named : Hole → Prop
  | .variable name | .fragment name => name ≠ "" ∧ ∀ c ∈ name.toList, NameChar c

/-- The hole stands at the front of a text, before this rest of it. -/
def Opens (hole : Hole) (cs rest : List Char) : Prop := hole.Named ∧ cs = hole.source ++ rest

end Hole

/-- What is read in a text, once from left to right. -/
inductive Reads : List Char → List Piece → Prop where
  | nothing : Reads [] []
  | hole {hole : Hole} {cs rest : List Char} {ps : List Piece} (hopens : hole.Opens cs rest)
      (hrest : Reads rest ps) : Reads cs (.hole hole :: ps)
  | char {c : Char} {cs : List Char} {ps : List Piece}
      (hplain : ∀ hole rest, ¬ Hole.Opens hole (c :: cs) rest) (hrest : Reads cs ps) :
      Reads (c :: cs) (.char c :: ps)

theorem isHoleChar_iff (c : Char) : isHoleChar c = true ↔ NameChar c := by
  have hbetween : ∀ a b : Char, (decide (a ≤ c) && decide (c ≤ b)) = true ↔ a ≤ c ∧ c ≤ b := by
    simp
  have hupper : c.isUpper = true ↔ 'A' ≤ c ∧ c ≤ 'Z' := decide_eq_true_iff
  have hlower : c.isLower = true ↔ 'a' ≤ c ∧ c ≤ 'z' := hbetween 'a' 'z'
  have hdigit : c.isDigit = true ↔ '0' ≤ c ∧ c ≤ '9' := hbetween '0' '9'
  have hletter : c.isAlpha = (c.isUpper || c.isLower) := rfl
  simp only [isHoleChar, Char.isAlphanum, hletter, Bool.or_eq_true, beq_iff_eq, hupper, hlower,
    hdigit, or_assoc, NameChar]

theorem namesHole_iff (name : String) :
    namesHole name = true ↔ name ≠ "" ∧ ∀ c ∈ name.toList, NameChar c := by
  simp [namesHole, isHoleChar_iff]

theorem holeName?_eq_some {cs name rest : List Char} (h : holeName? cs = some (name, rest)) :
    cs = name ++ rest ∧ namesHole (String.ofList name) = true := by
  unfold holeName? at h
  split at h
  · cases h
  · next hne =>
    cases h
    refine ⟨List.takeWhile_append_dropWhile.symm, ?_⟩
    have hsome : (cs.takeWhile isHoleChar).isEmpty = false := by simpa using hne
    have hall : (cs.takeWhile isHoleChar).all isHoleChar = true := List.all_takeWhile
    simp [namesHole, hsome, hall]

/-- A hole is found only where it stands. -/
theorem opens_of_hole? {cs : List Char} {hole : Hole} {more : Nat}
    (h : hole? cs = some (hole, more)) : ∃ rest, hole.Opens cs rest := by
  unfold hole? at h
  split at h
  · split at h
    · next name rest hname =>
      cases h
      obtain ⟨rfl, hnamed⟩ := holeName?_eq_some hname
      exact ⟨rest, (namesHole_iff _).1 hnamed, by simp [Hole.source, fragmentHole]⟩
    · cases h
  · split at h
    · next name rest hname =>
      cases h
      obtain ⟨rfl, hnamed⟩ := holeName?_eq_some hname
      exact ⟨rest, (namesHole_iff _).1 hnamed, by simp [Hole.source, variableHole]⟩
    · cases h
  · cases h

/-- A hole that stands at the front of a text is the first piece of it. -/
theorem Hole.Opens.piecesFrom {hole : Hole} {cs rest : List Char} (h : hole.Opens cs rest) :
    piecesFrom 0 cs = .hole hole :: piecesFrom 0 rest := by
  obtain ⟨hnamed, rfl⟩ := h
  cases hole with
  | «variable» name => exact piecesFrom_variableHole ((namesHole_iff name).2 hnamed) rest
  | fragment name => exact piecesFrom_fragmentHole ((namesHole_iff name).2 hnamed) rest

theorem Hole.Opens.length_lt {hole : Hole} {cs rest : List Char} (h : hole.Opens cs rest) :
    rest.length < cs.length := by
  obtain ⟨-, rfl⟩ := h
  cases hole <;> simp [Hole.source, variableHole, fragmentHole] <;> omega

theorem Reads.pieces_eq {cs : List Char} {ps : List Piece} (h : Reads cs ps) :
    piecesFrom 0 cs = ps := by
  induction h with
  | nothing => rfl
  | hole hopens _ ih => rw [hopens.piecesFrom, ih]
  | @char c cs ps hplain _ ih =>
    have hnone : hole? (c :: cs) = none := by
      rw [Option.eq_none_iff_forall_ne_some]
      rintro ⟨hole, more⟩ hsome
      obtain ⟨rest, hopens⟩ := opens_of_hole? hsome
      exact hplain hole rest hopens
    rw [piecesFrom, hnone]
    exact congrArg _ ih

/-- Every text can be read. -/
theorem exists_reads (cs : List Char) : ∃ ps, Reads cs ps := by
  induction hn : cs.length using Nat.strongRecOn generalizing cs with
  | ind n ih =>
    cases cs with
    | nil => exact ⟨[], .nothing⟩
    | cons c cs =>
      by_cases hopens : ∃ hole rest, Hole.Opens hole (c :: cs) rest
      · obtain ⟨hole, rest, hopens⟩ := hopens
        obtain ⟨ps, hps⟩ := ih _ (hn ▸ hopens.length_lt) rest rfl
        exact ⟨_, .hole hopens hps⟩
      · obtain ⟨ps, hps⟩ := ih _ (by rw [← hn]; exact Nat.lt_succ_self _) cs rfl
        exact ⟨_, .char (fun hole rest h => hopens ⟨hole, rest, h⟩) hps⟩

/-- Cutting a text into pieces reads it, and it cannot be read in another way. -/
theorem reads_iff {cs : List Char} {ps : List Piece} : Reads cs ps ↔ piecesFrom 0 cs = ps := by
  refine ⟨Reads.pieces_eq, ?_⟩
  rintro rfl
  obtain ⟨ps, hps⟩ := exists_reads cs
  rwa [hps.pieces_eq]

example : pieces "$\x7b$\x7ba\x7d\x7d" =
    [.char '$', .char '\x7b', .hole (.variable "a"), .char '\x7d'] := by
  decide

/-! ### What an expansion meets -/

/-- The value of a variable on the way from a template outwards: the innermost binding holds. -/
inductive Binds : List Template → String → Value → Prop where
  | own {t : Template} {around : List Template} {name : String} {v : Value}
      (hown : t.bindings.lookup name = some v) : Binds (t :: around) name v
  | inherited {t : Template} {around : List Template} {name : String} {v : Value}
      (hnone : t.bindings.lookup name = none) (haround : Binds around name v) :
      Binds (t :: around) name v

/-- How many levels of fragments may be nested in a template. -/
def fragmentLevels : Nat := 16

/-- What the expansion of pieces of a template meets inside the templates around it, the innermost
of them first: texts, and what cannot be filled.  It goes on behind a fault. -/
inductive Meets : Template → List Template → List Piece →
    List (Except TemplateError (List Char)) → Prop where
  | nothing {t : Template} {around : List Template} : Meets t around [] []
  | char {t : Template} {around : List Template} {c : Char} {ps : List Piece}
      {leaves : List (Except TemplateError (List Char))} (hrest : Meets t around ps leaves) :
      Meets t around (.char c :: ps) (.ok [c] :: leaves)
  | bound {t : Template} {around : List Template} {name : String} {v : Value} {ps : List Piece}
      {leaves : List (Except TemplateError (List Char))} (hv : Binds (t :: around) name v)
      (hrest : Meets t around ps leaves) :
      Meets t around (.hole (.variable name) :: ps) (.ok v.render.toList :: leaves)
  | unbound {t : Template} {around : List Template} {name : String} {ps : List Piece}
      {leaves : List (Except TemplateError (List Char))} (hnone : ∀ v, ¬ Binds (t :: around) name v)
      (hrest : Meets t around ps leaves) :
      Meets t around (.hole (.variable name) :: ps) (.error (.unresolvedVariable name) :: leaves)
  | fragment {t fragment : Template} {around : List Template} {name : String} {ps qs : List Piece}
      {inner leaves : List (Except TemplateError (List Char))}
      (hname : t.fragments.lookup name = some fragment) (hlevel : around.length < fragmentLevels)
      (hread : Reads fragment.text.toList qs) (hinner : Meets fragment (t :: around) qs inner)
      (hrest : Meets t around ps leaves) :
      Meets t around (.hole (.fragment name) :: ps) (inner ++ leaves)
  | unattached {t : Template} {around : List Template} {name : String} {ps : List Piece}
      {leaves : List (Except TemplateError (List Char))} (hnone : t.fragments.lookup name = none)
      (hrest : Meets t around ps leaves) :
      Meets t around (.hole (.fragment name) :: ps) (.error (.unresolvedFragment name) :: leaves)
  | tooDeep {t fragment : Template} {around : List Template} {name : String} {ps : List Piece}
      {leaves : List (Except TemplateError (List Char))}
      (hname : t.fragments.lookup name = some fragment) (hlevel : fragmentLevels ≤ around.length)
      (hrest : Meets t around ps leaves) :
      Meets t around (.hole (.fragment name) :: ps) (.error .tooDeep :: leaves)

/-- The bindings of templates, those of the first one first. -/
def scope (around : List Template) : List (String × Value) := around.flatMap (·.bindings)

theorem lookup_scope {around : List Template} {name : String} {v : Value} :
    (scope around).lookup name = some v ↔ Binds around name v := by
  induction around with
  | nil =>
    constructor
    · nofun
    · nofun
  | cons t around ih =>
    rw [scope, List.flatMap_cons, List.lookup_append]
    cases hown : t.bindings.lookup name with
    | none =>
      rw [Option.none_or]
      constructor
      · exact fun h => .inherited hown (ih.1 h)
      · rintro (h | ⟨-, h⟩)
        · rw [hown] at h
          cases h
        · exact ih.2 h
    | some w =>
      rw [Option.some_or]
      constructor
      · rintro ⟨⟩
        exact .own hown
      · rintro (h | ⟨h, -⟩)
        · rw [← h, hown]
        · rw [hown] at h
          cases h

/-! ### The outcome of what is met -/

/-- The texts after one another, or the first fault. -/
def outcome : List (Except TemplateError (List Char)) → Except TemplateError (List Char)
  | [] => .ok []
  | .ok cs :: leaves => (outcome leaves).map (cs ++ ·)
  | .error e :: _ => .error e

theorem outcome_append (leaves leaves' : List (Except TemplateError (List Char))) :
    outcome (leaves ++ leaves') =
      outcome leaves >>= fun cs => (outcome leaves').map (cs ++ ·) := by
  induction leaves with
  | nil =>
    cases h : outcome leaves' <;> simp [outcome, h, ok_bind, Except.map]
  | cons leaf leaves ih =>
    cases leaf with
    | error e => rfl
    | ok cs =>
      rw [List.cons_append, outcome, ih, outcome]
      cases outcome leaves with
      | error e => rfl
      | ok ds =>
        cases outcome leaves' with
        | error e => rfl
        | ok es => exact congrArg Except.ok (List.append_assoc ..).symm

theorem outcome_eq_ok_iff {leaves : List (Except TemplateError (List Char))} {cs : List Char} :
    outcome leaves = .ok cs ↔
      ∃ texts : List (List Char), leaves = texts.map .ok ∧ cs = texts.flatten := by
  constructor
  · intro h
    induction leaves generalizing cs with
    | nil =>
      cases h
      exact ⟨[], rfl, rfl⟩
    | cons leaf leaves ih =>
      cases leaf with
      | error e => cases h
      | ok ds =>
        obtain ⟨es, hrest, rfl⟩ := map_eq_ok_iff.1 h
        obtain ⟨texts, rfl, rfl⟩ := ih hrest
        exact ⟨ds :: texts, rfl, rfl⟩
  · rintro ⟨texts, rfl, rfl⟩
    induction texts with
    | nil => rfl
    | cons text texts ih => exact map_eq_ok_iff.2 ⟨_, ih, rfl⟩

theorem outcome_eq_error_iff {leaves : List (Except TemplateError (List Char))}
    {e : TemplateError} :
    outcome leaves = .error e ↔
      ∃ (texts : List (List Char)) (after : _), leaves = texts.map .ok ++ .error e :: after := by
  constructor
  · intro h
    induction leaves with
    | nil => cases h
    | cons leaf leaves ih =>
      cases leaf with
      | error e' =>
        cases h
        exact ⟨[], leaves, rfl⟩
      | ok ds =>
        obtain ⟨texts, after, rfl⟩ := ih (map_eq_error_iff.1 h)
        exact ⟨ds :: texts, after, rfl⟩
  · rintro ⟨texts, after, rfl⟩
    induction texts with
    | nil => rfl
    | cons text texts ih => exact map_eq_error_iff.2 ih

/-! ### Expansions -/

theorem exists_meets_cons {t : Template} {around : List Template} {piece : Piece} {ps : List Piece}
    (hinner : around.length < fragmentLevels →
      ∀ fragment qs, ∃ inner, Meets fragment (t :: around) qs inner)
    (hrest : ∃ leaves, Meets t around ps leaves) :
    ∃ leaves, Meets t around (piece :: ps) leaves := by
  obtain ⟨leaves, hrest⟩ := hrest
  cases piece with
  | char c => exact ⟨_, .char hrest⟩
  | hole hole =>
    cases hole with
    | «variable» name =>
      by_cases hbound : ∃ v, Binds (t :: around) name v
      · obtain ⟨v, hv⟩ := hbound
        exact ⟨_, .bound hv hrest⟩
      · exact ⟨_, .unbound (fun v hv => hbound ⟨v, hv⟩) hrest⟩
    | fragment name =>
      cases hname : t.fragments.lookup name with
      | none => exact ⟨_, .unattached hname hrest⟩
      | some fragment =>
        by_cases hlevel : around.length < fragmentLevels
        · obtain ⟨qs, hread⟩ := exists_reads fragment.text.toList
          obtain ⟨inner, hinner⟩ := hinner hlevel fragment qs
          exact ⟨_, .fragment hname hlevel hread hinner hrest⟩
        · exact ⟨_, .tooDeep hname (Nat.le_of_not_lt hlevel) hrest⟩

/-- Every expansion meets something, as it ends at the deepest level. -/
theorem exists_meets (t : Template) (around : List Template) (ps : List Piece) :
    ∃ leaves, Meets t around ps leaves := by
  induction hn : fragmentLevels - around.length generalizing t around ps with
  | zero =>
    induction ps with
    | nil => exact ⟨[], .nothing⟩
    | cons piece ps ih => exact exists_meets_cons (fun hlevel => by omega) ih
  | succ n ihn =>
    induction ps with
    | nil => exact ⟨[], .nothing⟩
    | cons piece ps ih =>
      refine exists_meets_cons (fun _ fragment qs => ihn fragment (t :: around) qs ?_) ih
      rw [List.length_cons]
      omega

/-- A variable is filled with its innermost binding. -/
theorem resolver_variable {t : Template} {around : List Template} {levels : Nat} {name : String} :
    t.resolver levels (scope around) (.variable name) =
      match (scope (t :: around)).lookup name with
      | some v => .ok v.render.toList
      | none => .error (.unresolvedVariable name) := rfl

/-- An expansion comes to what it meets. -/
theorem Meets.fill_eq {t : Template} {around : List Template} {ps : List Piece}
    {leaves : List (Except TemplateError (List Char))} (h : Meets t around ps leaves)
    (hlevel : around.length ≤ fragmentLevels) :
    fill (t.resolver (fragmentLevels - around.length) (scope around)) ps = outcome leaves := by
  induction h with
  | nothing => rfl
  | char _ ih =>
    rw [fill, ih hlevel]
    rfl
  | bound hv _ ih =>
    rw [fill, ih hlevel, resolver_variable, lookup_scope.2 hv]
    rfl
  | @unbound t around name ps leaves hnone _ _ =>
    have hlookup : (scope (t :: around)).lookup name = none :=
      Option.eq_none_iff_forall_ne_some.2 fun v hv => hnone v (lookup_scope.1 hv)
    rw [fill, resolver_variable, hlookup]
    rfl
  | @fragment t fragment around name ps qs inner leaves hname hdeeper hread _ _ ihinner ih =>
    have hnext : fragmentLevels - around.length = (fragmentLevels - (t :: around).length) + 1 := by
      rw [List.length_cons]
      omega
    have hexpand : t.resolver (fragmentLevels - around.length) (scope around) (.fragment name) =
        outcome inner := by
      have hfilled := ihinner hdeeper
      rw [← reads_iff.1 hread] at hfilled
      rw [Template.resolver, hname, hnext]
      exact hfilled
    rw [fill, ih hlevel, hexpand, outcome_append]
    rfl
  | unattached hnone _ _ =>
    rw [fill, Template.resolver, hnone]
    rfl
  | @tooDeep t fragment around name ps leaves hname hdeep _ _ =>
    have hlast : fragmentLevels - around.length = 0 := by omega
    rw [fill, Template.resolver, hname, hlast]
    rfl

/-- What the expansion of a template meets that is inside no other. -/
def Template.Meets (t : Template) (leaves : List (Except TemplateError (List Char))) : Prop :=
  ∃ ps, Reads t.text.toList ps ∧ Sql.Meets t [] ps leaves

theorem substitute_eq_outcome {t : Template} {leaves : List (Except TemplateError (List Char))}
    (h : t.Meets leaves) :
    t.substitute.map (·.text) = (outcome leaves).map String.ofList := by
  obtain ⟨ps, hread, hmeets⟩ := h
  have hexpand : Template.expand Template.maxLevels [] t = outcome leaves := by
    rw [← hmeets.fill_eq (Nat.zero_le _), ← reads_iff.1 hread]
    rfl
  rw [Template.substitute, hexpand]
  cases outcome leaves <;> rfl

/-- A template that is substituted gives the texts that its expansion meets, one after the other,
when it meets no fault; otherwise it fails with the first fault that it meets. -/
theorem Template.substitute_iff (t : Template) :
    (∀ text, t.substitute.map (·.text) = .ok text ↔
        ∃ texts : List (List Char), t.Meets (texts.map .ok) ∧ text = String.ofList texts.flatten) ∧
      ∀ e, t.substitute.map (·.text) = .error e ↔
        ∃ (texts : List (List Char)) (after : List (Except TemplateError (List Char))),
          t.Meets (texts.map .ok ++ .error e :: after) := by
  -- there is one thing that the expansion meets
  obtain ⟨ps, hread⟩ := exists_reads t.text.toList
  obtain ⟨leaves, hmeets⟩ := exists_meets t [] ps
  have hsome : t.Meets leaves := ⟨ps, hread, hmeets⟩
  constructor
  · intro text
    constructor
    · intro h
      rw [substitute_eq_outcome hsome] at h
      obtain ⟨cs, houtcome, rfl⟩ := map_eq_ok_iff.1 h
      obtain ⟨texts, rfl, rfl⟩ := outcome_eq_ok_iff.1 houtcome
      exact ⟨texts, hsome, rfl⟩
    · rintro ⟨texts, htexts, rfl⟩
      rw [substitute_eq_outcome htexts]
      exact map_eq_ok_iff.2 ⟨_, outcome_eq_ok_iff.2 ⟨texts, rfl, rfl⟩, rfl⟩
  · intro e
    constructor
    · intro h
      rw [substitute_eq_outcome hsome] at h
      obtain ⟨texts, after, rfl⟩ := outcome_eq_error_iff.1 (map_eq_error_iff.1 h)
      exact ⟨texts, after, hsome⟩
    · rintro ⟨texts, after, hfault⟩
      rw [substitute_eq_outcome hfault]
      exact map_eq_error_iff.2 (outcome_eq_error_iff.2 ⟨texts, after, rfl⟩)

end BulkImport.Sql
