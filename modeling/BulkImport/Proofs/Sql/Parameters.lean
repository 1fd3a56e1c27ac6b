import BulkImport.Proofs.Sql.Substitution

/-!
# Where parameters go in a substitution

The expansion of a template comes to the template itself and to the fragments that the holes of its
text name, to those that their holes name, and so on (`Expanding`).  A substitution that succeeds
has the expansion of each of them in its text (`Expanding.expands`).

Its parameters are another matter: whatever parameters the fragments have, it comes to the same
(`Alike.substitute_eq`).  Main statement: a substitution carries the parameters of all that is
expanded when the template itself has them, and not otherwise (`params_carried`).
-/

namespace BulkImport.Sql

/-- A template with those around it, the innermost first, to which the expansion of a root comes:
the root itself, or a fragment that a hole in the text of the innermost names. -/
inductive Expanding (root : Template) : List Template → Prop where
  | root : Expanding root [root]
  | hole {t fragment : Template} {around : List Template} {ps : List Piece} {name : String}
      (hinside : Expanding root (t :: around)) (hread : Reads t.text.toList ps)
      (hhole : .hole (.fragment name) ∈ ps) (hname : t.fragments.lookup name = some fragment) :
      Expanding root (fragment :: t :: around)

/-- A statement has every parameter of what was expanded, those of the root first and in their
places. -/
structure Carries (root : Template) (s : Statement) : Prop where
  every : ∀ t around, Expanding root (t :: around) → ∀ p ∈ t.params, p ∈ s.params
  own : root.params <+: s.params

/-! ### The text -/

theorem part_of_fill {resolve : Hole → Except TemplateError (List Char)} {hole : Hole}
    {ps : List Piece} {cs : List Char} (h : fill resolve ps = .ok cs) (hhole : .hole hole ∈ ps) :
    ∃ filled, resolve hole = .ok filled ∧ filled <:+: cs := by
  induction ps generalizing cs with
  | nil => cases hhole
  | cons piece ps ih =>
    cases piece with
    | char c =>
      obtain ⟨after, hafter, hend⟩ := bind_eq_ok_iff.1 h
      obtain rfl := Except.ok.inj hend
      obtain ⟨filled, hfilled, hpart⟩ := ih hafter (by simpa using hhole)
      exact ⟨filled, hfilled, hpart.trans (List.suffix_cons c after).isInfix⟩
    | hole first =>
      obtain ⟨text, htext, hothers⟩ := bind_eq_ok_iff.1 h
      obtain ⟨after, hafter, hend⟩ := bind_eq_ok_iff.1 hothers
      obtain rfl := Except.ok.inj hend
      rcases List.mem_cons.1 hhole with hfirst | hlater
      · cases hfirst
        exact ⟨text, htext, (List.prefix_append text after).isInfix⟩
      · obtain ⟨filled, hfilled, hpart⟩ := ih hafter hlater
        exact ⟨filled, hfilled, hpart.trans (List.suffix_append text after).isInfix⟩

/-- What is expanded inside templates, and comes to this text. -/
structure ExpandsTo (t : Template) (around : List Template) (cs : List Char) : Prop where
  shallow : around.length ≤ fragmentLevels
  expand_eq : Template.expand (fragmentLevels - around.length + 1) (scope around) t = .ok cs

namespace ExpandsTo

variable {t fragment : Template} {around : List Template} {cs : List Char}

/-- One hole further inside. -/
theorem hole {ps : List Piece} {name : String} (h : ExpandsTo t around cs)
    (hread : Reads t.text.toList ps) (hhole : .hole (.fragment name) ∈ ps)
    (hname : t.fragments.lookup name = some fragment) :
    ∃ inner, ExpandsTo fragment (t :: around) inner ∧ inner <:+: cs := by
  have hfill := h.expand_eq
  rw [Template.expand_succ, pieces, reads_iff.1 hread] at hfill
  obtain ⟨inner, hresolve, hpart⟩ := part_of_fill hfill hhole
  rw [Template.resolver, hname] at hresolve
  refine ⟨inner, ?_, hpart⟩
  -- on the last level no fragment is expanded any more
  cases hlevels : fragmentLevels - around.length with
  | zero =>
    rw [hlevels] at hresolve
    cases hresolve
  | succ levels =>
    rw [hlevels] at hresolve
    have hdeeper : fragmentLevels - (t :: around).length = levels := by
      rw [List.length_cons]
      omega
    refine ⟨?_, ?_⟩
    · rw [List.length_cons]
      omega
    · rw [hdeeper]
      exact hresolve

/-- An expansion meets texts only. -/
theorem meets (h : ExpandsTo t around cs) :
    ∃ (ps : List Piece) (texts : List (List Char)), Reads t.text.toList ps ∧
      Meets t around ps (texts.map .ok) ∧ cs = texts.flatten := by
  obtain ⟨ps, hread⟩ := exists_reads t.text.toList
  obtain ⟨leaves, hmeets⟩ := exists_meets t around ps
  have houtcome : outcome leaves = .ok cs := by
    rw [← hmeets.fill_eq h.shallow, ← reads_iff.1 hread]
    exact h.expand_eq
  obtain ⟨texts, rfl, rfl⟩ := outcome_eq_ok_iff.1 houtcome
  exact ⟨ps, texts, hread, hmeets, rfl⟩

end ExpandsTo

/-- All to which an expansion comes is expanded, and is in the text as it is expanded there. -/
theorem Expanding.expands {root t : Template} {around : List Template} {cs : List Char}
    (h : Expanding root (t :: around)) (hroot : ExpandsTo root [] cs) :
    ∃ inner, ExpandsTo t around inner ∧ inner <:+: cs := by
  generalize hnested : t :: around = nested at h
  induction h generalizing t around with
  | root =>
    cases hnested
    exact ⟨cs, hroot, List.infix_refl cs⟩
  | hole _ hread hhole hname ih =>
    cases hnested
    obtain ⟨outer, houter, hpart⟩ := ih rfl
    obtain ⟨inner, hinner, hinside⟩ := houter.hole hread hhole hname
    exact ⟨inner, hinner, hinside.trans hpart⟩

/-! ### The parameters -/

/-- Templates that differ in nothing but parameters, their own and those of their fragments. -/
inductive Alike : Template → Template → Prop where
  | intro {t t' : Template} (htext : t'.text = t.text) (hbindings : t'.bindings = t.bindings)
      (hnames : ∀ name, (t'.fragments.lookup name).isSome = (t.fragments.lookup name).isSome)
      (hfragments : ∀ name fragment fragment', t.fragments.lookup name = some fragment →
        t'.fragments.lookup name = some fragment' → Alike fragment fragment') : Alike t t'

namespace Alike

variable {t t' : Template}

/-- The parameters do not show in the text. -/
theorem expand_eq (h : Alike t t') (levels : Nat) (inherited : List (String × Value)) :
    Template.expand levels inherited t' = Template.expand levels inherited t := by
  induction h generalizing levels inherited with
  | @intro t t' htext hbindings hnames _ ih =>
    cases levels with
    | zero => rfl
    | succ levels =>
      have hresolver : t'.resolver levels inherited = t.resolver levels inherited := by
        funext hole
        cases hole with
        | «variable» name => rw [Template.resolver, Template.resolver, hbindings]
        | fragment name =>
          rw [Template.resolver, Template.resolver, hbindings]
          have hsame := hnames name
          cases hname : t.fragments.lookup name with
          | none =>
            rw [hname, Option.isSome_none, Option.isSome_eq_false_iff, Option.isNone_iff_eq_none]
              at hsame
            rw [hsame]
          | some fragment =>
            rw [hname, Option.isSome_some, Option.isSome_iff_exists] at hsame
            obtain ⟨fragment', hname'⟩ := hsame
            rw [hname']
            exact ih name fragment fragment' hname hname' levels _
      rw [Template.expand_succ, Template.expand_succ, htext, hresolver]

/-- A substitution depends on no parameters but those of the template itself. -/
theorem substitute_eq (h : Alike t t') (hparams : t'.params = t.params) :
    t'.substitute = t.substitute := by
  rw [Template.substitute, Template.substitute, h.expand_eq, hparams]

end Alike

/-- A substitution has all that is expanded in its text, and of the parameters those of the template
itself.  So it carries every parameter when what is expanded has no others, and not otherwise;
which others the fragments have makes no difference. -/
theorem params_carried {t : Template} {s : Statement} (h : t.substitute = .ok s) :
    s.params = t.params ∧
      (∀ inner around, Expanding t (inner :: around) →
        ∃ (ps : List Piece) (texts : List (List Char)), Reads inner.text.toList ps ∧
          Meets inner around ps (texts.map .ok) ∧ texts.flatten <:+: s.text.toList) ∧
      (Carries t s ↔ ∀ inner around, Expanding t (inner :: around) →
        ∀ p ∈ inner.params, p ∈ t.params) ∧
      ∀ t', Alike t t' → t'.params = t.params → t'.substitute = .ok s := by
  obtain ⟨cs, hexpand, hs⟩ := bind_eq_ok_iff.1 h
  obtain rfl := Except.ok.inj hs
  have hroot : ExpandsTo t [] cs := ⟨Nat.zero_le _, hexpand⟩
  refine ⟨rfl, fun inner around hinner => ?_, ?_, fun t' halike hparams => ?_⟩
  · obtain ⟨inside, hinside, hpart⟩ := hinner.expands hroot
    obtain ⟨ps, texts, hread, hmeets, rfl⟩ := hinside.meets
    exact ⟨ps, texts, hread, hmeets, by rwa [String.toList_ofList]⟩
  · exact ⟨fun hcarries => hcarries.every, fun hown => ⟨hown, List.prefix_refl _⟩⟩
  · rw [halike.substitute_eq hparams, h]

/-- A call whose argument is bound where the call is written, which is not where it stands. -/
def boundCall : Template where
  text := "SELECT $\x7b\x7bf\x7d\x7d"
  fragments := [("f", { text := "f($1)", params := ["p"] })]

theorem boundCall_substituted : boundCall.substitute = .ok ⟨"SELECT f($1)", []⟩ := rfl

/-- The statement of the call has no argument, as the template around it has none. -/
theorem boundCall_params :
    ∃ s, boundCall.substitute = .ok s ∧ s.params = boundCall.params :=
  ⟨_, boundCall_substituted, (params_carried boundCall_substituted).1⟩

/-- Not every parameter that is bound on what is expanded is carried. -/
theorem params_not_carried :
    ¬ ∀ (t : Template) (s : Statement), t.substitute = .ok s → Carries t s := by
  intro hall
  have hcarries := hall _ _ boundCall_substituted
  have hinner : Expanding boundCall [{ text := "f($1)", params := ["p"] }, boundCall] := by
    refine @Expanding.hole boundCall boundCall _ [] _ "f" .root (reads_iff.2 rfl) ?_ rfl
    decide
  cases hcarries.every _ _ hinner "p" (List.mem_singleton_self _)

end BulkImport.Sql
