import BulkImport.Sql.Template

/-!
# What templates expand to

A template text is written as plain texts and holes after one another, and expands to the plain
texts as they are with what the holes are filled with between them.  `Becomes` says so of a part of
a template text whatever text comes after it, so that the parts can be taken one by one.  Main
statement: a template whose text becomes another text makes the statement of that text
(`Template.build_of_becomes`).

Of a template text that begins with a plain text, every expansion begins with it too
(`Template.opening_of_build`).

A result that may be an error is taken apart by `bind_eq_ok_iff` and the lemmas beside it.
-/

namespace BulkImport.Sql

/-! ### What came of a step -/

section Steps

variable {ε ε' α β : Type} {x : Except ε α}

theorem ok_bind (a : α) (f : α → Except ε β) : (Except.ok a >>= f) = f a := rfl

theorem bind_eq_ok_iff {f : α → Except ε β} {b : β} :
    (x >>= f) = .ok b ↔ ∃ a, x = .ok a ∧ f a = .ok b := by
  cases x <;> simp [bind, Except.bind]

/-- The error of two steps is that of the first one that fails. -/
theorem bind_eq_error_iff {f : α → Except ε β} {e : ε} :
    (x >>= f) = .error e ↔ x = .error e ∨ ∃ a, x = .ok a ∧ f a = .error e := by
  cases x <;> simp [bind, Except.bind]

theorem map_eq_ok_iff {f : α → β} {b : β} : x.map f = .ok b ↔ ∃ a, x = .ok a ∧ f a = b := by
  cases x <;> simp [Except.map]

theorem map_eq_error_iff {f : α → β} {e : ε} : x.map f = .error e ↔ x = .error e := by
  cases x <;> simp [Except.map]

theorem mapError_eq_ok_iff {f : ε → ε'} {a : α} : x.mapError f = .ok a ↔ x = .ok a := by
  constructor
  · intro h
    cases x with
    | error e => cases h
    | ok b => exact congrArg Except.ok (Except.ok.inj h)
  · rintro rfl
    rfl

theorem mapError_eq_error_iff {f : ε → ε'} {e' : ε'} :
    x.mapError f = .error e' ↔ ∃ e, x = .error e ∧ e' = f e := by
  constructor
  · intro h
    cases x with
    | error e => exact ⟨e, rfl, (Except.error.inj h).symm⟩
    | ok a => cases h
  · rintro ⟨e, rfl, rfl⟩
    rfl

theorem toOption_eq_some {a : α} : x.toOption = some a ↔ x = .ok a := by
  cases x <;> simp [Except.toOption]

theorem Identifier.build_ok (i : Identifier) : Identifier.build (.ok i) = .ok i := rfl

/-- What needs a name can be made only where there is one. -/
theorem build_bind_eq_ok_iff {name : Except IdentifierError Identifier}
    {f : Identifier → Except BuildError β} {b : β} :
    (Identifier.build name >>= f) = .ok b ↔ ∃ i, name = .ok i ∧ f i = .ok b := by
  simp [bind_eq_ok_iff, Identifier.build, mapError_eq_ok_iff]

end Steps

/-! ### Cutting a text into pieces -/

/-- Whether no hole begins in a text: every dollar sign has another character than a brace after
it. -/
def opensNoHole : List Char → Bool
  | [] => true
  | c :: cs => (c != '$' || cs.head?.any (· != '\x7b')) && opensNoHole cs

theorem opensNoHole_of_plain {p : List Char} (hp : '$' ∉ p) : opensNoHole p = true := by
  induction p with
  | nil => rfl
  | cons c p ih =>
    simp only [List.mem_cons, not_or] at hp
    simp [opensNoHole, Ne.symm hp.1, ih hp.2]

/-- A text in which no hole begins is cut into its characters. -/
theorem piecesFrom_noHole {p : List Char} (hp : opensNoHole p = true) (cs : List Char) :
    piecesFrom 0 (p ++ cs) = p.map .char ++ piecesFrom 0 cs := by
  induction p with
  | nil => rfl
  | cons c p ih =>
    simp only [opensNoHole, Bool.and_eq_true] at hp
    have hplain : hole? (c :: (p ++ cs)) = none := by
      unfold hole?
      split
      · next heq => cases p <;> simp_all
      · next heq => cases p <;> simp_all
      · rfl
    rw [List.cons_append, piecesFrom, hplain, ih hp.2]
    rfl

theorem piecesFrom_plain {p : List Char} (hp : '$' ∉ p) (cs : List Char) :
    piecesFrom 0 (p ++ cs) = p.map .char ++ piecesFrom 0 cs :=
  piecesFrom_noHole (opensNoHole_of_plain hp) cs

theorem piecesFrom_skip (p cs : List Char) : piecesFrom p.length (p ++ cs) = piecesFrom 0 cs := by
  induction p with
  | nil => rfl
  | cons c p ih => rw [List.length_cons, List.cons_append, piecesFrom, ih]

/-- The name of a hole: at least one character, and only those that a name can have. -/
def namesHole (name : String) : Bool := !name.toList.isEmpty && name.toList.all isHoleChar

theorem holeName?_of_namesHole {name : String} (hname : namesHole name = true) (cs : List Char) :
    holeName? (name.toList ++ '\x7d' :: cs) = some (name.toList, '\x7d' :: cs) := by
  rw [namesHole, Bool.and_eq_true, List.all_eq_true] at hname
  have ht : (name.toList ++ '\x7d' :: cs).takeWhile isHoleChar = name.toList := by
    rw [List.takeWhile_append_of_pos hname.2, List.takeWhile_cons_of_neg (by decide),
      List.append_nil]
  have hd : (name.toList ++ '\x7d' :: cs).dropWhile isHoleChar = '\x7d' :: cs := by
    rw [List.dropWhile_append_of_pos hname.2, List.dropWhile_cons_of_neg (by decide)]
  unfold holeName?
  rw [ht, hd]
  cases hcs : name.toList with
  | nil => simp [hcs] at hname
  | cons c rest => rfl

theorem hole?_variableHole {name : String} (hname : namesHole name = true) (cs : List Char) :
    hole? ((variableHole name).toList ++ cs) = some (.variable name, name.toList.length + 2) := by
  have hsource : (variableHole name).toList ++ cs =
      '$' :: '\x7b' :: (name.toList ++ '\x7d' :: cs) := by
    simp [variableHole]
  have hfound := holeName?_of_namesHole hname cs
  rw [hsource]
  unfold hole?
  split
  · -- two braces: the name would begin with the second of them
    next heq =>
    simp only [List.cons.injEq, true_and] at heq
    rw [heq] at hfound
    simp only [holeName?, List.takeWhile_cons_of_neg (show ¬ isHoleChar '\x7b' by decide)] at hfound
    cases hfound
  · next heq =>
    simp only [List.cons.injEq, true_and] at heq
    subst heq
    rw [hfound]
    simp
  · next _ hnot => exact absurd rfl (hnot _)

theorem hole?_fragmentHole {name : String} (hname : namesHole name = true) (cs : List Char) :
    hole? ((fragmentHole name).toList ++ cs) = some (.fragment name, name.toList.length + 4) := by
  have hsource : (fragmentHole name).toList ++ cs =
      '$' :: '\x7b' :: '\x7b' :: (name.toList ++ '\x7d' :: '\x7d' :: cs) := by
    simp [fragmentHole]
  rw [hsource]
  unfold hole?
  simp only [holeName?_of_namesHole hname ('\x7d' :: cs), String.ofList_toList]

/-- A hole that is found at the front of a text is the first of its pieces. -/
theorem piecesFrom_hole {c : Char} {source cs : List Char} {hole : Hole}
    (h : hole? (c :: source ++ cs) = some (hole, source.length)) :
    piecesFrom 0 (c :: source ++ cs) = .hole hole :: piecesFrom 0 cs := by
  rw [List.cons_append] at h ⊢
  rw [piecesFrom, h]
  exact congrArg _ (piecesFrom_skip source cs)

theorem piecesFrom_variableHole {name : String} (hname : namesHole name = true)
    (cs : List Char) :
    piecesFrom 0 ((variableHole name).toList ++ cs) =
      .hole (.variable name) :: piecesFrom 0 cs := by
  have hsource : (variableHole name).toList = '$' :: ('\x7b' :: (name.toList ++ ['\x7d'])) := by
    simp [variableHole]
  have hfound := hole?_variableHole hname cs
  rw [hsource] at hfound ⊢
  exact piecesFrom_hole (by simpa using hfound)

theorem piecesFrom_fragmentHole {name : String} (hname : namesHole name = true)
    (cs : List Char) :
    piecesFrom 0 ((fragmentHole name).toList ++ cs) =
      .hole (.fragment name) :: piecesFrom 0 cs := by
  have hsource : (fragmentHole name).toList =
      '$' :: ('\x7b' :: '\x7b' :: (name.toList ++ ['\x7d', '\x7d'])) := by
    simp [fragmentHole]
  have hfound := hole?_fragmentHole hname cs
  rw [hsource] at hfound ⊢
  exact piecesFrom_hole (by simpa using hfound)

/-! ### Filling the pieces of a text -/

section Becomes

variable {resolve : Hole → Except TemplateError (List Char)}

theorem fill_chars (p : List Char) (ps : List Piece) :
    fill resolve (p.map .char ++ ps) = (fill resolve ps).map (p ++ ·) := by
  induction p with
  | nil => cases hps : fill resolve ps <;> simp [hps, Except.map]
  | cons c p ih =>
    rw [List.map_cons, List.cons_append, fill, ih]
    cases fill resolve ps <;> rfl

theorem fill_hole {hole : Hole} {filled : List Char} (h : resolve hole = .ok filled)
    (ps : List Piece) : fill resolve (.hole hole :: ps) = (fill resolve ps).map (filled ++ ·) := by
  rw [fill, h]
  cases fill resolve ps <;> rfl

/-- A part of a template text expands to this text, whatever comes after it. -/
def Becomes (resolve : Hole → Except TemplateError (List Char)) (source out : String) : Prop :=
  ∀ cs, fill resolve (piecesFrom 0 (source.toList ++ cs)) =
    (fill resolve (piecesFrom 0 cs)).map (out.toList ++ ·)

namespace Becomes

theorem plainText {s : String} (hs : '$' ∉ s.toList) : Becomes resolve s s := by
  intro cs
  rw [piecesFrom_plain hs, fill_chars]

theorem noHole {s : String} (hs : opensNoHole s.toList = true) : Becomes resolve s s := by
  intro cs
  rw [piecesFrom_noHole hs, fill_chars]

theorem variableHole {name out : String} (hname : namesHole name = true)
    (h : resolve (.variable name) = .ok out.toList) :
    Becomes resolve (Sql.variableHole name) out := by
  intro cs
  rw [piecesFrom_variableHole hname, fill_hole h]

theorem fragmentHole {name out : String} (hname : namesHole name = true)
    (h : resolve (.fragment name) = .ok out.toList) :
    Becomes resolve (Sql.fragmentHole name) out := by
  intro cs
  rw [piecesFrom_fragmentHole hname, fill_hole h]

theorem append {s s' out out' : String} (h : Becomes resolve s out)
    (h' : Becomes resolve s' out') : Becomes resolve (s ++ s') (out ++ out') := by
  intro cs
  rw [String.toList_append, List.append_assoc, h, h', String.toList_append]
  cases fill resolve (piecesFrom 0 cs) with
  | error e => rfl
  | ok rest => exact congrArg Except.ok (List.append_assoc ..).symm

/-- A text with more plain text at its end. -/
theorem text {s out p : String} (h : Becomes resolve s out) (hp : '$' ∉ p.toList) :
    Becomes resolve (s ++ p) (out ++ p) :=
  h.append (plainText hp)

/-- A text with a variable at its end. -/
theorem hole {s out name v : String} (h : Becomes resolve s out)
    (hname : namesHole name = true) (hv : resolve (.variable name) = .ok v.toList) :
    Becomes resolve (s ++ Sql.variableHole name) (out ++ v) :=
  h.append (variableHole hname hv)

theorem fill_pieces {s out : String} (h : Becomes resolve s out) :
    fill resolve (pieces s) = .ok out.toList := by
  have h := h []
  rw [List.append_nil] at h
  exact h.trans (congrArg Except.ok (List.append_nil _))

end Becomes

end Becomes

namespace Template

/-- What a hole of a template is filled with, inside templates that bind `inherited` and with so
many levels left for fragments. -/
def resolver (levels : Nat) (inherited : List (String × Value)) (t : Template) :
    Hole → Except TemplateError (List Char)
  | .variable name =>
    match (t.bindings ++ inherited).lookup name with
    | some value => .ok value.render.toList
    | none => .error (.unresolvedVariable name)
  | .fragment name =>
    match t.fragments.lookup name with
    | some fragment => expand levels (t.bindings ++ inherited) fragment
    | none => .error (.unresolvedFragment name)

theorem expand_succ (levels : Nat) (inherited : List (String × Value)) (t : Template) :
    expand (levels + 1) inherited t = fill (t.resolver levels inherited) (pieces t.text) := rfl

theorem expand_of_becomes {levels : Nat} {inherited : List (String × Value)} {t : Template}
    {out : String} (h : Becomes (t.resolver levels inherited) t.text out) :
    expand (levels + 1) inherited t = .ok out.toList := by
  rw [expand_succ, h.fill_pieces]

/-- A hole for a fragment is filled with what the fragment becomes. -/
theorem resolver_fragment {levels : Nat} {inherited : List (String × Value)}
    {t fragment : Template} {name out : String} (hname : t.fragments.lookup name = some fragment)
    (h : Becomes (fragment.resolver levels (t.bindings ++ inherited)) fragment.text out) :
    t.resolver (levels + 1) inherited (.fragment name) = .ok out.toList := by
  rw [resolver, hname]
  exact expand_of_becomes h

theorem substitute_of_becomes {t : Template} {out : String}
    (h : Becomes (t.resolver 16 []) t.text out) : t.substitute = .ok ⟨out, t.params⟩ := by
  rw [substitute, show maxLevels = 16 + 1 from rfl, expand_of_becomes h]
  exact congrArg (fun text => Except.ok (Statement.mk text t.params)) String.ofList_toList

theorem build_of_becomes {t : Template} {out : String}
    (h : Becomes (t.resolver 16 []) t.text out) : t.build = .ok ⟨out, t.params⟩ := by
  rw [build, substitute_of_becomes h]
  rfl

theorem opening_of_expand {levels : Nat} {inherited : List (String × Value)} {t : Template}
    {opening cs : List Char} (hplain : '$' ∉ opening) (ht : opening <+: t.text.toList)
    (h : expand (levels + 1) inherited t = .ok cs) : opening <+: cs := by
  -- a plain text is cut into characters, which are all kept
  obtain ⟨rest, ht⟩ := ht
  rw [expand_succ, pieces, ← ht, piecesFrom_plain hplain, fill_chars] at h
  obtain ⟨out, -, rfl⟩ := map_eq_ok_iff.1 h
  exact List.prefix_append _ _

theorem expand_of_build {t : Template} {s : Statement} (h : t.build = .ok s) :
    expand (16 + 1) [] t = .ok s.text.toList := by
  obtain ⟨cs, hexpand, rfl⟩ := map_eq_ok_iff.1 (mapError_eq_ok_iff.1 h)
  rw [String.toList_ofList]
  exact hexpand

/-- What a template text begins with, before its first hole, its expansion begins with. -/
theorem opening_of_build {t : Template} {opening : List Char} {s : Statement}
    (hplain : '$' ∉ opening) (ht : opening <+: t.text.toList) (h : t.build = .ok s) :
    opening <+: s.text.toList :=
  opening_of_expand hplain ht (expand_of_build h)

/-- Where a template text begins with a fragment, its expansion begins as the fragment does. -/
theorem opening_of_fragment {t fragment : Template} {name : String} {opening rest : List Char}
    {s : Statement} (hname : namesHole name = true)
    (ht : t.text.toList = (fragmentHole name).toList ++ rest)
    (hfragment : t.fragments.lookup name = some fragment) (hplain : '$' ∉ opening)
    (hopening : opening <+: fragment.text.toList) (h : t.build = .ok s) :
    opening <+: s.text.toList := by
  have hexpand := expand_of_build h
  have hresolve :
      t.resolver 16 [] (.fragment name) = expand (15 + 1) (t.bindings ++ []) fragment := by
    rw [resolver, hfragment]
  -- the fragment is the first piece, so its expansion comes before everything else
  rw [expand_succ, pieces, ht, piecesFrom_fragmentHole hname, fill, hresolve] at hexpand
  obtain ⟨first, hfirst, hothers⟩ := bind_eq_ok_iff.1 hexpand
  obtain ⟨after, -, hend⟩ := bind_eq_ok_iff.1 hothers
  rw [← Except.ok.inj hend]
  exact (opening_of_expand hplain hopening hfirst).trans (List.prefix_append _ _)

end Template

theorem Identifier.withSuffix_eq {i j : Identifier} {suffix : String}
    (h : i.text ++ suffix = j.text) :
    i.withSuffix suffix = .ok j := by
  rw [withSuffix, h, ofText_text]

end BulkImport.Sql
