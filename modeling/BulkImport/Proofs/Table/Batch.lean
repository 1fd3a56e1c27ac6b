import BulkImport.Proofs.Table.Verb
import Mathlib.Data.List.Nodup

/-!
# What a batch drops

The batch that drops indices binds a variable for each of them, under its place, and no two places
share one.  So the text of a batch that can be built says of every index, in order, that it is
dropped (`eq_of_dropIndicesStatement`).

Main statement: a batch is made exactly when all of its names are identifiers, and is then what one
gets by writing the removals after one another; otherwise it fails the preparation with the fault of
the first name that is none (`batch_rendered`).
-/

namespace BulkImport.Table

open BulkImport.Sql

theorem indexVariable_injective {i j : Nat} (h : indexVariable i = indexVariable j) : i = j := by
  have hplaces := congrArg String.toList h
  simp only [indexVariable, String.toList_append, List.append_cancel_left_eq] at hplaces
  have hdigits : Nat.toDigits 10 i = Nat.toDigits 10 j := by
    simpa [Nat.toString_eq_ofList_toDigits] using hplaces
  have hread := congrArg (fun digits => Nat.ofDigitChars 10 digits 0) hdigits
  simpa using hread

theorem namesHole_indexVariable (place : Nat) : namesHole (indexVariable place) = true := by
  have hdigits : (toString place).toList.all isHoleChar = true := by
    rw [List.all_eq_true]
    intro c hc
    rw [Nat.toString_eq_ofList_toDigits, String.toList_ofList] at hc
    have hdigit : c.isDigit = true := Nat.isDigit_of_mem_toDigits (by decide) (by decide) hc
    simp [isHoleChar, Char.isAlphanum, hdigit]
  rw [namesHole, indexVariable, String.toList_append, List.all_append, hdigits]
  rfl

theorem schema_ne_indexVariable (place : Nat) : "schema" ≠ indexVariable place := by
  intro h
  have hfirst := congrArg (fun s : String => s.toList.head?) h
  simp [indexVariable] at hfirst

/-- What a name is bound to in a batch with one more index. -/
theorem lookup_dropIndexToo (t : Template) (place : Nat) (index : Identifier) (name : String) :
    (dropIndexToo t place index).bindings.lookup name =
      if name = indexVariable place then some (.identifier index) else t.bindings.lookup name := by
  show ((indexVariable place, Value.identifier index) :: t.bindings).lookup name = _
  rw [List.lookup_cons]
  split <;> simp_all

/-- A batch that is made binds the names of the indices that are added no more than once. -/
theorem lookup_of_dropIndicesFrom {t t' : Template} {place : Nat} {names : List String}
    (h : dropIndicesFrom t place names = .ok t') {name : String}
    (hname : ∀ i, place ≤ i → name ≠ indexVariable i) :
    t'.bindings.lookup name = t.bindings.lookup name := by
  induction names generalizing t place with
  | nil =>
    cases h
    rfl
  | cons first names ih =>
    obtain ⟨index, -, h⟩ := build_bind_eq_ok_iff.1 h
    rw [ih h fun i hi => hname i (Nat.le_of_succ_le hi), lookup_dropIndexToo,
      if_neg (hname place (Nat.le_refl _))]

/-- The part of a batch that drops one index. -/
def dropText (schema : Identifier) (name : String) : String :=
  "DROP INDEX IF EXISTS " ++ schema.quoted ++ "." ++ ("\"" ++ name ++ "\"") ++ " CASCADE;"

/-- One more index in a batch, once its variable and the schema are filled in. -/
theorem becomes_dropIndexToo {t : Template} {place : Nat} {index schema : Identifier} {out : String}
    {resolve : Hole → Except TemplateError (List Char)} (ht : Becomes resolve t.text out)
    (hschema : resolve (.variable "schema") = .ok schema.quoted.toList)
    (hindex : resolve (.variable (indexVariable place)) = .ok index.quoted.toList) :
    Becomes resolve (dropIndexToo t place index).text (out ++ dropText schema index.text) := by
  have htext : (dropIndexToo t place index).text = t.text ++ ("DROP INDEX IF EXISTS " ++
      variableHole "schema" ++ "." ++ variableHole (indexVariable place) ++ " CASCADE;") := rfl
  have hopening : Becomes resolve "DROP INDEX IF EXISTS " "DROP INDEX IF EXISTS " :=
    .plainText (by decide)
  have hnames := ((hopening.hole (by decide) hschema).text (p := ".") (by decide)).hole
    (namesHole_indexVariable place) hindex
  rw [htext]
  exact ht.append (hnames.text (p := " CASCADE;") (by decide))

/-- A batch drops what it dropped before, and then the indices that are added. -/
theorem becomes_of_dropIndicesFrom {t t' : Template} {place : Nat} {names : List String}
    {schema : Identifier} {out : String} {resolve : Hole → Except TemplateError (List Char)}
    (h : dropIndicesFrom t place names = .ok t')
    (hresolve : ∀ name v, t'.bindings.lookup name = some v →
      resolve (.variable name) = .ok v.render.toList)
    (hschema : resolve (.variable "schema") = .ok schema.quoted.toList)
    (ht : Becomes resolve t.text out) :
    Becomes resolve t'.text (out ++ String.join (names.map (dropText schema))) ∧
      t'.params = t.params := by
  induction names generalizing t place out with
  | nil =>
    cases h
    rw [List.map_nil, String.join_nil, String.append_empty]
    exact ⟨ht, rfl⟩
  | cons name names ih =>
    obtain ⟨index, hname, h⟩ := build_bind_eq_ok_iff.1 h
    -- the variable of this place is not bound again by the places after it
    have hbound : t'.bindings.lookup (indexVariable place) = some (.identifier index) := by
      rw [lookup_of_dropIndicesFrom h fun i hi hsame =>
        Nat.ne_of_lt hi (indexVariable_injective hsame), lookup_dropIndexToo, if_pos rfl]
    have hdrop := becomes_dropIndexToo ht hschema (hresolve _ _ hbound)
    rw [Identifier.text_of_ofText hname] at hdrop
    obtain ⟨hbecomes, hparams⟩ := ih h hdrop
    rw [List.map_cons, String.join_cons, ← String.append_assoc]
    exact ⟨hbecomes, hparams⟩

/-- The template of a batch can always be built, and drops every index of the list, in order. -/
theorem build_of_dropIndicesFrom {schema : Identifier} {names : List String} {t : Template}
    (h : dropIndicesFrom { text := "", bindings := [("schema", .identifier schema)] } 0 names =
      .ok t) : t.build = .ok ⟨String.join (names.map (dropText schema)), []⟩ := by
  have hresolve : ∀ name v, t.bindings.lookup name = some v →
      t.resolver 16 [] (.variable name) = .ok v.render.toList := by
    intro name v hv
    rw [Template.resolver, List.append_nil, hv]
  have hschema : t.bindings.lookup "schema" = some (.identifier schema) :=
    lookup_of_dropIndicesFrom h fun i _ => schema_ne_indexVariable i
  obtain ⟨hbecomes, hparams⟩ := becomes_of_dropIndicesFrom h hresolve
    (hresolve _ _ hschema) (.plainText (s := "") (by decide))
  rw [Template.build_of_becomes hbecomes, hparams, String.empty_append]

/-- The statement of a batch that is made of names. -/
theorem statement_of_dropIndicesFrom {schema : Identifier} {names : List String} {t : Template}
    (h : dropIndicesFrom { text := "", bindings := [("schema", .identifier schema)] } 0 names =
      .ok t) : dropIndicesStatement schema names =
        .ok ⟨String.join (names.map (dropText schema)), []⟩ := by
  rw [dropIndicesStatement, h, ok_bind, build_of_dropIndicesFrom h]

/-- A batch that can be built drops every index of the list, in order. -/
theorem eq_of_dropIndicesStatement {schema : Identifier} {names : List String} {s : Statement}
    (h : dropIndicesStatement schema names = .ok s) :
    s = ⟨String.join (names.map (dropText schema)), []⟩ := by
  obtain ⟨t, hbatch, -⟩ := bind_eq_ok_iff.1 h
  rw [statement_of_dropIndicesFrom hbatch] at h
  exact (Except.ok.inj h).symm

/-- A batch is made of names alone: it can be made if all of them are, and the first that is none is
to blame otherwise. -/
theorem dropIndicesFrom_cases (t : Template) (place : Nat) (names : List String) :
    (∃ t', dropIndicesFrom t place names = .ok t' ∧
      ∀ name ∈ names, ∃ index : Identifier, index.text = name) ∨
    ∃ before name after e, names = before ++ name :: after ∧
      (∀ name ∈ before, ∃ index : Identifier, index.text = name) ∧
      Identifier.ofText name = .error e ∧
      dropIndicesFrom t place names = .error (.identifier e) := by
  induction names generalizing t place with
  | nil => exact .inl ⟨t, rfl, List.forall_mem_nil _⟩
  | cons name names ih =>
    rw [dropIndicesFrom]
    cases hname : Identifier.ofText name with
    | error e => exact .inr ⟨[], name, names, e, rfl, List.forall_mem_nil _, hname, rfl⟩
    | ok index =>
      have hfirst : ∃ index : Identifier, index.text = name :=
        ⟨index, Identifier.text_of_ofText hname⟩
      rw [Identifier.build_ok, ok_bind]
      rcases ih (dropIndexToo t place index) (place + 1) with
        ⟨t', hbatch, hnames⟩ | ⟨before, bad, after, e, rfl, hbefore, herror, hbatch⟩
      · exact .inl ⟨t', hbatch, List.forall_mem_cons.2 ⟨hfirst, hnames⟩⟩
      · exact .inr ⟨name :: before, bad, after, e, rfl,
          List.forall_mem_cons.2 ⟨hfirst, hbefore⟩, herror, hbatch⟩

/-- A batch can be made exactly when all of its names are identifiers. -/
theorem exists_dropIndicesStatement_iff {schema : Identifier} {names : List String} :
    (∃ s, dropIndicesStatement schema names = .ok s) ↔
      ∀ name ∈ names, ∃ index : Identifier, index.text = name := by
  constructor
  · rintro ⟨s, hs⟩
    obtain ⟨t, hbatch, -⟩ := bind_eq_ok_iff.1 hs
    rcases dropIndicesFrom_cases _ 0 names with ⟨-, -, hnames⟩ | ⟨-, -, -, e, -, -, -, herror⟩
    · exact hnames
    · rw [herror] at hbatch
      cases hbatch
  · intro hnames
    rcases dropIndicesFrom_cases { text := "", bindings := [("schema", .identifier schema)] } 0
        names with ⟨t, hbatch, -⟩ | ⟨before, name, after, e, rfl, -, hbad, -⟩
    · exact ⟨_, statement_of_dropIndicesFrom hbatch⟩
    · obtain ⟨index, hindex⟩ := hnames name (List.mem_append_cons_self)
      rw [Identifier.ofText_eq_ok_iff.2 hindex] at hbad
      cases hbad

/-- The first name that is no identifier is to blame. -/
theorem dropIndicesFrom_refused {before : List String}
    (hbefore : ∀ name ∈ before, ∃ index : Identifier, index.text = name) {name : String}
    {e : IdentifierError} (hname : Identifier.ofText name = .error e) (after : List String)
    (t : Template) (place : Nat) :
    dropIndicesFrom t place (before ++ name :: after) = .error (.identifier e) := by
  induction before generalizing t place with
  | nil =>
    rw [List.nil_append, dropIndicesFrom, hname]
    rfl
  | cons first before ih =>
    obtain ⟨⟨index, hindex⟩, hbefore⟩ := List.forall_mem_cons.1 hbefore
    rw [List.cons_append, dropIndicesFrom, Identifier.ofText_eq_ok_iff.2 hindex,
      Identifier.build_ok, ok_bind]
    exact ih hbefore _ _

/-- A batch binds one variable for each of its names, the last one first. -/
theorem bindings_of_dropIndicesFrom {t t' : Template} {place : Nat} {names : List String}
    (h : dropIndicesFrom t place names = .ok t') :
    t'.bindings.map Prod.fst =
      ((List.range' place names.length).map indexVariable).reverse ++ t.bindings.map Prod.fst := by
  induction names generalizing t place with
  | nil =>
    cases h
    rfl
  | cons name names ih =>
    obtain ⟨index, -, h⟩ := build_bind_eq_ok_iff.1 h
    rw [ih h, List.length_cons, List.range'_succ, List.map_cons, List.reverse_cons,
      List.append_assoc]
    rfl

/-- No variable of a batch is bound twice. -/
theorem nodup_bindings {schema : Identifier} {names : List String} {t : Template}
    (h : dropIndicesFrom { text := "", bindings := [("schema", .identifier schema)] } 0 names =
      .ok t) : (t.bindings.map Prod.fst).Nodup := by
  rw [bindings_of_dropIndicesFrom h, List.map_singleton, List.nodup_append]
  refine ⟨?_, List.nodup_singleton _, ?_⟩
  · rw [List.nodup_reverse]
    exact List.Nodup.map (fun _ _ => indexVariable_injective) List.nodup_range'
  · intro name hname other hother hsame
    obtain ⟨i, -, hi⟩ := List.mem_map.1 (List.mem_reverse.1 hname)
    rw [List.mem_singleton.1 hother, ← hi] at hsame
    exact schema_ne_indexVariable i hsame.symm

/-- A batch is made exactly when all of its names are identifiers, and is then the removals of all
of them, in order and as often as they are listed, with no parameter.  Otherwise the preparation
fails with the fault of the first name that is none.  No two variables of its template are the same,
and the template can always be expanded. -/
theorem batch_rendered (schema : Identifier) (names : List String) :
    (∀ s, dropIndicesStatement schema names = .ok s ↔
      (∀ name ∈ names, ∃ index : Identifier, index.text = name) ∧
        s = ⟨String.join (names.map fun name =>
          "DROP INDEX IF EXISTS " ++ schema.quoted ++ "." ++ ("\"" ++ name ++ "\"") ++ " CASCADE;"),
          []⟩) ∧
      (∀ f, (dropIndicesStatement schema names).mapError (Job.Failure.ofBuild .preparation) =
          .error f ↔
        ∃ before name after e, names = before ++ name :: after ∧
          (∀ name ∈ before, ∃ index : Identifier, index.text = name) ∧
          Identifier.ofText name = .error e ∧ f = .unexpected .preparation e.message) ∧
      ∀ t, dropIndicesFrom { text := "", bindings := [("schema", .identifier schema)] } 0 names =
          .ok t →
        t.bindings.length = names.length + 1 ∧ (t.bindings.map Prod.fst).Nodup ∧
          ∃ s, t.substitute = .ok s := by
  have hmade : ∀ s, dropIndicesStatement schema names = .ok s ↔
      (∀ name ∈ names, ∃ index : Identifier, index.text = name) ∧
        s = ⟨String.join (names.map (dropText schema)), []⟩ := by
    intro s
    rw [← @exists_dropIndicesStatement_iff schema]
    refine ⟨fun hs => ⟨⟨s, hs⟩, eq_of_dropIndicesStatement hs⟩, ?_⟩
    rintro ⟨⟨s', hs'⟩, rfl⟩
    rw [hs', eq_of_dropIndicesStatement hs']
  refine ⟨hmade, fun f => ⟨fun hf => ?_, ?_⟩, fun t ht => ⟨?_, nodup_bindings ht, ?_⟩⟩
  · obtain ⟨built, hbuilt, rfl⟩ := mapError_eq_error_iff.1 hf
    rcases dropIndicesFrom_cases { text := "", bindings := [("schema", .identifier schema)] } 0
        names with ⟨t, -, hnames⟩ | ⟨before, name, after, e, hplace, hbefore, hname, hbatch⟩
    · rw [(hmade _).2 ⟨hnames, rfl⟩] at hbuilt
      cases hbuilt
    · rw [dropIndicesStatement, hbatch] at hbuilt
      obtain rfl := Except.error.inj hbuilt
      exact ⟨before, name, after, e, hplace, hbefore, hname, rfl⟩
  · rintro ⟨before, name, after, e, rfl, hbefore, hname, rfl⟩
    rw [dropIndicesStatement, dropIndicesFrom_refused hbefore hname]
    rfl
  · have hbound := congrArg List.length (bindings_of_dropIndicesFrom ht)
    simpa using hbound
  · exact ⟨_, mapError_eq_ok_iff.1 (build_of_dropIndicesFrom ht)⟩

/-- The schema that tables are in where nothing else is said. -/
def publicSchema : Identifier := ⟨"public", by decide, by decide⟩

/-- The index of the places that roads lead through. -/
def roadsIndex : Identifier := ⟨"roads_geo", by decide, by decide⟩

/-- An index that is listed twice is dropped twice; a name with a blank is to blame, and not the
missing name after it. -/
theorem roads_index_dropped :
    (∀ name ∈ ["roads_geo", "roads_geo"], ∃ index : Identifier, index.text = name) ∧
      dropIndicesStatement publicSchema ["roads_geo", "roads_geo"] =
        .ok ⟨"DROP INDEX IF EXISTS \"public\".\"roads_geo\" CASCADE;" ++
          "DROP INDEX IF EXISTS \"public\".\"roads_geo\" CASCADE;", []⟩ ∧
      (dropIndicesStatement publicSchema ["roads_geo", "roads geo", ""]).mapError
          (Job.Failure.ofBuild .preparation) =
        .error (.unexpected .preparation
          "Identifier 'roads geo' may only contain letters, digits, '_' and '-'") := by
  have hnames : ∀ name ∈ ["roads_geo", "roads_geo"], ∃ index : Identifier, index.text = name := by
    simp only [List.forall_mem_cons]
    exact ⟨⟨roadsIndex, rfl⟩, ⟨roadsIndex, rfl⟩, List.forall_mem_nil _⟩
  refine ⟨hnames, ((batch_rendered _ _).1 _).2 ⟨hnames, by decide +kernel⟩, ?_⟩
  refine ((batch_rendered _ _).2.1 _).2 ⟨["roads_geo"], "roads geo", [""],
    .invalidCharacters "roads geo", rfl, ?_, by decide +kernel, by decide +kernel⟩
  simp only [List.forall_mem_cons]
  exact ⟨⟨roadsIndex, rfl⟩, List.forall_mem_nil _⟩

end BulkImport.Table
