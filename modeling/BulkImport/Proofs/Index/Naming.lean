import BulkImport.Index.Plan

/-!
# What the name of an index tells

The name of an index is made of the name of its table and of a key that has no underscore, so that
the last underscore divides it (`append_cons_inj_last`).  It is in lower case throughout.  So two
indices have the same name exactly if they are of one kind and the names of their tables differ in
the case of letters at most (`indexName_eq_iff`).

A table keeps the case of its name.  Tables that differ in nothing else share the names of all their
indices, also where they are parts of one table (`parts_named_alike`).
-/

namespace BulkImport.Index

open BulkImport.Sql

/-- A list is divided in one way only at the last place of an element. -/
theorem append_cons_inj_last {α : Type} {x : α} {before before' after after' : List α}
    (hafter : x ∉ after) (hafter' : x ∉ after')
    (h : before ++ x :: after = before' ++ x :: after') : before = before' ∧ after = after' := by
  rcases List.append_eq_append_iff.1 h with ⟨as, rfl, has⟩ | ⟨as, rfl, has⟩
  · cases as with
    | nil => exact ⟨(List.append_nil _).symm, (List.cons.inj has).2⟩
    | cons a as =>
      obtain ⟨-, rfl⟩ := List.cons.inj has
      exact absurd (List.mem_append_right _ List.mem_cons_self) hafter
  · cases as with
    | nil => exact ⟨List.append_nil _, (List.cons.inj has).2.symm⟩
    | cons a as =>
      obtain ⟨-, rfl⟩ := List.cons.inj has
      exact absurd (List.mem_append_right _ List.mem_cons_self) hafter'

namespace Kind

/-- The keys can be told apart in lower case too. -/
theorem fold_key_injective {k k' : Kind} (h : Text.fold k.key = Text.fold k'.key) : k = k' := by
  have hread : ∀ k : Kind, Vocabulary.ofSpelling? k.key = some k := fun k => by cases k <;> rfl
  have hsame : Vocabulary.ofSpelling? (α := Kind) k.key = Vocabulary.ofSpelling? k'.key := by
    unfold Vocabulary.ofSpelling?
    rw [h]
  rw [hread, hread] at hsame
  exact Option.some.inj hsame

theorem underscore_not_mem_key (k : Kind) : '_' ∉ (Text.fold k.key).toList := by
  cases k <;> decide

/-- The name of an index before its table and its key are joined. -/
theorem toList_foldedName (k : Kind) (table : String) :
    (Text.fold ("idx_" ++ table ++ "_" ++ k.key)).toList =
      ("idx_".toList ++ (Text.fold table).toList) ++ '_' :: (Text.fold k.key).toList := by
  simp [Text.fold]

/-- Where two indices can be named, they have the same name exactly if they are of one kind and the
names of their tables are the same in lower case. -/
theorem indexName_eq_iff {k k' : Kind} {table table' name name' : Identifier}
    (h : k.indexName table = .ok name) (h' : k'.indexName table' = .ok name') :
    name = name' ↔ k = k' ∧ Text.fold table.text = Text.fold table'.text := by
  have hname := congrArg String.toList (Identifier.text_of_ofText h)
  have hname' := congrArg String.toList (Identifier.text_of_ofText h')
  rw [toList_foldedName] at hname hname'
  constructor
  · rintro rfl
    obtain ⟨hstart, hkey⟩ := append_cons_inj_last k.underscore_not_mem_key
      k'.underscore_not_mem_key (hname.symm.trans hname')
    exact ⟨fold_key_injective (String.toList_inj.1 hkey),
      String.toList_inj.1 (List.append_cancel_left hstart)⟩
  · rintro ⟨rfl, htable⟩
    refine Identifier.ext (String.toList_inj.1 ?_)
    rw [hname, hname', htable]

/-- The roads and a table whose name goes on with a key have different names for the index of that
key. -/
theorem roads_named_apart :
    ∃ roads keyed name name' : Identifier, roads.text = "roads" ∧ keyed.text = "roads_id" ∧
      id.indexName roads = .ok name ∧ id.indexName keyed = .ok name' ∧ name ≠ name' := by
  have hname : id.indexName ⟨"roads", by decide, by decide⟩ =
      .ok ⟨"idx_roads_id", by decide, by decide⟩ := Identifier.ofText_eq_ok_iff.2 (by decide)
  have hname' : id.indexName ⟨"roads_id", by decide, by decide⟩ =
      .ok ⟨"idx_roads_id_id", by decide, by decide⟩ := Identifier.ofText_eq_ok_iff.2 (by decide)
  refine ⟨_, _, _, _, rfl, rfl, hname, hname', fun hsame => ?_⟩
  exact absurd ((indexName_eq_iff hname hname').1 hsame).2 (by decide)

/-- Two parts of the roads are different tables whose indices have the same name. -/
theorem parts_named_alike :
    ∃ roads upper lower name : Identifier, roads.text = "roads" ∧
      (Segment.partition "P").table roads = .ok upper ∧
      (Segment.partition "p").table roads = .ok lower ∧ upper ≠ lower ∧
      id.indexName upper = .ok name ∧ id.indexName lower = .ok name := by
  have hpart : ∀ {name : String} {roads part : Identifier},
      part.text = roads.text ++ ("_" ++ name) → (Segment.partition name).table roads = .ok part :=
    Identifier.ofText_eq_ok_iff.2
  have hindex : ∀ {table name : Identifier},
      name.text = Text.fold ("idx_" ++ table.text ++ "_" ++ id.key) →
        id.indexName table = .ok name := Identifier.ofText_eq_ok_iff.2
  exact ⟨⟨"roads", by decide, by decide⟩, ⟨"roads_P", by decide, by decide⟩,
    ⟨"roads_p", by decide, by decide⟩, ⟨"idx_roads_p_id", by decide, by decide⟩, rfl,
    hpart (by decide), hpart (by decide), by decide, hindex (by decide), hindex (by decide)⟩

end Kind

end BulkImport.Index
