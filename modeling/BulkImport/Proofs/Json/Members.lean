import BulkImport.Json.Basic

/-!
# The members of an object

A record is written as the members of an object, a field without a value being left out (`given`),
and read by asking for the one value under each key.  What is read depends on nothing but what is
found under the keys of the record (`Holds`): neither the order of the members nor members under
other keys matter (`Holds.perm`, `Holds.cons`).  Members that are written under keys of their own
are found again (`holds_given`).

A type is carried by JSON when what is written for a value is read as that value (`Carries`), and a
field of such a type is read as it was written, whether it must be there, has a default or may be
left out.
-/

namespace BulkImport.Json

variable {α : Type} {ms ms' : List (String × Json)} {fields : List (String × Option Json)}
  {key : String} {read : Json → Option α} {write : α → Json} {j : Json} {a : α}

/-! ### Members and fields -/

/-- The members for fields of which some have a value. -/
def given (fields : List (String × Option Json)) : List (String × Json) :=
  fields.filterMap fun f => f.2.map (f.1, ·)

/-- The members hold under each key what the fields have. -/
def Holds (ms : List (String × Json)) (fields : List (String × Option Json)) : Prop :=
  ∀ f ∈ fields, member? ms f.1 = some f.2

@[simp] theorem given_nil : given [] = [] := rfl

@[simp] theorem given_cons_some (key : String) (j : Json) (rest : List (String × Option Json)) :
    given ((key, some j) :: rest) = (key, j) :: given rest := rfl

@[simp] theorem given_cons_map (key : String) (write : α → Json) (value : Option α)
    (rest : List (String × Option Json)) :
    given ((key, value.map write) :: rest) = optionalMember key write value ++ given rest := by
  cases value <;> rfl

theorem given_append (fields fields' : List (String × Option Json)) :
    given (fields ++ fields') = given fields ++ given fields' :=
  List.filterMap_append

theorem member?_cons_self (h : member? ms key = some none) :
    member? ((key, j) :: ms) key = some (some j) := by
  unfold member? at h ⊢
  rw [List.filter_cons_of_pos (by simp)]
  split at h
  · next hnone => rw [hnone]
  · cases h
  · cases h

theorem member?_cons_of_ne {k : String} (hne : k ≠ key) :
    member? ((k, j) :: ms) key = member? ms key := by
  unfold member?
  rw [List.filter_cons_of_neg (by simpa using hne)]

theorem member?_of_not_mem (h : key ∉ ms.map (·.1)) : member? ms key = some none := by
  have hnone : ms.filter (·.1 == key) = [] := by
    refine List.filter_eq_nil_iff.2 fun m hm hkey => h ?_
    exact List.mem_map.2 ⟨m, hm, by simpa using hkey⟩
  simp [member?, hnone]

theorem mem_keys_given (h : key ∈ (given fields).map (·.1)) : key ∈ fields.map (·.1) := by
  obtain ⟨m, hm, rfl⟩ := List.mem_map.1 h
  obtain ⟨f, hf, hmade⟩ := List.mem_filterMap.1 hm
  obtain ⟨j, -, rfl⟩ := Option.map_eq_some_iff.1 hmade
  exact List.mem_map.2 ⟨f, hf, rfl⟩

theorem key_ne_of_not_mem {f : String × Option Json} (hkey : key ∉ fields.map (·.1))
    (hf : f ∈ fields) : key ≠ f.1 :=
  fun he => hkey (List.mem_map.2 ⟨f, hf, he.symm⟩)

theorem member?_perm (hperm : ms.Perm ms') : member? ms' key = member? ms key := by
  have hfound := hperm.filter (·.1 == key)
  unfold member?
  generalize ms.filter (·.1 == key) = found, ms'.filter (·.1 == key) = found' at hfound ⊢
  -- what is found has an order only where it is more than one member, and then nothing is read
  match found, found', hfound with
  | [], _, hfound => rw [hfound.nil_eq]
  | [m], _, hfound => rw [hfound.singleton_eq]
  | _ :: _ :: _, [], hfound | _ :: _ :: _, [_], hfound => simpa using hfound.length_eq
  | _ :: _ :: _, _ :: _ :: _, _ => rfl

/-- What was written under keys of their own is found under them. -/
theorem holds_given (hkeys : (fields.map (·.1)).Nodup) : Holds (given fields) fields := by
  induction fields with
  | nil => exact fun _ hf => by cases hf
  | cons f rest ih =>
    obtain ⟨hnew, hrest⟩ := List.nodup_cons.1 hkeys
    have habsent : member? (given rest) f.1 = some none :=
      member?_of_not_mem fun hmem => hnew (mem_keys_given hmem)
    obtain ⟨k, _ | j⟩ := f
    · exact List.forall_mem_cons.2 ⟨habsent, ih hrest⟩
    · refine List.forall_mem_cons.2 ⟨member?_cons_self habsent, fun f' hf' => ?_⟩
      exact (member?_cons_of_ne (key_ne_of_not_mem hnew hf')).trans (ih hrest f' hf')

/-- The order of the members does not matter. -/
theorem Holds.perm (h : Holds ms fields) (hperm : ms.Perm ms') : Holds ms' fields :=
  fun f hf => (member?_perm hperm).trans (h f hf)

/-- A member under another key does not matter. -/
theorem Holds.cons (h : Holds ms fields) (hkey : key ∉ fields.map (·.1)) :
    Holds ((key, j) :: ms) fields :=
  fun f hf => (member?_cons_of_ne (key_ne_of_not_mem hkey hf)).trans (h f hf)

theorem Holds.left {fields' : List (String × Option Json)} (h : Holds ms (fields ++ fields')) :
    Holds ms fields :=
  fun f hf => h f (List.mem_append_left _ hf)

theorem Holds.right {fields' : List (String × Option Json)} (h : Holds ms (fields ++ fields')) :
    Holds ms fields' :=
  fun f hf => h f (List.mem_append_right _ hf)

/-! ### Types that JSON carries -/

/-- What is written for a value is read as that value, and is not what stands for no value. -/
structure Carries (read : Json → Option α) (write : α → Json) : Prop where
  back : ∀ a, read (write a) = some a
  solid : ∀ a, write a ≠ null

theorem carries_text : Carries text? text := ⟨fun _ => rfl, fun _ h => by cases h⟩

theorem carries_bool : Carries bool? bool := ⟨fun _ => rfl, fun _ h => by cases h⟩

theorem carries_int64 : Carries int64? fun n : Int64 => integer n.toInt :=
  ⟨Int64.ofInt?_toInt, fun _ h => by cases h⟩

theorem carries_uint64 : Carries uint64? fun n : UInt64 => integer n.toNat :=
  ⟨UInt64.ofNat?_toNat, fun _ h => by cases h⟩

theorem carries_word [Vocabulary α] [Vocabulary.Distinct α] (payload : Payload) :
    Carries (word? payload) (ofWord (α := α)) :=
  ⟨Vocabulary.Distinct.ofWord?_word, fun _ h => by cases h⟩

theorem mapM_of_back {β : Type} {read : β → Option α} {write : α → β}
    (hback : ∀ a, read (write a) = some a) (as : List α) :
    (as.map write).mapM read = some as := by
  induction as with
  | nil => rfl
  | cons a as ih => simp [hback, ih]

theorem carries_list (h : Carries read write) :
    Carries (listOf? read) fun as => list (as.map write) :=
  ⟨mapM_of_back h.back, fun _ h => by cases h⟩

/-! ### Fields of such types -/

theorem required?_of_holds (hc : Carries read write) (h : member? ms key = some (some (write a))) :
    required? ms key read = some a := by
  simp [required?, h, hc.back]

theorem defaulted?_of_holds {absent : α} (hc : Carries read write)
    (h : member? ms key = some (some (write a))) : defaulted? ms key read absent = some a := by
  simp [defaulted?, h, hc.back]

theorem nullable?_of_ne_null (hj : j ≠ null) : nullable? read j = (read j).map some := by
  cases j with
  | null => exact absurd rfl hj
  | _ => rfl

theorem optional?_of_holds {value : Option α} (hc : Carries read write)
    (h : member? ms key = some (value.map write)) : optional? ms key read = some value := by
  cases value with
  | none => simp [optional?, defaulted?, h]
  | some a => simp [optional?, defaulted?, h, nullable?_of_ne_null (hc.solid a), hc.back]

end BulkImport.Json
