import BulkImport.Proofs.Text.Pieces
import BulkImport.Proofs.Web.Escapes
import BulkImport.Web.Url
import Mathlib.Data.Bool.AllAny

/-!
# Paths under a path

What becomes of a path when more is written at its end.  A segment is a dot segment as it is or by
its escapes (`dots_cases`).  The path of a place is a list of segments (`climb`), and the path of
what is written under it begins with them unless dot segments lead up from there
(`resolve_append`); whatever stands behind so many segments is empty, or is a segment of what was
written and no dot segment (`mem_drop_resolve`).  Segments are known from the path as it is written
(`segments_unique`).
-/

namespace BulkImport.Web.Url

open Percent (HasEscape)

/-! ### Dot segments -/

/-- Whether a segment is followed, and does not stay in the path. -/
def isDots (s : List Char) : Bool := isDoubleDot s || isSingleDot s

theorem toLower_cases (c : Char) :
    c.toLower = c ∨ 65 ≤ c.toNat ∧ c.toNat ≤ 90 ∧ c.toLower.toNat = c.toNat + 32 := by
  unfold Char.toLower
  split
  · next h =>
    obtain ⟨hlow, hhigh⟩ := h
    have hlow' : 65 ≤ c.val.toNat := hlow
    have hhigh' : c.val.toNat ≤ 90 := hhigh
    refine .inr ⟨hlow', hhigh', ?_⟩
    show (c.val + 32).toNat = c.val.toNat + 32
    rw [UInt32.toNat_add]
    exact Nat.mod_eq_of_lt (Nat.lt_of_le_of_lt (Nat.add_le_add_right hhigh' 32) (by decide))
  · exact .inl rfl

/-- Lower case makes nothing but letters. -/
theorem eq_of_toLower {c d : Char} (h : c.toLower = d) (hd : d.toNat < 97) : c = d := by
  rcases toLower_cases c with hc | ⟨hlow, -, hc⟩
  · rw [← hc, h]
  · rw [h] at hc
    omega

theorem hexValue?_of_toLower {c : Char} (h : c.toLower = 'e') :
    (Text.hexValue? c).isSome = true := by
  rcases toLower_cases c with hc | ⟨-, -, hc⟩
  · rw [← hc, h]
    decide
  · have hnat : c.toNat = 'E'.toNat := by
      rw [h] at hc
      have : 'e'.toNat = 101 := rfl
      have : 'E'.toNat = 69 := rfl
      omega
    obtain rfl : c = 'E' := Char.toNat_inj.1 hnat
    decide

theorem eq_of_map_toLower {s t : List Char} (h : s.map Char.toLower = t)
    (ht : ∀ c ∈ t, c.toNat < 97) : s = t := by
  subst h
  rw [← List.map_id s, List.map_map]
  refine List.map_congr_left fun c hc => ?_
  exact eq_of_toLower rfl (ht _ (List.mem_map_of_mem hc))

theorem hasEscape_of_map_toLower {s before after : List Char}
    (h : s.map Char.toLower = before ++ ['%', '2', 'e'] ++ after) : HasEscape s := by
  obtain ⟨front, back, rfl, hfront, -⟩ := List.map_eq_append_iff.1 h
  obtain ⟨first, found, rfl, -, hfound⟩ := List.map_eq_append_iff.1 hfront
  obtain ⟨a, rest, rfl, ha, hrest⟩ := List.map_eq_cons_iff.1 hfound
  obtain ⟨b, rest', rfl, hb, hrest'⟩ := List.map_eq_cons_iff.1 hrest
  obtain ⟨c, rest'', rfl, hc, hend⟩ := List.map_eq_cons_iff.1 hrest'
  obtain rfl := List.map_eq_nil_iff.1 hend
  obtain rfl := eq_of_toLower ha (by decide)
  obtain rfl := eq_of_toLower hb (by decide)
  exact ⟨'2', c, by decide, hexValue?_of_toLower hc, first, back, rfl⟩

/-- A dot segment is one as it is, or by an escape. -/
theorem dots_cases {s : List Char} (h : isDots s = true) :
    s = ['.'] ∨ s = ['.', '.'] ∨ HasEscape s := by
  have hlower : ∀ t, Text.fold (String.ofList s) = t → s.map Char.toLower = t.toList := by
    rintro t rfl
    rw [Text.fold, String.toList_ofList, String.toList_ofList]
  simp only [isDots, isDoubleDot, isSingleDot, List.contains_cons, List.contains_nil,
    Bool.or_eq_true, beq_iff_eq, Bool.or_false] at h
  rcases h with (h | h | h | h) | h | h
  · exact .inr (.inl (eq_of_map_toLower (hlower _ h) (List.all_iff_forall_prop.1 (by decide))))
  · exact .inr (.inr (@hasEscape_of_map_toLower s ['.'] [] (hlower _ h)))
  · exact .inr (.inr (@hasEscape_of_map_toLower s [] ['.'] (hlower _ h)))
  · exact .inr (.inr (@hasEscape_of_map_toLower s [] "%2e".toList (hlower _ h)))
  · exact .inl (eq_of_map_toLower (hlower _ h) (List.all_iff_forall_prop.1 (by decide)))
  · exact .inr (.inr (@hasEscape_of_map_toLower s [] [] (hlower _ h)))

/-! ### Following dot segments -/

/-- The segments so far, given in reverse, after one more. -/
def climbStep (before : List (List Char)) (s : List Char) : List (List Char) :=
  if isDoubleDot s then parent before else if isSingleDot s then before else s :: before

/-- The segments of a place, given in reverse. -/
def climb (before : List (List Char)) (segments : List (List Char)) : List (List Char) :=
  segments.foldl climbStep before

theorem resolve_cons (before : List (List Char)) (s : List Char) (rest : List (List Char)) :
    resolve before (s :: rest) =
      if rest = [] ∧ isDots s = true then ([] :: climbStep before s).reverse
      else resolve (climbStep before s) rest := by
  simp only [resolve, isDots, Bool.or_eq_true, climbStep]

theorem parent_eq_drop (before : List (List Char)) : ∃ k, parent before = before.drop k := by
  cases before with
  | nil => exact ⟨0, rfl⟩
  | cons s before =>
    rw [parent]
    split
    · exact ⟨0, rfl⟩
    · exact ⟨1, rfl⟩

/-- A segment is the last one then, or it is followed and nothing is new. -/
theorem climbStep_cases (before : List (List Char)) (s : List Char) :
    (isDots s = false ∧ climbStep before s = s :: before) ∨
      (isDots s = true ∧ ∃ k, climbStep before s = before.drop k) := by
  unfold climbStep isDots
  cases isDoubleDot s with
  | true => exact .inr ⟨rfl, parent_eq_drop before⟩
  | false =>
    cases isSingleDot s with
    | true => exact .inr ⟨rfl, 0, rfl⟩
    | false => exact .inl ⟨rfl, rfl⟩

/-- Segments that are followed before others. -/
theorem resolve_append (before segments : List (List Char)) {rest : List (List Char)}
    (hrest : rest ≠ []) :
    resolve before (segments ++ rest) = resolve (climb before segments) rest := by
  induction segments generalizing before with
  | nil => rfl
  | cons s segments ih =>
    have hmore : segments ++ rest ≠ [] := by simp [hrest]
    rw [List.cons_append, resolve_cons, if_neg fun h => hmore h.1, ih]
    rfl

/-- Segments that are no dot segments stay where they are. -/
theorem resolve_of_noDots {before segments : List (List Char)}
    (h : ∀ s ∈ segments, isDots s = false) :
    resolve before segments = before.reverse ++ segments := by
  induction segments generalizing before with
  | nil => simp [resolve]
  | cons s segments ih =>
    obtain ⟨hs, hsegments⟩ := List.forall_mem_cons.1 h
    rcases climbStep_cases before s with ⟨-, hstep⟩ | ⟨hdots, -⟩
    · rw [resolve_cons, if_neg (by simp [hs]), hstep, ih hsegments]
      simp
    · rw [hs] at hdots
      cases hdots

/-- Following segments leaves some of those before them, and new ones after these: empty ones, and
segments that are no dot segments. -/
theorem resolve_split (before segments : List (List Char)) :
    ∃ k new, resolve before segments = (before.drop k).reverse ++ new ∧
      ∀ s ∈ new, s = [] ∨ s ∈ segments ∧ isDots s = false := by
  induction segments generalizing before with
  | nil => exact ⟨0, [], by simp [resolve], List.forall_mem_nil _⟩
  | cons s segments ih =>
    rw [resolve_cons]
    split
    · next hlast =>
      rcases climbStep_cases before s with ⟨hs, -⟩ | ⟨-, k, hstep⟩
      · rw [hs] at hlast
        cases hlast.2
      · exact ⟨k, [[]], by rw [hstep, List.reverse_cons], by simp⟩
    · obtain ⟨k, new, hresolve, hnew⟩ := ih (climbStep before s)
      have hnew' : ∀ s' ∈ new, s' = [] ∨ s' ∈ s :: segments ∧ isDots s' = false := fun s' hs' =>
        (hnew s' hs').imp_right fun ⟨hmem, hdots⟩ => ⟨List.mem_cons_of_mem _ hmem, hdots⟩
      rcases climbStep_cases before s with ⟨hs, hstep⟩ | ⟨-, j, hstep⟩
      · rw [hresolve, hstep]
        cases k with
        | zero =>
          -- the segment is the first of the new ones
          refine ⟨0, s :: new, by simp, List.forall_mem_cons.2 ⟨?_, hnew'⟩⟩
          exact .inr ⟨List.mem_cons_self, hs⟩
        | succ k => exact ⟨k, new, rfl, hnew'⟩
      · exact ⟨j + k, new, by rw [hresolve, hstep, List.drop_drop], hnew'⟩

/-- What stands behind as many segments as there were before is new. -/
theorem mem_drop_resolve {before segments : List (List Char)} {s : List Char}
    (h : s ∈ (resolve before segments).drop before.length) :
    s = [] ∨ s ∈ segments ∧ isDots s = false := by
  obtain ⟨k, new, hresolve, hnew⟩ := resolve_split before segments
  have hshort : ((before.drop k).reverse).length ≤ before.length := by
    rw [List.length_reverse, List.length_drop]
    omega
  rw [hresolve, List.drop_append, List.drop_eq_nil_of_le hshort, List.nil_append] at h
  exact hnew s (List.mem_of_mem_drop h)

theorem mem_resolve {segments : List (List Char)} {before : List (List Char)} {s : List Char}
    (h : s ∈ resolve before segments) : s ∈ before ∨ s = [] ∨ s ∈ segments := by
  obtain ⟨k, new, hresolve, hnew⟩ := resolve_split before segments
  rw [hresolve, List.mem_append, List.mem_reverse] at h
  rcases h with h | h
  · exact .inl (List.mem_of_mem_drop h)
  · exact .inr ((hnew s h).imp_right And.left)

theorem mem_climb {segments : List (List Char)} {before : List (List Char)} {s : List Char}
    (h : s ∈ climb before segments) : s ∈ before ∨ s ∈ segments := by
  induction segments generalizing before with
  | nil => exact .inl h
  | cons t segments ih =>
    rcases ih h with hstep | hmem
    · rcases climbStep_cases before t with ⟨-, heq⟩ | ⟨-, k, heq⟩
      · rw [heq] at hstep
        exact (List.mem_cons.1 hstep).symm.imp_right fun heq : s = t => heq ▸ List.mem_cons_self
      · rw [heq] at hstep
        exact .inl (List.mem_of_mem_drop hstep)
    · exact .inr (List.mem_cons_of_mem _ hmem)

/-! ### Paths as they are written -/

/-- Segments as they are written, each after a slash. -/
def written (segments : List (List Char)) : List Char :=
  (segments.map (Percent.encode isPathChar)).flatMap ('/' :: ·)

theorem toList_writePath (known : Bool) (c : Char) (cs : List Char) :
    (writePath known (c :: cs)).toList = written (resolve [] (Text.piecesChars '/' cs)) := by
  rw [writePath, String.toList_join, written, List.flatMap_map, List.flatMap_map]
  refine congrArg (List.flatMap · _) (funext fun s => ?_)
  simp [write]

theorem slash_not_mem_encodeByte (b : UInt8) : '/' ∉ Percent.encodeByte b := by
  have hdigit : ∀ n : Fin 16, '/' ≠ Text.hexDigit 'A' n := by decide
  have hb : b.toNat < 256 := b.toNat_lt_size
  have hhigh := hdigit ⟨b.toNat / 16, by omega⟩
  have hlow := hdigit ⟨b.toNat % 16, by omega⟩
  simp only [Percent.encodeByte, List.mem_cons, List.not_mem_nil, or_false, not_or]
  exact ⟨by decide, hhigh, hlow⟩

theorem slash_not_mem_encode {keep : Char → Bool} {s : List Char} (h : '/' ∉ s) :
    '/' ∉ Percent.encode keep s := by
  rw [Percent.encode, List.mem_flatMap]
  rintro ⟨c, hc, hslash⟩
  split at hslash
  · rw [List.mem_singleton] at hslash
    exact h (hslash ▸ hc)
  · obtain ⟨b, -, hb⟩ := List.mem_flatMap.1 hslash
    exact slash_not_mem_encodeByte b hb

/-- Digits are written as they are. -/
theorem isPathChar_of_digit {c : Char} (h : (Text.hexValue? c).isSome = true) :
    isPathChar c = true := by
  have hother : c ∉ [' ', '"', '#', '<', '>', '?', '^', '\x60', '\x7b', '\x7d'] := by
    have hnone : ∀ d ∈ [' ', '"', '#', '<', '>', '?', '^', '\x60', '\x7b', '\x7d'],
        Text.hexValue? d = none := List.all_iff_forall_prop.1 (by decide)
    intro hmem
    rw [hnone c hmem] at h
    cases h
  have hvisible : 0x20 ≤ c.toNat ∧ c.toNat < 0x7F := by
    have hbetween : ∀ {a b : Char}, 0x20 ≤ a.toNat → b.toNat < 0x7F → a ≤ c ∧ c ≤ b →
        0x20 ≤ c.toNat ∧ c.toNat < 0x7F := fun ha hb hc =>
      ⟨Nat.le_trans ha hc.1, Nat.lt_of_le_of_lt hc.2 hb⟩
    unfold Text.hexValue? at h
    split at h
    · next hdigit => exact hbetween (by decide) (by decide) hdigit
    split at h
    · next hlower => exact hbetween (by decide) (by decide) hlower
    split at h
    · next hupper => exact hbetween (by decide) (by decide) hupper
    · cases h
  rw [isPathChar, plainBut, decide_eq_true hvisible.1, decide_eq_true hvisible.2]
  simpa using hother

/-- What is written of a segment stands for the same bytes. -/
theorem decode_encode_path (s : List Char) :
    Percent.decode (Percent.encode isPathChar s) = Percent.decode s :=
  Percent.decode_encode_kept (by decide) (fun _ => isPathChar_of_digit) s

/-- Segments are known from how they are written. -/
theorem segments_unique {segments : List (List Char)} {others : List (List Char)}
    (hsegments : ∀ s ∈ segments, '/' ∉ s) (hothers : ∀ s ∈ others, '/' ∉ s)
    (h : written segments = others.flatMap ('/' :: ·)) :
    segments.map (Percent.encode isPathChar) = others := by
  refine Text.eq_of_flatMap_sep ?_ hothers h
  intro s hs
  obtain ⟨s', hs', rfl⟩ := List.mem_map.1 hs
  exact slash_not_mem_encode (hsegments s' hs')

/-- Everything that is written under a path has the segments of the path before its own. -/
theorem exists_segments (path : List Char) :
    ∃ before : List (List Char), (∀ s ∈ before, '/' ∉ s) ∧ ∀ known more,
      (writePath known (path ++ '/' :: more)).toList =
        written (resolve before (Text.piecesChars '/' more)) := by
  cases path with
  | nil => exact ⟨[], List.forall_mem_nil _, fun known more => toList_writePath known '/' more⟩
  | cons c path =>
    refine ⟨climb [] (Text.piecesChars '/' path), fun s hs => ?_, fun known more => ?_⟩
    · rcases mem_climb hs with hs | hs
      · cases hs
      · exact Text.sep_not_mem_of_mem_pieces hs
    · rw [List.cons_append, toList_writePath, Text.piecesChars_append_sep,
        resolve_append _ _ (Text.piecesChars_ne_nil _ _)]

end BulkImport.Web.Url
