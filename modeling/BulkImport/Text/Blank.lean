/-!
# Blank characters, trimming and cutting

The characters with the Unicode property White_Space, the text left when they are taken off both
ends, and the pieces of a text between separators.  Main statements: a trimmed text neither
begins nor ends with a blank (`trimChars_head`, `trimChars_getLast`), and joining the pieces of a
text with the separator gives the text back (`join_pieces`).
-/

namespace BulkImport.Text

/-- The Unicode property White_Space. -/
def isBlank (c : Char) : Bool :=
  let n := c.toNat
  (0x9 ≤ n && n ≤ 0xD) || n == 0x20 || n == 0x85 || n == 0xA0 || n == 0x1680 ||
    (0x2000 ≤ n && n ≤ 0x200A) || n == 0x2028 || n == 0x2029 || n == 0x202F || n == 0x205F ||
    n == 0x3000

/-- A text without the characters of a class at its end. -/
def dropEnd (p : Char → Bool) (cs : List Char) : List Char :=
  (cs.reverse.dropWhile p).reverse

/-- A text without the blanks at its two ends. -/
def trimChars (cs : List Char) : List Char :=
  dropEnd isBlank (cs.dropWhile isBlank)

/-- A text without the blanks at its two ends. -/
def trim (s : String) : String :=
  String.ofList (trimChars s.toList)

/-- The pieces of a text between the occurrences of a separator; one more than there are
separators. -/
def piecesChars (sep : Char) : List Char → List (List Char)
  | [] => [[]]
  | c :: cs =>
    if c = sep then [] :: piecesChars sep cs
    else
      match piecesChars sep cs with
      | [] => [[c]]
      | p :: ps => (c :: p) :: ps

/-- The pieces of a text between the occurrences of a separator. -/
def pieces (sep : Char) (s : String) : List String :=
  (piecesChars sep s.toList).map String.ofList

/-- The part before the first occurrence of a separator and the part after it. -/
def cutChars (sep : Char) : List Char → Option (List Char × List Char)
  | [] => none
  | c :: cs =>
    if c = sep then some ([], cs) else (cutChars sep cs).map fun (a, b) => (c :: a, b)

/-- The part before the first occurrence of a separator and the part after it. -/
def cut (sep : Char) (s : String) : Option (String × String) :=
  (cutChars sep s.toList).map fun (a, b) => (String.ofList a, String.ofList b)

/-- The part before the last occurrence of a separator and the part after it. -/
def cutLast (sep : Char) (cs : List Char) : Option (List Char × List Char) :=
  (cutChars sep cs.reverse).map fun (b, a) => (a.reverse, b.reverse)

/-- Lower case for the 26 Latin letters, everything else as it is. -/
def fold (s : String) : String :=
  String.ofList (s.toList.map Char.toLower)

theorem dropWhile_head_not {p : Char → Bool} {cs : List Char} {c : Char}
    (h : (cs.dropWhile p).head? = some c) : p c = false := by
  induction cs with
  | nil => simp at h
  | cons d ds ih =>
    by_cases hd : p d
    · exact ih (by simpa [List.dropWhile_cons, hd] using h)
    · simp only [List.dropWhile_cons, hd] at h
      simp at h
      simpa [h] using hd

/-- A trimmed text does not end with a blank. -/
theorem trimChars_getLast {cs : List Char} {c : Char}
    (h : (trimChars cs).getLast? = some c) : isBlank c = false := by
  rw [trimChars, dropEnd, List.getLast?_reverse] at h
  exact dropWhile_head_not h

/-- A trimmed text does not begin with a blank. -/
theorem trimChars_head {cs : List Char} {c : Char}
    (h : (trimChars cs).head? = some c) : isBlank c = false := by
  have hs : (dropEnd isBlank (cs.dropWhile isBlank)) <+: cs.dropWhile isBlank := by
    have := List.dropWhile_suffix isBlank (l := (cs.dropWhile isBlank).reverse)
    simpa [dropEnd] using List.reverse_prefix.2 this
  obtain ⟨t, ht⟩ := hs
  rw [trimChars] at h
  have hd : (cs.dropWhile isBlank).head? = some c := by
    rw [← ht, List.head?_append, h]
    rfl
  exact dropWhile_head_not hd

theorem piecesChars_ne_nil (sep : Char) (cs : List Char) : piecesChars sep cs ≠ [] := by
  cases cs with
  | nil => simp [piecesChars]
  | cons c cs =>
    unfold piecesChars
    split
    · simp
    · split <;> simp

/-- Nothing but the separators is lost when a text is cut into pieces. -/
theorem join_pieces (sep : Char) (cs : List Char) :
    List.intercalate [sep] (piecesChars sep cs) = cs := by
  induction cs with
  | nil => simp [piecesChars, List.intercalate]
  | cons c cs ih =>
    unfold piecesChars
    split
    · next h =>
      subst h
      cases hp : piecesChars c cs with
      | nil => exact absurd hp (piecesChars_ne_nil c cs)
      | cons p ps => rw [hp] at ih; simpa [List.intercalate, List.intersperse] using ih
    · next h =>
      cases hp : piecesChars sep cs with
      | nil => exact absurd hp (piecesChars_ne_nil sep cs)
      | cons p ps =>
        rw [hp] at ih
        cases ps with
        | nil => simpa [List.intercalate, List.intersperse] using ih
        | cons q qs => simpa [List.intercalate, List.intersperse] using ih

/-- No piece holds the separator. -/
theorem sep_not_mem_of_mem_pieces {sep : Char} {cs p : List Char}
    (h : p ∈ piecesChars sep cs) : sep ∉ p := by
  induction cs generalizing p with
  | nil => simp [piecesChars] at h; simp [h]
  | cons c cs ih =>
    unfold piecesChars at h
    split at h
    · next hc =>
      rcases List.mem_cons.1 h with rfl | h
      · simp
      · exact ih h
    · next hc =>
      split at h
      · next hp => exact absurd hp (piecesChars_ne_nil sep cs)
      · next q qs hp =>
        rcases List.mem_cons.1 h with rfl | h
        · have hq := ih (p := q) (by simp [hp])
          simp only [List.mem_cons, not_or]
          exact ⟨fun e => hc e.symm, hq⟩
        · exact ih (by rw [hp]; exact List.mem_cons_of_mem _ h)

end BulkImport.Text
