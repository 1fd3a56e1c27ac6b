import BulkImport.Proofs.Table.Verb
import Std.Data.String.ToNat

/-!
# Which file a load is for

A literal is read back from a statement whatever follows it, as long as this does not begin with a
quote (`eq_of_literals`): each of its own quotes is doubled, so that the first single one ends it.
So loads into the same relation are the same statement only when they are for the same file
(`loadStatement_inj`).
-/

namespace BulkImport.Table

open BulkImport.Sql

/-- A text in quotes is read back, with what follows it. -/
theorem eq_of_quoted {cs cs' xs ys : List Char} (hxs : xs.head? ≠ some '\'')
    (hys : ys.head? ≠ some '\'')
    (h : doubleQuotes cs ++ '\'' :: xs = doubleQuotes cs' ++ '\'' :: ys) : cs = cs' ∧ xs = ys := by
  induction cs generalizing cs' with
  | nil =>
    cases cs' with
    | nil => simpa [doubleQuotes] using h
    | cons c cs' =>
      by_cases hc : c = '\''
      · -- the second quote of the other text would stand where `xs` begins
        simp [doubleQuotes, hc] at h
        simp [h] at hxs
      · simp [doubleQuotes, hc, Ne.symm hc] at h
  | cons c cs ih =>
    cases cs' with
    | nil =>
      by_cases hc : c = '\''
      · simp [doubleQuotes, hc] at h
        simp [← h] at hys
      · simp [doubleQuotes, hc] at h
    | cons c' cs' =>
      have htail : c = c' → doubleQuotes cs ++ '\'' :: xs = doubleQuotes cs' ++ '\'' :: ys →
          c :: cs = c' :: cs' ∧ xs = ys := by
        rintro rfl hrest
        obtain ⟨rfl, rfl⟩ := ih hrest
        exact ⟨rfl, rfl⟩
      by_cases hc : c = '\'' <;> by_cases hc' : c' = '\''
      · simp [doubleQuotes, hc, hc'] at h
        exact htail (hc.trans hc'.symm) (by simpa [doubleQuotes] using h)
      · simp [doubleQuotes, hc, hc', Ne.symm hc'] at h
      · simp [doubleQuotes, hc, hc'] at h
      · simp [doubleQuotes, hc, hc'] at h
        exact htail h.1 (by simpa [doubleQuotes] using h.2)

/-- A literal is read back, with what follows it. -/
theorem eq_of_literals {s s' x y : String} (hx : x.toList.head? ≠ some '\'')
    (hy : y.toList.head? ≠ some '\'')
    (h : (Value.literal s).render ++ x = (Value.literal s').render ++ y) : s = s' ∧ x = y := by
  have hchars := congrArg String.toList h
  simp only [Value.render, String.toList_append, String.toList_ofList, List.append_assoc] at hchars
  obtain ⟨hs, hrest⟩ := eq_of_quoted hx hy (List.append_cancel_left hchars)
  exact ⟨String.toList_inj.1 hs, String.toList_inj.1 hrest⟩

/-- Loads into one relation that are the same statement are for the same file. -/
theorem loadStatement_inj {schema relation : Identifier} {format : Option CsvFormat}
    {target : LoadTarget} {r r' : LoadRequest} {s : Statement}
    (hs : loadStatement schema relation format target r = .ok s)
    (hs' : loadStatement schema relation format target r' = .ok s) : r = r' := by
  have h := hs.trans hs'.symm
  rw [loadStatement_eq, loadStatement_eq] at h
  have htext := congrArg Statement.text (Except.ok.inj h)
  simp only [String.append_assoc, String.append_right_inj] at htext
  -- bucket, key and region are read back one after the other; the size is in the hint
  obtain ⟨hbucket, hafter⟩ := eq_of_literals (by simp) (by simp) htext
  rw [String.append_right_inj] at hafter
  obtain ⟨hkey, hafter⟩ := eq_of_literals (by simp) (by simp) hafter
  rw [String.append_right_inj] at hafter
  obtain ⟨hregion, hafter⟩ := eq_of_literals (by simp) (by simp) hafter
  rw [String.append_right_inj] at hafter
  obtain ⟨hhint, -⟩ := eq_of_literals (by simp) (by simp) hafter
  rw [hkey, String.append_right_inj, String.append_right_inj] at hhint
  have hsize : r.size = r'.size := UInt64.toNat.inj (Nat.repr_injective hhint)
  cases r
  cases r'
  simp only at hbucket hkey hregion hsize
  rw [hbucket, hkey, hregion, hsize]

end BulkImport.Table
