/-!
# Finding a text in another

Main statement: a text is found exactly when it stands somewhere inside the other
(`isWithin_iff`).
-/

namespace BulkImport.Text

/-- Whether the characters stand, one after the other, somewhere among these. -/
def isWithin (needle : List Char) : List Char → Bool
  | [] => needle.isEmpty
  | c :: cs => needle.isPrefixOf (c :: cs) || isWithin needle cs

/-- Whether a text stands somewhere in another. -/
def occursIn (needle s : String) : Bool := isWithin needle.toList s.toList

theorem isWithin_iff {needle cs : List Char} : isWithin needle cs = true ↔ needle <:+: cs := by
  induction cs with
  | nil => simp [isWithin]
  | cons c cs ih =>
    rw [isWithin, Bool.or_eq_true, List.isPrefixOf_iff_prefix, ih, List.infix_cons_iff]

end BulkImport.Text
