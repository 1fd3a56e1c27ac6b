import BulkImport.Web.Domain.Composition
import BulkImport.Web.Domain.Direction
import BulkImport.Web.Domain.Joining
import BulkImport.Web.Domain.Spelling
import BulkImport.Web.Punycode

/-!
# Domain names

A domain name is labels with full stops between them.  It is read in its composed form, with every
character spelled as it should be, and with the text of each label that is written in punycode.
A label is of any length, unless it needs punycode.
-/

namespace BulkImport.Web.Domain

/-- Whether a text can only be written in punycode. -/
def needsPunycode (label : List Char) : Bool := label.any (0x80 ≤ ·.toNat)

/-- Whether a text is spelled as it should be and needed to be written in punycode. -/
def isPunycodeText (label : List Char) : Bool :=
  needsPunycode label && label.all (fun c => spell c = some [c]) && compose label = label &&
    !"xn--".toList.isPrefixOf label

/-- How many characters of punycode are read, since the work grows with the square of them. -/
def punycodeLimit : Nat := 2000

/-- How many characters a text may have that is written in punycode. -/
def textLimit : Nat := 1000

/-- The text of a label, which is in punycode behind a prefix of its own. -/
def labelText? : List Char → Option (List Char)
  | 'x' :: 'n' :: '-' :: '-' :: cs =>
    if cs.length ≤ punycodeLimit then (Punycode.decode? cs).filter isPunycodeText else none
  | label => some label

/-- Whether a text can be a label: it does not begin with a mark, joiners stand where they may, and
it is not too long to be written in punycode. -/
def isLabel (label : List Char) : Bool :=
  !label.head?.any isMark && joinersFit [] label &&
    (!needsPunycode label || label.length ≤ textLimit)

/-- The name that a text is, as it is spelled. -/
def read? (cs : List Char) : Option (List Char) :=
  (cs.mapM spell).bind fun spelled =>
    ((Text.piecesChars '.' (compose spelled.flatten)).mapM labelText?).bind fun labels =>
      if labels.all isLabel && runStraight labels then some (List.intercalate ['.'] labels)
      else none

end BulkImport.Web.Domain
