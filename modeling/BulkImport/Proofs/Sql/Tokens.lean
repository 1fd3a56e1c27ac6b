import BulkImport.Sql.Template

/-!
# Reading a statement as tokens

How a database cuts a statement into tokens before it looks at anything else, where a backslash in a
literal is a character like any other.  A text is read from left to right, one character at a time
(`Mode.read`); between single quotes stands a literal and between double quotes a name, in both of
which the quote is doubled.  The reader takes only what statements are made of here and refuses all
else, so that a text which it takes holds no comment, no dollar quote, no literal of another kind
and no name that the database would cut.

A number may have its sign, where a value can begin, and the words for truth values are values too.

A statement that is spelled as plain texts with values between them is read text by text and value
by value, whatever the values are, as long as the plain texts fit together with values of these
kinds (`tokens_spell`, `tokens_fill`), and so are statements one after the other
(`tokens_semicolon`).  A qualified name that stands in a literal is read as its two parts in turn
(`tokens_qualified`).
-/

namespace BulkImport.Sql

/-- A token of a statement. -/
inductive Token where
  | word (text : String)
  | name (text : String)
  | literal (text : String)
  | number (n : Int)
  | boolean (b : Bool)
  | parameter (digits : String)
  | operator (symbols : String)
  | mark (c : Char)
deriving DecidableEq

/-- Whether a token is a value. -/
def Token.isValue : Token → Bool
  | .name _ | .literal _ | .number _ | .boolean _ => true
  | .word _ | .parameter _ | .operator _ | .mark _ => false

/-- The token, and of a value only of which kind it is. -/
def Token.blank : Token → Token
  | .name _ => .name ""
  | .literal _ => .literal ""
  | .number _ => .number 0
  | .boolean _ => .boolean false
  | t => t

/-! ### The reader -/

/-- What the reader is in the middle of, with the characters of the token so far, the last one
first. -/
inductive Mode where
  /-- Between two tokens; whether a bracket was opened or a comma came last. -/
  | between (opened : Bool)
  /-- After a point. -/
  | point
  | word (cs : List Char)
  /-- In a name between quotes, or after a quote in it. -/
  | name (cs : List Char)
  | nameQuote (cs : List Char)
  /-- In a literal, or after a quote in it. -/
  | literal (cs : List Char)
  | literalQuote (cs : List Char)
  | minus
  | number (negative : Bool) (cs : List Char)
  | dollar
  | parameter (cs : List Char)
  | operator (cs : List Char)
deriving DecidableEq

/-- The characters that operators are made of; the ampersand is none of them, since it may belong to
a literal or a name that is written in another way. -/
def operatorChars : List Char := "+-*/<>=~!@#%^|?".toList

/-- Whether a character after another one in an operator begins a comment. -/
def opensComment (last : Option Char) (c : Char) : Bool :=
  (last == some '-' && c == '-') || (last == some '/' && c == '*')

/-- Whether these characters are one operator; a sign at the end of several would not be part of
it. -/
def isOperator (cs : List Char) : Bool :=
  cs.length == 1 || (cs.head? != some '+' && cs.head? != some '-')

/-- The token of a word without quotes. -/
def wordToken (cs : List Char) : Token :=
  if cs.map Char.toLower = "true".toList then .boolean true
  else if cs.map Char.toLower = "false".toList then .boolean false
  else .word (String.ofList cs)

/-- The number of a sign and digits. -/
def signed (negative : Bool) (cs : List Char) : Int :=
  if negative then -Nat.ofDigitChars 10 cs 0 else Nat.ofDigitChars 10 cs 0

/-- How a character begins, and the tokens that it is itself. -/
def start (opened : Bool) (c : Char) : Option (List Token × Mode) :=
  if c = ' ' then some ([], .between opened)
  else if c = '\'' then some ([], .literal [])
  else if c = '"' then some ([], .name [])
  else if c = '$' then some ([], .dollar)
  else if c = '(' ∨ c = ',' then some ([.mark c], .between true)
  else if c = ')' ∨ c = ';' then some ([.mark c], .between false)
  else if c = '.' then some ([.mark c], .point)
  else if c.isDigit then some ([], .number false [c])
  else if c.isAlpha ∨ c = '_' then some ([], .word [c])
  else if opened ∧ c = '-' then some ([], .minus)
  else if c ∈ operatorChars then some ([], .operator [c])
  else none

namespace Mode

/-- The tokens that are complete when a token ends here, if one can. -/
def finish : Mode → Option (List Token)
  | between _ | point => some []
  | word cs => some [wordToken cs.reverse]
  | nameQuote cs =>
    if cs = [] ∨ maxIdentifierBytes < (String.ofList cs.reverse).utf8ByteSize then none
    else some [.name (String.ofList cs.reverse)]
  | literalQuote cs => some [.literal (String.ofList cs.reverse)]
  | number negative cs => some [.number (signed negative cs.reverse)]
  | parameter cs => some [.parameter (String.ofList cs.reverse)]
  | operator cs => if isOperator cs then some [.operator (String.ofList cs.reverse)] else none
  | name _ | literal _ | minus | dollar => none

/-- A token ends, and a character begins another one. -/
def turn (m : Mode) (c : Char) : Option (List Token × Mode) := do
  let done ← m.finish
  let (begun, next) ← start false c
  return (done ++ begun, next)

/-- What one more character completes, and what it leaves the reader in. -/
def read : Mode → Char → Option (List Token × Mode)
  | between opened, c => start opened c
  | point, c => if c.isDigit ∨ c = '.' then none else start false c
  | word cs, c =>
    if c.isAlphanum ∨ c = '_' then some ([], word (c :: cs))
    else if c = '\'' ∨ c = '"' ∨ c = '$' then none
    else (word cs).turn c
  | name cs, c => if c = '"' then some ([], nameQuote cs) else some ([], name (c :: cs))
  | nameQuote cs, c =>
    if c = '"' then some ([], name (c :: cs)) else (nameQuote cs).turn c
  | literal cs, c =>
    if c = '\'' then some ([], literalQuote cs) else some ([], literal (c :: cs))
  | literalQuote cs, c =>
    if c = '\'' then some ([], literal (c :: cs)) else (literalQuote cs).turn c
  | minus, c => if c.isDigit then some ([], number true [c]) else none
  | number negative cs, c =>
    if c.isDigit then some ([], number negative (c :: cs))
    else if c.isAlpha ∨ c = '_' ∨ c = '.' ∨ c = '$' then none
    else (number negative cs).turn c
  | dollar, c => if c.isDigit then some ([], parameter [c]) else none
  | parameter cs, c =>
    if c.isDigit then some ([], parameter (c :: cs))
    else if c.isAlpha ∨ c = '_' ∨ c = '$' then none
    else (parameter cs).turn c
  | operator cs, c =>
    if c ∈ operatorChars then
      if opensComment cs.head? c then none else some ([], operator (c :: cs))
    else (operator cs).turn c

/-- What a text completes, and what it leaves the reader in. -/
def reads : Mode → List Char → Option (List Token × Mode)
  | m, [] => some ([], m)
  | m, c :: cs => do
    let (done, next) ← m.read c
    let (more, last) ← next.reads cs
    return (done ++ more, last)

/-- The tokens of a text from here on. -/
def tokens (m : Mode) (cs : List Char) : Option (List Token) := do
  let (done, last) ← m.reads cs
  let more ← last.finish
  return done ++ more

end Mode

/-- The tokens of a statement text. -/
def tokens (text : String) : Option (List Token) := (Mode.between false).tokens text.toList

namespace Mode

theorem reads_append (m : Mode) (cs cs' : List Char) :
    m.reads (cs ++ cs') = (m.reads cs).bind fun r =>
      (r.2.reads cs').map fun r' => (r.1 ++ r'.1, r'.2) := by
  induction cs generalizing m with
  | nil => cases h : m.reads cs' <;> simp [reads, h]
  | cons c cs ih =>
    simp only [List.cons_append, reads]
    cases m.read c with
    | none => rfl
    | some r =>
      simp only [Option.bind_eq_bind, Option.bind_some, ih]
      cases r.2.reads cs with
      | none => rfl
      | some r' => cases h : r'.2.reads cs' <;> simp [h]

theorem tokens_append {m m' : Mode} {cs : List Char} {done : List Token}
    (h : m.reads cs = some (done, m')) (cs' : List Char) :
    m.tokens (cs ++ cs') = (m'.tokens cs').map (done ++ ·) := by
  unfold tokens
  rw [reads_append, h]
  simp only [Option.bind_some, Option.bind_eq_bind]
  cases m'.reads cs' with
  | none => rfl
  | some r => cases h : r.2.finish <;> simp [h]

theorem tokens_cons (m : Mode) (c : Char) (cs : List Char) :
    m.tokens (c :: cs) = (m.read c).bind fun r => (r.2.tokens cs).map (r.1 ++ ·) := by
  simp only [tokens, reads]
  cases m.read c with
  | none => rfl
  | some r =>
    simp only [Option.bind_eq_bind, Option.bind_some]
    cases r.2.reads cs with
    | none => rfl
    | some r' => cases h : r'.2.finish <;> simp [h]

/-- A token that is complete comes before the tokens of what follows it. -/
theorem tokens_turn {m : Mode} {c : Char} {done : List Token} (hread : m.read c = m.turn c)
    (hdone : m.finish = some done) (cs : List Char) :
    m.tokens (c :: cs) = ((between false).tokens (c :: cs)).map (done ++ ·) := by
  rw [tokens_cons, tokens_cons, hread, turn, hdone, read]
  cases start false c with
  | none => rfl
  | some begun => cases h : begun.2.tokens cs <;> simp [h]

/-! ### Values -/

theorem reads_name {cs : List Char} (hcs : '"' ∉ cs) (before : List Char) :
    (name before).reads (cs ++ ['"']) = some ([], nameQuote (cs.reverse ++ before)) := by
  induction cs generalizing before with
  | nil => rfl
  | cons c cs ih =>
    simp only [List.mem_cons, not_or] at hcs
    simp [reads, read, Ne.symm hcs.1, ih hcs.2]

theorem reads_literal (cs before : List Char) :
    (literal before).reads (doubleQuotes cs ++ ['\'']) =
      some ([], literalQuote (cs.reverse ++ before)) := by
  induction cs generalizing before with
  | nil => rfl
  | cons c cs ih =>
    by_cases hc : c = '\''
    · subst hc
      have hquotes : doubleQuotes ('\'' :: cs) = '\'' :: '\'' :: doubleQuotes cs := rfl
      rw [hquotes]
      simp [reads, read, ih]
    · have hsame : doubleQuotes (c :: cs) = c :: doubleQuotes cs := by
        simp [doubleQuotes, hc]
      rw [hsame]
      simp [reads, read, hc, ih]

theorem reads_digits {cs : List Char} (hcs : ∀ c ∈ cs, c.isDigit = true) (negative : Bool)
    (before : List Char) :
    (number negative before).reads cs = some ([], number negative (cs.reverse ++ before)) := by
  induction cs generalizing before with
  | nil => rfl
  | cons c cs ih =>
    obtain ⟨hc, hcs⟩ := List.forall_mem_cons.1 hcs
    simp [reads, read, hc, ih hcs]

end Mode

theorem start_digit {c : Char} (hc : c.isDigit = true) (opened : Bool) :
    start opened c = some ([], .number false [c]) := by
  have hne : ∀ c', c'.isDigit = false → c ≠ c' := by
    rintro c' hc' rfl
    rw [hc] at hc'
    cases hc'
  simp [start, hc, hne]

/-- Of which kind a value is. -/
inductive ValueKind where
  | name
  | literal
  | number
  | boolean
deriving DecidableEq

/-- Some value of a kind. -/
def ValueKind.token : ValueKind → Token
  | .name => .name ""
  | .literal => .literal ""
  | .number => .number 0
  | .boolean => .boolean false

/-- Whether a value of a kind ends where this character comes after it. -/
def ValueKind.endsAt : ValueKind → Char → Bool
  | .name, c => c != '"'
  | .literal, c => c != '\''
  | .number, c => !(c.isAlphanum || c == '_' || c == '.' || c == '$')
  | .boolean, c => !(c.isAlphanum || c == '_' || c == '\'' || c == '"' || c == '$')

/-- Whether a value of a kind ends before a text, which may be empty where it is the last one. -/
def ValueKind.endsBefore (k : ValueKind) (after : String) (last : Bool) : Bool :=
  match after.toList with
  | [] => last
  | c :: _ => k.endsAt c

/-- Whether a value of a kind can stand here; a number with its sign only where a bracket was opened
or a comma came last. -/
def Mode.admits : Mode → ValueKind → Bool
  | .between opened, .number => opened
  | .point, .number => false
  | .between _, _ | .point, _ => true
  | _, _ => false

namespace Value

def kind : Value → ValueKind
  | .identifier _ => .name
  | .literal _ => .literal
  | .integer _ => .number
  | .boolean _ => .boolean

/-- The token that a value is. -/
def token : Value → Token
  | .identifier i => .name i.text
  | .literal s => .literal s
  | .integer n => .number n.toInt
  | .boolean b => .boolean b

/-- What the reader is in when it has read a value. -/
def mode : Value → Mode
  | .identifier i => .nameQuote i.text.toList.reverse
  | .literal s => .literalQuote s.toList.reverse
  | .integer n => .number (decide (n.toInt < 0)) (Nat.toDigits 10 n.toInt.natAbs).reverse
  | .boolean b => .word (if b then "true" else "false").toList.reverse

@[simp] theorem render_identifier (i : Identifier) : render (.identifier i) = i.quoted := rfl

@[simp] theorem blank_token (v : Value) : v.token.blank = v.kind.token := by
  cases v <;> rfl

@[simp] theorem isValue_token (v : Value) : v.token.isValue = true := by
  cases v <;> rfl

/-- No name has a quote in it. -/
theorem quote_not_mem (i : Identifier) : '"' ∉ i.text.toList := by
  intro hquote
  obtain ⟨c, cs, hcs⟩ := List.exists_cons_of_ne_nil (List.ne_nil_of_mem hquote)
  have hspelled := i.spelled
  rw [hcs, spellsName, Bool.and_eq_true, List.all_eq_true] at hspelled
  rw [hcs, List.mem_cons] at hquote
  rcases hquote with rfl | hquote
  · exact absurd hspelled.1 (by decide)
  · exact absurd (hspelled.2 _ hquote) (by decide)

/-- A number is read with its sign, where it has one. -/
theorem reads_number {m : Mode} (hm : m.admits .number = true) (n : Int) :
    m.reads (toString n).toList =
      some ([], .number (decide (n < 0)) (Nat.toDigits 10 n.natAbs).reverse) := by
  obtain rfl : m = .between true := by
    cases m with
    | between opened => exact congrArg Mode.between hm
    | point | word | name | nameQuote | literal | literalQuote | minus | number | dollar
        | parameter | operator => cases hm
  have hdigits : ∀ k, ∃ d ds, Nat.toDigits 10 k = d :: ds ∧ d.isDigit = true ∧
      ∀ c ∈ ds, c.isDigit = true := by
    intro k
    obtain ⟨d, ds, hds⟩ := List.exists_cons_of_ne_nil (Nat.toDigits_ne_nil (b := 10) (n := k))
    have hall : ∀ c ∈ d :: ds, c.isDigit = true := fun c hc =>
      Nat.isDigit_of_mem_toDigits (by decide) (by decide) (hds ▸ hc)
    exact ⟨d, ds, hds, List.forall_mem_cons.1 hall⟩
  have htext : ∀ k : Nat, (toString k).toList = Nat.toDigits 10 k := by
    intro k
    rw [Nat.toString_eq_ofList_toDigits, String.toList_ofList]
  cases n with
  | ofNat k =>
    obtain ⟨d, ds, hds, hd, hall⟩ := hdigits k
    have hspelled : (toString (Int.ofNat k)).toList = d :: ds := (htext k).trans hds
    rw [hspelled, Mode.reads, Mode.read, start_digit hd]
    simp [Mode.reads_digits hall, hds]
  | negSucc k =>
    obtain ⟨d, ds, hds, hd, hall⟩ := hdigits (k + 1)
    have hspelled : (toString (Int.negSucc k)).toList = '-' :: d :: ds := by
      rw [← hds, ← htext]
      exact String.toList_append
    rw [hspelled]
    simp [Mode.reads, Mode.read, start, hd, Mode.reads_digits hall, hds]

/-- A value is read as a whole, and the reader waits for what ends it. -/
theorem reads_render {m : Mode} {v : Value} (hm : m.admits v.kind = true) :
    m.reads v.render.toList = some ([], v.mode) := by
  have hplace : (∃ opened, m = .between opened) ∨ m = .point := by
    cases m with
    | between opened => exact .inl ⟨opened, rfl⟩
    | point => exact .inr rfl
    | word | name | nameQuote | literal | literalQuote | minus | number | dollar | parameter
        | operator => cases hm
  cases v with
  | identifier i =>
    have htext : (render (.identifier i)).toList = '"' :: (i.text.toList ++ ['"']) := by
      simp [render, Identifier.quoted]
    have hopen : m.read '"' = some ([], .name []) := by
      rcases hplace with ⟨opened, rfl⟩ | rfl <;> rfl
    rw [htext, Mode.reads, hopen]
    simp [Mode.reads_name (quote_not_mem i), mode]
  | literal s =>
    have htext : (render (.literal s)).toList = '\'' :: (doubleQuotes s.toList ++ ['\'']) := by
      simp [render]
    have hopen : m.read '\'' = some ([], .literal []) := by
      rcases hplace with ⟨opened, rfl⟩ | rfl <;> rfl
    rw [htext, Mode.reads, hopen]
    simp [Mode.reads_literal, mode]
  | integer n => exact reads_number hm n.toInt
  | boolean b =>
    rcases hplace with ⟨opened, rfl⟩ | rfl
    · cases opened <;> cases b <;> decide
    · cases b <;> decide

theorem finish_mode (v : Value) : v.mode.finish = some [v.token] := by
  cases v with
  | identifier i =>
    have hfits := i.fits
    simp [mode, token, Mode.finish, i.text_ne_empty, Nat.not_lt.2 hfits]
  | literal s => simp [mode, token, Mode.finish]
  | integer n =>
    have hsigned : signed (decide (n.toInt < 0)) (Nat.toDigits 10 n.toInt.natAbs) = n.toInt := by
      rw [signed, Nat.ofDigitChars_ten_toDigits]
      by_cases hn : n.toInt < 0
      · simp only [hn, decide_true, if_true]
        omega
      · simp only [hn, decide_false, Bool.false_eq_true, if_false]
        omega
    simp [mode, token, Mode.finish, hsigned]
  | boolean b => cases b <;> decide

theorem read_mode {v : Value} {c : Char} (hc : v.kind.endsAt c = true) :
    v.mode.read c = v.mode.turn c := by
  cases v with
  | identifier i => simp_all [kind, ValueKind.endsAt, mode, Mode.read]
  | literal s => simp_all [kind, ValueKind.endsAt, mode, Mode.read]
  | integer n => simp_all [kind, ValueKind.endsAt, mode, Mode.read, Char.isAlphanum]
  | boolean b => simp_all [kind, ValueKind.endsAt, mode, Mode.read]

/-- Where a value ends, its token is complete, and what comes after it is read for itself. -/
theorem tokens_after {v : Value} {c : Char} (hc : v.kind.endsAt c = true) (cs : List Char) :
    v.mode.tokens (c :: cs) = ((Mode.between false).tokens (c :: cs)).map (v.token :: ·) :=
  Mode.tokens_turn (read_mode hc) v.finish_mode cs

end Value

/-! ### Texts with values between them -/

/-- A plain text, and then values, each with the plain text after it. -/
structure Wording (α : Type) where
  first : String
  rest : List (α × String) := []

namespace Wording

variable {α β : Type}

/-- The same plain texts with other values between them, as far as there are such. -/
def fill (w : Wording α) (values : List β) : Wording β :=
  ⟨w.first, values.zip (w.rest.map Prod.snd)⟩

/-- The text of plain texts and values. -/
def spell (first : String) : List (Value × String) → String
  | [] => first
  | (v, after) :: rest => first ++ (v.render ++ spell after rest)

/-- The text of a wording. -/
def text (w : Wording Value) : String := spell w.first w.rest

@[simp] theorem text_fill_nil (first : String) (rest : List (α × String)) :
    (fill ⟨first, rest⟩ ([] : List Value)).text = first := by
  cases rest <;> rfl

@[simp] theorem text_fill_cons (first after : String) (a : α) (rest : List (α × String)) (v : Value)
    (values : List Value) :
    (fill ⟨first, (a, after) :: rest⟩ (v :: values)).text =
      first ++ (v.render ++ (fill ⟨after, rest⟩ values).text) := rfl

/-- The tokens of plain texts, each read for itself, and of the values between them. -/
def tokensBy (token : α → Token) (w : Wording α) : List Token :=
  (Sql.tokens w.first).getD [] ++
    w.rest.flatMap fun (a, after) => token a :: (Sql.tokens after).getD []

/-- What a wording looks like with whatever values in it. -/
def shape (w : Wording ValueKind) : List Token := (w.tokensBy ValueKind.token).map Token.blank

/-- The values that the last of the plain texts itself has, where values of these kinds can be read
between the plain texts and there is none in those before the last. -/
def constantsFrom (first : String) : List (ValueKind × String) → Option (List Token)
  | [] => (Sql.tokens first).map (·.filter Token.isValue)
  | (k, after) :: rest => do
    let (done, m) ← (Mode.between false).reads first.toList
    if m.admits k && k.endsBefore after rest.isEmpty && done.all (!·.isValue) then
      constantsFrom after rest
    else none

def constants (w : Wording ValueKind) : Option (List Token) := constantsFrom w.first w.rest

theorem finish_of_admits {m : Mode} {k : ValueKind} (h : m.admits k = true) :
    m.finish = some [] := by
  cases m with
  | between | point => rfl
  | word | name | nameQuote | literal | literalQuote | minus | number | dollar | parameter
      | operator => cases h

/-- The tokens of a text that is over where a value can stand. -/
theorem tokens_of_reads {s : String} {m : Mode} {k : ValueKind} {done : List Token}
    (h : (Mode.between false).reads s.toList = some (done, m)) (hm : m.admits k = true) :
    Sql.tokens s = some done := by
  simp [Sql.tokens, Mode.tokens, h, finish_of_admits hm]

/-- Where it ends as it should, a value is followed by the tokens of the rest. -/
theorem tokens_value {v : Value} {after : String} {rest : List (Value × String)}
    (hends : v.kind.endsBefore after rest.isEmpty = true) :
    v.mode.tokens (spell after rest).toList =
      (Sql.tokens (spell after rest)).map (v.token :: ·) := by
  unfold ValueKind.endsBefore at hends
  split at hends
  · next hafter =>
    obtain rfl := List.isEmpty_iff.1 hends
    have hnothing : (spell after []).toList = [] := hafter
    simp only [Sql.tokens, hnothing, Mode.tokens, Mode.reads, Option.bind_eq_bind,
      Option.bind_some, v.finish_mode]
    rfl
  · next c cs hafter =>
    obtain ⟨cs', hspelled⟩ : ∃ cs', (spell after rest).toList = c :: cs' := by
      cases rest with
      | nil => exact ⟨cs, hafter⟩
      | cons p rest =>
        rw [spell, String.toList_append, hafter]
        exact ⟨_, rfl⟩
    rw [Sql.tokens, hspelled]
    exact Value.tokens_after hends cs'

/-- A text in whose wording values of these kinds can be read is read text by text and value by
value, and the values that it has are those between the plain texts and those of the last one. -/
theorem tokens_spell {first : String} {rest : List (Value × String)} {constants : List Token}
    (h : constantsFrom first (rest.map fun p => (p.1.kind, p.2)) = some constants) :
    Sql.tokens (spell first rest) = some (tokensBy Value.token ⟨first, rest⟩) ∧
      (tokensBy Value.token ⟨first, rest⟩).filter Token.isValue =
        rest.map (fun p => p.1.token) ++ constants := by
  induction rest generalizing first with
  | nil =>
    obtain ⟨ts, hts, rfl⟩ := Option.map_eq_some_iff.1 h
    simp [spell, tokensBy, hts]
  | cons p rest ih =>
    obtain ⟨v, after⟩ := p
    rw [List.map_cons, constantsFrom, Option.bind_eq_bind, Option.bind_eq_some_iff] at h
    obtain ⟨⟨done, m⟩, hfirst, h⟩ := h
    dsimp only at h
    split at h
    · next hfits =>
      rw [Bool.and_eq_true, Bool.and_eq_true, List.isEmpty_map] at hfits
      obtain ⟨⟨hm, hends⟩, hplain⟩ := hfits
      obtain ⟨hrest, hvalues⟩ := ih h
      have hdone := tokens_of_reads hfirst hm
      have hnone : done.filter Token.isValue = [] := by
        simpa using hplain
      have hsplit : tokensBy Value.token ⟨first, (v, after) :: rest⟩ =
          done ++ v.token :: tokensBy Value.token ⟨after, rest⟩ := by
        simp [tokensBy, hdone]
      rw [hsplit]
      constructor
      · rw [spell, Sql.tokens, String.toList_append, String.toList_append,
          Mode.tokens_append hfirst, Mode.tokens_append (Value.reads_render hm),
          tokens_value hends, hrest]
        simp
      · rw [List.filter_append, hnone, List.filter_cons_of_pos v.isValue_token, hvalues]
        rfl
    · cases h

theorem map_kind_fill {w : Wording ValueKind} {values : List Value}
    (hkinds : values.map Value.kind = w.rest.map Prod.fst) :
    (w.fill values).rest.map (fun p => (p.1.kind, p.2)) = w.rest := by
  calc (values.zip (w.rest.map Prod.snd)).map (fun p => (p.1.kind, p.2))
      = (values.map Value.kind).zip (w.rest.map Prod.snd) := by
        rw [List.zip_map_left]
        rfl
    _ = w.rest := by
        rw [hkinds, List.zip_map', List.map_id'']
        intro p
        rfl

/-- With values of its kinds in it, a wording looks the same. -/
theorem blank_tokensBy (w : Wording Value) :
    (w.tokensBy Value.token).map Token.blank =
      shape ⟨w.first, w.rest.map fun p => (p.1.kind, p.2)⟩ := by
  have hblank : ∀ k : ValueKind, k.token.blank = k.token := by
    intro k
    cases k <;> rfl
  simp only [shape, tokensBy, List.map_append, List.map_flatMap, List.flatMap_map, List.map_cons,
    Value.blank_token, hblank]

/-- Whatever values of its kinds are in it, a wording in which they can be read is read with the
same tokens but for the values, which are those that were put in and those that it has itself. -/
theorem tokens_fill {w : Wording ValueKind} {values : List Value} {constants : List Token}
    (hkinds : values.map Value.kind = w.rest.map Prod.fst) (h : w.constants = some constants) :
    ∃ ts, Sql.tokens (w.fill values).text = some ts ∧ ts.map Token.blank = w.shape ∧
      ts.filter Token.isValue = values.map Value.token ++ constants := by
  have hfill := map_kind_fill hkinds
  obtain ⟨hread, hvalues⟩ := tokens_spell ((congrArg (constantsFrom w.first) hfill).trans h)
  refine ⟨_, hread, ?_, hvalues.trans ?_⟩
  · refine (blank_tokensBy (w.fill values)).trans ?_
    exact congrArg (fun rest => shape ⟨w.first, rest⟩) hfill
  · have hlength : values.length = w.rest.length := by
      simpa using congrArg List.length hkinds
    have hput : (w.fill values).rest.map Prod.fst = values :=
      List.map_fst_zip (by simp [hlength])
    have htokens := congrArg (List.map Value.token) hput
    rw [List.map_map] at htokens
    exact congrArg (· ++ constants) htokens

end Wording

/-! ### Statements one after the other -/

/-- After a semicolon, nothing of what was read is left open. -/
theorem reads_semicolon {text : String} {ts : List Token} (h : tokens (text ++ ";") = some ts) :
    (Mode.between false).reads (text ++ ";").toList = some (ts, .between false) := by
  -- a semicolon ends every token that can end, and is none only between quotes
  have hended : ∀ {m : Mode} {more : List Token}, m.read ';' = m.turn ';' →
      m.tokens [';'] = some more → m.reads [';'] = some (more, .between false) := by
    intro m more hread hm
    cases hdone : m.finish with
    | none =>
      rw [Mode.tokens_cons, hread, Mode.turn, hdone] at hm
      cases hm
    | some done =>
      have hturn : m.turn ';' = some (done ++ [.mark ';'], .between false) := by
        rw [Mode.turn, hdone]
        rfl
      rw [Mode.tokens_cons, hread, hturn] at hm
      rw [Mode.reads, hread, hturn]
      cases hm
      rfl
  have hlast : ∀ {m : Mode} {more : List Token}, m.tokens [';'] = some more →
      m.reads [';'] = some (more, .between false) := by
    intro m more hm
    cases m with
    | between | point =>
      cases hm
      rfl
    | name | literal | minus | dollar => cases hm
    | word | nameQuote | literalQuote | number | parameter | operator => exact hended rfl hm
  have htext : (text ++ ";").toList = text.toList ++ [';'] := String.toList_append
  rw [tokens, htext] at h
  rw [htext]
  cases hread : (Mode.between false).reads text.toList with
  | none => simp [Mode.tokens, Mode.reads_append, hread] at h
  | some r =>
    obtain ⟨done, m⟩ := r
    rw [Mode.tokens_append hread] at h
    obtain ⟨more, hmore, rfl⟩ := Option.map_eq_some_iff.1 h
    simp [Mode.reads_append, hread, hlast hmore]

theorem tokens_semicolon {text : String} {ts : List Token} (h : tokens (text ++ ";") = some ts)
    (more : String) : tokens (text ++ ";" ++ more) = (tokens more).map (ts ++ ·) := by
  rw [tokens, String.toList_append (s := text ++ ";"), Mode.tokens_append (reads_semicolon h)]
  rfl

/-- A qualified name is read as its two parts. -/
theorem tokens_qualified (schema name : Identifier) :
    tokens (schema.quoted ++ "." ++ name.quoted) =
      some [.name schema.text, .mark '.', .name name.text] := by
  have hfits : Wording.constantsFrom "" [(.name, "."), (.name, "")] = some [] := by decide
  have hread := (@Wording.tokens_spell "" [(.identifier schema, "."), (.identifier name, "")] []
    hfits).1
  have htext : Wording.spell "" [(.identifier schema, "."), (.identifier name, "")] =
      schema.quoted ++ "." ++ name.quoted := by
    simp [Wording.spell, Value.render, String.append_assoc]
  rw [← htext, hread]
  rfl

end BulkImport.Sql
