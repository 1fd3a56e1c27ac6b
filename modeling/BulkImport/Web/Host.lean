import BulkImport.Text.Blank
import BulkImport.Text.Numeral
import BulkImport.Web.Domain
import BulkImport.Web.Percent

/-!
# Hosts

The machine that an address names: by a number, which has four bytes or eight groups of sixteen
bits, or by a name.  Where addresses are of a well-known kind, the name is a domain name, and one
that ends in a number has to be a number throughout; elsewhere any name goes that holds no
separator.
-/

namespace BulkImport.Web

/-- Why a text is no address. -/
inductive AddressError where
  | noScheme
  | noHost
  | badIpv4
  | badIpv6
  | badHostCharacter
  | badDomain
  | badPort
deriving DecidableEq

/-- What is reported for a text that is no address. -/
def AddressError.message : AddressError → String
  | .noScheme => "relative URL without a base"
  | .noHost => "empty host"
  | .badIpv4 => "invalid IPv4 address"
  | .badIpv6 => "invalid IPv6 address"
  | .badHostCharacter => "invalid domain character"
  | .badDomain => "invalid international domain name"
  | .badPort => "invalid port number"

/-- The machine that an address names. -/
inductive Host where
  | ipv4 (address : Nat)
  | ipv6 (groups : List Nat)
  | named (name : String)
deriving DecidableEq

namespace Host

/-- A number below 256 without needless zeros. -/
def octet? : List Char → Option Nat
  | '0' :: _ :: _ => none
  | cs => (Text.natural? cs).bind fun n => if n < 256 then some n else none

/-- Four bytes with points between them. -/
def dotted? (cs : List Char) : Option (Nat × Nat × Nat × Nat) :=
  match (Text.piecesChars '.' cs).mapM octet? with
  | some [a, b, c, d] => some (a, b, c, d)
  | _ => none

/-- One to four hexadecimal digits. -/
def group? (cs : List Char) : Option Nat :=
  if cs = [] ∨ 4 < cs.length then none
  else (cs.mapM Text.hexValue?).map fun ds => ds.foldl (fun n d => 16 * n + d) 0

/-- Groups of sixteen bits, where the last piece may be four bytes and then makes two groups. -/
def groups? : List (List Char) → Option (List Nat)
  | [] => some []
  | [p] =>
    match dotted? p with
    | some (a, b, c, d) => some [256 * a + b, 256 * c + d]
    | none => (group? p).map fun g => [g]
  | p :: ps => (group? p).bind fun g => (groups? ps).map (g :: ·)

/-- Groups with colons between them, or none at all. -/
def row? (cs : List Char) : Option (List Nat) :=
  if cs = [] then some [] else groups? (Text.piecesChars ':' cs)

/-- The parts before and after the first double colon. -/
def cutDoubleColon : List Char → Option (List Char × List Char)
  | [] => none
  | ':' :: ':' :: rest => some ([], rest)
  | c :: rest => (cutDoubleColon rest).map fun (a, b) => (c :: a, b)

/-- Eight groups, or fewer with a double colon for those that are zero. -/
def ipv6? (cs : List Char) : Option (List Nat) :=
  match cutDoubleColon cs with
  | none => (row? cs).bind fun gs => if gs.length = 8 then some gs else none
  | some (a, b) =>
    if '.' ∈ a then none
    else
      (row? a).bind fun front => (row? b).bind fun back =>
        if front.length + back.length < 8 then
          some (front ++ List.replicate (8 - front.length - back.length) 0 ++ back)
        else none

/-- The number that digits of a base write, which is zero for none. -/
def digitsIn? (base : Nat) (cs : List Char) : Option Nat :=
  cs.foldlM (fun n c =>
    (Text.hexValue? c).bind fun d => if d < base then some (base * n + d) else none) 0

/-- A number in base sixteen after `0x`, in base eight after another zero, else in base ten. -/
def number? : List Char → Option Nat
  | [] => none
  | '0' :: 'x' :: ds => digitsIn? 16 ds
  | '0' :: 'X' :: ds => digitsIn? 16 ds
  | '0' :: d :: ds => digitsIn? 8 (d :: ds)
  | ds => digitsIn? 10 ds

/-- The pieces between the points, where a last point does not count. -/
def parts (cs : List Char) : List (List Char) :=
  let ps := Text.piecesChars '.' cs
  if ps.getLast? = some [] then ps.dropLast else ps

/-- Whether the last piece is a number, or nothing but digits. -/
def endsInNumber (cs : List Char) : Bool :=
  match (parts cs).getLast? with
  | none => false
  | some p => (!p.isEmpty && p.all Char.isDigit) || (number? p).isSome

/-- The address that up to four numbers make: one byte each, and the last one for all bytes that
are left. -/
def ofNumbers? (ns : List Nat) : Option Nat :=
  match ns.getLast? with
  | none => none
  | some last =>
    let front := ns.dropLast
    let room := Nat.pow 256 (4 - front.length)
    if front.length < 4 ∧ front.all (· < 256) ∧ last < room then
      some (front.foldl (fun n b => 256 * n + b) 0 * room + last)
    else none

/-- The address that numbers between points make. -/
def ipv4? (cs : List Char) : Option Nat :=
  ((parts cs).mapM number?).bind ofNumbers?

/-- The number in brackets, if the text begins with a bracket. -/
def bracketed? : List Char → Option (Except AddressError Host)
  | '[' :: cs =>
    if cs.getLast? = some ']' then
      match ipv6? cs.dropLast with
      | some gs => some (.ok (.ipv6 gs))
      | none => some (.error .badIpv6)
    else some (.error .badIpv6)
  | _ => none

/-- Whether a character separates the parts of an address. -/
def isSeparator (c : Char) : Bool :=
  c ∈ [' ', '#', '/', ':', '<', '>', '?', '@', '[', '\\', ']', '^', '|']

/-- The host in an address of any kind. -/
def ofAny (cs : List Char) : Except AddressError Host :=
  match bracketed? cs with
  | some r => r
  | none =>
    if cs.any fun c => isSeparator c || c ∈ ['\x00', '\t', '\n', '\r'] then
      .error .badHostCharacter
    else
      .ok (.named (String.ofList (Percent.encode (fun c => 0x20 ≤ c.toNat && c.toNat < 0x7F) cs)))

/-- The host in an address of a well-known kind. -/
def ofWellKnown (cs : List Char) : Except AddressError Host :=
  match bracketed? cs with
  | some r => r
  | none =>
    match (Percent.decode? cs).bind fun s => Domain.read? s.toList with
    | none => .error .badDomain
    | some name =>
      if name.any fun c => isSeparator c || c == '%' || c.toNat < 0x20 || c.toNat == 0x7F then
        .error .badDomain
      else if name = [] then .error .noHost
      else if endsInNumber name then
        match ipv4? name with
        | some n => .ok (.ipv4 n)
        | none => .error .badIpv4
      else .ok (.named (String.ofList name))

end Host

end BulkImport.Web
