import BulkImport.Web.Host

/-!
# Addresses

An absolute address: scheme, authority, path and query; a fragment is left out, since no server
sees it.  Reading takes off the blanks around an address and the line breaks in it, takes a
backslash for a slash where the scheme is a well-known one, goes up and down the dot segments of the
path, and writes in percent what may not stand in its place.
-/

namespace BulkImport.Web

/-- An absolute address. -/
structure Url where
  scheme : String
  username : String := ""
  password : Option String := none
  host : Option Host := none
  /-- The port, if it is not the one that the scheme has of its own. -/
  port : Option Nat := none
  path : String
  query : Option String := none
deriving DecidableEq

namespace Url

/-- The well-known schemes, with the ports they have of their own. -/
def wellKnown : List (String × Option Nat) :=
  [("ftp", some 21), ("file", none), ("http", some 80), ("https", some 443), ("ws", some 80),
    ("wss", some 443)]

/-- Whether a scheme is a well-known one. -/
def isWellKnown (scheme : String) : Bool := (wellKnown.lookup scheme).isSome

/-- The visible characters of ASCII, and the blank, without some. -/
def plainBut (others : List Char) (c : Char) : Bool :=
  0x20 ≤ c.toNat && c.toNat < 0x7F && !others.contains c

/-- Whether a character stands in a path as it is. -/
def isPathChar : Char → Bool :=
  plainBut [' ', '"', '#', '<', '>', '?', '^', '\x60', '\x7b', '\x7d']

/-- Whether a character stands in a user's name or password as it is. -/
def isUserChar (c : Char) : Bool :=
  isPathChar c && !(['/', ':', ';', '=', '@', '[', '\\', ']', '|'].contains c)

/-- Whether a character stands in a query as it is. -/
def isQueryChar (known : Bool) : Char → Bool :=
  plainBut ([' ', '"', '#', '<', '>'] ++ if known then ['\''] else [])

/-- A text with only the characters of a class as they are. -/
def write (keep : Char → Bool) (cs : List Char) : String := String.ofList (Percent.encode keep cs)

/-- An address without what does not count: blanks and control characters at its ends, tabs and
line breaks in it. -/
def significant (cs : List Char) : List Char :=
  let isOuter := fun c : Char => decide (c.toNat ≤ 0x20)
  (Text.dropEnd isOuter (cs.dropWhile isOuter)).filter (· ∉ ['\t', '\n', '\r'])

/-- The scheme, in lower case, and what follows its colon. -/
def scheme? (cs : List Char) : Option (String × List Char) :=
  match Text.cutChars ':' cs with
  | some (c :: name, rest) =>
    if c.isAlpha && name.all fun d => d.isAlphanum || ['+', '-', '.'].contains d then
      some (Text.fold (String.ofList (c :: name)), rest)
    else none
  | _ => none

/-- The parts before and after the first colon that does not stand in brackets. -/
def cutPort (bracketed : Bool) : List Char → List Char × Option (List Char)
  | [] => ([], none)
  | c :: cs =>
    if c = ':' ∧ bracketed = false then ([], some cs)
    else
      let bracketed := if c = '[' then true else if c = ']' then false else bracketed
      let (host, port) := cutPort bracketed cs
      (c :: host, port)

/-- The port that digits write, unless it is the one that goes without saying. -/
def port? (usual : Option Nat) : List Char → Except AddressError (Option Nat)
  | [] => .ok none
  | cs =>
    match Text.natural? cs with
    | some n =>
      if 65535 < n then .error .badPort else .ok (if usual = some n then none else some n)
    | none => .error .badPort

/-- The name and the password of a user, where an empty password is none. -/
def credentials (cs : List Char) : String × Option String :=
  match Text.cutChars ':' cs with
  | some (name, password) =>
    (write isUserChar name, if password.isEmpty then none else some (write isUserChar password))
  | none => (write isUserChar cs, none)

/-- Whether a segment stays where it is. -/
def isSingleDot (segment : List Char) : Bool :=
  [".", "%2e"].contains (Text.fold (String.ofList segment))

/-- Whether a segment goes one up. -/
def isDoubleDot (segment : List Char) : Bool :=
  ["..", ".%2e", "%2e.", "%2e%2e"].contains (Text.fold (String.ofList segment))

/-- Whether a text is the name of a drive: a letter and a colon or a bar. -/
def isDrive : List Char → Bool
  | [c, d] => c.isAlpha && (d == ':' || d == '|')
  | _ => false

/-- Whether a segment is the name of a drive, or begins with one in front of a backslash. -/
def beginsWithDrive (segment : List Char) : Bool :=
  isDrive (segment.take 2) && (segment.length = 2 || segment[2]? = some '\\')

/-- The segments without the last one, both given in reverse.  There is no way up from a drive. -/
def parent : List (List Char) → List (List Char)
  | [] => []
  | s :: before => if beginsWithDrive s then s :: before else before

/-- The segments of a path without the dot segments, after others that are given in reverse. -/
def resolve (before : List (List Char)) : List (List Char) → List (List Char)
  | [] => before.reverse
  | s :: rest =>
    let before :=
      if isDoubleDot s then parent before else if isSingleDot s then before else s :: before
    if rest = [] ∧ (isDoubleDot s ∨ isSingleDot s) then ([] :: before).reverse
    else resolve before rest

/-- A path that begins with a slash, as it is written after its dot segments were followed. -/
def writePath (known : Bool) : List Char → String
  | [] => if known then "/" else ""
  | _ :: cs =>
    String.join <| (resolve [] (Text.piecesChars '/' cs)).map fun s => "/" ++ write isPathChar s

/-- The address with what follows its two slashes: a user and a host with a port, as far as they are
given, and the path.  A backslash ends the port, as a slash does.  `isLast` tells whether the
address ends there. -/
def withPlace (url : Url) (isLast : Bool) (cs : List Char) : Except AddressError Url := do
  let authority := cs.takeWhile (· ≠ '/')
  let path := cs.dropWhile (· ≠ '/')
  let (user, place) := (Text.cutLast '@' authority).getD ([], authority)
  let (username, password) := credentials user
  let (host, port) := cutPort false place
  let needsHost := isWellKnown url.scheme || username ≠ "" || password.isSome || port.isSome ||
    (authority = ['@'] && !(isLast && path.isEmpty))
  if host.isEmpty && needsHost then throw .noHost
  let host ← if host.isEmpty then pure none
    else if isWellKnown url.scheme then (Host.ofWellKnown host).map some
    else (Host.ofAny host).map some
  let port := port.getD []
  let extra := port.dropWhile (· ≠ '\\')
  let port ← port? ((wellKnown.lookup url.scheme).getD none) (port.takeWhile (· ≠ '\\'))
  let path := if extra.isEmpty then path else '/' :: extra ++ path
  return { url with
    username := username, password := password, host := host, port := port
    path := writePath (isWellKnown url.scheme) path }

/-- The address of a file with what follows its scheme. -/
def withFile (url : Url) : List Char → Except AddressError Url
  | '/' :: '/' :: cs =>
    let host := cs.takeWhile (· ≠ '/')
    let path := cs.dropWhile (· ≠ '/')
    if isDrive host then .ok { url with path := writePath true ('/' :: cs) }
    else if host.isEmpty then .ok { url with path := writePath true path }
    else
      (Host.ofWellKnown host).map fun h =>
        { url with host := if h = .named "localhost" then none else some h
                   path := writePath true path }
  | '/' :: cs => .ok { url with path := writePath true ('/' :: cs) }
  | cs => .ok { url with path := writePath true ('/' :: cs) }

/-- The address with what stands between its scheme and its query.  `isLast` tells whether the
address ends there. -/
def withBody (url : Url) (isLast : Bool) (cs : List Char) : Except AddressError Url :=
  if isWellKnown url.scheme then
    let cs := cs.map fun c => if c = '\\' then '/' else c
    if url.scheme = "file" then url.withFile cs else url.withPlace isLast (cs.dropWhile (· = '/'))
  else
    match cs with
    | '/' :: '/' :: cs => url.withPlace isLast cs
    | '/' :: cs => .ok { url with path := writePath false ('/' :: cs) }
    | cs => .ok { url with path := write (plainBut []) cs }

/-- The address that a text writes. -/
def parse (s : String) : Except AddressError Url :=
  match scheme? (significant s.toList) with
  | none => .error .noScheme
  | some (scheme, rest) =>
    let isBody := fun c : Char => c ≠ '?' && c ≠ '#'
    let tail := rest.dropWhile isBody
    let query := match tail with
      | '?' :: q => some (write (isQueryChar (isWellKnown scheme)) (q.takeWhile (· ≠ '#')))
      | _ => none
    ({ scheme := scheme, path := "", query := query } : Url).withBody tail.isEmpty
      (rest.takeWhile isBody)

/-- A text as a form writes it: a plus sign is a blank, bytes are in percent.  Where the bytes are
no text in UTF-8 it is the replacement character. -/
def formText (cs : List Char) : String :=
  (Percent.decode? (cs.map fun c => if c = '+' then ' ' else c)).getD "\ufffd"

/-- The names in a query with their values. -/
def settings (url : Url) : List (String × String) :=
  ((Text.piecesChars '&' (url.query.getD "").toList).filter (· ≠ [])).map fun piece =>
    match Text.cutChars '=' piece with
    | some (name, value) => (formText name, formText value)
    | none => (formText piece, "")

/-- The address with one more setting in its query. -/
def withSetting (url : Url) (name value : String) : Url :=
  let setting := name ++ "=" ++ value
  let query := match url.query with
    | none => setting
    | some "" => setting
    | some q => q ++ "&" ++ setting
  { url with query := some query }

end Url

end BulkImport.Web
