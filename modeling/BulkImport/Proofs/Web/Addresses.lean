import BulkImport.Proofs.Sql.Expansion
import BulkImport.Proofs.Web.Paths
import Mathlib.Data.List.TakeWhile

/-!
# Addresses under an address

What becomes of an address when more is written at its end, after a slash.  An address of the web is
read without the tabs and the line breaks in it and with slashes for backslashes, and its path goes
up to the first question mark or number sign (`parse_web`).  The user, the host and the port are
decided by what comes before the first slash (`withPlace_append`).

Main statement: what is written under an address of the web is at the same place, and its path is
written under the path of that address (`parse_under`).
-/

namespace BulkImport.Web.Url

open Sql (bind_eq_ok_iff)

/-! ### The place -/

theorem takeWhile_append_slash (place more : List Char) :
    (place ++ '/' :: more).takeWhile (· ≠ '/') = place.takeWhile (· ≠ '/') := by
  rw [List.takeWhile_append, List.takeWhile_cons_of_neg (by simp), List.append_nil]
  split
  · next h => exact (List.IsPrefix.eq_of_length (List.takeWhile_prefix _) h).symm
  · rfl

theorem dropWhile_append_slash (place more : List Char) :
    (place ++ '/' :: more).dropWhile (· ≠ '/') = place.dropWhile (· ≠ '/') ++ '/' :: more := by
  rw [List.dropWhile_append, List.dropWhile_cons_of_neg (by simp)]
  split
  · next h => rw [List.isEmpty_iff.1 h, List.nil_append]
  · rfl

/-- Where nothing names a place there is none. -/
theorem withPlace_nil {url : Url} (hknown : isWellKnown url.scheme = true) (last : Bool) :
    url.withPlace last [] = .error .noHost := by
  unfold withPlace
  simp only [List.takeWhile_nil, List.dropWhile_nil, hknown, Bool.true_or, Bool.and_true]
  rfl

/-- What is written under a place is at the same place, whatever it is. -/
theorem withPlace_append {url base : Url} {last : Bool} {place : List Char}
    (hknown : isWellKnown url.scheme = true) (h : url.withPlace last (place ++ ['/']) = .ok base) :
    ∃ path, ∀ query last' more,
      ({ url with query := query } : Url).withPlace last' (place ++ '/' :: more) =
        .ok { base with query := query, path := writePath true (path ++ '/' :: more) } := by
  unfold withPlace at h ⊢
  simp only [takeWhile_append_slash, dropWhile_append_slash, hknown, Bool.true_or,
    Bool.and_true] at h ⊢
  -- the user, the host and the port are the same, whatever comes after them
  generalize (Text.cutLast '@' (place.takeWhile (· ≠ '/'))).getD
    ([], place.takeWhile (· ≠ '/')) = authority at h ⊢
  generalize cutPort false authority.2 = machine at h ⊢
  generalize (machine.2.getD []).takeWhile (· ≠ '\\') = digits at h ⊢
  generalize (machine.2.getD []).dropWhile (· ≠ '\\') = extra at h ⊢
  cases hempty : machine.1.isEmpty with
  | true =>
    rw [hempty] at h
    cases h
  | false =>
    rw [hempty] at h
    obtain ⟨host, hhost, hothers⟩ := bind_eq_ok_iff.1 h
    obtain ⟨port, hport, hend⟩ := bind_eq_ok_iff.1 hothers
    obtain rfl := Except.ok.inj hend
    refine ⟨(if extra.isEmpty then [] else '/' :: extra) ++ place.dropWhile (· ≠ '/'), ?_⟩
    intro query last' more
    refine bind_eq_ok_iff.2 ⟨host, hhost, bind_eq_ok_iff.2 ⟨port, hport, ?_⟩⟩
    cases extra with
    | nil => rfl
    | cons c extra => simp only [List.isEmpty_cons, List.append_assoc, List.cons_append]; rfl

/-! ### Addresses of the web -/

/-- The two schemes of the web. -/
def IsWeb (scheme : String) : Prop := scheme = "http" ∨ scheme = "https"

/-- Whether a character does not end the path of an address. -/
def isBody (c : Char) : Bool := c ≠ '?' && c ≠ '#'

/-- A text without the tabs and the line breaks in it. -/
def compact (cs : List Char) : List Char := cs.filter (· ∉ ['\t', '\n', '\r'])

/-- A text with slashes in place of backslashes. -/
def slashed (cs : List Char) : List Char := cs.map fun c => if c = '\\' then '/' else c

/-- The query in what follows a path. -/
def queryIn : List Char → Option String
  | '?' :: q => some (write (isQueryChar true) (q.takeWhile (· ≠ '#')))
  | _ => none

/-- A text does not end with a blank when what is written last does not. -/
theorem visible_last {cs more : List Char} {c : Char} (hc : 0x20 < c.toNat)
    (hlast : ∀ d, more.getLast? = some d → 0x20 < d.toNat) :
    ∀ d, (cs ++ c :: more).getLast? = some d → 0x20 < d.toNat := by
  intro d hd
  rw [List.getLast?_append, List.getLast?_cons, Option.some_or, Option.some_inj] at hd
  cases hmore : more.getLast? with
  | none =>
    rw [hmore] at hd
    exact hd ▸ hc
  | some e =>
    rw [hmore] at hd
    exact hd ▸ hlast e hmore

theorem significant_of_ends {cs : List Char} (hhead : ∀ c, cs.head? = some c → 0x20 < c.toNat)
    (hlast : ∀ c, cs.getLast? = some c → 0x20 < c.toNat) : significant cs = compact cs := by
  have hkept : ∀ ds : List Char, (∀ c, ds.head? = some c → 0x20 < c.toNat) →
      ds.dropWhile (fun c => decide (c.toNat ≤ 0x20)) = ds := by
    intro ds hds
    cases ds with
    | nil => rfl
    | cons c ds =>
      have hc := hds c rfl
      exact List.dropWhile_cons_of_neg (by simpa using hc)
  rw [significant, Text.dropEnd, hkept cs hhead, hkept cs.reverse (by rwa [List.head?_reverse]),
    List.reverse_reverse]
  rfl

theorem scheme?_web {scheme : String} (hweb : IsWeb scheme) (rest : List Char) :
    scheme? (scheme.toList ++ ':' :: rest) = some (scheme, rest) := by
  rcases hweb with rfl | rfl <;> rfl

theorem parse_web {scheme : String} {rest : List Char} (hweb : IsWeb scheme)
    (hlast : ∀ c, rest.getLast? = some c → 0x20 < c.toNat) :
    parse (String.ofList (scheme.toList ++ ':' :: rest)) =
      ({ scheme := scheme, path := "", query := queryIn ((compact rest).dropWhile isBody) }
        : Url).withPlace ((compact rest).dropWhile isBody).isEmpty
          ((slashed ((compact rest).takeWhile isBody)).dropWhile (· = '/')) := by
  have hsignificant : significant (scheme.toList ++ ':' :: rest) =
      scheme.toList ++ ':' :: compact rest := by
    rw [significant_of_ends]
    · rcases hweb with rfl | rfl <;> rfl
    · rcases hweb with rfl | rfl <;> simp
    · exact visible_last (by decide) hlast
  rw [parse, String.toList_ofList, hsignificant, scheme?_web hweb]
  rcases hweb with rfl | rfl <;> rfl

theorem slashed_append (cs ds : List Char) : slashed (cs ++ ds) = slashed cs ++ slashed ds :=
  List.map_append

theorem length_utf8_slashed (cs : List Char) :
    (utf8 (slashed cs)).length = (utf8 cs).length := by
  induction cs with
  | nil => rfl
  | cons c cs ih =>
    rw [slashed, List.map_cons, ← slashed, length_utf8_cons, length_utf8_cons, ih]
    split
    · next hc =>
      subst hc
      rfl
    · rfl

/-- Where no slash is written there was no backslash. -/
theorem backslash_not_mem {cs : List Char} (h : '/' ∉ slashed cs) : '\\' ∉ cs :=
  fun hmem => h (List.mem_map.2 ⟨'\\', hmem, rfl⟩)

theorem slashed_of_noBackslash {cs : List Char} (h : '\\' ∉ cs) : slashed cs = cs := by
  rw [slashed, List.map_congr_left, List.map_id]
  intro c hc
  exact if_neg fun hback : c = '\\' => h (hback ▸ hc)

theorem mem_compact {cs : List Char} {c : Char} :
    c ∈ compact cs ↔ c ∈ cs ∧ c ∉ ['\t', '\n', '\r'] := by
  rw [compact, List.mem_filter, decide_eq_true_iff]

theorem compact_eq_self {cs : List Char} (h : ∀ c ∈ cs, c ∉ ['\t', '\n', '\r']) :
    compact cs = cs :=
  List.filter_eq_self.2 fun c hc => decide_eq_true (h c hc)

theorem compact_append (cs ds : List Char) : compact (cs ++ ds) = compact cs ++ compact ds :=
  List.filter_append _ _

/-- Whatever is written under an address of the web is an address of the same place, whose path is
written under the path of that address. -/
theorem parse_under {scheme : String} {place : List Char} {base : Url} (hweb : IsWeb scheme)
    (hplace : ∀ c ∈ place, isBody c = true)
    (hbase : parse (String.ofList (scheme.toList ++ ':' :: (place ++ ['/']))) = .ok base) :
    ∃ path, ∀ more, (∀ c, more.getLast? = some c → 0x20 < c.toNat) →
      parse (String.ofList (scheme.toList ++ ':' :: (place ++ '/' :: more))) =
        .ok { base with
          query := queryIn ((compact more).dropWhile isBody)
          path := writePath true (path ++ '/' :: slashed ((compact more).takeWhile isBody)) } := by
  have hcompact : ∀ c ∈ compact place, isBody c = true := fun c hc =>
    hplace c (List.mem_of_mem_filter hc)
  have hparse : ∀ more, (∀ c, more.getLast? = some c → 0x20 < c.toNat) →
      parse (String.ofList (scheme.toList ++ ':' :: (place ++ '/' :: more))) =
        ({ scheme := scheme, path := "", query := queryIn ((compact more).dropWhile isBody) }
          : Url).withPlace ((compact more).dropWhile isBody).isEmpty
            ((slashed (compact place) ++ '/' :: slashed ((compact more).takeWhile isBody)).dropWhile
              (· = '/')) := by
    intro more hlast
    have hsplit : compact (place ++ '/' :: more) = compact place ++ '/' :: compact more := by
      rw [compact_append]
      rfl
    rw [parse_web hweb, hsplit, List.dropWhile_append_of_pos hcompact,
      List.takeWhile_append_of_pos hcompact, slashed_append]
    · rfl
    · exact visible_last (by decide) hlast
  rw [hparse [] nofun] at hbase
  have hknown : isWellKnown scheme = true := by rcases hweb with rfl | rfl <;> decide
  cases hfront : ((slashed (compact place)).dropWhile (· = '/')).isEmpty with
  | true =>
    -- nothing but slashes: there is no host
    rw [List.dropWhile_append, hfront] at hbase
    cases (withPlace_nil hknown _).symm.trans hbase
  | false =>
    have hdrop : ∀ more, (slashed (compact place) ++ '/' :: more).dropWhile (· = '/') =
        (slashed (compact place)).dropWhile (· = '/') ++ '/' :: more := fun more => by
      rw [List.dropWhile_append, hfront]
      rfl
    rw [hdrop] at hbase
    obtain ⟨path, hpath⟩ := withPlace_append hknown hbase
    refine ⟨path, fun more hlast => ?_⟩
    rw [hparse more hlast, hdrop]
    exact hpath _ _ _

end BulkImport.Web.Url
