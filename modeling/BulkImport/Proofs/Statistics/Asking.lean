import BulkImport.Proofs.Config.Validity
import BulkImport.Proofs.History
import BulkImport.Proofs.Web.Addresses
import BulkImport.Statistics.Count

/-!
# Whose features are counted

A new job is checked by the count of its own target space and of no other (`asked_store`).  The
name of the space goes into the address of the request as it is, so that the request is about that
space when the name holds nothing which has a meaning in an address (`Plain`): no character that
ends a segment or is dropped, no escape, and no dots that lead elsewhere.

Main statement: whatever the space, the request goes to the server of the endpoint; it asks there
about that very space exactly when the name is plain (`request_asks`).
-/

namespace BulkImport.Statistics

open BulkImport.Program
open BulkImport.Web (Url Request utf8)
open BulkImport.Web.Percent (HasEscape)
open BulkImport.Web.Url

/-! ### Whose count is asked for -/

/-- The spaces whose features were counted. -/
def asked (h : List (Exchange Store.Question Store.Answer)) : List String :=
  h.filterMap fun e =>
    match e.question with
    | .countFeatures space => some space
    | _ => none

theorem asked_append (h h' : List (Exchange Store.Question Store.Answer)) :
    asked (h ++ h') = asked h ++ asked h' :=
  List.filterMap_append

/-- Anything may be asked for but the features of a space. -/
def uncounted : Protocol Store.Question Store.Answer Unit where
  allows _ q := ∀ space, q ≠ .countFeatures space
  expects _ _ _ := True
  next _ _ _ := ()

theorem asked_eq_nil {h : List (Exchange Store.Question Store.Answer)}
    (hnone : ∀ e ∈ h, uncounted.allows () e.question) : asked h = [] := by
  refine List.filterMap_eq_nil_iff.2 fun e he => ?_
  split
  · next space hspace => exact absurd hspace (hnone e he space)
  · rfl

/-- What a new job is checked by is the count of its own space. -/
theorem asked_checkSpace {job : Job} {h : List (Exchange Store.Question Store.Answer)}
    {r : Except Store.Error Unit} (hp : Answered (Store.checkSpace job).run h r) :
    asked h = job.envelope.targetSpaceId.toList := by
  unfold Store.checkSpace at hp
  cases hspace : job.envelope.targetSpaceId with
  | none =>
    rw [hspace] at hp
    obtain ⟨rfl, -⟩ := answered_return.1 hp
    rfl
  | some space =>
    rw [hspace] at hp
    rcases answered_attempt.1 hp with ⟨e, hcount, rfl⟩ | ⟨h₁, h₂, count, rfl, hcount, hrest⟩
    · obtain rfl := answered_query.1 hcount
      rfl
    · obtain rfl := answered_query.1 hcount
      have hsilent : h₂ = [] := by
        cases count with
        | none => exact (answered_return.1 hrest).1
        | some n =>
          dsimp only at hrest
          split at hrest
          · exact (answered_return.1 hrest).1
          · exact (answered_throw.1 hrest).1
      rw [hsilent]
      rfl

/-- Storing a new job counts the features of its target space, if it has one, and of no other. -/
theorem asked_store {job : Job} {h : List (Exchange Store.Question Store.Answer)}
    {r : Except Store.Error Job} (hp : Answered (Store.store job).run h r) :
    asked h = job.envelope.targetSpaceId.toList := by
  unfold Store.store at hp
  rcases answered_attempt.1 hp with ⟨e, hcheck, -⟩ | ⟨h₁, h₂, u, rfl, hcheck, hrest⟩
  · exact asked_checkSpace hcheck
  · -- the time, a name if there is none and the insertion are all that is asked for then
    have hsilent : asked h₂ = [] := by
      refine asked_eq_nil (allowed_of_answered hrest (fun _ => True) ?_ fun _ _ => trivial).1
      refine ⟨nofun, fun now _ => ?_⟩
      unfold Store.nameFor
      split
      · exact ⟨nofun, fun name _ => ⟨nofun, fun kept _ => by cases kept <;> trivial⟩⟩
      · exact ⟨nofun, fun kept _ => by cases kept <;> trivial⟩
    rw [asked_append, hsilent, List.append_nil, asked_checkSpace hcheck]

/-! ### Names in an address -/

/-- A name has no meaning in an address but its own. -/
structure Plain (space : String) : Prop where
  /-- No character ends a segment, ends the path or is dropped. -/
  whole : ∀ c ∈ space.toList, c ∉ ['/', '\\', '?', '#', '\t', '\n', '\r']
  undotted : space ≠ "." ∧ space ≠ ".."
  /-- No percent sign has two digits after it. -/
  unescaped : ¬ HasEscape space.toList

/-- A request asks at the place of an address for the features of a space: for the count of what is
under the name of the space, which is one segment, and for nothing else. -/
structure AsksAbout (base : Url) (space : String) (r : Request) : Prop where
  path : ∃ segment : String, '/' ∉ segment.toList ∧
    r.path = base.path ++ "spaces/" ++ segment ++ "/statistics" ∧
    Web.Percent.decode? segment.toList = some space
  query : r.query = some "skipCache=true"

theorem plain_of_letters {space : String} (h : ∀ c ∈ space.toList, c.isAlpha = true) :
    Plain space := by
  have hother : ∀ c ∈ space.toList, ∀ d, d.isAlpha = false → c ≠ d := by
    rintro c hc d hd rfl
    rw [h c hc] at hd
    cases hd
  refine ⟨fun c hc hmem => ?_, ⟨?_, ?_⟩, Web.Percent.noEscape_of_noPercent fun hmem => ?_⟩
  · have hnone : ∀ d ∈ ['/', '\\', '?', '#', '\t', '\n', '\r'], d.isAlpha = false :=
      List.all_iff_forall_prop.1 (by decide)
    exact hother c hc c (hnone c hmem) rfl
  · rintro rfl
    exact absurd (h '.' (by decide)) (by decide)
  · rintro rfl
    exact absurd (h '.' (by decide)) (by decide)
  · exact hother '%' hmem '%' (by decide) rfl

/-- The path that is asked for under an endpoint, as far as it is one. -/
def place (space : String) : List Char :=
  slashed ((compact (space ++ "/statistics").toList).takeWhile isBody)

/-- The segments of what is asked for under an endpoint, dot segments among them. -/
def segments (space : String) : List (List Char) :=
  "spaces".toList :: Text.piecesChars '/' (place space)

theorem place_eq (space : String) : place space =
    slashed ((compact space.toList ++ "/statistics".toList).takeWhile isBody) := by
  rw [place, String.toList_append, compact_append]
  rfl

/-- The segments of what is asked for come from the name of the space, apart from the last one. -/
theorem mem_pieces_place {space : String} {p : List Char}
    (hp : p ∈ Text.piecesChars '/' (place space)) :
    p = "statistics".toList ∨
      p ∈ Text.piecesChars '/' (slashed ((compact space.toList).takeWhile isBody)) := by
  rw [place_eq, List.takeWhile_append] at hp
  split at hp
  · next hall =>
    have hwhole : (compact space.toList).takeWhile isBody = compact space.toList :=
      (List.takeWhile_prefix _).eq_of_length hall
    have hsplit : slashed (compact space.toList ++ "/statistics".toList.takeWhile isBody) =
        slashed (compact space.toList) ++ '/' :: "statistics".toList := slashed_append _ _
    rw [hsplit, Text.piecesChars_append_sep, List.mem_append] at hp
    rw [hwhole]
    exact hp.symm.imp_left List.mem_singleton.1
  · exact .inr hp

/-- A name is plain when one segment of it stands for all of it. -/
theorem plain_of_mem_pieces {space : String} {p : List Char}
    (hp : p ∈ Text.piecesChars '/' (slashed ((compact space.toList).takeWhile isBody)))
    (hdots : isDots p = false) (hdecode : Web.Percent.decode p = utf8 space.toList) :
    Plain space := by
  have hslash : '/' ∉ p := Text.sep_not_mem_of_mem_pieces hp
  have hpiece := Text.sublist_of_mem_pieces hp
  have hbody : ((compact space.toList).takeWhile isBody).Sublist space.toList :=
    (List.takeWhile_sublist _).trans List.filter_sublist
  -- no byte is lost on the way, so all that is taken out is nothing
  have hlength : (utf8 space.toList).length ≤ (utf8 p).length := by
    rw [← hdecode]
    exact Web.Percent.length_decode_le p
  have hshorter := Web.length_utf8_le_of_sublist hpiece
  have hshorter' := Web.length_utf8_le_of_sublist hbody
  rw [length_utf8_slashed] at hshorter
  obtain rfl := Web.eq_of_sublist_utf8 hpiece (by rw [length_utf8_slashed]; omega)
  have hback := backslash_not_mem hslash
  rw [slashed_of_noBackslash hback] at hslash hdots hdecode hlength
  have hall := Web.eq_of_sublist_utf8 hbody hlength
  rw [hall] at hslash hback hdots hdecode
  refine ⟨fun c hc => ?_, ⟨?_, ?_⟩, fun hescape => ?_⟩
  · have hne : ∀ d, d ∉ space.toList → c ≠ d := fun d hd heq => hd (heq ▸ hc)
    have hc' : c ∈ (compact space.toList).takeWhile isBody := by
      rw [hall]
      exact hc
    have hends : isBody c = true := List.all_eq_true.1 List.all_takeWhile c hc'
    have hkept := (mem_compact.1 ((List.takeWhile_sublist _).subset hc')).2
    simp only [isBody, Bool.and_eq_true, decide_eq_true_eq] at hends
    simp only [List.mem_cons, List.not_mem_nil, or_false, not_or] at hkept ⊢
    exact ⟨hne _ hslash, hne _ hback, hends.1, hends.2, hkept⟩
  · rintro rfl
    exact absurd hdots (by decide)
  · rintro rfl
    exact absurd hdots (by decide)
  · have hlt := Web.Percent.length_decode_lt hescape
    rw [hdecode] at hlt
    exact absurd hlt (Nat.lt_irrefl _)

/-- What is asked for under a plain name is written as it is, and ends the address. -/
theorem body_of_plain {space : String} (hplain : Plain space) :
    place space = space.toList ++ "/statistics".toList ∧
      ∀ c ∈ compact (space ++ "/statistics").toList, isBody c = true := by
  have hne : ∀ c ∈ space.toList, ∀ d ∈ ['/', '\\', '?', '#', '\t', '\n', '\r'], c ≠ d := by
    rintro c hc d hd rfl
    exact hplain.whole c hc hd
  have hcompact : compact (space ++ "/statistics").toList =
      space.toList ++ "/statistics".toList := by
    rw [String.toList_append, compact_append, compact_eq_self fun c hc hdropped => ?_]
    · rfl
    · exact hplain.whole c hc (by simp only [List.mem_cons] at hdropped ⊢; tauto)
  have hbody : ∀ c ∈ space.toList ++ "/statistics".toList, isBody c = true := by
    rw [List.forall_mem_append]
    refine ⟨fun c hc => ?_, List.all_iff_forall_prop.1 (by decide)⟩
    simp [isBody, hne c hc]
  have hback : '\\' ∉ space.toList ++ "/statistics".toList := by
    rw [List.mem_append, not_or]
    exact ⟨fun hmem => hne _ hmem '\\' (by simp) rfl, by decide⟩
  rw [place, hcompact]
  refine ⟨?_, hbody⟩
  rw [List.takeWhile_eq_self_iff.2 hbody, slashed_of_noBackslash hback]

/-! ### Under an endpoint -/

/-- An endpoint as a directory: with one slash at its end, in place of those that it has. -/
def directory (endpoint : String) : String :=
  String.ofList (Text.dropEnd (· = '/') endpoint.toList) ++ "/"

/-- The endpoint of a configuration that is accepted is an address of the web. -/
theorem endpoint_of_valid {config : Config} (hvalid : config.fault? = none) :
    ∃ scheme rest, IsWeb scheme ∧
      config.statistics.endpoint.toList = scheme.toList ++ ':' :: '/' :: '/' :: rest := by
  have hbegins := (Config.fault?_eq_none_iff.1 hvalid).endpoint_web
  rw [String.isPrefixOf, String.isPrefixOf, String.startsWith_string_iff,
    String.startsWith_string_iff] at hbegins
  rcases hbegins with ⟨rest, hrest⟩ | ⟨rest, hrest⟩
  · exact ⟨"http", rest, .inl rfl, hrest.symm⟩
  · exact ⟨"https", rest, .inr rfl, hrest.symm⟩

/-- The slashes that an endpoint loses at its end come after its scheme. -/
theorem exists_host {endpoint scheme : String} {rest : List Char}
    (hendpoint : endpoint.toList = scheme.toList ++ ':' :: '/' :: '/' :: rest) :
    ∃ host : List Char, host.Sublist endpoint.toList ∧
      Text.dropEnd (· = '/') endpoint.toList = scheme.toList ++ ':' :: host := by
  refine ⟨Text.dropEnd (· = '/') ('/' :: '/' :: rest), ?_, ?_⟩
  · rw [hendpoint]
    exact (Text.dropEnd_sublist _ _).trans
      ((List.sublist_cons_self _ _).trans (List.sublist_append_right _ _))
  · rw [hendpoint]
    exact Text.dropEnd_append (by decide) _ _

theorem under_spaces (more : List Char) :
    (compact ("spaces/".toList ++ more)).takeWhile isBody =
        "spaces/".toList ++ (compact more).takeWhile isBody ∧
      (compact ("spaces/".toList ++ more)).dropWhile isBody = (compact more).dropWhile isBody := by
  have hbody : ∀ c ∈ compact "spaces/".toList, isBody c = true :=
    List.all_iff_forall_prop.1 (by decide)
  rw [compact_append, List.takeWhile_append_of_pos hbody, List.dropWhile_append_of_pos hbody]
  exact ⟨rfl, rfl⟩

/-- What is asked for under an endpoint is at the place of the endpoint, and its path begins with
the segments of that one. -/
theorem parse_address {endpoint scheme : String} {rest : List Char} {base : Url}
    (hweb : IsWeb scheme)
    (hendpoint : endpoint.toList = scheme.toList ++ ':' :: '/' :: '/' :: rest)
    (hbody : ∀ c ∈ endpoint.toList, isBody c = true)
    (hbase : Url.parse (directory endpoint) = .ok base) :
    ∃ before : List (List Char), (∀ s ∈ before, '/' ∉ s) ∧
      base.path.toList = written before.reverse ++ ['/'] ∧
      ∀ space, ∃ path : String,
        path.toList = written (resolve before (segments space)) ∧
        Url.parse (address endpoint space) = .ok { base with
          path := path
          query := queryIn ((compact (space ++ "/statistics").toList).dropWhile isBody) } := by
  obtain ⟨host, hsub, hhost⟩ := exists_host hendpoint
  have hdirectory : directory endpoint =
      String.ofList (scheme.toList ++ ':' :: (host ++ ['/'])) :=
    String.toList_inj.1 (by simp [directory, hhost])
  have haddress : ∀ space, address endpoint space =
      String.ofList (scheme.toList ++ ':' :: (host ++ '/' ::
        ("spaces/".toList ++ (space ++ "/statistics").toList))) := fun space =>
    String.toList_inj.1 (by simp [address, hhost])
  rw [hdirectory] at hbase
  obtain ⟨front, hfront⟩ := parse_under hweb (fun c hc => hbody c (hsub.subset hc)) hbase
  obtain ⟨before, hbefore, hsegments⟩ := exists_segments front
  refine ⟨before, hbefore, ?_, fun space => ?_⟩
  · have hsame := Except.ok.inj (hbase.symm.trans (hfront [] nofun))
    have hpath : base.path = writePath true (front ++ ['/']) := congrArg Url.path hsame
    have hempty : ∀ s ∈ Text.piecesChars '/' [], isDots s = false := by decide
    rw [hpath, hsegments, resolve_of_noDots hempty, written, List.map_append, List.flatMap_append]
    rfl
  · obtain ⟨htake, hdrop⟩ := under_spaces (space ++ "/statistics").toList
    refine ⟨writePath true (front ++ '/' :: ("spaces/".toList ++ place space)), ?_, ?_⟩
    · rw [hsegments]
      exact congrArg _ (congrArg _ (Text.piecesChars_append_sep '/' "spaces".toList _))
    · have hlast : ∀ c, ("spaces/".toList ++ (space ++ "/statistics").toList).getLast? = some c →
          0x20 < c.toNat := by
        intro c hc
        rw [String.toList_append, ← List.append_assoc, List.getLast?_append] at hc
        obtain rfl := Option.some.inj hc
        decide
      rw [haddress, hfront _ hlast, htake, hdrop]
      rfl

/-! ### What is asked -/

section Asking

variable {base : Url} {before : List (List Char)} {space : String} {r : Request}

theorem slash_not_mem_segments (space : String) : ∀ s ∈ segments space, '/' ∉ s := by
  intro s hs
  rcases List.mem_cons.1 hs with rfl | hs
  · decide
  · exact Text.sep_not_mem_of_mem_pieces hs

/-- The segment that a path has under another one, before the last one, is one of those that are
new there. -/
theorem exists_segment (hbefore : ∀ s ∈ before, '/' ∉ s)
    (hbase : base.path.toList = written before.reverse ++ ['/'])
    (hpath : r.path.toList = written (resolve before (segments space))) {segment : String}
    (hslash : '/' ∉ segment.toList)
    (hsegment : r.path = base.path ++ "spaces/" ++ segment ++ "/statistics") :
    ∃ p ∈ (resolve before (segments space)).drop before.length,
      Web.Percent.encode isPathChar p = segment.toList := by
  have hwritten : written (resolve before (segments space)) =
      (before.reverse.map (Web.Percent.encode isPathChar) ++
        ["spaces".toList, segment.toList, "statistics".toList]).flatMap ('/' :: ·) := by
    rw [← hpath, hsegment]
    simp [hbase, written]
  have hresolved : ∀ s ∈ resolve before (segments space), '/' ∉ s := by
    intro s hs
    rcases mem_resolve hs with hs | rfl | hs
    · exact hbefore s hs
    · exact List.not_mem_nil
    · exact slash_not_mem_segments space s hs
  have hasked : ∀ s ∈ before.reverse.map (Web.Percent.encode isPathChar) ++
      ["spaces".toList, segment.toList, "statistics".toList], '/' ∉ s := by
    rw [List.forall_mem_append, List.forall_mem_map]
    refine ⟨fun s hs => slash_not_mem_encode (hbefore s (List.mem_reverse.1 hs)), ?_⟩
    rw [List.forall_mem_cons, List.forall_mem_cons, List.forall_mem_singleton]
    exact ⟨by decide, hslash, by decide⟩
  have hnew : ((resolve before (segments space)).drop before.length).map
      (Web.Percent.encode isPathChar) =
        ["spaces".toList, segment.toList, "statistics".toList] := by
    rw [List.map_drop, segments_unique hresolved hasked hwritten]
    exact List.drop_left' (by simp)
  refine List.mem_map.1 ?_
  rw [hnew]
  exact List.mem_cons_of_mem _ List.mem_cons_self

/-- A request whose path has the name of a space as one segment is about a plain name. -/
theorem plain_of_asks (hbefore : ∀ s ∈ before, '/' ∉ s)
    (hbase : base.path.toList = written before.reverse ++ ['/'])
    (hpath : r.path.toList = written (resolve before (segments space)))
    (hasks : AsksAbout base space r) : Plain space := by
  obtain ⟨segment, hslash, hsegment, hdecode⟩ := hasks.path
  obtain ⟨p, hnew, hp⟩ := exists_segment hbefore hbase hpath hslash hsegment
  have hbytes : Web.Percent.decode p = utf8 space.toList := by
    rw [← Web.ofUtf8?_eq_some_iff, ← decode_encode_path, hp]
    exact hdecode
  -- a segment that is no part of the name consists of letters
  have hletters : ∀ t : String, p = t.toList → (∀ c ∈ t.toList, c.isAlpha = true) →
      Plain space := by
    rintro t rfl ht
    have hnone := Web.Percent.noEscape_of_noPercent fun hmem => absurd (ht '%' hmem) (by decide)
    rw [Web.Percent.decode_of_noEscape hnone] at hbytes
    obtain rfl := Web.eq_of_utf8_eq hbytes
    exact plain_of_letters ht
  rcases mem_drop_resolve hnew with hnil | ⟨hpiece, hdots⟩
  · exact hletters "" hnil (List.forall_mem_nil _)
  rcases List.mem_cons.1 hpiece with hspaces | hpiece
  · exact hletters "spaces" hspaces (List.all_iff_forall_prop.1 (by decide))
  rcases mem_pieces_place hpiece with hstatistics | hpiece
  · exact hletters "statistics" hstatistics (List.all_iff_forall_prop.1 (by decide))
  · exact plain_of_mem_pieces hpiece hdots hbytes

/-- The segments of what is asked for under a plain name stay where they are. -/
theorem resolve_plain (hplain : Plain space) :
    resolve before (segments space) =
      before.reverse ++ ["spaces".toList, space.toList, "statistics".toList] := by
  have hslash : '/' ∉ space.toList := fun hmem => hplain.whole _ hmem (by decide)
  have hsegments : segments space = ["spaces".toList, space.toList, "statistics".toList] := by
    have hpieces := Text.piecesChars_append_sep '/' space.toList "statistics".toList
    rw [Text.piecesChars_of_not_mem hslash] at hpieces
    rw [segments, (body_of_plain hplain).1]
    exact congrArg _ hpieces
  have hdots : isDots space.toList = false := by
    refine Bool.eq_false_iff.2 fun hdots => ?_
    rcases dots_cases hdots with hone | htwo | hescape
    · exact hplain.undotted.1 (String.toList_inj.1 hone)
    · exact hplain.undotted.2 (String.toList_inj.1 htwo)
    · exact hplain.unescaped hescape
  rw [hsegments]
  refine resolve_of_noDots ?_
  rw [List.forall_mem_cons, List.forall_mem_cons, List.forall_mem_singleton]
  exact ⟨by decide, hdots, by decide⟩

/-- A request is about a space whose name is plain. -/
theorem asks_of_plain (hbase : base.path.toList = written before.reverse ++ ['/'])
    (hpath : r.path.toList = written (resolve before (segments space)))
    (hquery : r.query = some "skipCache=true") (hplain : Plain space) :
    AsksAbout base space r := by
  have hslash : '/' ∉ space.toList := fun hmem => hplain.whole _ hmem (by decide)
  refine ⟨⟨String.ofList (Web.Percent.encode isPathChar space.toList), ?_, ?_, ?_⟩, hquery⟩
  · rw [String.toList_ofList]
    exact slash_not_mem_encode hslash
  · refine String.toList_inj.1 ?_
    have hkept : Web.Percent.encode isPathChar "spaces".toList = "spaces".toList ∧
        Web.Percent.encode isPathChar "statistics".toList = "statistics".toList := by decide
    rw [hpath, resolve_plain hplain, written, List.map_append, List.map_cons, List.map_cons,
      List.map_singleton, hkept.1, hkept.2]
    simp [hbase, written]
  · rw [Web.Percent.decode?, String.toList_ofList, decode_encode_path,
      Web.Percent.decode_of_noEscape hplain.unescaped]
    exact Web.ofUtf8?_eq_some_iff.2 rfl

end Asking

/-- A request goes to the server of the endpoint, whatever the space, and asks there about that very
space exactly when its name is plain; so no two plain names are asked about in the same way.  The
space that is asked about is the target of the job that is to be stored. -/
theorem request_asks {config : Config} {base : Url} (hvalid : config.fault? = none)
    (hendpoint : ∀ c ∈ config.statistics.endpoint.toList, c ≠ '?' ∧ c ≠ '#')
    (hbase : Url.parse (directory config.statistics.endpoint) = .ok base) :
    (∀ job h r, Answered (Store.store job).run h r →
      asked h = job.envelope.targetSpaceId.toList) ∧
      (∀ space, ∃ r, request config.statistics space = .ok r ∧
        (∃ path query, Url.parse (address config.statistics.endpoint space) =
          .ok { base with path := path, query := query }) ∧
        (AsksAbout base space r ↔ Plain space)) ∧
      ∀ space space', Plain space → Plain space' →
        request config.statistics space = request config.statistics space' → space = space' := by
  obtain ⟨scheme, rest, hweb, hscheme⟩ := endpoint_of_valid hvalid
  have hbody : ∀ c ∈ config.statistics.endpoint.toList, isBody c = true := fun c hc => by
    simp [isBody, hendpoint c hc]
  obtain ⟨before, hbefore, hplace, hparse⟩ := parse_address hweb hscheme hbody hbase
  have hasks : ∀ space, ∃ r, request config.statistics space = .ok r ∧
      (∃ path query, Url.parse (address config.statistics.endpoint space) =
        .ok { base with path := path, query := query }) ∧
      (AsksAbout base space r ↔ Plain space) := by
    intro space
    obtain ⟨path, hpath, haddress⟩ := hparse space
    have hrequest : request config.statistics space = .ok
        (({ base with
            path := path
            query := queryIn ((compact (space ++ "/statistics").toList).dropWhile isBody) } :
          Url).withSetting "skipCache" "true" |>.request "GET") := by
      rw [request, haddress]
    refine ⟨_, hrequest, ⟨path, _, haddress⟩, plain_of_asks hbefore hplace hpath, fun hplain => ?_⟩
    refine asks_of_plain hplace hpath ?_ hplain
    -- the address ends with its path, so the query is what is added
    rw [List.dropWhile_eq_nil_iff.2 (body_of_plain hplain).2]
    rfl
  refine ⟨fun job h r => asked_store, hasks, fun space space' hplain hplain' hsame => ?_⟩
  obtain ⟨r, hr, -, hiff⟩ := hasks space
  obtain ⟨r', hr', -, hiff'⟩ := hasks space'
  obtain rfl := Except.ok.inj (hr.symm.trans (hsame.trans hr'))
  obtain ⟨segment, -, hsegment, hdecode⟩ := (hiff.2 hplain).path
  obtain ⟨segment', -, hsegment', hdecode'⟩ := (hiff'.2 hplain').path
  have hone : segment = segment' := by
    have hpaths := congrArg String.toList (hsegment.symm.trans hsegment')
    simp only [String.toList_append, List.append_cancel_right_eq, List.append_cancel_left_eq]
      at hpaths
    exact String.toList_inj.1 hpaths
  rw [hone, hdecode'] at hdecode
  exact (Option.some.inj hdecode).symm

/-- A service that is configured by the address of a machine. -/
def hub : Config where
  statistics := { endpoint := "http://[::1]/hub" }

theorem hub_base : Url.parse (directory hub.statistics.endpoint) =
    .ok { scheme := "http", host := some (.ipv6 [0, 0, 0, 0, 0, 0, 0, 1]), path := "/hub/" } := by
  decide +kernel

theorem hub_unqueried : ∀ c ∈ hub.statistics.endpoint.toList, c ≠ '?' ∧ c ≠ '#' :=
  List.all_iff_forall_prop.1 (by decide)

/-- The service is asked about the roads when they are the target, and about nothing else. -/
theorem roads_asked :
    hub.fault? = none ∧ Plain "roads" ∧ ∃ base r, request hub.statistics "roads" = .ok r ∧
      AsksAbout base "roads" r := by
  have hvalid : hub.fault? = none := by decide +kernel
  have hplain : Plain "roads" := plain_of_letters (List.all_iff_forall_prop.1 (by decide))
  obtain ⟨r, hr, -, hiff⟩ := (request_asks hvalid hub_unqueried hub_base).2.1 "roads"
  exact ⟨hvalid, hplain, _, r, hr, hiff.2 hplain⟩

/-- The count of another space is taken for that of a space whose name leads there. -/
theorem spaces_not_told_apart :
    ¬ ∀ (config : Config) (base : Url), config.fault? = none →
      (∀ c ∈ config.statistics.endpoint.toList, c ≠ '?' ∧ c ≠ '#') →
      Url.parse (directory config.statistics.endpoint) = .ok base →
      (∀ space, ∃ r, request config.statistics space = .ok r ∧ AsksAbout base space r) ∧
        ∀ space space', request config.statistics space = request config.statistics space' →
          space = space' := by
  intro hall
  have hsame : request hub.statistics "a/../b" = request hub.statistics "b" := by decide +kernel
  have hequal := (hall hub _ (by decide +kernel) hub_unqueried hub_base).2 _ _ hsame
  exact absurd hequal (by decide)

end BulkImport.Statistics
