import BulkImport.Proofs.Config.Validity
import BulkImport.Proofs.Text.Trimming

/-!
# Lists of connectors

A list of connectors is written as entries between semicolons, each a name and an address with the
first equals sign between them, with blanks around all of these and with blank entries wherever one
likes (`Lists`).  Main statement: reading accepts exactly such writings, and gives the connectors
that were written (`ofList_eq_ok_iff`); what it refuses has an entry without an equals sign
(`ofList_refused_iff`), and the first such one is reported (`mapM_ofEntry_eq_error_iff`).
-/

namespace BulkImport.ConnectorConfig

open BulkImport.Sql
open BulkImport.Text (Blank Trimmed Padded)

/-- A connector that can be written in a list. -/
structure Writable (c : ConnectorConfig) : Prop where
  id_trimmed : Trimmed c.id
  url_trimmed : Trimmed c.url
  id_whole : ';' ∉ c.id.toList
  url_whole : ';' ∉ c.url.toList
  /-- The first equals sign of an entry is the one behind the name. -/
  id_unequal : '=' ∉ c.id.toList

/-- A text is an entry for a connector. -/
def Entry (c : ConnectorConfig) (entry : String) : Prop :=
  ∃ id url, Padded c.id id ∧ Padded c.url url ∧ Padded (id ++ "=" ++ url) entry

/-- Texts are entries for these connectors, in order, apart from blank ones. -/
inductive Lists : List ConnectorConfig → List String → Prop where
  | nil : Lists [] []
  | blank {cs : List ConnectorConfig} {entry : String} {entries : List String} :
      Blank entry → Lists cs entries → Lists cs (entry :: entries)
  | entry {c : ConnectorConfig} {cs : List ConnectorConfig} {entry : String}
      {entries : List String} :
      c.Entry entry → Lists cs entries → Lists (c :: cs) (entry :: entries)

/-! ### One entry -/

theorem ofEntry_eq_ok_iff {c : ConnectorConfig} {entry : String} :
    ofEntry entry = .ok c ↔ ∃ id url, '=' ∉ id.toList ∧ entry = id ++ "=" ++ url ∧
      Text.trim id = c.id ∧ Text.trim url = c.url := by
  have hcut : ∀ {id url}, Text.cut '=' entry = some (id, url) ↔
      '=' ∉ id.toList ∧ entry = id ++ "=" ++ url := Text.cut_eq_some_iff
  constructor
  · intro h
    unfold ofEntry at h
    split at h
    · next id url hfound =>
      obtain rfl := Except.ok.inj h
      obtain ⟨hid, rfl⟩ := hcut.1 hfound
      exact ⟨id, url, hid, rfl, rfl, rfl⟩
    · cases h
  · rintro ⟨id, url, hid, hentry, hname, haddress⟩
    rw [ofEntry, hcut.2 ⟨hid, hentry⟩]
    exact congrArg Except.ok (by rw [hname, haddress])

theorem ofEntry_of_unequal {entry : String} (h : '=' ∉ entry.toList) :
    ofEntry entry = .error (.connectorEntry entry) := by
  rw [ofEntry, Text.cut_eq_none_iff.2 h]

theorem exists_ofEntry {entry : String} (h : '=' ∈ entry.toList) : ∃ c, ofEntry entry = .ok c := by
  unfold ofEntry
  split
  · exact ⟨_, rfl⟩
  · next hnone => exact absurd h (Text.cut_eq_none_iff.1 hnone)

/-- An entry for a connector, with blanks around it taken off, is read as that connector. -/
theorem ofEntry_trim_eq_ok_iff {c : ConnectorConfig} {entry : String} :
    ofEntry (Text.trim entry) = .ok c ↔
      Trimmed c.id ∧ Trimmed c.url ∧ '=' ∉ c.id.toList ∧ c.Entry entry := by
  rw [ofEntry_eq_ok_iff]
  constructor
  · rintro ⟨id, url, hid, hentry, hname, haddress⟩
    obtain ⟨hname, hbefore⟩ := Text.trim_eq_iff.1 hname
    obtain ⟨haddress, hafter⟩ := Text.trim_eq_iff.1 haddress
    exact ⟨hname, haddress, mt (hbefore.mem_iff (by decide)).2 hid, id, url, hbefore, hafter,
      hentry ▸ Text.padded_trim entry⟩
  · rintro ⟨hname, haddress, hid, id, url, hbefore, hafter, p, q, hp, hq, hentry⟩
    have hwhole : Text.cut '=' entry = some (p ++ id, url ++ q) := by
      refine Text.cut_eq_some_iff.2 ⟨?_, by rw [hentry]; simp only [String.append_assoc]; rfl⟩
      rw [String.toList_append, List.mem_append, not_or, hbefore.mem_iff (by decide)]
      exact ⟨hp.not_mem (by decide), hid⟩
    obtain ⟨id', url', hcut, hid', hurl'⟩ :=
      Text.cut_padded (Text.padded_trim entry) (by decide) hwhole
    obtain ⟨hnone, hsame⟩ := Text.cut_eq_some_iff.1 hcut
    refine ⟨id', url', hnone, hsame, ?_, ?_⟩
    · rw [← hid'.trim_eq]
      exact Text.trim_eq_iff.2 ⟨hname, hbefore.trans (.before hp id)⟩
    · rw [← hurl'.trim_eq]
      exact Text.trim_eq_iff.2 ⟨haddress, hafter.trans (.after hq url)⟩

/-- Whether a character other than a blank and the equals sign is in an entry can be told from the
connector. -/
theorem Entry.mem_iff {c : ConnectorConfig} {entry : String} (h : c.Entry entry) {d : Char}
    (hd : Text.isBlank d = false) :
    d ∈ entry.toList ↔ d ∈ c.id.toList ∨ d = '=' ∨ d ∈ c.url.toList := by
  obtain ⟨id, url, hid, hurl, hentry⟩ := h
  rw [hentry.mem_iff hd, ← hid.mem_iff hd, ← hurl.mem_iff hd]
  simp

theorem Entry.not_blank {c : ConnectorConfig} {entry : String} (h : c.Entry entry) :
    ¬ Blank entry := fun hblank =>
  hblank.not_mem (by decide) ((h.mem_iff (by decide)).2 (.inr (.inl rfl)))

/-! ### Many entries -/

namespace Lists

variable {cs : List ConnectorConfig} {entry : String} {entries : List String}

theorem blank_iff (h : Blank entry) : Lists cs (entry :: entries) ↔ Lists cs entries := by
  refine ⟨fun hlists => ?_, .blank h⟩
  cases hlists with
  | blank _ hrest => exact hrest
  | entry hentry _ => exact absurd h hentry.not_blank

/-- Semicolons in the entries are those of the connectors. -/
theorem mem_semicolon (h : Lists cs entries) :
    (∃ entry ∈ entries, ';' ∈ entry.toList) ↔
      ∃ c ∈ cs, ';' ∈ c.id.toList ∨ ';' ∈ c.url.toList := by
  induction h with
  | nil => simp
  | blank hblank _ ih => simp [ih, hblank.not_mem (c := ';') (by decide)]
  | entry hentry _ ih => simp [ih, hentry.mem_iff (d := ';') (by decide)]

end Lists

/-- Reading entry by entry accepts the entries of connectors, with blank ones among them. -/
theorem mapM_ofEntry_eq_ok_iff {cs : List ConnectorConfig} {entries : List String} :
    ((entries.map Text.trim).filter (· ≠ "")).mapM ofEntry = .ok cs ↔
      (∀ c ∈ cs, Trimmed c.id ∧ Trimmed c.url ∧ '=' ∉ c.id.toList) ∧ Lists cs entries := by
  induction entries generalizing cs with
  | nil =>
    constructor
    · intro h
      obtain rfl := Except.ok.inj h
      exact ⟨List.forall_mem_nil _, .nil⟩
    · rintro ⟨-, hlists⟩
      cases hlists
      rfl
  | cons entry entries ih =>
    rw [List.map_cons]
    by_cases hblank : Blank entry
    · rw [List.filter_cons_of_neg (by simp [Text.trim_of_blank hblank]), ih,
        Lists.blank_iff hblank]
    · rw [List.filter_cons_of_pos (by simpa [Text.trim_eq_empty_iff] using hblank),
        List.mapM_cons, bind_eq_ok_iff]
      constructor
      · rintro ⟨c, hc, hrest⟩
        obtain ⟨cs', hcs', hend⟩ := bind_eq_ok_iff.1 hrest
        obtain rfl := Except.ok.inj hend
        obtain ⟨hname, haddress, hid, hentry⟩ := ofEntry_trim_eq_ok_iff.1 hc
        obtain ⟨hall, hlists⟩ := ih.1 hcs'
        exact ⟨List.forall_mem_cons.2 ⟨⟨hname, haddress, hid⟩, hall⟩, .entry hentry hlists⟩
      · rintro ⟨hall, hlists⟩
        cases hlists with
        | blank h _ => exact absurd h hblank
        | entry hentry hlists =>
          obtain ⟨⟨hname, haddress, hid⟩, hall⟩ := List.forall_mem_cons.1 hall
          refine ⟨_, ofEntry_trim_eq_ok_iff.2 ⟨hname, haddress, hid, hentry⟩, ?_⟩
          exact bind_eq_ok_iff.2 ⟨_, ih.2 ⟨hall, hlists⟩, rfl⟩

/-- Reading entry by entry stops at the first one without an equals sign. -/
theorem mapM_ofEntry_eq_error_iff {e : Config.Error} {entries : List String} :
    entries.mapM ofEntry = .error e ↔
      ∃ entry, entries.find? (fun entry => '=' ∉ entry.toList) = some entry ∧
        e = .connectorEntry entry := by
  induction entries with
  | nil =>
    constructor
    · intro h
      cases h
    · rintro ⟨entry, hnone, -⟩
      cases hnone
  | cons entry entries ih =>
    rw [List.mapM_cons]
    by_cases hsign : '=' ∈ entry.toList
    · obtain ⟨c, hc⟩ := exists_ofEntry hsign
      rw [hc, ok_bind, List.find?_cons_of_neg (by simpa using hsign), ← ih]
      cases entries.mapM ofEntry <;> simp [bind, Except.bind, pure, Except.pure]
    · rw [ofEntry_of_unequal hsign, List.find?_cons_of_pos (by simpa using hsign)]
      constructor
      · intro h
        exact ⟨entry, rfl, (Except.error.inj h).symm⟩
      · rintro ⟨_, hfirst, rfl⟩
        obtain rfl := Option.some.inj hfirst
        rfl

theorem ofList_eq_ok_iff {cs : List ConnectorConfig} {raw : String} :
    ofList raw = .ok cs ↔ (∀ c ∈ cs, c.Writable) ∧ Lists cs (Text.pieces ';' raw) := by
  have hwhole : ∀ entry ∈ Text.pieces ';' raw, ';' ∉ entry.toList := by
    intro entry hentry
    obtain ⟨piece, hpiece, rfl⟩ := List.mem_map.1 hentry
    rw [String.toList_ofList]
    exact Text.sep_not_mem_of_mem_pieces hpiece
  rw [ofList, mapM_ofEntry_eq_ok_iff]
  refine and_congr_left fun hlists => forall₂_congr fun c hc => ?_
  constructor
  · rintro ⟨hname, haddress, hid⟩
    have hnone : ¬ (';' ∈ c.id.toList ∨ ';' ∈ c.url.toList) := fun hmem => by
      obtain ⟨entry, hentry, hsemicolon⟩ := hlists.mem_semicolon.2 ⟨c, hc, hmem⟩
      exact hwhole entry hentry hsemicolon
    exact ⟨hname, haddress, fun h => hnone (.inl h), fun h => hnone (.inr h), hid⟩
  · exact fun h => ⟨h.id_trimmed, h.url_trimmed, h.id_unequal⟩

/-- A list is refused exactly when one of its entries is not blank and has no equals sign. -/
theorem ofList_refused_iff {raw : String} :
    (∃ e, ofList raw = .error e) ↔
      ∃ entry ∈ Text.pieces ';' raw, ¬ Blank entry ∧ '=' ∉ entry.toList := by
  have hsign : ∀ entry, '=' ∈ entry.toList ↔ '=' ∈ (Text.trim entry).toList := fun entry =>
    (Text.padded_trim entry).mem_iff (by decide)
  have hfirst : (∃ e, ofList raw = .error e) ↔ ∃ entry,
      (((Text.pieces ';' raw).map Text.trim).filter (· ≠ "")).find?
        (fun entry => '=' ∉ entry.toList) = some entry := by
    simp only [ofList, mapM_ofEntry_eq_error_iff]
    exact ⟨fun ⟨_, entry, h, _⟩ => ⟨entry, h⟩, fun ⟨entry, h⟩ => ⟨_, entry, h, rfl⟩⟩
  rw [hfirst, ← Option.isSome_iff_exists, List.find?_isSome]
  simp only [List.mem_filter, List.mem_map, decide_eq_true_eq]
  constructor
  · rintro ⟨_, ⟨⟨entry, hentry, rfl⟩, hsome⟩, hnone⟩
    exact ⟨entry, hentry, mt Text.trim_eq_empty_iff.2 hsome, mt (hsign entry).1 hnone⟩
  · rintro ⟨entry, hentry, hsome, hnone⟩
    exact ⟨_, ⟨⟨entry, hentry, rfl⟩, mt Text.trim_eq_empty_iff.1 hsome⟩, mt (hsign entry).2 hnone⟩

/-- What was written as a list is read from it. -/
theorem ofList_intercalate {cs : List ConnectorConfig} {entries : List String}
    (hcs : ∀ c ∈ cs, c.Writable) (h : Lists cs entries) :
    ofList (";".intercalate entries) = .ok cs := by
  refine ofList_eq_ok_iff.2 ⟨hcs, ?_⟩
  cases h' : entries with
  | nil =>
    subst h'
    cases h
    exact .blank Text.blank_empty .nil
  | cons entry rest =>
    rw [← h', show ";" = String.singleton ';' from rfl, Text.pieces_intercalate]
    · exact h
    · exact h' ▸ List.cons_ne_nil _ _
    · intro e he hmem
      obtain ⟨c, hc, hsemicolon⟩ := h.mem_semicolon.1 ⟨e, he, hmem⟩
      exact hsemicolon.elim (hcs c hc).id_whole (hcs c hc).url_whole

/-- Every writing of a list of connectors is read as that list.  A text is refused exactly when an
entry of it is not blank and has no equals sign, and what is read from any other text can be
written.  So the connectors of a configuration that is loaded, which are those that the environment
lists if it lists any, all have a name and an address, and no two of them have the same name. -/
theorem list_read_as_written :
    (∀ cs entries, (∀ c ∈ cs, c.Writable) → Lists cs entries →
      ofList (";".intercalate entries) = .ok cs) ∧
      (∀ raw, (∃ e, ofList raw = .error e) ↔
        ∃ entry ∈ Text.pieces ';' raw, ¬ Blank entry ∧ '=' ∉ entry.toList) ∧
      (∀ raw cs, ofList raw = .ok cs → ∀ c ∈ cs, c.Writable) ∧
      ∀ env config, Config.load env = .ok config →
        (∀ raw, env.read? "GEOLOAD_CONNECTORS" = some raw →
          ofList raw = .ok config.connectors) ∧
        (∀ c ∈ config.connectors, c.id ≠ "" ∧ c.url ≠ "") ∧
        (config.connectors.map (·.id)).Nodup := by
  refine ⟨fun cs entries => ofList_intercalate, fun raw => ofList_refused_iff,
    fun raw cs h => (ofList_eq_ok_iff.1 h).1, fun env config hload => ?_⟩
  obtain ⟨hvalid, hconnectors⟩ := Config.load_ok hload
  refine ⟨fun raw hraw => ?_, hvalid.connectors_complete, hvalid.connectors_distinct⟩
  rwa [Config.readConnectors, hraw] at hconnectors

/-- The connectors to two databases; the address of the first one has a setting. -/
def twoDatabases : List ConnectorConfig :=
  [⟨"a", "postgres://u:p@h1/db?sslmode=require"⟩, ⟨"b", "postgres://h2/db"⟩]

/-- The entries for them, one of which is padded, and two that mean nothing. -/
def twoEntries : List String :=
  ["a=postgres://u:p@h1/db?sslmode=require", " b =\tpostgres://h2/db ", "\u3000", ""]

/-- A process that is to fill both of them. -/
def twoListed : Environment := fun name =>
  if name = "GEOLOAD_CONNECTORS" then some (";".intercalate twoEntries) else none

theorem twoDatabases_writable : ∀ c ∈ twoDatabases, c.Writable := by
  have hchecked : ∀ c ∈ twoDatabases, Text.trim c.id = c.id ∧ Text.trim c.url = c.url ∧
      ';' ∉ c.id.toList ∧ ';' ∉ c.url.toList ∧ '=' ∉ c.id.toList := by
    decide +kernel
  intro c hc
  obtain ⟨hid, hurl, hwhole⟩ := hchecked c hc
  exact ⟨(Text.trim_eq_iff.1 hid).1, (Text.trim_eq_iff.1 hurl).1, hwhole.1, hwhole.2.1, hwhole.2.2⟩

theorem twoDatabases_lists : Lists twoDatabases twoEntries := by
  have hpadded : ∀ {s t : String}, Text.trim t = s → Padded s t := fun h =>
    (Text.trim_eq_iff.1 h).2
  refine .entry ⟨"a", "postgres://u:p@h1/db?sslmode=require", ?_, ?_, ?_⟩
    (.entry ⟨"b ", "\tpostgres://h2/db", ?_, ?_, ?_⟩ (.blank ?_ (.blank Text.blank_empty .nil)))
  any_goals exact hpadded (by decide +kernel)
  exact Text.trim_eq_empty_iff.1 (by decide +kernel)

/-- The two databases are found in their list, also where it is padded, and are those of the process
that is given the list; a name without an address is refused. -/
theorem two_databases_listed :
    (∀ c ∈ twoDatabases, c.Writable) ∧
      ofList (";".intercalate twoEntries) = .ok twoDatabases ∧
      (∃ e, ofList "a=postgres://h1/db; b" = .error e) ∧
      ∃ config, Config.load twoListed = .ok config ∧
        ofList (";".intercalate twoEntries) = .ok config.connectors ∧
        (config.connectors.map (·.id)).Nodup := by
  obtain ⟨hread, hrefused, -, hloaded⟩ := list_read_as_written
  have hload : Config.load twoListed = .ok { connectors := twoDatabases } := by decide +kernel
  obtain ⟨hlisted, -, hdistinct⟩ := hloaded _ _ hload
  refine ⟨twoDatabases_writable, hread _ _ twoDatabases_writable twoDatabases_lists,
    (hrefused _).2 ⟨" b", by decide +kernel, ?_, by decide +kernel⟩,
    _, hload, hlisted _ (by decide +kernel), hdistinct⟩
  exact mt Text.trim_eq_empty_iff.2 (by decide +kernel)

end BulkImport.ConnectorConfig
