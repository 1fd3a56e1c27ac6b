import BulkImport.Proofs.Import.Course
import BulkImport.Proofs.Table.Load
import Mathlib.Data.List.Perm.Basic

/-!
# Which uploads are loaded

An execution goes through the filenames of the valid uploads, and loads what it finds under these
names as keys.  So an upload is loaded under the name that another one gives, and one that is filed
under a key which no valid upload names is passed over in silence (`covered_iff`).  Where every
upload is filed under its own name, each valid one is loaded once (`wellNamed_of_wellKeyed`).
-/

namespace BulkImport.Import

open BulkImport.Job BulkImport.Sql BulkImport.Table BulkImport.Program

namespace Importer

variable {im : Importer} {job job' : ImportJob}

/-! ### The loads of an execution -/

/-- One more failure is counted where counting did not break off. -/
theorem eq_of_map_succ {x : Except Failure Nat} {n : Nat} (h : x.map (· + 1) = .ok n) :
    ∃ m, x = .ok m ∧ n = m + 1 := by
  cases x with
  | error f => cases h
  | ok m => exact ⟨m, rfl, (Except.ok.inj h).symm⟩

/-- The call that loads a file for a job, where it can be made. -/
def loadCall? (im : Importer) (job : ImportJob) (r : LoadRequest) : Option Call :=
  job.targetConnector.bind fun connector =>
    (job.targetTable.bind fun name => (Identifier.ofText name).toOption).bind fun table =>
      (im.loadInto table).toOption.bind fun into =>
        (loadStatement im.settings.schema into.1 job.csvFormat into.2 r).toOption.map fun s =>
          ⟨connector, s⟩

theorem loadCall?_eq_some {r : LoadRequest} {call : Call} :
    im.loadCall? job r = some call ↔
      ∃ t into, job.targetConnector = some call.connector ∧ job.targetTable = some t.text ∧
        im.loadInto t = .ok into ∧
        loadStatement im.settings.schema into.1 job.csvFormat into.2 r = .ok call.statement := by
  constructor
  · intro h
    obtain ⟨c, hc, h⟩ := Option.bind_eq_some_iff.1 h
    obtain ⟨t, ht, h⟩ := Option.bind_eq_some_iff.1 h
    obtain ⟨into, hinto, h⟩ := Option.bind_eq_some_iff.1 h
    obtain ⟨s, hs, rfl⟩ := Option.map_eq_some_iff.1 h
    obtain ⟨name, hname, ht⟩ := Option.bind_eq_some_iff.1 ht
    refine ⟨t, into, hc, ?_, toOption_eq_some.1 hinto, toOption_eq_some.1 hs⟩
    rw [hname, Identifier.text_of_ofText (toOption_eq_some.1 ht)]
  · rintro ⟨t, into, hc, ht, hinto, hs⟩
    rw [loadCall?, hc, ht, Option.bind_some, Option.bind_some, t.ofText_text,
      toOption_eq_some.2 rfl, Option.bind_some, toOption_eq_some.2 hinto, Option.bind_some,
      toOption_eq_some.2 hs, Option.map_some]

/-- Where one file can be loaded, loads are the same call only when they are for the same file. -/
theorem loadCall?_injective {r : LoadRequest} (h : im.loadCall? job r ≠ none) :
    Function.Injective (im.loadCall? job) := by
  obtain ⟨call, hcall⟩ := Option.ne_none_iff_exists'.1 h
  obtain ⟨t, into, hc, ht, hinto, -⟩ := loadCall?_eq_some.1 hcall
  -- where one call can be made all can, and their statements tell the files apart
  have hsome : ∀ r', ∃ call', im.loadCall? job r' = some call' := by
    intro r'
    obtain ⟨s, hs⟩ : ∃ s, loadStatement im.settings.schema into.1 job.csvFormat into.2 r' = .ok s :=
      ⟨_, loadStatement_eq _ _ _ _ r'⟩
    exact ⟨⟨call.connector, s⟩, loadCall?_eq_some.2 ⟨t, into, hc, ht, hinto, hs⟩⟩
  intro r₁ r₂ heq
  obtain ⟨call₁, h₁⟩ := hsome r₁
  obtain ⟨t₁, into₁, -, ht₁, hinto₁, hs₁⟩ := loadCall?_eq_some.1 h₁
  obtain ⟨t₂, into₂, -, ht₂, hinto₂, hs₂⟩ := loadCall?_eq_some.1 (heq ▸ h₁)
  obtain rfl := eq_of_hasTable ht₁ ht₂
  obtain rfl : into₂ = into₁ := Except.ok.inj (hinto₂.symm.trans hinto₁)
  exact loadStatement_inj hs₁ hs₂

theorem loadCall?_afterLoad {key : String} {u : Upload} {r : Except Failure String} :
    im.loadCall? (afterLoad job key u r) = im.loadCall? job := by
  funext request
  simp only [loadCall?, afterLoad]

/-- What passes when a load is sent and answered. -/
def loadHistory (call : Call) (answer : Except Database.Error (List String)) : History :=
  [⟨.connect call.connector, .ok ()⟩, ⟨.fetchTexts call.connector call.statement, answer⟩]

/-- What a load comes to when it is answered: the first text of the answer, or its error. -/
def loadResult (call : Call) (answer : Except Database.Error (List String)) :
    Except Failure String :=
  (answer.bind (Database.firstText call.statement.text)).mapError (.ofDatabase .execution)

/-- A load is one call that is answered, or fails before it is sent. -/
theorem load_told {u : Upload} {h : History} {r : Except Failure String}
    (hp : Answered (im.load job u).run h r) :
    (Sends h [] ∧ (∃ f, r = .error f) ∧
        ((∃ c e, ⟨.connect c, .error e⟩ ∈ h) ∨ im.loadCall? job (.ofUpload u) = none)) ∨
      ∃ call answer, im.loadCall? job (.ofUpload u) = some call ∧ h = loadHistory call answer ∧
        r = loadResult call answer := by
  rcases load_cases hp with
    ⟨f, hr, hs, hlost⟩ | ⟨c, t, relation, into, s, a, hc, ht, hinto, hs, hh, hr⟩
  · refine .inl ⟨hs, ⟨f, hr⟩, ?_⟩
    cases hcall : im.loadCall? job (.ofUpload u) with
    | none => exact .inr rfl
    | some call =>
      obtain ⟨t, into, hc, ht, hinto, -⟩ := loadCall?_eq_some.1 hcall
      obtain ⟨e, he⟩ := hlost _ _ _ hc ht hinto
      exact .inl ⟨_, e, he⟩
  · exact .inr ⟨⟨c, s⟩, a, loadCall?_eq_some.2 ⟨t, (relation, into), hc, ht, hinto, hs⟩, hh, hr⟩

/-- A load is one call, unless it cannot be made. -/
theorem load_sent {u : Upload} {h : History} {r : Except Failure String}
    (hp : Answered (im.load job u).run h r) :
    (sent h = [] ∧ ((∃ c e, ⟨.connect c, .error e⟩ ∈ h) ∨ im.loadCall? job (.ofUpload u) = none)) ∨
      ∃ call, im.loadCall? job (.ofUpload u) = some call ∧ sent h = [call] ∧
        ∀ c e, ⟨.connect c, .error e⟩ ∉ h := by
  rcases load_told hp with ⟨hs, -, hlost⟩ | ⟨call, answer, hcall, rfl, -⟩
  · exact .inl ⟨hs.sent, hlost⟩
  · exact .inr ⟨call, hcall, rfl, fun c e he => by simp [loadHistory] at he⟩

/-- The files that are found under some keys. -/
def files (job : ImportJob) (keys : List String) : List LoadRequest :=
  keys.filterMap fun key => (job.uploads.find? key).map LoadRequest.ofUpload

theorem files_absent {key : String} {keys : List String} (h : job.uploads.find? key = none) :
    files job (key :: keys) = files job keys := by
  simp [files, h]

theorem files_cons {key : String} {keys : List String} {u : Upload}
    (h : job.uploads.find? key = some u) :
    files job (key :: keys) = .ofUpload u :: files job keys := by
  simp [files, h]

/-- Loading a file does not change which file it is. -/
theorem files_afterLoad {key : String} {keys : List String} {u : Upload}
    {r : Except Failure String} (h : job.uploads.find? key = some u) :
    files (afterLoad job key u r) keys = files job keys := by
  refine congrArg (keys.filterMap ·) (funext fun k => ?_)
  show ((job.uploads.insert key (loaded u r)).find? k).map LoadRequest.ofUpload = _
  rw [Dictionary.find?_insert]
  split
  · next hk =>
    subst hk
    rw [h]
    cases r <;> rfl
  · rfl

/-- Every load of some can be made, and no look-up of a connector fails. -/
structure Reached (h : History) (calls : List (Option Call)) : Prop where
  connected : ∀ c e, ⟨.connect c, .error e⟩ ∉ h
  loadable : ∀ call ∈ calls, call ≠ none

/-- A history makes at most these calls; it makes all of them when they are reached only, and then
in this order. -/
structure Makes (h : History) (calls : List (Option Call)) : Prop where
  atMost : (sent h).length ≤ calls.length
  reached : (sent h).length = calls.length → Reached h calls
  exact : Reached h calls → (sent h).map some = calls

/-- One more load before others. -/
theorem Makes.load {u : Upload} {h h' : History} {r : Except Failure String}
    {calls : List (Option Call)} (hm : Makes h' calls) (hp : Answered (im.load job u).run h r) :
    Makes (h ++ h') (im.loadCall? job (.ofUpload u) :: calls) := by
  have hle := hm.atMost
  rcases load_sent hp with ⟨hsent, hlost⟩ | ⟨call, hcall, hsent, hconnected⟩
  · have hnot : ¬ Reached (h ++ h') (im.loadCall? job (.ofUpload u) :: calls) := by
      intro hr
      rcases hlost with ⟨c, e, he⟩ | hnone
      · exact hr.connected c e (List.mem_append_left _ he)
      · exact hr.loadable _ List.mem_cons_self hnone
    refine ⟨?_, fun hlength => ?_, fun hr => absurd hr hnot⟩
    · simp only [sent_append, hsent, List.nil_append, List.length_cons]
      omega
    · simp only [sent_append, hsent, List.nil_append, List.length_cons] at hlength
      omega
  · refine ⟨?_, fun hlength => ?_, fun hr => ?_⟩
    · simp only [sent_append, hsent, List.cons_append, List.nil_append, List.length_cons]
      omega
    · simp only [sent_append, hsent, List.cons_append, List.nil_append, List.length_cons] at hlength
      have hrest := hm.reached (by omega)
      refine ⟨fun c e he => ?_, fun x hx => ?_⟩
      · exact (List.mem_append.1 he).elim (hconnected c e) (hrest.connected c e)
      · rcases List.mem_cons.1 hx with rfl | hx
        · simp [hcall]
        · exact hrest.loadable x hx
    · have hrest : Reached h' calls :=
        ⟨fun c e he => hr.connected c e (List.mem_append_right _ he),
          fun x hx => hr.loadable x (List.mem_cons_of_mem _ hx)⟩
      simp only [sent_append, hsent, hcall, List.cons_append, List.nil_append, List.map_cons,
        hm.exact hrest]

/-- Loading under some keys to the end makes the calls for the files that are found there. -/
theorem Loads.makes {keys : List String} {h : History} {o : ImportJob × Except Failure Nat}
    (hl : Loads im keys job h o) {n : Nat} (hok : o.2 = .ok n) :
    Makes h ((files job keys).map (im.loadCall? job)) := by
  induction hl generalizing n with
  | finished job =>
    exact ⟨Nat.le_refl _, fun _ => ⟨fun c e he => absurd he List.not_mem_nil,
      fun x hx => absurd hx List.not_mem_nil⟩, fun _ => rfl⟩
  | absent hkey _ ih =>
    rw [files_absent hkey]
    exact ih hok
  | disconnected => cases hok
  | @failed key keys job u h h' f o hkey hload _ _ ih =>
    rw [files_cons hkey]
    obtain ⟨m, hr, -⟩ := eq_of_map_succ hok
    have hrest := ih hr
    rw [files_afterLoad hkey, loadCall?_afterLoad] at hrest
    exact hrest.load hload
  | imported hkey hload _ ih =>
    have hrest := ih hok
    rw [files_afterLoad hkey, loadCall?_afterLoad] at hrest
    rw [files_cons hkey]
    exact hrest.load hload

/-! ### What becomes of the uploads -/

/-- The upload under a key is imported or failed. -/
def Settled (job : ImportJob) (key : String) : Prop :=
  ∃ u, job.uploads.find? key = some u ∧ (u.status = .imported ∨ u.status = .failed)

theorem settled_afterLoad {key k : String} {u : Upload} {r : Except Failure String}
    (h : k = key ∨ Settled job k) : Settled (afterLoad job key u r) k := by
  by_cases hk : k = key
  · subst hk
    refine ⟨loaded u r, find?_afterLoad_self, ?_⟩
    cases r with
    | ok answer => exact .inl rfl
    | error f => exact .inr rfl
  · obtain ⟨u', hu', hstatus⟩ := h.resolve_left hk
    exact ⟨u', (find?_afterLoad_of_ne hk).trans hu', hstatus⟩

/-- The upload under a key is settled, or will be loaded under one of these keys. -/
def Due (job : ImportJob) (keys : List String) (key : String) : Prop :=
  Settled job key ∨ (key ∈ keys ∧ job.uploads.find? key ≠ none)

theorem due_afterLoad {key k : String} {keys : List String} {u : Upload}
    {r : Except Failure String} (h : Due job (key :: keys) k) :
    Due (afterLoad job key u r) keys k := by
  by_cases hk : k = key
  · exact .inl (settled_afterLoad (.inl hk))
  rcases h with hsettled | ⟨hmem, hfound⟩
  · exact .inl (settled_afterLoad (.inr hsettled))
  · refine .inr ⟨(List.mem_cons.1 hmem).resolve_left hk, ?_⟩
    rwa [find?_afterLoad_of_ne hk]

/-- Loading to the end settles what is due. -/
theorem Loads.settled {keys : List String} {h : History} {o : ImportJob × Except Failure Nat}
    (hl : Loads im keys job h o) {n : Nat} (hok : o.2 = .ok n) {k : String}
    (hk : Due job keys k) : Settled o.1 k := by
  induction hl generalizing n with
  | finished job => exact hk.resolve_right fun hk => absurd hk.1 List.not_mem_nil
  | absent hkey _ ih =>
    refine ih hok (hk.imp_right fun hk => ⟨?_, hk.2⟩)
    rcases List.mem_cons.1 hk.1 with rfl | hmem
    · exact absurd hkey hk.2
    · exact hmem
  | disconnected => cases hok
  | failed _ _ _ _ ih =>
    obtain ⟨m, hr, -⟩ := eq_of_map_succ hok
    exact ih hr (due_afterLoad hk)
  | imported _ _ _ ih => exact ih hok (due_afterLoad hk)

/-- Nothing happens to an upload that is under none of the keys. -/
theorem Loads.untouched {keys : List String} {h : History} {o : ImportJob × Except Failure Nat}
    (hl : Loads im keys job h o) {k : String} (hk : k ∉ keys) :
    o.1.uploads.find? k = job.uploads.find? k := by
  induction hl with
  | finished | disconnected => rfl
  | absent _ _ ih => exact ih (List.not_mem_of_not_mem_cons hk)
  | failed _ _ _ _ ih | imported _ _ _ ih =>
    exact (ih (List.not_mem_of_not_mem_cons hk)).trans
      (find?_afterLoad_of_ne (List.ne_of_not_mem_cons hk))

/-! ### Coverage -/

/-- The filenames that an execution goes through. -/
def names (job : ImportJob) : List String := job.validUploads.map (·.filename)

/-- The files of the valid uploads. -/
def validFiles (job : ImportJob) : List LoadRequest := job.validUploads.map .ofUpload

/-- A load was sent for each valid upload and for nothing else, and each of them is imported or
failed. -/
structure Covered (im : Importer) (job job' : ImportJob) (h : History) : Prop where
  loads : ((sent h).map some).Perm ((validFiles job).map (im.loadCall? job))
  settled : ∀ key u, job.uploads.find? key = some u → u.valid = true → Settled job' key

/-- What is found under the names of the valid uploads are their files, and none of them that waits
is under another key. -/
structure WellNamed (job : ImportJob) : Prop where
  files : (files job (names job)).Perm (validFiles job)
  waiting : ∀ key u, job.uploads.find? key = some u → u.valid = true → u.status = .waiting →
    key ∈ names job

/-- An execution that does not fail ends the loads, and only says afterwards whether some failed. -/
theorem execute_loads {h : History} (hp : Answered (im.execute job) h (job', .ok ())) :
    ∃ job₁ n, Loads im (names job) job h (job₁, .ok n) ∧ ¬ (0 < n ∧ n = (names job).length) ∧
      job' = { job₁ with
        errorDescription := if 0 < n then some .importsPartiallyFailed
          else job₁.errorDescription } := by
  obtain ⟨job₁, failures, hl, ⟨f, -, ho⟩ | ⟨n, rfl, ho⟩⟩ := answered_execute.1 hp
  · cases ho
  · unfold loadVerdict at ho
    split at ho
    · cases ho
    · next hsome =>
      refine ⟨job₁, n, hl, hsome, ?_⟩
      split at ho
      · next hpart =>
        rw [if_pos hpart]
        exact (Prod.mk.inj ho).1
      · next hall =>
        rw [if_neg hall]
        exact (Prod.mk.inj ho).1

/-- An execution that does not fail covers the uploads when they are well named and every load
reaches the database, and only then. -/
theorem covered_iff {h : History} (hp : Answered (im.execute job) h (job', .ok ())) :
    Covered im job job' h ↔
      WellNamed job ∧ Reached h ((validFiles job).map (im.loadCall? job)) := by
  obtain ⟨job₁, n, hl, -, hend⟩ := execute_loads hp
  have huploads : job'.uploads = job₁.uploads := by rw [hend]
  have hmakes := hl.makes rfl
  have hnames : (files job (names job)).length ≤ (validFiles job).length := by
    refine Nat.le_trans (List.length_filterMap_le _ _) ?_
    simp [names, validFiles]
  constructor
  · intro hcovered
    -- as many calls as there are valid uploads: every key is found and every load is made
    have hlength := hcovered.loads.length_eq
    have hatMost := hmakes.atMost
    simp only [List.length_map] at hlength hatMost
    have hreached := hmakes.reached (by simp only [List.length_map]; omega)
    have hcalls := hcovered.loads
    rw [hmakes.exact hreached] at hcalls
    refine ⟨⟨?_, fun key u hu hvalid hwaiting => ?_⟩, hreached.connected, fun x hx => ?_⟩
    · cases hvalid : validFiles job with
      | nil =>
        rw [hvalid, List.length_nil, Nat.le_zero_eq, List.length_eq_zero_iff] at hnames
        rw [hnames]
      | cons r rest =>
        have hr : im.loadCall? job r ≠ none := by
          refine hreached.loadable _ (hcalls.mem_iff.2 ?_)
          rw [hvalid]
          exact List.mem_cons_self
        rw [← hvalid]
        exact (List.map_perm_map_iff (loadCall?_injective hr)).1 hcalls
    · by_cases hkey : key ∈ names job
      · exact hkey
      · obtain ⟨u', hu', hstatus⟩ := hcovered.settled key u hu hvalid
        rw [huploads, hl.untouched hkey, hu] at hu'
        cases hu'
        simp [hwaiting] at hstatus
    · exact hreached.loadable x (hcalls.mem_iff.2 hx)
  · rintro ⟨hnamed, hreached⟩
    have hcalls := hnamed.files.map (im.loadCall? job)
    constructor
    · rw [hmakes.exact ⟨hreached.connected, fun x hx => hreached.loadable x (hcalls.mem_iff.1 hx)⟩]
      exact hcalls
    · intro key u hu hvalid
      have hdue : Due job (names job) key := by
        cases hstatus : u.status with
        | waiting => exact .inr ⟨hnamed.waiting key u hu hvalid hstatus, by simp [hu]⟩
        | imported => exact .inl ⟨u, hu, .inl hstatus⟩
        | failed => exact .inl ⟨u, hu, .inr hstatus⟩
      obtain ⟨u', hu', hstatus⟩ := hl.settled rfl hdue
      exact ⟨u', by rw [huploads, hu'], hstatus⟩

/-! ### Uploads under their own names -/

/-- Every upload is filed under its own filename. -/
def WellKeyed (job : ImportJob) : Prop :=
  ∀ key u, job.uploads.find? key = some u → u.filename = key

/-- What is found under the name of a valid upload, where uploads are filed under their names. -/
theorem valid_of_name {key : String} (hkeyed : WellKeyed job) (hkey : key ∈ names job) :
    ∃ u, job.uploads.find? key = some u ∧ u.valid = true := by
  obtain ⟨u, hu, rfl⟩ := List.mem_map.1 hkey
  obtain ⟨⟨key, hfound⟩, hvalid⟩ := mem_validUploads.1 hu
  exact ⟨u, by rw [hkeyed key u hfound, hfound], hvalid⟩

theorem name_of_valid {key : String} {u : Upload} (hkeyed : WellKeyed job)
    (hu : job.uploads.find? key = some u) (hvalid : u.valid = true) : key ∈ names job :=
  List.mem_map.2 ⟨u, mem_validUploads.2 ⟨⟨key, hu⟩, hvalid⟩, hkeyed key u hu⟩

/-- Uploads that are filed under their own names are well named. -/
theorem wellNamed_of_wellKeyed (h : WellKeyed job) : WellNamed job := by
  have hfound : ∀ u ∈ job.validUploads, job.uploads.find? u.filename = some u := by
    intro u hu
    obtain ⟨⟨key, hkey⟩, -⟩ := mem_validUploads.1 hu
    rw [h key u hkey, hkey]
  constructor
  · have hfiles : files job (names job) = validFiles job := by
      unfold files names validFiles
      rw [List.filterMap_map, ← List.filterMap_eq_map]
      refine List.filterMap_congr fun u hu => ?_
      rw [Function.comp_apply, hfound u hu]
      rfl
    rw [hfiles]
  · exact fun key u hu hvalid _ => name_of_valid h hu hvalid

/-- Uploads that are filed under their own names are loaded in the order of these. -/
theorem ordered_names (h : WellKeyed job) : (names job).Pairwise (· < ·) := by
  -- the keys are in order, and the filenames are the keys
  have hkeys : job.uploads.entries.Pairwise fun a b => a.2.filename < b.2.filename := by
    refine job.uploads.ordered.imp_of_mem fun {a b} ha hb hlt => ?_
    rwa [h a.1 a.2 (Dictionary.mem_entries_iff.1 ha), h b.1 b.2 (Dictionary.mem_entries_iff.1 hb)]
  have hvalues : job.uploads.values.Pairwise fun u v => u.filename < v.filename :=
    List.pairwise_map.2 hkeys
  exact List.pairwise_map.2 (hvalues.filter _)

theorem nodup_names (h : WellKeyed job) : (names job).Nodup :=
  (ordered_names h).imp String.ne_of_lt

theorem Loads.failures_le {keys : List String} {h : History} {o : ImportJob × Except Failure Nat}
    (hl : Loads im keys job h o) {n : Nat} (hok : o.2 = .ok n) : n ≤ keys.length := by
  induction hl generalizing n with
  | finished =>
    cases hok
    exact Nat.le_refl 0
  | absent _ _ ih => exact Nat.le_succ_of_le (ih hok)
  | disconnected => cases hok
  | failed _ _ _ _ ih =>
    obtain ⟨m, hr, rfl⟩ := eq_of_map_succ hok
    exact Nat.succ_le_succ (ih hr)
  | imported _ _ _ ih => exact Nat.le_succ_of_le (ih hok)

/-- Where the keys are all there and none comes twice, a load that does not fail leaves an import
under one of them. -/
theorem Loads.imports {keys : List String} {h : History} {o : ImportJob × Except Failure Nat}
    (hl : Loads im keys job h o) {n : Nat} (hok : o.2 = .ok n) (hn : n < keys.length)
    (hnodup : keys.Nodup) (hthere : ∀ key ∈ keys, job.uploads.find? key ≠ none) :
    ∃ key ∈ keys, ∃ u, o.1.uploads.find? key = some u ∧ u.status = .imported := by
  have hafter : ∀ {job : ImportJob} {key k : String} {u : Upload} {r : Except Failure String},
      job.uploads.find? k ≠ none → (afterLoad job key u r).uploads.find? k ≠ none := by
    intro job key k u r hk
    by_cases hkey : k = key
    · subst hkey
      simp [find?_afterLoad_self]
    · rwa [find?_afterLoad_of_ne hkey]
  induction hl generalizing n with
  | finished => exact absurd hn (Nat.not_lt_zero n)
  | absent hkey => exact absurd hkey (hthere _ List.mem_cons_self)
  | disconnected => cases hok
  | failed _ _ _ _ ih =>
    obtain ⟨m, hr, rfl⟩ := eq_of_map_succ hok
    obtain ⟨key, hkey, u, hu, hstatus⟩ := ih hr (by simp only [List.length_cons] at hn; omega)
      (List.nodup_cons.1 hnodup).2 fun k hk => hafter (hthere k (List.mem_cons_of_mem _ hk))
    exact ⟨key, List.mem_cons_of_mem _ hkey, u, hu, hstatus⟩
  | @imported key keys job u h h' answer o hkey hload hrest ih =>
    -- the key does not come again, so that the upload stays imported
    refine ⟨key, List.mem_cons_self, loaded u (.ok answer), ?_, rfl⟩
    rw [hrest.untouched (List.nodup_cons.1 hnodup).1, find?_afterLoad_self]

theorem execute_imports {h : History} (hp : Answered (im.execute job) h (job', .ok ()))
    (hkeyed : WellKeyed job) (hvalid : job.validUploads ≠ []) :
    ∃ key u, job'.uploads.find? key = some u ∧ u.status = .imported := by
  obtain ⟨job₁, n, hl, hsome, hend⟩ := execute_loads hp
  have hlength : 0 < (names job).length := by
    rw [names, List.length_map]
    exact List.length_pos_iff.2 hvalid
  have hle := hl.failures_le rfl
  have hthere : ∀ key ∈ names job, job.uploads.find? key ≠ none := by
    intro key hkey
    obtain ⟨u, hu, -⟩ := valid_of_name hkeyed hkey
    simp [hu]
  obtain ⟨key, -, u, hu, hstatus⟩ := hl.imports rfl (by omega) (nodup_names hkeyed) hthere
  exact ⟨key, u, by rw [hend, hu], hstatus⟩

/-! ### Runs to the end -/

theorem filename_markInvalid (u : Upload) : (markInvalid u).filename = u.filename := by
  unfold markInvalid
  split <;> rfl

theorem wellKeyed_afterInspections (found : List (String × Except Unit (Option UInt64)))
    (h : WellKeyed job) : WellKeyed (afterInspections job found) := by
  intro key u hu
  simp only [afterInspections, applyInspections, Dictionary.find?_mapValues, Option.map_map,
    Option.map_eq_some_iff, Function.comp_apply] at hu
  obtain ⟨u', hu', rfl⟩ := hu
  rw [filename_markInvalid, ← h key u' hu']
  split
  · next r _ =>
    unfold inspected
    split <;> rfl
  · rfl

/-- A validation that does not fail leaves every upload where it is, and at least one is valid. -/
theorem validate_uploads {h : History} (hp : Answered (im.validate job) h (job', .ok ())) :
    (WellKeyed job → WellKeyed job') ∧ job'.validUploads ≠ [] := by
  rcases validate_ends hp with ⟨f, -, ho⟩ | ⟨h₁, h₂, found, -, -, -, ho⟩
  · cases ho
  · obtain ⟨rfl, hok⟩ := Prod.mk.inj ho
    refine ⟨wellKeyed_afterInspections found, ?_⟩
    split at hok
    · cases hok
    · next hsome => simpa using hsome

theorem prepare_uploads {h : History} {o : Outcome} (hp : Answered (im.prepare job) h o) :
    o.1.uploads = job.uploads := by
  obtain ⟨version, hjob⟩ := prepared_job (prepare_cases hp)
  rw [hjob]

/-- A run to the end of a job whose uploads are filed under their own names imports one. -/
theorem run_imports {result : ImportJob} {h : History} (hjob : job.status.isFinal = false)
    (hkeyed : WellKeyed job) (hp : Answered (im.run job) h result)
    (hresult : result.status = .finalized) :
    ∃ key u, result.uploads.find? key = some u ∧ u.status = .imported := by
  have hend : result.status.isFailure = false := by rw [hresult]; rfl
  obtain ⟨job₁, job₁', hv, h₁, hvalidate, huploads₁, hstatus₁, hc₁⟩ :=
    (course_of_run hjob hp).through hjob hend
  obtain ⟨job₂, job₂', hw, h₂, hprepare, huploads₂, hstatus₂, hc₂⟩ :=
    hc₁.through (by rw [hstatus₁]; rfl) hend
  obtain ⟨job₃, job₃', hx, h₃, hexecute, huploads₃, hstatus₃, hc₃⟩ :=
    hc₂.through (by rw [hstatus₂]; rfl) hend
  obtain ⟨job₄, job₄', hf, h₄, hfinalize, huploads₄, hstatus₄, hc₄⟩ :=
    hc₃.through (by rw [hstatus₃]; rfl) hend
  cases hc₄ with
  | finished =>
    obtain ⟨hkeyed₁, hvalid₁⟩ := validate_uploads hvalidate
    have huploads : job₂'.uploads = job₁.uploads :=
      huploads₂.trans ((prepare_uploads hprepare).trans huploads₁)
    have himported : ∃ key u, job₃.uploads.find? key = some u ∧ u.status = .imported := by
      refine execute_imports hexecute ?_ ?_
      · intro key u hu
        rw [huploads] at hu
        exact hkeyed₁ hkeyed key u hu
      · rwa [ImportJob.validUploads, huploads]
    have hend₄ : job₄.uploads = job₃'.uploads := by
      rcases finalize_cases hfinalize with ⟨f, ho, -⟩ | ⟨_, _, _, _, _, _, -, -, -, -, -, -, -, ho⟩
      · cases ho
      · exact ho
    rwa [huploads₄, hend₄, huploads₃]

/-- An execution that does not fail covers the uploads exactly when they are well named and every
load reaches the database.  Uploads that are filed under their own names are well named, and a run
to the end then imports one of them. -/
theorem uploads_covered (im : Importer) :
    (∀ job job' h, Answered (im.execute job) h (job', .ok ()) →
      (Covered im job job' h ↔
        WellNamed job ∧ Reached h ((validFiles job).map (im.loadCall? job)))) ∧
    (∀ job, WellKeyed job → WellNamed job) ∧
    ∀ job result h, job.status.isFinal = false → WellKeyed job → Answered (im.run job) h result →
      result.status = .finalized →
        ∃ key u, result.uploads.find? key = some u ∧ u.status = .imported :=
  ⟨fun _ _ _ hp => covered_iff hp, fun _ => wellNamed_of_wellKeyed,
    fun _ _ _ hjob hkeyed hp => run_imports hjob hkeyed hp⟩

/-- Imports into the tables themselves that build no indices. -/
def tableImporter : Importer :=
  { viewImporter with settings := { viewImporter.settings with useViewFacade := false } }

theorem roadsJob_wellKeyed : WellKeyed roadsJob := by
  intro key u hu
  simp only [roadsJob, Dictionary.find?_insert, Dictionary.find?_empty] at hu
  split at hu
  · next hkey =>
    cases hu
    exact hkey.symm
  · cases hu

/-- The one upload of the roads is loaded, and imported when the run comes to its end. -/
theorem roads_covered :
    Covered tableImporter roadsJob ((tableImporter.execute roadsJob).carryOut oblige).2.1
        ((tableImporter.execute roadsJob).carryOut oblige).1 ∧
      ∃ key u, ((tableImporter.run roadsJob).carryOut oblige).2.uploads.find? key = some u ∧
        u.status = .imported := by
  obtain ⟨hexecute, hnamed, hrun⟩ := uploads_covered tableImporter
  have hok : ((tableImporter.execute roadsJob).carryOut oblige).2.2.isOk = true := by
    decide +kernel
  have hp : Answered (tableImporter.execute roadsJob)
      ((tableImporter.execute roadsJob).carryOut oblige).1
      (((tableImporter.execute roadsJob).carryOut oblige).2.1, .ok ()) := by
    have hp := answered_carryOut oblige (tableImporter.execute roadsJob)
    generalize ((tableImporter.execute roadsJob).carryOut oblige) = left at hok hp
    obtain ⟨h, job', r⟩ := left
    cases r with
    | ok _ => exact hp
    | error f => cases hok
  have hload : ∀ call ∈ (validFiles roadsJob).map (tableImporter.loadCall? roadsJob),
      call.isSome = true := by
    decide +kernel
  have hend : ((tableImporter.run roadsJob).carryOut oblige).2.status = .finalized := by
    decide +kernel
  constructor
  · have hwell : WellNamed roadsJob := hnamed _ roadsJob_wellKeyed
    refine (hexecute _ _ _ hp).2 ⟨hwell, fun c e he => ?_, fun call hcall => ?_⟩
    · cases answer_of_mem_carryOut he
    · exact Option.isSome_iff_ne_none.1 (hload call hcall)
  · exact hrun _ _ _ (by decide) roadsJob_wellKeyed (answered_carryOut oblige _) hend

/-- The job for the roads with its upload filed under another name. -/
def misfiledJob : ImportJob :=
  { roadsJob with
    uploads := Dictionary.empty.insert "f"
      { filename := "g", key := "k", bucket := "b", region := "r", valid := true } }

/-- It is not so that the valid uploads are covered by every execution that does not fail. -/
theorem not_always_covered :
    ¬ ∀ (im : Importer) (job job' : ImportJob) (h : History),
      Answered (im.execute job) h (job', .ok ()) → Covered im job job' h := by
  intro hall
  have hcovered := hall viewImporter misfiledJob misfiledJob [] (answered_carryOut oblige _)
  obtain ⟨u, hu, hstatus⟩ := hcovered.settled "f" _ rfl rfl
  cases hu
  rcases hstatus with hstatus | hstatus <;> cases hstatus

end Importer

end BulkImport.Import
