import BulkImport.Job.Codec
import BulkImport.Proofs.Json.Members

/-!
# Jobs are read as they were written

The members of a job are those that its fields make (`members_eq`), and a job is read from every
object that holds these fields, whatever the order of its members and whatever else is in it
(`Job.ofJson?_of_holds`).  So nothing of a job is lost in its JSON.
-/

namespace BulkImport

open BulkImport.Job Json

/-! ### Words -/

instance : Vocabulary.Distinct Job.Status := ⟨fun s => by cases s <;> rfl⟩

instance : Vocabulary.Distinct ErrorType := ⟨fun e => by cases e <;> rfl⟩

instance : Vocabulary.Distinct ErrorDescription := ⟨fun d => by cases d <;> rfl⟩

instance : Vocabulary.Distinct CsvFormat := ⟨fun f => by cases f <;> rfl⟩

instance : Vocabulary.Distinct Strategy := ⟨fun s => by cases s <;> rfl⟩

instance : Vocabulary.Distinct Upload.Status := ⟨fun s => by cases s <;> rfl⟩

instance : Vocabulary.Distinct Job.Kind := ⟨fun k => by cases k <;> rfl⟩

/-! ### Uploads -/

namespace Upload

/-- The fields of an upload with what is written for them. -/
def written (u : Upload) : List (String × Option Json) :=
  [("filename", some (.text u.filename)), ("s3Key", some (.text u.key)),
    ("bucket", some (.text u.bucket)), ("region", some (.text u.region)),
    ("filesize", u.filesize.map fun n => .integer n.toNat), ("valid", some (.bool u.valid)),
    ("status", some (ofWord u.status)), ("details", u.details.map .text)]

theorem toJson_eq (u : Upload) : u.toJson = .object (given u.written) := by
  simp [toJson, written]

theorem nodup_written (u : Upload) : (u.written.map (·.1)).Nodup := by
  rw [show u.written.map (·.1) = fields from rfl]
  decide

theorem ofJson?_of_holds {u : Upload} {ms : List (String × Json)} (payload : Payload)
    (h : Holds ms u.written) : ofJson? payload (.object ms) = some u := by
  simp only [Holds, written, List.forall_mem_cons] at h
  obtain ⟨hfilename, hkey, hbucket, hregion, hfilesize, hvalid, hstatus, hdetails, -⟩ := h
  simp [ofJson?, record?, required?_of_holds carries_text hfilename,
    required?_of_holds carries_text hkey, required?_of_holds carries_text hbucket,
    required?_of_holds carries_text hregion, optional?_of_holds carries_uint64 hfilesize,
    defaulted?_of_holds carries_bool hvalid, defaulted?_of_holds (carries_word payload) hstatus,
    optional?_of_holds carries_text hdetails]

theorem ofJson?_toJson (payload : Payload) (u : Upload) : ofJson? payload u.toJson = some u := by
  rw [u.toJson_eq]
  exact ofJson?_of_holds payload (holds_given u.nodup_written)

end Upload

namespace Dictionary

variable {α : Type}

theorem find?_foldl_insert_iff {es : List (String × α)} (hkeys : (es.map (·.1)).Nodup)
    (d : Dictionary α) (k : String) (v : α) :
    (es.foldl (fun d e => d.insert e.1 e.2) d).find? k = some v ↔
      (k, v) ∈ es ∨ k ∉ es.map (·.1) ∧ d.find? k = some v := by
  induction es generalizing d with
  | nil => simp
  | cons e es ih =>
    obtain ⟨key, value⟩ := e
    obtain ⟨hnew, hrest⟩ := List.nodup_cons.1 hkeys
    rw [List.foldl_cons, ih hrest, find?_insert]
    by_cases hk : k = key
    · subst hk
      have habsent : (k, v) ∉ es := fun hmem => hnew (List.mem_map.2 ⟨_, hmem, rfl⟩)
      simp only [habsent, hnew, List.mem_cons, List.map_cons, Prod.mk.injEq, Option.some.injEq,
        not_false_eq_true, not_true_eq_false, true_and, false_and, false_or, or_false, if_true,
        eq_comm]
    · simp [hk]

/-- A map of entries with keys of their own has these entries. -/
theorem find?_ofList_iff {es : List (String × α)} (hkeys : (es.map (·.1)).Nodup) (k : String)
    (v : α) : (ofList es).find? k = some v ↔ (k, v) ∈ es := by
  simp [ofList, find?_foldl_insert_iff hkeys, find?_empty]

/-- A map is what its entries make, in any order. -/
theorem ofList_perm {d : Dictionary α} {es : List (String × α)} (hperm : d.entries.Perm es) :
    ofList es = d := by
  have hkeys : (es.map (·.1)).Nodup := (hperm.map _).nodup_iff.1 d.keys_nodup
  refine ext_find? fun k => Option.ext fun v => ?_
  rw [find?_ofList_iff hkeys, ← hperm.mem_iff, mem_entries_iff]

end Dictionary

theorem carries_uploads (payload : Payload) :
    Carries (uploadsOfJson? payload) uploadsToJson where
  back uploads := by
    have hentries : (uploads.entries.map fun e => (e.1, e.2.toJson)).mapM
        (fun e => (Upload.ofJson? payload e.2).map fun u => (e.1, u)) = some uploads.entries :=
      mapM_of_back (fun e => by simp [Upload.ofJson?_toJson payload]) uploads.entries
    simp [uploadsOfJson?, uploadsToJson, members?, hentries, Dictionary.ofList_perm (.refl _)]
  solid _ h := by cases h

/-! ### Envelopes -/

namespace Envelope

/-- The fields of an envelope with what is written for them. -/
def written (e : Envelope) : List (String × Option Json) :=
  [("id", some (.text e.id)), ("description", e.description.map .text),
    ("createdAt", some (.integer e.createdAt.toInt)),
    ("updatedAt", some (.integer e.updatedAt.toInt)),
    ("executedAt", e.executedAt.map fun t => .integer t.toInt),
    ("finalizedAt", e.finalizedAt.map fun t => .integer t.toInt),
    ("exp", e.expiry.map fun t => .integer t.toInt),
    ("targetSpaceId", e.targetSpaceId.map .text), ("targetTable", e.targetTable.map .text),
    ("targetConnector", e.targetConnector.map .text), ("status", some (ofWord e.status)),
    ("errorType", e.errorType.map ofWord), ("errorDescription", e.errorDescription.map ofWord),
    ("csvFormat", e.csvFormat.map ofWord), ("strategy", e.strategy.map ofWord),
    ("spaceVersion", e.spaceVersion.map fun v => .integer v.toInt),
    ("author", e.author.map .text)]

/-- The keys of an envelope, in the order in which they are written. -/
def keys : List String :=
  ["id", "description", "createdAt", "updatedAt", "executedAt", "finalizedAt", "exp",
    "targetSpaceId", "targetTable", "targetConnector", "status", "errorType", "errorDescription",
    "csvFormat", "strategy", "spaceVersion", "author"]

theorem keys_written (e : Envelope) : e.written.map (·.1) = keys := rfl

theorem members_eq (e : Envelope) : e.members = given e.written := by
  simp [members, written]

theorem ofMembers?_of_holds {e : Envelope} {ms : List (String × Json)} (h : Holds ms e.written) :
    ofMembers? ms = some e := by
  simp only [Holds, written, List.forall_mem_cons] at h
  obtain ⟨hid, hdescription, hcreated, hupdated, hexecuted, hfinalized, hexpiry, hspace, htable,
    hconnector, hstatus, htype, hfault, hformat, hstrategy, hversion, hauthor, -⟩ := h
  simp [ofMembers?, defaulted?_of_holds carries_text hid,
    optional?_of_holds carries_text hdescription, defaulted?_of_holds carries_int64 hcreated,
    defaulted?_of_holds carries_int64 hupdated, optional?_of_holds carries_int64 hexecuted,
    optional?_of_holds carries_int64 hfinalized, optional?_of_holds carries_int64 hexpiry,
    optional?_of_holds carries_text hspace, optional?_of_holds carries_text htable,
    optional?_of_holds carries_text hconnector,
    defaulted?_of_holds (carries_word .nullOrEmpty) hstatus,
    optional?_of_holds (carries_word .nullOrEmpty) htype,
    optional?_of_holds (carries_word .nullOrEmpty) hfault,
    optional?_of_holds (carries_word .nullOrEmpty) hformat,
    optional?_of_holds (carries_word .nullOrEmpty) hstrategy,
    optional?_of_holds carries_int64 hversion, optional?_of_holds carries_text hauthor]

end Envelope

/-! ### Imports -/

namespace ImportJob

/-- The fields of an import with what is written for them. -/
def written (job : ImportJob) : List (String × Option Json) :=
  job.toEnvelope.written ++
  [("enabledUUID", some (.bool job.enabledUuid)),
    ("idxList", some (.list (job.indexEntries.map .text))),
    ("importObjects", some (uploadsToJson job.uploads))]

theorem keys_written (job : ImportJob) :
    job.written.map (·.1) = Envelope.keys ++ ["enabledUUID", "idxList", "importObjects"] := rfl

theorem members_eq (job : ImportJob) : job.members = given job.written := by
  rw [members, Envelope.members_eq, written, given_append]
  rfl

theorem ofMembers?_of_holds {job : ImportJob} {ms : List (String × Json)} (payload : Payload)
    (h : Holds ms job.written) : ofMembers? payload ms = some job := by
  have hown := h.right
  simp only [Holds, List.forall_mem_cons] at hown
  obtain ⟨huuid, hindices, huploads, -⟩ := hown
  simp [ofMembers?, Envelope.ofMembers?_of_holds h.left,
    defaulted?_of_holds carries_bool huuid,
    defaulted?_of_holds (carries_list carries_text) hindices,
    defaulted?_of_holds (carries_uploads payload) huploads]

end ImportJob

/-! ### Jobs -/

namespace Job

/-- The fields of a job with what is written for them. -/
def written (job : Job) : List (String × Option Json) :=
  ("type", some (.text job.kind.name)) ::
    match job with
    | importing i => i.written
    | exporting e => e.written

theorem toJson_eq (job : Job) : job.toJson = .object (given job.written) := by
  cases job with
  | importing i => simp [toJson, written, ImportJob.members_eq]
  | exporting e => simp [toJson, written, Envelope.members_eq]

theorem nodup_written (job : Job) : (job.written.map (·.1)).Nodup := by
  cases job with
  | importing i =>
    rw [written, List.map_cons, i.keys_written]
    show ("type" :: (Envelope.keys ++ ["enabledUUID", "idxList", "importObjects"])).Nodup
    decide
  | exporting e =>
    rw [written, List.map_cons, e.keys_written]
    show ("type" :: Envelope.keys).Nodup
    decide

theorem carries_kind :
    Carries (fun j => j.text?.bind Vocabulary.ofWord?) fun k : Kind => .text k.name :=
  ⟨Vocabulary.Distinct.ofWord?_word, fun _ h => by cases h⟩

/-- A job is read from every object that holds its fields. -/
theorem ofJson?_of_holds {job : Job} {ms : List (String × Json)} (h : Holds ms job.written) :
    ofJson? (.object ms) = some job := by
  have hkind := required?_of_holds carries_kind (h _ List.mem_cons_self)
  have hrest : Holds ms job.written.tail := fun f hf => h f (List.mem_of_mem_tail hf)
  cases job with
  | importing i =>
    simp [ofJson?, members?, hkind, kind, ImportJob.ofMembers?_of_holds .nullOrEmpty hrest]
  | exporting e => simp [ofJson?, members?, hkind, kind, Envelope.ofMembers?_of_holds hrest]

/-- A job is read as it was written, whatever the order of the members. -/
theorem ofJson?_of_perm {job : Job} {ms : List (String × Json)}
    (hperm : (given job.written).Perm ms) : ofJson? (.object ms) = some job :=
  ofJson?_of_holds ((holds_given job.nodup_written).perm hperm)

/-- A value written anew, once it is read as a job. -/
def rewritten? (j : Json) : Option Json := (ofJson? j).map toJson

/-- Every job is read from its JSON as it was.  So a value that is a job may be written anew without
a change of the job, and writing it anew once more changes nothing at all. -/
theorem read_as_written :
    (∀ job : Job, ofJson? job.toJson = some job) ∧
      ∀ j : Json, (rewritten? j).bind ofJson? = ofJson? j ∧
        (rewritten? j).bind rewritten? = rewritten? j := by
  have hback : ∀ job : Job, ofJson? job.toJson = some job := fun job => by
    rw [job.toJson_eq]
    exact ofJson?_of_perm (.refl _)
  refine ⟨hback, fun j => ?_⟩
  cases hread : ofJson? j with
  | none => simp [rewritten?, hread]
  | some job => simp [rewritten?, hread, hback]

end Job

end BulkImport
