import BulkImport.Config.Load
import BulkImport.Proofs.Sql.Expansion

/-!
# Valid configurations

What a configuration has to fulfil, all at once (`Valid`), is fulfilled exactly by those of which
no rule is broken (`fault?_eq_none_iff`), and a configuration that was loaded is one of them.  Main
statement: its connectors are those that the environment lists (`load_ok`).
-/

namespace BulkImport.Config

open BulkImport.Sql

/-- The rules for a configuration. -/
structure Valid (c : Config) : Prop where
  database_named : c.database.url ≠ ""
  connections_allowed : c.database.maxConnections ≠ 0
  connections_ordered : c.database.minConnections ≤ c.database.maxConnections
  connectors_given : c.connectors ≠ []
  connectors_complete : ∀ connector ∈ c.connectors, connector.id ≠ "" ∧ connector.url ≠ ""
  connectors_distinct : (c.connectors.map (·.id)).Nodup
  segments_given : c.importing.indexSegments ≠ []
  jobs_allowed : c.scheduler.maxConcurrentJobs ≠ 0
  endpoint_web : "http://".isPrefixOf c.statistics.endpoint = true ∨
    "https://".isPrefixOf c.statistics.endpoint = true

theorem connectorFault?_eq_none_iff {seen : List String} {cs : List ConnectorConfig} :
    connectorFault? seen cs = none ↔
      (∀ c ∈ cs, c.id ≠ "" ∧ c.url ≠ "") ∧ (∀ c ∈ cs, c.id ∉ seen) ∧
        (cs.map (·.id)).Nodup := by
  induction cs generalizing seen with
  | nil => simp [connectorFault?]
  | cons c cs ih =>
    rw [connectorFault?]
    split
    · next hpart =>
      simp only [reduceCtorEq, List.forall_mem_cons, false_iff]
      exact fun h => hpart.elim h.1.1.1 h.1.1.2
    · next hparts =>
      split
      · next hseen =>
        simp only [reduceCtorEq, List.forall_mem_cons, false_iff]
        exact fun h => h.2.1.1 hseen
      · next hnew =>
        -- what is seen for the rest is one name more, which the rest must not have
        rw [ih, List.forall_mem_cons, List.forall_mem_cons, List.map_cons, List.nodup_cons]
        constructor
        · rintro ⟨hcomplete, hothers, hnodup⟩
          refine ⟨⟨not_or.1 hparts, hcomplete⟩,
            ⟨hnew, fun d hd h => hothers d hd (List.mem_cons_of_mem _ h)⟩, fun hmem => ?_, hnodup⟩
          obtain ⟨d, hd, hsame⟩ := List.mem_map.1 hmem
          exact hothers d hd (hsame ▸ List.mem_cons_self)
        · rintro ⟨⟨-, hcomplete⟩, ⟨-, hothers⟩, hdistinct, hnodup⟩
          refine ⟨hcomplete, fun d hd h => ?_, hnodup⟩
          rcases List.mem_cons.1 h with hsame | hseen
          · exact hdistinct (List.mem_map.2 ⟨d, hd, hsame⟩)
          · exact hothers d hd hseen

theorem unless_eq_none_iff {p : Prop} [Decidable p] {e : Error} {rest : Option Error} :
    (if p then some e else rest) = none ↔ ¬ p ∧ rest = none := by
  split <;> simp_all

theorem fault?_eq_none_iff {c : Config} : c.fault? = none ↔ c.Valid := by
  have hdistinct := @connectorFault?_eq_none_iff [] c.connectors
  have hend : ∀ e : Error, (if ("http://".isPrefixOf c.statistics.endpoint ||
      "https://".isPrefixOf c.statistics.endpoint) = true then none else some e) = none ↔
        "http://".isPrefixOf c.statistics.endpoint = true ∨
          "https://".isPrefixOf c.statistics.endpoint = true := by
    intro e
    rw [← Bool.or_eq_true]
    split <;> simp_all
  simp only [fault?, unless_eq_none_iff, UInt32.not_lt]
  cases hfault : connectorFault? [] c.connectors with
  | some e =>
    simp only [hfault, reduceCtorEq, false_iff] at hdistinct ⊢
    constructor
    · rintro ⟨-, -, -, -, ⟨⟩⟩
    · exact fun h => absurd ⟨h.connectors_complete, fun _ _ => List.not_mem_nil,
        h.connectors_distinct⟩ hdistinct
  | none =>
    obtain ⟨hcomplete, -, hnodup⟩ := hdistinct.1 hfault
    simp only [unless_eq_none_iff, hend]
    constructor
    · rintro ⟨hurl, hmax, hmin, hsome, hsegments, hjobs, hweb⟩
      exact ⟨hurl, hmax, hmin, hsome, hcomplete, hnodup, hsegments, hjobs, hweb⟩
    · rintro ⟨hurl, hmax, hmin, hsome, -, -, hsegments, hjobs, hweb⟩
      exact ⟨hurl, hmax, hmin, hsome, hsegments, hjobs, hweb⟩

theorem validate_eq_ok_iff {c c' : Config} : c.validate = .ok c' ↔ c.Valid ∧ c' = c := by
  rw [← fault?_eq_none_iff, validate]
  cases c.fault? with
  | none => simp [eq_comm]
  | some e => simp

theorem url_of_readDatabase {env : Environment} {url : String} {d : DatabaseConfig}
    (h : readDatabase env url = .ok d) : d.url = url := by
  obtain ⟨maxConnections, -, h⟩ := bind_eq_ok_iff.1 h
  obtain ⟨minConnections, -, h⟩ := bind_eq_ok_iff.1 h
  obtain ⟨connectTimeoutSecs, -, h⟩ := bind_eq_ok_iff.1 h
  obtain ⟨idleTimeoutSecs, -, h⟩ := bind_eq_ok_iff.1 h
  obtain rfl := Except.ok.inj h
  rfl

/-- A configuration that is loaded is valid, and has the connectors that the environment lists. -/
theorem load_ok {env : Environment} {c : Config} (h : load env = .ok c) :
    c.Valid ∧ readConnectors env c.database.url = .ok c.connectors := by
  obtain ⟨connectors, hconnectors, h⟩ := bind_eq_ok_iff.1 h
  obtain ⟨database, hdatabase, h⟩ := bind_eq_ok_iff.1 h
  obtain ⟨importing, -, h⟩ := bind_eq_ok_iff.1 h
  obtain ⟨statistics, -, h⟩ := bind_eq_ok_iff.1 h
  obtain ⟨storage, -, h⟩ := bind_eq_ok_iff.1 h
  obtain ⟨scheduler, -, h⟩ := bind_eq_ok_iff.1 h
  obtain ⟨hvalid, rfl⟩ := validate_eq_ok_iff.1 h
  rw [← url_of_readDatabase hdatabase] at hconnectors
  exact ⟨hvalid, hconnectors⟩

end BulkImport.Config
