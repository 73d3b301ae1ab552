import RatingLift.Library.Journal
import RatingLift.Property.Routes
import RatingLift.PropertyConnector.Requests

/-!
# The audit trail

The routes that change properties and bindings log every change with the snapshots before and after it.  Read
as a journal, `audit_logs` replays from the empty store to the current snapshots (`Journalled`), whatever
requests were served; so the entries of one property or binding are a chain from null to its current snapshot
(`trails_complete`).
-/

namespace RatingLift

open Library Fallible PropertyService PropertyConnectorService

/-! ### The trail of one row -/

/-- The `audit_logs` rows with that `entity` and `entity_id`, in the order written. -/
def Db.trail (db : Db) (entity : String) (id : Uuid) : List AuditLog :=
  db.auditLogs.select fun a => a.entity == entity && a.entityId == some id

/-- The entries lead, without a gap, from nothing to the snapshot `current`. -/
structure CompleteTrail (entries : List AuditLog) (current : Dict) : Prop where
  first : ∃ a, entries.head? = some a ∧ a.beforeValue = .none
  linked : ∀ i a b, entries[i]? = some a → entries[i + 1]? = some b → b.beforeValue = a.afterValue
  last : ∃ a, entries.getLast? = some a ∧ a.afterValue = .dict current

structure TrailsComplete (db : Db) : Prop where
  properties : ∀ prop ∈ db.properties, CompleteTrail (db.trail "property" prop.id) prop.snapshot
  bindings : ∀ pc ∈ db.propertyConnectors, CompleteTrail (db.trail "property_connector" pc.id) pc.snapshot

/-! ### The audit log as a journal -/

/-- What the audited routes log changes of. -/
inductive Audited where
  | property (id : Uuid)
  | binding (id : Uuid)
deriving DecidableEq

namespace Audited

def entity : Audited → String
  | property _ => "property"
  | binding _ => "property_connector"

def id : Audited → Uuid
  | property id => id
  | binding id => id

/-- What the audit row is about, if it is about one of these. -/
def of (a : AuditLog) : Option Audited :=
  if a.entity = "property" then a.entityId.map property
  else if a.entity = "property_connector" then a.entityId.map binding
  else none

theorem of_eq_some {a : AuditLog} {k : Audited} :
    of a = some k ↔ a.entity = k.entity ∧ a.entityId = some k.id := by
  unfold of
  by_cases hp : a.entity = "property"
  · rw [if_pos hp, hp]
    cases k <;> cases a.entityId <;> simp [entity, id]
  · rw [if_neg hp]
    by_cases hc : a.entity = "property_connector"
    · rw [if_pos hc, hc]
      cases k <;> cases a.entityId <;> simp [entity, id]
    · rw [if_neg hc]
      cases k <;> simp [entity, hp, hc]

end Audited

def AuditLog.journalEntry (a : AuditLog) : Option (JournalEntry Audited Json) :=
  (Audited.of a).map fun k => ⟨k, a.beforeValue, a.afterValue⟩

/-- The changes that `audit_logs` records, in the order written. -/
def Db.journal (db : Db) : List (JournalEntry Audited Json) :=
  db.auditLogs.rows.filterMap AuditLog.journalEntry

/-- The current snapshot of a row, null where there is none. -/
def Db.snapshot (db : Db) : Audited → Json
  | .property id => PropertyConnector.configJson ((db.properties.find? id).map Property.snapshot)
  | .binding id =>
    PropertyConnector.configJson ((db.propertyConnectors.find? id).map PropertyConnector.snapshot)

/-- The audit log replays from the empty store to the current snapshots. -/
def Journalled (db : Db) : Prop := Replays (fun _ => Json.none) db.journal db.snapshot

/-- The entries of the journal about one row are its trail. -/
theorem journal_about (db : Db) (k : Audited) :
    (db.journal.filter fun e => e.key = k).map (fun e => (e.before, e.after)) =
      (db.trail k.entity k.id).map fun a => (a.beforeValue, a.afterValue) := by
  unfold Db.journal Db.trail Table.select
  induction db.auditLogs.rows with
  | nil => rfl
  | cons a rows ih =>
    by_cases hk : Audited.of a = some k
    · obtain ⟨hentity, hid⟩ := Audited.of_eq_some.mp hk
      have hentry : a.journalEntry = some ⟨k, a.beforeValue, a.afterValue⟩ := by
        unfold AuditLog.journalEntry
        rw [hk]
        rfl
      rw [List.filterMap_cons_some hentry, List.filter_cons_of_pos (by simp),
        List.filter_cons_of_pos (by simp [hentity, hid]), List.map_cons, List.map_cons, ih]
    · have hother : ¬ (a.entity == k.entity && a.entityId == some k.id) = true := by
        intro h
        rw [Bool.and_eq_true, beq_iff_eq, beq_iff_eq] at h
        exact hk (Audited.of_eq_some.mpr h)
      have hskip : (a :: rows).filter (fun a => a.entity == k.entity && a.entityId == some k.id) =
          rows.filter fun a => a.entity == k.entity && a.entityId == some k.id :=
        List.filter_cons_of_neg hother
      rw [hskip, ← ih]
      cases hof : Audited.of a with
      | none =>
        have hentry : a.journalEntry = none := by
          unfold AuditLog.journalEntry
          rw [hof]
          rfl
        rw [List.filterMap_cons_none hentry]
      | some k' =>
        have hentry : a.journalEntry = some ⟨k', a.beforeValue, a.afterValue⟩ := by
          unfold AuditLog.journalEntry
          rw [hof]
          rfl
        have hne : k' ≠ k := fun h => hk (h ▸ hof)
        rw [List.filterMap_cons_some hentry, List.filter_cons_of_neg (by simpa using hne)]

/-- The trail of a row that is there is complete. -/
theorem Journalled.completeTrail {db : Db} (h : Journalled db) {k : Audited} {current : Dict}
    (hcurrent : db.snapshot k = .dict current) : CompleteTrail (db.trail k.entity k.id) current := by
  have hchain := h.chained k
  rw [journal_about, hcurrent] at hchain
  have hne : db.trail k.entity k.id ≠ [] := by
    intro hnil
    rw [hnil] at hchain
    exact hchain.ne_nil (by simp) rfl
  constructor
  · refine ⟨(db.trail k.entity k.id).head hne, List.head?_eq_some_head hne, ?_⟩
    exact hchain.first (e := (_, _)) (by rw [List.head?_map, List.head?_eq_some_head hne]; rfl)
  · intro i a b ha hb
    exact hchain.linked (e := (_, _)) (f := (_, _)) (by rw [List.getElem?_map, ha]; rfl)
      (by rw [List.getElem?_map, hb]; rfl)
  · refine ⟨(db.trail k.entity k.id).getLast hne, List.getLast?_eq_some_getLast hne, ?_⟩
    exact hchain.last (e := (_, _)) (by rw [List.getLast?_map, List.getLast?_eq_some_getLast hne]; rfl)

theorem Journalled.trailsComplete {db : Db} (h : Journalled db) : TrailsComplete db where
  properties prop hprop := by
    have hcurrent : db.snapshot (.property prop.id) = .dict prop.snapshot := by
      dsimp only [Db.snapshot]
      rw [show db.properties.find? prop.id = some prop from Table.mem_iff_find?.mp hprop]
      rfl
    exact h.completeTrail hcurrent
  bindings pc hpc := by
    have hcurrent : db.snapshot (.binding pc.id) = .dict pc.snapshot := by
      dsimp only [Db.snapshot]
      rw [show db.propertyConnectors.find? pc.id = some pc from Table.mem_iff_find?.mp hpc]
      rfl
    exact h.completeTrail hcurrent

end RatingLift
