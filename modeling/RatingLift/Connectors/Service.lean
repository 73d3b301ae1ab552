import RatingLift.Db.Models

/-!
# The connector master

The service functions of the connector master that touch the database only: lookups, creation, soft deletion
and restoring.  A flush refuses an order beyond its column.  Which rows it refuses besides depends on how the
schema was built: by the model metadata, whose hash column is unique over all rows, or by the migrations,
whose indexes cover the rows that are not deleted.
-/

namespace RatingLift

open Library

/-- How the `connectors` table was created. -/
inductive Schema where
  | metadata | migrations
deriving DecidableEq

/-- What the connector service gets from outside: `str.lower` and the lower-casing of the database, the NFKD
normalisation of a text, SHA-256 in hexadecimal, and the image decoder: whether `verify` passes, and the
format and the size of the picture. -/
structure ConnectorEnv where
  schema : Schema
  lower : String → String
  pgLower : String → String
  nfkd : String → String
  sha256 : Bytes → String
  imageVerify : Bytes → Bool
  imageOpen : Bytes → Option (Option String × Nat × Nat)

variable (env : ConnectorEnv) (db : Db)

/-- Both rows have the same hash. -/
def sameHash (a b : Connector) : Bool := a.logoSha256 != none && a.logoSha256 == b.logoSha256

/-- A unique index refuses to hold both rows. -/
def conflict (a b : Connector) : Bool :=
  match env.schema with
  | .metadata => sameHash a b
  | .migrations => !a.isDeleted && !b.isDeleted && (env.pgLower a.name == env.pgLower b.name || sameHash a b)

/-- The unique indexes accept the row next to the others. -/
def indexesAccept (connectors : Table Connector) (row : Connector) : Bool :=
  connectors.rows.all fun c => c.id == row.id || !conflict env c row

/-- No two rows of the table violate a unique index. -/
def IndexesHold (connectors : Table Connector) : Prop :=
  ∀ a ∈ connectors, ∀ b ∈ connectors, a.id ≠ b.id → conflict env a b = false

/-- The largest value of an `Integer` column. -/
def maxInteger : Nat := 2 ^ 31 - 1

/-- The `display_order` of the row fits its column, or has not changed and is not sent. -/
def orderFits (connectors : Table Connector) (row : Connector) : Bool :=
  decide (row.displayOrder ≤ maxInteger) ||
    (connectors.find? row.id).any fun c => c.displayOrder == row.displayOrder

/-- `db.flush()` after a change to the attributes of a connector; the values are cast to the types of the
columns before an index sees the row. -/
def flushConnector (row : Connector) : Except Exn Db :=
  if !orderFits db.connectors row then .error .dataError
  else if indexesAccept env db.connectors row then .ok { db with connectors := db.connectors.update row }
  else .error (.integrityError "connectors")

/-- `db.add(row); db.flush()` -/
def addConnector (row : Connector) : Except Exn Db :=
  if (db.connectors.find? row.id).isSome || !indexesAccept env db.connectors row then
    .error (.integrityError "connectors")
  else .ok { db with connectors := db.connectors.insert row }

/-- `get_connector_or_404` -/
def getConnectorOr404 (connectorId : Uuid) : Except Exn Connector :=
  match db.connectors.first fun c => !c.isDeleted && c.id == connectorId with
  | none => .error (.http 404 "Connector not found")
  | some row => .ok row

/-- `get_connector_including_deleted_or_404` -/
def getConnectorIncludingDeletedOr404 (connectorId : Uuid) : Except Exn Connector :=
  match db.connectors.first fun c => c.id == connectorId with
  | none => .error (.http 404 "Connector not found")
  | some row => .ok row

/-- `_assert_unique_name` -/
def assertUniqueName (name : String) (excludeId : Option Uuid) : Except Exn Unit :=
  match db.connectors.first fun c =>
      !c.isDeleted && env.pgLower c.name == env.lower name && excludeId.all (c.id != ·) with
  | none => .ok ()
  | some _ => .error (.http 409 "A connector with this name already exists")

/-- `_assert_unique_logo_hash` -/
def assertUniqueLogoHash (digest : String) (excludeId : Option Uuid) : Except Exn Unit :=
  match db.connectors.first fun c =>
      !c.isDeleted && c.logoSha256 == some digest && excludeId.all (c.id != ·) with
  | none => .ok ()
  | some _ => .error (.http 409 "This image is already used by another connector")

/-- `create_connector`: the row and the database that holds it. -/
def createConnector (id : Uuid) (name : String) (logoUrl : Option String) : Except Exn (Connector × Db) := do
  assertUniqueName env db name none
  let row : Connector := {
    id := id
    name := Py.strip name
    logoUrl := logoUrl
    logoSha256 := none
    isActive := true
    isDeleted := false
    deletedAt := none
    displayOrder := 0 }
  let db ← addConnector env db row
  return (row, db)

/-- The 409 of `soft_delete_connector` -/
def attachedDetail (attached : Nat) : String :=
  "Cannot delete connector: it is attached to " ++ toString attached ++ " propert" ++
    (if attached = 1 then "y" else "ies") ++ ". Detach it from all properties before deleting."

/-- `soft_delete_connector` -/
def softDeleteConnector (now : Instant) (connector : Connector) : Except Exn Db :=
  if connector.isDeleted then .ok db
  else
    let attached := (db.propertyConnectors.select fun pc => pc.connectorId == connector.id).length
    if attached ≠ 0 then .error (.http 409 (attachedDetail attached))
    else flushConnector env db { connector with isDeleted := true, deletedAt := some now, isActive := false }

/-- `restore_connector` -/
def restoreConnector (connector : Connector) : Except Exn Db := do
  if !connector.isDeleted then .error (.http 409 "Connector is not deleted")
  else
    assertUniqueName env db connector.name (some connector.id)
    match connector.logoSha256.filter (· ≠ "") with
    | none => pure ()
    | some digest => assertUniqueLogoHash db digest (some connector.id)
    flushConnector env db { connector with isDeleted := false, deletedAt := none }

/-! ### What a successful flush leaves -/

variable {env db}

theorem conflict_comm (a b : Connector) : conflict env a b = conflict env b a := by
  have hash : sameHash a b = sameHash b a := by
    unfold sameHash
    by_cases h : a.logoSha256 = b.logoSha256
    · rw [h]
    · have h₁ : (a.logoSha256 == b.logoSha256) = false := beq_eq_false_iff_ne.mpr h
      have h₂ : (b.logoSha256 == a.logoSha256) = false := beq_eq_false_iff_ne.mpr (Ne.symm h)
      rw [h₁, h₂, Bool.and_false, Bool.and_false]
  unfold conflict
  cases env.schema with
  | metadata => exact hash
  | migrations =>
    show (_ && _ && (_ == _ || _)) = _
    rw [hash, Bool.and_comm (!a.isDeleted), BEq.comm]

theorem indexesAccept_iff {connectors : Table Connector} {row : Connector} :
    indexesAccept env connectors row = true ↔ ∀ c ∈ connectors, c.id ≠ row.id →
    conflict env c row = false := by
  unfold indexesAccept
  rw [List.all_eq_true]
  constructor
  · intro h c hc hne
    have := h c hc
    simpa [hne] using this
  · intro h c hc
    by_cases hid : c.id = row.id
    · simp [hid]
    · simp [h c hc hid]

/-- A row that differs from a stored one in columns that only make conflicts rarer is accepted. -/
theorem IndexesHold.accept {connectors : Table Connector} (h : IndexesHold env connectors) {c row : Connector}
    (hc : c ∈ connectors) (hid : row.id = c.id)
    (hle : ∀ x, conflict env x c = false → conflict env x row = false) :
    indexesAccept env connectors row = true := by
  rw [indexesAccept_iff]
  intro x hx hne
  exact hle x (h x hx c hc (hid ▸ hne))

/-- Writing an accepted row keeps the indexes. -/
theorem IndexesHold.write {connectors connectors' : Table Connector} {row : Connector}
    (h : IndexesHold env connectors) (hacc : indexesAccept env connectors row = true)
    (hrows : ∀ c ∈ connectors', c = row ∨ (c ∈ connectors ∧ c.id ≠ row.id)) :
    IndexesHold env connectors' := by
  rw [indexesAccept_iff] at hacc
  intro a ha b hb hne
  rcases hrows a ha with rfl | ⟨ha, ha'⟩ <;> rcases hrows b hb with rfl | ⟨hb, hb'⟩
  · exact absurd rfl hne
  · rw [conflict_comm]; exact hacc b hb hb'
  · exact hacc a ha ha'
  · exact h a ha b hb hne

/-- A stored row whose order has not changed. -/
theorem orderFits_of_stored {connectors : Table Connector} {c row : Connector} (hc : c ∈ connectors)
    (hid : row.id = c.id) (horder : row.displayOrder = c.displayOrder) : orderFits connectors row = true := by
  have hfound : connectors.find? c.id = some c := Table.mem_iff_find?.mp hc
  unfold orderFits
  rw [hid, hfound, horder]
  simp

/-- Whether an order fits depends on the id of its row only. -/
theorem orderFits_congr {connectors : Table Connector} {row row' : Connector} (hid : row'.id = row.id)
    (horder : row'.displayOrder = row.displayOrder) :
    orderFits connectors row' = orderFits connectors row := by
  unfold orderFits
  rw [hid, horder]

theorem orderFits_of_le {connectors : Table Connector} {row : Connector} (h : row.displayOrder ≤ maxInteger) :
    orderFits connectors row = true := by
  unfold orderFits
  simp [h]

/-- The order of a row that fits is one that the column holds, where the stored orders are. -/
theorem le_of_orderFits {connectors : Table Connector} {row : Connector} (h : orderFits connectors row = true)
    (hstored : ∀ c ∈ connectors, c.displayOrder ≤ maxInteger) : row.displayOrder ≤ maxInteger := by
  unfold orderFits at h
  rcases Bool.or_eq_true_iff.mp h with hle | hsame
  · exact of_decide_eq_true hle
  · obtain ⟨c, hc, heq⟩ := Option.any_eq_true _ _ |>.mp hsame
    have hle := hstored c (Table.find?_some hc).1
    rwa [beq_iff_eq.mp heq] at hle

theorem flushConnector_ok {row : Connector} {db' : Db} (h : flushConnector env db row = .ok db') :
    orderFits db.connectors row = true ∧ indexesAccept env db.connectors row = true ∧
      db' = { db with connectors := db.connectors.update row } := by
  unfold flushConnector at h
  split at h
  · cases h
  · rename_i hfits
    split at h
    · rename_i hacc
      exact ⟨by simpa using hfits, hacc, (Except.ok.inj h).symm⟩
    · cases h

/-- The rows after a flush. -/
theorem flushConnector_rows {row : Connector} {db' : Db} (h : flushConnector env db row = .ok db') :
    ∀ c ∈ db'.connectors, c = row ∨ (c ∈ db.connectors ∧ c.id ≠ row.id) := by
  obtain ⟨_, _, rfl⟩ := flushConnector_ok h
  intro c hc
  rcases Table.mem_update.mp hc with ⟨hrow, _⟩ | hold
  · exact Or.inl hrow
  · exact Or.inr hold

theorem flushConnector_of_accept {row : Connector} (hfits : orderFits db.connectors row = true)
    (h : indexesAccept env db.connectors row = true) :
    flushConnector env db row = .ok { db with connectors := db.connectors.update row } := by
  unfold flushConnector
  rw [hfits, h]
  rfl

theorem addConnector_ok {row : Connector} {db' : Db} (h : addConnector env db row = .ok db') :
    indexesAccept env db.connectors row = true ∧ db.connectors.Fresh row.id ∧
      db' = { db with connectors := db.connectors.insert row } := by
  unfold addConnector at h
  split at h
  · cases h
  · rename_i hfree
    simp only [Bool.or_eq_true, Bool.not_eq_true', not_or, Bool.not_eq_false, Option.not_isSome_iff_eq_none,
      ← Table.fresh_iff_find?] at hfree
    obtain rfl := Except.ok.inj h
    exact ⟨hfree.2, hfree.1, rfl⟩

end RatingLift
