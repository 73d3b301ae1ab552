import RatingLift.Connectors.Routes

/-!
# Reordering the catalogue

`reorder_connectors` changes the objects of its session one pair after the other, so that a pair it refuses
leaves the earlier ones assigned; the route rolls the session back.  Here the session is explicit: what is
committed, what its transaction has written, and the objects it has loaded and changed.

* (`assignObjects_outcome`) the loop assigns each object the order of its last pair, or stops at a negative
  one;
* (`reorder_atomic`) a request fails and commits nothing, or commits all its assignments, and then does
  nothing a second time;
* (`reorder_forgets`) without the timestamps this is `reorderConnectors`.
-/

namespace RatingLift

open Library

/-- A connector with the two timestamps of its row. -/
structure ConnectorRow extends Connector where
  createdAt : Instant
  updatedAt : Instant
deriving DecidableEq

instance : Keyed ConnectorRow Uuid := ⟨fun r => r.id⟩

/-- The table `connectors`, where every `display_order` fits its column. -/
structure ConnectorTable where
  table : Table ConnectorRow
  fits : ∀ r ∈ table.rows, r.displayOrder ≤ maxInteger

theorem ConnectorTable.ext_rows {t t' : ConnectorTable} (h : t.table.rows = t'.table.rows) : t = t' := by
  cases t
  cases t'
  congr 1
  exact Table.ext h

/-- What is committed, what the transaction of the session sees, and the objects that the session has
loaded. -/
structure ConnectorSession where
  committed : ConnectorTable
  working : ConnectorTable
  objects : Table ConnectorRow

namespace ConnectorSession

/-- A new session. -/
def start (t : ConnectorTable) : ConnectorSession := ⟨t, t, .empty⟩

/-- `db.rollback()`, and also the end of a session that did not commit. -/
def rollback (s : ConnectorSession) : ConnectorSession := start s.committed

/-- `db.commit()` -/
def commit (s : ConnectorSession) : ConnectorSession := { s with committed := s.working }

/-- A stored row after the flush: where an object differs from it there is an UPDATE, which also sets
`updated_at`. -/
def written (now : Instant) (objects : Table ConnectorRow) (r : ConnectorRow) : ConnectorRow :=
  match objects.find? r.id with
  | none => r
  | some object => if object = r then r else { object with id := r.id, updatedAt := now }

theorem written_id (now : Instant) (objects : Table ConnectorRow) (r : ConnectorRow) :
    (written now objects r).id = r.id := by
  unfold written
  split
  · rfl
  · split
    · rfl
    · rfl

/-- The table that the transaction sees after the flush. -/
def flushed (now : Instant) (s : ConnectorSession) : Table ConnectorRow :=
  s.working.table.map (written now s.objects) (written_id now s.objects)

/-- `db.flush()`, which fails where a `display_order` does not fit its column. -/
def flush (now : Instant) (s : ConnectorSession) : Except Exn ConnectorSession :=
  if h : ∀ r ∈ (flushed now s).rows, r.displayOrder ≤ maxInteger then
    .ok { s with working := ⟨flushed now s, h⟩ }
  else .error .dataError

/-- The assignments of `reorder_connectors`, which stop at a negative order. -/
def assignObjects (objects : Table ConnectorRow) : List (Uuid × Int) → Option Exn × Table ConnectorRow
  | [] => (none, objects)
  | item :: items =>
    if item.2 < 0 then (some (.http 400 "display_order must be ≥ 0"), objects)
    else
      assignObjects (objects.updateWhere (fun r => r.id == item.1)
        (fun r => { r with displayOrder := item.2.toNat })
        fun _ => rfl) items

/-- The connectors of `ids` that are not deleted. -/
def loaded (t : Table ConnectorRow) (ids : List Uuid) : Table ConnectorRow :=
  t.restrict fun r => !r.isDeleted && ids.contains r.id

/-- The pairs whose connector is not loaded. -/
def missing (objects : Table ConnectorRow) (items : List (Uuid × Int)) : List (Uuid × Int) :=
  items.filter fun item => (objects.find? item.1).isNone

/-- `reorder_connectors` -/
def reorderConnectors (now : Instant) (s : ConnectorSession) (items : List (Uuid × Int)) :
    Except Exn (List ConnectorRow) × ConnectorSession :=
  if items = [] then (.ok [], s)
  else
    let s := { s with objects := loaded s.working.table (items.map Prod.fst) }
    if missing s.objects items ≠ [] then
      (.error (.http 404 ("Connector(s) not found: " ++
        ", ".intercalate ((missing s.objects items).map fun item => item.1.str))), s)
    else
      let assigned := assignObjects s.objects items
      let s := { s with objects := assigned.2 }
      match assigned.1 with
      | some e => (.error e, s)
      | none =>
        match s.flush now with
        | .error e => (.error e, s)
        | .ok s => (.ok (items.filterMap fun item => s.working.table.find? item.1), s)

end ConnectorSession

/-- `reorder_connectors_endpoint`: an `HTTPException` is raised again after a rollback, and after any other
exception the session ends without a commit. -/
def reorderConnectorsEndpoint (now : Instant) (t : ConnectorTable) (items : List (Uuid × Int)) :
    Except Exn (List ConnectorRow) × ConnectorTable :=
  let (result, s) := (ConnectorSession.start t).reorderConnectors now items
  match result with
  | .error e => (.error e, s.rollback.committed)
  | .ok rows => (.ok rows, s.commit.committed)

/-! ### The last order of an id -/

/-- The order in the last pair for an id. -/
def lastOrder (items : List (Uuid × Int)) (id : Uuid) : Option Int :=
  (items.reverse.find? fun item => item.1 == id).map Prod.snd

theorem lastOrder_cons (item : Uuid × Int) (items : List (Uuid × Int)) (id : Uuid) :
    lastOrder (item :: items) id = (lastOrder items id).or (if item.1 = id then some item.2 else none) := by
  unfold lastOrder
  rw [List.reverse_cons, List.find?_append]
  by_cases h : item.1 = id
  · cases items.reverse.find? fun item => item.1 == id with
    | none => simp [h]
    | some found => simp
  · cases items.reverse.find? fun item => item.1 == id with
    | none => simp [h]
    | some found => simp

theorem lastOrder_mem {items : List (Uuid × Int)} {id : Uuid} {order : Int}
    (h : lastOrder items id = some order) :
    (id, order) ∈ items := by
  unfold lastOrder at h
  obtain ⟨item, hitem, rfl⟩ := Option.map_eq_some_iff.mp h
  have hid : item.1 = id := by simpa using List.find?_some hitem
  have hmem : item ∈ items := List.mem_reverse.mp (List.mem_of_find?_eq_some hitem)
  rwa [← hid]

theorem lastOrder_eq_none {items : List (Uuid × Int)} {id : Uuid} :
    lastOrder items id = none ↔ id ∉ items.map Prod.fst := by
  unfold lastOrder
  rw [Option.map_eq_none_iff, List.find?_eq_none]
  constructor
  · intro h hmem
    obtain ⟨item, hitem, rfl⟩ := List.mem_map.mp hmem
    exact h item (List.mem_reverse.mpr hitem) (by simp)
  · intro h item hitem hid
    exact h (List.mem_map.mpr ⟨item, List.mem_reverse.mp hitem, by simpa using hid⟩)

/-- The connector with the order that the pairs give it. -/
def Connector.withOrder (items : List (Uuid × Int)) (c : Connector) : Connector :=
  { c with displayOrder := ((lastOrder items c.id).map Int.toNat).getD c.displayOrder }

/-- The assignment of one pair and then those of the others. -/
theorem Connector.withOrder_cons (item : Uuid × Int) (items : List (Uuid × Int)) (c : Connector) :
    c.withOrder (item :: items) =
      (if c.id = item.1 then { c with displayOrder := item.2.toNat } else c).withOrder items := by
  unfold withOrder
  rw [lastOrder_cons]
  by_cases h : c.id = item.1
  · rw [if_pos h.symm, if_pos h]
    cases lastOrder items c.id with
    | none => rfl
    | some order => rfl
  · rw [if_neg (Ne.symm h), if_neg h, Option.or_none]

/-- The object with the order that the pairs give it. -/
def ConnectorRow.withOrder (items : List (Uuid × Int)) (r : ConnectorRow) : ConnectorRow :=
  { r with toConnector := r.toConnector.withOrder items }

/-! ### The loop over the pairs -/

namespace ConnectorSession

theorem assignObjects_negative {items : List (Uuid × Int)} (h : ∃ item ∈ items, item.2 < 0)
    (objects : Table ConnectorRow) :
    (assignObjects objects items).1 = some (.http 400 "display_order must be ≥ 0") := by
  induction items generalizing objects with
  | nil =>
    obtain ⟨item, hitem, _⟩ := h
    cases hitem
  | cons item items ih =>
    unfold assignObjects
    by_cases hnegative : item.2 < 0
    · rw [if_pos hnegative]
    · rw [if_neg hnegative]
      obtain ⟨item', hitem', hnegative'⟩ := h
      rcases List.mem_cons.mp hitem' with rfl | hitem'
      · exact absurd hnegative' hnegative
      · exact ih ⟨item', hitem', hnegative'⟩ _

/-- Without a negative order each object gets the order of its last pair. -/
theorem assignObjects_outcome {items : List (Uuid × Int)} (h : ∀ item ∈ items, 0 ≤ item.2)
    (objects : Table ConnectorRow) :
    (assignObjects objects items).1 = none ∧
      (assignObjects objects items).2.rows = objects.rows.map (·.withOrder items) := by
  induction items generalizing objects with
  | nil =>
    refine ⟨rfl, ?_⟩
    exact (List.map_id objects.rows).symm
  | cons item items ih =>
    have hnonneg := h item List.mem_cons_self
    unfold assignObjects
    rw [if_neg (by omega)]
    obtain ⟨hnone, hrows⟩ :=
      ih (fun item' hitem' => h item' (List.mem_cons_of_mem _ hitem')) (objects.updateWhere
      (fun r => r.id == item.1) (fun r => { r with displayOrder := item.2.toNat }) fun _ => rfl)
    refine ⟨hnone, ?_⟩
    rw [hrows, Table.updateWhere, List.map_map]
    refine List.map_congr_left fun r _ => ?_
    unfold ConnectorRow.withOrder
    rw [Connector.withOrder_cons, Function.comp_apply]
    by_cases hid : r.id = item.1
    · simp [hid]
    · simp [hid]

/-! ### The flush -/

theorem mem_loaded {t : Table ConnectorRow} {ids : List Uuid} {r : ConnectorRow} :
    r ∈ loaded t ids ↔ r ∈ t ∧ r.isDeleted = false ∧ r.id ∈ ids := by
  unfold loaded
  rw [Table.mem_restrict]
  simp

theorem find?_loaded_isNone {t : Table ConnectorRow} {ids : List Uuid} {id : Uuid} (hid : id ∈ ids) :
    ((loaded t ids).find? id).isNone = true ↔ ∀ r ∈ t, r.id = id → r.isDeleted = true := by
  rw [Option.isNone_iff_eq_none, Table.find?_eq_none]
  constructor
  · intro h r hr hrid
    by_contra hlive
    exact h r (mem_loaded.mpr ⟨hr, by simpa using hlive, hrid ▸ hid⟩) hrid
  · intro h r hr hrid
    obtain ⟨hmem, hlive, _⟩ := mem_loaded.mp hr
    rw [h r hmem hrid] at hlive
    cases hlive

/-- What the flush writes for a row: the new order and the time, where the pairs give it another order. -/
def reordered (now : Instant) (items : List (Uuid × Int)) (r : ConnectorRow) : ConnectorRow :=
  match lastOrder items r.id with
  | none => r
  | some order =>
    if r.displayOrder = order.toNat then r else { r with displayOrder := order.toNat, updatedAt := now }

theorem reordered_of_none {now : Instant} {items : List (Uuid × Int)} {r : ConnectorRow}
    (h : lastOrder items r.id = none) :
    reordered now items r = r := by
  unfold reordered
  rw [h]

theorem reordered_of_some {now : Instant} {items : List (Uuid × Int)} {r : ConnectorRow} {order : Int}
    (h : lastOrder items r.id = some order) : reordered now items r =
      if r.displayOrder = order.toNat then r
      else { r with displayOrder := order.toNat, updatedAt := now } := by
  unfold reordered
  rw [h]

/-- The flush after the loop. -/
theorem written_eq_reordered (now : Instant) {t objects : Table ConnectorRow} {items : List (Uuid × Int)}
    (hobjects : objects.rows = (loaded t (items.map Prod.fst)).rows.map (·.withOrder items))
    (hlive : ∀ item ∈ items, ∃ r ∈ t, r.id = item.1 ∧ r.isDeleted = false) {r : ConnectorRow} (hr : r ∈ t) :
    written now objects r = reordered now items r := by
  have hmap : objects = (loaded t (items.map Prod.fst)).map (·.withOrder items) fun _ => rfl :=
    Table.ext hobjects
  have hfind : objects.find? r.id = ((loaded t (items.map Prod.fst)).find? r.id).map (·.withOrder items) := by
    rw [hmap]
    exact Table.find?_map r.id
  unfold written
  cases horder : lastOrder items r.id with
  | none =>
    have hnone : (loaded t (items.map Prod.fst)).find? r.id = none := by
      rw [Table.find?_eq_none]
      intro r' hr' hid
      exact lastOrder_eq_none.mp horder (hid ▸ (mem_loaded.mp hr').2.2)
    rw [hfind, hnone, reordered_of_none horder]
    rfl
  | some order =>
    have hmem : (r.id, order) ∈ items := lastOrder_mem horder
    obtain ⟨r', hr', hid, hnotDeleted⟩ := hlive _ hmem
    obtain rfl : r' = r := Table.eq_of_key_eq hr' hr hid
    have hloaded : r' ∈ loaded t (items.map Prod.fst) :=
      mem_loaded.mpr ⟨hr, hnotDeleted, List.mem_map.mpr ⟨_, hmem, rfl⟩⟩
    have hfound : (loaded t (items.map Prod.fst)).find? r'.id = some r' := Table.mem_iff_find?.mp hloaded
    have hwith : r'.withOrder items = { r' with displayOrder := order.toNat } := by
      unfold ConnectorRow.withOrder Connector.withOrder
      rw [horder]
      rfl
    rw [hfind, hfound, reordered_of_some horder, Option.map_some, hwith]
    by_cases hsame : r'.displayOrder = order.toNat
    · rw [if_pos hsame, ← hsame]
      exact if_pos rfl
    · rw [if_neg hsame]
      refine if_neg ?_
      intro heq
      exact hsame (congrArg (fun r : ConnectorRow => r.displayOrder) heq).symm

end ConnectorSession

/-! ### The request -/

open ConnectorSession

/-- Some id is unknown or deleted, or some order is negative. -/
def Unassignable (t : ConnectorTable) (items : List (Uuid × Int)) : Prop :=
  ∃ item ∈ items, (∀ r ∈ t.table, r.id = item.1 → r.isDeleted = true) ∨ item.2 < 0

/-- Some id would end with an order that its column cannot hold. -/
def Overflows (items : List (Uuid × Int)) : Prop :=
  ∃ item ∈ items, ∃ order, lastOrder items item.1 = some order ∧ (maxInteger : Int) < order

/-- The error of a request that fails. -/
def refusal (t : ConnectorTable) (items : List (Uuid × Int)) : Exn :=
  let missing := missing (loaded t.table (items.map Prod.fst)) items
  if missing ≠ [] then
    .http 404 ("Connector(s) not found: " ++ ", ".intercalate (missing.map fun item => item.1.str))
  else if items.any fun item => item.2 < 0 then .http 400 "display_order must be ≥ 0"
  else .dataError

section

variable {now : Instant} {t : ConnectorTable} {items : List (Uuid × Int)}

theorem mem_missing {item : Uuid × Int} : item ∈ missing (loaded t.table (items.map Prod.fst)) items ↔
    item ∈ items ∧ ∀ r ∈ t.table, r.id = item.1 → r.isDeleted = true := by
  unfold missing
  rw [List.mem_filter]
  exact and_congr_right fun hitem => find?_loaded_isNone (List.mem_map.mpr ⟨item, hitem, rfl⟩)

theorem flush_committed {s s' : ConnectorSession} (h : s.flush now = .ok s') :
    s'.committed = s.committed := by
  unfold flush at h
  split at h
  · cases h
    rfl
  · cases h

/-- The service commits nothing. -/
theorem reorderConnectors_committed (now : Instant) (s : ConnectorSession) (items : List (Uuid × Int)) :
    (s.reorderConnectors now items).2.committed = s.committed := by
  unfold ConnectorSession.reorderConnectors
  dsimp only
  split
  · rfl
  · split
    · rfl
    · split
      · rfl
      · split
        · rfl
        · rename_i hflush
          exact (flush_committed hflush).trans rfl

/-- A request that fails leaves what was committed, whatever it had assigned. -/
theorem endpoint_error {e : Exn} (h : ((start t).reorderConnectors now items).1 = .error e) :
    reorderConnectorsEndpoint now t items = (.error e, t) := by
  have hcommitted := reorderConnectors_committed now (start t) items
  unfold reorderConnectorsEndpoint
  dsimp only
  rw [h]
  show (Except.error e, ((start t).reorderConnectors now items).2.committed) = _
  rw [hcommitted]
  rfl

theorem reorder_missing (hitems : items ≠ []) (h : missing (loaded t.table (items.map Prod.fst)) items ≠ []) :
    ((start t).reorderConnectors now items).1 = .error (.http 404 ("Connector(s) not found: " ++
      ", ".intercalate ((missing (loaded t.table (items.map Prod.fst)) items).map fun item =>
        item.1.str))) := by
  unfold ConnectorSession.reorderConnectors
  dsimp only [start]
  rw [if_neg hitems, if_pos h]

theorem reorder_negative (hitems : items ≠ []) (h : missing (loaded t.table (items.map Prod.fst)) items = [])
    (hnegative : ∃ item ∈ items, item.2 < 0) :
    ((start t).reorderConnectors now items).1 = .error (.http 400 "display_order must be ≥ 0") := by
  unfold ConnectorSession.reorderConnectors
  dsimp only [start]
  rw [if_neg hitems, if_neg (not_not_intro h), assignObjects_negative hnegative]

/-- The session when the loop has gone through. -/
def assignedSession (t : ConnectorTable) (items : List (Uuid × Int)) : ConnectorSession :=
  ⟨t, t, (assignObjects (loaded t.table (items.map Prod.fst)) items).2⟩

theorem reorder_flush_error (hitems : items ≠ [])
    (h : missing (loaded t.table (items.map Prod.fst)) items = [])
    (hnone : (assignObjects (loaded t.table (items.map Prod.fst)) items).1 = none) {e : Exn}
    (hflush : (assignedSession t items).flush now = .error e) :
    ((start t).reorderConnectors now items).1 = .error e := by
  unfold assignedSession at hflush
  unfold ConnectorSession.reorderConnectors
  dsimp only [start]
  rw [if_neg hitems, if_neg (not_not_intro h), hnone]
  dsimp only
  rw [hflush]

theorem endpoint_flush_ok (hitems : items ≠ []) (h : missing (loaded t.table (items.map Prod.fst)) items = [])
    (hnone : (assignObjects (loaded t.table (items.map Prod.fst)) items).1 = none) {s : ConnectorSession}
    (hflush : (assignedSession t items).flush now = .ok s) :
    ∃ rows, reorderConnectorsEndpoint now t items = (.ok rows, s.working) := by
  unfold assignedSession at hflush
  unfold reorderConnectorsEndpoint ConnectorSession.reorderConnectors
  dsimp only [start]
  rw [if_neg hitems, if_neg (not_not_intro h), hnone]
  dsimp only
  rw [hflush]
  exact ⟨_, rfl⟩

/-- A request that does not fail in the loop: every id is live, and no order is negative. -/
theorem not_unassignable (h : ¬ Unassignable t items) :
    missing (loaded t.table (items.map Prod.fst)) items = [] ∧ (∀ item ∈ items, 0 ≤ item.2) ∧
      ∀ item ∈ items, ∃ r ∈ t.table, r.id = item.1 ∧ r.isDeleted = false := by
  unfold Unassignable at h
  push Not at h
  refine ⟨?_, fun item hitem => (h item hitem).2, ?_⟩
  · rw [List.eq_nil_iff_forall_not_mem]
    intro item hitem
    obtain ⟨hitem, hdeleted⟩ := mem_missing.mp hitem
    obtain ⟨r, hr, hid, hlive⟩ := (h item hitem).1
    exact hlive (hdeleted r hr hid)
  · intro item hitem
    obtain ⟨r, hr, hid, hlive⟩ := (h item hitem).1
    exact ⟨r, hr, hid, by simpa using hlive⟩

theorem refusal_of_negative (hmissing : missing (loaded t.table (items.map Prod.fst)) items = [])
    (hnegative : ∃ item ∈ items, item.2 < 0) : refusal t items = .http 400 "display_order must be ≥ 0" := by
  have hany : (items.any fun item => decide (item.2 < 0)) = true := by simpa using hnegative
  unfold refusal
  dsimp only
  rw [if_neg (not_not_intro hmissing), if_pos hany]

theorem refusal_of_assignable (h : ¬ Unassignable t items) : refusal t items = .dataError := by
  obtain ⟨hmissing, hnonneg, _⟩ := not_unassignable h
  have hnone : ¬ (items.any fun item => decide (item.2 < 0)) = true := by simpa using hnonneg
  unfold refusal
  dsimp only
  rw [if_neg (not_not_intro hmissing), if_neg hnone]

theorem endpoint_of_unassignable (h : Unassignable t items) :
    reorderConnectorsEndpoint now t items = (.error (refusal t items), t) := by
  obtain ⟨item, hitem, hbad⟩ := h
  have hitems : items ≠ [] := List.ne_nil_of_mem hitem
  by_cases hmissing : missing (loaded t.table (items.map Prod.fst)) items = []
  · rcases hbad with hdeleted | hnegative
    · have hmem := mem_missing.mpr ⟨hitem, hdeleted⟩
      rw [hmissing] at hmem
      cases hmem
    · rw [refusal_of_negative hmissing ⟨item, hitem, hnegative⟩]
      exact endpoint_error (reorder_negative hitems hmissing ⟨item, hitem, hnegative⟩)
  · unfold refusal
    dsimp only
    rw [if_pos hmissing]
    exact endpoint_error (reorder_missing hitems hmissing)

/-- The rows after the flush. -/
theorem flushed_assigned (now : Instant) (h : ¬ Unassignable t items) :
    (flushed now (assignedSession t items)).rows = t.table.rows.map (reordered now items) := by
  obtain ⟨_, hnonneg, hlive⟩ := not_unassignable h
  obtain ⟨_, hrows⟩ := assignObjects_outcome hnonneg (loaded t.table (items.map Prod.fst))
  exact List.map_congr_left fun r hr => written_eq_reordered now hrows hlive hr

theorem reordered_nil (now : Instant) (r : ConnectorRow) : reordered now [] r = r := reordered_of_none rfl

/-- Without its timestamps a row gets the order of the last pair and nothing else. -/
theorem reordered_toConnector (now : Instant) (items : List (Uuid × Int)) (r : ConnectorRow) :
    (reordered now items r).toConnector = r.toConnector.withOrder items := by
  unfold Connector.withOrder
  cases horder : lastOrder items r.id with
  | none =>
    rw [reordered_of_none horder]
    rfl
  | some order =>
    rw [reordered_of_some horder]
    split
    · rename_i hsame
      rw [Option.map_some, Option.getD_some, ← hsame]
    · rfl

/-- The order of a row after the flush. -/
theorem reordered_displayOrder (now : Instant) (items : List (Uuid × Int)) (r : ConnectorRow) :
    (reordered now items r).displayOrder = ((lastOrder items r.id).map Int.toNat).getD r.displayOrder :=
  congrArg Connector.displayOrder (reordered_toConnector now items r)

/-- The flush fails exactly when some id ends with an order that does not fit. -/
theorem flush_fits_iff (now : Instant) (h : ¬ Unassignable t items) :
    (∀ r ∈ (flushed now (assignedSession t items)).rows, r.displayOrder ≤ maxInteger) ↔
      ¬ Overflows items := by
  obtain ⟨_, hnonneg, hlive⟩ := not_unassignable h
  rw [flushed_assigned now h]
  constructor
  · rintro hfits ⟨item, hitem, order, horder, hlarge⟩
    obtain ⟨r, hr, hid, _⟩ := hlive item hitem
    have hle := hfits _ (List.mem_map.mpr ⟨r, hr, rfl⟩)
    rw [reordered_displayOrder, hid, horder, Option.map_some, Option.getD_some] at hle
    omega
  · intro hsmall r' hr'
    obtain ⟨r, hr, rfl⟩ := List.mem_map.mp hr'
    rw [reordered_displayOrder]
    cases horder : lastOrder items r.id with
    | none => exact t.fits r hr
    | some order =>
      rw [Option.map_some, Option.getD_some]
      by_contra hlarge
      exact hsmall ⟨_, lastOrder_mem horder, order, horder, by omega⟩

/-- A request that the loop lets through fails at the flush or commits all its assignments. -/
theorem endpoint_of_assignable (now : Instant) (h : ¬ Unassignable t items) :
    (Overflows items ∧ reorderConnectorsEndpoint now t items = (.error .dataError, t)) ∨
      (¬ Overflows items ∧ ∃ rows t', reorderConnectorsEndpoint now t items = (.ok rows, t') ∧
        t'.table.rows = t.table.rows.map (reordered now items)) := by
  by_cases hitems : items = []
  · subst hitems
    refine Or.inr ⟨?_, [], t, rfl, ?_⟩
    · rintro ⟨item, hitem, _⟩
      cases hitem
    · rw [List.map_congr_left fun r _ => reordered_nil now r, List.map_id']
  · obtain ⟨hmissing, hnonneg, _⟩ := not_unassignable h
    obtain ⟨hnone, _⟩ := assignObjects_outcome hnonneg (loaded t.table (items.map Prod.fst))
    by_cases hover : Overflows items
    · have hflush : (assignedSession t items).flush now = .error .dataError := by
        unfold flush
        rw [dif_neg fun hfits => (flush_fits_iff now h).mp hfits hover]
      exact Or.inl ⟨hover, endpoint_error (reorder_flush_error hitems hmissing hnone hflush)⟩
    · have hfits := (flush_fits_iff now h).mpr hover
      have hflush : (assignedSession t items).flush now =
          .ok { assignedSession t items with working := ⟨flushed now (assignedSession t items), hfits⟩ } := by
        unfold flush
        rw [dif_pos hfits]
      obtain ⟨rows, hrows⟩ := endpoint_flush_ok hitems hmissing hnone hflush
      exact Or.inr ⟨hover, rows, _, hrows, flushed_assigned now h⟩

theorem reordered_kept (now : Instant) (items : List (Uuid × Int)) (r : ConnectorRow) :
    (reordered now items r).id = r.id ∧ (reordered now items r).isDeleted = r.isDeleted :=
  ⟨(congrArg Connector.id (reordered_toConnector now items r)).trans rfl,
    (congrArg Connector.isDeleted (reordered_toConnector now items r)).trans rfl⟩

/-- Assigning the same orders again changes no row. -/
theorem reordered_again (now now' : Instant) (items : List (Uuid × Int)) (r : ConnectorRow) :
    reordered now' items (reordered now items r) = reordered now items r := by
  have hid := (reordered_kept now items r).1
  cases horder : lastOrder items r.id with
  | none => exact reordered_of_none (by rw [hid, horder])
  | some order =>
    rw [reordered_of_some (r := reordered now items r) (by rw [hid, horder])]
    refine if_pos ?_
    rw [reordered_displayOrder, horder]
    rfl

theorem unassignable_reordered {t' : ConnectorTable}
    (h : t'.table.rows = t.table.rows.map (reordered now items)) :
    Unassignable t' items ↔ Unassignable t items := by
  refine exists_congr fun item => and_congr_right fun _ => or_congr_left ?_
  constructor
  · intro hdeleted r hr hid
    have hmem : reordered now items r ∈ t'.table := by
      rw [← Table.mem_rows, h]
      exact List.mem_map.mpr ⟨r, hr, rfl⟩
    have hkept := reordered_kept now items r
    rw [← hkept.2]
    exact hdeleted _ hmem (hkept.1.trans hid)
  · intro hdeleted r' hr' hid
    rw [← Table.mem_rows, h] at hr'
    obtain ⟨r, hr, rfl⟩ := List.mem_map.mp hr'
    have hkept := reordered_kept now items r
    rw [hkept.2]
    exact hdeleted r hr (hkept.1.symm.trans hid)

/-- A request is refused, with the ids that are missing if there are any, and commits nothing, or assigns to
every connector it lists the order of its last pair, with the time where that is another order, and then does
nothing when it is repeated. -/
theorem reorder_atomic (now : Instant) (t : ConnectorTable) (items : List (Uuid × Int)) :
    ((Unassignable t items ∨ Overflows items) ∧
        reorderConnectorsEndpoint now t items = (.error (refusal t items), t)) ∨
      ¬ (Unassignable t items ∨ Overflows items) ∧ ∃ rows t',
        reorderConnectorsEndpoint now t items = (.ok rows, t') ∧
        t'.table.rows = t.table.rows.map (reordered now items) ∧
        ∀ now', ∃ rows', reorderConnectorsEndpoint now' t' items = (.ok rows', t') := by
  by_cases h : Unassignable t items
  · exact Or.inl ⟨Or.inl h, endpoint_of_unassignable h⟩
  · rcases endpoint_of_assignable now h with ⟨hover, herror⟩ | ⟨hsmall, rows, t', hok, hrows⟩
    · rw [refusal_of_assignable h]
      exact Or.inl ⟨Or.inr hover, herror⟩
    · refine Or.inr ⟨not_or.mpr ⟨h, hsmall⟩, rows, t', hok, hrows, ?_⟩
      intro now'
      have h' : ¬ Unassignable t' items := fun hbad => h ((unassignable_reordered hrows).mp hbad)
      rcases endpoint_of_assignable now' h' with ⟨hover, _⟩ | ⟨_, rows', t'', hok', hrows'⟩
      · exact absurd hover hsmall
      · have hsame : t'' = t' := by
          refine ConnectorTable.ext_rows ?_
          rw [hrows', hrows, List.map_map]
          exact List.map_congr_left fun r _ => reordered_again now now' items r
        exact ⟨rows', hsame ▸ hok'⟩

end

/-! ### What a batch does besides -/

/-- The request fails with nothing changed exactly for an id that is unknown or deleted or a negative order,
and otherwise changes `display_order` and no other column. -/
structure AssignsOnly (now : Instant) (t : ConnectorTable) (items : List (Uuid × Int)) : Prop where
  refused : Unassignable t items → ∃ e, reorderConnectorsEndpoint now t items = (.error e, t)
  assigned : ¬ Unassignable t items → ∃ rows t', reorderConnectorsEndpoint now t items = (.ok rows, t') ∧
    t'.table.rows = t.table.rows.map (·.withOrder items)

namespace FirstTile

/-- A catalogue of one connector. -/
def catalogue : ConnectorTable where
  table := ⟨[{
    id := .ofNat 1
    name := "Google"
    logoUrl := none
    logoSha256 := none
    isActive := true
    isDeleted := false
    deletedAt := none
    displayOrder := 0
    createdAt := 0
    updatedAt := 0 }], List.nodup_singleton _⟩
  fits := by decide

theorem assignable {order : Int} (h : 0 ≤ order) : ¬ Unassignable catalogue [(.ofNat 1, order)] := by
  rintro ⟨item, hitem, hbad⟩
  obtain rfl := List.mem_singleton.mp hitem
  rcases hbad with hdeleted | hnegative
  · have hfirst := hdeleted _ (.head _) rfl
    cases hfirst
  · omega

/-- Moving it sets its `updated_at` too, and an order beyond the column fails although the id is live. -/
theorem other_column_changes :
    ¬ AssignsOnly 5 catalogue [(.ofNat 1, 3)] ∧ ¬ AssignsOnly 5 catalogue [(.ofNat 1, 2 ^ 31)] := by
  constructor
  · intro h
    obtain ⟨rows, t', hok, hrows⟩ := h.assigned (assignable (by decide))
    cases hok
    revert hrows
    decide
  · intro h
    obtain ⟨rows, t', hok, hrows⟩ := h.assigned (assignable (by decide))
    cases hok

end FirstTile

/-! ### The service on the database -/

section

variable {db : Db} {t : ConnectorTable} {items : List (Uuid × Int)}

theorem assignOrders_negative (h : ∃ item ∈ items, item.2 < 0) (db : Db) :
    assignOrders db items = .error (.http 400 "display_order must be ≥ 0") := by
  induction items generalizing db with
  | nil =>
    obtain ⟨item, hitem, _⟩ := h
    cases hitem
  | cons item items ih =>
    unfold assignOrders
    by_cases hnegative : item.2 < 0
    · exact if_pos hnegative
    · have hlater : ∃ item ∈ items, item.2 < 0 := by
        obtain ⟨item', hitem', hnegative'⟩ := h
        rcases List.mem_cons.mp hitem' with rfl | hitem'
        · exact absurd hnegative' hnegative
        · exact ⟨item', hitem', hnegative'⟩
      rw [if_neg hnegative]
      split
      · exact ih hlater _
      · exact ih hlater _

theorem assignOrders_rows (h : ∀ item ∈ items, 0 ≤ item.2) (db : Db) :
    ∃ db', assignOrders db items = .ok db' ∧
    db'.connectors.rows = db.connectors.rows.map (·.withOrder items) := by
  induction items generalizing db with
  | nil => exact ⟨db, rfl, (List.map_id db.connectors.rows).symm⟩
  | cons item items ih =>
    have hnonneg := h item List.mem_cons_self
    have hlater := fun item' hitem' => h item' (List.mem_cons_of_mem _ hitem')
    unfold assignOrders
    rw [if_neg (by omega)]
    cases hfind : db.connectors.find? item.1 with
    | none =>
      obtain ⟨db', hdb', hrows⟩ := ih hlater db
      refine ⟨db', hdb', hrows.trans (List.map_congr_left fun c hc => ?_)⟩
      have hne : ¬ c.id = item.1 := Table.find?_eq_none.mp hfind c hc
      rw [Connector.withOrder_cons, if_neg hne]
    | some row =>
      obtain ⟨hrow, hid⟩ := Table.find?_some hfind
      obtain ⟨db', hdb', hrows⟩ :=
        ih hlater { db with connectors := db.connectors.update { row with displayOrder := item.2.toNat } }
      refine ⟨db', hdb', ?_⟩
      rw [hrows, Table.update, List.map_map]
      refine List.map_congr_left fun c hc => ?_
      rw [Function.comp_apply, Connector.withOrder_cons]
      by_cases hc' : c.id = item.1
      · obtain rfl : c = row := Table.eq_of_key_eq hc hrow (hc'.trans hid.symm)
        simp [Keyed.key, hc']
      · have hne : ¬ c.id = row.id := fun heq => hc' (heq.trans hid)
        simp [Keyed.key, hc', hne]

/-- Both services find the same connectors missing. -/
theorem missing_eq (hdb : db.connectors.rows = t.table.rows.map (·.toConnector)) :
    items.filter (fun item => (db.connectors.first fun c => !c.isDeleted && c.id == item.1).isNone) =
      missing (loaded t.table (items.map Prod.fst)) items := by
  refine List.filter_congr fun item hitem => ?_
  rw [Bool.eq_iff_iff, find?_loaded_isNone (List.mem_map.mpr ⟨item, hitem, rfl⟩), Option.isNone_iff_eq_none,
    Table.first_eq_none]
  constructor
  · intro hnone r hr hid
    have hmem : r.toConnector ∈ db.connectors := by
      rw [← Table.mem_rows, hdb]
      exact List.mem_map.mpr ⟨r, hr, rfl⟩
    simpa [hid] using hnone _ hmem
  · intro hdeleted c hc
    rw [← Table.mem_rows, hdb] at hc
    obtain ⟨r, hr, rfl⟩ := List.mem_map.mp hc
    by_cases hid : r.id = item.1
    · simp [hdeleted r hr hid]
    · simp [hid]

/-- The rows that hold the assignments fit exactly when no order is beyond the column. -/
theorem flushOrders_fits_iff {assigned : Db} (hdb : db.connectors.rows = t.table.rows.map (·.toConnector))
    (hassigned : assigned.connectors.rows = db.connectors.rows.map (·.withOrder items))
    (hlive : ∀ item ∈ items, ∃ r ∈ t.table, r.id = item.1 ∧ r.isDeleted = false) :
    assigned.connectors.rows.all (orderFits db.connectors) = true ↔ ¬ Overflows items := by
  have hstored : ∀ c ∈ db.connectors, c.displayOrder ≤ maxInteger := by
    intro c hc
    rw [← Table.mem_rows, hdb] at hc
    obtain ⟨r, hr, rfl⟩ := List.mem_map.mp hc
    exact t.fits r hr
  rw [List.all_eq_true, hassigned]
  constructor
  · rintro hfits ⟨item, hitem, order, horder, hlarge⟩
    obtain ⟨r, hr, hid, _⟩ := hlive item hitem
    have hmem : r.toConnector ∈ db.connectors.rows := by
      rw [hdb]
      exact List.mem_map.mpr ⟨r, hr, rfl⟩
    have hle := le_of_orderFits (hfits _ (List.mem_map.mpr ⟨_, hmem, rfl⟩)) hstored
    have hwith : (r.toConnector.withOrder items).displayOrder = order.toNat := by
      unfold Connector.withOrder
      rw [hid, horder]
      rfl
    omega
  · intro hsmall c' hc'
    obtain ⟨c, hc, rfl⟩ := List.mem_map.mp hc'
    cases horder : lastOrder items c.id with
    | none =>
      refine orderFits_of_stored hc rfl ?_
      unfold Connector.withOrder
      rw [horder]
      rfl
    | some order =>
      refine orderFits_of_le ?_
      unfold Connector.withOrder
      rw [horder, Option.map_some, Option.getD_some]
      show order.toNat ≤ maxInteger
      by_contra hlarge
      exact hsmall ⟨_, lastOrder_mem horder, order, horder, by omega⟩

/-- Without the timestamps the request is `reorderConnectors`. -/
theorem reorder_forgets (now : Instant) (hdb : db.connectors.rows = t.table.rows.map (·.toConnector)) :
    (∀ e t', reorderConnectorsEndpoint now t items = (.error e, t') → reorderConnectors db items = .error e) ∧
      ∀ rows t', reorderConnectorsEndpoint now t items = (.ok rows, t') →
        ∃ db', reorderConnectors db items = .ok db' ∧
        db'.connectors.rows = t'.table.rows.map (·.toConnector) := by
  unfold RatingLift.reorderConnectors
  dsimp only
  rw [missing_eq hdb]
  by_cases hmissing : missing (loaded t.table (items.map Prod.fst)) items = []
  · rw [if_neg (not_not_intro hmissing)]
    by_cases hnegative : ∃ item ∈ items, item.2 < 0
    · have hitems : items ≠ [] := by
        obtain ⟨item, hitem, _⟩ := hnegative
        exact List.ne_nil_of_mem hitem
      rw [endpoint_error (reorder_negative hitems hmissing hnegative), assignOrders_negative hnegative]
      exact ⟨fun e t' h => by cases h; rfl, nofun⟩
    · have hassignable : ¬ Unassignable t items := by
        rintro ⟨item, hitem, hdeleted | hneg⟩
        · have hmem := mem_missing.mpr ⟨hitem, hdeleted⟩
          rw [hmissing] at hmem
          cases hmem
        · exact hnegative ⟨item, hitem, hneg⟩
      obtain ⟨_, hnonneg, hlive⟩ := not_unassignable hassignable
      obtain ⟨db', hdb', hconnectors⟩ := assignOrders_rows hnonneg db
      have hfits := flushOrders_fits_iff hdb hconnectors hlive
      rw [hdb']
      show (∀ e t', _ → flushOrders db db' = _) ∧ ∀ rows t', _ → ∃ db'', flushOrders db db' = _ ∧ _
      unfold flushOrders
      rcases endpoint_of_assignable now hassignable with ⟨hover, herror⟩ | ⟨hsmall, rows, t', hok, hrows⟩
      · rw [if_neg fun h => hfits.mp h hover, herror]
        exact ⟨fun e t' h => by cases h; rfl, nofun⟩
      · rw [if_pos (hfits.mpr hsmall), hok]
        refine ⟨nofun, fun rows' t'' h => ?_⟩
        cases h
        refine ⟨db', rfl, ?_⟩
        rw [hconnectors, hdb, hrows, List.map_map, List.map_map]
        exact List.map_congr_left fun r _ => (reordered_toConnector now items r).symm
  · have hitems : items ≠ [] := by
      rintro rfl
      exact hmissing rfl
    rw [if_pos hmissing, endpoint_error (reorder_missing hitems hmissing)]
    exact ⟨fun e t' h => by cases h; rfl, nofun⟩

end

end RatingLift
