import RatingLift.Connectors.AdminRoutes
import RatingLift.Connectors.Reorder
import RatingLift.Db.Seed
import RatingLift.Library.Journal

/-!
# The trail of the catalogue

The entries of `admin_action_logs` about connectors are read back: an entry of one connector has its snapshots
before and after, the entry of a batch the orders of several.  Read in the order written they lead from the
empty catalogue to the current one (`CatalogueTold`); the only changes without an entry are the default
connectors that the seeder adds.
-/

namespace RatingLift

open Library Fallible

/-! ### Reading an entry -/

/-- A snapshot with another place in the order. -/
def Json.withOrder (order : Int) : Json → Json
  | .dict kvs => .dict (kvs.map fun kv => if kv.1 == "display_order" then (kv.1, .int order) else kv)
  | value => value

def readOrderItem : Json → Option (Uuid × Int)
  | .dict kvs =>
    match Json.get kvs "id", Json.get kvs "display_order" with
    | .str id, .int order => (Uuid.parse id).map fun id => (id, order)
    | _, _ => none
  | _ => none

/-- The orders that an entry of a batch names. -/
def readOrder : Json → List (Uuid × Int)
  | .dict kvs =>
    match Json.get kvs "order" with
    | .list items => items.filterMap readOrderItem
    | _ => []
  | _ => []

/-- The pairs of the body of a reorder request. -/
def askedOrders (items : List (Uuid × Nat)) : List (Uuid × Int) :=
  items.map fun item => (item.1, Int.ofNat item.2)

/-- The snapshots after a batch: where an id is named more than once, its last order counts. -/
def reorderedSnapshots (items : List (Uuid × Int)) (p : Uuid → Json) (id : Uuid) : Json :=
  (lastOrder items id).elim (p id) fun order => (p id).withOrder order

/-- What an entry tells about the snapshots of the connectors. -/
inductive AdminEntry.Tells : AdminEntry → (Uuid → Json) → (Uuid → Json) → Prop
  | connector {action : String} {id : Uuid} {before after : Json} {p : Uuid → Json} (hbefore : before = p id)
      (hcreated : action = "connector_created" ↔ before = .none) (hafter : after ≠ .none) :
      Tells ⟨action, some id, before, after⟩ p (Function.update p id after)
  | order {after : Json} {p : Uuid → Json} :
      Tells ⟨"connector_reordered", none, .none, after⟩ p (reorderedSnapshots (readOrder after) p)

section

variable (isoformat : Instant → String)

/-- The seeder adds a default connector. -/
def SeededSnapshot (p p' : Uuid → Json) : Prop :=
  ∃ id, ∃ name ∈ defaultConnectors, p id = .none ∧
    p' = Function.update p id (.dict ((newConnector id name).snapshot isoformat))

/-- The log tells how the catalogue came to be what it is. -/
def CatalogueTold (db : Db) : Prop :=
  Told AdminEntry.Tells (SeededSnapshot isoformat) (fun _ => Json.none) db.connectorEntries
    (catalogueSnapshot isoformat db.connectors)

end

section

variable {isoformat : Instant → String} {env : ConnectorEnv} {settings : Settings} {w : MediaWorld}
  {db db' : Db}
  {t t' : Table Connector}

/-! ### Orders -/

theorem readOrderItem_logged (item : Uuid × Nat) :
    readOrderItem (.dict [("id", .str item.1.str), ("display_order", .int item.2)]) =
      some (item.1, (item.2 : Int)) := by
  unfold readOrderItem Json.get
  simp

theorem readOrder_logged (items : List (Uuid × Nat)) : readOrder (orderJson items) = askedOrders items := by
  have hget : ∀ value : Json, Json.get [("order", value)] "order" = value := fun _ => rfl
  unfold readOrder orderJson askedOrders
  dsimp only
  rw [hget]
  simp only [List.filterMap_map, Function.comp_def, readOrderItem_logged, List.filterMap_eq_map',
    Int.ofNat_eq_natCast]

theorem withOrder_id (items : List (Uuid × Int)) (c : Connector) : (c.withOrder items).id = c.id := rfl

/-- A snapshot of the row in its new place. -/
theorem snapshot_withOrder (isoformat : Instant → String) (items : List (Uuid × Nat)) (c : Connector) :
    Json.dict ((c.withOrder (askedOrders items)).snapshot isoformat) =
      reorderedSnapshots (askedOrders items) (fun _ => .dict (c.snapshot isoformat)) c.id := by
  unfold reorderedSnapshots Connector.withOrder
  cases horder : lastOrder (askedOrders items) c.id with
  | none => rfl
  | some order =>
    obtain ⟨item, _, heq⟩ := List.mem_map.mp (lastOrder_mem horder)
    obtain ⟨_, rfl⟩ := Prod.mk.inj heq
    simp [Connector.snapshot, Json.withOrder]

theorem assignOrders_only (items : List (Uuid × Int)) : ∀ {db : Db}, assignOrders db items = .ok db' →
    ConnectorsOnly db db' := by
  induction items with
  | nil =>
    intro db h
    cases h
    exact .refl _
  | cons item items ih =>
    intro db h
    unfold assignOrders at h
    split at h
    · cases h
    split at h
    · exact ih h
    · rename_i row _
      have hfirst : ConnectorsOnly db
          { db with connectors := db.connectors.update { row with displayOrder := item.2.toNat } } := rfl
      exact hfirst.trans (ih h)

/-- A batch that succeeds gives every connector the last order that it names for it. -/
theorem reorder_snapshots {items : List (Uuid × Nat)}
    (h : reorderConnectors db (askedOrders items) = .ok db') :
    ConnectorsOnly db db' ∧ catalogueSnapshot isoformat db'.connectors =
      reorderedSnapshots (askedOrders items) (catalogueSnapshot isoformat db.connectors) := by
  have h := (reorderConnectors_ok h).1
  refine ⟨assignOrders_only _ h, ?_⟩
  have hnonneg : ∀ item ∈ askedOrders items, 0 ≤ item.2 := by
    intro item hitem
    obtain ⟨x, _, rfl⟩ := List.mem_map.mp hitem
    exact Int.natCast_nonneg x.2
  obtain ⟨db₁, hdb₁, hrows⟩ := assignOrders_rows hnonneg db
  obtain rfl : db₁ = db' := Except.ok.inj (hdb₁.symm.trans h)
  have hmap :
      db₁.connectors =
        db.connectors.map (·.withOrder (askedOrders items)) (withOrder_id (askedOrders items)) :=
    Table.ext hrows
  funext k
  unfold catalogueSnapshot reorderedSnapshots
  dsimp only
  rw [hmap, Table.find?_map]
  cases hfind : db.connectors.find? k with
  | none => cases lastOrder (askedOrders items) k <;> rfl
  | some c =>
    obtain ⟨_, rfl⟩ := Table.find?_some hfind
    exact snapshot_withOrder isoformat items c

/-! ### The seeder -/

theorem Seeded.snapshot (h : Seeded env t t') :
    SeededSnapshot isoformat (catalogueSnapshot isoformat t) (catalogueSnapshot isoformat t') := by
  obtain ⟨id, name, hname, _, hfresh, hput⟩ := h
  refine ⟨id, name, hname, ?_, ?_⟩
  · unfold catalogueSnapshot
    rw [Table.fresh_iff_find?.mp hfresh]
    rfl
  · funext k
    unfold catalogueSnapshot
    rw [hput.rows]
    by_cases hk : k = id
    · subst hk
      rw [Function.update_self]
      exact congrArg (Option.elim · Json.none _) (if_pos rfl)
    · rw [Function.update_of_ne hk]
      exact congrArg (Option.elim · Json.none _) (if_neg hk)

theorem seedConnectors_only {id : Nat → Uuid} (h : seedConnectors env db id = .ok db') :
    ConnectorsOnly db db' := by
  refine seedConnectors_keeps (P := ConnectorsOnly db) ?_ h (.refl db)
  intro db₁ db₂ connectorId name _ hstep honly
  rcases seedConnector_inserts hstep with rfl | ⟨_, rfl⟩
  · exact honly
  · exact honly.trans rfl

theorem seedConnectors_snapshots {id : Nat → Uuid} (h : seedConnectors env db id = .ok db') :
    Relation.ReflTransGen (SeededSnapshot isoformat) (catalogueSnapshot isoformat db.connectors)
      (catalogueSnapshot isoformat db'.connectors) := by
  have hseeded : Relation.ReflTransGen (Seeded env) db.connectors db'.connectors :=
    seedConnectorsFrom_seeded _ (fun _ hname => hname) h
  exact Relation.ReflTransGen.lift (catalogueSnapshot isoformat)
    (fun _ _ hstep => Seeded.snapshot hstep) _ _ hseeded

theorem CatalogueTold.empty (isoformat : Instant → String) : CatalogueTold isoformat .empty := .start

/-! ### The routes -/

/-- A call that wrote one row, as its entry has it. -/
theorem Wrote.tells {id : Uuid} (action : String) (h : Wrote db db' id)
    (hcreated : action = "connector_created" ↔ catalogueSnapshot isoformat db.connectors id = .none) :
    (rowEntry isoformat action db.connectors db'.connectors id).Tells
      (catalogueSnapshot isoformat db.connectors)
      (catalogueSnapshot isoformat db'.connectors) := by
  have hupdate : catalogueSnapshot isoformat db'.connectors =
      Function.update (catalogueSnapshot isoformat db.connectors) id
        (catalogueSnapshot isoformat db'.connectors id) := by
    funext k
    by_cases hk : k = id
    · subst hk
      rw [Function.update_self]
    · rw [Function.update_of_ne hk]
      unfold catalogueSnapshot
      rw [h.others k hk]
  obtain ⟨c, hc⟩ := h.row
  unfold rowEntry
  rw [hupdate, Function.update_self]
  refine .connector rfl hcreated ?_
  unfold catalogueSnapshot
  rw [hc]
  exact nofun

theorem Rewrote.tells {id : Uuid} {action : String} (h : Rewrote db db' id)
    (haction : action ≠ "connector_created") :
    (rowEntry isoformat action db.connectors db'.connectors id).Tells
      (catalogueSnapshot isoformat db.connectors)
      (catalogueSnapshot isoformat db'.connectors) := by
  obtain ⟨c, hc⟩ := h.found
  refine h.toWrote.tells action ⟨fun heq => absurd heq haction, fun hnone => ?_⟩
  unfold catalogueSnapshot at hnone
  rw [hc] at hnone
  cases hnone

/-- What a call did is what its entry tells; a call without an entry seeded, or changed nothing. -/
structure Accounted (isoformat : Instant → String) (db db' : Db) (entry : Option AdminEntry) : Prop where
  only : ConnectorsOnly db db'
  told : ∀ e, entry = some e →
    e.Tells (catalogueSnapshot isoformat db.connectors) (catalogueSnapshot isoformat db'.connectors)
  silent : entry = none →
    Relation.ReflTransGen (SeededSnapshot isoformat) (catalogueSnapshot isoformat db.connectors)
    (catalogueSnapshot isoformat db'.connectors)

theorem Accounted.of_tells {e : AdminEntry} (honly : ConnectorsOnly db db')
    (h : e.Tells (catalogueSnapshot isoformat db.connectors) (catalogueSnapshot isoformat db'.connectors)) :
    Accounted isoformat db db' (some e) := by
  refine ⟨honly, ?_, nofun⟩
  rintro _ ⟨⟩
  exact h

theorem Rewrote.accounted {id : Uuid} {action : String} (h : Rewrote db db' id)
    (haction : action ≠ "connector_created") :
    Accounted isoformat db db' (some (rowEntry isoformat action db.connectors db'.connectors id)) :=
  .of_tells h.only (h.tells haction)

theorem setActive_accounted {id : Uuid} {activate : Bool} (h : (w.setActive env id activate).2 = .ok db') :
    Accounted isoformat w.db db' (toggleEntry isoformat activate w.db.connectors db'.connectors id) := by
  unfold toggleEntry
  rcases setActive_cases h with ⟨hsame, rfl⟩ | ⟨hother, hrewrote⟩
  · rw [if_pos hsame]
    exact ⟨.refl _, nofun, fun _ => .refl⟩
  · rw [if_neg (by simp [hother])]
    refine hrewrote.accounted ?_
    cases activate <;> decide

theorem CatalogueRequest.serve_accounted {request : CatalogueRequest}
    (h : (request.serve env settings w).2 = .ok db') :
    Accounted isoformat w.db db' (request.entry isoformat w.db.connectors db'.connectors) := by
  cases request with
  | create id name file =>
    obtain ⟨hnone, hwrote⟩ := createWithLogo_wrote h
    have hbefore : catalogueSnapshot isoformat w.db.connectors id = .none := by
      unfold catalogueSnapshot
      rw [hnone]
      rfl
    have htells := hwrote.tells "connector_created" ⟨fun _ => hbefore, fun _ => rfl⟩
    unfold rowEntry at htells
    rw [hbefore] at htells
    exact .of_tells hwrote.only htells
  | update id name isActive displayOrder =>
    refine Rewrote.accounted (onLive_rewrote env h fun c _ hroute => ?_) (by decide)
    obtain ⟨row, hflush, hsame⟩ := updateConnectorMaster_ok hroute
    exact ⟨row, hsame.id, hflush⟩
  | delete id now =>
    refine Rewrote.accounted (onLive_rewrote env h fun c hlive hroute => ?_) (by decide)
    exact ⟨{ c with isDeleted := true, deletedAt := some now, isActive := false }, rfl,
      softDeleteConnector_ok hlive hroute⟩
  | restore id => exact (restore_rewrote h).accounted (by decide)
  | activate id => exact setActive_accounted h
  | deactivate id => exact setActive_accounted h
  | reorder items =>
    obtain ⟨honly, hsnapshots⟩ := reorder_snapshots h
    refine .of_tells honly ?_
    rw [hsnapshots, ← readOrder_logged]
    exact .order
  | uploadLogo id file =>
    refine Rewrote.accounted (onLive_rewrote env h fun c _ hroute => ?_) (by decide)
    obtain ⟨logo, _, hflush⟩ := saveConnectorLogo_ok hroute
    exact ⟨logo.row w.storage c, rfl, hflush⟩
  | clearLogo id =>
    refine Rewrote.accounted (onLive_rewrote env h fun c _ hroute => ?_) (by decide)
    exact ⟨{ c with logoUrl := none, logoSha256 := none }, rfl, hroute⟩
  | seed id =>
    exact ⟨seedConnectors_only h, nofun, fun _ => seedConnectors_snapshots h⟩

/-- A request keeps the log a story of the catalogue. -/
theorem CatalogueRequest.handle_told {request : CatalogueRequest} {draw : Draw} {adminId : Uuid}
    {ipAddress : Option String} (h : CatalogueTold isoformat w.db)
    (hfresh : w.db.adminActionLogs.Fresh draw.adminLogId) :
    CatalogueTold isoformat (request.handle isoformat env settings w draw adminId ipAddress).db := by
  unfold handle
  split
  · exact h
  rename_i storage db hserve
  have haccounted : Accounted isoformat w.db db (request.entry isoformat w.db.connectors db.connectors) :=
    request.serve_accounted (congrArg Prod.snd hserve)
  generalize request.entry isoformat w.db.connectors db.connectors = entry at haccounted
  have hlogs : db.adminActionLogs = w.db.adminActionLogs := by
    rw [haccounted.only]
  have hentries : db.connectorEntries = w.db.connectorEntries := by
    unfold Db.connectorEntries
    rw [hlogs]
  rw [← hlogs] at hfresh
  show Told AdminEntry.Tells (SeededSnapshot isoformat) _
    (logConnectorAction db draw adminId ipAddress entry).connectorEntries
    (catalogueSnapshot isoformat (logConnectorAction db draw adminId ipAddress entry).connectors)
  rw [connectorEntries_logged hfresh, hentries]
  cases entry with
  | none =>
    rw [Option.toList_none, List.append_nil]
    exact Told.silently h (haccounted.silent rfl)
  | some e => exact Told.entry h (haccounted.told e rfl)

end

end RatingLift
