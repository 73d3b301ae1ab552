import RatingLift.Connectors.Catalogue
import RatingLift.Library.Constraints
import RatingLift.PropertyConnector.BindingRows

/-!
# What the catalogue offers a tenant

The tenant's list of the catalogue tells for every connector whether the property is connected, and by that
which button is shown: "Connect", "Reactivate" or "Disconnect".  The request behind the button is served, and
after it the list shows the connector the other way round (`offer_served`); this needs only that no property
has two bindings to one connector.
-/

namespace RatingLift

open Library Fallible PropertyConnectorService

/-- The request behind the button of an item; `payload` is what the tenant fills in to connect. -/
def TenantConnectorResponse.offer (ctx : RequestContext) (propertyId : Uuid) (payload : ActivateConnector)
    (item : TenantConnectorResponse) : BindingRequest :=
  match item.propertyConnectorId with
  | none => .activateConnectorEndpoint ctx propertyId { payload with connectorId := item.id }
  | some id =>
    if item.isConnected then .deactivateConnectorEndpoint ctx propertyId id
    else .reactivateConnectorEndpoint ctx propertyId id

/-- The item after the button was pressed. -/
def TenantConnectorResponse.pressed (newId : Uuid) (item : TenantConnectorResponse) :
    TenantConnectorResponse :=
  { item with
    propertyConnectorId := some (item.propertyConnectorId.getD newId)
    isConnected := !item.isConnected }

/-- No property has two bindings to one connector. -/
def PairsUnique (db : Db) : Prop :=
  db.propertyConnectors.UniqueOn fun pc => some (pc.propertyId, pc.connectorId)

section

variable {env : PlatformEnv} {settings : Settings} {db db' : Db} {ctx : RequestContext} {limit offset : Nat}
  {propertyId connectorId : Uuid}

/-! ### Bindings by pair -/

theorem existingBinding_eq_some (hpairs : PairsUnique db) {pc : PropertyConnector} :
    existingBinding db propertyId connectorId = some pc ↔
      pc ∈ db.propertyConnectors ∧ pc.propertyId = propertyId ∧ pc.connectorId = connectorId := by
  constructor
  · intro h
    obtain ⟨hmem, hpair⟩ := Table.first_some h
    rw [Bool.and_eq_true, beq_iff_eq, beq_iff_eq] at hpair
    exact ⟨hmem, hpair⟩
  · rintro ⟨hmem, rfl, rfl⟩
    refine Table.first_eq_some_of_unique hmem (by simp) ?_
    intro other hother hpair
    have hsame : (other.propertyId, other.connectorId) = (pc.propertyId, pc.connectorId) := by
      simpa using hpair
    exact hpairs other hother pc hmem _ (congrArg some hsame) rfl

/-- The list finds the binding of a connector on its page under the pair. -/
theorem bindingOf_eq (hpairs : PairsUnique db) {pcs : List PropertyConnector} {ids : List Uuid}
    (hid : connectorId ∈ ids)
    (hpcs : ∀ pc, pc ∈ pcs ↔ pc ∈ db.propertyConnectors ∧ pc.propertyId = propertyId ∧ pc.connectorId ∈ ids) :
    bindingOf pcs connectorId = existingBinding db propertyId connectorId := by
  ext pc
  rw [existingBinding_eq_some hpairs]
  constructor
  · intro h
    obtain ⟨hmem, hprop, _⟩ := (hpcs pc).mp (List.mem_reverse.mp (List.mem_of_find?_eq_some h))
    exact ⟨hmem, hprop, by simpa using List.find?_some h⟩
  · rintro ⟨hmem, rfl, rfl⟩
    unfold bindingOf
    cases hfind : pcs.reverse.find? fun x => x.connectorId == pc.connectorId with
    | none =>
      have hlisted : pc ∈ pcs.reverse := List.mem_reverse.mpr ((hpcs pc).mpr ⟨hmem, rfl, hid⟩)
      have hfalse := List.find?_eq_none.mp hfind pc hlisted
      simp at hfalse
    | some other =>
      obtain ⟨hother, hprop, _⟩ := (hpcs other).mp (List.mem_reverse.mp (List.mem_of_find?_eq_some hfind))
      have hconnector : other.connectorId = pc.connectorId := by simpa using List.find?_some hfind
      have hsame : (other.propertyId, other.connectorId) = (pc.propertyId, pc.connectorId) := by
        rw [hprop, hconnector]
      rw [hpairs other hother pc hmem _ (congrArg some hsame) rfl]

/-- The bindings by pair after a write of one row: the pair of the row leads to it, and the others to what
they did. -/
theorem existingBinding_put {row : PropertyConnector} (hpairs : PairsUnique db)
    (hput : db.propertyConnectors.Puts db'.propertyConnectors row)
    (hrow : ∀ pc ∈ db.propertyConnectors,
      pc.id = row.id ↔ (pc.propertyId, pc.connectorId) = (row.propertyId, row.connectorId)) :
    PairsUnique db' ∧ ∀ connectorId, existingBinding db' row.propertyId connectorId =
      if connectorId = row.connectorId then some row else existingBinding db row.propertyId connectorId := by
  have hpairs' : PairsUnique db' := by
    refine hput.uniqueOn hpairs ?_
    intro pair hpair pc hpc heq
    exact (hrow pc hpc).mpr (Option.some.inj (heq.trans hpair.symm))
  refine ⟨hpairs', ?_⟩
  intro connectorId
  ext pc
  rw [existingBinding_eq_some hpairs', hput pc]
  by_cases hconnector : connectorId = row.connectorId
  · rw [if_pos hconnector, hconnector, Option.some.injEq]
    constructor
    · rintro ⟨rfl | ⟨hpc, hne⟩, hprop, hconn⟩
      · rfl
      · exact absurd ((hrow pc hpc).mpr (by rw [hprop, hconn])) hne
    · rintro rfl
      exact ⟨Or.inl rfl, rfl, rfl⟩
  · rw [if_neg hconnector, existingBinding_eq_some hpairs]
    constructor
    · rintro ⟨rfl | ⟨hpc, _⟩, hprop, hconn⟩
      · exact absurd hconn.symm hconnector
      · exact ⟨hpc, hprop, hconn⟩
    · rintro ⟨hpc, hprop, hconn⟩
      refine ⟨Or.inr ⟨hpc, ?_⟩, hprop, hconn⟩
      intro hid
      have hpair := (hrow pc hpc).mp hid
      exact hconnector (hconn.symm.trans (Prod.mk.inj hpair).2)

/-! ### The list -/

/-- The page of the catalogue that the list shows. -/
def cataloguePage (env : PlatformEnv) (db : Db) (limit offset : Nat) : List Connector :=
  (listCatalogue env db (some true) false limit offset).1

theorem mem_cataloguePage {c : Connector} (h : c ∈ cataloguePage env db limit offset) :
    c ∈ db.connectors ∧ c.isDeleted = false ∧ c.isActive = true := by
  have hsorted := List.mem_of_mem_drop (List.mem_of_mem_take h)
  have hselected := Table.mem_select.mp ((List.mem_insertionSort _).mp hsorted)
  simpa using hselected

/-- The list with the bindings of a property shows each connector of the page with its binding by pair. -/
theorem listActiveConnectors_eq_ok (hpairs : PairsUnique db) {list : TenantConnectorList} :
    listActiveConnectors env settings db ctx limit offset (some propertyId) = .ok list ↔
      (∃ prop, getOwnedProperty env db ctx (.uuid propertyId) = .ok prop) ∧
        list = ⟨(listCatalogue env db (some true) false limit offset).2, limit, offset,
          (cataloguePage env db limit offset).map fun c =>
            .ofRow settings c (existingBinding db propertyId c.id)⟩ := by
  have hitems : ∀ pcs, pcs = (db.propertyConnectors.select fun pc => pc.propertyId == propertyId &&
        ((cataloguePage env db limit offset).map (·.id)).contains pc.connectorId) →
      ((cataloguePage env db limit offset).map fun c =>
        TenantConnectorResponse.ofRow settings c (bindingOf pcs c.id)) =
        (cataloguePage env db limit offset).map fun c =>
          .ofRow settings c (existingBinding db propertyId c.id) := by
    rintro _ rfl
    refine List.map_congr_left ?_
    intro c hc
    refine congrArg _ (bindingOf_eq hpairs (List.mem_map_of_mem hc) ?_)
    intro pc
    rw [Table.mem_select, Bool.and_eq_true, beq_iff_eq, List.contains_iff_mem]
  unfold listActiveConnectors catalogueBindings getOwnedProperty
  dsimp only [coerceUuid]
  rw [ok_bind]
  cases filterByTenant env.pgUuid ctx.tenantId with
  | error e => simp
  | ok tenant =>
    rw [ok_bind, ok_bind]
    cases db.properties.first fun p => p.tenantId == tenant && p.id == propertyId with
    | none => simp
    | some prop =>
      have hshown := hitems _ rfl
      constructor
      · intro h
        refine ⟨⟨prop, rfl⟩, ?_⟩
        rw [← hshown]
        exact (Except.ok.inj h).symm
      · rintro ⟨_, rfl⟩
        rw [← hshown]
        rfl

/-! ### Pressing a button -/

/-- The binding of a pair is written: a new one under the key, active, or the old one with the flag
changed. -/
structure Presses (newId : Uuid) (db db' : Db) (row : PropertyConnector) : Prop where
  connectors : db'.connectors = db.connectors
  properties : db'.properties = db.properties
  put : db.propertyConnectors.Puts db'.propertyConnectors row
  pair : ∀ pc ∈ db.propertyConnectors,
    pc.id = row.id ↔ (pc.propertyId, pc.connectorId) = (row.propertyId, row.connectorId)
  id : row.id = ((existingBinding db row.propertyId row.connectorId).map (·.id)).getD newId
  active : row.isActive = !(existingBinding db row.propertyId row.connectorId).any (·.isActive)

/-- The list after the button of one connector was pressed. -/
theorem Presses.list {list : TenantConnectorList} {row : PropertyConnector} {newId : Uuid}
    (h : Presses newId db db' row) (hpairs : PairsUnique db)
    (hlist : listActiveConnectors env settings db ctx limit offset (some row.propertyId) = .ok list) :
    listActiveConnectors env settings db' ctx limit offset (some row.propertyId) =
      .ok { list with items := list.items.map fun i =>
        if i.id = row.connectorId then i.pressed newId else i } := by
  obtain ⟨⟨prop, hprop⟩, rfl⟩ := (listActiveConnectors_eq_ok hpairs).mp hlist
  obtain ⟨hpairs', hbindings⟩ := existingBinding_put hpairs h.put h.pair
  refine (listActiveConnectors_eq_ok hpairs').mpr ⟨⟨prop, ?_⟩, ?_⟩
  · unfold getOwnedProperty at hprop ⊢
    rw [h.properties]
    exact hprop
  have hpage : listCatalogue env db' (some true) false limit offset =
      listCatalogue env db (some true) false limit offset := by
    unfold listCatalogue
    rw [h.connectors]
  unfold cataloguePage
  rw [hpage, List.map_map]
  congr 1
  refine List.map_congr_left ?_
  intro c _
  rw [hbindings c.id, Function.comp_apply]
  show (if c.id = row.connectorId then _ else _) = _
  by_cases hc : c.id = row.connectorId
  · rw [if_pos hc, if_pos hc]
    unfold TenantConnectorResponse.pressed TenantConnectorResponse.ofRow
    rw [hc, ← h.id, ← h.active]
    rfl
  · rw [if_neg hc, if_neg hc]

/-- A new binding of a free pair. -/
theorem presses_insert {row : PropertyConnector} (hpairs : PairsUnique db)
    (hfresh : db.propertyConnectors.Fresh row.id)
    (hfree : existingBinding db row.propertyId row.connectorId = none) (hactive : row.isActive = true)
    (hconnectors : db'.connectors = db.connectors) (hproperties : db'.properties = db.properties)
    (hbindings : db'.propertyConnectors = db.propertyConnectors.insert row) : Presses row.id db db' row where
  connectors := hconnectors
  properties := hproperties
  put := by
    rw [hbindings]
    exact Table.puts_insert hfresh
  pair := by
    intro pc hpc
    refine ⟨fun h => absurd h (hfresh pc hpc), ?_⟩
    intro hpair
    obtain ⟨hp, hc⟩ := Prod.mk.inj hpair
    rw [(existingBinding_eq_some hpairs).mpr ⟨hpc, hp, hc⟩] at hfree
    cases hfree
  id := by
    rw [hfree]
    rfl
  active := by
    rw [hfree, hactive]
    rfl

/-- The stored binding of a pair with the flag changed. -/
theorem presses_update {newId : Uuid} {old : PropertyConnector} (hpairs : PairsUnique db)
    (hold : old ∈ db.propertyConnectors) (hconnectors : db'.connectors = db.connectors)
    (hproperties : db'.properties = db.properties)
    (hbindings : db'.propertyConnectors =
      db.propertyConnectors.update { old with isActive := !old.isActive }) :
    Presses newId db db' { old with isActive := !old.isActive } where
  connectors := hconnectors
  properties := hproperties
  put := by
    have hfind : db.propertyConnectors.find? old.id = some old := Table.mem_iff_find?.mp hold
    rw [hbindings]
    exact Table.puts_update hfind
  pair := by
    intro pc hpc
    constructor
    · intro hid
      rw [Table.eq_of_key_eq hpc hold hid]
    · intro hpair
      rw [hpairs pc hpc old hold _ (congrArg some hpair) rfl]
  id := by
    rw [(existingBinding_eq_some hpairs).mpr ⟨hold, rfl, rfl⟩]
    rfl
  active := by
    rw [(existingBinding_eq_some hpairs).mpr ⟨hold, rfl, rfl⟩]
    rfl

theorem getOwnedProperty_id {prop : Property}
    (h : getOwnedProperty env db ctx (.uuid propertyId) = .ok prop) :
    prop.id = propertyId := by
  obtain ⟨pid, hpid, h⟩ := bind_eq_ok.mp h
  obtain ⟨tenant, _, h⟩ := bind_eq_ok.mp h
  cases hpid
  split at h
  · cases h
  · rename_i hfound
    cases h
    have hpair := (Table.first_some hfound).2
    rw [Bool.and_eq_true, beq_iff_eq, beq_iff_eq] at hpair
    exact hpair.2

/-- A connector of the page can be connected. -/
theorem getActiveConnector_of_page {c : Connector} (hc : c ∈ cataloguePage env db limit offset) :
    getActiveConnector db c.id = .ok c := by
  obtain ⟨hmem, hlive, hactive⟩ := mem_cataloguePage hc
  have hfound : (db.connectors.first fun x => x.id == c.id && !x.isDeleted) = some c := by
    refine Table.first_eq_some_of_unique hmem (by simp [hlive]) ?_
    intro other hother hsame
    rw [Bool.and_eq_true, beq_iff_eq] at hsame
    exact Table.eq_of_key_eq hother hmem hsame.1
  unfold getActiveConnector
  rw [hfound]
  simp [hactive]

/-- The binding that the list shows can be looked up under its id. -/
theorem getOwnedPropertyConnector_of_mem {prop : Property} {pc : PropertyConnector}
    (hprop : getOwnedProperty env db ctx (.uuid propertyId) = .ok prop) (hpc : pc ∈ db.propertyConnectors)
    (hpid : pc.propertyId = propertyId) :
    getOwnedPropertyConnector env db ctx (.uuid propertyId) (.uuid pc.id) =
      .ok (pc, db.connectors.find? pc.connectorId) := by
  have hfound :
      (db.propertyConnectors.first fun x => x.id == pc.id && x.propertyId == prop.id) = some pc := by
    refine Table.first_eq_some_of_unique hpc ?_ ?_
    · rw [getOwnedProperty_id hprop, hpid]
      simp
    · intro other hother hsame
      rw [Bool.and_eq_true, beq_iff_eq] at hsame
      exact Table.eq_of_key_eq hother hpc hsame.1
  unfold getOwnedPropertyConnector
  rw [hprop, ok_bind]
  dsimp only [coerceUuid]
  rw [ok_bind, hfound]

variable {list : TenantConnectorList} {item : TenantConnectorResponse} {payload : ActivateConnector}
  {draw : Draw}
  {ipAddress : Option String}

/-- "Connect" -/
theorem connect_served (payload : ActivateConnector) (draw : Draw) (ipAddress : Option String)
    {prop : Property} {c : Connector} (hpairs : PairsUnique db)
    (hfresh : db.propertyConnectors.Fresh (draw.id 0))
    (hprop : getOwnedProperty env db ctx (.uuid propertyId) = .ok prop)
    (hc : c ∈ cataloguePage env db limit offset) (hfree : existingBinding db propertyId c.id = none)
    (hconnector : payload.connectorId = c.id) :
    ∃ reply db' row,
    (BindingRequest.activateConnectorEndpoint ctx propertyId payload).serve env db draw ipAddress =
      .ok (reply, db') ∧ row.propertyId = propertyId ∧ row.connectorId = c.id ∧
      Presses (draw.id 0) db db' row := by
  obtain ⟨row, hrow⟩ : ∃ row, row =
    newBinding draw payload (env.encryptSecret draw.iv payload.apiSecret) propertyId c.id := ⟨_, rfl⟩
  have hserved : activateConnector env db ctx draw (.uuid propertyId) payload =
      .ok ((annotate row (some c), none, row.snapshot),
        { db with propertyConnectors := db.propertyConnectors.insert row }) := by
    unfold activateConnector
    rw [hprop, ok_bind, hconnector, getActiveConnector_of_page hc, ok_bind,
      getOwnedProperty_id hprop, hfree, hrow]
    dsimp only
    rw [insertBinding_of_none hfree]
    rfl
  unfold BindingRequest.serve RatingLift.activateConnectorEndpoint
  dsimp only
  rw [hserved]
  obtain ⟨hid, hpid, hcid, hactive⟩ : row.id = draw.id 0 ∧ row.propertyId = propertyId ∧
      row.connectorId = c.id ∧
      row.isActive = true := by
    rw [hrow]
    exact ⟨rfl, rfl, rfl, rfl⟩
  rw [← hid] at hfresh ⊢
  rw [← hpid, ← hcid] at hfree
  exact ⟨_, _, row, rfl, hpid, hcid, presses_insert hpairs hfresh hfree hactive rfl rfl rfl⟩

/-- "Disconnect" and "Reactivate" -/
theorem toggle_served {prop : Property} {pc : PropertyConnector} {c : Connector} (hpairs : PairsUnique db)
    (hprop : getOwnedProperty env db ctx (.uuid propertyId) = .ok prop)
    (hc : c ∈ cataloguePage env db limit offset) (hpc : pc ∈ db.propertyConnectors)
    (hpid : pc.propertyId = propertyId) (hconnector : pc.connectorId = c.id) :
    ∃ reply db', BindingRequest.serve env db draw ipAddress (if pc.isActive then
        .deactivateConnectorEndpoint ctx propertyId pc.id else
          .reactivateConnectorEndpoint ctx propertyId pc.id) =
      .ok (reply, db') ∧ Presses (draw.id 0) db db' { pc with isActive := !pc.isActive } := by
  have hfound := getOwnedPropertyConnector_of_mem hprop hpc hpid
  obtain ⟨hmem, hlive, hactive⟩ := mem_cataloguePage hc
  have hlookup : db.connectors.find? pc.connectorId = some c := by
    rw [hconnector]
    exact Table.mem_iff_find?.mp hmem
  rw [hlookup] at hfound
  have hpresses : ∀ {db' : Db}, db'.connectors = db.connectors → db'.properties = db.properties →
      db'.propertyConnectors = db.propertyConnectors.update { pc with isActive := !pc.isActive } →
        Presses (draw.id 0) db db' { pc with isActive := !pc.isActive } := presses_update hpairs hpc
  cases hconnected : pc.isActive with
  | true =>
    rw [hconnected] at hpresses
    unfold BindingRequest.serve RatingLift.deactivateConnectorEndpoint deactivateConnector
    rw [if_pos rfl]
    dsimp only
    rw [hfound, ok_bind, hconnected]
    exact ⟨_, _, rfl, hpresses rfl rfl rfl⟩
  | false =>
    rw [hconnected] at hpresses
    unfold BindingRequest.serve RatingLift.reactivateConnectorEndpoint reactivateConnector
    rw [if_neg (by simp)]
    dsimp only
    rw [hfound, ok_bind, hconnected]
    dsimp only
    rw [hactive, hlive]
    exact ⟨_, _, rfl, hpresses rfl rfl rfl⟩

/-- The request behind a button is served, and the list then shows the connector the other way round. -/
theorem offer_served (payload : ActivateConnector) (draw : Draw) (ipAddress : Option String)
    (hpairs : PairsUnique db) (hfresh : db.propertyConnectors.Fresh (draw.id 0))
    (hlist : listActiveConnectors env settings db ctx limit offset (some propertyId) = .ok list)
    (hitem : item ∈ list.items) :
    ∃ reply db', (item.offer ctx propertyId payload).serve env db draw ipAddress = .ok (reply, db') ∧
      listActiveConnectors env settings db' ctx limit offset (some propertyId) =
        .ok { list with items := list.items.map fun i =>
          if i.id = item.id then i.pressed (draw.id 0) else i } := by
  obtain ⟨⟨prop, hprop⟩, hshown⟩ := (listActiveConnectors_eq_ok hpairs).mp hlist
  rw [hshown] at hitem
  obtain ⟨c, hc, rfl⟩ := List.mem_map.mp hitem
  cases hexisting : existingBinding db propertyId c.id with
  | none =>
    obtain ⟨reply, db', row, hserved, rfl, hconnector, hpresses⟩ :=
      connect_served { payload with connectorId := c.id }
      draw ipAddress hpairs hfresh hprop hc hexisting rfl
    refine ⟨reply, db', hserved, ?_⟩
    rw [hpresses.list hpairs hlist, hconnector]
    rfl
  | some pc =>
    obtain ⟨hpc, rfl, hconnector⟩ := (existingBinding_eq_some hpairs).mp hexisting
    obtain ⟨reply, db', hserved, hpresses⟩ := toggle_served hpairs hprop hc hpc rfl hconnector
    refine ⟨reply, db', hserved, ?_⟩
    rw [hpresses.list hpairs hlist]
    dsimp only
    rw [hconnector]
    rfl

end

end RatingLift
