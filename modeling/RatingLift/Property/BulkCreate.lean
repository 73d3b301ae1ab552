import Mathlib.Data.List.ReduceOption
import RatingLift.Library.Fallible
import RatingLift.Property.Routes

/-!
# Bulk creation against single creation

`bulk_create_properties` and `create_property` build the same row in two places.  Both attempt one INSERT for
each payload (`insertEach`), which differ in the `google_maps_url` of the row only, so they refuse the same
payloads (`insertEach_verdicts`) and leave the same table exactly when no payload that is accepted carries one
(`bulkCreate_agrees_iff`).
-/

namespace RatingLift

open Library PropertyService

/-- The draws of the `n`-th of several requests: it takes the ids from `n` on. -/
def Draw.from (draw : Draw) (n : Nat) : Draw := { draw with id := fun i => draw.id (n + i) }

/-- `create_property` on the payloads one after the other, skipping those that raise the place-id conflict:
the property that each call returns, `none` for a skipped one. -/
def createEach (ctx : RequestContext) (draw : Draw) (db : Db) (index : Nat) : List PropertyCreate →
    Except Exn (List (Option Property) × Db)
  | [] => .ok ([], db)
  | payload :: payloads =>
    match createProperty db ctx (draw.from index) payload with
    | .ok (prop, db) => do
      let (outcomes, db) ← createEach ctx draw db (index + 1) payloads
      return (some prop :: outcomes, db)
    | .error e =>
      if e = .http 409 duplicatePlaceIdDetail then do
        let (outcomes, db) ← createEach ctx draw db (index + 1) payloads
        return (none :: outcomes, db)
      else .error e

/-- Item `i` of the bulk response says what the `i`-th single creation did. -/
def PropertyBulkCreateResultItem.Reports (item : PropertyBulkCreateResultItem)
    (outcome : Option Property) : Prop :=
  (item.ok = true ↔ outcome.isSome = true) ∧ (item.status = some 409 ↔ outcome = none)

/-- The bulk route commits the table that the single creations leave, and reports each of them. -/
def BulkCreateAgrees (db : Db) (draw : Draw) (ipAddress : Option String) (ctx : RequestContext)
    (payloads : List PropertyCreate) : Prop :=
  ∃ outcomes single response bulk, createEach ctx draw db 0 payloads = .ok (outcomes, single) ∧
    bulkCreatePropertiesEndpoint db draw ipAddress ctx payloads = .ok (response, bulk) ∧
    bulk.properties = single.properties ∧
    List.Forall₂ PropertyBulkCreateResultItem.Reports response.results outcomes ∧
    response.created + response.failed = payloads.length

section

variable {db : Db} {draw : Draw} {tenant : Uuid}

/-! ### The place ids that are taken -/

/-- The tenant has a property with that place id. -/
def HasPlace (db : Db) (tenant : Uuid) (place : String) : Prop :=
  ∃ p ∈ db.properties, p.tenantId = tenant ∧ p.googlePlaceId = some place

/-- The place id of `payload` is taken: by a property of the tenant or by one of the payloads before it. -/
def PlaceTakenAfter (db : Db) (tenant : Uuid) (before : List PropertyCreate)
    (payload : PropertyCreate) : Prop :=
  ∃ place, payload.googlePlaceId = some place ∧
    (HasPlace db tenant place ∨ ∃ q ∈ before, q.googlePlaceId = some place)

/-- For a row under a new id, the unique index asks only which place ids its tenant has. -/
theorem placeTaken_iff {prop : Property} (hfresh : db.properties.Fresh prop.id) :
    placeTaken db prop = true ↔
      ∃ place, prop.googlePlaceId = some place ∧ HasPlace db prop.tenantId place := by
  unfold placeTaken HasPlace
  rw [Bool.and_eq_true]
  constructor
  · rintro ⟨hsome, hfirst⟩
    obtain ⟨place, hplace⟩ := Option.isSome_iff_exists.mp hsome
    obtain ⟨p, hp⟩ := Option.isSome_iff_exists.mp hfirst
    obtain ⟨hm, hq⟩ := Table.first_some hp
    simp only [Bool.and_eq_true, beq_iff_eq] at hq
    exact ⟨place, hplace, p, hm, hq.1.2, hq.2.trans hplace⟩
  · rintro ⟨place, hplace, p, hm, ht, hp⟩
    refine ⟨by rw [hplace]; rfl, ?_⟩
    by_contra hnone
    rw [Bool.not_eq_true, Option.isSome_eq_false_iff, Option.isNone_iff_eq_none, Table.first_eq_none] at hnone
    have hq := hnone p hm
    have hne : p.id ≠ prop.id := hfresh p hm
    simp [hne, ht, hp, hplace] at hq

/-! ### One INSERT for each payload -/

/-- The row for `payload`, under the `n`-th drawn id, with the Maps URL that `url` picks. -/
def propertyFor (draw : Draw) (tenant : Uuid) (url : PropertyCreate → Option String) (n : Nat)
    (payload : PropertyCreate) : Property :=
  newProperty draw n tenant payload.name payload.googlePlaceId (url payload)

/-- The INSERT of the row for `payload`, where its place id is not taken. -/
def insertOne (draw : Draw) (tenant : Uuid) (url : PropertyCreate → Option String) (db : Db) (n : Nat)
    (payload : PropertyCreate) : Option Property × Db :=
  let prop := propertyFor draw tenant url n payload
  if placeTaken db prop then (none, db) else (some prop, { db with properties := db.properties.insert prop })

def insertEach (draw : Draw) (tenant : Uuid) (url : PropertyCreate → Option String) (db : Db) (n : Nat) :
    List PropertyCreate → List (Option Property) × Db
  | [] => ([], db)
  | payload :: payloads =>
    let first := insertOne draw tenant url db n payload
    let rest := insertEach draw tenant url first.2 (n + 1) payloads
    (first.1 :: rest.1, rest.2)

variable {url : PropertyCreate → Option String} {k n : Nat}

/-- What one INSERT does: it is refused where the place id is taken, and afterwards the tenant has that place
id in either case. -/
theorem insertOne_spec (tenant : Uuid) (url : PropertyCreate → Option String)
    (hf : db.properties.NewKeys draw.id k n) (hk : k < n) (payload : PropertyCreate) :
    ∃ prop db', propertyFor draw tenant url k payload = prop ∧
    (insertOne draw tenant url db k payload).2 = db' ∧
      (PlaceTakenAfter db tenant [] payload → (insertOne draw tenant url db k payload).1 = none) ∧
      (¬ PlaceTakenAfter db tenant [] payload → (insertOne draw tenant url db k payload).1 = some prop) ∧
      db'.properties.rows = db.properties.rows ++ (insertOne draw tenant url db k payload).1.toList ∧
      db'.tenants = db.tenants ∧ db'.properties.NewKeys draw.id (k + 1) n ∧
      ∀ place, HasPlace db' tenant place ↔ HasPlace db tenant place ∨ payload.googlePlaceId = some place := by
  refine ⟨_, _, rfl, rfl, ?_⟩
  have hfresh : db.properties.Fresh (propertyFor draw tenant url k payload).id := hf.head hk
  have hiff : placeTaken db (propertyFor draw tenant url k payload) = true ↔
      PlaceTakenAfter db tenant [] payload := by
    rw [placeTaken_iff hfresh]
    unfold PlaceTakenAfter
    simp [propertyFor, newProperty]
  by_cases htaken : PlaceTakenAfter db tenant [] payload
  · have hone : insertOne draw tenant url db k payload = (none, db) := by
      simp only [insertOne, if_pos (hiff.mpr htaken)]
    rw [hone]
    refine ⟨fun _ => rfl, fun h => absurd htaken h, by simp, rfl, hf.tail, ?_⟩
    intro place
    obtain ⟨place', hpayload, hhas⟩ := htaken
    constructor
    · exact Or.inl
    · rintro (h | h)
      · exact h
      · have : place' = place := Option.some.inj (hpayload.symm.trans h)
        subst this
        simpa using hhas
  · have hone : insertOne draw tenant url db k payload = (some (propertyFor draw tenant url k payload),
        { db with properties := db.properties.insert (propertyFor draw tenant url k payload) }) := by
      simp only [insertOne, if_neg (fun h => htaken (hiff.mp h))]
    rw [hone]
    refine ⟨fun h => absurd h htaken, fun _ => rfl, Table.rows_insert hfresh, rfl, hf.insert rfl, ?_⟩
    intro place
    constructor
    · rintro ⟨p, hp, ht, hplace⟩
      rcases (Table.mem_insert hfresh).mp hp with hp | rfl
      · exact Or.inl ⟨p, hp, ht, hplace⟩
      · exact Or.inr hplace
    · rintro (⟨p, hp, ht, hplace⟩ | h)
      · exact ⟨p, (Table.mem_insert hfresh).mpr (Or.inl hp), ht, hplace⟩
      · exact ⟨_, (Table.mem_insert hfresh).mpr (Or.inr rfl), rfl, h⟩

/-- The rows that were accepted follow those of the table. -/
theorem rows_insertEach (payloads : List PropertyCreate) : ∀ {k : Nat} {db : Db},
    db.properties.NewKeys draw.id k (k + payloads.length) →
    (insertEach draw tenant url db k payloads).2.properties.rows =
      db.properties.rows ++ (insertEach draw tenant url db k payloads).1.reduceOption := by
  induction payloads with
  | nil => intro k db _; simp [insertEach, List.reduceOption_nil]
  | cons payload payloads ih =>
    intro k db hf
    rw [List.length_cons] at hf
    obtain ⟨prop, db', _, hdb, _, _, hrows, _, hf', _⟩ :=
      insertOne_spec tenant url hf (by omega) payload
    rw [show k + (payloads.length + 1) = k + 1 + payloads.length by omega] at hf'
    have hrest := ih hf'
    simp only [insertEach]
    rw [hdb, hrest, hrows, List.append_assoc]
    cases (insertOne draw tenant url db k payload).1 with
    | none => simp [List.reduceOption_cons_of_none]
    | some p => simp [List.reduceOption_cons_of_some]

theorem length_insertEach (payloads : List PropertyCreate) : ∀ {k : Nat} {db : Db},
    (insertEach draw tenant url db k payloads).1.length = payloads.length := by
  induction payloads with
  | nil => intro k db; rfl
  | cons payload payloads ih => intro k db; simp only [insertEach, List.length_cons, ih]

/-- Which payloads are accepted: those whose place id neither the table nor an earlier payload has. -/
theorem insertEach_outcome (tenant : Uuid) (url : PropertyCreate → Option String)
    (payloads : List PropertyCreate) :
    ∀ {k : Nat} {db : Db} {before after : List PropertyCreate} {payload : PropertyCreate},
    db.properties.NewKeys draw.id k (k + payloads.length) →
    payloads = before ++ payload :: after →
    (PlaceTakenAfter db tenant before payload →
      (insertEach draw tenant url db k payloads).1[before.length]? = some none) ∧
    (¬ PlaceTakenAfter db tenant before payload →
      (insertEach draw tenant url db k payloads).1[before.length]? =
        some (some (propertyFor draw tenant url (k + before.length) payload))) := by
  induction payloads with
  | nil => intro k db before after payload _ h; simp at h
  | cons p payloads ih =>
    intro k db before after payload hf h
    rw [List.length_cons] at hf
    obtain ⟨prop, db', hprop, hdb, htaken, hfree, _, _, hf', hhas⟩ :=
      insertOne_spec tenant url hf (by omega) p
    rw [show k + (payloads.length + 1) = k + 1 + payloads.length by omega] at hf'
    cases before with
    | nil =>
      obtain ⟨rfl, rfl⟩ := List.cons.inj h
      simp only [insertEach, List.length_nil, List.getElem?_cons_zero, Nat.add_zero, Option.some_inj]
      exact ⟨htaken, fun hn => (hfree hn).trans (congrArg some hprop.symm)⟩
    | cons q before =>
      obtain ⟨rfl, htail⟩ := List.cons.inj h
      have hafter : PlaceTakenAfter db tenant (p :: before) payload ↔
          PlaceTakenAfter db' tenant before payload := by
        unfold PlaceTakenAfter
        simp only [hhas, List.mem_cons, exists_eq_or_imp, or_assoc]
      have hrest := ih hf' htail
      rw [hafter]
      simp only [insertEach, hdb, List.length_cons, List.getElem?_cons_succ]
      rw [show k + (before.length + 1) = k + 1 + before.length by omega]
      exact hrest

private theorem split_at {α : Type} {l : List α} {j : Nat} (h : j < l.length) :
    ∃ before x after, l = before ++ x :: after ∧ before.length = j := by
  refine ⟨l.take j, l[j], l.drop (j + 1), ?_, List.length_take_of_le h.le⟩
  rw [List.getElem_cons_drop h, List.take_append_drop]

theorem mem_insertEach {payloads : List PropertyCreate} {prop : Property}
    (hf : db.properties.NewKeys draw.id k (k + payloads.length))
    (h : some prop ∈ (insertEach draw tenant url db k payloads).1) :
    ∃ before payload after, payloads = before ++ payload :: after ∧
      prop = propertyFor draw tenant url (k + before.length) payload := by
  obtain ⟨j, hj⟩ := List.mem_iff_getElem?.mp h
  have hlt : j < payloads.length := by
    obtain ⟨hlt, _⟩ := List.getElem?_eq_some_iff.mp hj
    rwa [length_insertEach] at hlt
  obtain ⟨before, payload, after, hsplit, rfl⟩ := split_at hlt
  obtain ⟨htaken, hfree⟩ := insertEach_outcome tenant url payloads hf hsplit
  refine ⟨before, payload, after, hsplit, ?_⟩
  by_cases hc : PlaceTakenAfter db tenant before payload
  · have := hj.symm.trans (htaken hc)
    simp at this
  · have := hj.symm.trans (hfree hc)
    exact Option.some.inj (Option.some.inj this)

/-- The URL of a row has no part in whether it is accepted. -/
theorem insertEach_verdicts {url' : PropertyCreate → Option String} (payloads : List PropertyCreate) :
    ∀ {k : Nat} {db db' : Db}, db.properties.NewKeys draw.id k (k + payloads.length) →
    db'.properties.NewKeys draw.id k (k + payloads.length) →
    (∀ place, HasPlace db tenant place ↔ HasPlace db' tenant place) →
    List.Forall₂ (fun outcome outcome' => outcome.isSome = outcome'.isSome)
      (insertEach draw tenant url db k payloads).1 (insertEach draw tenant url' db' k payloads).1 := by
  induction payloads with
  | nil => intro k db db' _ _ _; exact .nil
  | cons payload payloads ih =>
    intro k db db' hf hf' hplaces
    rw [List.length_cons] at hf hf'
    obtain ⟨prop, d, _, hd, htaken, hfree, _, _, hids, hhas⟩ :=
      insertOne_spec tenant url hf (by omega) payload
    obtain ⟨prop', d', _, hd', htaken', hfree', _, _, hids', hhas'⟩ :=
      insertOne_spec tenant url' hf' (by omega) payload
    rw [show k + (payloads.length + 1) = k + 1 + payloads.length by omega] at hids hids'
    simp only [insertEach, hd, hd']
    refine .cons ?_ (ih hids hids' fun place => by rw [hhas, hhas', hplaces])
    have hsame : PlaceTakenAfter db tenant [] payload ↔ PlaceTakenAfter db' tenant [] payload := by
      simp only [PlaceTakenAfter, hplaces]
    by_cases hc : PlaceTakenAfter db tenant [] payload
    · rw [htaken hc, htaken' (hsame.mp hc)]
    · rw [hfree hc, hfree' fun h => hc (hsame.mpr h)]
      rfl

/-- Two URLs for the rows leave the same table exactly when they agree on the payloads that are accepted. -/
theorem insertEach_properties_eq_iff {url' : PropertyCreate → Option String} {payloads : List PropertyCreate}
    (hf : db.properties.NewKeys draw.id 0 payloads.length) :
    (insertEach draw tenant url db 0 payloads).2.properties =
      (insertEach draw tenant url' db 0 payloads).2.properties ↔
      ∀ before payload after, payloads = before ++ payload :: after →
      ¬ PlaceTakenAfter db tenant before payload →
        url payload = url' payload := by
  rw [← Nat.zero_add payloads.length] at hf
  rw [Table.ext_iff, rows_insertEach payloads hf, rows_insertEach payloads hf, List.append_cancel_left_eq]
  constructor
  · intro heq before payload after hsplit hfree
    have hmem := List.mem_of_getElem? ((insertEach_outcome tenant url payloads hf hsplit).2 hfree)
    rw [← List.reduceOption_mem_iff, heq, List.reduceOption_mem_iff] at hmem
    obtain ⟨before', payload', after', hsplit', hprop⟩ := mem_insertEach hf hmem
    have hid : draw.id (0 + before.length) = draw.id (0 + before'.length) := congrArg Property.id hprop
    have hlen := congrArg List.length hsplit
    have hlen' := congrArg List.length hsplit'
    simp only [List.length_append, List.length_cons] at hlen hlen'
    -- the drawn ids are different, so both rows are for the same payload
    have hpos : before.length = before'.length := by
      rcases Nat.lt_trichotomy before.length before'.length with hlt | heq | hlt
      · exact absurd hid (hf.inj _ _ (by omega) (by omega) (by omega))
      · exact heq
      · exact absurd hid.symm (hf.inj _ _ (by omega) (by omega) (by omega))
    obtain ⟨rfl, htail⟩ := List.append_inj (hsplit.symm.trans hsplit') hpos
    obtain ⟨rfl, rfl⟩ := List.cons.inj htail
    exact congrArg Property.googleMapsUrl hprop
  · intro hcond
    have hlists :
        (insertEach draw tenant url db 0 payloads).1 = (insertEach draw tenant url' db 0 payloads).1 := by
      refine List.ext_getElem? ?_
      intro j
      by_cases hlt : j < payloads.length
      · obtain ⟨before, payload, after, hsplit, rfl⟩ := split_at hlt
        obtain ⟨htaken, hfree⟩ := insertEach_outcome tenant url payloads hf hsplit
        obtain ⟨htaken', hfree'⟩ := insertEach_outcome tenant url' payloads hf hsplit
        by_cases hc : PlaceTakenAfter db tenant before payload
        · rw [htaken hc, htaken' hc]
        · rw [hfree hc, hfree' hc]
          unfold propertyFor
          rw [hcond _ _ _ hsplit hc]
      · rw [List.getElem?_eq_none (by rw [length_insertEach]; omega),
          List.getElem?_eq_none (by rw [length_insertEach]; omega)]
    rw [hlists]

/-! ### The two creations as INSERTs -/

/-- The result for the `i`-th item. -/
def bulkResult (i : Nat) : Option Property → BulkCreateResult
  | some prop => .created i prop prop.snapshot
  | none => .failed i duplicatePlaceIdDetail 409

/-- The INSERT of a row under a tenant that exists is refused for its place id or made. -/
theorem insertOne_cases (htenant : (db.tenants.find? tenant).isSome = true) (payload : PropertyCreate) :
    (insertOne draw tenant url db k payload = (none, db) ∧
      insertProperty db (propertyFor draw tenant url k payload) =
        .error (.integrityError "ux_properties_tenant_place")) ∨
    ∃ db', insertOne draw tenant url db k payload = (some (propertyFor draw tenant url k payload), db') ∧
      db'.tenants = db.tenants ∧ insertProperty db (propertyFor draw tenant url k payload) = .ok db' := by
  have hinsert := insertProperty_of_tenant (propertyFor draw tenant url k payload) htenant
  by_cases htaken : placeTaken db (propertyFor draw tenant url k payload) = true
  · left
    rw [if_pos htaken] at hinsert
    exact ⟨by simp only [insertOne, if_pos htaken], hinsert⟩
  · right
    rw [if_neg htaken] at hinsert
    refine ⟨{ db with properties := db.properties.insert (propertyFor draw tenant url k payload) }, ?_,
      rfl, hinsert⟩
    simp only [insertOne, if_neg htaken]

theorem createProperty_of_refused {draw : Draw} {ctx : RequestContext} {payload : PropertyCreate}
    {k : Nat} {db : Db} (hctx : tenantUuid ctx = .ok tenant)
    (hinsert :
      insertProperty db (propertyFor draw tenant PropertyCreate.googleMapsUrl k payload) = .error e) :
    createProperty db ctx (draw.from k) payload = .error (PropertyService.conflict e) := by
  simp only [createProperty, hctx, Fallible.ok_bind]
  rw [show insertProperty db
    (newProperty (draw.from k) 0 tenant payload.name payload.googlePlaceId payload.googleMapsUrl) =
    _ from hinsert]

theorem createProperty_of_stored {draw : Draw} {ctx : RequestContext} {payload : PropertyCreate} {k : Nat}
    {db db' : Db} (hctx : tenantUuid ctx = .ok tenant)
    (hinsert : insertProperty db (propertyFor draw tenant PropertyCreate.googleMapsUrl k payload) = .ok db') :
    createProperty db ctx (draw.from k) payload =
      .ok (propertyFor draw tenant PropertyCreate.googleMapsUrl k payload, db') := by
  simp only [createProperty, hctx, Fallible.ok_bind]
  rw [show insertProperty db
    (newProperty (draw.from k) 0 tenant payload.name payload.googlePlaceId payload.googleMapsUrl) =
    _ from hinsert]
  rfl

/-- `create_property` on each payload stores the URL of the payload. -/
theorem createEach_eq (draw : Draw) {ctx : RequestContext} (hctx : tenantUuid ctx = .ok tenant)
    (payloads : List PropertyCreate) :
    ∀ {k : Nat} {db : Db}, (db.tenants.find? tenant).isSome = true →
    createEach ctx draw db k payloads =
      .ok (insertEach draw tenant PropertyCreate.googleMapsUrl db k payloads) := by
  induction payloads with
  | nil => intro k db _; rfl
  | cons payload payloads ih =>
    intro k db htenant
    simp only [createEach, insertEach]
    rcases insertOne_cases htenant payload with ⟨hone, hinsert⟩ | ⟨db', hone, htenants, hinsert⟩
    · rw [createProperty_of_refused hctx hinsert, hone]
      simp only [PropertyService.conflict, if_true, ih htenant]
      rfl
    · rw [createProperty_of_stored hctx hinsert, hone]
      simp only [ih (htenants ▸ htenant)]
      rfl

theorem bulkCreateItem_of_taken {draw : Draw} {payload : PropertyCreate} {k : Nat} {db : Db}
    (hinsert : insertProperty db (propertyFor draw tenant (fun _ => none) k payload) =
      .error (.integrityError "ux_properties_tenant_place")) :
    bulkCreateItem tenant draw db k payload = (bulkResult k none, db) := by
  unfold bulkCreateItem
  dsimp only
  replace hinsert :
      insertProperty db (newProperty draw k tenant payload.name payload.googlePlaceId none) = _ := hinsert
  rw [hinsert]
  rfl

theorem bulkCreateItem_of_stored {draw : Draw} {payload : PropertyCreate} {k : Nat} {db db' : Db}
    (hinsert : insertProperty db (propertyFor draw tenant (fun _ => none) k payload) = .ok db') :
    bulkCreateItem tenant draw db k payload =
      (bulkResult k (some (propertyFor draw tenant (fun _ => none) k payload)), db') := by
  unfold bulkCreateItem
  dsimp only
  replace hinsert :
      insertProperty db (newProperty draw k tenant payload.name payload.googlePlaceId none) = _ := hinsert
  rw [hinsert]
  rfl

/-- `bulk_create_properties` stores no URL. -/
theorem bulkCreateFrom_eq (draw : Draw) (payloads : List PropertyCreate) : ∀ {k : Nat} {db : Db},
    (db.tenants.find? tenant).isSome = true →
    (bulkCreateFrom tenant draw db k payloads).2 = (insertEach draw tenant (fun _ => none) db k payloads).2 ∧
      List.Forall₂
        (fun r outcome => ∃ i, r = bulkResult i outcome) (bulkCreateFrom tenant draw db k payloads).1
        (insertEach draw tenant (fun _ => none) db k payloads).1 := by
  induction payloads with
  | nil => intro k db _; exact ⟨rfl, .nil⟩
  | cons payload payloads ih =>
    intro k db htenant
    simp only [bulkCreateFrom, insertEach]
    rcases insertOne_cases htenant payload with ⟨hone, hinsert⟩ | ⟨db', hone, htenants, hinsert⟩
    · rw [bulkCreateItem_of_taken hinsert, hone]
      obtain ⟨hdb, hresults⟩ := ih (k := k + 1) htenant
      exact ⟨hdb, .cons ⟨k, rfl⟩ hresults⟩
    · rw [bulkCreateItem_of_stored hinsert, hone]
      have htenant' : (db'.tenants.find? tenant).isSome = true := htenants ▸ htenant
      obtain ⟨hdb, hresults⟩ := ih (k := k + 1) htenant'
      exact ⟨hdb, .cons ⟨k, rfl⟩ hresults⟩

/-- The loop of the route reports every result and counts it once; it writes audit rows only. -/
theorem foldl_reportCreated (draw : Draw) (ipAddress : Option String) (ctx : RequestContext)
    {raw : List BulkCreateResult} {outcomes : List (Option Property)}
    (h : List.Forall₂ (fun r outcome => ∃ i, r = bulkResult i outcome) raw outcomes) :
    ∀ (acc : PropertyBulkCreateResponse × Db) {before : List (Option Property)},
    List.Forall₂ PropertyBulkCreateResultItem.Reports acc.1.results before →
    (raw.foldl (reportCreated draw ipAddress ctx) acc).2.properties = acc.2.properties ∧
      List.Forall₂ PropertyBulkCreateResultItem.Reports
        (raw.foldl (reportCreated draw ipAddress ctx) acc).1.results
        (before ++ outcomes) ∧
      (raw.foldl (reportCreated draw ipAddress ctx) acc).1.created +
          (raw.foldl (reportCreated draw ipAddress ctx) acc).1.failed =
        acc.1.created + acc.1.failed + outcomes.length := by
  induction h with
  | nil =>
    intro acc before hacc
    exact ⟨rfl, by simpa using hacc, rfl⟩
  | @cons r outcome raw outcomes hr _ ih =>
    intro acc before hacc
    obtain ⟨i, rfl⟩ := hr
    have hstep : (reportCreated draw ipAddress ctx acc (bulkResult i outcome)).2.properties =
        acc.2.properties ∧
        List.Forall₂ PropertyBulkCreateResultItem.Reports
          (reportCreated draw ipAddress ctx acc (bulkResult i outcome)).1.results (before ++ [outcome]) ∧
        (reportCreated draw ipAddress ctx acc (bulkResult i outcome)).1.created +
            (reportCreated draw ipAddress ctx acc (bulkResult i outcome)).1.failed =
          acc.1.created + acc.1.failed + 1 := by
      cases outcome with
      | none =>
        refine ⟨rfl, List.rel_append hacc (.cons ?_ .nil), by simp only [reportCreated, bulkResult]; omega⟩
        simp [PropertyBulkCreateResultItem.Reports]
      | some prop =>
        refine ⟨rfl, List.rel_append hacc (.cons ?_ .nil), by simp only [reportCreated, bulkResult]; omega⟩
        simp [PropertyBulkCreateResultItem.Reports]
    obtain ⟨h1, h2, h3⟩ := ih _ hstep.2.1
    refine ⟨h1.trans hstep.1, ?_, ?_⟩
    · rw [List.append_assoc] at h2
      exact h2
    · rw [List.length_cons]
      have := hstep.2.2
      simp only [List.foldl_cons]
      omega

/-- A report says which creations succeeded, not with which row. -/
theorem reports_congr {items : List PropertyBulkCreateResultItem}
    {outcomes outcomes' : List (Option Property)}
    (h : List.Forall₂ PropertyBulkCreateResultItem.Reports items outcomes)
    (hv : List.Forall₂ (fun outcome outcome' => outcome.isSome = outcome'.isSome) outcomes outcomes') :
    List.Forall₂ PropertyBulkCreateResultItem.Reports items outcomes' := by
  induction h generalizing outcomes' with
  | nil => cases hv; exact .nil
  | @cons item outcome items outcomes hr _ ih =>
    cases hv with
    | @cons _ outcome' _ _ he hv =>
      refine .cons ⟨hr.1.trans (by rw [he]), hr.2.trans ?_⟩ (ih hv)
      rw [← Option.not_isSome_iff_eq_none, ← Option.not_isSome_iff_eq_none, he]

/-- The bulk creation is the single one applied to each payload exactly when every payload with a Maps URL
finds its place id taken. -/
theorem bulkCreate_agrees_iff {ipAddress : Option String} {ctx : RequestContext}
    {payloads : List PropertyCreate} (hctx : tenantUuid ctx = .ok tenant)
    (htenant : (db.tenants.find? tenant).isSome = true)
    (hids : db.properties.NewKeys draw.id 0 payloads.length) :
    BulkCreateAgrees db draw ipAddress ctx payloads ↔
      ∀ before payload after, payloads = before ++ payload :: after → payload.googleMapsUrl.isSome = true →
        PlaceTakenAfter db tenant before payload := by
  obtain ⟨hdb, hresults⟩ := bulkCreateFrom_eq draw payloads (k := 0) htenant
  have heach := createEach_eq draw hctx payloads (k := 0) htenant
  obtain ⟨htable, hreports, hcount⟩ := foldl_reportCreated draw ipAddress ctx hresults
    (⟨0, 0, []⟩, (bulkCreateFrom tenant draw db 0 payloads).2) .nil
  have hbulk : bulkCreatePropertiesEndpoint db draw ipAddress ctx payloads =
      .ok ((bulkCreateFrom tenant draw db 0 payloads).1.foldl (reportCreated draw ipAddress ctx)
        (⟨0, 0, []⟩, (bulkCreateFrom tenant draw db 0 payloads).2)) := by
    unfold bulkCreatePropertiesEndpoint bulkCreateProperties
    rw [hctx]
    rfl
  rw [hdb] at htable hbulk hreports hcount
  have htables : BulkCreateAgrees db draw ipAddress ctx payloads ↔
      (insertEach draw tenant (fun _ => none) db 0 payloads).2.properties =
        (insertEach draw tenant PropertyCreate.googleMapsUrl db 0 payloads).2.properties := by
    constructor
    · rintro ⟨outcomes, single, response, bulk, hsingle, hcommitted, heq, _⟩
      have h1 := Except.ok.inj (heach.symm.trans hsingle)
      have h2 := Except.ok.inj (hbulk.symm.trans hcommitted)
      rw [h1, ← htable, h2]
      exact heq
    · intro heq
      refine ⟨_, _, _, _, heach, hbulk, htable.trans heq, ?_, ?_⟩
      · refine reports_congr hreports (insertEach_verdicts payloads ?_ ?_ fun _ => Iff.rfl)
        · rwa [Nat.zero_add]
        · rwa [Nat.zero_add]
      · rw [hcount, length_insertEach]
        show 0 + 0 + payloads.length = payloads.length
        omega
  rw [htables, insertEach_properties_eq_iff hids]
  constructor
  · intro h before payload after hsplit hurl
    by_contra hfree
    have := h before payload after hsplit hfree
    rw [← this] at hurl
    cases hurl
  · intro h before payload after hsplit hfree
    by_contra hne
    refine hfree (h before payload after hsplit ?_)
    exact Option.isSome_iff_ne_none.mpr fun hn => hne hn.symm

end

/-! ### A share link that the bulk route drops -/

namespace DroppedLink

def tenant : Tenant := ⟨.ofNat 1, "Acme"⟩

def db : Db := { Db.empty with tenants := Table.empty.insert tenant }

def ctx : RequestContext := ⟨(Uuid.ofNat 2).str, some tenant.id.str, .str "OWNER", false⟩

def draw : Draw where
  now := 0
  id := fun n => .ofNat (10 + n)
  auditId := fun n => .ofNat (20 + n)
  adminLogId := .ofNat 30
  iv := 0

/-- A property with the link that the share sheet gives. -/
def downtown : PropertyCreate := ⟨"Acme Coffee", none, some "https://maps.app.goo.gl/abcdef123456"⟩

/-- The single route stores the link, the bulk route does not. -/
theorem link_is_dropped : ¬ BulkCreateAgrees db draw none ctx [downtown] := by
  rintro ⟨outcomes, single, response, bulk, hsingle, hbulk, heq, -⟩
  have h1 : (single.properties.find? (.ofNat 10)).bind Property.googleMapsUrl =
      some "https://maps.app.goo.gl/abcdef123456" := by
    cases hsingle
    rfl
  have h2 : (bulk.properties.find? (.ofNat 10)).bind Property.googleMapsUrl = none := by
    cases hbulk
    rfl
  rw [heq, h1] at h2
  cases h2

/-- Two branches, the second with the place id of the first and a link. -/
def branches : List PropertyCreate :=
  [⟨"Acme Coffee", some "ChIJN1t_tDeuEmsR", none⟩,
    ⟨"Acme Coffee 2", some "ChIJN1t_tDeuEmsR", some "https://maps.app.goo.gl/abcdef123456"⟩]

theorem branches_agree_iff : BulkCreateAgrees db draw none ctx branches ↔
    ∀ before payload after, branches = before ++ payload :: after → payload.googleMapsUrl.isSome = true →
      PlaceTakenAfter db tenant.id before payload := by
  refine bulkCreate_agrees_iff ?_ rfl (by decide)
  simp [tenantUuid, ctx, coerceUuid]

end DroppedLink

end RatingLift
