import RatingLift.Connectors.CatalogueEffects

/-!
# The names of the catalogue

The service compares the requested name, lower-cased by Python, with the names of the live rows, lower-cased
by the database; the unique index compares the stored names, lower-cased by the database.  `create_connector`
makes the comparison before it strips the name, and nothing refuses a name that is empty once stripped.  A
request is `NameSafe` when the comparison finds every row that the index would find and the stored name is not
empty, or an order beyond its column makes the flush fail before.

* (`NameSafe.kept`) a safe request keeps the names sound and no unique index refuses it;
* (`nameSafe_of_sound`) a request that keeps the names sound and that no unique index refuses is safe;
* (`names_sound_iff`) the law over runs;
* (`SharedSlug.padded_refused`) a name that differs in white space only is refused by the index.
-/

namespace RatingLift

open Library Logos Fallible

/-- A request for one of the operations on names; the logo has operations of its own. -/
def CatalogueRequest.OnNames : CatalogueRequest → Prop
  | create _ _ none | update _ _ _ _ | delete _ _ | restore _ | seed _ => True
  | _ => False

section

variable (env : ConnectorEnv) (settings : Settings)

/-- Runs of the operations on names, one at a time. -/
abbrev NameRun :=
  Run (fun (w : MediaWorld) (request : CatalogueRequest) => some (w.commit (request.serve env settings w)))
    fun _ w request => request.Fresh w.db ∧ request.OnNames

/-- `_assert_unique_name` for `checked` finds no row besides the excluded one. -/
def NameUnseen (t : Table Connector) (checked : String) (excludeId : Option Uuid) : Prop :=
  ∀ c ∈ t, c.isDeleted = false → excludeId ≠ some c.id → env.pgLower c.name ≠ env.lower checked

/-- The index on `LOWER(name)` holds no live row of this name besides the excluded one. -/
def NameFree (t : Table Connector) (name : String) (excludeId : Option Uuid) : Prop :=
  ∀ c ∈ t, c.isDeleted = false → excludeId ≠ some c.id → env.pgLower c.name ≠ env.pgLower name

/-- `_assert_unique_logo_hash` finds no other row, or the row has no hash. -/
def HashUnseen (t : Table Connector) (row : Connector) : Prop :=
  ∀ digest, row.logoSha256 = some digest → digest ≠ "" →
    ∀ c ∈ t, c.isDeleted = false → c.id ≠ row.id → c.logoSha256 ≠ some digest

/-- The live names are stripped and not empty, and differ when lower-cased. -/
structure NamesSound (t : Table Connector) : Prop where
  stripped : ∀ c ∈ t, c.isDeleted = false → c.name ≠ "" ∧ Py.strip c.name = c.name
  distinct : ∀ a ∈ t, ∀ b ∈ t, a.isDeleted = false → b.isDeleted = false → a.id ≠ b.id →
    env.pgLower a.name ≠ env.pgLower b.name

/-- Where the order fits its column and the service's own comparison finds no row, the index finds none
either, and the name that is stored is not empty. -/
def NameSafe (t : Table Connector) : CatalogueRequest → Prop
  | .create _ name _ =>
    NameUnseen env t name none → NameFree env t (Py.strip name) none ∧ Py.strip name ≠ ""
  | .update id (some name) _ displayOrder =>
    ∀ c ∈ t, c.id = id → c.isDeleted = false → Py.strip name ≠ c.name →
      orderFits t { c with displayOrder := displayOrder.getD c.displayOrder } = true →
      NameUnseen env t (Py.strip name) (some id) → NameFree env t (Py.strip name) (some id) ∧
      Py.strip name ≠ ""
  | .restore id =>
    ∀ c ∈ t, c.id = id → c.isDeleted = true → HashUnseen t c → NameUnseen env t c.name (some id) →
      NameFree env t c.name (some id)
  | _ => True

/-- What the operations keep: deleted rows have sound names too, which a restore brings back. -/
structure NamesKept (t : Table Connector) : Prop where
  stripped : ∀ c ∈ t, c.name ≠ "" ∧ Py.strip c.name = c.name
  distinct : ∀ a ∈ t, ∀ b ∈ t, a.isDeleted = false → b.isDeleted = false → a.id ≠ b.id →
    env.pgLower a.name ≠ env.pgLower b.name
  indexes : IndexesHold env t
  hashes : ∀ c ∈ t, c.logoSha256 ≠ some ""

/-- The flush of one row: it is written, its order does not fit its column, or a unique index refuses it. -/
inductive Flushed (db : Db) (row : Connector) : Except Exn Db → Prop where
  | written {db' : Db} (h : Put env db.connectors db'.connectors row) : Flushed db row (.ok db')
  | overflowed (h : orderFits db.connectors row = false) : Flushed db row (.error .dataError)
  | refused (hfits : orderFits db.connectors row = true) (h : indexesAccept env db.connectors row = false) :
      Flushed db row (.error (.integrityError "connectors"))

end

section

variable {env : ConnectorEnv} {settings : Settings} {w : MediaWorld} {db : Db} {t t' : Table Connector}
variable {out : Except Exn Db}

theorem NamesKept.sound (h : NamesKept env t) : NamesSound env t :=
  ⟨fun c hc _ => h.stripped c hc, h.distinct⟩

/-! ### Flushes -/

theorem flushed_of_flush {c row : Connector} (hc : db.connectors.find? row.id = some c) :
    Flushed env db row (flushConnector env db row) := by
  cases hfits : orderFits db.connectors row with
  | false =>
    unfold flushConnector
    rw [hfits]
    exact .overflowed hfits
  | true =>
    cases hacc : indexesAccept env db.connectors row with
    | true =>
      rw [flushConnector_of_accept hfits hacc]
      exact .written ⟨Table.find?_update_found hc, hacc, hfits⟩
    | false =>
      unfold flushConnector
      rw [hfits, hacc]
      exact .refused hfits hacc

theorem flushed_of_add {row : Connector} (hfresh : db.connectors.Fresh row.id)
    (horder : row.displayOrder ≤ maxInteger) : Flushed env db row (addConnector env db row) := by
  have hnone : (db.connectors.find? row.id).isSome = false := by
    rw [Table.fresh_iff_find?.mp hfresh]
    rfl
  unfold addConnector
  rw [hnone]
  cases hacc : indexesAccept env db.connectors row with
  | true => exact .written ⟨Table.find?_insert_fresh hfresh, hacc, orderFits_of_le horder⟩
  | false => exact .refused (orderFits_of_le horder) hacc

theorem addConnector_ne_dataError (row : Connector) : addConnector env db row ≠ .error .dataError := by
  intro h
  unfold addConnector at h
  split at h
  · cases h
  · cases h

/-- No unique index on hashes refuses the row. -/
def HashAccepted (env : ConnectorEnv) (t : Table Connector) (row : Connector) : Prop :=
  ∀ c ∈ t, c.id ≠ row.id → sameHash c row = true →
    env.schema = .migrations ∧ (c.isDeleted = true ∨ row.isDeleted = true)

theorem accept_of_free {row : Connector}
    (hname : row.isDeleted = false → NameFree env t row.name (some row.id)) (hhash : HashAccepted env t row) :
    indexesAccept env t row = true := by
  rw [indexesAccept_iff]
  intro c hc hne
  have hids : some row.id ≠ some c.id := fun h => hne (Option.some.inj h).symm
  unfold conflict
  cases hschema : env.schema with
  | metadata =>
    by_contra hsame
    have hmigrated := (hhash c hc hne (by simpa using hsame)).1
    exact absurd (hschema.symm.trans hmigrated) nofun
  | migrations =>
    cases hrow : row.isDeleted with
    | true => simp
    | false =>
      cases hlive : c.isDeleted with
      | true => simp
      | false =>
        have hdiffer := hname hrow c hc hlive hids
        have hsame : sameHash c row = false := by
          by_contra hsame
          have hdead := (hhash c hc hne (by simpa using hsame)).2
          rw [hlive, hrow] at hdead
          exact absurd hdead nofun
        simp [hdiffer, hsame]

/-- A row whose order fits and that no index refuses is written, and with a sound name it keeps what the
operations keep. -/
theorem Flushed.kept {row : Connector} (h : Flushed env db row out) (hkept : NamesKept env db.connectors)
    (hname : row.name ≠ "" ∧ Py.strip row.name = row.name)
    (hfree : row.isDeleted = false → NameFree env db.connectors row.name (some row.id))
    (hhash : HashAccepted env db.connectors row) (hsome : row.logoSha256 ≠ some "") :
    out = .error .dataError ∨ ∃ db', out = .ok db' ∧ NamesKept env db'.connectors := by
  cases h with
  | overflowed _ => exact Or.inl rfl
  | refused _ hno => exact absurd ((accept_of_free hfree hhash).symm.trans hno) nofun
  | @written db' hput =>
    refine Or.inr ⟨db', rfl, ?_, ?_, hput.indexes hkept.indexes, ?_⟩
    · intro c hc
      rcases hput.mem_iff.mp hc with rfl | ⟨hc, _⟩
      · exact hname
      · exact hkept.stripped c hc
    · intro a ha b hb hliveA hliveB hne
      rcases hput.mem_iff.mp ha with rfl | ⟨ha, hneA⟩
      · rcases hput.mem_iff.mp hb with rfl | ⟨hb, hneB⟩
        · exact absurd rfl hne
        · exact (hfree hliveA b hb hliveB (by simpa using hne)).symm
      · rcases hput.mem_iff.mp hb with rfl | ⟨hb, hneB⟩
        · exact hfree hliveB a ha hliveA (by simpa using hne.symm)
        · exact hkept.distinct a ha b hb hliveA hliveB hne
    · intro c hc
      rcases hput.mem_iff.mp hc with rfl | ⟨hc, _⟩
      · exact hsome
      · exact hkept.hashes c hc

theorem Flushed.dataError {row : Connector} (h : Flushed env db row out)
    (hfits : orderFits db.connectors row = false) :
    out = .error .dataError := by
  cases h with
  | overflowed _ => rfl
  | refused hyes _ => exact absurd (hyes.symm.trans hfits) nofun
  | written hput => exact absurd (hput.fits.symm.trans hfits) nofun

/-- A live row that is written into sound names had a name that was free. -/
theorem Flushed.free {row : Connector} (h : Flushed env db row out) (hlive : row.isDeleted = false)
    (hfits : orderFits db.connectors row = true) (hout : out ≠ .error (.integrityError "connectors"))
    (hsound : ∀ db', out = .ok db' → NamesSound env db'.connectors) :
    NameFree env db.connectors row.name (some row.id) ∧ row.name ≠ "" := by
  cases h with
  | overflowed hno => exact absurd (hfits.symm.trans hno) nofun
  | refused _ _ => exact absurd rfl hout
  | @written db' hput =>
    have hsound := hsound db' rfl
    have hrow : row ∈ db'.connectors := hput.mem_iff.mpr (Or.inl rfl)
    refine ⟨?_, (hsound.stripped row hrow hlive).1⟩
    intro c hc hliveC hne
    have hids : c.id ≠ row.id := fun h => hne (congrArg some h.symm)
    exact hsound.distinct c (hput.mem_iff.mpr (Or.inr ⟨hc, hids⟩)) row hrow hliveC hlive hids

/-- A row without a hash. -/
theorem hashAccepted_of_none {row : Connector} (h : row.logoSha256 = none) : HashAccepted env t row := by
  intro c _ _ hsame
  have hsome : c.logoSha256 ≠ none ∧ c.logoSha256 = row.logoSha256 := by simpa [sameHash] using hsame
  exact absurd (hsome.2.trans h) hsome.1

/-- A row that keeps the hash of a stored one and is no more alive. -/
theorem hashAccepted_of_stored {c row : Connector} (h : IndexesHold env t) (hc : c ∈ t) (hid : row.id = c.id)
    (hhash : row.logoSha256 = c.logoSha256) (hlive : row.isDeleted = false → c.isDeleted = false) :
    HashAccepted env t row := by
  intro x hx hne hsame
  have hno := h x hx c hc (hid ▸ hne)
  have hsame : sameHash x c = true := by
    unfold sameHash at hsame ⊢
    rwa [← hhash]
  unfold conflict at hno
  cases hschema : env.schema with
  | metadata =>
    rw [hschema] at hno
    exact absurd (hsame.symm.trans hno) nofun
  | migrations =>
    rw [hschema] at hno
    refine ⟨rfl, ?_⟩
    cases hrow : row.isDeleted with
    | true => exact Or.inr rfl
    | false =>
      rw [hsame, hlive hrow] at hno
      exact Or.inl (by simpa using hno)

/-- A deleted row with a hash that the service does not find, which a restore brings back. -/
theorem HashUnseen.accepted {c : Connector} (h : HashUnseen t c) (hkept : NamesKept env t) (hc : c ∈ t) :
    HashAccepted env t { c with isDeleted := false, deletedAt := none } := by
  intro x hx hne hsame
  have hhash : x.logoSha256 ≠ none ∧ x.logoSha256 = c.logoSha256 := by simpa [sameHash] using hsame
  obtain ⟨digest, hdigest⟩ := Option.ne_none_iff_exists'.mp hhash.1
  have hcdigest : c.logoSha256 = some digest := hhash.2.symm.trans hdigest
  cases hlive : x.isDeleted with
  | false =>
    refine absurd hdigest (h digest hcdigest ?_ x hx hlive hne)
    rintro rfl
    exact hkept.hashes c hc hcdigest
  | true =>
    cases hschema : env.schema with
    | migrations => exact ⟨rfl, Or.inl rfl⟩
    | metadata =>
      have hno := hkept.indexes x hx c hc hne
      unfold conflict at hno
      rw [hschema] at hno
      exact absurd ((show sameHash x c = true from hsame).symm.trans hno) nofun

/-! ### What the operations come to -/

/-- The operation is refused with an HTTP error. -/
def Rejected (out : Except Exn Db) : Prop := ∃ status detail, out = .error (.http status detail)

theorem assertUniqueName_ok {name : String} {excludeId : Option Uuid} :
    assertUniqueName env db name excludeId = .ok () ↔ NameUnseen env db.connectors name excludeId := by
  unfold assertUniqueName NameUnseen
  cases hfirst : db.connectors.first fun c =>
      !c.isDeleted && env.pgLower c.name == env.lower name && excludeId.all (c.id != ·) with
  | none =>
    rw [Table.first_eq_none] at hfirst
    simp only [true_iff]
    intro c hc hlive hne heq
    have hf := hfirst c hc
    cases excludeId with
    | none => simp [hlive, heq] at hf
    | some id =>
      have hid : c.id ≠ id := fun h => hne (congrArg some h.symm)
      simp [hlive, heq, hid] at hf
  | some c =>
    obtain ⟨hc, hp⟩ := Table.first_some hfirst
    simp only [Bool.and_eq_true, Bool.not_eq_true', beq_iff_eq] at hp
    obtain ⟨⟨hlive, heq⟩, hexcl⟩ := hp
    refine iff_of_false nofun fun h => h c hc hlive ?_ heq
    rintro rfl
    simp at hexcl

theorem assertUniqueName_error {name : String} {excludeId : Option Uuid}
    (h : ¬ NameUnseen env db.connectors name excludeId) :
    ∃ detail, assertUniqueName env db name excludeId = .error (.http 409 detail) := by
  rw [← assertUniqueName_ok] at h
  unfold assertUniqueName at h ⊢
  split
  · rename_i hnone
    rw [hnone] at h
    exact absurd rfl h
  · exact ⟨_, rfl⟩

theorem create_outcome (settings : Settings) {id : Uuid} (name : String) (hfresh : w.db.connectors.Fresh id) :
    (NameUnseen env w.db.connectors name none ∧
      Flushed env w.db (newConnector id (Py.strip name)) (createWithLogo env settings w id name none).2) ∨
    (¬ NameUnseen env w.db.connectors name none ∧
      Rejected (createWithLogo env settings w id name none).2) := by
  by_cases hunseen : NameUnseen env w.db.connectors name none
  · refine Or.inl ⟨hunseen, ?_⟩
    have hflush : Flushed env w.db (newConnector id (Py.strip name))
        (addConnector env w.db (newConnector id (Py.strip name))) := flushed_of_add hfresh (Nat.zero_le _)
    have hcreate : createConnector env w.db id name none =
        (addConnector env w.db (newConnector id (Py.strip name)) >>= fun db =>
          pure (newConnector id (Py.strip name), db)) := by
      unfold createConnector
      rw [assertUniqueName_ok.mpr hunseen]
      rfl
    unfold createWithLogo
    rw [hcreate]
    cases hadd : addConnector env w.db (newConnector id (Py.strip name)) with
    | ok db =>
      rw [hadd] at hflush
      exact hflush
    | error e =>
      rw [hadd] at hflush
      exact hflush
  · obtain ⟨detail, hcheck⟩ := assertUniqueName_error hunseen
    refine Or.inr ⟨hunseen, 409, detail, ?_⟩
    unfold createWithLogo createConnector
    rw [hcheck]
    rfl

/-- A route on a live row is served on it, or rejected where there is none. -/
theorem onLive_outcome (id : Uuid) (route : Connector → Storage × Except Exn Db) :
    (∃ c, c.id = id ∧ w.db.connectors.find? c.id = some c ∧ c.isDeleted = false ∧
      (w.onLive id route).2 = (route c).2) ∨
    ((∀ c ∈ w.db.connectors, c.id = id → c.isDeleted = true) ∧ Rejected (w.onLive id route).2) := by
  cases hget : getConnectorOr404 w.db id with
  | ok c =>
    obtain ⟨hid, hc, hlive⟩ := getConnectorOr404_live hget
    refine Or.inl ⟨c, hid, hc, hlive, ?_⟩
    unfold MediaWorld.onLive
    rw [hget]
  | error e =>
    refine Or.inr ?_
    unfold MediaWorld.onLive
    rw [hget]
    unfold getConnectorOr404 at hget
    split at hget
    · rename_i hnone
      cases hget
      refine ⟨?_, 404, _, rfl⟩
      intro c hc hid
      have := Table.first_eq_none.mp hnone c hc
      simpa [hid] using this
    · cases hget

theorem applyName_same (storage : Storage) {c : Connector} {name : Option String}
    (h : ∀ n, name = some n → Py.strip n = c.name) : applyName env db storage c name = .ok (storage, c) := by
  cases name with
  | none => rfl
  | some n =>
    unfold applyName
    dsimp only [Option.map_some]
    rw [if_pos (h n rfl)]

theorem applyName_changed (storage : Storage) {c : Connector} {n : String} (hne : Py.strip n ≠ c.name)
    (hunseen : NameUnseen env db.connectors (Py.strip n) (some c.id)) :
    ∃ storage' row, applyName env db storage c (some n) = .ok (storage', row) ∧ SameRow c row ∧
      row.name = Py.strip n ∧ row.displayOrder = c.displayOrder := by
  unfold applyName
  dsimp only [Option.map_some]
  rw [if_neg hne, assertUniqueName_ok.mpr hunseen]
  unfold renameLogoToMatchName
  dsimp only [ok_bind]
  split
  · exact ⟨_, _, rfl, ⟨rfl, rfl, rfl, rfl⟩, rfl, rfl⟩
  · exact ⟨_, _, rfl, ⟨rfl, rfl, rfl, rfl⟩, rfl, rfl⟩

theorem applyName_refused (storage : Storage) {c : Connector} {n : String} (hne : Py.strip n ≠ c.name)
    (hseen : ¬ NameUnseen env db.connectors (Py.strip n) (some c.id)) :
    ∃ detail, applyName env db storage c (some n) = .error (.http 409 detail) := by
  obtain ⟨detail, hcheck⟩ := assertUniqueName_error hseen
  refine ⟨detail, ?_⟩
  unfold applyName
  dsimp only [Option.map_some]
  rw [if_neg hne, hcheck]
  rfl

/-- The row of an update, with the name that it settles on, is flushed. -/
structure UpdateFlushed (env : ConnectorEnv) (db : Db) (c : Connector) (name : String)
    (displayOrder : Option Nat) (out : Except Exn Db) : Prop where
  flushed : ∃ row, SameRow c row ∧ row.name = name ∧ row.displayOrder = displayOrder.getD c.displayOrder ∧
    Flushed env db row out

/-- Once the name is settled the row is flushed. -/
theorem update_flushed {storage storage' : Storage} {c row : Connector} {name : Option String}
    {isActive : Option Bool} {displayOrder : Option Nat} (hc : db.connectors.find? c.id = some c)
    (happly : applyName env db storage c name = .ok (storage', row)) (hsame : SameRow c row)
    (horder : row.displayOrder = c.displayOrder) :
    UpdateFlushed env db c row.name displayOrder
      (updateConnectorMaster env db storage c name none isActive (displayOrder.map Int.ofNat)).2 := by
  refine ⟨{ row with
      isActive := isActive.getD row.isActive
      displayOrder := displayOrder.getD row.displayOrder },
    ⟨hsame.id, hsame.isDeleted, hsame.deletedAt, hsame.logoSha256⟩, rfl, by rw [horder], ?_⟩
  unfold updateConnectorMaster
  rw [happly]
  dsimp only
  rw [applyAttributes_eq]
  rw [← hsame.id] at hc
  exact flushed_of_flush hc

theorem update_outcome {storage : Storage} {c : Connector} (hc : db.connectors.find? c.id = some c)
    (name : Option String) (isActive : Option Bool) (displayOrder : Option Nat) :
    ((∀ n, name = some n → Py.strip n = c.name) ∧ UpdateFlushed env db c c.name displayOrder
      (updateConnectorMaster env db storage c name none isActive (displayOrder.map Int.ofNat)).2) ∨
    ∃ n, name = some n ∧ Py.strip n ≠ c.name ∧
      ((NameUnseen env db.connectors (Py.strip n) (some c.id) ∧
        UpdateFlushed env db c (Py.strip n) displayOrder
            (updateConnectorMaster env db storage c name none isActive (displayOrder.map Int.ofNat)).2) ∨
        (¬ NameUnseen env db.connectors (Py.strip n) (some c.id) ∧
          Rejected
            (updateConnectorMaster env db storage c name none isActive (displayOrder.map Int.ofNat)).2)) := by
  by_cases hsameName : ∀ n, name = some n → Py.strip n = c.name
  · exact Or.inl ⟨hsameName, update_flushed hc (applyName_same storage hsameName) ⟨rfl, rfl, rfl, rfl⟩ rfl⟩
  · push Not at hsameName
    obtain ⟨n, rfl, hne⟩ := hsameName
    refine Or.inr ⟨n, rfl, hne, ?_⟩
    by_cases hunseen : NameUnseen env db.connectors (Py.strip n) (some c.id)
    · obtain ⟨storage', row, happly, hsame, hname, horder⟩ := applyName_changed storage hne hunseen
      exact Or.inl ⟨hunseen, hname ▸ update_flushed hc happly hsame horder⟩
    · obtain ⟨detail, happly⟩ := applyName_refused storage hne hunseen
      refine Or.inr ⟨hunseen, 409, detail, ?_⟩
      unfold updateConnectorMaster
      rw [happly]

theorem delete_outcome (now : Instant) {c : Connector} (hc : db.connectors.find? c.id = some c)
    (hlive : c.isDeleted = false) :
    Flushed env db { c with isDeleted := true, deletedAt := some now, isActive := false }
      (softDeleteConnector env db now c) ∨ Rejected (softDeleteConnector env db now c) := by
  unfold softDeleteConnector
  rw [if_neg (by simp [hlive])]
  dsimp only
  split
  · exact Or.inr ⟨409, _, rfl⟩
  · exact Or.inl (flushed_of_flush hc)

/-- The check of a hash passes when no other live row has it. -/
theorem assertUniqueLogoHash_ok {digest : String} {id : Uuid} :
    assertUniqueLogoHash db digest (some id) = .ok () ↔
    ∀ c ∈ db.connectors, c.isDeleted = false → c.id ≠ id → c.logoSha256 ≠ some digest := by
  unfold assertUniqueLogoHash
  cases hfirst : db.connectors.first fun c =>
      !c.isDeleted && c.logoSha256 == some digest && (some id).all (c.id != ·) with
  | none =>
    rw [Table.first_eq_none] at hfirst
    refine iff_of_true rfl ?_
    intro c hc hlive hne heq
    have := hfirst c hc
    simp [hlive, heq, hne] at this
  | some c =>
    obtain ⟨hc, hp⟩ := Table.first_some hfirst
    have hp : (c.isDeleted = false ∧ c.logoSha256 = some digest) ∧ c.id ≠ id := by simpa using hp
    refine iff_of_false nofun ?_
    intro h
    exact h c hc hp.1.1 hp.2 hp.1.2

theorem hashUnseen_iff {c : Connector} : HashUnseen db.connectors c ↔
    ∀ digest, c.logoSha256.filter (· ≠ "") = some digest →
    assertUniqueLogoHash db digest (some c.id) = .ok () := by
  refine forall_congr' ?_
  intro digest
  rw [Option.filter_eq_some_iff, and_imp]
  exact imp_congr_right fun _ => imp_congr (by simp) assertUniqueLogoHash_ok.symm

theorem assertUniqueLogoHash_cases (digest : String) (excludeId : Option Uuid) :
    assertUniqueLogoHash db digest excludeId = .ok () ∨
      ∃ detail, assertUniqueLogoHash db digest excludeId = .error (.http 409 detail) := by
  unfold assertUniqueLogoHash
  split
  · exact Or.inl rfl
  · exact Or.inr ⟨_, rfl⟩

theorem restore_outcome {c : Connector} (hc : db.connectors.find? c.id = some c) :
    (c.isDeleted = true ∧ HashUnseen db.connectors c ∧ NameUnseen env db.connectors c.name (some c.id) ∧
      Flushed env db { c with isDeleted := false, deletedAt := none } (restoreConnector env db c)) ∨
    (¬ (c.isDeleted = true ∧ HashUnseen db.connectors c ∧ NameUnseen env db.connectors c.name (some c.id)) ∧
      Rejected (restoreConnector env db c)) := by
  unfold restoreConnector
  cases hdeleted : c.isDeleted with
  | false => exact Or.inr ⟨fun h => absurd h.1 nofun, 409, _, rfl⟩
  | true =>
    by_cases hunseen : NameUnseen env db.connectors c.name (some c.id)
    · rw [assertUniqueName_ok.mpr hunseen]
      cases hhash : c.logoSha256.filter (· ≠ "") with
      | none =>
        have hfree : HashUnseen db.connectors c := by
          rw [hashUnseen_iff, hhash]
          exact nofun
        exact Or.inl ⟨rfl, hfree, hunseen, flushed_of_flush hc⟩
      | some digest =>
        rcases assertUniqueLogoHash_cases digest (some c.id) with hcheck | ⟨detail, hcheck⟩
        · have hfree : HashUnseen db.connectors c := by
            rw [hashUnseen_iff, hhash]
            rintro _ ⟨⟩
            exact hcheck
          refine Or.inl ⟨rfl, hfree, hunseen, ?_⟩
          show Flushed env db _ (assertUniqueLogoHash db digest (some c.id) >>=
            fun _ => flushConnector env db _)
          rw [hcheck]
          exact flushed_of_flush hc
        · refine Or.inr ⟨?_, 409, detail, ?_⟩
          · intro h
            rw [hashUnseen_iff, hhash] at h
            rw [h.2.1 digest rfl] at hcheck
            cases hcheck
          · show (assertUniqueLogoHash db digest (some c.id) >>= fun _ => flushConnector env db _) = _
            rw [hcheck]
            rfl
    · obtain ⟨detail, hcheck⟩ := assertUniqueName_error hunseen
      rw [hcheck]
      exact Or.inr ⟨fun h => hunseen h.2.2, 409, detail, rfl⟩

/-! ### One request -/

/-- An operation that was served kept the names sound, and any other was rejected, or its order did not
fit. -/
def KeptOrRejected (env : ConnectorEnv) (out : Except Exn Db) : Prop :=
  Rejected out ∨ out = .error .dataError ∨ ∃ db', out = .ok db' ∧ NamesKept env db'.connectors

theorem seedConnector_kept {id : Uuid} {name : String} (hname : name ≠ "" ∧ Py.strip name = name)
    (hlower : env.pgLower name = env.lower name) (hfresh : db.connectors.Fresh id)
    (hkept : NamesKept env db.connectors) :
    ∃ db', seedConnector env db id name = .ok db' ∧ NamesKept env db'.connectors := by
  unfold seedConnector
  split
  · exact ⟨db, rfl, hkept⟩
  · rename_i hnone
    have hflush : Flushed env db (newConnector id name) (addConnector env db (newConnector id name)) :=
      flushed_of_add hfresh (Nat.zero_le _)
    refine (hflush.kept hkept hname ?_ (hashAccepted_of_none rfl) nofun).resolve_left
      (addConnector_ne_dataError _)
    intro _ c hc _ _ heq
    have := Table.first_eq_none.mp hnone c hc
    have heq : env.pgLower c.name = env.lower name := heq.trans hlower
    simp [heq] at this

theorem seedConnectorsFrom_kept {id : Nat → Uuid} (names : List String) : ∀ {db : Db} {n : Nat},
    (∀ name ∈ names, (name ≠ "" ∧ Py.strip name = name) ∧ env.pgLower name = env.lower name) →
    db.connectors.NewKeys id n (n + names.length) → NamesKept env db.connectors →
    ∃ db', seedConnectorsFrom env id db n names = .ok db' ∧ NamesKept env db'.connectors := by
  induction names with
  | nil => exact fun _ _ hkept => ⟨_, rfl, hkept⟩
  | cons name names ih =>
    intro db n hnames hnew hkept
    obtain ⟨hname, hlower⟩ := hnames name List.mem_cons_self
    have hfresh : db.connectors.Fresh (id n) := hnew.head (by simp)
    obtain ⟨db₁, hseed, hkept₁⟩ := seedConnector_kept hname hlower hfresh hkept
    have hnew₁ : db₁.connectors.NewKeys id (n + 1) (n + 1 + names.length) := by
      rw [show n + 1 + names.length = n + (name :: names).length by simp; omega]
      unfold seedConnector at hseed
      split at hseed
      · cases hseed
        exact hnew.tail
      · obtain ⟨_, _, rfl⟩ := addConnector_ok hseed
        exact hnew.insert rfl
    obtain ⟨db₂, hrest, hkept₂⟩ := ih (fun x hx => hnames x (List.mem_cons_of_mem _ hx)) hnew₁ hkept₁
    refine ⟨db₂, ?_, hkept₂⟩
    unfold seedConnectorsFrom
    rw [hseed]
    exact hrest

theorem defaultConnectors_stripped : ∀ name ∈ defaultConnectors, name ≠ "" ∧ Py.strip name = name := by decide

/-- The database and Python lower-case the names of the default connectors alike. -/
def DefaultsLowered (env : ConnectorEnv) : Prop :=
  ∀ name ∈ defaultConnectors, env.pgLower name = env.lower name

theorem SameRow.accepted (hkept : NamesKept env db.connectors) {c row : Connector} (h : SameRow c row)
    (hc : c ∈ db.connectors) : HashAccepted env db.connectors row ∧ row.logoSha256 ≠ some "" := by
  refine ⟨hashAccepted_of_stored hkept.indexes hc h.id h.logoSha256 fun hlive => h.isDeleted ▸ hlive, ?_⟩
  rw [h.logoSha256]
  exact hkept.hashes c hc

/-- A live row under the name it has. -/
theorem NamesKept.free (hkept : NamesKept env t) {c : Connector} (hc : c ∈ t) (hlive : c.isDeleted = false) :
    NameFree env t c.name (some c.id) := by
  intro x hx hliveX hne
  exact hkept.distinct x hx c hc hliveX hlive fun h => hne (congrArg some h.symm)

theorem NamesKept.update (hkept : NamesKept env w.db.connectors) {id : Uuid} {name : Option String}
    {isActive : Option Bool} {displayOrder : Option Nat}
    (hsafe : NameSafe env w.db.connectors (.update id name isActive displayOrder)) :
    KeptOrRejected env ((CatalogueRequest.update id name isActive displayOrder).serve env settings w).2 := by
  rcases onLive_outcome (w := w) id (fun row =>
      updateConnectorMaster env w.db w.storage row name none isActive (displayOrder.map Int.ofNat)) with
    ⟨c, rfl, hc, hlive, hout⟩ | ⟨_, hrejected⟩
  · have hmem : c ∈ w.db.connectors := Table.mem_iff_find?.mpr hc
    show KeptOrRejected env (w.onLive c.id _).2
    rw [hout]
    rcases update_outcome hc name isActive displayOrder with ⟨_, row, hsame, hname, _, hflush⟩ |
      ⟨n, rfl, hne, ⟨hunseen, row, hsame, hname, horder, hflush⟩ | ⟨_, hrejected⟩⟩
    · obtain ⟨hhash, hsome⟩ := hsame.accepted hkept hmem
      refine Or.inr (hflush.kept hkept (hname ▸ hkept.stripped c hmem) ?_ hhash hsome)
      intro _
      rw [hname, hsame.id]
      exact hkept.free hmem hlive
    · obtain ⟨hhash, hsome⟩ := hsame.accepted hkept hmem
      have hfits : orderFits w.db.connectors row =
          orderFits w.db.connectors { c with displayOrder := displayOrder.getD c.displayOrder } :=
        orderFits_congr hsame.id horder
      cases hrow : orderFits w.db.connectors row with
      | false => exact Or.inr (Or.inl (hflush.dataError hrow))
      | true =>
        obtain ⟨hfree, hnonempty⟩ := hsafe c hmem rfl hlive hne (hfits.symm.trans hrow) hunseen
        rw [← hname] at hfree hnonempty
        rw [← hsame.id] at hfree
        exact Or.inr (hflush.kept hkept ⟨hnonempty, by rw [hname, Py.strip_strip]⟩
          (fun _ => hfree) hhash hsome)
    · exact Or.inl hrejected
  · exact Or.inl hrejected

theorem NamesKept.delete (hkept : NamesKept env w.db.connectors) (id : Uuid) (now : Instant) :
    KeptOrRejected env ((CatalogueRequest.delete id now).serve env settings w).2 := by
  rcases onLive_outcome (w := w) id (fun row => (w.storage, softDeleteConnector env w.db now row)) with
    ⟨c, rfl, hc, hlive, hout⟩ | ⟨_, hrejected⟩
  · have hmem : c ∈ w.db.connectors := Table.mem_iff_find?.mpr hc
    show KeptOrRejected env (w.onLive c.id _).2
    rw [hout]
    rcases delete_outcome now hc hlive with hflush | hrejected
    · refine Or.inr (hflush.kept hkept (hkept.stripped c hmem) nofun ?_ (hkept.hashes c hmem))
      exact hashAccepted_of_stored hkept.indexes hmem rfl rfl nofun
    · exact Or.inl hrejected
  · exact Or.inl hrejected

theorem getConnectorIncludingDeletedOr404_cases (db : Db) (id : Uuid) :
    (∃ c, c.id = id ∧ db.connectors.find? c.id = some c ∧ getConnectorIncludingDeletedOr404 db id = .ok c) ∨
      (db.connectors.find? id = none ∧ ∃ detail,
        getConnectorIncludingDeletedOr404 db id = .error (.http 404 detail)) := by
  unfold getConnectorIncludingDeletedOr404
  split
  · rename_i hnone
    refine Or.inr ⟨?_, _, rfl⟩
    rw [Table.find?_eq_none]
    intro c hc
    have := Table.first_eq_none.mp hnone c hc
    exact of_decide_eq_false this
  · rename_i c hc
    obtain ⟨hmem, hid⟩ := Table.first_some hc
    exact Or.inl ⟨c, by simpa using hid, Table.mem_iff_find?.mp hmem, rfl⟩

theorem NamesKept.restore (hkept : NamesKept env w.db.connectors) {id : Uuid}
    (hsafe : NameSafe env w.db.connectors (.restore id)) :
    KeptOrRejected env ((CatalogueRequest.restore id).serve env settings w).2 := by
  show KeptOrRejected env (getConnectorIncludingDeletedOr404 w.db id >>= restoreConnector env w.db)
  rcases getConnectorIncludingDeletedOr404_cases w.db id with ⟨c, rfl, hc, hget⟩ | ⟨_, detail, hget⟩
  · rw [hget]
    have hmem : c ∈ w.db.connectors := Table.mem_iff_find?.mpr hc
    rcases restore_outcome hc with ⟨hdeleted, hhash, hunseen, hflush⟩ | ⟨_, hrejected⟩
    · have hfree := hsafe c hmem rfl hdeleted hhash hunseen
      refine Or.inr (hflush.kept hkept (hkept.stripped c hmem) (fun _ => hfree) ?_ (hkept.hashes c hmem))
      exact hhash.accepted hkept hmem
    · exact Or.inl hrejected
  · rw [hget]
    exact Or.inl ⟨404, detail, rfl⟩

/-- A safe operation keeps the names sound, and no unique index refuses it. -/
theorem NameSafe.kept (settings : Settings) {r : CatalogueRequest} (hdefaults : DefaultsLowered env)
    (hkept : NamesKept env w.db.connectors) (hfresh : r.Fresh w.db) (hon : r.OnNames)
    (hsafe : NameSafe env w.db.connectors r) :
    KeptOrRejected env (r.serve env settings w).2 := by
  cases r with
  | create id name file =>
    cases file with
    | some file => exact hon.elim
    | none =>
      rcases create_outcome settings name hfresh with ⟨hunseen, hflush⟩ | ⟨_, hrejected⟩
      · obtain ⟨hfree, hnonempty⟩ := hsafe hunseen
        refine Or.inr (hflush.kept hkept ⟨hnonempty, Py.strip_strip name⟩ ?_ (hashAccepted_of_none rfl) nofun)
        exact fun _ c hc hlive _ => hfree c hc hlive nofun
      · exact Or.inl hrejected
  | update id name isActive displayOrder => exact hkept.update hsafe
  | delete id now => exact hkept.delete id now
  | restore id => exact hkept.restore hsafe
  | seed id =>
    have hnew : w.db.connectors.NewKeys id 0 defaultConnectors.length := hfresh
    rw [← Nat.zero_add defaultConnectors.length] at hnew
    refine Or.inr (Or.inr (seedConnectorsFrom_kept defaultConnectors ?_ hnew hkept))
    exact fun name hname => ⟨defaultConnectors_stripped name hname, hdefaults name hname⟩
  | activate _ | deactivate _ | reorder _ | uploadLogo _ _ | clearLogo _ => exact hon.elim

/-- The operation leaves the names sound, and no unique index refuses it. -/
def NamesStaySound (env : ConnectorEnv) (settings : Settings) (w : MediaWorld)
    (r : CatalogueRequest) : Prop :=
  NamesSound env (w.commit (r.serve env settings w)).db.connectors ∧
    (r.serve env settings w).2 ≠ .error (.integrityError "connectors")

theorem KeptOrRejected.staySound {r : CatalogueRequest} (h : KeptOrRejected env (r.serve env settings w).2)
    (hkept : NamesKept env w.db.connectors) :
    NamesKept env (w.commit (r.serve env settings w)).db.connectors ∧ NamesStaySound env settings w r := by
  unfold NamesStaySound
  rcases hserve : r.serve env settings w with ⟨storage, out⟩
  rw [hserve] at h
  rcases h with ⟨status, detail, hout⟩ | hout | ⟨db', hout, hkept'⟩
  · obtain rfl : out = _ := hout
    exact ⟨hkept, hkept.sound, nofun⟩
  · obtain rfl : out = _ := hout
    exact ⟨hkept, hkept.sound, nofun⟩
  · obtain rfl : out = _ := hout
    exact ⟨hkept', hkept'.sound, nofun⟩

theorem NamesStaySound.committed {r : CatalogueRequest} (h : NamesStaySound env settings w r) {db' : Db}
    (hout : (r.serve env settings w).2 = .ok db') : NamesSound env db'.connectors := by
  have hsound := h.1
  rcases hserve : r.serve env settings w with ⟨storage, out⟩
  rw [hserve] at hout hsound
  obtain rfl : out = .ok db' := hout
  exact hsound

/-- An operation that keeps the names sound and that no unique index refuses was safe. -/
theorem nameSafe_of_sound {r : CatalogueRequest} (hfresh : r.Fresh w.db) (hon : r.OnNames)
    (h : NamesStaySound env settings w r) : NameSafe env w.db.connectors r := by
  have hcommitted : ∀ db', (r.serve env settings w).2 = .ok db' → NamesSound env db'.connectors :=
    fun db' hout => h.committed hout
  cases r with
  | create id name file =>
    cases file with
    | some file => exact hon.elim
    | none =>
      intro hunseen
      rcases create_outcome settings name hfresh with ⟨_, hflush⟩ | ⟨hseen, _⟩
      · obtain ⟨hfree, hnonempty⟩ := hflush.free rfl (orderFits_of_le (Nat.zero_le _)) h.2 hcommitted
        refine ⟨?_, hnonempty⟩
        intro c hc hlive _
        exact hfree c hc hlive fun hid => hfresh c hc (Option.some.inj hid).symm
      · exact absurd hunseen hseen
  | update id name isActive displayOrder =>
    cases name with
    | none => trivial
    | some n =>
      intro c hmem hid hlive hne hfits hunseen
      subst hid
      rcases onLive_outcome (w := w) c.id (fun row =>
          updateConnectorMaster env w.db w.storage row (some n) none isActive
            (displayOrder.map Int.ofNat)) with
        ⟨c', hid, hc', _, hout⟩ | ⟨hnone, _⟩
      · obtain rfl : c' = c := Table.eq_of_key_eq (Table.mem_iff_find?.mpr hc') hmem hid
        have hserve :
            ((CatalogueRequest.update c'.id (some n) isActive displayOrder).serve env settings w).2 =
            (updateConnectorMaster env w.db w.storage c' (some n) none isActive
              (displayOrder.map Int.ofNat)).2 := hout
        have hno := h.2
        rw [hserve] at hcommitted hno
        rcases update_outcome hc' (some n) isActive displayOrder with ⟨hsameName, _⟩ |
          ⟨_, ⟨⟩, _, ⟨_, row, hsame, hname, horder, hflush⟩ | ⟨hseen, _⟩⟩
        · exact absurd (hsameName n rfl) hne
        · have hrow : orderFits w.db.connectors row =
              orderFits w.db.connectors { c' with displayOrder := displayOrder.getD c'.displayOrder } :=
            orderFits_congr hsame.id horder
          have hfree := hflush.free (hsame.isDeleted.trans hlive) (hrow.trans hfits) hno hcommitted
          rwa [hname, hsame.id] at hfree
        · exact absurd hunseen hseen
      · exact absurd (hlive.symm.trans (hnone c hmem rfl)) nofun
  | delete id now => trivial
  | restore id =>
    intro c hmem hid hdeleted hhash hunseen
    subst hid
    have hserve : ((CatalogueRequest.restore c.id).serve env settings w).2 =
        (getConnectorIncludingDeletedOr404 w.db c.id >>= restoreConnector env w.db) := rfl
    have hno := h.2
    rw [hserve] at hcommitted hno
    rcases getConnectorIncludingDeletedOr404_cases w.db c.id with ⟨c', hid, hc', hget⟩ | ⟨hnone, _⟩
    · obtain rfl : c' = c := Table.eq_of_key_eq (Table.mem_iff_find?.mpr hc') hmem hid
      rw [hget] at hcommitted hno
      rcases restore_outcome hc' with ⟨_, _, _, hflush⟩ | ⟨hrefused, _⟩
      · exact (hflush.free rfl (orderFits_of_stored hmem rfl rfl) hno hcommitted).1
      · exact absurd ⟨hdeleted, hhash, hunseen⟩ hrefused
    · exact absurd rfl (Table.find?_eq_none.mp hnone c hmem)
  | seed id => trivial
  | activate _ | deactivate _ | reorder _ | uploadLogo _ _ | clearLogo _ => trivial

/-! ### Runs -/

theorem names_kept_run {s : MediaWorld} {tr : List CatalogueStep} (hdefaults : DefaultsLowered env)
    (hinit : NamesKept env w.db.connectors) (hrun : NameRun env settings w tr s)
    (hsafe : ∀ x ∈ tr, NameSafe env x.before.db.connectors x.label) : NamesKept env s.db.connectors := by
  induction hrun with
  | nil => exact hinit
  | @snoc tr s s' l hr hok hn ih =>
    obtain rfl := Option.some.inj hn
    have hkept := ih fun x hx => hsafe x (by simp [hx])
    have hlast : NameSafe env s.db.connectors l := hsafe ⟨s, l, s.commit (l.serve env settings s)⟩ (by simp)
    exact ((hlast.kept settings hdefaults hkept hok.1 hok.2).staySound hkept).1

theorem names_safe_run {s : MediaWorld} {tr : List CatalogueStep} (hrun : NameRun env settings w tr s)
    (hsound : ∀ x ∈ tr, NamesStaySound env settings x.before x.label) :
    ∀ x ∈ tr, NameSafe env x.before.db.connectors x.label := by
  intro x hx
  obtain ⟨pre, post, htr⟩ := List.append_of_mem hx
  obtain ⟨_, hok, _⟩ := hrun.split htr
  exact nameSafe_of_sound hok.1 hok.2 (hsound x hx)

/-- The names stay sound through a run of the operations, and no unique index refuses one of them, exactly
when every operation is safe in the state it is served in. -/
theorem names_sound_iff {s : MediaWorld} {tr : List CatalogueStep} (hdefaults : DefaultsLowered env)
    (hinit : NamesKept env w.db.connectors) (hrun : NameRun env settings w tr s) :
    (∀ x ∈ tr, NameSafe env x.before.db.connectors x.label) ↔
      ∀ x ∈ tr, NamesSound env x.after.db.connectors ∧
        (x.label.serve env settings x.before).2 ≠ .error (.integrityError "connectors") := by
  have hafter : ∀ x ∈ tr, x.before.commit (x.label.serve env settings x.before) = x.after := by
    intro x hx
    obtain ⟨pre, post, htr⟩ := List.append_of_mem hx
    exact Option.some.inj (hrun.split htr).2.2
  constructor
  · intro hsafe x hx
    obtain ⟨pre, post, htr⟩ := List.append_of_mem hx
    obtain ⟨hbefore, hok, _⟩ := hrun.split htr
    have hkept := names_kept_run hdefaults hinit hbefore fun y hy => hsafe y (by rw [htr]; simp [hy])
    obtain ⟨_, hstay⟩ := ((hsafe x hx).kept settings hdefaults hkept hok.1 hok.2).staySound hkept
    exact ⟨hafter x hx ▸ hstay.1, hstay.2⟩
  · intro hsound
    refine names_safe_run hrun ?_
    intro x hx
    obtain ⟨hnames, hno⟩ := hsound x hx
    exact ⟨(hafter x hx).symm ▸ hnames, hno⟩

theorem names_kept_of_empty (h : ∀ c, c ∉ t) : NamesKept env t :=
  ⟨fun c hc => absurd hc (h c), fun c hc => absurd hc (h c), fun c hc => absurd hc (h c),
    fun c hc => absurd hc (h c)⟩

/-! ### Evaluating runs -/

instance : (request : CatalogueRequest) → Decidable request.OnNames
  | .create _ _ none | .update _ _ _ _ | .delete _ _ | .restore _ | .seed _ => isTrue trivial
  | .create _ _ (some _) | .activate _ | .deactivate _ | .reorder _ | .uploadLogo _ _
  | .clearLogo _ => isFalse id

instance (name : String) (excludeId : Option Uuid) : Decidable (NameUnseen env t name excludeId) :=
  inferInstanceAs (Decidable (∀ c ∈ t.rows, _))

instance (name : String) (excludeId : Option Uuid) : Decidable (NameFree env t name excludeId) :=
  inferInstanceAs (Decidable (∀ c ∈ t.rows, _))

instance (row : Connector) : Decidable (HashUnseen t row) :=
  inferInstanceAs (Decidable (∀ digest, digest ∈ row.logoSha256 → digest ≠ "" → ∀ c ∈ t.rows, _))

instance : (request : CatalogueRequest) → Decidable (NameSafe env t request)
  | .create _ name _ =>
    inferInstanceAs
      (Decidable (NameUnseen env t name none → NameFree env t (Py.strip name) none ∧ Py.strip name ≠ ""))
  | .update _ (some _) _ _ | .restore _ => inferInstanceAs (Decidable (∀ c ∈ t.rows, _))
  | .update _ none _ _ | .delete _ _ | .activate _ | .deactivate _ | .reorder _ | .uploadLogo _ _
  | .clearLogo _ | .seed _ => isTrue trivial

/-- A unique index refused the row. -/
def refusedByIndex : Except Exn Db → Bool
  | .error e => e == .integrityError "connectors"
  | .ok _ => false

theorem refusedByIndex_iff : refusedByIndex out = true ↔ out = .error (.integrityError "connectors") := by
  cases out with
  | error e => simp [refusedByIndex]
  | ok _ => simp [refusedByIndex]

end

namespace SharedSlug

theorem defaults_lowered : DefaultsLowered env := fun _ _ => rfl

theorem names_kept : NamesKept env catalogue.db.connectors := names_kept_of_empty Table.not_mem_empty

/-- A connector is renamed and deleted, another takes over its name, and the restore of the first is
refused. -/
def reusedName : List CatalogueRequest :=
  [.create (.ofNat 1) "Foo" none, .update (.ofNat 1) (some " Bar ") none none, .delete (.ofNat 1) 5,
    .create (.ofNat 2) "bar" none, .restore (.ofNat 1)]

theorem reusedName_sound :
    ∃ tr w, NameRun env {} catalogue tr w ∧ tr.length = 5 ∧ ∀ x ∈ tr, NamesSound env x.after.db.connectors ∧
      (x.label.serve env {} x.before).2 ≠ .error (.integrityError "connectors") := by
  have hreplay : (Run.replay
      (fun (w : MediaWorld) (request : CatalogueRequest) => some (w.commit (request.serve env {} w)))
      (fun _ w request =>
        (request.Fresh w.db ∧ request.OnNames) ∧ NameSafe env w.db.connectors request) catalogue
      reusedName).map (fun r => r.1.length == 5) = some true := by decide
  obtain ⟨tr, w, hrun, hlength⟩ := Run.exists_of_replay hreplay
  have hnames : NameRun env {} catalogue tr w := hrun.mono fun _ _ _ h => h.1
  refine ⟨tr, w, hnames, by simpa using hlength, ?_⟩
  refine (names_sound_iff defaults_lowered names_kept hnames).mp ?_
  intro x hx
  obtain ⟨pre, post, htr⟩ := List.append_of_mem hx
  exact (hrun.split htr).2.1.2

/-- A name and the same name with a space before it. -/
def padded : List CatalogueRequest := [.create (.ofNat 1) "Foo" none, .create (.ofNat 2) " foo" none]

/-- The comparison, made before the second name is stripped, misses the first; the index refuses it. -/
theorem padded_refused :
    DefaultsLowered env ∧ NamesKept env catalogue.db.connectors ∧
      ¬ ∀ tr w, NameRun env {} catalogue tr w → ∀ x ∈ tr, NamesSound env x.after.db.connectors ∧
        (x.label.serve env {} x.before).2 ≠ .error (.integrityError "connectors") := by
  refine ⟨defaults_lowered, names_kept, ?_⟩
  intro h
  have hreplay : (Run.replay
      (fun (w : MediaWorld) (request : CatalogueRequest) => some (w.commit (request.serve env {} w)))
      (fun _ w request => request.Fresh w.db ∧ request.OnNames) catalogue padded).map
      (fun r => r.1.any fun x => refusedByIndex (x.label.serve env {} x.before).2) = some true := by decide
  obtain ⟨tr, w, hrun, hw⟩ := Run.exists_of_replay hreplay
  obtain ⟨x, hx, hout⟩ := List.any_eq_true.mp hw
  exact (h tr w hrun x hx).2 (refusedByIndex_iff.mp hout)

end SharedSlug

end RatingLift
