import RatingLift.Connectors.Logos
import RatingLift.Library.Fallible
import RatingLift.Library.Run

/-!
# Logo integrity

A run of connector requests over the database and the storage.  The key of a logo is derived from the name of
its connector, and two names may have the same slug, so an upload or a rename can write over the logo of
another row.  A step is `Safe` when its target key is the logo of no other row and, where it replaces or moves
a logo, the flush after it is accepted: no unique index refuses the row, and a new order fits its column.

* (`LogosOwned`) every logo URL was built from a key under which a file of the recorded hash is stored, and no
  two rows have the same one;
* (`LogosOwned.serve`) a safe step keeps this and leaves the files of the other rows alone;
* (`logos_intact`) so does every run of safe steps;
* (`SharedSlug.upload_overwrites`) an unsafe upload replaces the file of another connector.
-/

namespace RatingLift

open Library Logos Fallible

structure MediaWorld where
  db : Db
  storage : Storage

/-- The commit of a request: when it failed the database stays as it was, the storage does not. -/
def MediaWorld.commit (w : MediaWorld) (outcome : Storage × Except Exn Db) : MediaWorld :=
  match outcome with
  | (storage, .ok db) => ⟨db, storage⟩
  | (storage, .error _) => ⟨w.db, storage⟩

/-- The requests that change connectors and their logos. -/
inductive LogoRequest where
  | create (id : Uuid) (name : String) (file : Option UploadFile)
  | saveLogo (id : Uuid) (file : UploadFile)
  | clearLogo (id : Uuid)
  | update (id : Uuid) (name : Option String) (isActive : Option Bool) (displayOrder : Option Nat)
  | softDelete (id : Uuid) (now : Instant)
  | restore (id : Uuid)

/-- The connector that a request is on. -/
def LogoRequest.connectorId : LogoRequest → Uuid
  | create id _ _ | saveLogo id _ | clearLogo id | update id _ _ _ | softDelete id _ | restore id => id

section

variable (env : ConnectorEnv) (settings : Settings)

/-- `file is not None and file.filename` -/
def attachedFile (file : Option UploadFile) : Option UploadFile :=
  file.filter fun f => f.filename.any (· ≠ "")

/-- Creating a connector, with the logo in the same request or without. -/
def createWithLogo (w : MediaWorld) (id : Uuid) (name : String) (file : Option UploadFile) :
    Storage × Except Exn Db :=
  match createConnector env w.db id name none with
  | .error e => (w.storage, .error e)
  | .ok (row, db) =>
    match attachedFile file with
    | none => (w.storage, .ok db)
    | some file => saveConnectorLogo env settings db w.storage row file

/-- The service function that a request calls on a row. -/
def LogoRequest.on (w : MediaWorld) (row : Connector) : LogoRequest → Storage × Except Exn Db
  | .create _ _ _ => (w.storage, .ok w.db)
  | .saveLogo _ file => saveConnectorLogo env settings w.db w.storage row file
  | .clearLogo _ => clearConnectorLogo env w.db w.storage row
  | .update _ name isActive displayOrder =>
    updateConnectorMaster env w.db w.storage row name none isActive (displayOrder.map Int.ofNat)
  | .softDelete _ now => (w.storage, softDeleteConnector env w.db now row)
  | .restore _ => (w.storage, restoreConnector env w.db row)

/-- A request on any connector, deleted or not. -/
def MediaWorld.serve (w : MediaWorld) (request : LogoRequest) : MediaWorld :=
  match request with
  | .create id name file => w.commit (createWithLogo env settings w id name file)
  | request =>
    match w.db.connectors.find? request.connectorId with
    | none => w
    | some row => w.commit (request.on env settings w row)

/-! ### When a step is safe -/

/-- An accepted upload goes to the logo of no other row, and where it replaces a logo, no unique index refuses
the hash. -/
def SafeUpload (db : Db) (storage : Storage) (row : Connector) (file : UploadFile) : Prop :=
  match checkLogo env settings db row file with
  | .error _ => True
  | .ok logo =>
    ¬ OthersLogo db storage.backend row.id (logoKey logo.slug logo.ext) ∧
      (row.logoUrl = none ∨ indexesAccept env db.connectors (logo.row storage row) = true)

/-- An accepted rename that moves a logo moves it to the logo of no other row, no unique index refuses the
name, and the order that comes with it fits its column. -/
def SafeRename (db : Db) (storage : Storage) (row : Connector) (name : String)
    (displayOrder : Option Nat) : Prop :=
  name ≠ row.name → assertUniqueName env db name (some row.id) = .ok () →
    match renameTarget env storage { row with name := name } with
    | none => True
    | some (_, dst) =>
      ¬ OthersLogo db storage.backend row.id dst ∧
      indexesAccept env db.connectors { row with name := name } = true ∧
        ∀ order ∈ displayOrder, order ≤ maxInteger

def Safe (w : MediaWorld) : LogoRequest → Prop
  | .create id name file =>
    match createConnector env w.db id name none, attachedFile file with
    | .ok (row, db), some f => SafeUpload env settings db w.storage row f
    | _, _ => True
  | .saveLogo id file =>
    match w.db.connectors.find? id with
    | none => True
    | some row => SafeUpload env settings w.db w.storage row file
  | .update id (some name) _ displayOrder =>
    match w.db.connectors.find? id with
    | none => True
    | some row => SafeRename env w.db w.storage row (Py.strip name) displayOrder
  | _ => True

/-- Every logo URL of the storage points at a stored file that has the recorded hash. -/
def LogoIntegrity (w : MediaWorld) : Prop :=
  ∀ c ∈ w.db.connectors, ∀ url key, c.logoUrl = some url → w.storage.backend.keyFromUrl url = some key →
    ∃ data, w.storage.get key = some data ∧ c.logoSha256 = some (env.sha256 data)

/-- The logo of the row is stored under the key. -/
structure HasLogo (storage : Storage) (c : Connector) (key : String) : Prop where
  plain : key.toList.head? ≠ some '/'
  url : c.logoUrl = some (storage.backend.urlFor key)
  file : ∃ data, storage.get key = some data ∧ c.logoSha256 = some (env.sha256 data)

structure LogosOwned (w : MediaWorld) : Prop where
  indexes : IndexesHold env w.db.connectors
  stored : ∀ c ∈ w.db.connectors, c.logoUrl ≠ none → ∃ key, HasLogo env w.storage c key
  unshared : ∀ c ∈ w.db.connectors, ∀ c' ∈ w.db.connectors, c.logoUrl ≠ none →
    c.logoUrl = c'.logoUrl → c.id = c'.id

end

section

variable {env : ConnectorEnv} {settings : Settings} {w : MediaWorld}

theorem LogosOwned.integrity (h : LogosOwned env w) : LogoIntegrity env w := by
  intro c hc url key hurl hkey
  obtain ⟨key', hlogo⟩ := h.stored c hc (by simp [hurl])
  have hread := w.storage.backend.keyFromUrl_urlFor hlogo.plain
  obtain rfl : w.storage.backend.urlFor key' = url := Option.some.inj (hlogo.url ▸ hurl)
  obtain rfl : key' = key := Option.some.inj (hread.symm.trans hkey)
  exact hlogo.file

/-- A logo key is no logo of another row. -/
theorem LogosOwned.not_othersLogo (h : LogosOwned env w) {c : Connector} (hc : c ∈ w.db.connectors)
    {key : String} (hurl : c.logoUrl = some (w.storage.backend.urlFor key)) :
    ¬ OthersLogo w.db w.storage.backend c.id key := by
  rintro ⟨c', hc', hne, hurl'⟩
  exact hne (h.unshared c hc c' hc' (by simp [hurl]) (hurl.trans hurl'.symm)).symm

/-- Writing one row, when the files of the others stay and the new row has a logo of its own or none. -/
theorem LogosOwned.write (h : LogosOwned env w) {w' : MediaWorld} {row : Connector}
    (hindexes : IndexesHold env w'.db.connectors)
    (hrows : ∀ c ∈ w'.db.connectors, c = row ∨ (c ∈ w.db.connectors ∧ c.id ≠ row.id))
    (hbackend : w'.storage.backend = w.storage.backend)
    (hothers : ∀ k, OthersLogo w.db w.storage.backend row.id k → w'.storage.get k = w.storage.get k)
    (hrow : row.logoUrl ≠ none →
      ∃ key, HasLogo env w'.storage row key ∧ ¬ OthersLogo w.db w.storage.backend row.id key) :
    LogosOwned env w' := by
  have clash : ∀ c ∈ w.db.connectors, c.id ≠ row.id → row.logoUrl ≠ none →
      row.logoUrl = c.logoUrl → False := by
    intro c hc hne hsome heq
    obtain ⟨key, hlogo, hfree⟩ := hrow hsome
    refine hfree ⟨c, hc, hne, ?_⟩
    rw [← heq, hlogo.url, hbackend]
  refine ⟨hindexes, ?_, ?_⟩
  · intro c hc hsome
    rcases hrows c hc with rfl | ⟨hc, hne⟩
    · obtain ⟨key, hlogo, _⟩ := hrow hsome
      exact ⟨key, hlogo⟩
    · obtain ⟨key, hlogo⟩ := h.stored c hc hsome
      have hget : w'.storage.get key = w.storage.get key := hothers key ⟨c, hc, hne, hlogo.url⟩
      refine ⟨key, hlogo.plain, ?_, ?_⟩
      · rw [hbackend]; exact hlogo.url
      · rw [hget]; exact hlogo.file
  · intro c hc c' hc' hsome heq
    rcases hrows c hc with rfl | ⟨hc, hne⟩ <;> rcases hrows c' hc' with rfl | ⟨hc', hne'⟩
    · rfl
    · exact (clash c' hc' hne' hsome heq).elim
    · exact (clash c hc hne (heq ▸ hsome) heq.symm).elim
    · exact h.unshared c hc c' hc' hsome heq

/-- What a request on the connector `id` keeps. -/
structure Kept (env : ConnectorEnv) (w w' : MediaWorld) (id : Uuid) : Prop where
  owned : LogosOwned env w'
  others : ∀ key, OthersLogo w.db w.storage.backend id key → w'.storage.get key = w.storage.get key

theorem LogosOwned.kept_self (h : LogosOwned env w) (id : Uuid) : Kept env w w id := ⟨h, fun _ _ => rfl⟩

theorem logoKey_plain (slug ext : String) : (logoKey slug ext).toList.head? ≠ some '/' := by
  simp [logoKey]

/-- Deleting the logo of a row leaves the files of the others. -/
theorem LogosOwned.deleteExistingLogo_get (h : LogosOwned env w) {c : Connector}
    (hc : c ∈ w.db.connectors) {k : String} (hk : OthersLogo w.db w.storage.backend c.id k) :
    (deleteExistingLogo w.db w.storage c).get k = w.storage.get k := by
  by_cases hnone : c.logoUrl = none
  · simp [deleteExistingLogo, hnone]
  · obtain ⟨key, hlogo⟩ := h.stored c hc hnone
    exact RatingLift.deleteExistingLogo_get hlogo.plain hlogo.url hk

/-- The rows of a table after nothing was written. -/
theorem rows_self {db : Db} {c : Connector} (hc : c ∈ db.connectors) :
    ∀ x ∈ db.connectors, x = c ∨ (x ∈ db.connectors ∧ x.id ≠ c.id) := by
  intro x hx
  by_cases hid : x.id = c.id
  · exact Or.inl (Table.eq_of_key_eq hx hc hid)
  · exact Or.inr ⟨hx, hid⟩

/-- Flushing a row whose logo columns are those stored keeps everything, whether an index refuses the row or
not. -/
theorem LogosOwned.kept_flush (h : LogosOwned env w) {c row : Connector} (hc : c ∈ w.db.connectors)
    (hid : row.id = c.id) (hurl : row.logoUrl = c.logoUrl) (hsha : row.logoSha256 = c.logoSha256) :
    Kept env w (w.commit (w.storage, flushConnector env w.db row)) c.id := by
  cases hf : flushConnector env w.db row with
  | error e => exact h.kept_self c.id
  | ok db' =>
    obtain ⟨_, hacc, _⟩ := flushConnector_ok hf
    have hrows := flushConnector_rows hf
    refine ⟨h.write (h.indexes.write hacc hrows) hrows rfl (fun _ _ => rfl) ?_, fun _ _ => rfl⟩
    intro hsome
    rw [hurl] at hsome
    obtain ⟨key, hlogo⟩ := h.stored c hc hsome
    refine ⟨key, ⟨hlogo.plain, hurl.trans hlogo.url, ?_⟩, ?_⟩
    · rw [hsha]; exact hlogo.file
    · rw [hid]; exact h.not_othersLogo hc hlogo.url

theorem LogosOwned.kept_softDelete (h : LogosOwned env w) {c : Connector} (hc : c ∈ w.db.connectors)
    (now : Instant) :
    Kept env w (w.commit (w.storage, softDeleteConnector env w.db now c)) c.id := by
  unfold softDeleteConnector
  split
  · exact h.kept_self c.id
  · extract_lets attached
    split
    · exact h.kept_self c.id
    · exact h.kept_flush hc rfl rfl rfl

theorem LogosOwned.kept_restore (h : LogosOwned env w) {c : Connector} (hc : c ∈ w.db.connectors) :
    Kept env w (w.commit (w.storage, restoreConnector env w.db c)) c.id := by
  cases hr : restoreConnector env w.db c with
  | error e => exact h.kept_self c.id
  | ok db' =>
    have hflush : flushConnector env w.db { c with isDeleted := false, deletedAt := none } = .ok db' := by
      unfold restoreConnector at hr
      split at hr
      · cases hr
      · obtain ⟨_, _, hr⟩ := bind_eq_ok.mp hr
        split at hr
        · exact hr
        · obtain ⟨_, _, hr⟩ := bind_eq_ok.mp hr
          exact hr
    rw [← hflush]
    exact h.kept_flush hc rfl rfl rfl

theorem LogosOwned.kept_clear (h : LogosOwned env w) {c : Connector} (hc : c ∈ w.db.connectors) :
    Kept env w (w.commit (clearConnectorLogo env w.db w.storage c)) c.id := by
  have hacc : indexesAccept env w.db.connectors { c with logoUrl := none, logoSha256 := none } = true := by
    refine h.indexes.accept hc rfl ?_
    intro x hx
    unfold conflict sameHash at hx ⊢
    cases hschema : env.schema with
    | metadata => cases hx' : x.logoSha256 <;> simp
    | migrations => cases hx' : x.logoSha256 <;> simp_all
  have hfits : orderFits w.db.connectors { c with logoUrl := none, logoSha256 := none } = true :=
    orderFits_of_stored hc rfl rfl
  have hflush := flushConnector_of_accept hfits hacc
  have hrows := flushConnector_rows hflush
  unfold clearConnectorLogo
  rw [hflush]
  have hothers : ∀ k, OthersLogo w.db w.storage.backend c.id k →
      (deleteExistingLogo w.db w.storage c).get k = w.storage.get k :=
    fun k hk => h.deleteExistingLogo_get hc hk
  refine ⟨h.write (h.indexes.write hacc hrows) hrows ?_ hothers ?_, hothers⟩
  · exact deleteExistingLogo_backend
  · intro hsome; exact absurd rfl hsome

theorem checkLogo_digest {db : Db} {c : Connector} {file : UploadFile} {logo : CheckedLogo}
    (h : checkLogo env settings db c file = .ok logo) : logo.digest = env.sha256 file.data := by
  unfold checkLogo at h
  split at h
  · cases h
  split at h
  · cases h
  obtain ⟨ext, _, h⟩ := bind_eq_ok.mp h
  obtain ⟨ext', _, h⟩ := bind_eq_ok.mp h
  obtain ⟨_, _, h⟩ := bind_eq_ok.mp h
  extract_lets slug at h
  split at h
  · rw [← pure_eq_ok.mp h]
  · cases h

theorem CheckedLogo.store_backend (logo : CheckedLogo) (db : Db) (storage : Storage) (c : Connector)
    (data : Bytes) :
    (logo.store db storage c data).backend = storage.backend := by
  simp [CheckedLogo.store]

/-- Storing an accepted file at a key that is no logo of another row leaves the files of the others. -/
theorem LogosOwned.store_get (h : LogosOwned env w) {c : Connector} (hc : c ∈ w.db.connectors)
    (logo : CheckedLogo) (data : Bytes)
    (hfree : ¬ OthersLogo w.db w.storage.backend c.id (logoKey logo.slug logo.ext)) {k : String}
    (hk : OthersLogo w.db w.storage.backend c.id k) :
    (logo.store w.db w.storage c data).get k = w.storage.get k := by
  have hne : k ≠ logoKey logo.slug logo.ext := by
    rintro rfl
    exact hfree hk
  have hk' : OthersLogo w.db (deleteExistingLogo w.db w.storage c).backend c.id k := by
    rw [deleteExistingLogo_backend]; exact hk
  unfold CheckedLogo.store
  rw [Storage.get_save, if_neg hne, purgeSlugSiblings_get _ _ hk', h.deleteExistingLogo_get hc hk]

theorem LogosOwned.kept_save (h : LogosOwned env w) {c : Connector} (hc : c ∈ w.db.connectors)
    {file : UploadFile} (hsafe : SafeUpload env settings w.db w.storage c file) :
    Kept env w (w.commit (saveConnectorLogo env settings w.db w.storage c file)) c.id := by
  unfold saveConnectorLogo
  cases hcheck : checkLogo env settings w.db c file with
  | error e => exact h.kept_self c.id
  | ok logo =>
    rw [SafeUpload, hcheck] at hsafe
    obtain ⟨hfree, hflush⟩ := hsafe
    have hothers : ∀ k, OthersLogo w.db w.storage.backend c.id k →
        (logo.store w.db w.storage c file.data).get k = w.storage.get k :=
      fun k hk => h.store_get hc logo file.data hfree hk
    have hbackend := logo.store_backend w.db w.storage c file.data
    show Kept env w (w.commit (_, flushConnector env w.db (logo.row w.storage c))) c.id
    cases hf : flushConnector env w.db (logo.row w.storage c) with
    | error e =>
      -- the row keeps its old logo columns, which are empty
      have hnone : c.logoUrl = none := by
        rcases hflush with hnone | hacc
        · exact hnone
        · have hfits : orderFits w.db.connectors (logo.row w.storage c) = true :=
            orderFits_of_stored hc rfl rfl
          rw [flushConnector_of_accept hfits hacc] at hf
          cases hf
      exact ⟨h.write h.indexes (rows_self hc) hbackend hothers (absurd hnone), hothers⟩
    | ok db' =>
      obtain ⟨_, hacc, _⟩ := flushConnector_ok hf
      have hrows := flushConnector_rows hf
      refine ⟨h.write (h.indexes.write hacc hrows) hrows hbackend hothers ?_, hothers⟩
      intro _
      refine ⟨logoKey logo.slug logo.ext, ⟨logoKey_plain _ _, ?_, file.data, ?_, ?_⟩, hfree⟩
      · show some _ = some ((logo.store w.db w.storage c file.data).backend.urlFor _)
        rw [hbackend]
      · show (Storage.save _ _ _).get _ = _
        rw [Storage.get_save, if_pos rfl]
      · show some logo.digest = _
        rw [checkLogo_digest hcheck]

theorem applyAttributes_eq (c : Connector) (isActive : Option Bool) (displayOrder : Option Nat) :
    applyAttributes c none isActive (displayOrder.map Int.ofNat) =
      .ok { c with
        isActive := isActive.getD c.isActive
        displayOrder := displayOrder.getD c.displayOrder } := by
  unfold applyAttributes
  cases displayOrder with
  | none => rfl
  | some n =>
    have hn : ¬ (Int.ofNat n < 0) := by simp
    show (if Int.ofNat n < 0 then _ else _) = _
    rw [if_neg hn]
    rfl

/-- What `update_connector` does to the name and the logo: nothing to the logo, or a move. -/
theorem applyName_cases {db : Db} {storage storage' : Storage} {c row : Connector} {name : Option String}
    (h : applyName env db storage c name = .ok (storage', row)) :
    (storage' = storage ∧ row.id = c.id ∧ row.logoUrl = c.logoUrl ∧ row.logoSha256 = c.logoSha256) ∨
      ∃ n src dst, name = some n ∧ Py.strip n ≠ c.name ∧
        assertUniqueName env db (Py.strip n) (some c.id) = .ok () ∧
        renameTarget env storage { c with name := Py.strip n } = some (src, dst) ∧
        storage' = storage.move src dst ∧
        row = { c with name := Py.strip n, logoUrl := some (storage.backend.urlFor dst) } := by
  cases name with
  | none =>
    obtain ⟨rfl, rfl⟩ := Prod.mk.inj (Except.ok.inj h)
    exact Or.inl ⟨rfl, rfl, rfl, rfl⟩
  | some n =>
    by_cases hname : Py.strip n = c.name
    · simp only [applyName, Option.map_some, hname, ↓reduceIte] at h
      obtain ⟨rfl, rfl⟩ := Prod.mk.inj (Except.ok.inj h)
      exact Or.inl ⟨rfl, rfl, rfl, rfl⟩
    · simp only [applyName, Option.map_some, hname, ↓reduceIte] at h
      obtain ⟨_, hunique, h⟩ := bind_eq_ok.mp h
      have h := pure_eq_ok.mp h
      unfold renameLogoToMatchName at h
      cases htarget : renameTarget env storage { c with name := Py.strip n } with
      | none =>
        rw [htarget] at h
        obtain ⟨rfl, rfl⟩ := Prod.mk.inj h
        exact Or.inl ⟨rfl, rfl, rfl, rfl⟩
      | some target =>
        obtain ⟨src, dst⟩ := target
        rw [htarget] at h
        obtain ⟨rfl, rfl⟩ := Prod.mk.inj h
        exact Or.inr ⟨n, src, dst, rfl, hname, hunique, htarget, rfl, rfl⟩

/-- A rename moves a logo from the key its URL names to a different key. -/
theorem renameTarget_some {storage : Storage} {c : Connector} {src dst : String}
    (h : renameTarget env storage c = some (src, dst)) :
    ∃ url ext, c.logoUrl = some url ∧ storage.backend.keyFromUrl url = some src ∧
      dst = logoKey (slugify env.nfkd c.name) ext ∧ src ≠ dst := by
  unfold renameTarget at h
  obtain ⟨url, hurl, h⟩ := Option.bind_eq_some_iff.mp h
  obtain ⟨key, hkey, h⟩ := Option.bind_eq_some_iff.mp h
  extract_lets ext dstKey at h
  split at h
  · cases h
  · rename_i hne
    obtain ⟨rfl, rfl⟩ := Prod.mk.inj (Option.some.inj h)
    obtain ⟨hurl, _⟩ := Option.filter_eq_some_iff.mp hurl
    refine ⟨url, ext, hurl, hkey, rfl, fun heq => hne (Or.inr heq.symm)⟩

theorem LogosOwned.kept_update (h : LogosOwned env w) {c : Connector} (hc : c ∈ w.db.connectors)
    (name : Option String) (isActive : Option Bool) (displayOrder : Option Nat)
    (hsafe : ∀ n, name = some n → SafeRename env w.db w.storage c (Py.strip n) displayOrder) :
    Kept env w
      (w.commit (updateConnectorMaster env w.db w.storage c name none isActive (displayOrder.map Int.ofNat)))
        c.id := by
  unfold updateConnectorMaster
  cases hname : applyName env w.db w.storage c name with
  | error e => exact h.kept_self c.id
  | ok named =>
    obtain ⟨storage', row⟩ := named
    simp only [applyAttributes_eq, ok_bind]
    rcases applyName_cases hname
      with ⟨rfl, hid, hurl, hsha⟩ | ⟨n, src, dst, hn, hne, hunique, htarget, rfl, rfl⟩
    · exact h.kept_flush hc hid hurl hsha
    have hsafe := hsafe n hn hne hunique
    rw [htarget] at hsafe
    obtain ⟨hfree, hacc, horder⟩ := hsafe
    obtain ⟨url, ext, hurl, hkey, hdst, hmoved⟩ := renameTarget_some htarget
    obtain ⟨key, hlogo⟩ := h.stored c hc (by rw [show c.logoUrl = some url from hurl]; simp)
    obtain ⟨data, hdata, hsha⟩ := hlogo.file
    have hsrc : key = src := by
      have hread := w.storage.backend.keyFromUrl_urlFor hlogo.plain
      rw [← Option.some.inj (hlogo.url.symm.trans hurl), hread] at hkey
      exact Option.some.inj hkey
    subst hsrc
    have hget := Storage.get_move hdata hmoved
    have hothers : ∀ k, OthersLogo w.db w.storage.backend c.id k →
        (w.storage.move key dst).get k = w.storage.get k := by
      intro k hk
      have hksrc : k ≠ key := fun heq => h.not_othersLogo hc hlogo.url (heq ▸ hk)
      have hkdst : k ≠ dst := fun heq => hfree (heq ▸ hk)
      rw [hget, if_neg hksrc, if_neg hkdst]
    have hfits : orderFits w.db.connectors { c with
        name := Py.strip n
        logoUrl := some (w.storage.backend.urlFor dst)
        isActive := isActive.getD c.isActive
        displayOrder := displayOrder.getD c.displayOrder } = true := by
      cases displayOrder with
      | none => exact orderFits_of_stored hc rfl rfl
      | some order => exact orderFits_of_le (horder order rfl)
    have hflush : flushConnector env w.db { c with
        name := Py.strip n
        logoUrl := some (w.storage.backend.urlFor dst)
        isActive := isActive.getD c.isActive
        displayOrder := displayOrder.getD c.displayOrder } = .ok _ := flushConnector_of_accept hfits hacc
    rw [hflush]
    have hacc' := (flushConnector_ok hflush).2.1
    have hrows := flushConnector_rows hflush
    refine ⟨h.write (h.indexes.write hacc' hrows) hrows (Storage.move_backend ..) hothers ?_, hothers⟩
    intro _
    refine ⟨dst, ⟨?_, ?_, data, ?_, hsha⟩, hfree⟩
    · rw [hdst]; exact logoKey_plain _ _
    · show some _ = some ((w.storage.move key dst).backend.urlFor dst)
      rw [Storage.move_backend]
    · show (w.storage.move key dst).get dst = some data
      rw [hget, if_neg (Ne.symm hmoved), if_pos rfl]

/-- Fewer rows over the same files. -/
theorem LogosOwned.mono (h : LogosOwned env w) {db : Db} (hsub : ∀ c ∈ db.connectors, c ∈ w.db.connectors) :
    LogosOwned env ⟨db, w.storage⟩ :=
  ⟨fun a ha b hb => h.indexes a (hsub a ha) b (hsub b hb), fun c hc => h.stored c (hsub c hc),
    fun c hc c' hc' => h.unshared c (hsub c hc) c' (hsub c' hc')⟩

theorem createConnector_ok {db db' : Db} {id : Uuid} {name : String} {row : Connector}
    (h : createConnector env db id name none = .ok (row, db')) :
    row.id = id ∧ row.logoUrl = none ∧ addConnector env db row = .ok db' := by
  unfold createConnector at h
  obtain ⟨_, _, h⟩ := bind_eq_ok.mp h
  obtain ⟨db₁, hadd, h⟩ := bind_eq_ok.mp h
  obtain ⟨rfl, rfl⟩ := Prod.mk.inj (pure_eq_ok.mp h)
  exact ⟨rfl, rfl, hadd⟩

theorem LogosOwned.kept_create (h : LogosOwned env w) (id : Uuid) (name : String) (file : Option UploadFile)
    (hsafe : Safe env settings w (.create id name file)) :
    Kept env w (w.commit (createWithLogo env settings w id name file)) id := by
  unfold createWithLogo
  cases hcreate : createConnector env w.db id name none with
  | error e => exact h.kept_self id
  | ok created =>
    obtain ⟨row, db₁⟩ := created
    obtain ⟨rfl, hnone, hadd⟩ := createConnector_ok hcreate
    obtain ⟨hacc, hfresh, hdb₁⟩ := addConnector_ok hadd
    have hmem : ∀ c, c ∈ db₁.connectors ↔ c ∈ w.db.connectors ∨ c = row := by
      intro c; rw [hdb₁]; exact Table.mem_insert hfresh
    have hrows : ∀ c ∈ db₁.connectors, c = row ∨ (c ∈ w.db.connectors ∧ c.id ≠ row.id) := by
      intro c hc
      rcases (hmem c).mp hc with hc | rfl
      · exact Or.inr ⟨hc, hfresh c hc⟩
      · exact Or.inl rfl
    have h₁ : LogosOwned env ⟨db₁, w.storage⟩ :=
      h.write (h.indexes.write hacc hrows) hrows rfl (fun _ _ => rfl) (absurd hnone)
    cases hfile : attachedFile file with
    | none => exact ⟨h₁, fun _ _ => rfl⟩
    | some f =>
      have hkept : Kept env ⟨db₁, w.storage⟩
          (MediaWorld.commit ⟨db₁, w.storage⟩ (saveConnectorLogo env settings db₁ w.storage row f)) row.id :=
        h₁.kept_save ((hmem row).mpr (Or.inr rfl)) (by simpa only [Safe, hcreate, hfile] using hsafe)
      have hothers : ∀ k, OthersLogo w.db w.storage.backend row.id k →
          OthersLogo db₁ w.storage.backend row.id k := by
        rintro k ⟨c, hc, hne, hurl⟩
        exact ⟨c, (hmem c).mpr (Or.inl hc), hne, hurl⟩
      show Kept env w (w.commit (saveConnectorLogo env settings db₁ w.storage row f)) row.id
      generalize saveConnectorLogo env settings db₁ w.storage row f = saved at hkept ⊢
      obtain ⟨storage', outcome⟩ := saved
      obtain ⟨owned, others⟩ := hkept
      cases outcome with
      | ok db₂ => exact ⟨owned, fun k hk => others k (hothers k hk)⟩
      | error e =>
        -- the rollback also takes the new row back
        exact ⟨owned.mono fun c hc => (hmem c).mpr (Or.inl hc), fun k hk => others k (hothers k hk)⟩

/-- A safe request keeps the logos and leaves the files of the other connectors alone. -/
theorem LogosOwned.serve (h : LogosOwned env w) (request : LogoRequest)
    (hsafe : Safe env settings w request) :
    Kept env w (w.serve env settings request) request.connectorId := by
  have onRow : ∀ run : Connector → Storage × Except Exn Db,
      (∀ row, w.db.connectors.find? request.connectorId = some row → Kept env w (w.commit (run row)) row.id) →
      Kept env w (match w.db.connectors.find? request.connectorId with
        | none => w
        | some row => w.commit (run row)) request.connectorId := by
    intro run hrun
    cases hfind : w.db.connectors.find? request.connectorId with
    | none => exact h.kept_self _
    | some row =>
      have := hrun row hfind
      rwa [show row.id = request.connectorId from (Table.find?_some hfind).2] at this
  cases request with
  | create id name file => exact h.kept_create id name file hsafe
  | saveLogo id file =>
    refine onRow _ fun row hrow => h.kept_save (Table.find?_some hrow).1 ?_
    have hfind : w.db.connectors.find? id = some row := hrow
    simpa only [Safe, hfind] using hsafe
  | clearLogo id => exact onRow _ fun row hrow => h.kept_clear (Table.find?_some hrow).1
  | update id name isActive displayOrder =>
    refine onRow _ fun row hrow =>
      h.kept_update (Table.find?_some hrow).1 name isActive displayOrder fun n hn => ?_
    subst hn
    have hfind : w.db.connectors.find? id = some row := hrow
    simpa only [Safe, hfind] using hsafe
  | softDelete id now => exact onRow _ fun row hrow => h.kept_softDelete (Table.find?_some hrow).1 now
  | restore id => exact onRow _ fun row hrow => h.kept_restore (Table.find?_some hrow).1

/-- A catalogue without logos, as the unique indexes allow it. -/
structure WithoutLogos (env : ConnectorEnv) (w : MediaWorld) : Prop where
  noLogo : ∀ c ∈ w.db.connectors, c.logoUrl = none
  indexes : IndexesHold env w.db.connectors

theorem WithoutLogos.owned (h : WithoutLogos env w) : LogosOwned env w :=
  ⟨h.indexes, fun c hc hsome => absurd (h.noLogo c hc) hsome, fun c hc _ _ hsome =>
    absurd (h.noLogo c hc) hsome⟩

/-- Runs of requests. -/
def LogoRun (env : ConnectorEnv) (settings : Settings) (ok : MediaWorld → LogoRequest → Prop)
    (w₀ : MediaWorld) :
    List (Step MediaWorld LogoRequest) → MediaWorld → Prop :=
  Run (fun w request => some (w.serve env settings request)) (fun _ => ok) w₀

/-- From a catalogue without logos, after any run of safe requests on any connectors every logo of the storage
is a stored file with the recorded hash, and no request changed the file of a connector that it was not on. -/
theorem logos_intact {w₀ : MediaWorld} {tr : List (Step MediaWorld LogoRequest)} (h₀ : WithoutLogos env w₀)
    (hrun : LogoRun env settings (Safe env settings) w₀ tr w) :
    LogoIntegrity env w ∧ ∀ step ∈ tr, ∀ key,
      OthersLogo step.before.db step.before.storage.backend step.label.connectorId key →
        step.after.storage.get key = step.before.storage.get key := by
  have main : LogosOwned env w ∧ ∀ step ∈ tr, Kept env step.before step.after step.label.connectorId := by
    refine Run.invariant (I := fun tr w =>
      LogosOwned env w ∧ ∀ step ∈ tr, Kept env step.before step.after step.label.connectorId) ?_ ?_ hrun
    · exact ⟨h₀.owned, fun step hstep => absurd hstep List.not_mem_nil⟩
    · intro tr s request s' _ ⟨hs, htr⟩ hsafe hnext
      obtain rfl := Option.some.inj hnext
      have hkept := hs.serve request hsafe
      refine ⟨hkept.owned, ?_⟩
      intro step hstep
      rcases List.mem_append.mp hstep with hold | hnew
      · exact htr step hold
      · obtain rfl := List.mem_singleton.mp hnew
        exact hkept
  exact ⟨main.1.integrity, fun step hstep => (main.2 step hstep).others⟩

/-! ### Evaluating runs -/

instance (db : Db) (backend : Backend) (id : Uuid) (key : String) :
    Decidable (OthersLogo db backend id key) :=
  inferInstanceAs (Decidable (∃ c ∈ db.connectors.rows, c.id ≠ id ∧ c.logoUrl = some (backend.urlFor key)))

instance (db : Db) (storage : Storage) (row : Connector) (file : UploadFile) :
    Decidable (SafeUpload env settings db storage row file) := by
  unfold SafeUpload; split <;> infer_instance

instance (db : Db) (storage : Storage) (row : Connector) (name : String) (displayOrder : Option Nat) :
    Decidable (SafeRename env db storage row name displayOrder) := by
  unfold SafeRename; split <;> infer_instance

instance (request : LogoRequest) : Decidable (Safe env settings w request) := by
  unfold Safe; split <;> try split
  all_goals infer_instance

/-- Integrity of one row, as a check. -/
def rowIntact (env : ConnectorEnv) (storage : Storage) (c : Connector) : Bool :=
  (c.logoUrl.bind storage.backend.keyFromUrl).all fun key =>
    (storage.get key).any fun data => c.logoSha256 == some (env.sha256 data)

theorem logoIntegrity_iff :
    LogoIntegrity env w ↔ ∀ c ∈ w.db.connectors.rows, rowIntact env w.storage c = true := by
  unfold LogoIntegrity rowIntact
  refine forall₂_congr ?_
  intro c _
  simp only [Option.all_eq_true, Option.any_eq_true, beq_iff_eq, Option.bind_eq_some_iff]
  constructor
  · rintro h key ⟨url, hurl, hkey⟩
    exact h url key hurl hkey
  · exact fun h url key hurl hkey => h key ⟨url, hurl, hkey⟩

instance : Decidable (LogoIntegrity env w) := decidable_of_iff _ logoIntegrity_iff.symm

end

namespace SharedSlug

/-- On ASCII names, with a stand-in for the hash that tells all files apart. -/
def env : ConnectorEnv where
  schema := .migrations
  lower := Py.asciiLower
  pgLower := Py.asciiLower
  nfkd := id
  sha256 := fun b => String.ofList (b.map fun x => Char.ofNat x.toNat)
  imageVerify := fun _ => true
  imageOpen := fun _ => none

def catalogue : MediaWorld := ⟨.empty, .ofLocal "media", .empty⟩

def svg (text : String) : UploadFile := ⟨ascii ("<svg>" ++ text), some "logo.svg", some "image/svg+xml"⟩

theorem sha256_injective : Function.Injective env.sha256 := by
  have char : Function.Injective fun x : UInt8 => Char.ofNat x.toNat := by
    intro x y h
    have valid : ∀ z : UInt8, (Char.ofNat z.toNat).toNat = z.toNat := by
      intro z
      have hz : z.toNat < 256 := z.toNat_lt
      unfold Char.ofNat
      rw [dif_pos (Or.inl (by omega))]
      exact UInt32.toNat_ofNatLT
    have hxy := congrArg Char.toNat h
    simp only [valid] at hxy
    exact UInt8.toNat_inj.mp hxy
  intro a b h
  exact List.map_injective_iff.mpr char (String.ofList_injective h)

theorem withoutLogos : WithoutLogos env catalogue :=
  ⟨fun c hc => absurd hc (Table.not_mem_empty c), fun c hc => absurd hc (Table.not_mem_empty c)⟩

/-- Two connectors whose names differ in a character that the slug drops. -/
def fooTwice : List LogoRequest :=
  [.create (.ofNat 1) "Foo!" (some (svg "a")), .create (.ofNat 2) "Foo" (some (svg "b"))]

/-- The two share a key: the logo of the second replaces the file of the first, whose row keeps the hash of
its own. -/
theorem upload_overwrites :
    Function.Injective env.sha256 ∧ WithoutLogos env catalogue ∧
      ∃ tr w, LogoRun env {} (fun _ _ => True) catalogue tr w ∧ ¬ LogoIntegrity env w := by
  have hreplay :
      (Run.replay (fun w request => some (MediaWorld.serve env {} w request)) (fun _ _ _ => True) catalogue
      fooTwice).map (fun r => !decide (LogoIntegrity env r.2)) = some true := by decide
  obtain ⟨tr, w, hrun, hw⟩ := Run.exists_of_replay hreplay
  exact ⟨sha256_injective, withoutLogos, tr, w, hrun, by simpa using hw⟩

/-- Two uploads under different slugs and a rename to a third. -/
def safeRequests : List LogoRequest :=
  [.create (.ofNat 1) "Foo" (some (svg "a")), .create (.ofNat 2) "Bar" (some (svg "b")),
    .update (.ofNat 2) (some "Baz") none none]

theorem safe_run_intact :
    ∃ tr w, LogoRun env {} (Safe env {}) catalogue tr w ∧ tr.length = 3 ∧ LogoIntegrity env w := by
  have hreplay : (Run.replay (fun w request => some (MediaWorld.serve env {} w request))
      (fun _ w request => Safe env {} w request) catalogue safeRequests).map
        (fun r => r.1.length == 3) = some true := by
    decide
  obtain ⟨tr, w, hrun, hw⟩ := Run.exists_of_replay hreplay
  exact ⟨tr, w, hrun, by simpa using hw, (logos_intact withoutLogos hrun).1⟩

end SharedSlug

end RatingLift
