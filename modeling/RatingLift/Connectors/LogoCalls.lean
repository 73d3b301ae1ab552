import RatingLift.Connectors.LogoIntegrity
import RatingLift.Connectors.Slugs

/-!
# The storage calls of the logo operations

Which calls of the storage an upload, a clearing and a rename make, with the arguments that they pass.

* (`upload_applies`, `clear_applies`, `rename_applies`) making the calls one after the other is what the
  operations do to the storage;
* (`contentType_passed_iff`) the content type that an upload passes to the storage is the one of the validated
  image, or none, exactly when the client sent an allowed type or none;
* (`HtmlLogo.served_as_html`) an SVG image with a client type that is not allowed is stored under that type.
-/

namespace RatingLift

open Library Logos Fallible

inductive StorageCall where
  | delete (key : String)
  | listPrefix (start : String)
  | save (key : String) (data : Bytes) (contentType : Option String)
  | move (src dst : String)

namespace StorageCall

/-- What a call does to the storage. -/
def apply (storage : Storage) : StorageCall → Storage
  | .delete key => storage.delete key
  | .listPrefix _ => storage
  | .save key data _ => storage.save key data
  | .move src dst => storage.move src dst

def applyAll (storage : Storage) (calls : List StorageCall) : Storage := calls.foldl apply storage

/-- The `ContentType` that `S3Storage.save` sets on the object. -/
def objectContentType : StorageCall → Option String
  | .save _ _ contentType => contentType.filter (· ≠ "")
  | _ => none

variable {storage : Storage}

@[simp] theorem applyAll_nil : applyAll storage [] = storage := rfl

@[simp] theorem applyAll_cons (c : StorageCall) (calls : List StorageCall) :
    applyAll storage (c :: calls) = applyAll (c.apply storage) calls := rfl

theorem applyAll_append (calls calls' : List StorageCall) :
    applyAll storage (calls ++ calls') = applyAll (applyAll storage calls) calls' := List.foldl_append

@[simp] theorem apply_backend (c : StorageCall) : (c.apply storage).backend = storage.backend := by
  cases c <;> simp [apply]

@[simp] theorem applyAll_backend (calls : List StorageCall) :
    (applyAll storage calls).backend = storage.backend := by
  induction calls generalizing storage with
  | nil => rfl
  | cons c calls ih => rw [applyAll_cons, ih, apply_backend]

/-- Deleting several keys. -/
theorem get_applyAll_delete (keys : List String) (k : String) :
    (applyAll storage (keys.map .delete)).get k = if k ∈ keys then none else storage.get k := by
  induction keys generalizing storage with
  | nil => simp
  | cons key keys ih =>
    rw [List.map_cons, applyAll_cons, ih]
    simp only [apply, Storage.get_delete, List.mem_cons]
    by_cases h : k = key <;> simp [h]

end StorageCall

section

variable (db : Db) (storage : Storage) (connector : Connector)

/-- The key that `_delete_existing_logo` deletes. -/
def deletedLogo (backend : Backend) : Option String :=
  if isLogoReferencedByOthers db connector.id connector.logoUrl connector.logoSha256 then none
  else (connector.logoUrl.filter (· ≠ "")).bind backend.keyFromUrl

/-- The key is one that `_purge_slug_siblings` deletes where it finds it. -/
def purges (backend : Backend) (keep key : String) : Bool :=
  !(Py.endsWith key ("/" ++ keep) || key == "connectors/" ++ keep) &&
    !isLogoReferencedByOthers db connector.id (some (backend.urlFor key)) none

/-- The start of the keys that an upload looks for. -/
def siblingStart (slug : String) : String :=
  "connectors/" ++ String.ofList (slug.toList.filter fun c => isAsciiAlnum c || c == '_' || c == '-') ++ "."

/-- The keys that `_purge_slug_siblings` deletes. -/
def purgedSiblings (slug keep : String) : List String :=
  (storage.listPrefix (siblingStart slug)).filter (purges db connector storage.backend keep)

/-- The calls of `_delete_existing_logo` -/
def deleteCalls : List StorageCall := (deletedLogo db connector storage.backend).toList.map .delete

/-- The calls of `_purge_slug_siblings`; a slug is never empty. -/
def purgeCalls (slug keep : String) : List StorageCall :=
  .listPrefix (siblingStart slug) :: (purgedSiblings db storage connector slug keep).map .delete

/-- The call that stores an accepted upload. -/
def CheckedLogo.saveCall (logo : CheckedLogo) (file : UploadFile) : StorageCall :=
  .save (logoKey logo.slug logo.ext) file.data file.contentType

/-- The calls of `save_connector_logo` for an accepted file. -/
def CheckedLogo.calls (logo : CheckedLogo) (file : UploadFile) : List StorageCall :=
  let deletes := deleteCalls db storage connector
  deletes ++ purgeCalls db (StorageCall.applyAll storage deletes) connector logo.slug
    (logo.slug ++ "." ++ logo.ext) ++
    [logo.saveCall file]

/-- The calls of `_rename_logo_to_match_name` on a row that has its new name. -/
def renameCalls (env : ConnectorEnv) : List StorageCall :=
  (renameTarget env storage connector).toList.map fun target => .move target.1 target.2

variable {db storage connector}

theorem clear_applies :
    StorageCall.applyAll storage (deleteCalls db storage connector) =
      deleteExistingLogo db storage connector := by
  unfold deleteExistingLogo deleteCalls deletedLogo
  cases hurl : connector.logoUrl.filter (· ≠ "") with
  | none => cases isLogoReferencedByOthers db connector.id connector.logoUrl connector.logoSha256 <;> rfl
  | some url =>
    dsimp only
    cases hkey : storage.backend.keyFromUrl url with
    | none =>
      cases isLogoReferencedByOthers db connector.id connector.logoUrl connector.logoSha256 <;> simp [hkey]
    | some key =>
      cases isLogoReferencedByOthers db connector.id connector.logoUrl connector.logoSha256 <;>
        simp [hkey, StorageCall.apply]

/-- The loop of the purge deletes the keys that pass its two conditions. -/
private theorem purge_loop (keep : String) (keys : List String) : ∀ storage : Storage,
    keys.foldl (purgeSibling db connector keep) storage =
      StorageCall.applyAll storage
        ((keys.filter (purges db connector storage.backend keep)).map .delete) := by
  induction keys with
  | nil => intro storage; rfl
  | cons key keys ih =>
    intro storage
    have hbackend : (purgeSibling db connector keep storage key).backend = storage.backend :=
      purgeSibling_backend keep key
    rw [List.foldl_cons, ih, hbackend]
    unfold purgeSibling
    by_cases hkeep : (Py.endsWith key ("/" ++ keep) || key == "connectors/" ++ keep) = true
    · simp [purges, hkeep]
    · by_cases href : isLogoReferencedByOthers db connector.id (some (storage.backend.urlFor key)) none = true
      · simp [purges, hkeep, href]
      · simp [purges, hkeep, href, StorageCall.apply]

theorem purge_applies {slug keep : String}
    (hslug : String.ofList (slug.toList.filter fun c => isAsciiAlnum c || c == '_' || c == '-') ≠ "") :
    StorageCall.applyAll storage (purgeCalls db storage connector slug keep) =
      purgeSlugSiblings db storage connector slug keep := by
  unfold purgeSlugSiblings purgeCalls purgedSiblings
  rw [StorageCall.applyAll_cons]
  extract_lets safeSlug
  rw [if_neg hslug, purge_loop]
  rfl

theorem rename_applies {env : ConnectorEnv} :
    StorageCall.applyAll storage (renameCalls storage connector env) =
      (renameLogoToMatchName env storage connector).1 := by
  unfold renameCalls renameLogoToMatchName
  cases renameTarget env storage connector <;> rfl

end

namespace Logos

/-- The validated extension is the declared one. -/
theorem validateImageBytes_eq {env : ConnectorEnv} {settings : Settings} {file : Bytes}
    {declaredExt ext : String} (h : validateImageBytes env settings file declaredExt = .ok ext) :
    ext = declaredExt := by
  unfold validateImageBytes at h
  split at h
  · rename_i hsvg
    extract_lets head at h
    split at h
    · cases h
    split at h
    · cases h
    · rw [hsvg, Except.ok.inj h]
  split at h
  · cases h
  split at h
  · cases h
  split at h
  · cases h
  extract_lets maxPx at h
  split at h
  · cases h
  · rename_i hext
    split at h
    · cases h
    · rw [← Except.ok.inj h]
      exact not_ne_iff.mp hext

theorem safeExtension_of_allowed {lower : String → String} {filename contentType : Option String}
    {t ext : String} (ht : contentType.filter (· ≠ "") = some t)
    (hext : allowedContentTypes.lookup (lower t) = some ext) :
    safeExtension lower filename contentType = .ok ext := by
  unfold safeExtension
  rw [ht]
  simp [hext]

end Logos

/-! ### Accepted uploads -/

section

variable {env : ConnectorEnv} {settings : Settings} {db : Db} {storage : Storage} {connector : Connector}
  {file : UploadFile} {logo : CheckedLogo}

/-- What is known of an accepted file. -/
theorem checkLogo_ok (h : checkLogo env settings db connector file = .ok logo) :
    logo.slug = slugify env.nfkd connector.name ∧ ∃ ext,
    safeExtension env.lower file.filename file.contentType = .ok ext ∧
      validateImageBytes env settings file.data ext = .ok logo.ext := by
  unfold checkLogo at h
  split at h
  · cases h
  split at h
  · cases h
  obtain ⟨ext, hext, h⟩ := bind_eq_ok.mp h
  obtain ⟨ext', hext', h⟩ := bind_eq_ok.mp h
  obtain ⟨_, _, h⟩ := bind_eq_ok.mp h
  extract_lets slug at h
  split at h
  · rw [← pure_eq_ok.mp h]
    exact ⟨rfl, ext, hext, hext'⟩
  · cases h

theorem upload_applies (h : checkLogo env settings db connector file = .ok logo) :
    StorageCall.applyAll storage (logo.calls db storage connector file) =
      logo.store db storage connector file.data := by
  have hslug :
      String.ofList (logo.slug.toList.filter fun c => isAsciiAlnum c || c == '_' || c == '-') ≠ "" := by
    rw [(checkLogo_ok h).1, filter_slugify]
    exact slugify_ne_empty env.nfkd connector.name
  unfold CheckedLogo.calls CheckedLogo.store
  extract_lets deletes storage₁ storage₂
  rw [StorageCall.applyAll_append, StorageCall.applyAll_append, purge_applies hslug, clear_applies]
  rfl

/-- A call stores the object under the type of the validated image, or under none. -/
def ContentTypeFits (env : ConnectorEnv) (logo : CheckedLogo) (call : StorageCall) : Prop :=
  ∀ t, call.objectContentType = some t → allowedContentTypes.lookup (env.lower t) = some logo.ext

/-- The client sent no content type, or one of those that are allowed. -/
def AllowedType (env : ConnectorEnv) (file : UploadFile) : Prop :=
  ∀ t, file.contentType = some t → t ≠ "" → allowedContentTypes.lookup (env.lower t) ≠ none

/-- An accepted upload is stored under a type that is not the one of the image exactly when the client sent a
type that is not allowed, so that the filename decided. -/
theorem contentType_passed_iff (h : checkLogo env settings db connector file = .ok logo) :
    (∀ call ∈ logo.calls db storage connector file, ContentTypeFits env logo call) ↔
      AllowedType env file := by
  obtain ⟨_, ext, hext, hvalid⟩ := checkLogo_ok h
  constructor
  · intro hfits t ht hne hnone
    have hcall : (logo.saveCall file).objectContentType = some t := by
      simp [CheckedLogo.saveCall, StorageCall.objectContentType, ht, hne]
    have hsave : logo.saveCall file ∈ logo.calls db storage connector file := by simp [CheckedLogo.calls]
    rw [hfits _ hsave t hcall] at hnone
    cases hnone
  · intro hallowed call hcall t ht
    have hpassed : file.contentType.filter (· ≠ "") = some t := by
      unfold CheckedLogo.calls at hcall
      extract_lets deletes at hcall
      rcases List.mem_append.mp hcall with hcall | hcall
      · -- neither a deletion nor a listing passes a type
        exfalso
        rcases List.mem_append.mp hcall with hcall | hcall
        · obtain ⟨key, _, rfl⟩ := List.mem_map.mp hcall
          cases ht
        · rcases List.mem_cons.mp hcall with rfl | hcall
          · cases ht
          · obtain ⟨key, _, rfl⟩ := List.mem_map.mp hcall
            cases ht
      · obtain rfl := List.mem_singleton.mp hcall
        exact ht
    obtain ⟨hsent, hne⟩ := Option.filter_eq_some_iff.mp hpassed
    obtain ⟨ext', hext'⟩ := Option.ne_none_iff_exists'.mp (hallowed t hsent (by simpa using hne))
    rw [safeExtension_of_allowed hpassed hext'] at hext
    rw [hext', validateImageBytes_eq hvalid, Except.ok.inj hext]

end

/-! ### An SVG image sent as HTML -/

namespace HtmlLogo

def row : Connector where
  id := .ofNat 1
  name := "Foo"
  logoUrl := none
  logoSha256 := none
  isActive := true
  isDeleted := false
  deletedAt := none
  displayOrder := 0

def catalogue : MediaWorld :=
  ⟨{ Db.empty with connectors := Table.empty.insert row }, .ofLocal "media", .empty⟩

/-- The file name says `svg`, the content type does not. -/
def page : UploadFile := ⟨ascii "<svg><script>alert(1)</script></svg>", some "logo.svg", some "text/html"⟩

/-- The image is accepted as SVG and stored as `text/html`. -/
theorem served_as_html :
    ∃ logo, checkLogo SharedSlug.env {} catalogue.db row page = .ok logo ∧ logo.ext = "svg" ∧
    ∃ call ∈ logo.calls catalogue.db catalogue.storage row page,
      call.objectContentType = some "text/html" ∧ ¬ ContentTypeFits SharedSlug.env logo call := by
  have hcheck : (checkLogo SharedSlug.env {} catalogue.db row page).toOption.isSome = true := by decide
  obtain ⟨logo, hlogo⟩ := Option.isSome_iff_exists.mp hcheck
  have hlogo : checkLogo SharedSlug.env {} catalogue.db row page = .ok logo := toOption_eq_some.mp hlogo
  refine ⟨logo, hlogo, ?_, logo.saveCall page, by simp [CheckedLogo.calls], rfl, ?_⟩
  · obtain ⟨_, ext, hext, hvalid⟩ := checkLogo_ok hlogo
    have hsvg : safeExtension SharedSlug.env.lower page.filename page.contentType = .ok "svg" := by decide
    rw [validateImageBytes_eq hvalid, ← Except.ok.inj (hsvg.symm.trans hext)]
  · intro hfits
    have hnone : allowedContentTypes.lookup (SharedSlug.env.lower "text/html") = none := by decide
    rw [hfits "text/html" rfl] at hnone
    cases hnone

/-- The same image sent with its own type. -/
def image : UploadFile := { page with contentType := some "IMAGE/SVG+XML" }

theorem stored_as_svg : ∃ logo, checkLogo SharedSlug.env {} catalogue.db row image = .ok logo ∧
    ∀ call ∈ logo.calls catalogue.db catalogue.storage row image,
    ContentTypeFits SharedSlug.env logo call := by
  have hcheck : (checkLogo SharedSlug.env {} catalogue.db row image).toOption.isSome = true := by decide
  obtain ⟨logo, hlogo⟩ := Option.isSome_iff_exists.mp hcheck
  have hlogo : checkLogo SharedSlug.env {} catalogue.db row image = .ok logo := toOption_eq_some.mp hlogo
  have hallowed : AllowedType SharedSlug.env image := by
    intro t ht _
    obtain rfl := Option.some.inj ht
    decide
  exact ⟨logo, hlogo, (contentType_passed_iff hlogo).mpr hallowed⟩

end HtmlLogo

end RatingLift
