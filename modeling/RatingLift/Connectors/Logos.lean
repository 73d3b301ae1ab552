import RatingLift.Connectors.Service
import RatingLift.Core.Config
import RatingLift.Core.Storage

/-!
# Connector logos

Uploading, clearing and renaming the logo file of a connector.  An upload is checked as a whole (`checkLogo`)
before the storage is touched; after that the storage is written first and the row flushed last, so what a
failed flush leaves is the old row over the new files.  A function that touches the storage therefore returns
the storage next to its outcome.

* (`deleteExistingLogo_get`, `purgeSlugSiblings_get`) neither touches the object of a key that another row
  references.
-/

namespace RatingLift

open Library

namespace Logos

def isAsciiAlnum (c : Char) : Bool :=
  (0x61 ≤ c.toNat && c.toNat ≤ 0x7A) || (0x41 ≤ c.toNat && c.toNat ≤ 0x5A) ||
  (0x30 ≤ c.toNat && c.toNat ≤ 0x39)

/-- `re.sub(r"[^a-zA-Z0-9]+", "-", s)`; `inRun` says whether the last character was replaced. -/
def dashRuns : Bool → List Char → List Char
  | _, [] => []
  | inRun, c :: l =>
    if isAsciiAlnum c then c :: dashRuns false l
    else if inRun then dashRuns true l
    else '-' :: dashRuns true l

/-- `_slugify` -/
def slugify (nfkd : String → String) (name : String) : String :=
  if name = "" then "connector"
  else
    let asciiOnly := (nfkd name).toList.filter (·.toNat < 128)
    let slug := (Py.stripChars (· = '-') (dashRuns false asciiOnly)).map Char.toLower
    let slug := Py.stripChars (· = '-') (slug.take 60)
    if slug.isEmpty then "connector" else String.ofList slug

/-- `_logo_key` -/
def logoKey (slug ext : String) : String := "connectors/" ++ slug ++ "." ++ ext

/-- `Path(filename).suffix` -/
def pathSuffix (filename : String) : String :=
  let parts := (filename.toList.splitOn '/').filter fun p => !p.isEmpty && p != ['.']
  let name := parts.getLast?.getD []
  let tail := (name.reverse.takeWhile (· ≠ '.')).reverse
  -- `0 < name.rfind(".") < len(name) - 1`
  if name.contains '.' && !tail.isEmpty && tail.length + 1 < name.length then String.ofList ('.' :: tail)
  else ""

def allowedContentTypes : List (String × String) :=
  [("image/png", "png"), ("image/jpeg", "jpg"), ("image/jpg", "jpg"), ("image/svg+xml", "svg"),
    ("image/webp", "webp")]

def allowedExtensions : List String := ["png", "jpg", "jpeg", "svg", "webp"]

/-- `_safe_extension` -/
def safeExtension (lower : String → String) (filename contentType : Option String) : Except Exn String :=
  let byType := (contentType.filter (· ≠ "")).bind fun t => allowedContentTypes.lookup (lower t)
  match byType with
  | some ext => .ok ext
  | none =>
    let suffix := (filename.filter (· ≠ "")).map fun f => Py.lstripChar (lower (pathSuffix f)) '.'
    if suffix.any allowedExtensions.contains then .ok (if suffix = some "jpeg" then "jpg" else suffix.getD "")
    else .error (.http 415 "Unsupported logo type. Allowed: png, jpg, svg, webp.")

/-- `bytes.lower()` -/
def bytesLower (b : Bytes) : Bytes := b.map fun x => if 0x41 ≤ x ∧ x ≤ 0x5A then x + 32 else x

/-- `bytes.lstrip()` -/
def bytesLstrip (b : Bytes) : Bytes := b.dropWhile fun x => (0x09 ≤ x && x ≤ 0x0D) || x == 0x20

def ascii (s : String) : Bytes := s.toList.map fun c => c.toNat.toUInt8

def pilFormatToExt : List (String × String) := [("PNG", "png"), ("JPEG", "jpg"), ("WEBP", "webp")]

/-- `_validate_image_bytes` -/
def validateImageBytes (env : ConnectorEnv) (settings : Settings) (file : Bytes) (declaredExt : String) :
    Except Exn String :=
  if declaredExt = "svg" then
    let head := bytesLower (bytesLstrip (file.take 1024))
    if !((ascii "<?xml").isPrefixOf head || (ascii "<svg").isPrefixOf head) then
      .error (.http 415 "File does not look like a valid SVG image")
    else if !((bytesLower (file.take 4096)).tails.any fun t => (ascii "<svg").isPrefixOf t) then
      .error (.http 415 "File does not look like a valid SVG image")
    else .ok "svg"
  else if !env.imageVerify file then .error (.http 415 "File is not a valid image")
  else
    match env.imageOpen file with
    | none => .error (.http 415 "File is not a valid image")
    | some (format, width, height) =>
      match pilFormatToExt.lookup (String.ofList ((format.getD "").toList.map Char.toUpper)) with
      | none => .error (.http 415 "Unsupported image format")
      | some actualExt =>
        let maxPx := settings.connectorLogoMaxPixels
        if actualExt ≠ declaredExt then
          .error
            (.http 415
              ("Image content (" ++ actualExt ++ ") does not match declared type (" ++ declaredExt ++ ")"))
        else if maxPx ≠ 0 ∧ (width > maxPx ∨ height > maxPx) then
          .error
            (.http 413 ("Image dimensions exceed " ++ toString maxPx ++ "px (got " ++ toString width ++ "x" ++
            toString height ++ ")"))
        else .ok actualExt

end Logos

open Logos

structure UploadFile where
  data : Bytes
  filename : Option String
  contentType : Option String

/-- What an accepted upload determines: the slug, the extension and the digest. -/
structure CheckedLogo where
  slug : String
  ext : String
  digest : String

/-- `_is_logo_referenced_by_others` -/
def isLogoReferencedByOthers (db : Db) (connectorId : Uuid) (logoUrl logoSha256 : Option String) : Bool :=
  (db.connectors.first fun c => c.id != connectorId &&
    ((logoUrl.any (· ≠ "") && c.logoUrl == logoUrl) ||
      (logoSha256.any (· ≠ "") && c.logoSha256 == logoSha256))).isSome

section

variable (env : ConnectorEnv) (settings : Settings) (db : Db) (storage : Storage) (connector : Connector)

/-- The checks of `save_connector_logo`, all of which come before the storage is touched. -/
def checkLogo (file : UploadFile) : Except Exn CheckedLogo :=
  if file.data = [] then .error (.http 400 "Empty file")
  else if file.data.length > settings.connectorLogoMaxBytes then
    .error (.http 413 ("Logo too large (max " ++ toString settings.connectorLogoMaxBytes ++ " bytes)"))
  else do
    let ext ← safeExtension env.lower file.filename file.contentType
    let ext ← validateImageBytes env settings file.data ext
    let digest := env.sha256 file.data
    assertUniqueLogoHash db digest (some connector.id)
    let slug := slugify env.nfkd connector.name
    if (slug ++ "." ++ ext).toList.all fun c => isAsciiAlnum c || c == '_' || c == '.' || c == '-' then
      return ⟨slug, ext, digest⟩
    else .error (.http 400 "Invalid filename")

/-- `_delete_existing_logo` -/
def deleteExistingLogo : Storage :=
  match connector.logoUrl.filter (· ≠ "") with
  | none => storage
  | some url =>
    match storage.backend.keyFromUrl url with
    | none => storage
    | some key =>
      if isLogoReferencedByOthers db connector.id connector.logoUrl connector.logoSha256 then storage
      else storage.delete key

/-- The body of the loop of `_purge_slug_siblings` -/
def purgeSibling (keep : String) (storage : Storage) (key : String) : Storage :=
  if Py.endsWith key ("/" ++ keep) || key == "connectors/" ++ keep then storage
  else if isLogoReferencedByOthers db connector.id (some (storage.backend.urlFor key)) none then storage
  else storage.delete key

/-- `_purge_slug_siblings` -/
def purgeSlugSiblings (slug keep : String) : Storage :=
  let safeSlug := String.ofList (slug.toList.filter fun c => isAsciiAlnum c || c == '_' || c == '-')
  if safeSlug = "" then storage
  else (storage.listPrefix ("connectors/" ++ safeSlug ++ ".")).foldl (purgeSibling db connector keep) storage

/-- The row that `save_connector_logo` flushes. -/
def CheckedLogo.row (logo : CheckedLogo) : Connector :=
  { connector with
    logoUrl := some (storage.backend.urlFor (logoKey logo.slug logo.ext)), logoSha256 := some logo.digest }

/-- The storage operations of `save_connector_logo` for an accepted file. -/
def CheckedLogo.store (logo : CheckedLogo) (data : Bytes) : Storage :=
  let storage := deleteExistingLogo db storage connector
  let storage := purgeSlugSiblings db storage connector logo.slug (logo.slug ++ "." ++ logo.ext)
  storage.save (logoKey logo.slug logo.ext) data

/-- `save_connector_logo` -/
def saveConnectorLogo (file : UploadFile) : Storage × Except Exn Db :=
  match checkLogo env settings db connector file with
  | .error e => (storage, .error e)
  | .ok logo =>
    (logo.store db storage connector file.data, flushConnector env db (logo.row storage connector))

/-- `clear_connector_logo` -/
def clearConnectorLogo : Storage × Except Exn Db :=
  (deleteExistingLogo db storage connector,
    flushConnector env db { connector with logoUrl := none, logoSha256 := none })

/-- The keys between which `_rename_logo_to_match_name` moves the logo, when it does. -/
def renameTarget : Option (String × String) := do
  let url ← connector.logoUrl.filter (· ≠ "")
  let srcKey ← storage.backend.keyFromUrl url
  let ext := ((Py.afterLast? srcKey '.').map env.lower).getD ""
  let dstKey := logoKey (slugify env.nfkd connector.name) ext
  if ext = "" ∨ dstKey = srcKey then none else some (srcKey, dstKey)

/-- `_rename_logo_to_match_name` -/
def renameLogoToMatchName : Storage × Connector :=
  match renameTarget env storage connector with
  | none => (storage, connector)
  | some (srcKey, dstKey) =>
    (storage.move srcKey dstKey, { connector with logoUrl := some (storage.backend.urlFor dstKey) })

/-- The part of `update_connector` that changes the name. -/
def applyName (name : Option String) : Except Exn (Storage × Connector) :=
  match name.map Py.strip with
  | none => .ok (storage, connector)
  | some newName =>
    if newName = connector.name then .ok (storage, connector)
    else do
      assertUniqueName env db newName (some connector.id)
      return renameLogoToMatchName env storage { connector with name := newName }

/-- The part of `update_connector` after the name. -/
def applyAttributes (logoUrl : Option String) (isActive : Option Bool) (displayOrder : Option Int) :
    Except Exn Connector :=
  let connector :=
    { connector with logoUrl := logoUrl.or connector.logoUrl, isActive := isActive.getD connector.isActive }
  match displayOrder with
  | none => .ok connector
  | some order =>
    if order < 0 then .error (.http 400 "display_order must be ≥ 0")
    else .ok { connector with displayOrder := order.toNat }

/-- `update_connector` -/
def updateConnectorMaster (name logoUrl : Option String) (isActive : Option Bool)
    (displayOrder : Option Int) :
    Storage × Except Exn Db :=
  match applyName env db storage connector name with
  | .error e => (storage, .error e)
  | .ok (storage, connector) =>
    (storage, do flushConnector env db (← applyAttributes connector logoUrl isActive displayOrder))

end

/-! ### What the storage operations leave alone -/

/-- The logo URL of another row names the key. -/
def OthersLogo (db : Db) (backend : Backend) (connectorId : Uuid) (key : String) : Prop :=
  ∃ c ∈ db.connectors, c.id ≠ connectorId ∧ c.logoUrl = some (backend.urlFor key)

section

variable {db : Db} {storage : Storage} {connector : Connector} {k : String}

/-- A row with the same URL is a reference. -/
theorem isLogoReferencedByOthers_of_url {connectorId : Uuid} {c : Connector} {url : String}
    (hc : c ∈ db.connectors) (hne : c.id ≠ connectorId) (hurl : c.logoUrl = some url) (hempty : url ≠ "")
    (logoSha256 : Option String) :
    isLogoReferencedByOthers db connectorId (some url) logoSha256 = true := by
  unfold isLogoReferencedByOthers
  rw [Option.isSome_iff_ne_none, Ne, Table.first_eq_none]
  intro hnone
  have hc' := hnone c hc
  simp [hne, hurl, hempty] at hc'

theorem OthersLogo.referenced {backend : Backend} {connectorId : Uuid}
    (h : OthersLogo db backend connectorId k) (logoSha256 : Option String) :
    isLogoReferencedByOthers db connectorId (some (backend.urlFor k)) logoSha256 = true := by
  obtain ⟨c, hc, hne, hurl⟩ := h
  exact isLogoReferencedByOthers_of_url hc hne hurl (backend.urlFor_ne_empty k) logoSha256

@[simp] theorem deleteExistingLogo_backend :
    (deleteExistingLogo db storage connector).backend = storage.backend := by
  unfold deleteExistingLogo
  split
  · rfl
  · split
    · rfl
    · split <;> rfl

/-- Deleting the logo of a row whose URL was built from a key leaves the logos of the others. -/
theorem deleteExistingLogo_get {key : String} (hplain : key.toList.head? ≠ some '/')
    (hurl : connector.logoUrl = some (storage.backend.urlFor key))
    (h : OthersLogo db storage.backend connector.id k) :
    (deleteExistingLogo db storage connector).get k = storage.get k := by
  have hne : storage.backend.urlFor key ≠ "" := storage.backend.urlFor_ne_empty key
  have hkey := storage.backend.keyFromUrl_urlFor hplain
  unfold deleteExistingLogo
  simp only [hurl, Option.filter_some, hne, ne_eq, not_false_eq_true, decide_true, ↓reduceIte, hkey]
  split
  · rfl
  · rename_i href
    have hk : k ≠ key := by
      rintro rfl
      exact href (h.referenced connector.logoSha256)
    rw [Storage.get_delete, if_neg hk]

theorem purgeSibling_backend (keep key : String) :
    (purgeSibling db connector keep storage key).backend = storage.backend := by
  unfold purgeSibling
  split
  · rfl
  · split <;> rfl

theorem purgeSibling_get {keep : String} (key : String) (h : OthersLogo db storage.backend connector.id k) :
    (purgeSibling db connector keep storage key).get k = storage.get k := by
  unfold purgeSibling
  split
  · rfl
  · split
    · rfl
    · rename_i href
      have hk : k ≠ key := by
        rintro rfl
        exact href (h.referenced none)
      rw [Storage.get_delete, if_neg hk]

private theorem purge_fold (keep : String) (keys : List String) : ∀ storage : Storage,
    (keys.foldl (purgeSibling db connector keep) storage).backend = storage.backend ∧
      (OthersLogo db storage.backend connector.id k →
        (keys.foldl (purgeSibling db connector keep) storage).get k = storage.get k) := by
  induction keys with
  | nil => intro storage; exact ⟨rfl, fun _ => rfl⟩
  | cons key keys ih =>
    intro storage
    have hb : (purgeSibling db connector keep storage key).backend = storage.backend :=
      purgeSibling_backend keep key
    obtain ⟨ihb, ihg⟩ := ih (purgeSibling db connector keep storage key)
    rw [List.foldl_cons]
    refine ⟨ihb.trans hb, ?_⟩
    intro h
    rw [ihg (hb ▸ h), purgeSibling_get key h]

@[simp] theorem purgeSlugSiblings_backend (slug keep : String) :
    (purgeSlugSiblings db storage connector slug keep).backend = storage.backend := by
  unfold purgeSlugSiblings
  extract_lets safeSlug
  split
  · rfl
  · exact (purge_fold (k := "") keep _ storage).1

/-- The purge leaves the logos of the others. -/
theorem purgeSlugSiblings_get (slug keep : String) (h : OthersLogo db storage.backend connector.id k) :
    (purgeSlugSiblings db storage connector slug keep).get k = storage.get k := by
  unfold purgeSlugSiblings
  extract_lets safeSlug
  split
  · rfl
  · exact (purge_fold keep _ storage).2 h

end

end RatingLift
