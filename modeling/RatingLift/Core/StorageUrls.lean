import RatingLift.Core.Storage

/-!
# Storage URLs

Whether `key_from_url` is the inverse of `url_for`.  From key to URL and back it is, on both backends.  From
URL to key and back it is not in a bucket that the backend shares with others: `S3Storage.key_from_url` takes
a URL of the bucket that lies beside the backend's own key prefix for one of its keys.

* (`Backend.inverse_iff`) the two functions are inverse at a URL exactly when it does not lie beside the key
  prefix;
* (`SharedBucket.foreign_url_has_key`) the URL of another application's object is read as a key.
-/

namespace RatingLift

/-- A key that names an object: not empty, and without a leading slash. -/
structure ValidKey (key : String) : Prop where
  ne_empty : key ≠ ""
  plain : key.toList.head? ≠ some '/'

namespace Backend

/-- What the URLs of the backend start with. -/
def urlSpace : Backend → String
  | .localFiles urlPrefix => urlPrefix ++ "/"
  | .s3 urlBase keyPrefix => if keyPrefix = "" then urlBase ++ "/" else urlBase ++ "/" ++ (keyPrefix ++ "/")

/-- `url_for` and `key_from_url` agree on a URL. -/
structure InverseAt (backend : Backend) (url : String) : Prop where
  of_key : ∀ key, ValidKey key → backend.keyFromUrl (backend.urlFor key) = some key
  of_url : ∀ key, ValidKey key → backend.keyFromUrl url = some key → backend.urlFor key = url
  foreign : Py.startsWith url backend.urlSpace = false → backend.keyFromUrl url = none

/-- The URL is in the bucket and beside the key prefix of the backend. -/
def BesideKeyPrefix (backend : Backend) (url : String) : Prop :=
  match backend with
  | .localFiles _ => False
  | .s3 urlBase keyPrefix =>
    keyPrefix ≠ "" ∧ Py.startsWith url (urlBase ++ "/") = true ∧
      Py.startsWith url (urlBase ++ "/" ++ (keyPrefix ++ "/")) = false

variable {backend : Backend} {url key : String}

theorem urlFor_eq_urlSpace_append (h : ValidKey key) : backend.urlFor key = backend.urlSpace ++ key := by
  have hkey : Py.lstripChar key '/' = key := Py.lstripChar_eq_self h.plain
  cases backend with
  | localFiles urlPrefix => simp [urlFor, urlSpace, hkey]
  | s3 urlBase keyPrefix =>
    by_cases hp : keyPrefix = ""
    · simp [urlFor, urlSpace, full, hkey, hp]
    · simp [urlFor, urlSpace, full, hkey, hp, String.append_assoc]

/-- A URL that does not lie beside the key prefix is read as the part after `urlSpace`. -/
theorem keyFromUrl_eq (h : ¬ backend.BesideKeyPrefix url) :
    backend.keyFromUrl url = Py.dropPrefix? url backend.urlSpace := by
  cases backend with
  | localFiles urlPrefix => rfl
  | s3 urlBase keyPrefix =>
    by_cases hp : keyPrefix = ""
    · simp only [keyFromUrl, urlSpace, hp, ↓reduceIte]
      cases Py.dropPrefix? url (urlBase ++ "/") <;> rfl
    simp only [keyFromUrl, urlSpace, hp, ↓reduceIte]
    cases hrest : Py.dropPrefix? url (urlBase ++ "/") with
    | none =>
      -- outside the bucket
      symm
      rw [Py.dropPrefix?_eq_none, Bool.eq_false_iff]
      intro hspace
      obtain ⟨t, rfl⟩ := Py.startsWith_iff.mp hspace
      rw [String.append_assoc, Py.dropPrefix?_append] at hrest
      cases hrest
    | some rest =>
      obtain rfl := Py.dropPrefix?_eq_some.mp hrest
      have hinside :
          Py.startsWith (urlBase ++ "/" ++ rest) (urlBase ++ "/" ++ (keyPrefix ++ "/")) = true := by
        by_contra hout
        exact h ⟨hp, Py.startsWith_iff.mpr ⟨rest, rfl⟩, by simpa using hout⟩
      obtain ⟨t, ht⟩ := Py.startsWith_iff.mp hinside
      have hsame : urlBase ++ "/" ++ rest = urlBase ++ "/" ++ (keyPrefix ++ "/" ++ t) := by
        rw [ht, String.append_assoc]
      obtain rfl : rest = keyPrefix ++ "/" ++ t := (String.append_right_inj _).mp hsame
      simp only [Py.dropPrefix?_append, Option.getD_some]
      rw [← String.append_assoc, Py.dropPrefix?_append]

/-- Beside the key prefix every URL is read as a key. -/
theorem keyFromUrl_of_beside (h : backend.BesideKeyPrefix url) :
    (backend.keyFromUrl url).isSome = true ∧ Py.startsWith url backend.urlSpace = false := by
  cases backend with
  | localFiles urlPrefix => exact h.elim
  | s3 urlBase keyPrefix =>
    obtain ⟨hp, hbucket, hout⟩ := h
    obtain ⟨rest, rfl⟩ := Py.startsWith_iff.mp hbucket
    refine ⟨by simp [keyFromUrl, hp], ?_⟩
    rw [urlSpace, if_neg hp]
    exact hout

/-- `key_from_url` inverts `url_for` at a URL exactly when the URL does not lie beside the key prefix. -/
theorem inverse_iff (backend : Backend) (url : String) :
    backend.InverseAt url ↔ ¬ backend.BesideKeyPrefix url := by
  constructor
  · intro hinverse hbeside
    obtain ⟨hsome, hout⟩ := keyFromUrl_of_beside hbeside
    rw [hinverse.foreign hout] at hsome
    cases hsome
  · intro hbeside
    refine ⟨?_, ?_, ?_⟩
    · intro key hkey
      exact backend.keyFromUrl_urlFor hkey.plain
    · intro key hkey hread
      rw [keyFromUrl_eq hbeside] at hread
      rw [urlFor_eq_urlSpace_append hkey, Py.dropPrefix?_eq_some.mp hread]
    · intro hout
      rw [keyFromUrl_eq hbeside, Py.dropPrefix?_eq_none]
      exact hout

end Backend

/-! ### A bucket shared with another application -/

namespace SharedBucket

def backend : Backend := .ofS3 "media" none (some "https://cdn.example.com/") "ratinglift"

def reportUrl : String := "https://cdn.example.com/billing/report.svg"

/-- An object of the bucket outside `ratinglift/` has a key, and the URL of that key is a different one. -/
theorem foreign_url_has_key : Py.startsWith reportUrl backend.urlSpace = false ∧
    ∃ key, ValidKey key ∧ backend.keyFromUrl reportUrl = some key ∧ backend.urlFor key ≠ reportUrl := by
  refine ⟨by decide, "billing/report.svg", ⟨by decide, by decide⟩, by decide, by decide⟩

end SharedBucket

end RatingLift
