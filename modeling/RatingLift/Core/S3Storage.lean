import RatingLift.Library.KeyValue
import RatingLift.Core.Storage
import RatingLift.Python.Paths

/-!
# The S3 storage

`S3Storage` keeps the object of a key in a bucket, under the key prefix.  The bucket is reached through the
client of a library, which is a parameter: the requests that the storage makes of it and, as
`ObjectStore.Lawful`, what the service promises of them.

* (`S3Storage.mem_listPrefix`) `list_prefix` finds the keys that start with the prefix less its leading
  slashes.
-/

namespace RatingLift

open Library Py

universe u

/-- The requests of the client; `copyObject` is `none` where it raises for a missing source, and `listObjects`
joins the pages. -/
structure ObjectStore (σ : Type u) where
  object : σ → String → Option Bytes
  putObject : σ → String → Bytes → σ
  deleteObject : σ → String → σ
  copyObject : σ → String → String → Option σ
  listObjects : σ → String → List String

/-- What the service promises. -/
structure ObjectStore.Lawful {σ : Type u} (store : ObjectStore σ) : Prop where
  put : ∀ s key data k, store.object (store.putObject s key data) k = if k = key then some data
    else store.object s k
  delete : ∀ s key k, store.object (store.deleteObject s key) k = if k = key then none else store.object s k
  copy_missing : ∀ s src dst, store.object s src = none → store.copyObject s src dst = none
  copy_found : ∀ s src dst data, store.object s src = some data → ∃ s', store.copyObject s src dst = some s' ∧
    ∀ k, store.object s' k = if k = dst then some data else store.object s k
  list : ∀ s start key, key ∈ store.listObjects s start ↔
    store.object s key ≠ none ∧ startsWith key start = true

namespace S3Storage

variable {σ : Type u} (store : ObjectStore σ) (keyPrefix : String) (s : σ)

/-- The object key of a key without a leading slash. -/
def inNamespace (key : String) : String := if keyPrefix = "" then key else keyPrefix ++ "/" ++ key

/-- `save`, up to the URL it returns -/
def save (key : String) (data : Bytes) : σ := store.putObject s (Backend.full keyPrefix key) data

/-- `delete` -/
def delete (key : String) : σ := store.deleteObject s (Backend.full keyPrefix key)

/-- `exists` -/
def exists' (key : String) : Bool := (store.object s (Backend.full keyPrefix key)).isSome

/-- `move` -/
def move (srcKey dstKey : String) : σ :=
  if srcKey = dstKey then s
  else
    match store.copyObject s (Backend.full keyPrefix srcKey) (Backend.full keyPrefix dstKey) with
    | none => s
    | some s' => store.deleteObject s' (Backend.full keyPrefix srcKey)

/-- `list_prefix` -/
def listPrefix (start : String) : List String :=
  (store.listObjects s (Backend.full keyPrefix start)).map fun fullKey =>
    if keyPrefix = "" then fullKey else (dropPrefix? fullKey (keyPrefix ++ "/")).getD fullKey

/-- A call and its answer. -/
def serve : StoreCall String Bytes String → σ × StoreAnswer String
  | .save key data => (save store keyPrefix s key data, .done)
  | .delete key => (delete store keyPrefix s key, .done)
  | .has key => (s, .found (exists' store keyPrefix s key))
  | .move src dst => (move store keyPrefix s src dst, .done)
  | .list start => (s, .keys (listPrefix store keyPrefix s start))

variable {store keyPrefix s}

theorem full_eq (key : String) :
    Backend.full keyPrefix key = inNamespace keyPrefix (lstripChar key '/') := rfl

theorem inNamespace_injective : Function.Injective (inNamespace keyPrefix) := by
  intro a b h
  unfold inNamespace at h
  split at h
  · exact h
  · exact String.toList_injective (by simpa using congrArg String.toList h)

theorem inNamespace_append (key rest : String) :
    inNamespace keyPrefix (key ++ rest) = inNamespace keyPrefix key ++ rest := by
  unfold inNamespace
  split
  · rfl
  · exact String.append_assoc.symm

/-- What `list_prefix` makes of the keys in its namespace. -/
theorem stripped_inNamespace (key : String) :
    (if keyPrefix = "" then inNamespace keyPrefix key
      else (dropPrefix? (inNamespace keyPrefix key) (keyPrefix ++ "/")).getD
        (inNamespace keyPrefix key)) = key := by
  unfold inNamespace
  split
  · rfl
  · rw [dropPrefix?_append, Option.getD_some]

theorem mem_listPrefix (hlaw : store.Lawful) {key start : String} :
    key ∈ listPrefix store keyPrefix s start ↔
      store.object s (inNamespace keyPrefix key) ≠ none ∧ startsWith key (lstripChar start '/') = true := by
  unfold listPrefix
  rw [List.mem_map]
  constructor
  · rintro ⟨fullKey, hmem, rfl⟩
    obtain ⟨hobject, hstart⟩ := (hlaw.list s _ _).mp hmem
    obtain ⟨rest, rfl⟩ := startsWith_iff.mp hstart
    rw [full_eq, ← inNamespace_append] at hobject ⊢
    rw [stripped_inNamespace]
    exact ⟨hobject, startsWith_iff.mpr ⟨rest, rfl⟩⟩
  · rintro ⟨hobject, hstart⟩
    obtain ⟨rest, rfl⟩ := startsWith_iff.mp hstart
    refine ⟨_, (hlaw.list s _ _).mpr ⟨hobject, ?_⟩, stripped_inNamespace _⟩
    rw [full_eq, inNamespace_append]
    exact startsWith_iff.mpr ⟨rest, rfl⟩

/-- The keys of the namespace hold what is stored. -/
def Holds (store : ObjectStore σ) (keyPrefix : String) (s : σ) (stored : String → Option Bytes) : Prop :=
  ∀ key, store.object s (inNamespace keyPrefix key) = stored key

theorem full_of_plain (keyPrefix : String) {key : String} (h : PlainPath key) :
    Backend.full keyPrefix key = inNamespace keyPrefix key := by
  rw [full_eq, lstripChar_eq_self (head?_ne_slash_of_plain h)]

theorem inNamespace_eq_iff {a b : String} : inNamespace keyPrefix a = inNamespace keyPrefix b ↔ a = b :=
  inNamespace_injective.eq_iff

/-- Calls on plain keys do to the bucket what the contract says. -/
theorem Holds.step (hlaw : store.Lawful) {stored : String → Option Bytes} (h : Holds store keyPrefix s stored)
    {call : StoreCall String Bytes String} (hplain : ∀ key ∈ call.names, PlainPath key) :
    Holds store keyPrefix (serve store keyPrefix s call).1 (call.apply stored) := by
  intro k
  cases call with
  | save key data =>
    have hkey := full_of_plain keyPrefix (hplain key List.mem_cons_self)
    show store.object (store.putObject s (Backend.full keyPrefix key) data) _ =
      Function.update stored key (some data) k
    rw [hkey, hlaw.put, Function.update_apply, h k]
    simp only [inNamespace_eq_iff]
  | delete key =>
    have hkey := full_of_plain keyPrefix (hplain key List.mem_cons_self)
    show store.object (store.deleteObject s (Backend.full keyPrefix key)) _ =
      Function.update stored key none k
    rw [hkey, hlaw.delete, Function.update_apply, h k]
    simp only [inNamespace_eq_iff]
  | has _ => exact h k
  | list _ => exact h k
  | move src dst =>
    have hsrc := full_of_plain keyPrefix (hplain src List.mem_cons_self)
    have hdst := full_of_plain keyPrefix (hplain dst (by simp [StoreCall.names]))
    show store.object (move store keyPrefix s src dst) _ = _
    unfold move
    rw [hsrc, hdst]
    by_cases heq : src = dst
    · rw [if_pos heq, StoreCall.apply_move_self (Or.inr heq)]
      exact h k
    · rw [if_neg heq]
      cases hfound : stored src with
      | none =>
        rw [hlaw.copy_missing s _ _ ((h src).trans hfound), StoreCall.apply_move_self (Or.inl hfound)]
        exact h k
      | some data =>
        obtain ⟨s', hcopy, hobject⟩ :=
          hlaw.copy_found s _ (inNamespace keyPrefix dst) data ((h src).trans hfound)
        rw [hcopy, StoreCall.apply_move hfound heq, hlaw.delete, hobject, h k]
        simp only [inNamespace_eq_iff]

/-- Apart from a listing, S3 answers as the contract says. -/
theorem Holds.answer {stored : String → Option Bytes} (h : Holds store keyPrefix s stored)
    {call : StoreCall String Bytes String} (hplain : ∀ key ∈ call.names, PlainPath key)
    (hlist : ∀ start, call ≠ .list start) (selects : String → String → Prop) :
    call.Answers selects stored (serve store keyPrefix s call).2 := by
  cases call with
  | save _ _ => trivial
  | delete _ => trivial
  | move _ _ => trivial
  | has key =>
    show (store.object s (Backend.full keyPrefix key)).isSome = (stored key).isSome
    rw [full_of_plain keyPrefix (hplain key List.mem_cons_self), h key]
  | list start => exact absurd rfl (hlist start)

end S3Storage

end RatingLift
