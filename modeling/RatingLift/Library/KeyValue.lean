import Mathlib.Logic.Function.Basic

/-!
# The contract of a key-value store

What a caller may expect of a store that keeps at most one value under each key: the calls, what each makes of
the map from keys to values, and the answer it gets.  A listing asks for the keys that a query selects, in any
order.

* (`StoreCall.apply_move`, `StoreCall.apply_move_self`) what a move makes of the stored values.
-/

namespace Library

universe u v w

inductive StoreCall (κ : Type u) (β : Type v) (ι : Type w) where
  | save (key : κ) (value : β)
  | delete (key : κ)
  | has (key : κ)
  | move (src dst : κ)
  | list (query : ι)

/-- What a call answers; the raised exceptions are not told apart. -/
inductive StoreAnswer (κ : Type u) where
  | done
  | found (present : Bool)
  | keys (all : List κ)
  | raised
deriving DecidableEq

namespace StoreCall

variable {κ : Type u} {β : Type v} {ι : Type w}

/-- The keys that a call names. -/
def names : StoreCall κ β ι → List κ
  | save key _ | delete key | has key => [key]
  | move src dst => [src, dst]
  | list _ => []

variable [DecidableEq κ]

/-- What a call makes of the stored values; moving a key that is not there, or to itself, changes nothing. -/
def apply (stored : κ → Option β) : StoreCall κ β ι → (κ → Option β)
  | save key value => Function.update stored key (some value)
  | delete key => Function.update stored key none
  | move src dst =>
    match stored src with
    | none => stored
    | some value =>
      if src = dst then stored else Function.update (Function.update stored dst (some value)) src none
  | has _ | list _ => stored

/-- The call got the answer it should get. -/
def Answers (selects : ι → κ → Prop) (stored : κ → Option β) : StoreCall κ β ι → StoreAnswer κ → Prop
  | save _ _, .done | delete _, .done | move _ _, .done => True
  | has key, .found present => present = (stored key).isSome
  | list query, .keys all => ∀ key, key ∈ all ↔ stored key ≠ none ∧ selects query key
  | _, _ => False

theorem apply_move_self {stored : κ → Option β} {src dst : κ} (h : stored src = none ∨ src = dst) :
    (move src dst : StoreCall κ β ι).apply stored = stored := by
  unfold apply
  cases hsrc : stored src with
  | none => simp only [hsrc]
  | some value =>
    have heq : src = dst := h.resolve_left (by simp [hsrc])
    simp only [hsrc, if_pos heq]

theorem apply_move {stored : κ → Option β} {src dst : κ} {value : β} (hsrc : stored src = some value)
    (hne : src ≠ dst) (key : κ) :
    (move src dst : StoreCall κ β ι).apply stored key =
      if key = src then none else if key = dst then some value else stored key := by
  simp only [apply, hsrc, if_neg hne, Function.update_apply]

end StoreCall

end Library
