import Mathlib.Data.Rat.Defs
import RatingLift.Python.Str

/-!
# JSON values as Python objects

The values that `json.loads` builds and a JSON column holds.  A float is finite and given by its exact value.

`pyEq` is `==` of these objects.  It is coarser than `=`, the equality of the JSON texts: `True`, `1` and
`1.0` compare equal, and the order of the keys of a `dict` does not count.
-/

namespace RatingLift

inductive Json where
  | none
  | bool (b : Bool)
  | int (n : Int)
  | float (q : Rat)
  | str (s : String)
  | list (xs : List Json)
  | dict (kvs : List (String × Json))

/-- A `dict` with string keys, in insertion order. -/
abbrev Dict := List (String × Json)

namespace Json

/-- The number that a numeric value compares as. -/
def num? : Json → Option Rat
  | .bool b => some (if b then 1 else 0)
  | .int n => some n
  | .float q => some q
  | _ => Option.none

mutual

/-- `x == y` -/
def pyEq : Json → Json → Bool
  | .none, .none => true
  | .str s, .str t => s == t
  | .list xs, .list ys => pyEqList xs ys
  | .dict kvs, .dict kvs' => kvs.length == kvs'.length && pyEqDict kvs kvs'
  | .bool b, y => num? (.bool b) == num? y
  | .int n, y => num? (.int n) == num? y
  | .float q, y => num? (.float q) == num? y
  | _, _ => false
termination_by structural x => x

def pyEqList : List Json → List Json → Bool
  | [], [] => true
  | x :: xs, y :: ys => pyEq x y && pyEqList xs ys
  | _, _ => false
termination_by structural xs => xs

/-- Every entry of the first `dict` has an equal entry in the second. -/
def pyEqDict : List (String × Json) → List (String × Json) → Bool
  | [], _ => true
  | kv :: kvs, kvs' => kvs'.any (pyEqEntry kv) && pyEqDict kvs kvs'
termination_by structural kvs => kvs

def pyEqEntry : String × Json → String × Json → Bool
  | (k, x), (k', y) => k == k' && pyEq x y
termination_by structural kv => kv

end

mutual

theorem pyEq_refl : ∀ x : Json, pyEq x x = true
  | .none => by simp [pyEq]
  | .bool b => by simp [pyEq]
  | .int n => by simp [pyEq]
  | .float q => by simp [pyEq]
  | .str s => by simp [pyEq]
  | .list xs => by rw [pyEq]; exact pyEqList_refl xs
  | .dict kvs => by
    rw [pyEq]
    simp only [beq_self_eq_true, Bool.true_and]
    exact pyEqDict_of_subset kvs kvs fun _ h => h

theorem pyEqList_refl : ∀ xs : List Json, pyEqList xs xs = true
  | [] => by simp [pyEqList]
  | x :: xs => by simp [pyEqList, pyEq_refl x, pyEqList_refl xs]

theorem pyEqDict_of_subset : ∀ kvs kvs' : List (String × Json), kvs ⊆ kvs' → pyEqDict kvs kvs' = true
  | [], _, _ => by simp [pyEqDict]
  | kv :: kvs, kvs', h => by
    rw [pyEqDict, Bool.and_eq_true, List.any_eq_true]
    exact ⟨⟨kv, h List.mem_cons_self, pyEqEntry_refl kv⟩,
      pyEqDict_of_subset kvs kvs' fun x hx => h (List.mem_cons_of_mem _ hx)⟩

theorem pyEqEntry_refl : ∀ kv : String × Json, pyEqEntry kv kv = true
  | (k, x) => by simp [pyEqEntry, pyEq_refl x]

end

/-- `bool(x)` -/
def truthy : Json → Bool
  | .none => false
  | .bool b => b
  | .int n => n != 0
  | .float q => q != 0
  | .str s => s != ""
  | .list xs => !xs.isEmpty
  | .dict kvs => !kvs.isEmpty

/-- `str(x)`; the text of floats and containers is `repr`. -/
def toStr (repr : Json → String) : Json → String
  | .none => "None"
  | .bool true => "True"
  | .bool false => "False"
  | .int n => toString n
  | .str s => s
  | x => repr x

/-- `d.get(k)`, with `None` for a missing key. -/
def get (d : Dict) (k : String) : Json :=
  match d.find? fun kv => kv.1 == k with
  | some kv => kv.2
  | Option.none => .none

/-- A nullable text. -/
def ofOption : Option String → Json
  | Option.none => .none
  | some s => .str s

theorem pyEq_ofOption (s t : Option String) : pyEq (ofOption s) (ofOption t) = true ↔ s = t := by
  cases s <;> cases t <;> simp [ofOption, pyEq]

end Json

/-- `c == c'` for an optional `dict`. -/
def optDictEq : Option Dict → Option Dict → Bool
  | none, none => true
  | some c, some c' => Json.pyEq (.dict c) (.dict c')
  | _, _ => false

@[simp] theorem optDictEq_refl (c : Option Dict) : optDictEq c c = true := by
  cases c with
  | none => rfl
  | some c => exact Json.pyEq_refl _

example :
    Json.pyEq (.dict [("a", .bool true), ("b", .none)]) (.dict [("b", .none), ("a", .int 1)]) = true := by
  decide

end RatingLift
