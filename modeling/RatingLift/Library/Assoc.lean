import Mathlib.Data.List.Nodup

/-!
# Dictionaries that keep the order of insertion

A dictionary is a list of pairs with different keys.  Writing to a key that is there replaces its value in
place, and a new key comes last; `ofPairs` writes a list of pairs one after the other, so the last value of a
key stays.

* (`mem_ofPairs`) the entries are the keys with their last values;
* (`forall_ofPairs_cons`) a property of the values, one pair at a time;
* (`ofPairs_eq_self`) pairs with different keys are the dictionary that they make.
-/

namespace Library

namespace Assoc

variable {κ ν : Type*} [DecidableEq κ]

/-- `d[k] = v` -/
def put (d : List (κ × ν)) (k : κ) (v : ν) : List (κ × ν) :=
  if k ∈ d.map Prod.fst then d.map fun x => if x.1 = k then (k, v) else x else d ++ [(k, v)]

/-- `{k: v for k, v in l}` -/
def ofPairs (l : List (κ × ν)) : List (κ × ν) := l.foldl (fun d x => put d x.1 x.2) []

/-- The value of the last pair with the key. -/
def last : List (κ × ν) → κ → Option ν
  | [], _ => none
  | x :: l, k => (last l k).or (if x.1 = k then some x.2 else none)

theorem last_eq_none {l : List (κ × ν)} {k : κ} : last l k = none ↔ k ∉ l.map Prod.fst := by
  induction l with
  | nil => simp [last]
  | cons x l ih =>
    unfold last
    rw [Option.or_eq_none_iff, ih, List.map_cons, List.mem_cons, not_or, and_comm]
    by_cases hx : x.1 = k
    · simp [hx]
    · simp [hx, Ne.symm hx]

theorem last_append (l l' : List (κ × ν)) (k : κ) : last (l ++ l') k = (last l' k).or (last l k) := by
  induction l with
  | nil => simp [last]
  | cons x l ih =>
    rw [List.cons_append, last, last, ih, Option.or_assoc]

/-- With different keys, the last value of a key is its value. -/
theorem last_eq_some_of_nodup {d : List (κ × ν)} (h : (d.map Prod.fst).Nodup) {k : κ} {v : ν} :
    last d k = some v ↔ (k, v) ∈ d := by
  induction d with
  | nil => simp [last]
  | cons x d ih =>
    rw [List.map_cons, List.nodup_cons] at h
    have ih := ih h.2
    unfold last
    by_cases hx : x.1 = k
    · subst hx
      have hnone : last d x.1 = none := last_eq_none.mpr h.1
      have hnot : (x.1, v) ∉ d := fun hmem => h.1 (List.mem_map.mpr ⟨_, hmem, rfl⟩)
      rw [hnone, Option.none_or, if_pos rfl, Option.some.injEq, List.mem_cons, or_iff_left hnot]
      constructor
      · rintro rfl
        rfl
      · intro hpair
        rw [← hpair]
    · have hne : (k, v) ≠ x := by
        rintro rfl
        exact hx rfl
      rw [if_neg hx, Option.or_none, ih, List.mem_cons, or_iff_right hne]

theorem keys_put (d : List (κ × ν)) (k : κ) (v : ν) :
    (put d k v).map Prod.fst = if k ∈ d.map Prod.fst then d.map Prod.fst else d.map Prod.fst ++ [k] := by
  unfold put
  split
  · rw [List.map_map]
    apply List.map_congr_left
    intro x _
    by_cases hx : x.1 = k
    · simp [hx]
    · simp [hx]
  · simp

theorem nodup_put {d : List (κ × ν)} (h : (d.map Prod.fst).Nodup) (k : κ) (v : ν) :
    ((put d k v).map Prod.fst).Nodup := by
  rw [keys_put]
  split
  · exact h
  · rename_i hk
    rw [List.nodup_append]
    refine ⟨h, by simp, ?_⟩
    rintro a ha b hb rfl
    rw [List.mem_singleton] at hb
    exact hk (hb ▸ ha)

/-- A value written in place is the last one of its key. -/
theorem last_replace (d : List (κ × ν)) (k k' : κ) (v : ν) :
    last (d.map fun x => if x.1 = k then (k, v) else x) k' = if k = k' then (last d k).map fun _ =>
      v else last d k' := by
  induction d with
  | nil => simp [last]
  | cons x d ih =>
    rw [List.map_cons, last, last, last, ih]
    by_cases hk : k = k'
    · subst hk
      by_cases hx : x.1 = k
      · cases last d k <;> simp [hx]
      · cases last d k <;> simp [hx]
    · by_cases hx : x.1 = k
      · simp [hk, hx]
      · simp [hk, hx]

theorem last_put (d : List (κ × ν)) (k k' : κ) (v : ν) :
    last (put d k v) k' = if k = k' then some v else last d k' := by
  unfold put
  split
  · rename_i hk
    rw [last_replace]
    cases hlast : last d k with
    | none => exact absurd hk (last_eq_none.mp hlast)
    | some w => rfl
  · by_cases hk' : k = k'
    · simp [last_append, last, hk']
    · simp [last_append, last, hk']

private theorem foldl_put (l : List (κ × ν)) : ∀ d : List (κ × ν), (d.map Prod.fst).Nodup →
    ((l.foldl (fun d x => put d x.1 x.2) d).map Prod.fst).Nodup ∧
      ∀ k, last (l.foldl (fun d x => put d x.1 x.2) d) k = (last l k).or (last d k) := by
  induction l with
  | nil => intro d hd; exact ⟨hd, fun k => by simp [last]⟩
  | cons x l ih =>
    intro d hd
    obtain ⟨hnodup, hlast⟩ := ih (put d x.1 x.2) (nodup_put hd x.1 x.2)
    refine ⟨hnodup, ?_⟩
    intro k
    rw [List.foldl_cons, hlast, last_put, last, Option.or_assoc]
    by_cases hx : x.1 = k
    · simp [hx]
    · simp [hx]

theorem nodup_ofPairs (l : List (κ × ν)) : ((ofPairs l).map Prod.fst).Nodup :=
  (foldl_put l [] List.nodup_nil).1

/-- The entries of the dictionary are the keys with their last values. -/
theorem mem_ofPairs {l : List (κ × ν)} {k : κ} {v : ν} : (k, v) ∈ ofPairs l ↔ last l k = some v := by
  rw [← last_eq_some_of_nodup (nodup_ofPairs l), ofPairs, (foldl_put l [] List.nodup_nil).2 k]
  simp [last]

/-- What holds of all values of the dictionary holds of a pair's value, unless a later pair has its key, and
of the values of the later pairs. -/
theorem forall_ofPairs_cons {x : κ × ν} {l : List (κ × ν)} {p : ν → Prop} :
    (∀ y ∈ ofPairs (x :: l), p y.2) ↔ (x.1 ∈ l.map Prod.fst ∨ p x.2) ∧ ∀ y ∈ ofPairs l, p y.2 := by
  constructor
  · intro h
    refine ⟨?_, ?_⟩
    · by_cases hx : x.1 ∈ l.map Prod.fst
      · exact Or.inl hx
      · right
        apply h (x.1, x.2)
        rw [mem_ofPairs, last, last_eq_none.mpr hx]
        simp
    · rintro ⟨k, v⟩ hy
      apply h (k, v)
      rw [mem_ofPairs] at hy ⊢
      rw [last, hy]
      rfl
  · rintro ⟨hx, hl⟩ ⟨k, v⟩ hy
    rw [mem_ofPairs, last] at hy
    cases hlast : last l k with
    | some w =>
      rw [hlast, Option.some_or] at hy
      exact hl (k, v) (mem_ofPairs.mpr (hlast.trans hy))
    | none =>
      rw [hlast, Option.none_or] at hy
      split at hy
      · rename_i hk
        obtain rfl := Option.some.inj hy
        rw [hk] at hx
        exact hx.resolve_left (last_eq_none.mp hlast)
      · cases hy

/-- Pairs with different keys are the dictionary that they make. -/
theorem ofPairs_eq_self {l : List (κ × ν)} (h : (l.map Prod.fst).Nodup) : ofPairs l = l := by
  have hfold : ∀ (l d : List (κ × ν)), ((d ++ l).map Prod.fst).Nodup →
      l.foldl (fun d x => put d x.1 x.2) d = d ++ l := by
    intro l
    induction l with
    | nil => intro d _; simp
    | cons x l ih =>
      intro d hd
      have hx : x.1 ∉ d.map Prod.fst := by
        intro hmem
        rw [List.map_append, List.nodup_append] at hd
        exact hd.2.2 x.1 hmem x.1 (by simp) rfl
      have hput : put d x.1 x.2 = d ++ [x] := by
        unfold put
        rw [if_neg hx]
      rw [List.foldl_cons, hput, ih]
      · simp
      · simpa using hd
  exact hfold l [] h

end Assoc

end Library
