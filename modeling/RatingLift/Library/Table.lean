import Mathlib.Data.List.Nodup
import Mathlib.Data.List.Find

/-!
# Tables with a primary key

A table is a list of rows whose keys are pairwise different; the structure carries the proof, so no operation
can build a table with two rows of one key.  Rows keep their insertion order, which is the order an unordered
scan returns them in: that order is part of the state, and tables of the same rows in another order differ.

* (`find?`) a key finds at most one row, and finds exactly the rows of the table (`mem_iff_find?`);
* (`insert`, `update`, `updateWhere`, `delete`) each operation is characterised by the rows it leaves
  (`mem_insert`, `mem_update`, `mem_updateWhere`, `mem_delete`) and by the lookups after it (`find?_insert`,
  `find?_update`, `find?_updateWhere`);
* (`map`) a change of every row, which the queries that do not see it and the writes commute with
  (`first_map`, `map_insert`, `map_update`);
* (`restrict`) the part of a table that satisfies a predicate; the operations commute with it
  (`restrict_insert`, `restrict_update`), which is what a view of a table needs.
-/

namespace Library

universe u v

/-- Rows of type `ρ` have a primary key of type `κ`. -/
class Keyed (ρ : Type u) (κ : outParam (Type v)) where
  key : ρ → κ

open Keyed (key)

structure Table (ρ : Type u) {κ : Type v} [Keyed ρ κ] where
  rows : List ρ
  nodup : (rows.map key).Nodup

namespace Table

variable {ρ : Type u} {κ : Type v} [Keyed ρ κ]

instance : Membership ρ (Table ρ) := ⟨fun t r => r ∈ t.rows⟩

theorem mem_rows {t : Table ρ} {r : ρ} : r ∈ t.rows ↔ r ∈ t := Iff.rfl

@[ext] theorem ext {t t' : Table ρ} (h : t.rows = t'.rows) : t = t' := by
  cases t; cases t'; cases h; rfl

def empty : Table ρ := ⟨[], List.nodup_nil⟩

@[simp] theorem not_mem_empty (r : ρ) : r ∉ (empty : Table ρ) := List.not_mem_nil

/-- A row is determined by its key. -/
theorem eq_of_key_eq {t : Table ρ} {r r' : ρ} (hr : r ∈ t) (hr' : r' ∈ t) (h : key r = key r') : r = r' :=
  List.inj_on_of_nodup_map t.nodup hr hr' h

/-! ### Lookups -/

/-- The first row that satisfies `p`, in scan order. -/
def first (t : Table ρ) (p : ρ → Bool) : Option ρ := t.rows.find? p

/-- All rows that satisfy `p`, in scan order. -/
def select (t : Table ρ) (p : ρ → Bool) : List ρ := t.rows.filter p

theorem mem_select {t : Table ρ} {p : ρ → Bool} {r : ρ} : r ∈ t.select p ↔ r ∈ t ∧ p r = true :=
  List.mem_filter

theorem first_some {t : Table ρ} {p : ρ → Bool} {r : ρ} (h : t.first p = some r) : r ∈ t ∧ p r = true :=
  ⟨List.mem_of_find?_eq_some h, List.find?_some h⟩

theorem first_eq_none {t : Table ρ} {p : ρ → Bool} : t.first p = none ↔ ∀ r ∈ t, p r = false := by
  unfold first
  rw [List.find?_eq_none]
  exact ⟨fun h r hr => by simpa using h r hr, fun h r hr => by simp [h r hr]⟩

/-- A predicate that holds of at most one row finds it. -/
theorem first_eq_some_of_unique {t : Table ρ} {p : ρ → Bool} {r : ρ} (hr : r ∈ t) (hp : p r = true)
    (huniq : ∀ r' ∈ t, p r' = true → r' = r) : t.first p = some r := by
  cases h : t.first p with
  | none => rw [first_eq_none.mp h r hr] at hp; cases hp
  | some r' =>
    have hr' := first_some h
    rw [huniq r' hr'.1 hr'.2]

/-! ### Bulk writes and parts of a table -/

/-- Applies `f`, which keeps the key, to every row that satisfies `p`. -/
def updateWhere (t : Table ρ) (p : ρ → Bool) (f : ρ → ρ) (hf : ∀ r, key (f r) = key r) : Table ρ :=
  ⟨t.rows.map fun x => if p x then f x else x, by
    have : (t.rows.map fun x => if p x then f x else x).map key = t.rows.map key := by
      rw [List.map_map]
      apply List.map_congr_left
      intro x _
      simp only [Function.comp_apply]
      split
      · exact hf x
      · rfl
    rw [this]; exact t.nodup⟩

/-- Applies `f`, which keeps the key, to every row. -/
def map (t : Table ρ) (f : ρ → ρ) (hf : ∀ r, key (f r) = key r) : Table ρ :=
  ⟨t.rows.map f, by
    have : (t.rows.map f).map key = t.rows.map key := by
      rw [List.map_map]
      exact List.map_congr_left fun x _ => hf x
    rw [this]; exact t.nodup⟩

/-- The rows that satisfy `p`. -/
def restrict (t : Table ρ) (p : ρ → Bool) : Table ρ :=
  ⟨t.rows.filter p, t.nodup.sublist (List.filter_sublist.map key)⟩

theorem mem_updateWhere {t : Table ρ} {p : ρ → Bool} {f : ρ → ρ} {hf : ∀ r, key (f r) = key r} {x : ρ} :
    x ∈ t.updateWhere p f hf ↔ ∃ y ∈ t, x = if p y then f y else y := by
  rw [← mem_rows]
  simp only [updateWhere, List.mem_map, mem_rows]
  exact ⟨fun ⟨y, hy, h⟩ => ⟨y, hy, h.symm⟩, fun ⟨y, hy, h⟩ => ⟨y, hy, h.symm⟩⟩

theorem map_map {t : Table ρ} {f : ρ → ρ} {hf : ∀ r, key (f r) = key r} (h : ∀ r, f (f r) = f r) :
    (t.map f hf).map f hf = t.map f hf := by
  apply ext
  show (t.rows.map f).map f = t.rows.map f
  rw [List.map_map]
  exact List.map_congr_left fun x _ => h x

/-- A query that does not see what `f` changes finds the same rows. -/
theorem first_map {t : Table ρ} {f : ρ → ρ} {hf : ∀ r, key (f r) = key r} {p : ρ → Bool}
    (h : ∀ r, p (f r) = p r) :
    (t.map f hf).first p = (t.first p).map f := by
  show (t.rows.map f).find? p = (t.rows.find? p).map f
  rw [List.find?_map]
  congr 2
  exact funext h

theorem select_map {t : Table ρ} {f : ρ → ρ} {hf : ∀ r, key (f r) = key r} {p : ρ → Bool}
    (h : ∀ r, p (f r) = p r) :
    (t.map f hf).select p = (t.select p).map f := by
  show (t.rows.map f).filter p = (t.rows.filter p).map f
  rw [List.filter_map]
  congr 2
  exact funext h

theorem mem_restrict {t : Table ρ} {p : ρ → Bool} {r : ρ} : r ∈ t.restrict p ↔ r ∈ t ∧ p r = true :=
  List.mem_filter

theorem restrict_congr {t : Table ρ} {p q : ρ → Bool} (h : ∀ x ∈ t, p x = q x) :
    t.restrict p = t.restrict q :=
  ext (List.filter_congr h)

/-- A bulk write to rows outside a part of the table, which it leaves outside, does not change the part. -/
theorem restrict_updateWhere {t : Table ρ} {p q : ρ → Bool} {f : ρ → ρ} {hf : ∀ r, key (f r) = key r}
    (hq : ∀ r, q (f r) = q r) (h : ∀ x ∈ t, q x = true → p x = false) :
    (t.updateWhere p f hf).restrict q = t.restrict q := by
  apply ext
  show (t.rows.map fun x => if p x then f x else x).filter q = t.rows.filter q
  have hseen : q ∘ (fun x => if p x then f x else x) = q := by
    funext x
    show q (if p x then f x else x) = q x
    split
    · exact hq x
    · rfl
  rw [List.filter_map, hseen]
  have hkept : ∀ x ∈ t.rows.filter q, (if p x then f x else x) = x := by
    intro x hx
    obtain ⟨hmem, hpart⟩ := List.mem_filter.mp hx
    rw [h x hmem hpart]
    rfl
  rw [List.map_congr_left hkept, List.map_id']

theorem first_restrict {t : Table ρ} {p q : ρ → Bool} (h : ∀ x ∈ t, q x = true → p x = true) :
    (t.restrict p).first q = t.first q := by
  show (t.rows.filter p).find? q = t.rows.find? q
  rw [List.find?_filter]
  apply List.find?_congr
  intro x hx
  cases hq : q x with
  | false => simp
  | true => simp [h x hx hq]

theorem select_restrict {t : Table ρ} {p q : ρ → Bool} (h : ∀ x ∈ t, q x = true → p x = true) :
    (t.restrict p).select q = t.select q := by
  show (t.rows.filter p).filter q = t.rows.filter q
  rw [List.filter_filter]
  apply List.filter_congr
  intro x hx
  cases hq : q x with
  | false => simp
  | true => simp [h x hx hq]

section Keys

variable [DecidableEq κ]

def find? (t : Table ρ) (k : κ) : Option ρ := t.first fun r => decide (key r = k)

theorem find?_some {t : Table ρ} {k : κ} {r : ρ} (h : t.find? k = some r) : r ∈ t ∧ key r = k := by
  have := first_some h
  exact ⟨this.1, of_decide_eq_true this.2⟩

theorem find?_eq_some {t : Table ρ} {k : κ} {r : ρ} : t.find? k = some r ↔ r ∈ t ∧ key r = k := by
  constructor
  · exact find?_some
  · rintro ⟨hr, rfl⟩
    exact first_eq_some_of_unique hr (by simp) fun r' hr' h =>
      eq_of_key_eq hr' hr (of_decide_eq_true h)

theorem mem_iff_find? {t : Table ρ} {r : ρ} : r ∈ t ↔ t.find? (key r) = some r := by
  rw [find?_eq_some]; simp

/-- A lookup by key does not depend on the order of the scan. -/
theorem find?_eq_of_perm {t t' : Table ρ} (h : t'.rows.Perm t.rows) (k : κ) : t'.find? k = t.find? k := by
  refine Option.ext fun r => ?_
  rw [find?_eq_some, find?_eq_some]
  exact and_congr_left fun _ => h.mem_iff

theorem find?_eq_none {t : Table ρ} {k : κ} : t.find? k = none ↔ ∀ r ∈ t, key r ≠ k := by
  unfold find?
  rw [first_eq_none]
  simp

/-! ### Writes -/

/-- Adds a row; a row whose key is taken is refused, as the primary key constraint does. -/
def insert (t : Table ρ) (r : ρ) : Table ρ :=
  if h : key r ∈ t.rows.map key then t
  else ⟨t.rows ++ [r], by
    rw [List.map_append, List.nodup_append]
    refine ⟨t.nodup, by simp, ?_⟩
    intro a ha b hb hab
    simp only [List.map_cons, List.map_nil, List.mem_singleton] at hb
    exact h (hb ▸ hab ▸ ha)⟩

/-- Replaces the row that has the key of `r` by `r`. -/
def update (t : Table ρ) (r : ρ) : Table ρ :=
  ⟨t.rows.map fun x => if key x = key r then r else x, by
    have : (t.rows.map fun x => if key x = key r then r else x).map key = t.rows.map key := by
      rw [List.map_map]
      apply List.map_congr_left
      intro x _
      simp only [Function.comp_apply]
      split <;> simp_all
    rw [this]; exact t.nodup⟩

def delete (t : Table ρ) (k : κ) : Table ρ := t.restrict fun r => !decide (key r = k)

/-- No row has the key `k`. -/
def Fresh (t : Table ρ) (k : κ) : Prop := ∀ r ∈ t, key r ≠ k

instance (t : Table ρ) (k : κ) : Decidable (t.Fresh k) :=
  inferInstanceAs (Decidable (∀ r ∈ t.rows, key r ≠ k))

theorem fresh_iff_find? {t : Table ρ} {k : κ} : t.Fresh k ↔ t.find? k = none := find?_eq_none.symm

theorem rows_insert {t : Table ρ} {r : ρ} (h : t.Fresh (key r)) : (t.insert r).rows = t.rows ++ [r] := by
  have : ¬ key r ∈ t.rows.map key := by
    rw [List.mem_map]; rintro ⟨x, hx, hxr⟩; exact h x hx hxr
  simp [insert, this]

theorem insert_of_find? {t : Table ρ} {r x : ρ} (h : t.find? (key r) = some x) : t.insert r = t := by
  have htaken : key r ∈ t.rows.map key := by
    obtain ⟨hmem, hkey⟩ := find?_some h
    exact List.mem_map.mpr ⟨x, hmem, hkey⟩
  unfold insert
  rw [dif_pos htaken]

theorem mem_insert {t : Table ρ} {r x : ρ} (h : t.Fresh (key r)) : x ∈ t.insert r ↔ x ∈ t ∨ x = r := by
  rw [← mem_rows, rows_insert h, List.mem_append, List.mem_singleton, mem_rows]

theorem select_insert_of_out {t : Table ρ} {p : ρ → Bool} {r : ρ} (h : p r = false) :
    (t.insert r).select p = t.select p := by
  unfold insert select
  split
  · rfl
  · simp [h]

theorem mem_of_mem_insert {t : Table ρ} {r x : ρ} (h : x ∈ t.insert r) : x ∈ t ∨ x = r := by
  unfold insert at h
  split at h
  · exact Or.inl h
  · rw [← mem_rows, List.mem_append, List.mem_singleton] at h; exact h

/-- The keys numbered from `k` to below `n` are pairwise different and not in the table. -/
structure NewKeys (t : Table ρ) (f : Nat → κ) (k n : Nat) : Prop where
  inj : ∀ i j, k ≤ i → i < j → j < n → f i ≠ f j
  fresh : ∀ i, k ≤ i → i < n → t.Fresh (f i)

instance (t : Table ρ) (f : Nat → κ) (k n : Nat) : Decidable (t.NewKeys f k n) :=
  decidable_of_iff ((∀ j < n, ∀ i < j, k ≤ i → f i ≠ f j) ∧ ∀ i < n, k ≤ i → t.Fresh (f i))
    ⟨fun h => ⟨fun i j hi hij hj => h.1 j hj i hij hi, fun i hi hn => h.2 i hn hi⟩,
      fun h => ⟨fun j hj i hij hi => h.inj i j hi hij hj, fun i hn hi => h.fresh i hi hn⟩⟩

omit [DecidableEq κ] in
theorem NewKeys.head {t : Table ρ} {f : Nat → κ} {k n : Nat} (h : t.NewKeys f k n) (hk : k < n) :
    t.Fresh (f k) :=
  h.fresh k (Nat.le_refl k) hk

omit [DecidableEq κ] in
theorem NewKeys.tail {t : Table ρ} {f : Nat → κ} {k n : Nat} (h : t.NewKeys f k n) :
    t.NewKeys f (k + 1) n where
  inj i j hi := h.inj i j (by omega)
  fresh i hi := h.fresh i (by omega)

/-- A row under the first of the keys leaves the others new. -/
theorem NewKeys.insert {t : Table ρ} {f : Nat → κ} {k n : Nat} (h : t.NewKeys f k n) {r : ρ}
    (hr : key r = f k) :
    (t.insert r).NewKeys f (k + 1) n where
  inj := h.tail.inj
  fresh i hi hn := by
    intro x hx hxi
    rcases mem_of_mem_insert hx with hx | rfl
    · exact h.fresh i (by omega) hn x hx hxi
    · exact h.inj k i (Nat.le_refl k) (by omega) hn (hr.symm.trans hxi)

theorem mem_update {t : Table ρ} {r x : ρ} :
    x ∈ t.update r ↔ (x = r ∧ ∃ y ∈ t, key y = key r) ∨ (x ∈ t ∧ key x ≠ key r) := by
  rw [← mem_rows]
  simp only [update, List.mem_map]
  constructor
  · rintro ⟨y, hy, rfl⟩
    split
    · exact Or.inl ⟨rfl, y, hy, by assumption⟩
    · exact Or.inr ⟨hy, by assumption⟩
  · rintro (⟨rfl, y, hy, hk⟩ | ⟨hx, hk⟩)
    · exact ⟨y, hy, by simp [hk]⟩
    · exact ⟨x, hx, by simp [hk]⟩

theorem mem_delete {t : Table ρ} {k : κ} {r : ρ} : r ∈ t.delete k ↔ r ∈ t ∧ key r ≠ k := by
  unfold delete; rw [mem_restrict]; simp

/-! ### Lookups after writes -/

theorem find?_insert {t : Table ρ} {r : ρ} (h : t.Fresh (key r)) (k : κ) :
    (t.insert r).find? k = if key r = k then some r else t.find? k := by
  split
  · rename_i hk
    exact find?_eq_some.mpr ⟨(mem_insert h).mpr (Or.inr rfl), hk⟩
  · rename_i hk
    cases hf : t.find? k with
    | none =>
      rw [find?_eq_none] at hf ⊢
      intro x hx
      rcases (mem_insert h).mp hx with hx | rfl
      · exact hf x hx
      · exact hk
    | some x =>
      have hx := find?_some hf
      exact find?_eq_some.mpr ⟨(mem_insert h).mpr (Or.inl hx.1), hx.2⟩

theorem find?_update {t : Table ρ} {r : ρ} (k : κ) :
    (t.update r).find? k = if key r = k then (t.find? k).map fun _ => r else t.find? k := by
  cases hf : t.find? k with
  | none =>
    rw [find?_eq_none] at hf
    rw [show (t.update r).find? k = none from find?_eq_none.mpr ?_]
    · simp
    · intro x hx
      rcases mem_update.mp hx with ⟨rfl, y, hy, hyk⟩ | ⟨hx, _⟩
      · exact hyk ▸ hf y hy
      · exact hf x hx
  | some x =>
    have hx := find?_some hf
    by_cases hk : key r = k
    · simp only [hk, ↓reduceIte, Option.map_some]
      exact find?_eq_some.mpr ⟨mem_update.mpr (Or.inl ⟨rfl, x, hx.1, by rw [hx.2, hk]⟩), hk⟩
    · simp only [hk, ↓reduceIte]
      exact find?_eq_some.mpr ⟨mem_update.mpr (Or.inr ⟨hx.1, by rw [hx.2]; exact Ne.symm hk⟩), hx.2⟩

theorem find?_update_self {t : Table ρ} {r r' : ρ} (hr : r ∈ t) (h : key r' = key r) :
    (t.update r').find? (key r) = some r' := by
  rw [find?_update, if_pos h, mem_iff_find?.mp hr]; rfl

/-- A row written over a stored one is found under its key. -/
theorem find?_update_of_find? {t : Table ρ} {r r' : ρ} (h : t.find? (key r') = some r) :
    (t.update r').find? (key r') = some r' := by
  rw [find?_update, if_pos rfl, h]; rfl

/-- The rows after a write over a stored row. -/
theorem find?_update_found {t : Table ρ} {r r' : ρ} (h : t.find? (key r') = some r) (k : κ) :
    (t.update r').find? k = if k = key r' then some r' else t.find? k := by
  by_cases hk : k = key r'
  · rw [if_pos hk, hk, find?_update_of_find? h]
  · rw [if_neg hk, find?_update, if_neg (Ne.symm hk)]

/-- The rows after the insertion of a new row. -/
theorem find?_insert_fresh {t : Table ρ} {r : ρ} (h : t.Fresh (key r)) (k : κ) :
    (t.insert r).find? k = if k = key r then some r else t.find? k := by
  rw [find?_insert h]
  by_cases hk : k = key r
  · rw [if_pos hk, if_pos hk.symm]
  · rw [if_neg hk, if_neg (Ne.symm hk)]

theorem find?_update_of_ne {t : Table ρ} {r : ρ} {k : κ} (h : key r ≠ k) :
    (t.update r).find? k = t.find? k := by
  rw [find?_update, if_neg h]

/-- Writing a row back changes nothing. -/
theorem update_of_find? {t : Table ρ} {r : ρ} (h : t.find? (key r) = some r) : t.update r = t := by
  apply ext
  show t.rows.map _ = t.rows
  conv => rhs; rw [← List.map_id t.rows]
  apply List.map_congr_left
  intro x hx
  split
  · rename_i hk; exact eq_of_key_eq (find?_some h).1 hx hk.symm
  · rfl

/-- Of two writes of one row the second counts. -/
theorem update_update {t : Table ρ} {r r' : ρ} (h : key r = key r') :
    (t.update r).update r' = t.update r' := by
  apply ext
  show (t.rows.map _).map _ = t.rows.map _
  rw [List.map_map]
  apply List.map_congr_left
  intro x _
  by_cases hk : key x = key r' <;> simp [hk, h]

theorem find?_delete {t : Table ρ} {k : κ} (k' : κ) :
    (t.delete k).find? k' = if k' = k then none else t.find? k' := by
  split
  · rename_i h
    rw [find?_eq_none]
    intro r hr
    rw [h]
    exact (mem_delete.mp hr).2
  · rename_i h
    cases hf : t.find? k' with
    | none =>
      rw [find?_eq_none] at hf ⊢
      exact fun r hr => hf r (mem_delete.mp hr).1
    | some r =>
      have hr := find?_some hf
      exact find?_eq_some.mpr ⟨mem_delete.mpr ⟨hr.1, by rw [hr.2]; exact h⟩, hr.2⟩

/-- Writing a row under its key, whether there was one or not. -/
theorem find?_delete_insert {t : Table ρ} {r : ρ} (k : κ) :
    ((t.delete (key r)).insert r).find? k = if k = key r then some r else t.find? k := by
  have hfresh : (t.delete (key r)).Fresh (key r) := fun x hx => (mem_delete.mp hx).2
  rw [find?_insert_fresh hfresh]
  by_cases hk : k = key r
  · rw [if_pos hk, if_pos hk]
  · rw [if_neg hk, if_neg hk, find?_delete, if_neg hk]

theorem find?_updateWhere {t : Table ρ} {p : ρ → Bool} {f : ρ → ρ} {hf : ∀ r, key (f r) = key r} (k : κ) :
    (t.updateWhere p f hf).find? k = (t.find? k).map fun x => if p x then f x else x := by
  cases hk : t.find? k with
  | none =>
    rw [find?_eq_none] at hk
    rw [Option.map_none, find?_eq_none]
    intro x hx
    obtain ⟨y, hy, rfl⟩ := mem_updateWhere.mp hx
    split
    · rw [hf]; exact hk y hy
    · exact hk y hy
  | some x =>
    have hx := find?_some hk
    rw [Option.map_some, find?_eq_some]
    refine ⟨mem_updateWhere.mpr ⟨x, hx.1, rfl⟩, ?_⟩
    split
    · rw [hf]; exact hx.2
    · exact hx.2

/-! ### Rows under a map -/

theorem find?_map {t : Table ρ} {f : ρ → ρ} {hf : ∀ r, key (f r) = key r} (k : κ) :
    (t.map f hf).find? k = (t.find? k).map f := first_map fun r => by rw [hf]

theorem map_insert {t : Table ρ} {f : ρ → ρ} {hf : ∀ r, key (f r) = key r} {r : ρ} :
    (t.insert r).map f hf = (t.map f hf).insert (f r) := by
  have hkeys : (t.rows.map f).map key = t.rows.map key := by
    rw [List.map_map]
    exact List.map_congr_left fun x _ => hf x
  apply ext
  unfold insert
  by_cases htaken : key r ∈ t.rows.map key
  · have htaken' : key (f r) ∈ (t.map f hf).rows.map key := by
      rw [hf]
      exact hkeys ▸ htaken
    rw [dif_pos htaken, dif_pos htaken']
  · have hfree : ¬ key (f r) ∈ (t.map f hf).rows.map key := by
      rw [hf]
      exact hkeys ▸ htaken
    rw [dif_neg htaken, dif_neg hfree]
    exact List.map_append

theorem map_update {t : Table ρ} {f : ρ → ρ} {hf : ∀ r, key (f r) = key r} {r : ρ} :
    (t.update r).map f hf = (t.map f hf).update (f r) := by
  apply ext
  show (t.rows.map _).map f = (t.rows.map f).map _
  rw [List.map_map, List.map_map]
  apply List.map_congr_left
  intro x _
  by_cases hk : key x = key r
  · simp [hf, hk]
  · simp [hf, hk]

/-! ### Parts of a table -/

theorem update_restrict_of_out {t : Table ρ} {p : ρ → Bool} {r : ρ}
    (h : ∀ x ∈ t, p x = true → key x ≠ key r) :
    (t.restrict p).update r = t.restrict p := by
  apply ext
  show (t.rows.filter p).map _ = t.rows.filter p
  conv => rhs; rw [← List.map_id (t.rows.filter p)]
  apply List.map_congr_left
  intro x hx
  have := h x (List.mem_of_mem_filter hx) (List.of_mem_filter hx)
  simp [this]

theorem restrict_insert {t : Table ρ} {p : ρ → Bool} {r : ρ} (h : t.Fresh (key r)) :
    (t.insert r).restrict p = if p r then (t.restrict p).insert r else t.restrict p := by
  have h' : (t.restrict p).Fresh (key r) := fun x hx => h x (mem_restrict.mp hx).1
  apply ext
  show (t.insert r).rows.filter p = _
  rw [rows_insert h, List.filter_append]
  split
  · rename_i hp
    rw [rows_insert h']
    simp [hp, restrict]
  · rename_i hp
    simp [hp, restrict]

/-- Updating a row whose membership in the part does not change commutes with taking the part. -/
theorem restrict_update {t : Table ρ} {p : ρ → Bool} {r : ρ} (h : ∀ x ∈ t, key x = key r → p x = p r) :
    (t.update r).restrict p = (t.restrict p).update r := by
  apply ext
  show (t.rows.map _).filter p = (t.rows.filter p).map _
  rw [List.filter_map]
  congr 1
  apply List.filter_congr
  intro x hx
  simp only [Function.comp_apply]
  split
  · rename_i hk; exact (h x hx hk).symm
  · rfl

end Keys

end Table

end Library
