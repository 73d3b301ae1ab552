import Mathlib.Logic.Function.Basic

/-!
# A key-value store whose keys expire

A store gives each key at most one entry, a value with an optional deadline.  An entry is read as long as its
deadline has not passed; a dead entry stays until the next write, which no reader can tell from an absent one.
-/

namespace Library

universe u v

structure Entry (ν : Type v) where
  value : ν
  expiresAt : Option Nat

/-- The entry can still be read at `now`. -/
def Entry.alive {ν : Type v} (e : Entry ν) (now : Nat) : Bool :=
  match e.expiresAt with
  | none => true
  | some t => decide (now < t)

def ExpiringStore (κ : Type u) (ν : Type v) := κ → Option (Entry ν)

namespace ExpiringStore

variable {κ : Type u} {ν : Type v}

def empty : ExpiringStore κ ν := fun _ => none

/-- The live entry of a key. -/
def entry (s : ExpiringStore κ ν) (now : Nat) (k : κ) : Option (Entry ν) := (s k).filter (·.alive now)

/-- `GET` -/
def get (s : ExpiringStore κ ν) (now : Nat) (k : κ) : Option ν := (s.entry now k).map (·.value)

/-- A key that can be read is present. -/
theorem isSome_of_get {s : ExpiringStore κ ν} {now : Nat} {k : κ} {v : ν} (h : s.get now k = some v) :
    ∃ e, s k = some e ∧ e.value = v := by
  unfold get entry at h
  cases hk : s k with
  | none => simp [hk] at h
  | some e =>
    rw [hk] at h
    by_cases ha : e.alive now = true
    · rw [Option.filter_some, if_pos ha] at h
      exact ⟨e, rfl, by simpa using h⟩
    · rw [Option.filter_some, if_neg ha] at h; cases h

theorem eq_some_of_entry {s : ExpiringStore κ ν} {now : Nat} {k : κ} {e : Entry ν}
    (h : s.entry now k = some e) :
    s k = some e := (Option.filter_eq_some_iff.mp h).1

/-- An entry without a deadline is read at any time. -/
theorem entry_of_lasting {s : ExpiringStore κ ν} {k : κ} {e : Entry ν} (h : s k = some e)
    (hlasts : e.expiresAt = none) (now : Nat) : s.entry now k = some e := by
  unfold entry
  rw [h, Option.filter_some, Entry.alive, hlasts, if_pos rfl]

/-- An entry is not read once its deadline has passed. -/
theorem entry_eq_none {s : ExpiringStore κ ν} {k : κ} {e : Entry ν} {t now : Nat} (h : s k = some e)
    (ht : e.expiresAt = some t) (hnow : t ≤ now) : s.entry now k = none := by
  have hdead : ¬ now < t := by omega
  unfold entry
  rw [h, Option.filter_some, Entry.alive, ht]
  simp [hdead]

variable [DecidableEq κ]

/-- `SETEX` with a time to live of `ttl`. -/
def setex (s : ExpiringStore κ ν) (now ttl : Nat) (k : κ) (v : ν) : ExpiringStore κ ν :=
  Function.update s k (some ⟨v, some (now + ttl)⟩)

/-- `DEL` -/
def del (s : ExpiringStore κ ν) (k : κ) : ExpiringStore κ ν := Function.update s k none

/-- Replaces the value of a key and keeps its deadline; an absent or dead key gets none. -/
def modify (s : ExpiringStore κ ν) (now : Nat) (k : κ) (f : Option ν → ν) : ExpiringStore κ ν :=
  Function.update s k (some ⟨f (s.get now k), (s.entry now k).bind (·.expiresAt)⟩)

/-- `EXPIRE` -/
def expire (s : ExpiringStore κ ν) (now ttl : Nat) (k : κ) : ExpiringStore κ ν :=
  match s.entry now k with
  | none => s
  | some e => Function.update s k (some ⟨e.value, some (now + ttl)⟩)

@[simp] theorem setex_self (s : ExpiringStore κ ν) (now ttl : Nat) (k : κ) (v : ν) :
    s.setex now ttl k v k = some ⟨v, some (now + ttl)⟩ := Function.update_self ..

@[simp] theorem setex_of_ne {s : ExpiringStore κ ν} {now ttl : Nat} {k k' : κ} {v : ν} (h : k' ≠ k) :
    s.setex now ttl k v k' = s k' := Function.update_of_ne h ..

@[simp] theorem del_self (s : ExpiringStore κ ν) (k : κ) : s.del k k = none := Function.update_self ..

@[simp] theorem del_of_ne {s : ExpiringStore κ ν} {k k' : κ} (h : k' ≠ k) : s.del k k' = s k' :=
  Function.update_of_ne h ..

theorem mem_setex {s : ExpiringStore κ ν} {now ttl : Nat} {k k' : κ} {v : ν} {e : Entry ν} :
    e ∈ s.setex now ttl k v k' ↔ (k' = k ∧ e = ⟨v, some (now + ttl)⟩) ∨ (k' ≠ k ∧ e ∈ s k') := by
  by_cases h : k' = k
  · subst h
    rw [setex_self, Option.mem_some_iff]
    simp [eq_comm]
  · rw [setex_of_ne h]
    simp [h]

/-- `DEL` adds no entry. -/
theorem mem_of_mem_del {s : ExpiringStore κ ν} {k k' : κ} {e : Entry ν} (h : e ∈ s.del k k') : e ∈ s k' := by
  by_cases hk : k' = k
  · rw [hk, del_self] at h; cases h
  · rw [del_of_ne hk] at h; exact h

@[simp] theorem modify_of_ne {s : ExpiringStore κ ν} {now : Nat} {k k' : κ} {f : Option ν → ν} (h : k' ≠ k) :
    s.modify now k f k' = s k' := Function.update_of_ne h ..

theorem modify_self (s : ExpiringStore κ ν) (now : Nat) (k : κ) (f : Option ν → ν) :
    s.modify now k f k = some ⟨f (s.get now k), (s.entry now k).bind (·.expiresAt)⟩ := Function.update_self ..

/-- What is replaced keeps its deadline. -/
theorem modify_of_entry {s : ExpiringStore κ ν} {now : Nat} {k : κ} {e : Entry ν} (h : s.entry now k = some e)
    (f : Option ν → ν) : s.modify now k f k = some ⟨f (some e.value), e.expiresAt⟩ := by
  rw [modify_self, get, h]
  rfl

/-- What is new has no deadline. -/
theorem modify_of_gone {s : ExpiringStore κ ν} {now : Nat} {k : κ} (h : s.entry now k = none)
    (f : Option ν → ν) :
    s.modify now k f k = some ⟨f none, none⟩ := by
  rw [modify_self, get, h]
  rfl

theorem expire_of_entry {s : ExpiringStore κ ν} {now : Nat} {k : κ} {e : Entry ν} (h : s.entry now k = some e)
    (ttl : Nat) : s.expire now ttl k k = some ⟨e.value, some (now + ttl)⟩ := by
  unfold expire
  rw [h]
  exact Function.update_self ..

@[simp] theorem expire_of_ne {s : ExpiringStore κ ν} {now ttl : Nat} {k k' : κ} (h : k' ≠ k) :
    s.expire now ttl k k' = s k' := by
  unfold expire
  cases s.entry now k with
  | none => rfl
  | some e => exact Function.update_of_ne h ..

end ExpiringStore

end Library
