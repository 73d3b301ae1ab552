import Mathlib.Data.List.Infix

/-!
# Scanners

A scanner takes one symbol after the other until its state is a final one.  What it has taken by then is an
item; a text divides into the items at its beginning and the rest, where no item begins.

* (`readFrom_eq_some`, `read_eq_some`) an item is read whatever follows it;
* (`skip_eq_iff`) `skip` leaves the text behind the items at its beginning, which are the only ones that leave
  a text where no item begins.
-/

namespace Library

universe u v

structure Scanner (α : Type u) (σ : Type v) where
  start : σ
  step : σ → α → Option σ
  final : σ → Bool

namespace Scanner

variable {α : Type u} {σ : Type v} (m : Scanner α σ)

/-- What is left of the text when a final state is reached. -/
def readFrom : σ → List α → Option (List α)
  | _, [] => none
  | s, a :: l =>
    match m.step s a with
    | none => none
    | some s' => if m.final s' then some l else readFrom s' l

def read (l : List α) : Option (List α) := m.readFrom m.start l

/-- A text that is read to its end. -/
def Item (t : List α) : Prop := m.read t = some []

/-- Reads as many items as there are, at most `n`. -/
def skipUpTo : Nat → List α → List α
  | 0, l => l
  | n + 1, l =>
    match m.read l with
    | none => l
    | some r => skipUpTo n r

def skip (l : List α) : List α := m.skipUpTo l.length l

variable {m} {l r t : List α} {s : σ}

theorem readFrom_cons {s' : σ} {a : α} (h : m.step s a = some s') :
    m.readFrom s (a :: l) = if m.final s' then some l else m.readFrom s' l := by
  rw [readFrom, h]

theorem readFrom_cons_of_none {a : α} (h : m.step s a = none) : m.readFrom s (a :: l) = none := by
  rw [readFrom, h]

/-- What is read does not depend on what follows it. -/
theorem readFrom_eq_some : m.readFrom s l = some r ↔ ∃ t, m.readFrom s t = some [] ∧ l = t ++ r := by
  induction l generalizing s with
  | nil =>
    constructor
    · nofun
    · rintro ⟨t, ht, hl⟩
      obtain ⟨rfl, _⟩ := List.append_eq_nil_iff.mp hl.symm
      cases ht
  | cons a l ih =>
    cases hstep : m.step s a with
    | none =>
      rw [readFrom_cons_of_none hstep]
      constructor
      · nofun
      · rintro ⟨t, ht, hl⟩
        cases t with
        | nil => cases ht
        | cons b t =>
          obtain ⟨rfl, rfl⟩ := List.cons.inj hl
          rw [readFrom_cons_of_none hstep] at ht
          cases ht
    | some s' =>
      rw [readFrom_cons hstep]
      by_cases hfinal : m.final s' = true
      · rw [if_pos hfinal]
        constructor
        · rintro ⟨⟩
          exact ⟨[a], by rw [readFrom_cons hstep, if_pos hfinal], rfl⟩
        · rintro ⟨t, ht, hl⟩
          cases t with
          | nil => cases ht
          | cons b t =>
            obtain ⟨rfl, rfl⟩ := List.cons.inj hl
            rw [readFrom_cons hstep, if_pos hfinal] at ht
            obtain rfl : t = [] := Option.some.inj ht
            rfl
      · rw [if_neg hfinal, ih]
        constructor
        · rintro ⟨t, ht, rfl⟩
          exact ⟨a :: t, by rw [readFrom_cons hstep, if_neg hfinal, ht], rfl⟩
        · rintro ⟨t, ht, hl⟩
          cases t with
          | nil => cases ht
          | cons b t =>
            obtain ⟨rfl, rfl⟩ := List.cons.inj hl
            rw [readFrom_cons hstep, if_neg hfinal] at ht
            exact ⟨t, ht, rfl⟩

theorem read_eq_some : m.read l = some r ↔ ∃ t, m.Item t ∧ l = t ++ r := readFrom_eq_some

theorem Item.ne_nil (h : m.Item t) : t ≠ [] := by
  rintro rfl
  cases h

theorem Item.read_append (h : m.Item t) (r : List α) : m.read (t ++ r) = some r :=
  read_eq_some.mpr ⟨t, h, rfl⟩

/-- Reading an item makes the text shorter. -/
theorem length_lt_of_read (h : m.read l = some r) : r.length < l.length := by
  obtain ⟨t, ht, rfl⟩ := read_eq_some.mp h
  have hpos : 0 < t.length := List.length_pos_iff.mpr ht.ne_nil
  rw [List.length_append]
  omega

theorem skipUpTo_items (n : Nat) (l : List α) :
    ∃ items : List (List α), (∀ t ∈ items, m.Item t) ∧ l = items.flatten ++ m.skipUpTo n l := by
  induction n generalizing l with
  | zero => exact ⟨[], by simp, rfl⟩
  | succ n ih =>
    rw [skipUpTo]
    split
    · exact ⟨[], by simp, rfl⟩
    · rename_i r hread
      obtain ⟨t, ht, rfl⟩ := read_eq_some.mp hread
      obtain ⟨items, hitems, hr⟩ := ih r
      refine ⟨t :: items, ?_, ?_⟩
      · intro t' ht'
        rcases List.mem_cons.mp ht' with rfl | ht'
        · exact ht
        · exact hitems t' ht'
      · rw [List.flatten_cons, List.append_assoc, ← hr]

/-- With enough turns no item is left. -/
theorem read_skipUpTo {n : Nat} (h : l.length ≤ n) : m.read (m.skipUpTo n l) = none := by
  induction n generalizing l with
  | zero =>
    obtain rfl := List.length_eq_zero_iff.mp (by omega : l.length = 0)
    rfl
  | succ n ih =>
    rw [skipUpTo]
    split
    · assumption
    · rename_i r hread
      have hshorter := length_lt_of_read hread
      exact ih (by omega)

theorem skipUpTo_append {items : List (List α)} (hitems : ∀ t ∈ items, m.Item t)
    (hr : m.read r = none) {n : Nat} (h : (items.flatten ++ r).length ≤ n) :
    m.skipUpTo n (items.flatten ++ r) = r := by
  induction items generalizing n with
  | nil =>
    rw [List.flatten_nil, List.nil_append]
    cases n with
    | zero => rfl
    | succ n => rw [skipUpTo, hr]
  | cons t items ih =>
    have ht := hitems t List.mem_cons_self
    have hpos : 0 < t.length := List.length_pos_iff.mpr ht.ne_nil
    rw [List.flatten_cons, List.append_assoc] at h ⊢
    rw [List.length_append] at h
    cases n with
    | zero => omega
    | succ n =>
      rw [skipUpTo, ht.read_append]
      exact ih (fun t' ht' => hitems t' (List.mem_cons_of_mem _ ht')) (by omega)

theorem skip_eq_iff : m.skip l = r ↔
    (∃ items : List (List α), (∀ t ∈ items, m.Item t) ∧ l = items.flatten ++ r) ∧ m.read r = none := by
  constructor
  · rintro rfl
    exact ⟨skipUpTo_items l.length l, read_skipUpTo (Nat.le_refl _)⟩
  · rintro ⟨⟨items, hitems, rfl⟩, hr⟩
    exact skipUpTo_append hitems hr (Nat.le_refl _)

end Scanner

end Library
