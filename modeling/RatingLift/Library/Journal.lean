import Mathlib.Logic.Function.Basic
import Mathlib.Logic.Relation

/-!
# Journals of a store

A store gives every key a value.  Its journal lists the changes in the order they were made, each with the
value it found and the value it left.  `Replays s es s'`: the entries `es` lead from the store `s` to the
store `s'`.

* (`Replays.append`) journals of consecutive stretches are joined;
* (`Replays.chained`) the entries of one key are linked: each finds the value that the one before it left;
* (`Chained.first`, `Chained.linked`, `Chained.last`) what that means entry by entry.

`Told` is a journal whose entries may be about more than one key, kept next to changes that no entry records.
-/

namespace Library

universe u v

structure JournalEntry (κ : Type u) (α : Type v) where
  key : κ
  before : α
  after : α

/-! ### The entries of one key -/

section

variable {α : Type v}

/-- The changes lead from the first value to the second, each from where the one before it left off. -/
def Chained : α → List (α × α) → α → Prop
  | a, [], b => b = a
  | a, e :: es, b => e.1 = a ∧ Chained e.2 es b

variable {a b : α} {es : List (α × α)}

theorem Chained.ne_nil (h : Chained a es b) (hne : b ≠ a) : es ≠ [] := by
  rintro rfl
  exact hne h

theorem Chained.first {e : α × α} (h : Chained a es b) (he : es.head? = some e) : e.1 = a := by
  cases es with
  | nil => cases he
  | cons e₀ es =>
    have : e₀ = e := by simpa using he
    rw [← this]
    exact h.1

theorem Chained.linked {e f : α × α} (h : Chained a es b) {i : Nat} (he : es[i]? = some e)
    (hf : es[i + 1]? = some f) :
    f.1 = e.2 := by
  induction es generalizing a i with
  | nil => simp at he
  | cons e₀ es ih =>
    cases i with
    | zero =>
      have h0 : e₀ = e := by simpa using he
      have h1 : es.head? = some f := by simpa [List.head?_eq_getElem?] using hf
      rw [← h0]
      exact h.2.first h1
    | succ i => exact ih h.2 (by simpa using he) (by simpa using hf)

theorem Chained.last {e : α × α} (h : Chained a es b) (he : es.getLast? = some e) : e.2 = b := by
  induction es generalizing a with
  | nil => simp at he
  | cons e₀ es ih =>
    cases es with
    | nil =>
      have : e₀ = e := by simpa using he
      rw [← this]
      exact h.2.symm
    | cons e₁ es =>
      rw [List.getLast?_cons_cons] at he
      exact ih h.2 he

end

/-! ### The journal -/

section

variable {κ : Type u} {α : Type v} [DecidableEq κ]

/-- Making the changes one after the other leads from the first store to the second, and every entry has the
value that its change found. -/
def Replays : (κ → α) → List (JournalEntry κ α) → (κ → α) → Prop
  | s, [], s' => s' = s
  | s, e :: es, s' => e.before = s e.key ∧ Replays (Function.update s e.key e.after) es s'

namespace Replays

variable {s s' s'' : κ → α} {es es' : List (JournalEntry κ α)}

theorem append (h : Replays s es s') (h' : Replays s' es' s'') : Replays s (es ++ es') s'' := by
  induction es generalizing s with
  | nil =>
    have hs : s' = s := h
    rw [← hs]
    exact h'
  | cons e es ih => exact ⟨h.1, ih h.2⟩

theorem single {k : κ} {v w : α} (h : v = s k) : Replays s [⟨k, v, w⟩] (Function.update s k w) := ⟨h, rfl⟩

/-- The entries of one key lead from its value in the first store to its value in the second. -/
theorem chained (h : Replays s es s') (k : κ) :
    Chained (s k) ((es.filter fun e => e.key = k).map fun e => (e.before, e.after)) (s' k) := by
  induction es generalizing s with
  | nil =>
    have hs : s' = s := h
    rw [hs]
    exact rfl
  | cons e es ih =>
    have hrest := ih h.2
    by_cases hk : e.key = k
    · subst hk
      rw [Function.update_self] at hrest
      rw [List.filter_cons_of_pos (by simp)]
      exact ⟨h.1, hrest⟩
    · rw [Function.update_of_ne (Ne.symm hk)] at hrest
      rw [List.filter_cons_of_neg (by simpa using hk)]
      exact hrest

end Replays

end

/-! ### Entries next to unrecorded changes -/

section

variable {π : Type u} {ε : Type v} {tells : ε → π → π → Prop} {silent : π → π → Prop} {p q q' : π}
  {es : List ε}

/-- From `p` the entries lead to the last state: each tells its own change, and in between stand silent
ones. -/
inductive Told (tells : ε → π → π → Prop) (silent : π → π → Prop) (p : π) : List ε → π → Prop
  | start : Told tells silent p [] p
  | silent {es : List ε} {q q' : π} : Told tells silent p es q → silent q q' → Told tells silent p es q'
  | entry {es : List ε} {e : ε} {q q' : π} : Told tells silent p es q → tells e q q' →
      Told tells silent p (es ++ [e]) q'

theorem Told.silently (h : Told tells silent p es q) (hq : Relation.ReflTransGen silent q q') :
    Told tells silent p es q' := by
  induction hq with
  | refl => exact h
  | tail _ hstep ih => exact ih.silent hstep

/-- What every entry and every silent change keeps holds at the end. -/
theorem Told.invariant {P : π → Prop} (h : Told tells silent p es q) (h0 : P p)
    (hsilent : ∀ q q', silent q q' → P q → P q')
    (hentry : ∀ e ∈ es, ∀ q q', tells e q q' → P q → P q') : P q := by
  induction h with
  | start => exact h0
  | silent _ hstep ih => exact hsilent _ _ hstep (ih hentry)
  | @entry es e q q' _ hstep ih =>
    exact hentry e (by simp) q q' hstep (ih fun e he => hentry e (by simp [he]))

end

end Library
