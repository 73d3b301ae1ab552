/-!
# Computations that can fail

Taking an `Except` computation apart: a sequence of steps succeeds when every step does (`bind_eq_ok`), and
its first step decides how it goes on (`ok_bind`, `error_bind`).  Two computations are compared step by step
(`bind_map_congr`).
-/

namespace Library

universe u v

namespace Fallible

variable {ε : Type u} {α β γ : Type v}

/-- A sequence of two steps succeeds when both do. -/
theorem bind_eq_ok {x : Except ε α} {f : α → Except ε β} {b : β} :
    (x >>= f) = .ok b ↔ ∃ a, x = .ok a ∧ f a = .ok b := by
  cases x with
  | error e => simp [bind, Except.bind]
  | ok a => simp [bind, Except.bind]

@[simp] theorem ok_bind (a : α) (f : α → Except ε β) : (Except.ok a >>= f) = f a := rfl

@[simp] theorem error_bind (e : ε) (f : α → Except ε β) : (Except.error e >>= f) = .error e := rfl

@[simp] theorem pure_eq_ok {a b : α} : (pure a : Except ε α) = .ok b ↔ a = b := by
  simp [pure, Except.pure]

/-- A computation with its result changed succeeds when the computation does. -/
theorem map_eq_ok {x : Except ε α} {f : α → β} {b : β} : x.map f = .ok b ↔ ∃ a, x = .ok a ∧ f a = b := by
  cases x with
  | error e => simp [Except.map]
  | ok a => simp [Except.map]

theorem toOption_eq_some {x : Except ε α} {a : α} : x.toOption = some a ↔ x = .ok a := by
  cases x <;> simp [Except.toOption]

/-- Two sequences of steps look the same through `w` when their first steps do through `v` and, from results
that look the same, their second steps do through `w`. -/
theorem bind_map_congr {α' β' : Type v} {x x' : Except ε α} {f f' : α → Except ε β} {v : α → α'} {w : β → β'}
    (hx : x'.map v = x.map v) (hf : ∀ a' a, v a' = v a → (f' a').map w = (f a).map w) :
    (x' >>= f').map w = (x >>= f).map w := by
  cases x' with
  | error e' =>
    cases x with
    | error e => cases hx; rfl
    | ok a => cases hx
  | ok a' =>
    cases x with
    | error e => cases hx
    | ok a => exact hf a' a (Except.ok.inj hx)

end Fallible

end Library
