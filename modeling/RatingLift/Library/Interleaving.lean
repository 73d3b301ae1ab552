import Mathlib.Logic.Function.Basic
import RatingLift.Library.Run

/-!
# Interleaved requests over one shared store

Any number of processes, named by `π`, run against a shared state.  Each process has a local state (its
program counter and what it has read so far); one step of the system is one atomic action of one process.
What a process does is given by a program `prog : α → μ → σ → Option (μ × σ)`: the action, the local state and
the shared state give the next local state and shared state, or `none` when the action is not the process's
next one.

* (`Config.alone`) a process that is not interrupted;
* (`Config.act`) what one step changes: the shared state and the acting process's local state, nothing else;
* (`Config.view_act`) a step seen through views of the shared and the local states;
* (`Config.invariant`) the rule for interference: an assertion about the whole and one about each local state
  hold in every run when every action re-establishes its own and does not break those of the other processes.
-/

namespace Library

universe u v w x

structure Config (π : Type u) (σ : Type v) (μ : Type w) where
  shared : σ
  locals : π → μ

namespace Config

variable {π : Type u} {σ : Type v} {μ : Type w} {α : Type x} [DecidableEq π]

/-- The process `p` goes on to the local state `m` and leaves the shared state `s`. -/
def act (c : Config π σ μ) (p : π) (m : μ) (s : σ) : Config π σ μ := ⟨s, Function.update c.locals p m⟩

@[simp] theorem act_shared (c : Config π σ μ) (p : π) (m : μ) (s : σ) : (c.act p m s).shared = s := rfl

@[simp] theorem act_locals_self (c : Config π σ μ) (p : π) (m : μ) (s : σ) : (c.act p m s).locals p = m :=
  Function.update_self ..

@[simp] theorem act_locals_of_ne {c : Config π σ μ} {p q : π} {m : μ} {s : σ} (h : q ≠ p) :
    (c.act p m s).locals q = c.locals q := Function.update_of_ne h ..

/-- What a local state satisfies after a step, the acting process's new one does or another process's did. -/
theorem of_locals_act {c : Config π σ μ} {p q : π} {m : μ} {s : σ} {P : μ → Prop}
    (h : P ((c.act p m s).locals q)) :
    (q = p ∧ P m) ∨ (q ≠ p ∧ P (c.locals q)) := by
  by_cases hqp : q = p
  · rw [hqp, act_locals_self] at h
    exact Or.inl ⟨hqp, h⟩
  · rw [act_locals_of_ne hqp] at h
    exact Or.inr ⟨hqp, h⟩

/-- What another process's local state is it still is after the step. -/
theorem exists_locals_act {c : Config π σ μ} {p q : π} {m : μ} {s : σ} {β : Type*} {f : μ → β} {b : β}
    (hq : f (c.locals q) = b) (hqp : q ≠ p) : ∃ q, f ((c.act p m s).locals q) = b := by
  refine ⟨q, ?_⟩
  rw [act_locals_of_ne hqp]
  exact hq

/-- The whole seen through a view of the shared state and one of the local states. -/
def view {σ' : Type*} {μ' : Type*} (f : σ → σ') (g : μ → μ') (c : Config π σ μ) : Config π σ' μ' :=
  ⟨f c.shared, fun p => g (c.locals p)⟩

theorem view_act {σ' : Type*} {μ' : Type*} {f : σ → σ'} {g : μ → μ'} (c : Config π σ μ) (p : π)
    (m : μ) (s : σ) :
    (c.act p m s).view f g = (c.view f g).act p (g m) (f s) := by
  have hlocals : (fun q => g ((c.act p m s).locals q)) = ((c.view f g).act p (g m) (f s)).locals := by
    funext q
    by_cases hq : q = p
    · rw [hq, act_locals_self, act_locals_self]
    · rw [act_locals_of_ne hq, act_locals_of_ne hq]
      rfl
  unfold view
  rw [hlocals]
  rfl

variable (prog : α → μ → σ → Option (μ × σ))

/-- What a process does without interruption: it takes the actions one after the other and leaves out those
that are not its next one. -/
def alone (actions : List α) (m : μ) (s : σ) : μ × σ :=
  actions.foldl (fun c a => (prog a c.1 c.2).getD c) (m, s)

theorem alone_cons (a : α) (actions : List α) (m : μ) (s : σ) :
    alone prog (a :: actions) m s =
      alone prog actions ((prog a m s).getD (m, s)).1 ((prog a m s).getD (m, s)).2 := rfl

variable {prog} in
theorem alone_cons_some {a : α} {actions : List α} {m m' : μ} {s s' : σ} (h : prog a m s = some (m', s')) :
    alone prog (a :: actions) m s = alone prog actions m' s' := by
  rw [alone_cons, h]
  rfl

variable {prog} in
theorem alone_cons_none {a : α} {actions : List α} {m : μ} {s : σ} (h : prog a m s = none) :
    alone prog (a :: actions) m s = alone prog actions m s := by
  rw [alone_cons, h]
  rfl

variable {prog} in
/-- A process that has come to its end stays there. -/
theorem alone_of_stuck {actions : List α} {m : μ} {s : σ} (h : ∀ a ∈ actions, prog a m s = none) :
    alone prog actions m s = (m, s) := by
  induction actions with
  | nil => rfl
  | cons a actions ih =>
    rw [alone_cons_none (h a (by simp))]
    exact ih fun b hb => h b (by simp [hb])

/-- One atomic action `l.2` of the process `l.1`. -/
def step (c : Config π σ μ) (l : π × α) : Option (Config π σ μ) :=
  (prog l.2 (c.locals l.1) c.shared).map fun r => c.act l.1 r.1 r.2

variable {prog} {ok : List (Step (Config π σ μ) (π × α)) → Config π σ μ → π × α →
  Prop} {init c : Config π σ μ}
  {tr : List (Step (Config π σ μ) (π × α))}

theorem step_eq_some {c' : Config π σ μ} {p : π} {a : α} (h : step prog c (p, a) = some c') :
    ∃ m s, prog a (c.locals p) c.shared = some (m, s) ∧ c' = c.act p m s := by
  obtain ⟨⟨m, s⟩, hprog, rfl⟩ := Option.map_eq_some_iff.mp h
  exact ⟨m, s, hprog, rfl⟩

/-- Non-interference of assertions: `I` speaks about the whole, `L` about the shared state and one local
state. -/
theorem invariant {I : List (Step (Config π σ μ) (π × α)) → Config π σ μ → Prop}
    {L : List (Step (Config π σ μ) (π × α)) → σ → μ → Prop} (hI : I [] init)
    (hL : ∀ p, L [] init.shared (init.locals p))
    (hs : ∀ tr c p a m s, I tr c → (∀ q, L tr c.shared (c.locals q)) → ok tr c (p, a) →
      prog a (c.locals p) c.shared = some (m, s) →
      I (tr ++ [⟨c, (p, a), c.act p m s⟩]) (c.act p m s) ∧ L (tr ++ [⟨c, (p, a), c.act p m s⟩]) s m ∧
        ∀ q, q ≠ p → L (tr ++ [⟨c, (p, a), c.act p m s⟩]) s (c.locals q))
    (h : Run (step prog) ok init tr c) : I tr c ∧ ∀ q, L tr c.shared (c.locals q) := by
  refine h.invariant (I := fun tr c => I tr c ∧ ∀ q, L tr c.shared (c.locals q)) ⟨hI, hL⟩ ?_
  rintro tr c ⟨p, a⟩ c' _ ⟨hi, hl⟩ hok hnext
  obtain ⟨m, s, hprog, rfl⟩ := step_eq_some hnext
  obtain ⟨hwhole, hown, hothers⟩ := hs tr c p a m s hi hl hok hprog
  refine ⟨hwhole, ?_⟩
  intro q
  by_cases hq : q = p
  · subst hq
    rw [act_locals_self]
    exact hown
  · rw [act_locals_of_ne hq]
    exact hothers q hq

end Config

end Library
