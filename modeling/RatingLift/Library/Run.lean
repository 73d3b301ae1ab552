import Mathlib.Data.List.Basic
import Mathlib.Data.List.Induction

/-!
# Runs of a labelled transition system

`Run next ok init tr s`: from `init`, the steps of `tr` lead to `s`.  A step takes a label; `next` computes
the state after it (`none` when the label is not enabled) and `ok` says whether the label may be taken after
the history so far, which is where the freshness of drawn values and conditions on the environment stand.

* (`Run.invariant`) a property of history and state that every step keeps holds of every run;
* (`Run.split`) every recorded step was taken after the history before it;
* (`Run.since`) a property of the history since some step that every later step keeps;
* (`Run.mono`) fewer conditions on the steps allow more runs;
* (`Run.map`) a run seen through a simulation is a run of the other system;
* (`Run.visible_run`) a run whose steps are steps of another system, or leave the state alone, is a run of
  that system;
* (`Run.deterministic`) the labels determine a run;
* (`Run.latest_snoc`) the last of the values that the steps supply, where one step is added;
* (`Run.of_replay`) a list of labels that replays successfully is a run, which evaluation decides.
-/

namespace Library

universe u v

/-- One step of a run. -/
structure Step (σ : Type u) (ℓ : Type v) where
  before : σ
  label : ℓ
  after : σ

variable {σ : Type u} {ℓ : Type v}

inductive Run (next : σ → ℓ → Option σ) (ok : List (Step σ ℓ) → σ → ℓ → Prop) (init : σ) :
    List (Step σ ℓ) → σ → Prop
  | nil : Run next ok init [] init
  | snoc {tr : List (Step σ ℓ)} {s s' : σ} {l : ℓ} :
      Run next ok init tr s → ok tr s l → next s l = some s' → Run next ok init (tr ++ [⟨s, l, s'⟩]) s'

namespace Run

variable {next : σ → ℓ → Option σ} {ok ok' : List (Step σ ℓ) → σ → ℓ → Prop} {init s : σ}
  {tr : List (Step σ ℓ)}

/-- What holds at the start and is kept by every step holds of every run. -/
theorem invariant {I : List (Step σ ℓ) → σ → Prop} (h0 : I [] init)
    (hs : ∀ tr s l s', Run next ok init tr s → I tr s → ok tr s l → next s l = some s' →
      I (tr ++ [⟨s, l, s'⟩]) s')
    (h : Run next ok init tr s) : I tr s := by
  induction h with
  | nil => exact h0
  | snoc hr hok hn ih => exact hs _ _ _ _ hr ih hok hn

theorem mono (hok : ∀ tr s l, ok tr s l → ok' tr s l) (h : Run next ok init tr s) :
    Run next ok' init tr s := by
  induction h with
  | nil => exact .nil
  | snoc _ ho hn ih => exact .snoc ih (hok _ _ _ ho) hn

/-- A condition that every recorded step meets may be asked of the steps. -/
theorem and_of_forall {p : σ → ℓ → Prop} (h : Run next ok init tr s) (hp : ∀ x ∈ tr, p x.before x.label) :
    Run next (fun tr s l => ok tr s l ∧ p s l) init tr s := by
  induction h with
  | nil => exact .nil
  | @snoc tr t t' l _ hok hn ih =>
    have hlast : p t l := hp ⟨t, l, t'⟩ (by simp)
    exact .snoc (ih fun x hx => hp x (by simp [hx])) ⟨hok, hlast⟩ hn

private theorem split_snoc {pre post tr : List (Step σ ℓ)} {a b : Step σ ℓ}
    (h : tr ++ [b] = pre ++ a :: post) :
    (post = [] ∧ pre = tr ∧ a = b) ∨ ∃ post', post = post' ++ [b] ∧ tr = pre ++ a :: post' := by
  rcases List.eq_nil_or_concat post with rfl | ⟨post', c, rfl⟩
  · obtain ⟨rfl, h2⟩ := List.append_inj' h rfl
    exact Or.inl ⟨rfl, rfl, by simpa using h2.symm⟩
  · rw [List.concat_eq_append, ← List.cons_append, ← List.append_assoc] at h
    obtain ⟨rfl, h2⟩ := List.append_inj' h rfl
    simp only [List.cons.injEq, and_true] at h2
    subst h2
    exact Or.inr ⟨post', by simp, rfl⟩

/-- A step of a run was taken from the state that the history before it leads to. -/
theorem split {pre post : List (Step σ ℓ)} {a : Step σ ℓ} (h : Run next ok init tr s)
    (htr : tr = pre ++ a :: post) :
    Run next ok init pre a.before ∧ ok pre a.before a.label ∧ next a.before a.label = some a.after := by
  induction h generalizing post with
  | nil => simp at htr
  | snoc hr hok hn ih =>
    rcases split_snoc htr with ⟨_, rfl, rfl⟩ | ⟨post', _, htr'⟩
    · exact ⟨hr, hok, hn⟩
    · exact ih htr'

/-- The state after a step and the history up to and including it. -/
theorem upto {pre post : List (Step σ ℓ)} {a : Step σ ℓ} (h : Run next ok init tr s)
    (htr : tr = pre ++ a :: post) :
    Run next ok init (pre ++ [a]) a.after := by
  obtain ⟨hr, hok, hn⟩ := h.split htr
  exact hr.snoc hok hn

/-- A property of the history since some step, once it holds right after that step and is kept by every later
one, holds at the end. -/
theorem since {pre post : List (Step σ ℓ)} {a : Step σ ℓ} {J : List (Step σ ℓ) → σ → Prop}
    (h : Run next ok init tr s) (htr : tr = pre ++ a :: post) (ha : J [] a.after)
    (hs : ∀ pre' b post', tr = pre ++ a :: (pre' ++ b :: post') → J pre' b.before → J (pre' ++ [b]) b.after) :
    J post s := by
  induction h generalizing post with
  | nil => simp at htr
  | @snoc tr' t t' l hr hok hn ih =>
    rcases split_snoc htr with ⟨rfl, rfl, rfl⟩ | ⟨post', rfl, rfl⟩
    · exact ha
    · have hJ : J post' t := by
        refine ih rfl ?_
        intro pre' b post'' he hb
        refine hs pre' b (post'' ++ [⟨t, l, t'⟩]) ?_ hb
        have := congrArg (· ++ [(⟨t, l, t'⟩ : Step σ ℓ)]) he
        simpa using this
      exact hs post' ⟨t, l, t'⟩ [] (by simp) hJ

/-- What holds at the start and after every step holds of the state a run leads to. -/
theorem forall_after {p : σ → Prop} (h : Run next ok init tr s) (h0 : p init)
    (hp : ∀ x ∈ tr, p x.after) : p s := by
  cases h with
  | nil => exact h0
  | @snoc tr t t' l _ _ _ => exact hp ⟨t, l, s⟩ (by simp)

/-- What holds at the start and after every step holds before every step. -/
theorem forall_before {p : σ → Prop} (h : Run next ok init tr s) (h0 : p init) (hp : ∀ x ∈ tr, p x.after) :
    ∀ x ∈ tr, p x.before := by
  intro x hx
  obtain ⟨pre, post, htr⟩ := List.append_of_mem hx
  exact (h.split htr).1.forall_after h0 fun y hy => hp y (by rw [htr]; simp [hy])

/-- What holds at the start and is kept by every recorded step holds after every one. -/
theorem forall_steps {p : σ → Prop} (h : Run next ok init tr s) (h0 : p init)
    (hs : ∀ x ∈ tr, p x.before → p x.after) : ∀ x ∈ tr, p x.after := by
  induction h with
  | nil => intro x hx; cases hx
  | @snoc tr t t' l hr _ _ ih =>
    have hall : ∀ x ∈ tr, p x.after := ih fun x hx => hs x (by simp [hx])
    intro x hx
    rcases List.mem_append.mp hx with hx | hx
    · exact hall x hx
    · obtain rfl := List.mem_singleton.mp hx
      exact hs _ (by simp) (hr.forall_after h0 hall)

/-! ### Simulation -/

/-- A run whose every step is, seen through `f` and `g`, a step of another system is a run of that system. -/
theorem map {σ' : Type*} {ℓ' : Type*} {next' : σ' → ℓ' → Option σ'} (f : σ → σ') (g : Step σ ℓ → ℓ')
    (h : Run next ok init tr s) (hstep : ∀ x ∈ tr, next' (f x.before) (g x) = some (f x.after)) :
    Run next' (fun _ _ _ => True) (f init) (tr.map fun x => ⟨f x.before, g x, f x.after⟩) (f s) := by
  induction h with
  | nil => exact .nil
  | @snoc tr t t' l _ _ _ ih =>
    have hlast := hstep ⟨t, l, t'⟩ (by simp)
    rw [List.map_append]
    exact .snoc (ih fun x hx => hstep x (by simp [hx])) trivial hlast

/-- The steps that have a label in another system, as steps of that system. -/
def visible {ℓ' : Type*} (g : Step σ ℓ → Option ℓ') (tr : List (Step σ ℓ)) : List (Step σ ℓ') :=
  tr.filterMap fun x => (g x).map fun l => ⟨x.before, l, x.after⟩

/-- A run whose steps are steps of another system, or leave the state alone, is a run of that system. -/
theorem visible_run {ℓ' : Type*} {next' : σ → ℓ' → Option σ} {ok' : List (Step σ ℓ') → σ → ℓ' → Prop}
    {g : Step σ ℓ → Option ℓ'} (h : Run next ok init tr s)
    (hsilent : ∀ x ∈ tr, g x = none → x.after = x.before)
    (hstep : ∀ pre x post l, tr = pre ++ x :: post → g x = some l →
      ok' (visible g pre) x.before l ∧ next' x.before l = some x.after) :
    Run next' ok' init (visible g tr) s := by
  induction h with
  | nil => exact .nil
  | @snoc tr t t' l hr hok hn ih =>
    have hrun : Run next' ok' init (visible g tr) t := by
      refine ih (fun x hx => hsilent x (by simp [hx])) ?_
      intro pre x post l' htr
      exact hstep pre x (post ++ [⟨t, l, t'⟩]) l' (by simp [htr])
    unfold visible at hrun ⊢
    rw [List.filterMap_append]
    cases hg : g ⟨t, l, t'⟩ with
    | none =>
      obtain rfl : t' = t := hsilent ⟨t, l, t'⟩ (by simp) hg
      simpa [hg] using hrun
    | some l' =>
      obtain ⟨hok', hnext⟩ := hstep tr ⟨t, l, t'⟩ [] l' rfl hg
      simpa [hg] using hrun.snoc hok' hnext

/-- Two runs that take the same labels from one state are the same. -/
theorem deterministic {tr' : List (Step σ ℓ)} {s' : σ} (h : Run next ok init tr s)
    (h' : Run next ok' init tr' s') (hlabels : tr.map Step.label = tr'.map Step.label) :
    tr = tr' ∧ s = s' := by
  induction h generalizing tr' s' with
  | nil =>
    cases h' with
    | nil => exact ⟨rfl, rfl⟩
    | snoc _ _ _ => simp at hlabels
  | snoc _ _ hn ih =>
    cases h' with
    | nil => simp at hlabels
    | snoc hr' _ hn' =>
      rw [List.map_append, List.map_append] at hlabels
      obtain ⟨hinit, hlast⟩ := List.append_inj' hlabels rfl
      obtain ⟨rfl, rfl⟩ := ih hr' hinit
      obtain rfl := (List.cons.inj hlast).1
      rw [hn] at hn'
      obtain rfl := Option.some.inj hn'
      exact ⟨rfl, rfl⟩

/-- Where every label is enabled and allowed, there is a run of any labels. -/
theorem exists_of_total {f : σ → ℓ → σ} (init : σ) (labels : List ℓ) :
    ∃ tr s, Run (fun s l => some (f s l)) (fun _ _ _ => True) init tr s ∧ tr.map Step.label = labels := by
  induction labels using List.reverseRecOn with
  | nil => exact ⟨[], init, .nil, rfl⟩
  | append_singleton labels l ih =>
    obtain ⟨tr, s, h, hlabels⟩ := ih
    refine ⟨tr ++ [⟨s, l, f s l⟩], f s l, h.snoc trivial rfl, ?_⟩
    rw [List.map_append, hlabels]
    rfl

/-! ### What the steps supply -/

/-- The last of the values that the steps supply, where there is any. -/
def latest {α : Type*} (f : Step σ ℓ → Option α) (tr : List (Step σ ℓ)) : Option α :=
  (tr.filterMap f).getLast?

theorem latest_snoc {α : Type*} {f : Step σ ℓ → Option α} {tr : List (Step σ ℓ)} {x : Step σ ℓ} :
    latest f (tr ++ [x]) = (f x).or (latest f tr) := by
  unfold latest
  rw [List.filterMap_append, List.getLast?_append]
  cases hx : f x <;> simp [hx]

/-! ### Replaying a list of labels -/

section Replay

variable (next) (ok) [∀ tr s l, Decidable (ok tr s l)]

/-- Takes the labels one after the other; `none` when one of them may not be taken. -/
def replayFrom (tr : List (Step σ ℓ)) (s : σ) : List ℓ → Option (List (Step σ ℓ) × σ)
  | [] => some (tr, s)
  | l :: ls =>
    if ok tr s l then
      match next s l with
      | some s' => replayFrom (tr ++ [⟨s, l, s'⟩]) s' ls
      | none => none
    else none

def replay (init : σ) (ls : List ℓ) : Option (List (Step σ ℓ) × σ) := replayFrom next ok [] init ls

variable {next ok}

private theorem replayFrom_run {ls : List ℓ} : ∀ {tr : List (Step σ ℓ)} {s : σ} {r : List (Step σ ℓ) × σ},
    Run next ok init tr s → replayFrom next ok tr s ls = some r → Run next ok init r.1 r.2 := by
  induction ls with
  | nil => intro tr s r hr h; cases h; exact hr
  | cons l ls ih =>
    intro tr s r hr h
    unfold replayFrom at h
    split at h
    · rename_i hok
      split at h
      · rename_i s' hn; exact ih (hr.snoc hok hn) h
      · cases h
    · cases h

theorem of_replay {ls : List ℓ} {r : List (Step σ ℓ) × σ} (h : replay next ok init ls = some r) :
    Run next ok init r.1 r.2 :=
  replayFrom_run .nil h

/-- A check that the replayed run passes is passed by some run. -/
theorem exists_of_replay {ls : List ℓ} {p : List (Step σ ℓ) × σ → Bool}
    (h : (replay next ok init ls).map p = some true) : ∃ tr s, Run next ok init tr s ∧ p (tr, s) = true := by
  obtain ⟨r, hr, hp⟩ := Option.map_eq_some_iff.mp h
  exact ⟨r.1, r.2, of_replay hr, hp⟩

end Replay

end Run

end Library
