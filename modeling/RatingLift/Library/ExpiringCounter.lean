import Mathlib.Data.List.Nodup
import Mathlib.Data.List.Perm.Subperm
import RatingLift.Library.ExpiringStore
import RatingLift.Library.Interleaving

/-!
# Counters that expire

Any number of callers count their calls in an expiring store, each with two commands: an `INCR`, and an
`EXPIRE` when the `INCR` has started the counter.  A call may fail after any of its commands, and time passes.
`lives` counts how often the counter of a key was started; no caller reads it, it only tells one life of a
counter from the next.

* (`alone_call`) a call without interruption;
* (`expiring_iff`) every counter has a deadline, or a call that is about to set it, exactly as long as no call
  fails between the `INCR` that starts a counter and its `EXPIRE`;
* (`answered_le`) in one life of a counter at most `limit` calls are answered with a number up to `limit`;
* (`Expiring.eventually_none`) a counter with a deadline is gone once it has passed;
* (`stuck`) a counter without one that nobody is about to set counts on for ever.
-/

namespace Library

universe u v w x

/-- The counter that a call counts in, how long that lives, and how the store keeps numbers. -/
structure CounterSpec (κ : Type u) (ν : Type v) (γ : Type w) where
  key : γ → κ
  ttl : γ → Nat
  read : ν → Nat
  write : Nat → ν
  read_write : ∀ n, read (write n) = n

structure Counters (κ : Type u) (ν : Type v) where
  store : ExpiringStore κ ν
  now : Nat
  lives : κ → Nat

/-- The number that a call was given, in which life of which counter. -/
structure Ticket (κ : Type u) where
  key : κ
  life : Nat
  attempts : Nat
deriving DecidableEq

/-- How far a caller has come. -/
inductive Counting (γ : Type w) where
  | idle
  /-- The call is counted; if `due`, it has started its counter and still has to set the deadline. -/
  | counted (call : γ) (life attempts : Nat) (due : Bool)
  | returned (call : γ) (life attempts : Nat)
deriving DecidableEq

inductive CounterCommand (γ : Type w) where
  | incr (call : γ)
  | expire
  | answer
  | fail
  | wait (d : Nat)
deriving DecidableEq

namespace Counting

section

variable {κ : Type u} {ν : Type v} {γ : Type w} (spec : CounterSpec κ ν γ)

/-- The ticket of a call in flight. -/
def held : Counting γ → Option (Ticket κ)
  | counted call life attempts _ => some ⟨spec.key call, life, attempts⟩
  | _ => none

/-- The counter whose deadline the caller is about to set. -/
def due : Counting γ → Option κ
  | counted call _ _ true => some (spec.key call)
  | _ => none

/-- The number that `INCR` gives a call. -/
def attempts (s : Counters κ ν) (call : γ) : Nat := (s.store.get s.now (spec.key call)).elim 0 spec.read + 1

variable {spec} in
theorem attempts_of_entry {s : Counters κ ν} {call : γ} {e : Entry ν}
    (h : s.store.entry s.now (spec.key call) = some e) : attempts spec s call = spec.read e.value + 1 := by
  unfold attempts ExpiringStore.get
  rw [h]
  rfl

variable {spec} in
theorem attempts_of_gone {s : Counters κ ν} {call : γ} (h : s.store.entry s.now (spec.key call) = none) :
    attempts spec s call = 1 := by
  unfold attempts ExpiringStore.get
  rw [h]
  rfl

variable [DecidableEq κ]

/-- What an `INCR` leaves. -/
def afterIncr (s : Counters κ ν) (call : γ) : Counting γ × Counters κ ν :=
  let n := attempts spec s call
  let store := s.store.modify s.now (spec.key call) fun _ => spec.write n
  if n = 1 then
    let life := s.lives (spec.key call) + 1
    (.counted call life n true, ⟨store, s.now, Function.update s.lives (spec.key call) life⟩)
  else (.counted call (s.lives (spec.key call)) n false, ⟨store, s.now, s.lives⟩)

def prog : CounterCommand γ → Counting γ → Counters κ ν → Option (Counting γ × Counters κ ν)
  | .wait d, m, s => some (m, { s with now := s.now + d })
  | .expire, .counted call life n true, s =>
    some
      (.counted call life n false, { s with store := s.store.expire s.now (spec.ttl call) (spec.key call) })
  | .answer, .counted call life n false, s => some (.returned call life n, s)
  | .fail, .counted .., s => some (.idle, s)
  -- a caller with a call in flight starts no other
  | .incr _, .counted .., _ => none
  | .incr call, _, s => some (afterIncr spec s call)
  | _, _, _ => none

/-- A call without interruption counts, sets the deadline if its number is 1, and returns the number. -/
theorem alone_call (s : Counters κ ν) (call : γ) :
    ∃ life lives, Config.alone (prog spec) [.incr call, .expire, .answer] .idle s =
      (.returned call life (attempts spec s call),
        ⟨if attempts spec s call = 1 then
            (s.store.modify s.now (spec.key call) fun _ => spec.write (attempts spec s call)).expire s.now
              (spec.ttl call)
              (spec.key call)
          else s.store.modify s.now (spec.key call) fun _ => spec.write (attempts spec s call), s.now,
            lives⟩) := by
  have hincr : prog spec (.incr call) .idle s = some (afterIncr spec s call) := rfl
  unfold afterIncr at hincr
  by_cases hn : attempts spec s call = 1
  · simp only [hn, if_true] at hincr
    rw [Config.alone_cons_some hincr]
    refine ⟨s.lives (spec.key call) + 1,
      Function.update s.lives (spec.key call) (s.lives (spec.key call) + 1), ?_⟩
    simp only [hn, if_true]
    rfl
  · simp only [if_neg hn] at hincr
    rw [Config.alone_cons_some hincr]
    refine ⟨s.lives (spec.key call), s.lives, ?_⟩
    simp only [if_neg hn]
    rfl

/-- Nothing changes but the counter of `k`. -/
structure OnlyAt (k : κ) (s s' : Counters κ ν) : Prop where
  store : ∀ k', k' ≠ k → s'.store k' = s.store k'
  lives : ∀ k', k' ≠ k → s'.lives k' = s.lives k'

/-- What one command does: an `INCR` starts a counter without a deadline, or counts on in the one that it
finds. -/
inductive Effect (m : Counting γ) (s : Counters κ ν) :
    CounterCommand γ → Counting γ → Counters κ ν → Prop where
  | waited {d : Nat} : Effect m s (.wait d) m ⟨s.store, s.now + d, s.lives⟩
  | answered {call : γ} {life n : Nat} (hm : m = .counted call life n false) :
      Effect m s .answer (.returned call life n) s
  | failed {call : γ} {life n : Nat} {due : Bool} (hm : m = .counted call life n due) :
      Effect m s .fail .idle s
  | expired {call : γ} {life n : Nat} {s' : Counters κ ν} {e : Entry ν} (hm : m = .counted call life n true)
      (hentry : s.store (spec.key call) = some e)
      (hstore : s'.store (spec.key call) = some ⟨e.value, some (s.now + spec.ttl call)⟩)
        (hlives : s'.lives = s.lives)
      (hframe : OnlyAt (spec.key call) s s') : Effect m s .expire (.counted call life n false) s'
  | started {call : γ} {s' : Counters κ ν} (hfree : m.held spec = none)
      (hgone : s.store.entry s.now (spec.key call) = none)
        (hstore : s'.store (spec.key call) = some ⟨spec.write 1, none⟩)
      (hlives : s'.lives (spec.key call) = s.lives (spec.key call) + 1)
        (hframe : OnlyAt (spec.key call) s s') :
      Effect m s (.incr call) (.counted call (s.lives (spec.key call) + 1) 1 true) s'
  | continued {call : γ} {s' : Counters κ ν} {e : Entry ν} (hfree : m.held spec = none)
      (hentry : s.store (spec.key call) = some e)
      (hstore : s'.store (spec.key call) = some ⟨spec.write (spec.read e.value + 1), e.expiresAt⟩)
      (hlives : s'.lives = s.lives) (hframe : OnlyAt (spec.key call) s s') :
      Effect m s (.incr call) (.counted call (s.lives (spec.key call)) (spec.read e.value + 1) false) s'

/-- Every counter has counted something. -/
def Positive (spec : CounterSpec κ ν γ) (s : Counters κ ν) : Prop :=
  ∀ k e, s.store k = some e → 0 < spec.read e.value

/-- A counter whose deadline the caller is about to set has none. -/
def Dueless (spec : CounterSpec κ ν γ) (m : Counting γ) (s : Counters κ ν) : Prop :=
  ∀ k, m.due spec = some k → ∃ e, s.store k = some e ∧ e.expiresAt = none

variable {spec}

theorem OnlyAt.modify {s : Counters κ ν} {k : κ} {f : Option ν → ν} {lives : κ → Nat}
    (hlives : ∀ k', k' ≠ k → lives k' = s.lives k') :
    OnlyAt k s ⟨s.store.modify s.now k f, s.now, lives⟩ := by
  refine ⟨?_, hlives⟩
  intro k' hk
  dsimp only
  exact ExpiringStore.modify_of_ne hk

theorem afterIncr_effect {m : Counting γ} {s : Counters κ ν} (hpos : Positive spec s)
    (hfree : m.held spec = none) (call : γ) :
    Effect spec m s (.incr call) (afterIncr spec s call).1 (afterIncr spec s call).2 := by
  cases hentry : s.store.entry s.now (spec.key call) with
  | none =>
    have heq : afterIncr spec s call = (.counted call (s.lives (spec.key call) + 1) 1 true,
        ⟨s.store.modify s.now (spec.key call) fun _ => spec.write 1, s.now,
          Function.update s.lives (spec.key call) (s.lives (spec.key call) + 1)⟩) := by
      unfold afterIncr
      rw [attempts_of_gone hentry]
      rfl
    rw [heq]
    exact .started hfree hentry (ExpiringStore.modify_of_gone hentry fun _ => spec.write 1)
      (Function.update_self ..)
      (.modify fun k hk => Function.update_of_ne hk ..)
  | some e =>
    have hold := ExpiringStore.eq_some_of_entry hentry
    have hnext : ¬ spec.read e.value + 1 = 1 := by
      have := hpos _ e hold
      omega
    have heq : afterIncr spec s call = (.counted call (s.lives (spec.key call)) (spec.read e.value + 1) false,
        ⟨s.store.modify s.now (spec.key call) fun _ => spec.write (spec.read e.value + 1), s.now,
          s.lives⟩) := by
      unfold afterIncr
      rw [attempts_of_entry hentry]
      exact if_neg hnext
    rw [heq]
    exact .continued hfree hold (ExpiringStore.modify_of_entry hentry fun _ =>
      spec.write (spec.read e.value + 1)) rfl
      (.modify fun _ _ => rfl)

theorem prog_effect {cmd : CounterCommand γ} {m m' : Counting γ} {s s' : Counters κ ν}
    (hpos : Positive spec s) (hdue : Dueless spec m s) (h : prog spec cmd m s = some (m', s')) :
    Effect spec m s cmd m' s' := by
  cases cmd with
  | wait d => cases h; exact .waited
  | expire =>
    cases m with
    | idle => cases h
    | returned _ _ _ => cases h
    | counted call life n due =>
      cases due with
      | false => cases h
      | true =>
        obtain ⟨e, he, hlasts⟩ := hdue (spec.key call) rfl
        have hentry := ExpiringStore.entry_of_lasting he hlasts s.now
        cases h
        refine .expired rfl he (ExpiringStore.expire_of_entry hentry _) rfl ⟨?_, fun _ _ => rfl⟩
        intro k hk
        exact ExpiringStore.expire_of_ne hk
  | answer =>
    cases m with
    | idle => cases h
    | returned _ _ _ => cases h
    | counted call life n due =>
      cases due with
      | true => cases h
      | false => cases h; exact .answered rfl
  | fail =>
    cases m with
    | idle => cases h
    | returned _ _ _ => cases h
    | counted call life n due => cases h; exact .failed rfl
  | incr call =>
    cases m with
    | counted _ _ _ _ => cases h
    | idle =>
      obtain ⟨rfl, rfl⟩ := Prod.ext_iff.mp (Option.some.inj h)
      exact afterIncr_effect hpos rfl call
    | returned _ _ _ =>
      obtain ⟨rfl, rfl⟩ := Prod.ext_iff.mp (Option.some.inj h)
      exact afterIncr_effect hpos rfl call

/-- Every counter stays one that has counted something. -/
theorem Effect.positive {cmd : CounterCommand γ} {m m' : Counting γ} {s s' : Counters κ ν}
    (h : Effect spec m s cmd m' s') (hpos : Positive spec s) : Positive spec s' := by
  have touched : ∀ {k : κ} {e : Entry ν}, OnlyAt k s s' → s'.store k = some e → 0 < spec.read e.value →
      Positive spec s' := by
    intro k e hframe hstore hvalue k' e' he'
    by_cases hk : k' = k
    · rw [hk, hstore] at he'
      rwa [← Option.some.inj he']
    · rw [hframe.store k' hk] at he'
      exact hpos k' e' he'
  cases h with
  | waited => exact hpos
  | answered _ => exact hpos
  | failed _ => exact hpos
  | @expired _ _ _ _ e _ hentry hstore _ hframe => exact touched hframe hstore (hpos _ e hentry)
  | started _ _ hstore _ hframe =>
    refine touched hframe hstore ?_
    rw [spec.read_write]
    exact Nat.one_pos
  | continued _ _ hstore _ hframe =>
    refine touched hframe hstore ?_
    rw [spec.read_write]
    omega

end

/-! ### Deadlines -/

section

variable {κ : Type u} {ν : Type v} {γ : Type w} {π : Type x} (spec : CounterSpec κ ν γ)

/-- One command of one caller. -/
abbrev CountingStep (π : Type x) (κ : Type u) (ν : Type v) (γ : Type w) :=
  Step (Config π (Counters κ ν) (Counting γ)) (π × CounterCommand γ)

/-- No counter, and nobody in the middle of a call. -/
def start (π : Type x) (κ : Type u) (ν : Type v) (γ : Type w) : Config π (Counters κ ν) (Counting γ) :=
  ⟨⟨.empty, 0, fun _ => 0⟩, fun _ => .idle⟩

/-- Every counter has a deadline, or a call that is about to set it. -/
def Expiring (c : Config π (Counters κ ν) (Counting γ)) : Prop :=
  ∀ k e, c.shared.store k = some e → e.expiresAt = none → ∃ q, (c.locals q).due spec = some k

/-- A call fails that has started a counter and has yet to set its deadline. -/
def Orphans (c : Config π (Counters κ ν) (Counting γ)) (l : π × CounterCommand γ) : Prop :=
  l.2 = .fail ∧ ((c.locals l.1).due spec).isSome

instance [DecidableEq γ] (c : Config π (Counters κ ν) (Counting γ)) (l : π × CounterCommand γ) :
    Decidable (Orphans spec c l) := inferInstanceAs (Decidable (_ ∧ _))

/-- A counter that a call is about to give a deadline has none, and one such call. -/
structure Watched (c : Config π (Counters κ ν) (Counting γ)) : Prop where
  positive : Positive spec c.shared
  dueless : ∀ q, Dueless spec (c.locals q) c.shared
  one : ∀ q r k, (c.locals q).due spec = some k → (c.locals r).due spec = some k → q = r

variable {spec}

theorem due_eq_none {m : Counting γ} (h : m.held spec = none) : m.due spec = none := by
  cases m with
  | idle => rfl
  | returned _ _ _ => rfl
  | counted _ _ _ _ => cases h

theorem watched_start : Watched spec (start π κ ν γ) := by
  refine ⟨?_, ?_, ?_⟩
  · intro k e he
    cases he
  · intro q k hk
    cases hk
  · intro q r k hk
    cases hk

theorem expiring_start : Expiring spec (start π κ ν γ) := by
  intro k e he
  cases he

/-- A counter with a deadline is gone once it has passed. -/
theorem Expiring.eventually_none {c : Config π (Counters κ ν) (Counting γ)} (h : Expiring spec c) {k : κ}
    (hdue : ∀ q, (c.locals q).due spec ≠ some k) :
    ∃ t, ∀ now, t ≤ now → c.shared.store.entry now k = none := by
  cases he : c.shared.store k with
  | none =>
    refine ⟨0, ?_⟩
    intro now _
    unfold ExpiringStore.entry
    rw [he]
    rfl
  | some e =>
    cases ht : e.expiresAt with
    | none =>
      obtain ⟨q, hq⟩ := h k e he ht
      exact absurd hq (hdue q)
    | some t => exact ⟨t, fun now hnow => ExpiringStore.entry_eq_none he ht hnow⟩

variable [DecidableEq κ] [DecidableEq π] {c : Config π (Counters κ ν) (Counting γ)} {p : π}
  {cmd : CounterCommand γ}
  {m : Counting γ} {s : Counters κ ν}

omit [DecidableEq κ] in
/-- Who is about to set a deadline after a step of `p` is `p`, or another caller who was before. -/
theorem due_act {q : π} {k : κ} (h : ((c.act p m s).locals q).due spec = some k) :
    (q = p ∧ m.due spec = some k) ∨ (q ≠ p ∧ (c.locals q).due spec = some k) :=
  Config.of_locals_act (P := fun m : Counting γ => m.due spec = some k) h

omit [DecidableEq κ] in
/-- A step that touches no counter. -/
private theorem Watched.keep (h : Watched spec c) (hstore : s.store = c.shared.store)
    (hdue : ∀ k, m.due spec = some k → (c.locals p).due spec = some k) : Watched spec (c.act p m s) := by
  have hold : ∀ q k, ((c.act p m s).locals q).due spec = some k → (c.locals q).due spec = some k := by
    intro q k hq
    rcases due_act hq with ⟨rfl, hown⟩ | ⟨_, hother⟩
    · exact hdue k hown
    · exact hother
  refine ⟨?_, ?_, ?_⟩
  · intro k e he
    rw [Config.act_shared, hstore] at he
    exact h.positive k e he
  · intro q k hq
    rw [Config.act_shared, hstore]
    exact h.dueless q k (hold q k hq)
  · intro q r k hq hr
    exact h.one q r k (hold q k hq) (hold r k hr)

omit [DecidableEq π] in
/-- What one command does in a run. -/
theorem Watched.effect (h : Watched spec c) (hprog : prog spec cmd (c.locals p) c.shared = some (m, s)) :
    Effect spec (c.locals p) c.shared cmd m s := prog_effect h.positive (h.dueless p) hprog

omit [DecidableEq κ] in
/-- A step that touches the counter of `k` only: if someone is about to set its deadline afterwards, it has
none, and that is the caller himself or someone else, not both. -/
private theorem Watched.touch {k : κ} (h : Watched spec c) (hpositive : Positive spec s)
    (hframe : OnlyAt k c.shared s)
    (hown : ∀ k', m.due spec = some k' → k' = k ∧ ∃ e, s.store k = some e ∧ e.expiresAt = none)
    (hother : ∀ q, q ≠ p → (c.locals q).due spec = some k →
      m.due spec = none ∧ ∃ e, s.store k = some e ∧ e.expiresAt = none) :
    Watched spec (c.act p m s) := by
  have hapart : ∀ q k', m.due spec = some k' → q ≠ p → (c.locals q).due spec ≠ some k' := by
    intro q k' hm hqp hq
    obtain ⟨rfl, _⟩ := hown k' hm
    have hnone := (hother q hqp hq).1
    rw [hm] at hnone
    cases hnone
  refine ⟨hpositive, ?_, ?_⟩
  · intro q k' hq
    rcases due_act hq with ⟨_, hm⟩ | ⟨hqp, hold⟩
    · obtain ⟨rfl, hlasts⟩ := hown k' hm
      exact hlasts
    · by_cases hk : k' = k
      · rw [hk] at hold ⊢
        exact (hother q hqp hold).2
      · rw [Config.act_shared, hframe.store k' hk]
        exact h.dueless q k' hold
  · intro q r k' hq hr
    rcases due_act hq with ⟨hqp, hm⟩ | ⟨hqp, hold⟩
    · rcases due_act hr with ⟨hrp, _⟩ | ⟨hrp, hold'⟩
      · rw [hqp, hrp]
      · exact absurd hold' (hapart r k' hm hrp)
    · rcases due_act hr with ⟨_, hm⟩ | ⟨_, hold'⟩
      · exact absurd hold (hapart q k' hm hqp)
      · exact h.one q r k' hold hold'

theorem Watched.step (h : Watched spec c) (heffect : Effect spec (c.locals p) c.shared cmd m s) :
    Watched spec (c.act p m s) := by
  have hpositive := heffect.positive h.positive
  cases heffect with
  | waited => exact h.keep rfl fun _ hk => hk
  | answered _ => exact h.keep rfl fun _ hk => nomatch hk
  | failed _ => exact h.keep rfl fun _ hk => nomatch hk
  | @expired call life n s e hm hentry hstore hlives hframe =>
    -- the deadline that is set was the caller's to set
    have hdue : (c.locals p).due spec = some (spec.key call) := by rw [hm]; rfl
    refine h.touch hpositive hframe (fun _ hk => nomatch hk) ?_
    intro q hqp hq
    exact absurd (h.one q p _ hq hdue) hqp
  | @started call s hfree hgone hstore hlives hframe =>
    refine h.touch hpositive hframe ?_ ?_
    · intro k hk
      exact ⟨(Option.some.inj hk).symm, _, hstore, rfl⟩
    · -- nobody is about to set the deadline of a counter that is gone
      intro q _ hq
      obtain ⟨e, he, hlasts⟩ := h.dueless q _ hq
      rw [ExpiringStore.entry_of_lasting he hlasts] at hgone
      cases hgone
  | @continued call s e hfree hentry hstore hlives hframe =>
    refine h.touch hpositive hframe (fun _ hk => nomatch hk) ?_
    intro q _ hq
    obtain ⟨e', he', hlasts⟩ := h.dueless q _ hq
    rw [hentry] at he'
    obtain rfl := Option.some.inj he'
    exact ⟨rfl, _, hstore, hlasts⟩

omit [DecidableEq κ] in
/-- A step that touches no counter and after which the caller is about to do what it was about to. -/
private theorem Expiring.keep (h : Expiring spec c) (hstore : s.store = c.shared.store)
    (hdue : m.due spec = (c.locals p).due spec) : Expiring spec (c.act p m s) := by
  intro k e he hlasts
  rw [Config.act_shared, hstore] at he
  obtain ⟨q, hq⟩ := h k e he hlasts
  by_cases hqp : q = p
  · refine ⟨p, ?_⟩
    rw [Config.act_locals_self, hdue, ← hqp]
    exact hq
  · exact Config.exists_locals_act hq hqp

/-- The counters keep their deadlines in a step that orphans none. -/
theorem Expiring.step (h : Expiring spec c) (hkept : ¬ Orphans spec c (p, cmd))
    (heffect : Effect spec (c.locals p) c.shared cmd m s) : Expiring spec (c.act p m s) := by
  cases heffect with
  | waited => exact h.keep rfl rfl
  | answered hm =>
    refine h.keep rfl ?_
    rw [hm]
    rfl
  | failed hm =>
    refine h.keep rfl ?_
    cases hdue : (c.locals p).due spec with
    | none => rfl
    | some k => exact absurd ⟨rfl, by rw [hdue]; rfl⟩ hkept
  | @expired call life n s e hm hentry hstore hlives hframe =>
    intro k e' he' hlasts
    by_cases hk : k = spec.key call
    · subst hk
      rw [Config.act_shared, hstore] at he'
      obtain rfl := Option.some.inj he'
      cases hlasts
    · rw [Config.act_shared, hframe.store k hk] at he'
      obtain ⟨q, hq⟩ := h k e' he' hlasts
      refine Config.exists_locals_act hq ?_
      rintro rfl
      rw [hm] at hq
      exact hk (Option.some.inj hq).symm
  | @started call s hfree hgone hstore hlives hframe =>
    intro k e he hlasts
    by_cases hk : k = spec.key call
    · subst hk
      refine ⟨p, ?_⟩
      rw [Config.act_locals_self]
      rfl
    · rw [Config.act_shared, hframe.store k hk] at he
      obtain ⟨q, hq⟩ := h k e he hlasts
      refine Config.exists_locals_act hq ?_
      rintro rfl
      rw [due_eq_none hfree] at hq
      cases hq
  | @continued call s e hfree hentry hstore hlives hframe =>
    intro k e' he' hlasts
    have hbefore : ∃ e, c.shared.store k = some e ∧ e.expiresAt = none := by
      by_cases hk : k = spec.key call
      · subst hk
        rw [Config.act_shared, hstore] at he'
        obtain rfl := Option.some.inj he'
        exact ⟨e, hentry, hlasts⟩
      · rw [Config.act_shared, hframe.store k hk] at he'
        exact ⟨e', he', hlasts⟩
    obtain ⟨e'', he'', hlasts'⟩ := hbefore
    obtain ⟨q, hq⟩ := h k e'' he'' hlasts'
    refine Config.exists_locals_act hq ?_
    rintro rfl
    rw [due_eq_none hfree] at hq
    cases hq

omit [DecidableEq κ] in
/-- The counter of a call that fails before it has set the deadline has none any more. -/
theorem Watched.orphaned (h : Watched spec c) (hcounter : Orphans spec c (p, cmd))
    (heffect : Effect spec (c.locals p) c.shared cmd m s) : ¬ Expiring spec (c.act p m s) := by
  obtain ⟨hfail, hdue⟩ := hcounter
  obtain ⟨k, hk⟩ := Option.isSome_iff_exists.mp hdue
  dsimp only at hfail hk
  subst hfail
  cases heffect with
  | failed _ =>
    intro hexpiring
    obtain ⟨e, he, hlasts⟩ := h.dueless p k hk
    obtain ⟨q, hq⟩ := hexpiring k e he hlasts
    rcases due_act hq with ⟨_, hnone⟩ | ⟨hqp, hother⟩
    · cases hnone
    · exact hqp (h.one q p k hother hk)

/-- Any commands of any callers, in any order. -/
abbrev CountingRun (spec : CounterSpec κ ν γ) :=
  Run (Config.step (π := π) (prog spec)) (fun _ _ _ => True) (start π κ ν γ)

variable {tr : List (CountingStep π κ ν γ)}

theorem watched_run (h : CountingRun spec tr c) : Watched spec c := by
  refine h.invariant (I := fun _ c => Watched spec c) watched_start ?_
  rintro tr c ⟨p, cmd⟩ c' _ hwatched _ hnext
  obtain ⟨m, s, hprog, rfl⟩ := Config.step_eq_some hnext
  exact hwatched.step (hwatched.effect hprog)

/-- A recorded step is one that `Effect` describes. -/
theorem effect_of_mem (h : CountingRun spec tr c) {x : CountingStep π κ ν γ} (hx : x ∈ tr) :
    Watched spec x.before ∧ ∃ m s, Effect spec (x.before.locals x.label.1) x.before.shared x.label.2 m s ∧
      x.after = x.before.act x.label.1 m s := by
  obtain ⟨pre, post, htr⟩ := List.append_of_mem hx
  obtain ⟨hrun, _, hnext⟩ := h.split htr
  obtain ⟨m, s, hprog, hafter⟩ := Config.step_eq_some hnext
  exact ⟨watched_run hrun, m, s, (watched_run hrun).effect hprog, hafter⟩

/-- In every state of a run each counter has a deadline, or a call that is about to set it, exactly when no
call fails between starting a counter and setting its deadline. -/
theorem expiring_iff (h : CountingRun spec tr c) :
    (∀ x ∈ tr, ¬ Orphans spec x.before x.label) ↔ ∀ x ∈ tr, Expiring spec x.after := by
  constructor
  · intro hkept
    refine h.forall_steps expiring_start ?_
    intro x hx hbefore
    obtain ⟨_, m, s, heffect, hafter⟩ := effect_of_mem h hx
    rw [hafter]
    exact hbefore.step (hkept x hx) heffect
  · intro hexpiring x hx horphans
    obtain ⟨hwatched, m, s, heffect, hafter⟩ := effect_of_mem h hx
    have hafter' := hexpiring x hx
    rw [hafter] at hafter'
    exact hwatched.orphaned horphans heffect hafter'

end

/-! ### The calls of one life of a counter -/

section

variable {κ : Type u} {ν : Type v} {γ : Type w} {π : Type x} (spec : CounterSpec κ ν γ)

/-- What a step answers. -/
def answeredBy (a : CountingStep π κ ν γ) : Option (Ticket κ) :=
  match a.label.2 with
  | .answer => (a.before.locals a.label.1).held spec
  | _ => none

/-- The tickets of the calls that have been answered, in order. -/
def answered (tr : List (CountingStep π κ ν γ)) : List (Ticket κ) := tr.filterMap (answeredBy spec)

/-- The ticket is of an earlier life of its counter, or its number has been reached in this one. -/
def Issued (t : Ticket κ) (s : Counters κ ν) : Prop :=
  t.life < s.lives t.key ∨
    t.life = s.lives t.key ∧ ∃ e, s.store t.key = some e ∧ t.attempts ≤ spec.read e.value

/-- No ticket is given twice. -/
structure TicketsApart (tr : List (CountingStep π κ ν γ))
    (c : Config π (Counters κ ν) (Counting γ)) : Prop where
  once : (answered spec tr).Nodup
  spent : ∀ t ∈ answered spec tr, Issued spec t c.shared ∧ 0 < t.attempts
  unspent : ∀ q t, (c.locals q).held spec = some t →
    t ∉ answered spec tr ∧ Issued spec t c.shared ∧ 0 < t.attempts
  apart : ∀ q r t, (c.locals q).held spec = some t → (c.locals r).held spec = some t → q = r

variable {spec} {tr : List (CountingStep π κ ν γ)} {a : CountingStep π κ ν γ} {t : Ticket κ}

theorem answered_concat_none (h : answeredBy spec a = none) :
    answered spec (tr ++ [a]) = answered spec tr := by
  simp [answered, h]

theorem answered_concat_some (h : answeredBy spec a = some t) :
    answered spec (tr ++ [a]) = answered spec tr ++ [t] := by
  simp [answered, h]

/-- What has been issued stays so. -/
theorem Effect.issued {m m' : Counting γ} {s s' : Counters κ ν} {cmd : CounterCommand γ}
    (h : Effect spec m s cmd m' s') (ht : Issued spec t s) : Issued spec t s' := by
  have touched : ∀ {k : κ}, OnlyAt k s s' → (t.key = k → Issued spec t s') → Issued spec t s' := by
    intro k hframe hown
    by_cases hk : t.key = k
    · exact hown hk
    · unfold Issued
      rw [hframe.store _ hk, hframe.lives _ hk]
      exact ht
  cases h with
  | waited => exact ht
  | answered _ => exact ht
  | failed _ => exact ht
  | @expired call _ _ _ e _ hentry hstore hlives hframe =>
    refine touched hframe ?_
    intro hk
    rcases ht with hlt | ⟨heq, e', he', hle⟩
    · exact Or.inl (by rwa [hlives])
    · rw [hk, hentry] at he'
      obtain rfl := Option.some.inj he'
      have hstore' : s'.store t.key = some ⟨e.value, some (s.now + spec.ttl call)⟩ := by rw [hk, hstore]
      exact Or.inr ⟨by rwa [hlives], _, hstore', hle⟩
  | @started call _ hfree hgone hstore hlives hframe =>
    refine touched hframe ?_
    intro hk
    left
    rw [hk, hlives, ← hk]
    rcases ht with hlt | ⟨heq, _⟩ <;> omega
  | @continued call _ e hfree hentry hstore hlives hframe =>
    refine touched hframe ?_
    intro hk
    rcases ht with hlt | ⟨heq, e', he', hle⟩
    · exact Or.inl (by rwa [hlives])
    · rw [hk, hentry] at he'
      obtain rfl := Option.some.inj he'
      have hstore' : s'.store t.key = some ⟨spec.write (spec.read e.value + 1), e.expiresAt⟩ := by
        rw [hk, hstore]
      refine Or.inr ⟨by rwa [hlives], _, hstore', ?_⟩
      rw [spec.read_write]
      omega

theorem ticketsApart_start : TicketsApart spec [] (start π κ ν γ) := by
  refine ⟨List.nodup_nil, ?_, ?_, ?_⟩
  · intro t ht
    cases ht
  · intro q t hq
    cases hq
  · intro q r t hq
    cases hq

variable [DecidableEq π] {c : Config π (Counters κ ν) (Counting γ)} {p : π} {cmd : CounterCommand γ}
  {m : Counting γ} {s : Counters κ ν}

/-- What is held after a step of `p` is held by `p`, or was by another caller. -/
theorem held_act {q : π} (h : ((c.act p m s).locals q).held spec = some t) :
    (q = p ∧ m.held spec = some t) ∨ (q ≠ p ∧ (c.locals q).held spec = some t) :=
  Config.of_locals_act (P := fun m : Counting γ => m.held spec = some t) h

/-- A step that gives no ticket and answers none. -/
private theorem TicketsApart.keep (h : TicketsApart spec tr c) (hnone : answeredBy spec a = none)
    (hissued : ∀ t, Issued spec t c.shared → Issued spec t s)
    (hheld : ∀ t, m.held spec = some t → (c.locals p).held spec = some t) :
    TicketsApart spec (tr ++ [a]) (c.act p m s) := by
  have hold : ∀ q t, ((c.act p m s).locals q).held spec = some t → (c.locals q).held spec = some t := by
    intro q t hq
    rcases held_act hq with ⟨rfl, hown⟩ | ⟨_, hother⟩
    · exact hheld t hown
    · exact hother
  refine ⟨?_, ?_, ?_, fun q r t hq hr => h.apart q r t (hold q t hq) (hold r t hr)⟩
  · rw [answered_concat_none hnone]
    exact h.once
  · intro t ht
    rw [answered_concat_none hnone] at ht
    exact ⟨hissued t (h.spent t ht).1, (h.spent t ht).2⟩
  · intro q t hq
    obtain ⟨hnew, hti, hpos⟩ := h.unspent q t (hold q t hq)
    rw [answered_concat_none hnone]
    exact ⟨hnew, hissued t hti, hpos⟩

/-- A step that gives a new ticket. -/
private theorem TicketsApart.give (h : TicketsApart spec tr c) (hnone : answeredBy spec a = none)
    (hissued : ∀ t, Issued spec t c.shared → Issued spec t s) (hheld : m.held spec = some t)
    (hfresh : ¬ Issued spec t c.shared) (hnow : Issued spec t s) (hpos : 0 < t.attempts) :
    TicketsApart spec (tr ++ [a]) (c.act p m s) := by
  have hnobody : ∀ q, (c.locals q).held spec ≠ some t := fun q hq => hfresh (h.unspent q t hq).2.1
  refine ⟨?_, ?_, ?_, ?_⟩
  · rw [answered_concat_none hnone]
    exact h.once
  · intro t' ht'
    rw [answered_concat_none hnone] at ht'
    exact ⟨hissued t' (h.spent t' ht').1, (h.spent t' ht').2⟩
  · intro q t' hq
    rw [answered_concat_none hnone]
    rcases held_act hq with ⟨_, hown⟩ | ⟨_, hother⟩
    · rw [hheld] at hown
      obtain rfl := Option.some.inj hown
      exact ⟨fun ht => hfresh (h.spent t ht).1, hnow, hpos⟩
    · obtain ⟨hnew, hti, hpos'⟩ := h.unspent q t' hother
      exact ⟨hnew, hissued t' hti, hpos'⟩
  · intro q r t' hq hr
    rcases held_act hq with ⟨hqp, hown⟩ | ⟨_, hother⟩
    · rcases held_act hr with ⟨hrp, _⟩ | ⟨_, hother'⟩
      · rw [hqp, hrp]
      · rw [hheld] at hown
        obtain rfl := Option.some.inj hown
        exact absurd hother' (hnobody r)
    · rcases held_act hr with ⟨_, hown⟩ | ⟨_, hother'⟩
      · rw [hheld] at hown
        obtain rfl := Option.some.inj hown
        exact absurd hother (hnobody q)
      · exact h.apart q r t' hother hother'

/-- A call that is answered. -/
private theorem TicketsApart.answer (h : TicketsApart spec tr c) (hanswered : answeredBy spec a = some t)
    (hown : (c.locals p).held spec = some t) (hheld : m.held spec = none) :
    TicketsApart spec (tr ++ [a]) (c.act p m c.shared) := by
  obtain ⟨hnew, hti, hpos⟩ := h.unspent p t hown
  have hold : ∀ q t', ((c.act p m c.shared).locals q).held spec = some t' →
      q ≠ p ∧ (c.locals q).held spec = some t' := by
    intro q t' hq
    rcases held_act hq with ⟨_, hnone⟩ | hother
    · rw [hheld] at hnone
      cases hnone
    · exact hother
  refine ⟨?_, ?_, ?_, ?_⟩
  · rw [answered_concat_some hanswered]
    refine List.nodup_append.mpr ⟨h.once, by simp, ?_⟩
    rintro t' ht' _ ht'' rfl
    rw [List.mem_singleton] at ht''
    exact hnew (ht'' ▸ ht')
  · intro t' ht'
    rw [answered_concat_some hanswered, List.mem_append, List.mem_singleton] at ht'
    rcases ht' with ht' | rfl
    · exact h.spent t' ht'
    · exact ⟨hti, hpos⟩
  · intro q t' hq
    obtain ⟨hqp, hother⟩ := hold q t' hq
    obtain ⟨hnew', hrest⟩ := h.unspent q t' hother
    refine ⟨?_, hrest⟩
    rw [answered_concat_some hanswered, List.mem_append, List.mem_singleton]
    rintro (hmem | rfl)
    · exact hnew' hmem
    · exact hqp (h.apart q p _ hother hown)
  · intro q r t' hq hr
    exact h.apart q r t' (hold q t' hq).2 (hold r t' hr).2

/-- One command gives no ticket twice. -/
theorem TicketsApart.step (h : TicketsApart spec tr c) (heffect : Effect spec (c.locals p) c.shared cmd m s) :
    TicketsApart spec (tr ++ [⟨c, (p, cmd), c.act p m s⟩]) (c.act p m s) := by
  have hissued : ∀ t, Issued spec t c.shared → Issued spec t s := fun t ht => heffect.issued ht
  cases heffect with
  | waited => exact h.keep rfl hissued fun _ ht => ht
  | failed _ => exact h.keep rfl hissued fun _ ht => nomatch ht
  | expired hm _ _ _ _ =>
    refine h.keep rfl hissued ?_
    intro t ht
    rw [hm]
    exact ht
  | @answered call life n hm =>
    have hown : (c.locals p).held spec = some ⟨spec.key call, life, n⟩ := by rw [hm]; rfl
    exact h.answer hown hown rfl
  | @started call _ hfree hgone hstore hlives hframe =>
    refine h.give (t := ⟨spec.key call, c.shared.lives (spec.key call) + 1, 1⟩) rfl hissued rfl ?_
      ?_ Nat.one_pos
    · rintro (hlt | ⟨heq, _⟩)
      · dsimp only at hlt
        omega
      · dsimp only at heq
        omega
    · exact Or.inr ⟨hlives.symm, _, hstore, Nat.le_of_eq (spec.read_write 1).symm⟩
  | @continued call _ e hfree hentry hstore hlives hframe =>
    refine h.give (t := ⟨spec.key call, c.shared.lives (spec.key call), spec.read e.value + 1⟩) rfl
      hissued rfl ?_ ?_
      (Nat.succ_pos _)
    · rintro (hlt | ⟨_, e', he', hle⟩)
      · exact absurd hlt (Nat.lt_irrefl _)
      · dsimp only at he' hle
        rw [hentry] at he'
        obtain rfl := Option.some.inj he'
        omega
    · exact Or.inr ⟨by rw [hlives], _, hstore, Nat.le_of_eq (spec.read_write _).symm⟩

theorem ticketsApart_run [DecidableEq κ] (h : CountingRun spec tr c) : TicketsApart spec tr c := by
  refine h.invariant (I := fun tr c => TicketsApart spec tr c) ticketsApart_start ?_
  rintro tr c ⟨p, cmd⟩ c' hrun happart _ hnext
  obtain ⟨m, s, hprog, rfl⟩ := Config.step_eq_some hnext
  exact happart.step ((watched_run hrun).effect hprog)

/-- In one life of a counter at most `limit` calls are answered with a number up to `limit`. -/
theorem answered_le [DecidableEq κ] (h : CountingRun spec tr c) (limit : Nat) (k : κ) (life : Nat) :
    ((answered spec tr).filter fun t => t.key = k ∧ t.life = life ∧ t.attempts ≤ limit).length ≤ limit := by
  have hapart := ticketsApart_run h
  generalize hl : (answered spec tr).filter
    (fun t => decide (t.key = k ∧ t.life = life ∧ t.attempts ≤ limit)) = l
  have hmem : ∀ t ∈ l, t ∈ answered spec tr ∧ t.key = k ∧ t.life = life ∧ t.attempts ≤ limit := by
    intro t ht
    rw [← hl, List.mem_filter, decide_eq_true_eq] at ht
    exact ht
  have hnodup : l.Nodup := by
    rw [← hl]
    exact hapart.once.filter _
  have hnumbers : (l.map Ticket.attempts).Nodup := by
    refine List.Nodup.map_on ?_ hnodup
    rintro ⟨k₁, l₁, n₁⟩ h₁ ⟨k₂, l₂, n₂⟩ h₂ hn
    obtain ⟨_, rfl, rfl, _⟩ := hmem _ h₁
    obtain ⟨_, rfl, rfl, _⟩ := hmem _ h₂
    simpa using hn
  have hrange : l.map Ticket.attempts ⊆ List.range' 1 limit := by
    intro n hn
    obtain ⟨t, ht, rfl⟩ := List.mem_map.mp hn
    obtain ⟨hans, _, _, hle⟩ := hmem t ht
    have hpos := (hapart.spent t hans).2
    rw [List.mem_range'_1]
    omega
  have hlength := (List.subperm_of_subset hnumbers hrange).length_le
  simpa using hlength

/-! ### A counter that nobody will give a deadline -/

variable (spec) in
/-- The counter has no deadline and counts above `limit`, nobody is about to set one, and the calls in flight
that it has counted came too late. -/
structure Stuck (limit : Nat) (k : κ) (c : Config π (Counters κ ν) (Counting γ)) : Prop where
  lasting : ∃ e, c.shared.store k = some e ∧ e.expiresAt = none ∧ limit ≤ spec.read e.value
  nobody : ∀ q, (c.locals q).due spec ≠ some k
  late : ∀ q t, (c.locals q).held spec = some t → t.key = k → limit < t.attempts

variable {limit : Nat} {k : κ}

/-- A step that leaves the counter alone and counts no call in it. -/
private theorem Stuck.keep (h : Stuck spec limit k c) (hstore : s.store k = c.shared.store k)
    (hdue : m.due spec ≠ some k)
    (hheld : ∀ t, m.held spec = some t → t.key = k → (c.locals p).held spec = some t) :
    Stuck spec limit k (c.act p m s) := by
  refine ⟨?_, ?_, ?_⟩
  · rw [Config.act_shared, hstore]
    exact h.lasting
  · intro q hq
    rcases due_act hq with ⟨_, hown⟩ | ⟨_, hother⟩
    · exact hdue hown
    · exact h.nobody q hother
  · intro q t hq hk
    rcases held_act hq with ⟨_, hown⟩ | ⟨_, hother⟩
    · exact h.late p t (hheld t hown hk) hk
    · exact h.late q t hother hk

theorem Stuck.step (h : Stuck spec limit k c) (heffect : Effect spec (c.locals p) c.shared cmd m s) :
    Stuck spec limit k (c.act p m s) := by
  obtain ⟨e, he, hlasts, hlimit⟩ := h.lasting
  cases heffect with
  | waited => exact h.keep rfl (h.nobody p) fun _ ht _ => ht
  | answered _ => exact h.keep rfl (fun hk => nomatch hk) fun _ ht => nomatch ht
  | failed _ => exact h.keep rfl (fun hk => nomatch hk) fun _ ht => nomatch ht
  | @expired call life n s _ hm _ _ _ hframe =>
    have hk : k ≠ spec.key call := by
      rintro rfl
      refine h.nobody p ?_
      rw [hm]
      rfl
    refine h.keep (hframe.store k hk) (fun hk => nomatch hk) ?_
    intro t ht _
    rw [hm]
    exact ht
  | @started call s _ hgone _ _ hframe =>
    have hk : k ≠ spec.key call := by
      rintro rfl
      rw [ExpiringStore.entry_of_lasting he hlasts] at hgone
      cases hgone
    refine h.keep (hframe.store k hk) (fun hdue => hk (Option.some.inj hdue).symm) ?_
    intro t ht hkey
    obtain rfl := Option.some.inj ht
    exact absurd hkey.symm hk
  | @continued call s e' _ hentry hstore _ hframe =>
    by_cases hk : k = spec.key call
    · subst hk
      rw [he] at hentry
      obtain rfl := Option.some.inj hentry
      refine ⟨⟨_, hstore, hlasts, ?_⟩, ?_, ?_⟩
      · rw [spec.read_write]
        omega
      · intro q hq
        rcases due_act hq with ⟨_, hnone⟩ | ⟨_, hother⟩
        · cases hnone
        · exact h.nobody q hother
      · intro q t hq hkey
        rcases held_act hq with ⟨_, hown⟩ | ⟨_, hother⟩
        · obtain rfl := Option.some.inj hown
          exact Nat.lt_succ_of_le hlimit
        · exact h.late q t hother hkey
    · refine h.keep (hframe.store k hk) (fun hdue => nomatch hdue) ?_
      intro t ht hkey
      obtain rfl := Option.some.inj ht
      exact absurd hkey.symm hk

/-- A counter that is stuck stays so, and refuses every call that it counts from then on. -/
theorem stuck [DecidableEq κ] {c' : Config π (Counters κ ν) (Counting γ)} (hwatched : Watched spec c)
    (hstuck : Stuck spec limit k c) (h : Run (Config.step (prog spec)) (fun _ _ _ => True) c tr c') :
    Stuck spec limit k c' ∧ ∀ t ∈ answered spec tr, t.key = k → limit < t.attempts := by
  suffices hall : Watched spec c' ∧ Stuck spec limit k c' ∧ ∀ t ∈ answered spec tr, t.key = k →
      limit < t.attempts from
    hall.2
  refine h.invariant (I := fun tr c => Watched spec c ∧ Stuck spec limit k c ∧
    ∀ t ∈ answered spec tr, t.key = k → limit < t.attempts) ⟨hwatched, hstuck, fun t ht => nomatch ht⟩ ?_
  rintro tr c ⟨p, cmd⟩ c' _ ⟨hw, hs, hlate⟩ _ hnext
  obtain ⟨m, s, hprog, rfl⟩ := Config.step_eq_some hnext
  have heffect := hw.effect hprog
  refine ⟨hw.step heffect, hs.step heffect, ?_⟩
  intro t ht hk
  cases hans : answeredBy spec (⟨c, (p, cmd), c.act p m s⟩ : CountingStep π κ ν γ) with
  | none =>
    rw [answered_concat_none hans] at ht
    exact hlate t ht hk
  | some t' =>
    rw [answered_concat_some hans, List.mem_append, List.mem_singleton] at ht
    rcases ht with ht | rfl
    · exact hlate t ht hk
    · -- the answered call was in flight
      have hheld : (c.locals p).held spec = some t := by
        unfold answeredBy at hans
        split at hans
        · exact hans
        · cases hans
      exact hs.late p t hheld hk

end

end Counting

end Library
