import RatingLift.Library.Run

/-!
# Locking an account after too many failures

An account counts failed attempts and is locked, for a while, by the attempt that reaches the threshold.  An
attempt at a locked account changes nothing; one that finds a lock that has expired starts from zero.  What an
attempt writes may also be dropped, so that a lock that has expired can be found more than once.

* (`Lockout.failures_le`) in every run, from one event that sets the count to zero up to the next, at most
  `threshold` attempts fail;
* (`Lockout.next_attempt`) an attempt that writes something was made while the account was not locked.
-/

namespace Library

structure Account where
  failures : Nat
  lockedUntil : Option Nat
deriving DecidableEq

namespace Account

def zero : Account := ⟨0, none⟩

def locked (a : Account) (now : Nat) : Bool := a.lockedUntil.any fun t => decide (now < t)

/-- The account has a lock that has expired. -/
def lapsed (a : Account) (now : Nat) : Bool := a.lockedUntil.any fun t => decide (t ≤ now)

/-- The account after an attempt that was let through. -/
def cleared (a : Account) : Account := if a.lockedUntil.isSome then zero else a

/-- The account after a failure. -/
def fail (threshold duration now : Nat) (a : Account) : Account where
  failures := a.failures + 1
  lockedUntil := if threshold ≤ a.failures + 1 then some (now + duration) else a.lockedUntil

theorem lapsed_of_not_locked {a : Account} {now t : Nat} (h : a.locked now = false)
    (ht : a.lockedUntil = some t) :
    a.lapsed now = true := by
  simp only [locked, lapsed, ht, Option.any_some, decide_eq_false_iff_not, decide_eq_true_eq] at h ⊢
  omega

end Account

namespace Lockout

/-- What comes of an attempt: nothing is written, or it passed, or it failed. -/
inductive Outcome where
  | dropped | passed | failed
deriving DecidableEq

inductive Event where
  | idle
  | reset
  | attempt (now : Nat) (outcome : Outcome)
deriving DecidableEq

abbrev AccountStep := Step Account Event

variable (threshold duration : Nat)

def next (a : Account) : Event → Option Account
  | .idle => some a
  | .reset => some .zero
  | .attempt _ .dropped => some a
  | .attempt now .passed => if a.locked now then none else some a.cleared
  | .attempt now .failed => if a.locked now then none else some (a.cleared.fail threshold duration now)

/-- The attempt finds a lock that has expired. -/
def findsLapsed (x : AccountStep) : Bool :=
  match x.label with
  | .attempt now _ => x.before.lapsed now
  | _ => false

def fails (x : AccountStep) : Bool :=
  match x.label with
  | .attempt _ .failed => true
  | _ => false

def resets (x : AccountStep) : Bool :=
  match x.label with
  | .reset => true
  | _ => false

/-- The lock that the account has now was found to have expired before. -/
def lapseSeen (tr : List AccountStep) : Bool :=
  tr.foldl (fun seen x => !resets x && !fails x && (seen || findsLapsed x)) false

/-- The step sets the count to zero: a reset, or the first attempt after a lock expired. -/
def zeroes (tr : List AccountStep) (x : AccountStep) : Bool := resets x || (findsLapsed x && !lapseSeen tr)

/-- After the history `pre`, no step of `mid` but the first sets the count to zero. -/
def Window (pre mid : List AccountStep) : Prop :=
  ∀ a x b, mid = a ++ x :: b → a ≠ [] → zeroes (pre ++ a) x = false

variable {threshold duration}

@[simp] theorem lapseSeen_snoc (tr : List AccountStep) (x : AccountStep) :
    lapseSeen (tr ++ [x]) = (!resets x && !fails x && (lapseSeen tr || findsLapsed x)) := by
  simp [lapseSeen]

theorem Window.prefix {pre mid : List AccountStep} {x : AccountStep} (h : Window pre (mid ++ [x])) :
    Window pre mid :=
  fun a y b hb ha => h a y (b ++ [x]) (by simp [hb]) ha

/-- The last step of a window sets the count to zero only when it is the first. -/
theorem Window.last {pre mid : List AccountStep} {x : AccountStep} (h : Window pre (mid ++ [x]))
    (hx : zeroes (pre ++ mid) x = true) : mid = [] := by
  by_contra hne
  rw [h mid x [] rfl hne] at hx
  cases hx

/-- A lock is set once the threshold is reached. -/
def LockedAtThreshold (threshold : Nat) (a : Account) : Prop := a.failures < threshold ∨ a.lockedUntil.isSome

/-- What an attempt writes, and that it writes something only while the account is not locked. -/
theorem next_attempt {a a' : Account} {now : Nat} {outcome : Outcome}
    (h : next threshold duration a (.attempt now outcome) = some a') :
    (outcome = .dropped ∧ a' = a) ∨
      a.locked now = false ∧ ((outcome = .passed ∧ a' = a.cleared) ∨
        (outcome = .failed ∧ a' = a.cleared.fail threshold duration now)) := by
  cases outcome with
  | dropped => exact Or.inl ⟨rfl, (Option.some.inj h).symm⟩
  | passed =>
    cases hlocked : a.locked now with
    | true => simp [next, hlocked] at h
    | false =>
      simp only [next, hlocked, Bool.false_eq_true, ↓reduceIte, Option.some.injEq] at h
      exact Or.inr ⟨rfl, Or.inl ⟨rfl, h.symm⟩⟩
  | failed =>
    cases hlocked : a.locked now with
    | true => simp [next, hlocked] at h
    | false =>
      simp only [next, hlocked, Bool.false_eq_true, ↓reduceIte, Option.some.injEq] at h
      exact Or.inr ⟨rfl, Or.inr ⟨rfl, h.symm⟩⟩

/-- What is known of a window that ends now: its failures are counted, and there are none since a lock was
found to have expired. -/
structure Counted (threshold : Nat) (tr : List AccountStep) (a : Account) (count : Nat) : Prop where
  le_threshold : count ≤ threshold
  le_failures : count ≤ a.failures
  seen : lapseSeen tr = true → count = 0

private theorem Counted.zero {tr : List AccountStep} {a : Account} : Counted threshold tr a 0 :=
  ⟨Nat.zero_le _, Nat.zero_le _, fun _ => rfl⟩

/-- In a window that goes on, nothing was counted once a lock is found to have expired. -/
private theorem Counted.seen_snoc {pre mid : List AccountStep} {x : AccountStep} {a : Account}
    (h : Counted threshold (pre ++ mid) a (mid.countP fails)) (hwindow : Window pre (mid ++ [x])) :
    (findsLapsed x = true → mid.countP fails = 0) ∧
      (lapseSeen (pre ++ mid ++ [x]) = true → mid.countP fails = 0) := by
  have hlapsed : findsLapsed x = true → mid.countP fails = 0 := by
    intro hx
    cases hs : lapseSeen (pre ++ mid) with
    | true => exact h.seen hs
    | false =>
      have hzeroes : zeroes (pre ++ mid) x = true := by simp [zeroes, hx, hs]
      rw [hwindow.last hzeroes]
      rfl
  refine ⟨hlapsed, ?_⟩
  intro hs
  rw [lapseSeen_snoc, Bool.and_eq_true, Bool.or_eq_true] at hs
  rcases hs.2 with hseen | hfinds
  · exact h.seen hseen
  · exact hlapsed hfinds

/-- One more step of a window. -/
private theorem Counted.step {pre mid : List AccountStep} {x : AccountStep}
    (hlock : LockedAtThreshold threshold x.before)
    (hnext : next threshold duration x.before x.label = some x.after) (hwindow : Window pre (mid ++ [x]))
    (hthreshold : 1 ≤ threshold) (h : Counted threshold (pre ++ mid) x.before (mid.countP fails)) :
    Counted threshold (pre ++ mid ++ [x]) x.after ((mid ++ [x]).countP fails) := by
  obtain ⟨hlapsed, hseen⟩ := h.seen_snoc hwindow
  have hle := h.le_threshold
  have hfail := h.le_failures
  have hcount : (mid ++ [x]).countP fails = mid.countP fails + if fails x then 1 else 0 := by
    rw [List.countP_append, List.countP_singleton]
  obtain ⟨a, event, a'⟩ := x
  dsimp only at hlock hnext hfail ⊢
  -- a step that does not fail
  have hkept : fails ⟨a, event, a'⟩ = false → mid.countP fails ≤ a'.failures →
      Counted threshold (pre ++ mid ++ [(⟨a, event, a'⟩ : AccountStep)]) a'
        ((mid ++ [(⟨a, event, a'⟩ : AccountStep)]).countP fails) := by
    intro hfails hle'
    rw [hcount, hfails]
    exact ⟨hle, hle', hseen⟩
  cases event with
  | idle =>
    obtain rfl : a = a' := Option.some.inj hnext
    exact hkept rfl hfail
  | reset =>
    have hzeroes : zeroes (pre ++ mid) ⟨a, .reset, a'⟩ = true := rfl
    refine hkept rfl ?_
    rw [hwindow.last hzeroes]
    exact Nat.zero_le _
  | attempt now outcome =>
    rcases next_attempt hnext with ⟨rfl, rfl⟩ | ⟨hfree, ⟨rfl, rfl⟩ | ⟨rfl, rfl⟩⟩
    · exact hkept rfl hfail
    · refine hkept rfl ?_
      cases hlocked : a.lockedUntil with
      | none =>
        have hsame : a.cleared = a := by simp [Account.cleared, hlocked]
        rw [hsame]
        exact hfail
      | some t =>
        rw [hlapsed (Account.lapsed_of_not_locked hfree hlocked)]
        exact Nat.zero_le _
    · have hunseen : ∀ tr : List AccountStep, lapseSeen
          (tr ++ [⟨a, .attempt now .failed, a.cleared.fail threshold duration now⟩]) = true → False := by
        intro tr hs
        simp [fails] at hs
      have hone :
          (mid ++ [(⟨a, .attempt now .failed, a.cleared.fail threshold duration now⟩ : AccountStep)]).countP
          fails = mid.countP fails + 1 := hcount
      have hfailures : (a.cleared.fail threshold duration now).failures = a.cleared.failures + 1 := rfl
      rw [hone]
      cases hlocked : a.lockedUntil with
      | none =>
        have hbelow : a.failures < threshold := by
          rcases hlock with hlt | hsome
          · exact hlt
          · rw [hlocked] at hsome
            cases hsome
        have hsame : a.cleared = a := by simp [Account.cleared, hlocked]
        rw [hsame] at hfailures
        exact ⟨by omega, by rw [hsame]; omega, fun hs => (hunseen _ hs).elim⟩
      | some t =>
        have hzero : mid.countP fails = 0 := hlapsed (Account.lapsed_of_not_locked hfree hlocked)
        exact ⟨by omega, by omega, fun hs => (hunseen _ hs).elim⟩

/-- The lock is kept with the count. -/
theorem lockedAtThreshold_next {a a' : Account} {event : Event} (hthreshold : 1 ≤ threshold)
    (h : LockedAtThreshold threshold a) (hnext : next threshold duration a event = some a') :
    LockedAtThreshold threshold a' := by
  have hzero : LockedAtThreshold threshold .zero := Or.inl hthreshold
  have hcleared : LockedAtThreshold threshold a.cleared := by
    unfold Account.cleared
    split
    · exact hzero
    · exact h
  cases event with
  | idle => obtain rfl := Option.some.inj hnext; exact h
  | reset => obtain rfl := Option.some.inj hnext; exact hzero
  | attempt now outcome =>
    rcases next_attempt hnext with ⟨_, rfl⟩ | ⟨_, ⟨_, rfl⟩ | ⟨_, rfl⟩⟩
    · exact h
    · exact hcleared
    · by_cases hreached : threshold ≤ a.cleared.failures + 1
      · exact Or.inr (by simp [Account.fail, hreached])
      · have hbelow : (a.cleared.fail threshold duration now).failures < threshold := by
          simp only [Account.fail]
          omega
        exact Or.inl hbelow

variable {ok : List AccountStep → Account → Event → Prop} {a₀ a : Account}
  {tr pre mid post : List AccountStep}

/-- From one event that sets the count to zero up to the next, at most `threshold` attempts fail. -/
theorem failures_le (hthreshold : 1 ≤ threshold) (hstart : LockedAtThreshold threshold a₀)
    (h : Run (next threshold duration) ok a₀ tr a) (htr : tr = pre ++ mid ++ post)
    (hwindow : Window pre mid) :
    mid.countP fails ≤ threshold := by
  have hall : LockedAtThreshold threshold a ∧
      ∀ pre mid post, tr = pre ++ mid ++ post → Window pre mid → mid.countP fails ≤ threshold ∧
        (post = [] → Counted threshold tr a (mid.countP fails)) := by
    refine h.invariant (I := fun tr a => LockedAtThreshold threshold a ∧
      ∀ pre mid post, tr = pre ++ mid ++ post → Window pre mid → mid.countP fails ≤ threshold ∧
        (post = [] → Counted threshold tr a (mid.countP fails))) ⟨hstart, ?_⟩ ?_
    · intro pre mid post hnil _
      have hmid : mid = [] := by
        have := hnil.symm
        simp only [List.append_eq_nil_iff] at this
        exact this.1.2
      subst hmid
      exact ⟨Nat.zero_le _, fun _ => .zero⟩
    · intro tr a event a' _ ⟨hlock, ih⟩ _ hnext
      refine ⟨lockedAtThreshold_next hthreshold hlock hnext, ?_⟩
      intro pre mid post hsplit hwin
      rcases List.eq_nil_or_concat post with rfl | ⟨post', y, rfl⟩
      · -- the window ends with the new step, or is empty
        rw [List.append_nil] at hsplit
        have hcounted : Counted threshold (tr ++ [⟨a, event, a'⟩]) a' (mid.countP fails) := by
          rcases List.eq_nil_or_concat mid with rfl | ⟨mid', y, rfl⟩
          · exact .zero
          · rw [List.concat_eq_append] at hsplit hwin ⊢
            rw [← List.append_assoc] at hsplit
            obtain ⟨rfl, hy⟩ := List.append_inj' hsplit rfl
            obtain rfl := List.cons.inj hy |>.1
            have hprev := (ih pre mid' [] (by simp) hwin.prefix).2 rfl
            exact Counted.step hlock hnext hwin hthreshold hprev
        exact ⟨hcounted.le_threshold, fun _ => hcounted⟩
      · rw [List.concat_eq_append, ← List.append_assoc] at hsplit
        obtain ⟨hsplit', _⟩ := List.append_inj' hsplit rfl
        refine ⟨(ih pre mid post' hsplit' hwin).1, ?_⟩
        intro hnil
        simp at hnil
  exact (hall.2 pre mid post htr hwindow).1

end Lockout

end Library
