import RatingLift.Library.Interleaving

/-!
# Requests that check and then act

Any number of requests compete for one place.  Each of them looks whether the place is taken, and if it is
not, goes on to take it; nothing holds the place between the two.  An attempt may fail where another one has
succeeded in between.

* (`oneWinner_iff`) once all requests have answered: one of them has won and the others were refused by their
  check exactly when none has checked while another one was between its check and its answer.
-/

namespace Library

universe u

/-- How far a request has come. -/
inductive Acting where
  | ready
  /-- The request has found the place free. -/
  | decided
  | won
  | refused
  | failed
deriving DecidableEq

inductive ActingCommand where
  | check
  | act (succeeds : Bool)
  /-- A step that neither looks at the place nor takes it. -/
  | pass
deriving DecidableEq

namespace Acting

/-- The shared state says whether the place is taken. -/
def prog : ActingCommand → Acting → Bool → Option (Acting × Bool)
  | .check, ready, taken => some (if taken then refused else decided, taken)
  | .act true, decided, _ => some (won, true)
  | .act false, decided, true => some (failed, true)
  | .pass, m, taken => some (m, taken)
  | _, _, _ => none

/-- The request has decided to act, whatever became of that. -/
def engaged : Acting → Bool
  | ready | refused => false
  | decided | won | failed => true

def answered : Acting → Bool
  | ready | decided => false
  | won | refused | failed => true

variable {π : Type u}

/-- One request has won, and the others were refused. -/
def OneWinner (locals : π → Acting) : Prop := ∃ p, locals p = won ∧ ∀ q, q ≠ p → locals q = refused

/-- A check is made while no request is between its check and its answer. -/
def Unhurried (c : Config π Bool Acting) (l : π × ActingCommand) : Prop :=
  l.2 = .check → ∀ q, c.locals q ≠ decided

/-- What one command does. -/
inductive Effect : ActingCommand → Acting → Acting → Bool → Bool → Prop where
  | turnedAway : Effect .check ready refused true true
  | foundFree : Effect .check ready decided false false
  | took {taken : Bool} : Effect (.act true) decided won taken true
  | tooLate : Effect (.act false) decided failed true true
  | passed {m : Acting} {taken : Bool} : Effect .pass m m taken taken

theorem prog_effect {cmd : ActingCommand} {m m' : Acting} {taken taken' : Bool}
    (h : prog cmd m taken = some (m', taken')) : Effect cmd m m' taken taken' := by
  cases cmd with
  | check =>
    cases m with
    | ready =>
      cases taken with
      | false => cases h; exact .foundFree
      | true => cases h; exact .turnedAway
    | _ => cases h
  | act succeeds =>
    cases m with
    | decided =>
      cases succeeds with
      | true => cases h; exact .took
      | false =>
        cases taken with
        | true => cases h; exact .tooLate
        | false => cases h
    | _ => cases succeeds <;> cases h
  | pass => cases h; exact .passed

/-- A request that has decided to act is not refused any more. -/
theorem Effect.engaged {cmd : ActingCommand} {m m' : Acting} {taken taken' : Bool}
    (h : Effect cmd m m' taken taken') (hm : m.engaged = true) : m'.engaged = true := by
  cases h with
  | turnedAway => cases hm
  | foundFree => rfl
  | took => rfl
  | tooLate => rfl
  | passed => exact hm

theorem Effect.won {cmd : ActingCommand} {m' : Acting} {taken taken' : Bool}
    (h : Effect cmd won m' taken taken') :
    m' = won := by
  cases h
  rfl

/-- The place is free and at most one request has found it so, or one request has taken it. -/
def Orderly (c : Config π Bool Acting) : Prop :=
  (c.shared = false ∧ (∀ p, c.locals p = ready ∨ c.locals p = decided) ∧
      ∀ p q, c.locals p = decided → c.locals q = decided → p = q) ∨
    (c.shared = true ∧ ∃ p, c.locals p = won ∧ ∀ q, q ≠ p → c.locals q = ready ∨ c.locals q = refused)

/-- While a request is about to act, the place is free. -/
theorem Orderly.of_decided {c : Config π Bool Acting} {p : π} (h : Orderly c) (hp : c.locals p = decided) :
    c.shared = false ∧ (∀ q, c.locals q = ready ∨ c.locals q = decided) ∧
      ∀ q r, c.locals q = decided → c.locals r = decided → q = r := by
  rcases h with hfree | ⟨_, w, hwon, hothers⟩
  · exact hfree
  · by_cases hpw : p = w
    · rw [hpw, hwon] at hp
      cases hp
    · rcases hothers p hpw with hready | hrefused
      · rw [hready] at hp
        cases hp
      · rw [hrefused] at hp
        cases hp

section

variable [DecidableEq π] {c : Config π Bool Acting} {p : π} {cmd : ActingCommand} {m : Acting} {taken : Bool}

/-- A check that nobody's decision overlaps, and every other step, keeps the order. -/
theorem Orderly.step (h : Orderly c) (hquiet : Unhurried c (p, cmd))
    (heffect : Effect cmd (c.locals p) m c.shared taken) : Orderly (c.act p m taken) := by
  generalize hlocal : c.locals p = m₀ at heffect
  generalize hshared : c.shared = taken₀ at heffect
  cases heffect with
  | turnedAway =>
    rcases h with ⟨hfree, _, _⟩ | ⟨_, w, hwon, hothers⟩
    · rw [hfree] at hshared
      cases hshared
    · refine Or.inr ⟨rfl, w, ?_, ?_⟩
      · have hne : w ≠ p := by
          rintro rfl
          rw [hlocal] at hwon
          cases hwon
        rw [Config.act_locals_of_ne hne]
        exact hwon
      · intro q hq
        by_cases hqp : q = p
        · rw [hqp, Config.act_locals_self]
          exact Or.inr rfl
        · rw [Config.act_locals_of_ne hqp]
          exact hothers q hq
  | foundFree =>
    rcases h with ⟨_, hlocals, _⟩ | ⟨htaken, _⟩
    · refine Or.inl ⟨rfl, ?_, ?_⟩
      · intro q
        by_cases hqp : q = p
        · rw [hqp, Config.act_locals_self]
          exact Or.inr rfl
        · rw [Config.act_locals_of_ne hqp]
          exact hlocals q
      · -- nobody else has decided, as the check overlaps no decision
        have halone : ∀ q, (c.act p decided false).locals q = decided → q = p := by
          intro q hq
          by_contra hqp
          rw [Config.act_locals_of_ne hqp] at hq
          exact hquiet rfl q hq
        intro q r hq hr
        rw [halone q hq, halone r hr]
    · rw [htaken] at hshared
      cases hshared
  | took =>
    obtain ⟨_, hlocals, honly⟩ := h.of_decided hlocal
    refine Or.inr ⟨rfl, p, Config.act_locals_self .., ?_⟩
    intro q hqp
    rw [Config.act_locals_of_ne hqp]
    rcases hlocals q with hready | hdecided
    · exact Or.inl hready
    · exact absurd (honly q p hdecided hlocal) hqp
  | tooLate =>
    rw [(h.of_decided hlocal).1] at hshared
    cases hshared
  | passed =>
    have hsame : (c.act p m taken).locals = c.locals := by
      funext q
      by_cases hqp : q = p
      · rw [hqp, Config.act_locals_self, hlocal]
      · rw [Config.act_locals_of_ne hqp]
    unfold Orderly
    rw [hsame, Config.act_shared, ← hshared]
    exact h

variable {ok : List (Step (Config π Bool Acting) (π × ActingCommand)) → Config π Bool Acting →
  π × ActingCommand → Prop}
  {init : Config π Bool Acting} {tr : List (Step (Config π Bool Acting) (π × ActingCommand))}

/-- What one step of a request keeps of its local state holds from there on. -/
theorem locals_since (h : Run (Config.step prog) ok init tr c) {P : Acting → Prop}
    (hP : ∀ cmd m m' taken taken', Effect cmd m m' taken taken' → P m → P m')
    {pre post : List (Step (Config π Bool Acting) (π × ActingCommand))}
    {x : Step (Config π Bool Acting) (π × ActingCommand)} (htr : tr = pre ++ x :: post) {q : π}
    (hq : P (x.after.locals q)) : P (c.locals q) := by
  refine Run.since (J := fun _ t => P (t.locals q)) h htr hq ?_
  intro pre' y post' htr' hkept
  have hsplit : tr = (pre ++ x :: pre') ++ y :: post' := by
    rw [htr']
    simp
  obtain ⟨_, _, hnext⟩ := h.split hsplit
  obtain ⟨m, taken, hprog, hafter⟩ := Config.step_eq_some (p := y.label.1) (a := y.label.2) hnext
  rw [hafter]
  by_cases hqp : q = y.label.1
  · rw [hqp, Config.act_locals_self]
    rw [hqp] at hkept
    exact hP _ _ _ _ _ (prog_effect hprog) hkept
  · rw [Config.act_locals_of_ne hqp]
    exact hkept

/-- Whoever finds the place taken, it was taken by a request that has won. -/
theorem won_of_taken (h : Run (Config.step prog) ok init tr c) (hfree : init.shared = false) :
    c.shared = true → ∃ p, c.locals p = won := by
  refine h.invariant (I := fun _ c => c.shared = true → ∃ p, c.locals p = won) ?_ ?_
  · intro htaken
    rw [hfree] at htaken
    cases htaken
  · rintro tr c ⟨p, cmd⟩ c' _ ih _ hnext htaken
    obtain ⟨m, taken, hprog, rfl⟩ := Config.step_eq_some hnext
    have heffect := prog_effect hprog
    -- a winner stays one
    have hkeep : c.shared = true → ∃ q, (c.act p m taken).locals q = won := by
      intro hbefore
      obtain ⟨q, hq⟩ := ih hbefore
      refine ⟨q, ?_⟩
      by_cases hqp : q = p
      · rw [hqp, Config.act_locals_self]
        rw [hqp] at hq
        rw [hq] at heffect
        exact heffect.won
      · rw [Config.act_locals_of_ne hqp]
        exact hq
    rw [Config.act_shared] at htaken
    generalize hlocal : c.locals p = m₀ at heffect
    generalize hshared : c.shared = taken₀ at heffect
    cases heffect with
    | turnedAway => exact hkeep hshared
    | foundFree => cases htaken
    | took => exact ⟨p, Config.act_locals_self ..⟩
    | tooLate => exact hkeep hshared
    | passed => exact hkeep (hshared.trans htaken)

theorem oneWinner_of_unhurried [Nonempty π] (h : Run (Config.step prog) ok init tr c)
    (hready : ∀ p, init.locals p = ready) (hfree : init.shared = false)
    (hdone : ∀ p, (c.locals p).answered = true) (hquiet : ∀ x ∈ tr, Unhurried x.before x.label) :
    OneWinner c.locals := by
  have horderly : Orderly c := by
    refine Run.invariant (I := fun _ c => Orderly c) ?_ ?_ (h.and_of_forall hquiet)
    · refine Or.inl ⟨hfree, fun p => Or.inl (hready p), ?_⟩
      intro p q hp _
      rw [hready p] at hp
      cases hp
    · rintro tr c ⟨p, cmd⟩ c' _ ih ⟨_, hok⟩ hnext
      obtain ⟨m, taken, hprog, rfl⟩ := Config.step_eq_some hnext
      exact ih.step hok (prog_effect hprog)
  rcases horderly with ⟨_, hlocals, _⟩ | ⟨_, w, hwon, hothers⟩
  · obtain ⟨p⟩ := ‹Nonempty π›
    have hp := hdone p
    rcases hlocals p with hlocal | hlocal
    · rw [hlocal] at hp
      cases hp
    · rw [hlocal] at hp
      cases hp
  · refine ⟨w, hwon, ?_⟩
    intro q hq
    rcases hothers q hq with hlocal | hlocal
    · have hp := hdone q
      rw [hlocal] at hp
      cases hp
    · exact hlocal

theorem unhurried_of_oneWinner (h : Run (Config.step prog) ok init tr c) (hfree : init.shared = false)
    (hwinner : OneWinner c.locals) : ∀ x ∈ tr, Unhurried x.before x.label := by
  obtain ⟨w, hwon, hrefused⟩ := hwinner
  intro x hx hcheck q hq
  obtain ⟨pre, post, htr⟩ := List.append_of_mem hx
  obtain ⟨hpre, _, hnext⟩ := h.split htr
  obtain ⟨m, taken, hprog, hafter⟩ := Config.step_eq_some (p := x.label.1) (a := x.label.2) hnext
  -- who has decided to act is the winner in the end
  have hwinner : ∀ r, (x.after.locals r).engaged = true → r = w := by
    intro r hr
    by_contra hne
    have hend : (c.locals r).engaged = true := by
      refine locals_since h (P := fun m => m.engaged = true) ?_ htr hr
      exact fun _ _ _ _ _ heffect hm => heffect.engaged hm
    rw [hrefused r hne] at hend
    cases hend
  have heffect := prog_effect hprog
  rw [hcheck] at heffect
  generalize hlocal : x.before.locals x.label.1 = m₀ at heffect
  generalize hshared : x.before.shared = taken₀ at heffect
  have hqp : q ≠ x.label.1 := by
    rintro rfl
    rw [hlocal] at hq
    rw [hq] at heffect
    cases heffect
  have hqw : q = w := by
    refine hwinner q ?_
    rw [hafter, Config.act_locals_of_ne hqp, hq]
    rfl
  cases heffect with
  | turnedAway =>
    -- someone had won by then, and stays a winner
    obtain ⟨r, hr⟩ := won_of_taken hpre hfree hshared
    have hrp : r ≠ x.label.1 := by
      rintro rfl
      rw [hlocal] at hr
      cases hr
    have hrw : r = w := by
      refine hwinner r ?_
      rw [hafter, Config.act_locals_of_ne hrp, hr]
      rfl
    rw [hrw, ← hqw, hq] at hr
    cases hr
  | foundFree =>
    have hpw : x.label.1 = w := by
      refine hwinner _ ?_
      rw [hafter, Config.act_locals_self]
      rfl
    exact hqp (hqw.trans hpw.symm)

/-- Once all requests have answered: one has won and the others were refused exactly when none has checked
while another one was between its check and its answer. -/
theorem oneWinner_iff [Nonempty π] (h : Run (Config.step prog) ok init tr c)
    (hready : ∀ p, init.locals p = ready) (hfree : init.shared = false)
    (hdone : ∀ p, (c.locals p).answered = true) :
    OneWinner c.locals ↔ ∀ x ∈ tr, Unhurried x.before x.label :=
  ⟨unhurried_of_oneWinner h hfree, oneWinner_of_unhurried h hready hfree hdone⟩

end

end Acting

end Library
