import RatingLift.Auth.Effects
import RatingLift.Library.ExpiringCounter

/-!
# The counters of the login limiter

`_check_login_rate_limit` and `_track_failed_login` count in Redis with `INCR`, and give the counter an expiry
with a second command when its number is 1.  Any processes make these calls in any order, each command is a
step of its own, a call may fail after any of them, and time passes.

* (`alone_counting`) a call without interruption is the function of the service;
* (`login_throttle_iff`) every counter has an expiry, and so no address is locked out for good, exactly as
  long as no call fails between the `INCR` that starts a counter and its `EXPIRE`.
-/

namespace RatingLift

open Library Counting

inductive LimiterCall where
  | checkLoginRateLimit (scope identifier : String)
  | trackFailedLogin (email : String)
deriving DecidableEq

section

variable {τ : Type} (env : AuthEnv τ)

def LimiterCall.key : LimiterCall → RedisKey
  | checkLoginRateLimit scope identifier => .rateLimit scope identifier
  | trackFailedLogin email => .failedLogin (env.lower email)

def LimiterCall.ttlSeconds : LimiterCall → Nat
  | checkLoginRateLimit _ _ => env.settings.loginRateLimitWindowSeconds
  | trackFailedLogin _ => 60 * 60 * 24

/-- The number that `INCR` adds 1 to. -/
def RedisValue.number : RedisValue → Nat
  | count n => n
  | text _ => 0

def limiterSpec : CounterSpec RedisKey RedisValue LimiterCall where
  key := LimiterCall.key env
  ttl call := seconds (call.ttlSeconds env)
  read := RedisValue.number
  write := .count
  read_write _ := rfl

/-- Any commands of any callers, in any order. -/
abbrev LimiterRun {π : Type} [DecidableEq π] := CountingRun (π := π) (limiterSpec env)

/-! ### Calls without interference -/

variable (redis : Redis) (draw : AuthDraw)

theorem incrWithin_attempts (call : LimiterCall) (ttlSeconds : Nat) (lives : RedisKey → Nat) :
    (incrWithin redis draw (call.key env) ttlSeconds).2 =
      attempts (limiterSpec env) ⟨redis, draw.now, lives⟩ call := by
  unfold attempts incrWithin
  change _ = (redis.get draw.now (call.key env)).elim 0 RedisValue.number + 1
  cases redis.get draw.now (call.key env) with
  | none => rfl
  | some value =>
    cases value with
    | count n => rfl
    | text _ => rfl

/-- The three steps of a call without interruption. -/
theorem alone_counting (call : LimiterCall) (lives : RedisKey → Nat) :
    ∃ life lives',
    Config.alone (prog (limiterSpec env)) [.incr call, .expire, .answer] .idle ⟨redis, draw.now, lives⟩ =
      (.returned call life (incrWithin redis draw (call.key env) (call.ttlSeconds env)).2,
        ⟨(incrWithin redis draw (call.key env) (call.ttlSeconds env)).1, draw.now, lives'⟩) := by
  obtain ⟨life, lives', halone⟩ := alone_call (limiterSpec env) ⟨redis, draw.now, lives⟩ call
  refine ⟨life, lives', ?_⟩
  rw [halone, ← incrWithin_attempts env redis draw call (call.ttlSeconds env) lives]
  rfl

theorem alone_checkLoginRateLimit (scope identifier : String) (lives : RedisKey → Nat) :
    ∃ life n lives', Config.alone (prog (limiterSpec env))
        [.incr (.checkLoginRateLimit scope identifier), .expire, .answer] .idle ⟨redis, draw.now, lives⟩ =
      (.returned (.checkLoginRateLimit scope identifier) life n,
        ⟨(checkLoginRateLimit env redis draw scope identifier).1, draw.now, lives'⟩) ∧
      (checkLoginRateLimit env redis draw scope identifier).2 =
        decide (n ≤ env.settings.loginRateLimitAttempts) := by
  obtain ⟨life, lives', halone⟩ := alone_counting env redis draw (.checkLoginRateLimit scope identifier) lives
  exact ⟨life, _, lives', halone, rfl⟩

theorem alone_trackFailedLogin (db : Db) (user : Option User) (email : String) (lives : RedisKey → Nat) :
    ∃ life n lives',
    Config.alone (prog (limiterSpec env)) [.incr (.trackFailedLogin email), .expire, .answer] .idle
        ⟨redis, draw.now, lives⟩ =
      (.returned (.trackFailedLogin email) life n,
        ⟨(trackFailedLogin env db redis draw user email).1, draw.now, lives'⟩) := by
  obtain ⟨life, lives', halone⟩ := alone_counting env redis draw (.trackFailedLogin email) lives
  exact ⟨life, _, lives', halone⟩

/-- Whether a login may go on is decided by its number alone. -/
theorem checkLoginRateLimit_attempts (scope identifier : String) (lives : RedisKey → Nat) :
    (checkLoginRateLimit env redis draw scope identifier).2 =
      decide (attempts (limiterSpec env) ⟨redis, draw.now, lives⟩ (.checkLoginRateLimit scope identifier) ≤
        env.settings.loginRateLimitAttempts) := by
  rw [← incrWithin_attempts env redis draw (.checkLoginRateLimit scope identifier)
    env.settings.loginRateLimitWindowSeconds lives]
  rfl

end

/-! ### Runs -/

section

variable {τ : Type} {π : Type} (env : AuthEnv τ)

abbrev LimiterStep (π : Type) := CountingStep π RedisKey RedisValue LimiterCall

abbrev LimiterConfig (π : Type) := Config π (Counters RedisKey RedisValue) (Counting LimiterCall)

/-- A call has counted as the first of its counter and has yet to send the `EXPIRE`. -/
def ExpiryDue (c : LimiterConfig π) (key : RedisKey) : Prop :=
  ∃ q, (c.locals q).due (limiterSpec env) = some key

/-- The calls of `_check_login_rate_limit` that have passed in one life of a counter. -/
def passes (tr : List (LimiterStep π)) (scope identifier : String) (life : Nat) : List (Ticket RedisKey) :=
  (answered (limiterSpec env) tr).filter fun t =>
    t.key = .rateLimit scope identifier ∧ t.life = life ∧ t.attempts ≤ env.settings.loginRateLimitAttempts

/-- A process or its connection fails after the `INCR` that has started a counter and before its `EXPIRE`. -/
def LosesExpiry (x : LimiterStep π) : Prop := Orphans (limiterSpec env) x.before x.label

/-- In every state that is reached the counters have an expiry, if no call is just about to set it; in one
life of a counter at most `login_rate_limit_attempts` calls pass; and there is a time from which the counter
is gone and calls pass again. -/
structure NoPermanentThrottle (tr : List (LimiterStep π)) : Prop where
  expires : ∀ x ∈ tr, ∀ key e, x.after.shared.store key = some e →
    e.expiresAt.isSome ∨ ExpiryDue env x.after key
  limited : ∀ scope identifier life,
    (passes env tr scope identifier life).length ≤ env.settings.loginRateLimitAttempts
  again : ∀ x ∈ tr, ∀ scope identifier, ¬ ExpiryDue env x.after (.rateLimit scope identifier) →
    ∃ t, ∀ draw : AuthDraw, t ≤ draw.now →
      x.after.shared.store.get draw.now (.rateLimit scope identifier) = none ∧
        (0 < env.settings.loginRateLimitAttempts →
          (checkLoginRateLimit env x.after.shared.store draw scope identifier).2 = true)

variable {env} [DecidableEq π] {tr : List (LimiterStep π)} {c : LimiterConfig π}

/-- Any run of the two functions locks nobody out for good exactly when no call fails between the `INCR` that
starts a counter and its `EXPIRE`. -/
theorem login_throttle_iff (h : LimiterRun env tr c) :
    (∀ x ∈ tr, ¬ LosesExpiry env x) ↔ NoPermanentThrottle env tr := by
  constructor
  · intro hkept
    have hexpiring := (expiring_iff h).mp hkept
    refine ⟨?_, ?_, ?_⟩
    · intro x hx key e he
      cases ht : e.expiresAt with
      | some t => exact Or.inl rfl
      | none => exact Or.inr (hexpiring x hx key e he ht)
    · intro scope identifier life
      exact answered_le h env.settings.loginRateLimitAttempts (.rateLimit scope identifier) life
    · intro x hx scope identifier hdue
      have hnobody : ∀ q, (x.after.locals q).due (limiterSpec env) ≠ some (.rateLimit scope identifier) :=
        fun q hq => hdue ⟨q, hq⟩
      obtain ⟨t, ht⟩ := (hexpiring x hx).eventually_none hnobody
      refine ⟨t, ?_⟩
      intro draw hdraw
      have hgone := ht draw.now hdraw
      refine ⟨?_, ?_⟩
      · unfold ExpiringStore.get
        rw [hgone]
        rfl
      · intro hpositive
        have hfirst : attempts (limiterSpec env) ⟨x.after.shared.store, draw.now, x.after.shared.lives⟩
            (.checkLoginRateLimit scope identifier) = 1 := attempts_of_gone hgone
        rw [checkLoginRateLimit_attempts env _ draw scope identifier x.after.shared.lives, hfirst]
        exact decide_eq_true hpositive
  · intro hfree
    refine (expiring_iff h).mpr ?_
    intro x hx key e he hlasts
    rcases hfree.expires x hx key e he with hsome | hdue
    · rw [hlasts] at hsome
      cases hsome
    · exact hdue

end

/-! ### A counter that is left without an expiry -/

namespace LostExpiry

/-- The process that a login reaches first, and another one. -/
inductive Process where
  | first | second
deriving DecidableEq

def env : AuthEnv Unit := .sample ⟨fun _ _ => (), fun _ _ _ => .invalid⟩

def identifier : String := "ana@example.com:203.0.113.7"

def login : LimiterCall := .checkLoginRateLimit "user" identifier

/-- A call of `p` whose counter has an expiry already. -/
def counted (p : Process) (call : LimiterCall) : List (Process × CounterCommand LimiterCall) :=
  [(p, .incr call), (p, .answer)]

/-- A call of `p` that starts its counter. -/
def started (p : Process) (call : LimiterCall) : List (Process × CounterCommand LimiterCall) :=
  [(p, .incr call), (p, .expire), (p, .answer)]

/-- The first process is stopped between its `INCR` and its `EXPIRE`; four more logins pass. -/
def outage : List (Process × CounterCommand LimiterCall) :=
  [(.first, .incr login), (.first, .fail)] ++ counted .second login ++ counted .second login ++
    counted .second login ++
    counted .second login

/-- The first process is stopped in a call that has not started the counter: four logins pass in all, the
sixth call is refused, and after a minute they pass again. -/
def turns : List (Process × CounterCommand LimiterCall) :=
  started .first login ++ [(.first, .incr login), (.first, .fail)] ++ counted .second login ++
    counted .second login ++
    counted .second login ++ counted .first login ++ started .second (.trackFailedLogin "Ana@example.com") ++
    [(.second, .wait (seconds 60))] ++ started .first login

/-- What a replayed run leaves for the login's counter and where it leaves the two processes. -/
def outcome (r : List (LimiterStep Process) × LimiterConfig Process) :
    Option (RedisValue × Option Nat) × List (Counting LimiterCall) :=
  ((r.2.shared.store (login.key env)).map fun e => (e.value, e.expiresAt),
    [r.2.locals .first, r.2.locals .second])

/-- The counter is left without an expiry, and whatever happens later every login from there is refused. -/
theorem throttled_for_ever :
    ∃ tr c, LimiterRun (π := Process) env tr c ∧ ¬ NoPermanentThrottle env tr ∧
      ∀ tr' c', Run (Config.step (prog (limiterSpec env))) (fun _ _ _ => True) c tr' c' →
        (∀ life, passes env tr' "user" identifier life = []) ∧
          ∀ draw, (checkLoginRateLimit env c'.shared.store draw "user" identifier).2 = false := by
  have hreplay : (Run.replay (Config.step (prog (limiterSpec env))) (fun _ _ _ => True)
      (start Process RedisKey RedisValue LimiterCall) outage).map (fun r => decide (outcome r =
        (some (.count 5, none), [.idle, .returned login 1 5]) ∧ ∃ x ∈ r.1,
          Orphans (limiterSpec env) x.before x.label)) =
      some true := by decide +kernel
  obtain ⟨tr, c, hrun, hcheck⟩ := Run.exists_of_replay hreplay
  obtain ⟨houtcome, x, hx, hlost⟩ := of_decide_eq_true hcheck
  obtain ⟨hcounter, hlocals⟩ := Prod.mk.inj houtcome
  simp only [List.cons.injEq, and_true] at hlocals
  obtain ⟨hfirst, hsecond⟩ := hlocals
  obtain ⟨e, he, hvalue⟩ := Option.map_eq_some_iff.mp hcounter
  obtain ⟨hnumber, hlasts⟩ := Prod.mk.inj hvalue
  have hfree : ∀ q, (c.locals q).held (limiterSpec env) = none := by
    intro q
    cases q with
    | first => rw [hfirst]; rfl
    | second => rw [hsecond]; rfl
  have hstuck : Stuck (limiterSpec env) 5 (login.key env) c := by
    refine ⟨⟨e, he, hlasts, ?_⟩, ?_, ?_⟩
    · change 5 ≤ e.value.number
      rw [hnumber]
      exact Nat.le_refl 5
    · intro q hq
      rw [due_eq_none (hfree q)] at hq
      cases hq
    · intro q t hq
      rw [hfree q] at hq
      cases hq
  refine ⟨tr, c, hrun, ?_, ?_⟩
  · intro hends
    refine (expiring_iff hrun).mpr ?_ x hx hlost
    intro y hy key e' he' hlasts'
    rcases hends.expires y hy key e' he' with hsome | hdue
    · rw [hlasts'] at hsome
      cases hsome
    · exact hdue
  · intro tr' c' hlater
    obtain ⟨hstuck', hlate⟩ := stuck (watched_run hrun) hstuck hlater
    refine ⟨?_, ?_⟩
    · intro life
      refine List.filter_eq_nil_iff.mpr ?_
      intro t ht hpasses
      obtain ⟨hkey, _, hle⟩ := of_decide_eq_true hpasses
      have := hlate t ht hkey
      change t.attempts ≤ 5 at hle
      omega
    · intro draw
      obtain ⟨e', he', hlasts', hle⟩ := hstuck'.lasting
      have hentry := ExpiringStore.entry_of_lasting he' hlasts' draw.now
      have hattempts : attempts (limiterSpec env) ⟨c'.shared.store, draw.now, c'.shared.lives⟩ login =
          e'.value.number + 1 := attempts_of_entry hentry
      rw [checkLoginRateLimit_attempts env _ draw "user" identifier c'.shared.lives,
        decide_eq_false_iff_not, Nat.not_le]
      change 5 < attempts (limiterSpec env) ⟨c'.shared.store, draw.now, c'.shared.lives⟩ login
      rw [hattempts]
      exact Nat.lt_succ_of_le hle

/-- Where only calls fail whose counter has an expiry, at most five pass in each life of it. -/
theorem throttle_ends :
    ∃ tr c, LimiterRun (π := Process) env tr c ∧ (passes env tr "user" identifier 1).length = 4 ∧
      (passes env tr "user" identifier 2).length = 1 ∧ NoPermanentThrottle env tr := by
  have hreplay : (Run.replay (Config.step (prog (limiterSpec env))) (fun _ _ _ => True)
      (start Process RedisKey RedisValue LimiterCall) turns).map (fun r => decide (
        ((passes env r.1 "user" identifier 1).length = 4 ∧ (passes env r.1 "user" identifier 2).length = 1) ∧
          ∀ x ∈ r.1, ¬ Orphans (limiterSpec env) x.before x.label)) = some true := by decide +kernel
  obtain ⟨tr, c, hrun, hcheck⟩ := Run.exists_of_replay hreplay
  obtain ⟨⟨hone, htwo⟩, hkept⟩ := of_decide_eq_true hcheck
  exact ⟨tr, c, hrun, hone, htwo, (login_throttle_iff hrun).mp hkept⟩

end LostExpiry

end RatingLift
