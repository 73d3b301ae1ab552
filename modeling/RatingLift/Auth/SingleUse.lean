import RatingLift.Auth.Effects
import RatingLift.Library.ReadThenDelete

/-!
# Single-use secrets, command by command

The tokens and one-time passwords that Redis keeps, taken by several workers: `consume_token` and
`verify_stored_otp` are a `GET` and, when its value is accepted, a `DEL` whose result is ignored;
`issue_token` and `generate_and_store_otp` are one `SETEX`.  Between the two commands of a call the other
workers send theirs.

* (`alone_consumeToken`, `alone_verifyStoredOtp`) a call that is not interrupted does what the functions of
  the service do;
* (`secrets_single_use_iff`) a secret makes at most one call succeed exactly when no call reads it while
  another one, which has read it, has yet to delete it.
-/

namespace RatingLift

open Library Taking

/-- The prefixes of the single-use tokens. -/
inductive TokenPrefix where
  | PASSWORD_RESET_PREFIX
  | EMAIL_VERIFY_PREFIX
deriving DecidableEq

def TokenPrefix.key : TokenPrefix → String → RedisKey
  | .PASSWORD_RESET_PREFIX => .passwordReset
  | .EMAIL_VERIFY_PREFIX => .emailVerify

inductive SecretCall where
  | consumeToken (pre : TokenPrefix) (token : String)
  | verifyStoredOtp (userId : Uuid) (otp purpose : String)
deriving DecidableEq

namespace SecretCall

/-- The key that a call reads and deletes. -/
def key : SecretCall → RedisKey
  | consumeToken pre token => pre.key token
  | verifyStoredOtp userId _ purpose => .otp purpose userId

/-- Whether a call succeeds with the value that it has read. -/
def accepts : SecretCall → RedisValue → Bool
  | consumeToken _ _, .text _ => true
  | consumeToken _ _, .count _ => false
  | verifyStoredOtp _ otp _, value => value == .text otp

end SecretCall

abbrev SecretCommand := TakingCommand RedisKey RedisValue SecretCall

/-- The commands of the four functions. -/
abbrev secretProg : SecretCommand → Taking SecretCall RedisValue → Issues RedisKey RedisValue →
    Option (Taking SecretCall RedisValue × Issues RedisKey RedisValue) :=
  prog SecretCall.key SecretCall.accepts

section

variable {τ : Type} (env : AuthEnv τ) (redis : Redis) (issues : RedisKey → Nat) (draw : AuthDraw)
  (now : Instant)

/-- `issue_token` -/
def issueTokenCommand (pre : TokenPrefix) (userId : Uuid) (ttlSeconds : Nat) : SecretCommand :=
  .setex draw.now (seconds ttlSeconds) (pre.key draw.token) (.text userId.str)

/-- `generate_and_store_otp` -/
def generateAndStoreOtpCommand (userId : Uuid) (purpose : String) : SecretCommand :=
  .setex draw.now (seconds env.settings.mfaOtpTtlSeconds) (.otp purpose userId) (.text draw.otp)

/-! ### Calls without interference -/

theorem alone_issueToken (pre : TokenPrefix) (userId : Uuid) (ttlSeconds : Nat) :
    (Config.alone secretProg [issueTokenCommand draw pre userId ttlSeconds] .ready ⟨redis, issues⟩).2.store =
      issueToken redis draw pre.key userId ttlSeconds := rfl

theorem alone_generateAndStoreOtp (userId : Uuid) (purpose : String) :
    (Config.alone secretProg [generateAndStoreOtpCommand env draw userId purpose] .ready
      ⟨redis, issues⟩).2.store =
      generateAndStoreOtp env redis draw userId purpose := rfl

/-- A `GET` and a `DEL` without interruption. -/
theorem alone_taking (call : SecretCall) :
    Config.alone secretProg [.get now call, .del] .ready ⟨redis, issues⟩ =
      (.answered call (wanted SecretCall.key SecretCall.accepts redis now call),
        ⟨if (wanted SecretCall.key SecretCall.accepts redis now call).isSome then redis.del call.key else
          redis, issues⟩) := by
  have hget : secretProg (.get now call) .ready ⟨redis, issues⟩ =
      some (afterGet SecretCall.key SecretCall.accepts ⟨redis, issues⟩ now call, ⟨redis, issues⟩) := rfl
  rw [Config.alone_cons_some hget]
  unfold afterGet
  cases wanted SecretCall.key SecretCall.accepts redis now call with
  | none => rfl
  | some value => rfl

theorem alone_consumeToken (pre : TokenPrefix) (token : String) :
    Config.alone secretProg [.get now (.consumeToken pre token), .del] .ready ⟨redis, issues⟩ =
      (.answered (.consumeToken pre token) ((consumeToken redis now pre.key token).1.map .text),
        ⟨(consumeToken redis now pre.key token).2, issues⟩) := by
  have hwanted : wanted SecretCall.key SecretCall.accepts redis now (.consumeToken pre token) =
      (redis.get now (pre.key token)).filter (SecretCall.accepts (.consumeToken pre token)) := rfl
  rw [alone_taking, hwanted]
  unfold consumeToken
  cases redis.get now (pre.key token) with
  | none => rfl
  | some value =>
    cases value with
    | text userId => rfl
    | count n => rfl

theorem alone_verifyStoredOtp (userId : Uuid) (otp purpose : String) :
    Config.alone secretProg [.get now (.verifyStoredOtp userId otp purpose), .del] .ready ⟨redis, issues⟩ =
      (.answered (.verifyStoredOtp userId otp purpose)
          (if (verifyStoredOtp redis now userId otp purpose).1 then some (.text otp) else none),
        ⟨(verifyStoredOtp redis now userId otp purpose).2, issues⟩) := by
  have hwanted : wanted SecretCall.key SecretCall.accepts redis now (.verifyStoredOtp userId otp purpose) =
      (redis.get now (.otp purpose userId)).filter
        (SecretCall.accepts (.verifyStoredOtp userId otp purpose)) := rfl
  rw [alone_taking, hwanted]
  unfold verifyStoredOtp
  cases redis.get now (.otp purpose userId) with
  | none => rfl
  | some value =>
    by_cases hvalue : value = .text otp
    · subst hvalue
      simp [SecretCall.accepts, SecretCall.key]
    · simp [SecretCall.accepts, hvalue]

end

section

variable {π : Type} [DecidableEq π]

abbrev SecretStep (π : Type) := TakingStep π RedisKey RedisValue SecretCall

/-- Nobody is in the middle of a call. -/
def SecretsStart (π : Type) (redis : Redis) :
    Config π (Issues RedisKey RedisValue) (Taking SecretCall RedisValue) :=
  ⟨⟨redis, fun _ => 0⟩, fun _ => .ready⟩

/-- Any commands of any callers, in any order. -/
abbrev SecretRun (redis : Redis) :=
  Run (Config.step (π := π) secretProg) (fun _ _ _ => True) (SecretsStart π redis)

/-- No secret has made two calls succeed. -/
def SecretsUsedOnce (tr : List (SecretStep π)) : Prop := (accepted SecretCall.key tr).Nodup

/-- The step does not read a secret that another call has read and not yet deleted. -/
def ReadsAlone (x : SecretStep π) : Prop := Undisturbed SecretCall.key SecretCall.accepts x.before x.label

/-- In a run in which no call reads a secret while another one has read it and has yet to delete it, every
secret makes at most one call succeed; and when all calls have returned, only then. -/
theorem secrets_single_use_iff {redis : Redis} {tr : List (SecretStep π)}
    {c : Config π (Issues RedisKey RedisValue) (Taking SecretCall RedisValue)} (h : SecretRun redis tr c) :
    ((∀ x ∈ tr, ReadsAlone x) → SecretsUsedOnce tr) ∧
      ((∀ q, (c.locals q).pending SecretCall.key = none) → SecretsUsedOnce tr → ∀ x ∈ tr, ReadsAlone x) :=
  ⟨fun hquiet => accepted_nodup h (fun _ => rfl) hquiet, fun hdone honce =>
    undisturbed_of_nodup h hdone honce⟩

end

/-! ### One secret for two calls -/

namespace SharedSecret

/-- The threads that serve the calls. -/
inductive Worker where
  | first | second
deriving DecidableEq

def alice : Uuid := .ofNat 201

def env : AuthEnv String := .sample ⟨fun _ secret => secret, fun _ _ _ => .invalid⟩

def issue (p : Worker) : Worker × SecretCommand :=
  (p, issueTokenCommand (.numbered 1) .PASSWORD_RESET_PREFIX alice 3600)

def resetCall : SecretCall := .consumeToken .PASSWORD_RESET_PREFIX "token-1"

/-- Both workers have read the reset token when the first one deletes it. -/
def race : List (Worker × SecretCommand) :=
  [issue .first, (.first, .get 0 resetCall), (.second, .get 0 resetCall), (.first, .del), (.second, .del)]

/-- The first worker has used the token when the second one asks for it; then they use two codes of one
user. -/
def turns : List (Worker × SecretCommand) :=
  [issue .first, (.first, .get 0 resetCall), (.first, .del), (.second, .get 0 resetCall),
    (.second, generateAndStoreOtpCommand env (.numbered 2) alice LOGIN_PURPOSE),
    (.first, .get 0 (.verifyStoredOtp alice "100002" LOGIN_PURPOSE)), (.first, .del),
    (.second, generateAndStoreOtpCommand env (.numbered 3) alice LOGIN_PURPOSE),
    (.first, .get 0 (.verifyStoredOtp alice "100002" LOGIN_PURPOSE)),
    (.second, .get 0 (.verifyStoredOtp alice "100003" LOGIN_PURPOSE)), (.second, .del)]

/-- What a replayed run returns and where it leaves the two workers. -/
def outcome
    (r : List (SecretStep Worker) ×
      Config Worker (Issues RedisKey RedisValue) (Taking SecretCall RedisValue)) :
    List (RedisKey × Nat) × List (Taking SecretCall RedisValue) :=
  (accepted SecretCall.key r.1, [r.2.locals .first, r.2.locals .second])

/-- One password-reset token is accepted twice. -/
theorem token_accepted_twice :
    ∃ tr c, SecretRun (π := Worker) .empty tr c ∧ c.shared.issues resetCall.key = 1 ∧
      (∀ p, c.locals p = .answered resetCall (some (.text alice.str))) ∧ ¬ SecretsUsedOnce tr := by
  have hreplay :
      (Run.replay (Config.step (π := Worker) secretProg) (fun _ _ _ => True) (SecretsStart Worker .empty)
      race).map (fun r => decide (r.2.shared.issues resetCall.key = 1 ∧ outcome r =
        ([(resetCall.key, 1), (resetCall.key, 1)],
          [.answered resetCall (some (.text alice.str)), .answered resetCall (some (.text alice.str))]))) =
      some true := by decide +kernel
  obtain ⟨tr, c, hrun, hcheck⟩ := Run.exists_of_replay hreplay
  obtain ⟨hissues, houtcome⟩ := of_decide_eq_true hcheck
  obtain ⟨haccepted, hlocals⟩ := Prod.mk.inj houtcome
  simp only [List.cons.injEq, and_true] at hlocals
  refine ⟨tr, c, hrun, hissues, fun p => ?_, fun honce => ?_⟩
  · cases p with
    | first => exact hlocals.1
    | second => exact hlocals.2
  · unfold SecretsUsedOnce at honce
    rw [show accepted SecretCall.key tr = _ from haccepted] at honce
    revert honce
    decide

/-- Workers that take turns use each secret once. -/
theorem secrets_used_in_turn :
    ∃ tr c, SecretRun (π := Worker) .empty tr c ∧
      accepted SecretCall.key tr =
        [(resetCall.key, 1), (.otp LOGIN_PURPOSE alice, 1), (.otp LOGIN_PURPOSE alice, 2)] ∧
      ∀ x ∈ tr, ReadsAlone x := by
  have hreplay :
      (Run.replay (Config.step (π := Worker) secretProg) (fun _ _ _ => True) (SecretsStart Worker .empty)
      turns).map (fun r => decide ((outcome r).1 =
        [(resetCall.key, 1), (.otp LOGIN_PURPOSE alice, 1), (.otp LOGIN_PURPOSE alice, 2)] ∧
          ∀ m ∈ (outcome r).2, m.pending SecretCall.key = none)) = some true := by decide +kernel
  obtain ⟨tr, c, hrun, hcheck⟩ := Run.exists_of_replay hreplay
  obtain ⟨haccepted, hlocals⟩ := of_decide_eq_true hcheck
  refine ⟨tr, c, hrun, haccepted, (secrets_single_use_iff hrun).2 (fun p => ?_) ?_⟩
  · cases p with
    | first => exact hlocals _ (by simp [outcome])
    | second => exact hlocals _ (by simp [outcome])
  · unfold SecretsUsedOnce
    rw [show accepted SecretCall.key tr = _ from haccepted]
    decide

end SharedSecret

end RatingLift
