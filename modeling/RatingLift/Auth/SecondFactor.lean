import RatingLift.Auth.Effects

/-!
# The second factor of a login

A user with MFA logs in with two requests: `login_with_password` checks the password and issues a challenge,
and `verify_mfa_login` checks a code and opens the session.  The stored login OTP ties the second to the
first.  A TOTP code does not, because nothing of the challenge is stored, and a social login asks for neither.

* (`AuthRun.sessions_add_pending_le`) as long as no social login finds a user with MFA, and a TOTP code is
  only accepted while a challenge is open, the sessions of a user and the pending login OTP never outnumber
  the challenges;
* (`sessions_have_two_factors`) in such a run every session of a user with MFA comes from a correct code and
  has a challenge of its own;
* (`OneFactor.sessions_with_one_factor`) a social login alone and a TOTP code alone open a session of such a
  user.
-/

namespace RatingLift

open Library

section

variable {τ : Type} (env : AuthEnv τ)

/-- The user with MFA for whom a step created a session. -/
def mfaSessionUser (step : AuthStep) : Option Uuid :=
  (step.after.db.loginSessions.find? step.label.draw.sessionId).bind fun session =>
    ((step.after.db.users.find? session.userId).filter (·.mfaEnabled)).map (·.id)

/-- The user whose password a `login_with_password` accepted and to whom it issued an MFA challenge. -/
def challengedUser (step : AuthStep) : Option Uuid :=
  match step.label.request, replyOf env step with
  | .loginWithPassword req, .ok (.auth response) =>
    if response.mfaRequired then
      ((getUserByEmail env step.before.db (env.lower req.email)).filter fun user =>
        verifyPassword env req.password user.passwordHash).map (·.id)
    else none
  | _, _ => none

/-- How many sessions were created for a user with MFA. -/
def mfaSessions (tr : List AuthStep) (userId : Uuid) : Nat :=
  tr.countP fun step => mfaSessionUser step == some userId

/-- How many challenges were issued to a user. -/
def challenges (tr : List AuthStep) (userId : Uuid) : Nat :=
  tr.countP fun step => challengedUser env step == some userId

/-- The pending login OTP of a user. -/
def pendingOtps (redis : Redis) (userId : Uuid) : Nat := if (redis (.otp LOGIN_PURPOSE userId)).isSome then 1
  else 0

/-- A `verify_mfa_login` that presents a correct code of the user: a TOTP code of the verified secret, or the
stored login OTP. -/
def PresentsCode (step : AuthStep) (userId : Uuid) : Prop :=
  ∃ req, step.label.request = .verifyMfaLogin req ∧
    ((∃ user, totpLogin env step.before step.label.draw req = some user ∧ user.id = userId) ∨
      step.before.redis.get step.label.draw.now (.otp LOGIN_PURPOSE userId) = some (.text req.otp))

/-- No social login finds a user with MFA, and a TOTP code that lets a user in comes while a challenge of the
user is open: more were issued than sessions were created and an OTP is still pending for. -/
structure FactorsInOrder (tr : List AuthStep) (s : AuthState) (call : AuthCall) : Prop where
  social : ∀ req, call.request = .loginWithSocialProvider req →
    ∀ user, socialUser env s req = some user → user.mfaEnabled = false
  totp : ∀ req, call.request = .verifyMfaLogin req → ∀ user, totpLogin env s call.draw req = some user →
    mfaSessions tr user.id + pendingOtps s.redis user.id < challenges env tr user.id

instance (tr : List AuthStep) (s : AuthState) (call : AuthCall) : Decidable (FactorsInOrder env tr s call) :=
  decidable_of_iff ((match call.request with
    | .loginWithSocialProvider req => (socialUser env s req).all fun user => !user.mfaEnabled
    | .verifyMfaLogin req => (totpLogin env s call.draw req).all fun user =>
        decide (mfaSessions tr user.id + pendingOtps s.redis user.id < challenges env tr user.id)
    | _ => true : Bool) = true) (by
    constructor
    · intro h
      constructor
      · intro req hreq user huser
        simpa [hreq, huser] using h
      · intro req hreq user huser
        simpa [hreq, huser] using h
    · intro h
      split
      · rename_i req hreq
        rw [Option.all_eq_true]
        intro user huser
        rw [h.social req hreq user huser]
        rfl
      · rename_i req hreq
        rw [Option.all_eq_true]
        exact fun user huser => decide_eq_true (h.totp req hreq user huser)
      · rfl)

variable {env} {s s' : AuthState} {draw : AuthDraw} {req : AuthRequest} {r : Except Exn (AuthReply τ)}
  {a : AuthStep} {tr : List AuthStep} {userId : Uuid}

theorem mfaSessions_concat : mfaSessions (tr ++ [a]) userId =
    mfaSessions tr userId + if mfaSessionUser a = some userId then 1 else 0 := by
  unfold mfaSessions
  simp [List.countP_append, List.countP_singleton]

theorem challenges_concat : challenges env (tr ++ [a]) userId =
    challenges env tr userId + if challengedUser env a = some userId then 1 else 0 := by
  unfold challenges
  simp [List.countP_append, List.countP_singleton]

theorem pendingOtps_le_one {redis : Redis} : pendingOtps redis userId ≤ 1 := by
  unfold pendingOtps
  split <;> omega

theorem pendingOtps_congr {redis redis' : Redis}
    (h : redis' (.otp LOGIN_PURPOSE userId) = redis (.otp LOGIN_PURPOSE userId)) :
    pendingOtps redis' userId = pendingOtps redis userId := by
  unfold pendingOtps
  rw [h]

/-- Without a new row under the drawn key no session was created. -/
theorem mfaSessionUser_eq_none (h : a.after.db.loginSessions.find? a.label.draw.sessionId = none) :
    mfaSessionUser a = none := by
  unfold mfaSessionUser
  rw [h]
  rfl

/-- An opened session is one of its user, when the user has MFA. -/
theorem mfaSessionUser_of_opened {user : User} {client : ClientInfo} {adminToken : Bool}
    (hfresh : a.before.db.loginSessions.Fresh a.label.draw.sessionId)
    (huser : a.after.db.users.find? user.id = some user)
    (hsessions : a.after.db.loginSessions =
      a.before.db.loginSessions.insert (newSession env a.label.draw user client adminToken)) :
    mfaSessionUser a = if user.mfaEnabled then some user.id else none := by
  have hrow : a.after.db.loginSessions.find? a.label.draw.sessionId =
      some (newSession env a.label.draw user client adminToken) := by
    rw [hsessions, Table.find?_insert hfresh]
    exact if_pos rfl
  unfold mfaSessionUser
  rw [hrow]
  show ((a.after.db.users.find? user.id).filter _).map _ = _
  rw [huser]
  cases hmfa : user.mfaEnabled <;> simp [hmfa]

/-- What a step does to the counts: no session is created and the pending OTPs stay, or a challenge is issued,
or a session is created. -/
theorem AuthEffect.factors (h : AuthEffect env a.before a.label.draw a.after a.label.request (replyOf env a))
    (hfresh : a.before.db.loginSessions.Fresh a.label.draw.sessionId) :
    (mfaSessionUser a = none ∧ SameLoginOtps a.before.redis a.after.redis) ∨
      (mfaSessionUser a = none ∧ ∃ user, challengedUser env a = some user ∧
        ∀ userId, userId ≠ user →
          a.after.redis (.otp LOGIN_PURPOSE userId) = a.before.redis (.otp LOGIN_PURPOSE userId)) ∨
      ∃ user, mfaSessionUser a = (if user.mfaEnabled then some user.id else none) ∧
        Opening env a.before a.label.draw user a.after.redis a.label.request := by
  have hnew : a.before.db.loginSessions.find? a.label.draw.sessionId = none := Table.fresh_iff_find?.mp hfresh
  generalize hreq : a.label.request = req at h
  generalize hr : replyOf env a = r at h
  cases h with
  | quiet hquiet _ =>
    refine Or.inl ⟨mfaSessionUser_eq_none ?_, hquiet.otps⟩
    rw [hquiet.sessions, hnew]
  | rotated session user _ _ _ hotps hsessions =>
    refine Or.inl ⟨mfaSessionUser_eq_none ?_, hotps⟩
    rw [hsessions, Table.find?_update, hnew]
    split <;> rfl
  | revoked chosen _ hotps _ hsessions =>
    refine Or.inl ⟨mfaSessionUser_eq_none ?_, hotps⟩
    rw [hsessions, hnew]
    rfl
  | challenged user hfound hpassword _ hrequired _ _ hsessions hotps =>
    refine Or.inr (Or.inl ⟨mfaSessionUser_eq_none ?_, user.id, ?_, hotps⟩)
    · rw [hsessions, hnew]
    · unfold challengedUser
      rw [hreq, hr]
      simp [hrequired, hfound, hpassword]
  | opened user client adminToken how huser _ hsessions =>
    exact Or.inr (Or.inr ⟨user, mfaSessionUser_of_opened hfresh huser hsessions, how⟩)

/-- An opening whose factors are in order is one of a user without MFA, or one that presented a code while a
challenge of the user was open; in both cases the counts stay in order. -/
theorem Opening.factors {user : User}
    (h : Opening env a.before a.label.draw user a.after.redis a.label.request)
    (horder : FactorsInOrder env tr a.before a.label)
    (hcount : ∀ userId, mfaSessions tr userId + pendingOtps a.before.redis userId ≤
      challenges env tr userId) :
    (user.mfaEnabled = false ∧ SameLoginOtps a.before.redis a.after.redis) ∨
      (PresentsCode env a user.id ∧ mfaSessions tr user.id + 1 + pendingOtps a.after.redis user.id ≤
          challenges env tr user.id ∧
        ∀ userId, userId ≠ user.id →
          pendingOtps a.after.redis userId = pendingOtps a.before.redis userId) := by
  generalize hreq : a.label.request = req at h
  generalize hredis : a.after.redis = redis' at h
  cases h with
  | signup hmfa hotps => exact Or.inl ⟨hmfa, hotps⟩
  | password hmfa hotps => exact Or.inl ⟨hmfa, hotps⟩
  | social hfound hotps =>
    refine Or.inl ⟨?_, hotps⟩
    by_contra hmfa
    obtain ⟨found, hsocial, _, hfoundMfa⟩ := hfound (by simpa using hmfa)
    have := horder.social _ hreq found hsocial
    rw [hfoundMfa] at this
    cases this
  | totp found hlogin hid hotps =>
    have hopen := horder.totp _ hreq found hlogin
    rw [hid] at hopen
    refine Or.inr ⟨⟨_, hreq, Or.inl ⟨found, hlogin, hid⟩⟩, ?_,
      fun userId _ => pendingOtps_congr (hotps userId)⟩
    rw [pendingOtps_congr (hotps user.id)]
    omega
  | otp hget hdel =>
    have hpending : pendingOtps a.before.redis user.id = 1 := by
      obtain ⟨e, he, _⟩ := ExpiringStore.isSome_of_get hget
      unfold pendingOtps
      simp [he]
    have hused : pendingOtps redis' user.id = 0 := by
      unfold pendingOtps
      simp [hdel]
    have := hcount user.id
    refine Or.inr ⟨⟨_, hreq, Or.inr hget⟩, by omega, fun userId hne => pendingOtps_congr ?_⟩
    rw [hdel]
    exact ExpiringStore.del_of_ne fun heq => hne (RedisKey.otp.inj heq).2

/-! ### Runs -/

variable (env) in
/-- Runs of the service whose steps keep the factors in order. -/
def OrderedRun (s₀ : AuthState) : List AuthStep → AuthState → Prop :=
  Run (serveCall env) (fun tr s call => FreshDraw tr s call ∧ FactorsInOrder env tr s call) s₀

variable {s₀ : AuthState} {pre post : List AuthStep}

theorem OrderedRun.toAuthRun (h : OrderedRun env s₀ tr s) : AuthRun env s₀ tr s :=
  Run.mono (fun _ _ _ hok => hok.1) h

/-- What a step of an ordered run does to the sessions and the challenges. -/
theorem factors_step (hrun : AuthRun env s₀ (pre ++ [a]) a.after)
    (horder : FactorsInOrder env pre a.before a.label)
    (hcount : ∀ userId, mfaSessions pre userId + pendingOtps a.before.redis userId ≤
      challenges env pre userId) :
    (∀ userId, mfaSessions (pre ++ [a]) userId + pendingOtps a.after.redis userId ≤
        challenges env (pre ++ [a]) userId) ∧
      ∀ userId, mfaSessionUser a = some userId →
        PresentsCode env a userId ∧ mfaSessions pre userId < challenges env pre userId := by
  obtain ⟨hfresh, heffect⟩ := hrun.step rfl
  rcases heffect.factors hfresh.session with ⟨hnone, hotps⟩ | ⟨hnone, user, hchallenged, hothers⟩
    | ⟨user, huser, how⟩
  · refine ⟨?_, fun userId h => by rw [hnone] at h; cases h⟩
    intro userId
    rw [mfaSessions_concat, challenges_concat, hnone, pendingOtps_congr (hotps userId)]
    have := hcount userId
    simp only [reduceCtorEq, ↓reduceIte]
    omega
  · refine ⟨?_, fun userId h => by rw [hnone] at h; cases h⟩
    intro userId
    rw [mfaSessions_concat, challenges_concat, hnone, hchallenged]
    have := hcount userId
    by_cases hsame : userId = user
    · have hpending : pendingOtps a.after.redis userId ≤ 1 := pendingOtps_le_one
      simp only [hsame, reduceCtorEq, ↓reduceIte] at *
      omega
    · rw [pendingOtps_congr (hothers userId hsame)]
      simp only [reduceCtorEq, ↓reduceIte]
      omega
  · rcases how.factors horder hcount with ⟨hmfa, hotps⟩ | ⟨hcode, hopen, hothers⟩
    · have hnone : mfaSessionUser a = none := by rw [huser, hmfa]; rfl
      refine ⟨?_, fun userId h => by rw [hnone] at h; cases h⟩
      intro userId
      rw [mfaSessions_concat, challenges_concat, hnone, pendingOtps_congr (hotps userId)]
      have := hcount userId
      simp only [reduceCtorEq, ↓reduceIte]
      omega
    · have honly : ∀ userId, mfaSessionUser a = some userId → userId = user.id := by
        intro userId h
        rw [huser] at h
        split at h
        · exact (Option.some.inj h).symm
        · cases h
      refine ⟨fun userId => ?_, fun userId h => ?_⟩
      · rw [mfaSessions_concat, challenges_concat]
        by_cases hsame : userId = user.id
        · rw [hsame]
          split <;> omega
        · rw [if_neg fun h => hsame (honly userId h), hothers userId hsame]
          have := hcount userId
          omega
      · rw [honly userId h]
        exact ⟨hcode, by omega⟩

/-- The sessions of a user with MFA and the pending login OTP never outnumber the challenges. -/
theorem OrderedRun.sessions_add_pending_le (h : OrderedRun env s₀ tr s)
    (hstart : ∀ userId, s₀.redis (.otp LOGIN_PURPOSE userId) = none) (userId : Uuid) :
    mfaSessions tr userId + pendingOtps s.redis userId ≤ challenges env tr userId := by
  refine Run.invariant (I := fun tr s => ∀ userId,
    mfaSessions tr userId + pendingOtps s.redis userId ≤ challenges env tr userId) ?_ ?_ h userId
  · intro userId
    simp [mfaSessions, challenges, pendingOtps, hstart]
  · intro tr t call t' hrun ih hok hnext
    exact (factors_step (a := ⟨t, call, t'⟩) (OrderedRun.toAuthRun (hrun.snoc hok hnext)) hok.2 ih).1

/-- In every run in which no social login finds a user with MFA and TOTP codes are only accepted while a
challenge is open: each session that is created for a user with MFA is created by a call that presents a
correct code, and more challenges were issued to the user before than sessions were created. -/
theorem sessions_have_two_factors (env : AuthEnv τ) {s₀ s : AuthState} {tr pre post : List AuthStep}
    {a : AuthStep} (hrun : OrderedRun env s₀ tr s)
    (hstart : ∀ userId, s₀.redis (.otp LOGIN_PURPOSE userId) = none) (htr : tr = pre ++ a :: post)
    {userId : Uuid} (huser : mfaSessionUser a = some userId) :
    PresentsCode env a userId ∧ mfaSessions pre userId < challenges env pre userId := by
  obtain ⟨hpre, hok, _⟩ := Run.split hrun htr
  have hupto : AuthRun env s₀ (pre ++ [a]) a.after := OrderedRun.toAuthRun (Run.upto hrun htr)
  exact (factors_step hupto hok.2 (OrderedRun.sessions_add_pending_le hpre hstart)).2 userId huser

end

/-! ### Sessions from one factor -/

namespace OneFactor

def env : AuthEnv String := .sample ⟨fun _ secret => secret, fun _ _ _ => .invalid⟩

def alice : Uuid := .ofNat 201

/-- Alice signs up, verifies an address for codes, and enables MFA. -/
def mfaSetup : List AuthCall :=
  [⟨.signup ⟨"alice@example.com", "Passw0rd", none, none, .OWNER, .unknown⟩, .numbered 1⟩,
    ⟨.addMfaChannel alice "email" "alice@example.com", .numbered 2⟩,
    ⟨.verifyMfaChannel alice "email" "100002", .numbered 3⟩,
    ⟨.enableMfa alice, .numbered 4⟩]

/-- She logs in with her password and the code that was sent to her. -/
def twoFactors : List AuthCall := mfaSetup ++
  [⟨.loginWithPassword ⟨"alice@example.com", "Passw0rd", false, .unknown⟩, .numbered 5⟩,
    ⟨.verifyMfaLogin ⟨"alice@example.com", "100005", false, .unknown⟩, .numbered 6⟩]

/-- She logs in with a social provider. -/
def socialOnly : List AuthCall := mfaSetup ++
  [⟨.loginWithSocialProvider ⟨.GOOGLE, ⟨200, [("email", .str "alice@example.com")]⟩, .unknown⟩, .numbered 5⟩]

/-- She verifies an authenticator app and later presents one of its codes without a password. -/
def totpOnly : List AuthCall := mfaSetup ++
  [⟨.setupTotp alice, .numbered 5⟩, ⟨.verifyTotp alice "654321", .numbered 6⟩,
    ⟨.verifyMfaLogin ⟨"alice@example.com", "654321", false, .unknown⟩, .numbered 7⟩]

/-- The last step of a run opens a session for Alice, and `p` holds of the history before it and of the
step. -/
def opensLast (p : List AuthStep → AuthStep → Bool) (r : List AuthStep × AuthState) : Bool :=
  match r.1.getLast? with
  | some a => mfaSessionUser a == some alice && p r.1.dropLast a
  | none => false

private theorem exists_session_run {ok : List AuthStep → AuthState → AuthCall → Prop}
    [∀ tr s call, Decidable (ok tr s call)] {calls : List AuthCall} {p : List AuthStep → AuthStep → Bool}
    (h : (Run.replay (serveCall env) ok .fresh calls).map (opensLast p) = some true) :
    ∃ pre a s, Run (serveCall env) ok .fresh (pre ++ [a]) s ∧ mfaSessionUser a = some alice ∧
    p pre a = true := by
  obtain ⟨tr, s, hrun, hcheck⟩ := Run.exists_of_replay h
  unfold opensLast at hcheck
  split at hcheck
  · rename_i a hlast
    obtain ⟨pre, rfl⟩ := List.getLast?_eq_some_iff.mp hlast
    simp only [List.dropLast_concat, Bool.and_eq_true, beq_iff_eq] at hcheck
    exact ⟨pre, a, s, hrun, hcheck.1, hcheck.2⟩
  · cases hcheck

/-- A social login opens a session for Alice without a code, and a TOTP code opens one without any
challenge. -/
theorem sessions_with_one_factor :
    (∃ pre a s, AuthRun env .fresh (pre ++ [a]) s ∧ mfaSessionUser a = some alice ∧
      ¬ PresentsCode env a alice) ∧
      ∃ pre a s, AuthRun env .fresh (pre ++ [a]) s ∧ mfaSessionUser a = some alice ∧
        ¬ mfaSessions pre alice < challenges env pre alice := by
  constructor
  · have hreplay : (Run.replay (serveCall env) FreshDraw .fresh socialOnly).map (opensLast fun _ a =>
        match a.label.request with
        | .verifyMfaLogin _ => false
        | _ => true) = some true := by decide +kernel
    obtain ⟨pre, a, s, hrun, huser, hrequest⟩ := exists_session_run hreplay
    refine ⟨pre, a, s, hrun, huser, ?_⟩
    rintro ⟨req, hreq, _⟩
    rw [hreq] at hrequest
    cases hrequest
  · have hreplay : (Run.replay (serveCall env) FreshDraw .fresh totpOnly).map (opensLast fun pre _ =>
        decide (challenges env pre alice = 0)) = some true := by decide +kernel
    obtain ⟨pre, a, s, hrun, huser, hnone⟩ := exists_session_run hreplay
    refine ⟨pre, a, s, hrun, huser, ?_⟩
    rw [of_decide_eq_true hnone]
    omega

theorem twoFactors_session :
    ∃ pre a s, OrderedRun env .fresh (pre ++ [a]) s ∧ mfaSessionUser a = some alice ∧
      PresentsCode env a alice ∧ mfaSessions pre alice < challenges env pre alice := by
  have hreplay :
      (Run.replay (serveCall env) (fun tr s call => FreshDraw tr s call ∧ FactorsInOrder env tr s call)
      .fresh twoFactors).map (opensLast fun _ _ => true) = some true := by decide +kernel
  obtain ⟨pre, a, s, hrun, huser, _⟩ := exists_session_run hreplay
  exact ⟨pre, a, s, hrun, huser, sessions_have_two_factors env hrun (fun _ => rfl) rfl huser⟩

end OneFactor

end RatingLift
