import RatingLift.Auth.AccountWrites
import RatingLift.Auth.SecondFactor
import RatingLift.Auth.Sessions

/-!
# What a password reset ends

A password reset revokes every session of the user, and a revoked session stays revoked: no refresh token of a
session from before is accepted afterwards.  Of Redis it deletes the token it was called with and nothing else
(`reset_ends_sessions`), so that other reset tokens and a login OTP of the user outlive it.
-/

namespace RatingLift

open Library Fallible

section

variable {τ : Type} {env : AuthEnv τ} {s s' : AuthState} {draw : AuthDraw}

theorem consumeToken_of_ne {redis : Redis} {now : Instant} {key : String → RedisKey} {token : String}
    {k : RedisKey} (hne : k ≠ key token) : (consumeToken redis now key token).2 k = redis k := by
  unfold consumeToken
  split
  · exact ExpiringStore.del_of_ne hne
  · rfl

/-- What a successful reset leaves of the sessions and of Redis. -/
theorem resetPassword_effects {token newPassword : String} {user : User}
    (huser : resetUser s draw token = .ok user) :
    (resetPassword env s draw token newPassword).1.db.loginSessions = (revokeAll s.db user.id).loginSessions ∧
      (resetPassword env s draw token newPassword).1.redis =
        (consumeToken s.redis draw.now .passwordReset token).2 := by
  have hfound : tokenUser s.db (consumeToken s.redis draw.now .passwordReset token).1 = .ok user := huser
  unfold resetPassword
  dsimp only
  rw [hfound]
  exact ⟨rfl, rfl⟩

/-- A session that is revoked is not refreshed, and stays revoked. -/
theorem AuthEffect.revoked_stays {req : AuthRequest} {r : Except Exn (AuthReply τ)}
    (h : AuthEffect env s draw s' req r) (hfresh : s.db.loginSessions.Fresh draw.sessionId) {sid : Uuid}
    {row : LoginSession} (hrow : s.db.loginSessions.find? sid = some row) (hrevoked : row.revoked = true) :
    ∃ row', s'.db.loginSessions.find? sid = some row' ∧ row'.revoked = true := by
  cases h with
  | quiet hquiet _ => exact ⟨row, by rw [hquiet.sessions]; exact hrow, hrevoked⟩
  | challenged _ _ _ _ _ _ _ hsame _ => exact ⟨row, by rw [hsame]; exact hrow, hrevoked⟩
  | opened user client adminToken _ _ _ hrows =>
    refine ⟨row, ?_, hrevoked⟩
    have hne : Keyed.key (newSession env draw user client adminToken) ≠ sid := fun heq =>
      hfresh row (Table.find?_some hrow).1 ((Table.find?_some hrow).2.trans heq.symm)
    rw [hrows, Table.find?_insert hfresh, if_neg hne, hrow]
  | rotated session user hrefreshable _ _ _ hrows =>
    -- the session that is rotated was not revoked, so it is another one
    have hne : session.id ≠ sid := by
      intro heq
      have hsession := (refreshable_find hrefreshable).1
      rw [heq, hrow] at hsession
      obtain rfl := Option.some.inj hsession
      rw [refreshable_not_revoked hrefreshable] at hrevoked
      cases hrevoked
    exact ⟨row, by rw [hrows, Table.find?_update_of_ne hne, hrow], hrevoked⟩
  | revoked chosen _ _ _ hrows =>
    exact ⟨{ row with revoked := row.revoked || chosen row }, by rw [hrows, hrow]; rfl, by simp [hrevoked]⟩

variable {s₀ : AuthState} {tr pre post : List AuthStep} {a : AuthStep}

/-- After a reset the sessions the user had before are revoked. -/
theorem AuthRun.sessions_revoked (h : AuthRun env s₀ tr s) (htr : tr = pre ++ a :: post)
    {token newPassword : String} {user : User} (hreq : a.label.request = .resetPassword token newPassword)
    (huser : resetUser a.before a.label.draw token = .ok user) {sid : Uuid} {row : LoginSession}
    (hrow : a.before.db.loginSessions.find? sid = some row) (howner : row.userId = user.id) :
    ∃ row', s.db.loginSessions.find? sid = some row' ∧ row'.revoked = true := by
  refine Run.since (J := fun _ t => ∃ row', t.db.loginSessions.find? sid = some row' ∧
    row'.revoked = true) h htr ?_
    fun pre' b post' hb => ?_
  · have hafter := h.after_eq (x := a) (by rw [htr]; simp)
    rw [hreq] at hafter
    have hsessions : a.after.db.loginSessions = (revokeAll a.before.db user.id).loginSessions := by
      rw [← hafter]
      exact (resetPassword_effects huser).1
    refine ⟨{ row with revoked := row.revoked || row.userId == user.id }, ?_, by simp [howner]⟩
    rw [hsessions, revokeAll_find, hrow]
    rfl
  · rintro ⟨row', hrow', hrevoked⟩
    have htr' : tr = (pre ++ a :: pre') ++ b :: post' := by rw [hb]; simp
    have hstep := h.step htr'
    exact hstep.2.revoked_stays hstep.1.session hrow' hrevoked

/-- After a password reset no refresh token of a session created earlier is accepted; of Redis the reset
deletes its own token only. -/
theorem reset_ends_sessions (h : AuthRun env s₀ tr s) (htr : tr = pre ++ a :: post)
    {token newPassword : String} {user : User} (hreq : a.label.request = .resetPassword token newPassword)
    (huser : resetUser a.before a.label.draw token = .ok user) :
    (∀ b ∈ post, ∀ refreshToken ipAddress, b.label.request = .refreshAccessToken refreshToken ipAddress →
      ∀ session owner, refreshable env b.before.db b.label.draw.now refreshToken = .ok (session, owner) →
        ∀ row ∈ a.before.db.loginSessions, row.userId = user.id → row.id ≠ session.id) ∧
      ∀ k, k ≠ .passwordReset token → a.after.redis k = a.before.redis k := by
  constructor
  · intro b hb refreshToken ipAddress _ session owner hrefreshable row hrow howner hid
    obtain ⟨mid, rest, hpost⟩ := List.append_of_mem hb
    have hsplit : tr = (pre ++ a :: mid) ++ b :: rest := by rw [htr, hpost]; simp
    have hbefore : AuthRun env s₀ (pre ++ a :: mid) b.before := (h.split hsplit).1
    obtain ⟨row', hrow', hrevoked⟩ :=
      hbefore.sessions_revoked rfl hreq huser (Table.mem_iff_find?.mp hrow) howner
    have hsession := (refreshable_find hrefreshable).1
    rw [show Keyed.key row = session.id from hid, hsession] at hrow'
    obtain rfl := Option.some.inj hrow'
    rw [refreshable_not_revoked hrefreshable] at hrevoked
    cases hrevoked
  · intro k hk
    have hafter := h.after_eq (x := a) (by rw [htr]; simp)
    rw [hreq] at hafter
    have hredis : a.after.redis = (consumeToken a.before.redis a.label.draw.now .passwordReset token).2 := by
      rw [← hafter]
      exact (resetPassword_effects huser).2
    rw [hredis]
    exact consumeToken_of_ne hk

end

/-! ### What outlives a reset -/

namespace Outlives

open OneFactor (env alice mfaSetup)

/-- The token that a step presents for a password reset. -/
def presentedReset (x : AuthStep) : Option String :=
  match x.label.request with
  | .resetPassword token _ => some token
  | _ => none

/-- The token that a step issues for a password reset. -/
def issuedReset (x : AuthStep) : Option String :=
  match x.label.request with
  | .requestPasswordReset _ => some x.label.draw.token
  | _ => none

/-- The code that a step presents to `verify_mfa_login`. -/
def presentedOtp (x : AuthStep) : Option String :=
  match x.label.request with
  | .verifyMfaLogin req => some req.otp
  | _ => none

/-- `p` holds of the last two steps of a run and the history before them. -/
def lastTwo (p : List AuthStep → AuthStep → AuthStep → Bool) (r : List AuthStep × AuthState) : Bool :=
  match r.1.reverse with
  | b :: a :: rest => p rest.reverse a b
  | _ => false

private theorem exists_last_two {calls : List AuthCall} {p : List AuthStep → AuthStep → AuthStep → Bool}
    (h : (Run.replay (serveCall env) FreshDraw .fresh calls).map (lastTwo p) = some true) :
    ∃ pre a b s, AuthRun env .fresh (pre ++ [a, b]) s ∧ p pre a b = true := by
  obtain ⟨tr, s, hrun, hcheck⟩ := Run.exists_of_replay h
  unfold lastTwo at hcheck
  split at hcheck
  · rename_i b a rest hrev
    have htr : tr = rest.reverse ++ [a, b] := by
      rw [← List.reverse_reverse tr, hrev]
      simp
    rw [htr] at hrun
    exact ⟨rest.reverse, a, b, s, hrun, hcheck⟩
  · cases hcheck

/-- Alice asks twice for a reset and uses the second token, and then the first. -/
def twoTokens : List AuthCall :=
  [⟨.signup ⟨"alice@example.com", "Passw0rd", none, none, .OWNER, .unknown⟩, .numbered 1⟩,
    ⟨.requestPasswordReset "alice@example.com", .numbered 2⟩,
    ⟨.requestPasswordReset "alice@example.com", .numbered 3⟩,
    ⟨.resetPassword "token-3" "N3w-Passw0rd", .numbered 4⟩,
    ⟨.resetPassword "token-2" "0ther-Passw0rd", .numbered 5⟩]

/-- She is sent a login code, resets her password, and logs in with the code. -/
def codeAfterReset : List AuthCall := mfaSetup ++
  [⟨.loginWithPassword ⟨"alice@example.com", "Passw0rd", false, .unknown⟩, .numbered 5⟩,
    ⟨.requestPasswordReset "alice@example.com", .numbered 6⟩,
    ⟨.resetPassword "token-6" "N3w-Passw0rd", .numbered 7⟩,
    ⟨.verifyMfaLogin ⟨"alice@example.com", "100005", false, .unknown⟩, .numbered 8⟩]

/-- She resets her password and then presents the refresh token she was given at her signup. -/
def refreshAfterReset : List AuthCall :=
  [⟨.signup ⟨"alice@example.com", "Passw0rd", none, none, .OWNER, .unknown⟩, .numbered 1⟩,
    ⟨.requestPasswordReset "alice@example.com", .numbered 2⟩,
    ⟨.resetPassword "token-2" "N3w-Passw0rd", .numbered 3⟩,
    ⟨.refreshAccessToken "refresh-1" none, .numbered 4⟩]

/-- A reset token and a login code that were issued before a reset are accepted after it. -/
theorem secrets_outlive_reset :
    (∃ pre a b s, AuthRun env .fresh (pre ++ [a, b]) s ∧ resetsPassword alice a = true ∧
        resetsPassword alice b = true ∧ presentedReset a ≠ presentedReset b ∧
        ∃ x ∈ pre, issuedReset x = presentedReset b) ∧
      ∃ pre a b s, AuthRun env .fresh (pre ++ [a, b]) s ∧ resetsPassword alice a = true ∧
      opensSession b alice ∧
        ∃ otp, a.before.redis.get a.label.draw.now (.otp LOGIN_PURPOSE alice) = some (.text otp) ∧
          presentedOtp b = some otp := by
  constructor
  · have hreplay : (Run.replay (serveCall env) FreshDraw .fresh twoTokens).map (lastTwo fun pre a b =>
        resetsPassword alice a && resetsPassword alice b && decide (presentedReset a ≠ presentedReset b) &&
          pre.any fun x => decide (issuedReset x = presentedReset b)) = some true := by decide +kernel
    obtain ⟨pre, a, b, s, hrun, hcheck⟩ := exists_last_two hreplay
    simp only [Bool.and_eq_true, decide_eq_true_eq, List.any_eq_true] at hcheck
    obtain ⟨⟨⟨ha, hb⟩, hne⟩, x, hx, hissued⟩ := hcheck
    exact ⟨pre, a, b, s, hrun, ha, hb, hne, x, hx, hissued⟩
  · have hreplay : (Run.replay (serveCall env) FreshDraw .fresh codeAfterReset).map (lastTwo fun _ a b =>
        resetsPassword alice a && decide (opensSession b alice) &&
          decide (a.before.redis.get a.label.draw.now (.otp LOGIN_PURPOSE alice) = some (.text "100005")) &&
          decide (presentedOtp b = some "100005")) = some true := by decide +kernel
    obtain ⟨pre, a, b, s, hrun, hcheck⟩ := exists_last_two hreplay
    simp only [Bool.and_eq_true, decide_eq_true_eq] at hcheck
    obtain ⟨⟨⟨ha, hopen⟩, hotp⟩, hpresented⟩ := hcheck
    exact ⟨pre, a, b, s, hrun, ha, hopen, "100005", hotp, hpresented⟩

/-- Alice, who has a session, resets her password. -/
def resetsWithSession (x : AuthStep) : Bool :=
  resetsPassword alice x && x.before.db.loginSessions.rows.any fun row => row.userId == alice

/-- A step presents a refresh token. -/
def presentsRefresh (refreshToken : String) (x : AuthStep) : Bool :=
  match x.label.request with
  | .refreshAccessToken t ipAddress => t == refreshToken && ipAddress == none
  | _ => false

/-- The refresh token that Alice was given at her signup is for none of her sessions any more after the
reset. -/
theorem refresh_after_reset :
    ∃ pre a b s, AuthRun env .fresh (pre ++ [a, b]) s ∧ resetsPassword alice a = true ∧
      presentsRefresh "refresh-1" b = true ∧
      ∃ row ∈ a.before.db.loginSessions, row.userId = alice ∧
        ∀ session owner, refreshable env b.before.db b.label.draw.now "refresh-1" = .ok (session, owner) →
          row.id ≠ session.id := by
  have hreplay : (Run.replay (serveCall env) FreshDraw .fresh refreshAfterReset).map (lastTwo fun _ a b =>
      resetsWithSession a && presentsRefresh "refresh-1" b) = some true := by decide +kernel
  obtain ⟨pre, a, b, s, hrun, hcheck⟩ := exists_last_two hreplay
  simp only [resetsWithSession, Bool.and_eq_true, List.any_eq_true, beq_iff_eq] at hcheck
  obtain ⟨⟨hreset, row, hrow, howner⟩, hrefresh⟩ := hcheck
  obtain ⟨token, newPassword, user, hareq, huser, hid⟩ := resetsPassword_iff.mp hreset
  have hbreq : b.label.request = .refreshAccessToken "refresh-1" none := by
    unfold presentsRefresh at hrefresh
    split at hrefresh
    · rename_i t ipAddress hrequest
      simp only [Bool.and_eq_true, beq_iff_eq] at hrefresh
      obtain ⟨rfl, rfl⟩ := hrefresh
      exact hrequest
    · cases hrefresh
  refine ⟨pre, a, b, s, hrun, hreset, hrefresh, row, hrow, howner, ?_⟩
  intro session owner hrefreshable
  exact (reset_ends_sessions hrun rfl hareq huser).1 b (by simp) _ _ hbreq session owner hrefreshable row hrow
    (howner.trans hid.symm)

end Outlives

end RatingLift
