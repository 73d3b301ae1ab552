import RatingLift.Auth.LoginWrites

/-!
# What every request writes

The writes of the other operations, and then of every request: to the table of users (`serve_users`), and, in
a run, the sessions it opens (`AuthRun.admitted`).
-/

namespace RatingLift

open Library Fallible

section

variable {τ : Type} {env : AuthEnv τ} {s : AuthState} {draw : AuthDraw}

/-! ### The operations that write a user -/

section

variable {user : User} (huser : s.db.users.find? user.id = some user)
include huser

theorem addMfaChannel_users {channel destination : String} :
    UserWrite env s draw (addMfaChannel env s draw user channel destination).1.db
      (.addMfaChannel user.id channel destination) := by
  unfold addMfaChannel
  cases hchange : channelChange env user channel destination with
  | error e => exact .unwritten rfl (fun _ h => by cases h) rfl
  | ok change =>
    obtain ⟨row, purpose, deliver⟩ := change
    exact .update user row huser (.channelAdded hchange) rfl

theorem verifyMfaChannel_users {channel otp : String} :
    UserWrite env s draw (verifyMfaChannel s draw user channel otp).1.db
      (.verifyMfaChannel user.id channel otp) := by
  unfold verifyMfaChannel
  cases hpurpose : channelPurpose user channel with
  | error e => exact .unwritten rfl (fun _ h => by cases h) rfl
  | ok purpose =>
    dsimp only
    generalize verifyStoredOtp s.redis draw.now user.id otp purpose = checked
    obtain ⟨accepted, redis⟩ := checked
    cases accepted with
    | false => exact .unwritten rfl (fun _ h => by cases h) rfl
    | true => exact .update user _ huser (.channelVerified hpurpose) rfl

theorem enableMfa_users : UserWrite env s draw (enableMfa s draw user).1.db (.enableMfa user.id) := by
  unfold enableMfa
  cases hverified : user.mfaEmailVerified || user.mfaPhoneVerified with
  | false => exact .unwritten rfl (fun _ h => by cases h) rfl
  | true => exact .update user _ huser (.mfaEnabled hverified) rfl

theorem verifyTotp_users {code : String} :
    UserWrite env s draw (verifyTotp env s draw user code).1.db (.verifyTotp user.id code) := by
  unfold verifyTotp
  cases hsecret : user.totpSecret.filter (· ≠ "") with
  | none => exact .unwritten rfl (fun _ h => by cases h) rfl
  | some secret =>
    dsimp only
    split
    · exact .unwritten rfl (fun _ h => by cases h) rfl
    · have hany : user.totpSecret.any (· ≠ "") = true := by
        obtain ⟨hsome, hne⟩ := Option.filter_eq_some_iff.mp hsecret
        rw [hsome]
        exact hne
      exact .update user _ huser (.totpVerified hany) rfl

end

theorem verifyEmailToken_users {token : String} :
    UserWrite env s draw (verifyEmailToken s draw token).1.db (.verifyEmailToken token) := by
  unfold verifyEmailToken
  generalize consumeToken s.redis draw.now .emailVerify token = consumed
  obtain ⟨userId, redis⟩ := consumed
  dsimp only
  cases huser : tokenUser s.db userId with
  | error e => exact .unwritten rfl (fun _ h => by cases h) rfl
  | ok user => exact .update user _ (tokenUser_ok huser) .emailVerified rfl

theorem resetPassword_of_ok {token newPassword : String} {user : User}
    (huser : resetUser s draw token = .ok user) :
    (resetPassword env s draw token newPassword).1.db.users =
      s.db.users.update (withPassword env draw user newPassword) := by
  have hfound : tokenUser s.db (consumeToken s.redis draw.now .passwordReset token).1 = .ok user := huser
  unfold resetPassword
  dsimp only
  rw [hfound]
  rfl

theorem resetPassword_users {token newPassword : String} :
    UserWrite env s draw (resetPassword env s draw token newPassword).1.db
      (.resetPassword token newPassword) := by
  cases huser : resetUser s draw token with
  | error e =>
    have hfailed : tokenUser s.db (consumeToken s.redis draw.now .passwordReset token).1 = .error e := huser
    unfold resetPassword
    dsimp only
    rw [hfailed]
    exact .unwritten rfl (fun _ h => by cases h) rfl
  | ok user => exact .update user _ (tokenUser_ok huser) (.passwordReset huser) (resetPassword_of_ok huser)

theorem createAdmin_users {actor : User} {email password : String} {fullName : Option String}
    {role : UserRole} {actorId : Uuid} :
    UserWrite env s draw (createAdmin env s draw actor email password fullName role).1.db
      (.createAdmin actorId email password fullName role) := by
  have hkept : UserWrite env s draw s.db (.createAdmin actorId email password fullName role) :=
    .unwritten rfl (fun _ h => by cases h) rfl
  unfold createAdmin
  cases hrole : adminRoles.contains role.value with
  | false => exact hkept
  | true =>
    simp only [Bool.not_true, Bool.false_eq_true, ↓reduceIte]
    cases getUserByEmail env s.db (env.lower email) with
    | some _ => exact hkept
    | none =>
      dsimp only
      cases hadd : addUser s.db
        (newUser draw (env.lower email) fullName (getPasswordHash env draw password) role none
          true "password") with
      | error e => exact hkept
      | ok db =>
        refine .insert _ (.admin hrole) ?_
        show db.users = _
        rw [addUser_ok hadd]

/-! ### The operations that write no user -/

theorem requestPasswordReset_users {email : String} :
    (requestPasswordReset env s draw email).1.db.users = s.db.users := by
  unfold requestPasswordReset
  split <;> rfl

theorem requestEmailVerification_users {user : User} :
    (requestEmailVerification env s draw user).1.db.users = s.db.users := by
  cases hverified : user.emailVerified <;> simp [requestEmailVerification, sendEmailVerification, hverified]

theorem refreshAccessToken_users {refreshToken : String} {ipAddress : Option String} :
    (refreshAccessToken env s draw refreshToken ipAddress).1.db.users = s.db.users := by
  unfold refreshAccessToken
  split <;> rfl

theorem logout_users {user : User} {jti refreshToken : Option String} :
    (logout env s draw user jti refreshToken).1.db.users = s.db.users := by
  unfold logout
  split <;> rfl

theorem revokeSession_users {user : User} {sessionId : String} :
    (revokeSession s draw user sessionId).1.db.users = s.db.users := by
  unfold revokeSession
  split
  · rfl
  · split <;> rfl

/-! ### Every request -/

/-- What an operation makes of its reply does not matter to the state. -/
private theorem write_map {α β : Type} {req : AuthRequest} {out : AuthState × Except Exn α}
    {f : Except Exn α → Except Exn β} (h : UserWrite env s draw out.1.db req) :
    UserWrite env s draw (out.map id f).1.db req := h

private theorem kept_map {α β : Type} {req : AuthRequest} {out : AuthState × Except Exn α}
    {f : Except Exn α → Except Exn β} (hcheck : loginCheck env s draw req = none)
    (h : out.1.db.users = s.db.users) : UserWrite env s draw (out.map id f).1.db req :=
  .unwritten hcheck (by simp) h

private theorem withUser_users {userId : Uuid} {run : User → AuthState × Except Exn (AuthReply τ)}
    {req : AuthRequest} (hcheck : loginCheck env s draw req = none)
    (h : ∀ user, s.db.users.find? user.id = some user → user.id = userId →
      UserWrite env s draw (run user).1.db req) :
    UserWrite env s draw (withUser s userId run).1.db req := by
  unfold withUser
  cases hfind : s.db.users.find? userId with
  | none => exact .unwritten hcheck (by simp) rfl
  | some user =>
    have hid : user.id = userId := (Table.find?_some hfind).2
    exact h user (by rw [hid]; exact hfind) hid

/-- Every request of the service makes one of the writes. -/
theorem serve_users (env : AuthEnv τ) (s : AuthState) (draw : AuthDraw) (req : AuthRequest)
    (hfresh : s.db.users.Fresh draw.userId) : UserWrite env s draw (req.serve env s draw).1.db req := by
  cases req with
  | signup req => exact write_map (signup_write hfresh).users
  | loginWithPassword req => exact write_map loginWithPassword_write.users
  | verifyMfaLogin req => exact write_map verifyMfaLogin_write.users
  | loginWithSocialProvider req => exact write_map (loginWithSocialProvider_write hfresh).users
  | verifyEmailToken token => exact write_map verifyEmailToken_users
  | resetPassword token newPassword => exact write_map resetPassword_users
  | requestPasswordReset email => exact kept_map rfl requestPasswordReset_users
  | refreshAccessToken refreshToken ipAddress => exact kept_map rfl refreshAccessToken_users
  | addMfaChannel userId channel destination =>
    refine withUser_users rfl ?_
    rintro user huser rfl
    exact write_map (addMfaChannel_users huser)
  | verifyMfaChannel userId channel otp =>
    refine withUser_users rfl ?_
    rintro user huser rfl
    exact write_map (verifyMfaChannel_users huser)
  | enableMfa userId =>
    refine withUser_users rfl ?_
    rintro user huser rfl
    exact write_map (enableMfa_users huser)
  | disableMfa userId =>
    refine withUser_users rfl ?_
    rintro user huser rfl
    exact write_map (.update user _ huser .mfaDisabled rfl)
  | requestEmailVerification userId =>
    exact withUser_users rfl fun _ _ _ => kept_map rfl requestEmailVerification_users
  | logout userId jti refreshToken => exact withUser_users rfl fun _ _ _ => kept_map rfl logout_users
  | revokeSession userId sessionId => exact withUser_users rfl fun _ _ _ => kept_map rfl revokeSession_users
  | setupTotp userId =>
    refine withUser_users rfl ?_
    rintro user huser rfl
    exact write_map (.update user _ huser .totpSetup rfl)
  | verifyTotp userId code =>
    refine withUser_users rfl ?_
    rintro user huser rfl
    exact write_map (verifyTotp_users huser)
  | createAdmin actorId email password fullName role =>
    exact withUser_users rfl fun _ _ _ => write_map createAdmin_users

/-! ### Steps of a run -/

/-- A step opens a session of the user: one that was not there before. -/
def opensSession (x : AuthStep) (userId : Uuid) : Prop :=
  ∃ row ∈ x.after.db.loginSessions, row.userId = userId ∧ x.before.db.loginSessions.Fresh row.id

instance (x : AuthStep) (userId : Uuid) : Decidable (opensSession x userId) :=
  inferInstanceAs (Decidable (∃ row ∈ x.after.db.loginSessions.rows,
    row.userId = userId ∧ x.before.db.loginSessions.Fresh row.id))

/-- The step resets the password of the user. -/
def resetsPassword (userId : Uuid) (x : AuthStep) : Bool :=
  match x.label.request with
  | .resetPassword token _ =>
    match resetUser x.before x.label.draw token with
    | .ok user => decide (user.id = userId)
    | .error _ => false
  | _ => false

theorem resetsPassword_iff {userId : Uuid} {x : AuthStep} :
    resetsPassword userId x = true ↔
      ∃ token newPassword user, x.label.request = .resetPassword token newPassword ∧
      resetUser x.before x.label.draw token = .ok user ∧ user.id = userId := by
  unfold resetsPassword
  constructor
  · intro h
    split at h
    · rename_i token newPassword hreq
      split at h
      · rename_i user huser
        exact ⟨token, newPassword, user, hreq, huser, of_decide_eq_true h⟩
      · cases h
    · cases h
  · rintro ⟨token, newPassword, user, hreq, huser, hid⟩
    rw [hreq]
    dsimp only
    rw [huser]
    exact decide_eq_true hid

/-- The row of an admitted user has no failures and no lock. -/
theorem Admitted.cleared {req : AuthRequest} {row : User} (h : Admitted env s draw req row) :
    row.failedLoginAttempts = 0 ∧ row.lockedUntil = none := by
  cases h with
  | created hcreated => cases hcreated <;> exact ⟨rfl, rfl⟩
  | loggedIn user _ _ _ => exact ⟨rfl, rfl⟩
  | social user tenantId _ _ => exact ⟨rfl, rfl⟩

/-- The requests that may open a session do so for a user they admit. -/
theorem Opening.write {user : User} {redis : Redis} {req : AuthRequest}
    (h : Opening env s draw user redis req) (hfresh : s.db.users.Fresh draw.userId) :
    LoginWrite env s draw (req.serve env s draw).1.db req := by
  cases h with
  | signup _ _ => exact signup_write hfresh
  | password _ _ => exact loginWithPassword_write
  | totp _ _ _ _ => exact verifyMfaLogin_write
  | otp _ _ => exact verifyMfaLogin_write
  | social _ _ => exact loginWithSocialProvider_write hfresh

variable {s₀ : AuthState} {tr : List AuthStep}

/-- A step leaves the state that its request leaves. -/
theorem AuthRun.after_eq (h : AuthRun env s₀ tr s) {x : AuthStep} (hx : x ∈ tr) :
    (x.label.request.serve env x.before x.label.draw).1 = x.after := by
  obtain ⟨pre, post, htr⟩ := List.append_of_mem hx
  exact Option.some.inj (h.split htr).2.2

theorem AuthRun.fresh (h : AuthRun env s₀ tr s) {x : AuthStep} (hx : x ∈ tr) :
    x.before.db.users.Fresh x.label.draw.userId ∧ x.before.db.loginSessions.Fresh x.label.draw.sessionId := by
  obtain ⟨pre, post, htr⟩ := List.append_of_mem hx
  have hok := (h.split htr).2.1
  exact ⟨hok.user, hok.session⟩

theorem AuthRun.step_users (h : AuthRun env s₀ tr s) {x : AuthStep} (hx : x ∈ tr) :
    UserWrite env x.before x.label.draw x.after.db x.label.request ∧
      x.before.db.users.Fresh x.label.draw.userId := by
  rw [← h.after_eq hx]
  exact ⟨serve_users env x.before x.label.draw x.label.request (h.fresh hx).1, (h.fresh hx).1⟩

theorem AuthRun.opensSession_of (h : AuthRun env s₀ tr s) {x : AuthStep} (hx : x ∈ tr) {row : User}
    (hopens : OpensFor env x.before x.label.draw x.after.db row) : opensSession x row.id := by
  obtain ⟨client, adminToken, hrows⟩ := hopens
  have hnew : x.before.db.loginSessions.Fresh (newSession env x.label.draw row client adminToken).id :=
    (h.fresh hx).2
  refine ⟨newSession env x.label.draw row client adminToken, ?_, rfl, hnew⟩
  rw [hrows]
  exact (Table.mem_insert hnew).mpr (Or.inr rfl)

/-- A step opens sessions only for a user it admits, whose row it leaves as admitted. -/
theorem AuthRun.admitted (h : AuthRun env s₀ tr s) {x : AuthStep} (hx : x ∈ tr) {userId : Uuid}
    (hopen : opensSession x userId) :
    ∃ row, Admitted env x.before x.label.draw x.label.request row ∧
    x.after.db.users.find? userId = some row := by
  have hafter := h.after_eq hx
  obtain ⟨session, hsession, huser, hnew⟩ := hopen
  -- a step that keeps the keys of the sessions opens none
  have hnone : (∀ sid, (x.after.db.loginSessions.find? sid).isSome →
      (x.before.db.loginSessions.find? sid).isSome) →
      False := by
    intro hkeys
    have hfound := hkeys session.id (by rw [show x.after.db.loginSessions.find? session.id = some session from
      Table.mem_iff_find?.mp hsession]; rfl)
    rw [Table.fresh_iff_find?.mp hnew] at hfound
    cases hfound
  obtain ⟨pre, post, htr⟩ := List.append_of_mem hx
  have heffect := (h.step htr).2
  generalize replyOf env x = reply at heffect
  generalize x.label.request = req at heffect hafter ⊢
  cases heffect with
  | quiet hquiet _ => exact (hnone fun sid hsid => by rw [← hquiet.sessions]; exact hsid).elim
  | challenged _ _ _ _ _ _ _ hsame _ => exact (hnone fun sid hsid => by rw [← hsame]; exact hsid).elim
  | rotated _ _ _ _ _ _ hrows =>
    refine (hnone ?_).elim
    intro sid hsid
    rw [hrows, Table.find?_update] at hsid
    split at hsid
    · simpa using hsid
    · exact hsid
  | revoked _ _ _ _ hrows =>
    refine (hnone ?_).elim
    intro sid hsid
    rw [hrows] at hsid
    simpa using hsid
  | opened user client adminToken hopening hfind _ hinserted =>
    obtain ⟨_, hwrite⟩ := hopening.write (h.fresh hx).1
    rw [hafter] at hwrite
    cases hwrite with
    | kept hsame => exact (hnone fun sid hsid => by rw [← hsame]; exact hsid).elim
    | opened row hadmitted hrow hopens =>
      obtain ⟨_, _, hrows⟩ := hopens
      rw [hrows] at hsession
      rcases Table.mem_of_mem_insert hsession with hold | rfl
      · exact absurd rfl (hnew session hold)
      · refine ⟨row, hadmitted, ?_⟩
        rw [← huser]
        exact hrow

end

end RatingLift
