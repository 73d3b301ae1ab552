import RatingLift.Auth.Effects
import RatingLift.Db.Flush
import RatingLift.Library.Interleaving

/-!
# The requests on login sessions, step by step

`refresh_access_token`, `logout`, `revoke_session` and `reset_password`, served by several workers: each
request selects the rows that it decides on, one after the other, and commits at the end, and between any two
of these steps the other requests take theirs.

* (`sessionProg_alone`) the steps of a request that is not interrupted leave the sessions as the operation of
  the service does.
-/

namespace RatingLift

open Library

inductive SessionCall where
  | refresh (refreshToken : String) (ipAddress : Option String)
  | logout (userId : Uuid) (jti refreshToken : Option String)
  | revoke (userId : Uuid) (sessionId : String)
  /-- `reset_password` with a token of the user. -/
  | reset (userId : Uuid)

/-- How far a request has come, with the rows it has loaded. -/
inductive SessionLocal where
  | idle
  /-- `refresh_access_token` has found the session of its token. -/
  | matched (refreshToken : String) (ipAddress : Option String) (now : Instant) (session : LoginSession)
  | rotating (refreshToken : String) (ipAddress : Option String) (now : Instant) (session : LoginSession)
      (user : User)
  /-- `logout` has found no session under the `jti`. -/
  | searching (userId : Uuid) (refreshToken : Option String)
  | revoking (session : LoginSession)
  | resetting (userId : Uuid)
  | done

inductive SessionAction where
  | select (call : SessionCall) (now : Instant)
  /-- The second `SELECT` of `refresh_access_token` and of `logout`. -/
  | selectNext
  | commit (draw : AuthDraw)

section

variable {τ : Type} (env : AuthEnv τ) (db : Db)

/-- The session of a refresh token, unless it is revoked or its token has expired. -/
def refreshableSession (now : Instant) (refreshToken : String) : Option LoginSession :=
  (db.loginSessions.first fun r => r.refreshTokenHash == some (env.sha256 refreshToken)).filter fun session =>
    !session.revoked && !session.refreshExpiresAt.any fun t => decide (t ≤ now)

/-- The user of a session, unless it is inactive. -/
def sessionUser (session : LoginSession) : Option User := (db.users.find? session.userId).filter (·.isActive)

def sessionByJti (userId : Uuid) (jti : Option String) : Option LoginSession :=
  (jti.filter (· ≠ "")).bind fun jti =>
    db.loginSessions.first fun r => r.userId == userId && r.jti == some jti

def sessionByToken (userId : Uuid) (refreshToken : Option String) : Option LoginSession :=
  (refreshToken.filter (· ≠ "")).bind fun token =>
    db.loginSessions.first fun r => r.userId == userId && r.refreshTokenHash == some (env.sha256 token)

def sessionById (userId : Uuid) (sessionId : String) : Option LoginSession :=
  (Uuid.parse sessionId).bind fun sid => db.loginSessions.first fun r => r.id == sid && r.userId == userId

/-- The `UPDATE` of a session. -/
def flushSession (loaded written : LoginSession) : Db :=
  match db.loginSessions.find? loaded.id with
  | none => db
  | some stored => { db with loginSessions := db.loginSessions.update (loaded.flush written stored) }

/-- The steps of the four requests. -/
def sessionProg : SessionAction → SessionLocal → Db → Option (SessionLocal × Db)
  | .select (.refresh refreshToken ipAddress) now, .idle, db =>
    match refreshableSession env db now refreshToken with
    | none => some (.done, db)
    | some session => some (.matched refreshToken ipAddress now session, db)
  | .select (.logout userId jti refreshToken) _, .idle, db =>
    match sessionByJti db userId jti with
    | none => some (.searching userId refreshToken, db)
    | some session => some (.revoking session, db)
  | .select (.revoke userId sessionId) _, .idle, db =>
    match sessionById db userId sessionId with
    | none => some (.done, db)
    | some session => some (.revoking session, db)
  | .select (.reset userId) _, .idle, db =>
    match db.users.find? userId with
    | none => some (.done, db)
    | some _ => some (.resetting userId, db)
  | .selectNext, .matched refreshToken ipAddress now session, db =>
    match sessionUser db session with
    | none => some (.done, db)
    | some user => some (.rotating refreshToken ipAddress now session user, db)
  | .selectNext, .searching userId refreshToken, db =>
    match sessionByToken env db userId refreshToken with
    | none => some (.done, db)
    | some session => some (.revoking session, db)
  | .commit draw, .rotating _ ipAddress now session user, db =>
    some (.done, flushSession db session (rotate env { draw with now := now } session user ipAddress))
  | .commit _, .revoking session, db => some (.done, flushSession db session { session with revoked := true })
  | .commit _, .resetting userId, db => some (.done, revokeAll db userId)
  | _, _, _ => none

variable {env db}

/-! ### Requests without interference -/

theorem refreshable_eq_ok {now : Instant} {refreshToken : String} {session : LoginSession} {user : User} :
    refreshable env db now refreshToken = .ok (session, user) ↔
      refreshableSession env db now refreshToken = some session ∧ sessionUser db session = some user := by
  unfold refreshable refreshableSession sessionUser
  cases db.loginSessions.first fun r => r.refreshTokenHash == some (env.sha256 refreshToken) with
  | none => simp
  | some found =>
    cases hrev : found.revoked with
    | true =>
      simp only [hrev, ↓reduceIte, Option.filter_some, Bool.not_true, Bool.false_and, Bool.false_eq_true]
      simp
    | false =>
      cases hexp : found.refreshExpiresAt.any fun t => decide (t ≤ now) with
      | true =>
        simp only [hrev, hexp, ↓reduceIte, Option.filter_some, Bool.not_true, Bool.and_false,
          Bool.false_eq_true]
        simp
      | false =>
        simp only [hrev, Bool.false_eq_true, ↓reduceIte, hexp, Option.filter_some, Bool.not_false,
          Bool.and_self]
        constructor
        · intro h
          split at h
          · cases h
          · rename_i owner howner
            cases hact : owner.isActive with
            | false => simp [hact] at h
            | true =>
              simp only [hact, Bool.not_true, Bool.false_eq_true, ↓reduceIte, Except.ok.injEq,
                Prod.mk.injEq] at h
              obtain ⟨rfl, rfl⟩ := h
              exact ⟨rfl, by rw [howner, Option.filter_some, if_pos hact]⟩
        · rintro ⟨hfound, howner⟩
          obtain rfl := Option.some.inj hfound
          obtain ⟨hstored, hact⟩ := Option.filter_eq_some_iff.mp howner
          simp [hstored, hact]

theorem logoutSession_eq {user : User} {jti refreshToken : Option String} :
    logoutSession env db user jti refreshToken =
      (sessionByJti db user.id jti).or (sessionByToken env db user.id refreshToken) := rfl

/-- The sessions after the `UPDATE`. -/
theorem flushSession_find (loaded written : LoginSession) (sid : Uuid) :
    (flushSession db loaded written).loginSessions.find? sid =
      if sid = loaded.id then (db.loginSessions.find? sid).map (loaded.flush written) else
        db.loginSessions.find? sid := by
  unfold flushSession
  cases hstored : db.loginSessions.find? loaded.id with
  | none =>
    by_cases hsid : sid = loaded.id
    · rw [if_pos hsid, hsid, hstored]; rfl
    · rw [if_neg hsid]
  | some stored =>
    have hkey : Keyed.key (loaded.flush written stored) = loaded.id := (Table.find?_some hstored).2
    show (db.loginSessions.update _).find? sid = _
    rw [Table.find?_update, hkey]
    by_cases hsid : sid = loaded.id
    · rw [if_pos hsid, if_pos hsid.symm, hsid, hstored]; rfl
    · rw [if_neg hsid, if_neg (Ne.symm hsid)]

/-- Without interference the commit of a request stores the session that the request made. -/
theorem flushSession_of_loaded {loaded written : LoginSession}
    (hloaded : db.loginSessions.find? loaded.id = some loaded) (hid : written.id = loaded.id) :
    flushSession db loaded written = { db with loginSessions := db.loginSessions.update written } := by
  unfold flushSession
  rw [hloaded]
  dsimp only
  rw [LoginSession.flush_of_loaded hid]

theorem commitRevoked_sessions {s : AuthState} {draw : AuthDraw} {user : User} {session : LoginSession}
    {action : String} {p : LoginSession → Bool} (hfound : s.db.loginSessions.first p = some session) :
    (flushSession s.db session { session with revoked := true }).loginSessions =
      (commitRevoked s draw user session action).db.loginSessions := by
  have hstored : s.db.loginSessions.find? session.id = some session :=
    Table.mem_iff_find?.mp (Table.first_some hfound).1
  have hid : ({ session with revoked := true } : LoginSession).id = session.id := rfl
  rw [flushSession_of_loaded hstored hid]
  rfl

/-- The actions of a request. -/
def SessionCall.actions (call : SessionCall) (draw : AuthDraw) : List SessionAction :=
  [.select call draw.now, .selectNext, .commit draw]

/-- The operation of the service that a request runs; a user who logs out or revokes a session exists, and the
token of a password reset names the user. -/
def SessionCall.Runs (s : AuthState) (draw : AuthDraw) : SessionCall → AuthRequest → Prop
  | .refresh refreshToken ipAddress, req => req = .refreshAccessToken refreshToken ipAddress
  | .logout userId jti refreshToken, req =>
    req = .logout userId jti refreshToken ∧ (s.db.users.find? userId).isSome = true
  | .revoke userId sessionId, req =>
    req = .revokeSession userId sessionId ∧ (s.db.users.find? userId).isSome = true
  | .reset userId, req => ∃ token newPassword, req = .resetPassword token newPassword ∧
      ∃ user, tokenUser s.db (consumeToken s.redis draw.now .passwordReset token).1 = .ok user ∧
      user.id = userId

/-- The steps of a request that is not interrupted leave the sessions as the operation does. -/
theorem sessionProg_alone {s : AuthState} {draw : AuthDraw} {call : SessionCall} {req : AuthRequest}
    (h : call.Runs s draw req) :
    (req.serve env s draw).1.db.loginSessions =
      (Config.alone (sessionProg env) (call.actions draw) .idle s.db).2.loginSessions := by
  cases call with
  | refresh refreshToken ipAddress =>
    obtain rfl := h
    simp only [AuthRequest.serve, SessionCall.actions, Config.alone, List.foldl_cons,
      List.foldl_nil, sessionProg]
    unfold refreshAccessToken
    cases hrefreshable : refreshable env s.db draw.now refreshToken with
    | ok found =>
      obtain ⟨session, user⟩ := found
      obtain ⟨hsession, huser⟩ := refreshable_eq_ok.mp hrefreshable
      have hstored : s.db.loginSessions.find? session.id = some session :=
        Table.mem_iff_find?.mp (Table.first_some (Option.filter_eq_some_iff.mp hsession).1).1
      simp only [hsession, huser, Option.getD_some]
      have hid : (rotate env draw session user ipAddress).id = session.id := rfl
      show _ = (flushSession s.db session (rotate env draw session user ipAddress)).loginSessions
      rw [flushSession_of_loaded hstored hid]
      rfl
    | error e =>
      have hrefused : ∀ session user, refreshableSession env s.db draw.now refreshToken = some session →
          sessionUser s.db session ≠ some user := by
        intro session user hsession huser
        rw [refreshable_eq_ok.mpr ⟨hsession, huser⟩] at hrefreshable
        cases hrefreshable
      cases hsession : refreshableSession env s.db draw.now refreshToken with
      | none => rfl
      | some session =>
        cases huser : sessionUser s.db session with
        | some user => exact absurd huser (hrefused session user hsession)
        | none => simp only [huser, Option.getD_some]; rfl
  | logout userId jti refreshToken =>
    obtain ⟨rfl, hexists⟩ := h
    obtain ⟨user, huser⟩ := Option.isSome_iff_exists.mp hexists
    obtain rfl : user.id = userId := (Table.find?_some huser).2
    simp only [AuthRequest.serve, withUser, huser, SessionCall.actions, Config.alone, List.foldl_cons,
      List.foldl_nil, sessionProg]
    unfold logout
    rw [logoutSession_eq]
    cases hjti : sessionByJti s.db user.id jti with
    | some session =>
      obtain ⟨_, _, hfound⟩ := Option.bind_eq_some_iff.mp hjti
      exact (commitRevoked_sessions hfound).symm
    | none =>
      simp only [Option.none_or, Option.getD_some]
      cases htoken : sessionByToken env s.db user.id refreshToken with
      | none => rfl
      | some session =>
        obtain ⟨_, _, hfound⟩ := Option.bind_eq_some_iff.mp htoken
        exact (commitRevoked_sessions hfound).symm
  | revoke userId sessionId =>
    obtain ⟨rfl, hexists⟩ := h
    obtain ⟨user, huser⟩ := Option.isSome_iff_exists.mp hexists
    obtain rfl : user.id = userId := (Table.find?_some huser).2
    simp only [AuthRequest.serve, withUser, huser, SessionCall.actions, Config.alone, List.foldl_cons,
      List.foldl_nil, sessionProg]
    unfold revokeSession sessionById
    cases Uuid.parse sessionId with
    | none => rfl
    | some sid =>
      simp only [Option.bind_some]
      cases hfound : s.db.loginSessions.first fun r => r.id == sid && r.userId == user.id with
      | none => rfl
      | some session => exact (commitRevoked_sessions hfound).symm
  | reset userId =>
    obtain ⟨token, newPassword, rfl, user, huser, rfl⟩ := h
    have hstored : s.db.users.find? user.id = some user := tokenUser_ok huser
    simp only [AuthRequest.serve, SessionCall.actions, Config.alone, List.foldl_cons, List.foldl_nil,
      sessionProg, hstored]
    unfold resetPassword
    generalize consumeToken s.redis draw.now .passwordReset token = consumed at huser ⊢
    obtain ⟨name, redis⟩ := consumed
    dsimp only at huser ⊢
    rw [huser]
    rfl

end

end RatingLift
