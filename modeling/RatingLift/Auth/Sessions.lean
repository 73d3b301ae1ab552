import RatingLift.Auth.CurrentUser
import RatingLift.Auth.Effects

/-!
# The tokens of a login session

A session hands out an access token when it opens and another one at every refresh, and its row keeps the
`jti` of the last one only.  `get_current_user` finds the session of a token by that `jti`.

* (`AuthEffect.jtis`) a request that issues a token writes its `jti` to one session, and every other request
  leaves the `jti` of every session as it is;
* (`AuthRun.jti_kept_iff`) after any run the session of a token has its `jti` exactly when no later request
  issued a token of the same session, and no other session ever has it;
* (`revoked_session_rejects_iff`) a token of a revoked session is rejected exactly when it is out of its
  validity period, or it is the last one that its session handed out.
-/

namespace RatingLift

open Library Fallible

section

variable {τ : Type} (env : AuthEnv τ)

/-- The `jti` of a session. -/
def jtiOf (db : Db) (sid : Uuid) : Option String := (db.loginSessions.find? sid).bind (·.jti)

/-- The session for which a step issued a token. -/
def tokenSession (step : AuthStep) : Option Uuid :=
  if (issued (replyOf env step)).isSome then (sessionOf step.after.db step.label.draw.jti).map (·.id)
  else none

/-- How long a token that a step returned is valid, in seconds. -/
def expiresIn : Except Exn (AuthReply τ) → Nat
  | .ok (.auth response) => response.expiresIn.getD 0
  | _ => 0

/-- `now` is within the validity period of the token that a step issued. -/
def LiveAt (step : AuthStep) (now : Instant) : Prop :=
  seconds step.label.draw.now.timestamp ≤ now ∧
    now < seconds (step.label.draw.now.timestamp + expiresIn (replyOf env step))

/-- The request is refused as unauthorized. -/
def Rejects {α : Type} (r : Except Exn α) : Prop := ∃ detail, r = .error (.http 401 detail)

variable {env} {db : Db} {s s' : AuthState} {draw : AuthDraw} {req : AuthRequest}
  {r : Except Exn (AuthReply τ)}

/-- A `jti` that only the session `sid` has finds that session. -/
theorem sessionOf_eq_of_jtiOf {jti : String} {sid : Uuid}
    (h : ∀ sid', jtiOf db sid' = some jti ↔ sid' = sid) :
    sessionOf db jti = db.loginSessions.find? sid := by
  obtain ⟨row, hrow, hjti⟩ := Option.bind_eq_some_iff.mp ((h sid).mpr rfl)
  rw [hrow]
  refine Table.first_eq_some_of_unique (Table.find?_some hrow).1 (by simp [hjti]) fun row' hrow' hjti' => ?_
  have hfind : db.loginSessions.find? row'.id = some row' := Table.mem_iff_find?.mp hrow'
  have hid : row'.id = sid := (h row'.id).mp (by simpa [jtiOf, hfind] using hjti')
  rw [hid, hrow] at hfind
  exact (Option.some.inj hfind).symm

theorem sessionOf_eq_none {jti : String} (h : ∀ sid, jtiOf db sid ≠ some jti) : sessionOf db jti = none := by
  refine Table.first_eq_none.mpr ?_
  intro row hrow
  have hfind : db.loginSessions.find? row.id = some row := Table.mem_iff_find?.mp hrow
  have := h row.id
  simpa [jtiOf, hfind] using this

theorem jtiOf_ne_of_unused {jti : String} (h : ∀ row ∈ db.loginSessions.rows, row.jti ≠ some jti)
    (sid : Uuid) :
    jtiOf db sid ≠ some jti := by
  intro hjti
  obtain ⟨row, hrow, hjti⟩ := Option.bind_eq_some_iff.mp hjti
  exact h row (Table.find?_some hrow).1 hjti

theorem refreshable_find {now : Instant} {refreshToken : String} {session : LoginSession} {user : User}
    (h : refreshable env db now refreshToken = .ok (session, user)) :
    db.loginSessions.find? session.id = some session ∧ db.users.find? user.id = some user := by
  unfold refreshable at h
  split at h
  · cases h
  rename_i found hfound
  split at h
  · cases h
  split at h
  · cases h
  split at h
  · cases h
  rename_i owner howner
  split at h
  · cases h
  obtain ⟨rfl, rfl⟩ := Prod.mk.inj (Except.ok.inj h)
  refine ⟨Table.mem_iff_find?.mp (Table.first_some hfound).1, ?_⟩
  exact Table.mem_iff_find?.mp (Table.find?_some howner).1

theorem refreshable_not_revoked {now : Instant} {refreshToken : String} {session : LoginSession} {user : User}
    (h : refreshable env db now refreshToken = .ok (session, user)) : session.revoked = false := by
  unfold refreshable at h
  split at h
  · cases h
  rename_i found hfound
  split at h
  · cases h
  rename_i hrevoked
  split at h
  · cases h
  split at h
  · cases h
  split at h
  · cases h
  obtain ⟨rfl, rfl⟩ := Prod.mk.inj (Except.ok.inj h)
  simpa using hrevoked

/-- A request issues no token and keeps the `jti` of every session, or it issues one and writes its `jti` to
the row of one session. -/
theorem AuthEffect.jtis (h : AuthEffect env s draw s' req r)
    (hfresh : s.db.loginSessions.Fresh draw.sessionId) :
    (issued r = none ∧ ∀ sid, jtiOf s'.db sid = jtiOf s.db sid) ∨
      ∃ sid user adminToken, r = .ok (.auth (grantResponse env draw user adminToken)) ∧
        s'.db.users.find? user.id = some user ∧
        ∀ sid', jtiOf s'.db sid' = if sid' = sid then some draw.jti else jtiOf s.db sid' := by
  cases h with
  | quiet hquiet hr =>
    refine Or.inl ⟨hr, ?_⟩
    intro sid
    unfold jtiOf
    rw [hquiet.sessions]
  | challenged _ _ _ _ _ hnone _ hsessions _ =>
    refine Or.inl ⟨hnone, ?_⟩
    intro sid
    unfold jtiOf
    rw [hsessions]
  | revoked chosen _ _ hr hsessions =>
    refine Or.inl ⟨hr, ?_⟩
    intro sid
    unfold jtiOf
    rw [hsessions]
    cases s.db.loginSessions.find? sid <;> rfl
  | opened user client adminToken _ huser _ hsessions =>
    refine Or.inr ⟨draw.sessionId, user, adminToken, rfl, huser, ?_⟩
    intro sid'
    unfold jtiOf
    rw [hsessions, Table.find?_insert hfresh]
    show Option.bind (if draw.sessionId = sid' then _ else _) _ = _
    by_cases hsid : sid' = draw.sessionId
    · rw [if_pos hsid.symm, if_pos hsid]; rfl
    · rw [if_neg (Ne.symm hsid), if_neg hsid]
  | @rotated _ ipAddress session user hrefreshable husers _ _ hsessions =>
    obtain ⟨hsession, huser⟩ := refreshable_find hrefreshable
    refine Or.inr ⟨session.id, user, user.isAdmin, rfl, by rw [husers]; exact huser, ?_⟩
    intro sid'
    unfold jtiOf
    rw [hsessions, Table.find?_update]
    show Option.bind (if session.id = sid' then _ else _) _ = _
    by_cases hsid : sid' = session.id
    · rw [if_pos hsid.symm, if_pos hsid, hsid, hsession]; rfl
    · rw [if_neg (Ne.symm hsid), if_neg hsid]

/-! ### Runs -/

variable {s₀ : AuthState} {tr pre post : List AuthStep} {a : AuthStep}

/-- What a step of a run does to the `jti`s, in terms of the session it issued a token for. -/
theorem AuthRun.step_jtis (h : AuthRun env s₀ tr s) (htr : tr = pre ++ a :: post) (sid : Uuid) :
    jtiOf a.after.db sid =
      if tokenSession env a = some sid then some a.label.draw.jti else jtiOf a.before.db sid := by
  obtain ⟨hfresh, heffect⟩ := h.step htr
  rcases heffect.jtis hfresh.session with ⟨hnone, hkept⟩ | ⟨written, user, adminToken, hreply, _, hjtis⟩
  · have hno : tokenSession env a = none := by
      unfold tokenSession
      rw [hnone]
      rfl
    rw [hno, hkept]
    rfl
  · have honly : ∀ sid', jtiOf a.after.db sid' = some a.label.draw.jti ↔ sid' = written := by
      intro sid'
      rw [hjtis]
      split
      · rename_i heq; simp [heq]
      · rename_i hne
        exact ⟨fun hjti => absurd hjti (jtiOf_ne_of_unused hfresh.jti_unused sid'), fun heq => absurd heq hne⟩
    have hwritten : tokenSession env a = some written := by
      unfold tokenSession
      rw [sessionOf_eq_of_jtiOf honly, hreply]
      obtain ⟨row, hrow, _⟩ := Option.bind_eq_some_iff.mp ((honly written).mpr rfl)
      rw [hrow]
      exact congrArg some (Table.find?_some hrow).2
    rw [hwritten, hjtis]
    by_cases hsid : sid = written
    · rw [if_pos hsid, if_pos (by rw [hsid])]
    · rw [if_neg hsid, if_neg fun heq => hsid (Option.some.inj heq).symm]

/-- At the end of a run the `jti` of a token is the one of its session when no later step issued a token of
that session, and the one of no session otherwise. -/
theorem AuthRun.jti_kept_iff (h : AuthRun env s₀ tr s) (htr : tr = pre ++ a :: post) {sid : Uuid}
    (hsid : tokenSession env a = some sid) (sid' : Uuid) :
    jtiOf s.db sid' = some a.label.draw.jti ↔ sid' = sid ∧ ∀ b ∈ post, tokenSession env b ≠ some sid := by
  refine Run.since (J := fun since t => ∀ sid', jtiOf t.db sid' = some a.label.draw.jti ↔
    sid' = sid ∧ ∀ b ∈ since, tokenSession env b ≠ some sid) h htr ?_ ?_ sid'
  · intro sid'
    rw [h.step_jtis htr, hsid]
    by_cases heq : sid = sid'
    · simp [heq]
    · have hunused := jtiOf_ne_of_unused (h.step htr).1.jti_unused sid'
      simp [heq, Ne.symm heq, hunused]
  · intro pre' b post' hb ih sid'
    have htr' : tr = (pre ++ a :: pre') ++ b :: post' := by rw [hb]; simp
    have hnew : a.label.draw.jti ≠ b.label.draw.jti := (h.step htr').1.jti_new a (by simp)
    rw [h.step_jtis htr']
    by_cases hb : tokenSession env b = some sid'
    · rw [if_pos hb]
      constructor
      · intro heq; exact absurd (Option.some.inj heq).symm hnew
      · rintro ⟨rfl, hall⟩; exact absurd hb (hall b (by simp))
    · rw [if_neg hb, ih sid']
      constructor
      · rintro ⟨rfl, hall⟩
        refine ⟨rfl, ?_⟩
        intro c hc
        rcases List.mem_append.mp hc with hc | hc
        · exact hall c hc
        · rw [List.mem_singleton.mp hc]; exact hb
      · rintro ⟨rfl, hall⟩
        exact ⟨rfl, fun c hc => hall c (by simp [hc])⟩

/-! ### The token -/

theorem accessClaims_times {now : Instant} {user : User} {jti : String} {adminToken : Bool} :
    Dict.times (accessClaims env now user jti adminToken) =
      some (now.timestamp, now.timestamp + accessExpiryMinutes env adminToken * 60) := by
  have hexp : Instant.timestamp (now + minutes (accessExpiryMinutes env adminToken)) =
      now.timestamp + accessExpiryMinutes env adminToken * 60 := by
    unfold Instant.timestamp minutes seconds
    omega
  show some (Int.toNat (now.timestamp : Int), Int.toNat (Instant.timestamp _ : Int)) = _
  rw [Int.toNat_natCast, Int.toNat_natCast, hexp]

private theorem accessClaims_userId {now : Instant} {user : User} {jti : String} {adminToken : Bool} :
    Json.get (accessClaims env now user jti adminToken) "user_id" = .str user.id.str := rfl

private theorem accessClaims_jti {now : Instant} {user : User} {jti : String} {adminToken : Bool} :
    Json.get (accessClaims env now user jti adminToken) "jti" = .str jti := rfl

/-- The claims of an issued token are rejected exactly when its `jti` finds a revoked session. -/
theorem currentUserOf_accessClaims {repr : Json → String} {now : Instant} {user u : User} {jti : String}
    {adminToken : Bool} (huser : db.users.find? user.id = some u) (hjti : jti ≠ "") :
    Rejects (currentUserOf repr db (accessClaims env now user jti adminToken)) ↔
      ∃ session, sessionOf db jti = some session ∧ session.revoked = true := by
  have hid : user.id.str ≠ "" := by
    intro hempty
    have hnone : Uuid.parse "" = none := by decide
    have hparse := Uuid.parse_str user.id
    rw [hempty, hnone] at hparse
    cases hparse
  have hidTruthy : Json.truthy (.str user.id.str) = true := by simp [Json.truthy, hid]
  have hjtiTruthy : Json.truthy (.str jti) = true := by simp [Json.truthy, hjti]
  have huserId : Json.toStr repr (.str user.id.str) = user.id.str := rfl
  unfold currentUserOf checkSession
  simp only [accessClaims_userId, accessClaims_jti, hidTruthy, hjtiTruthy, huserId, Uuid.parse_str, huser,
    Bool.not_true, Bool.false_eq_true, ↓reduceIte]
  cases hsession : sessionOf db jti with
  | none => simp [Rejects]
  | some session => cases hrev : session.revoked <;> simp [Rejects, hrev]

/-- For every access token that was issued for a login session, and every later state in which that session is
revoked: `get_current_user` rejects the token exactly when it is out of its validity period, or no later
request of the run issued a token of the same session. -/
theorem revoked_session_rejects_iff (repr : Json → String) (env : AuthEnv τ) (hjwt : env.jwt.Ideal)
    {s₀ s : AuthState} {tr pre post : List AuthStep} {a : AuthStep} (hrun : AuthRun env s₀ tr s)
    (htr : tr = pre ++ a :: post) {token : τ} {sid : Uuid} (htoken : issued (replyOf env a) = some token)
    (hsid : tokenSession env a = some sid) {row : LoginSession}
    (hrow : s.db.loginSessions.find? sid = some row) (hrevoked : row.revoked = true) (now : Instant) :
    Rejects (getCurrentUser repr s.db env.jwt env.settings now token) ↔
      ¬ LiveAt env a now ∨ ∀ b ∈ post, tokenSession env b ≠ some sid := by
  obtain ⟨hfresh, heffect⟩ := hrun.step htr
  rcases heffect.jtis hfresh.session with ⟨hnone, _⟩ | ⟨_, user, adminToken, hreply, huser, _⟩
  · rw [hnone] at htoken; cases htoken
  obtain ⟨u, hu, _⟩ := (hrun.tenancy_since (a := a) (by rw [htr]; simp)).users user.id user huser
  have hissued : token = buildAccessToken env a.label.draw.now user a.label.draw.jti adminToken := by
    rw [hreply] at htoken
    exact (Option.some.inj htoken).symm
  have htimes : Dict.times (accessClaims env a.label.draw.now user a.label.draw.jti adminToken) =
      some (a.label.draw.now.timestamp, a.label.draw.now.timestamp + expiresIn (replyOf env a)) := by
    rw [hreply]
    exact accessClaims_times
  have hkept := hrun.jti_kept_iff htr hsid
  unfold getCurrentUser
  rw [hissued]
  unfold buildAccessToken
  by_cases hlive : LiveAt env a now
  · rw [decodeTokenPayload_of_live hjwt htimes hlive.1 hlive.2, ok_bind,
      currentUserOf_accessClaims hu hfresh.jti_ne]
    simp only [hlive, not_true_eq_false, false_or]
    constructor
    · rintro ⟨session, hsession, _⟩
      by_contra hlater
      have hgone : sessionOf s.db a.label.draw.jti = none :=
        sessionOf_eq_none fun sid' hjti => hlater ((hkept sid').mp hjti).2
      rw [hgone] at hsession
      cases hsession
    · intro hlast
      have honly : ∀ sid', jtiOf s.db sid' = some a.label.draw.jti ↔ sid' = sid := fun sid' =>
        (hkept sid').trans (and_iff_left hlast)
      exact ⟨row, (sessionOf_eq_of_jtiOf honly).trans hrow, hrevoked⟩
  · have hrefused : ∃ detail, decodeTokenPayload env.jwt env.settings now (env.jwt.encode
          (accessClaims env a.label.draw.now user a.label.draw.jti adminToken)
          (if adminToken then env.settings.adminJwtSecret else env.settings.jwtSecret)) =
        .error (.http 401 detail) := decodeTokenPayload_of_not_live hjwt htimes hlive
    obtain ⟨detail, hdetail⟩ := hrefused
    rw [hdetail]
    exact ⟨fun _ => Or.inl hlive, fun _ => ⟨detail, rfl⟩⟩

end

/-! ### A refreshed session -/

namespace RefreshedSession

/-- Tokens that show their claims and the secret they were signed with. -/
def jwt : Jwt (Dict × String) where
  encode := Prod.mk
  decode := fun token secret now =>
    if token.2 ≠ secret then .invalid
    else match token.1.times with
      | none => .payload token.1
      | some (iat, exp) =>
        if now < seconds iat then .invalid else if now < seconds exp then .payload token.1 else .expired

theorem jwt_ideal : jwt.Ideal where
  wrong_secret := by
    intro claims secret secret' now hne
    simp [jwt, Ne.symm hne]
  immature := by
    intro claims secret now iat exp htimes hnow
    simp [jwt, htimes, hnow]
  expired := by
    intro claims secret now iat exp htimes hiat hexp
    simp [jwt, htimes, Nat.not_lt.mpr hiat, Nat.not_lt.mpr hexp]
  valid := by
    intro claims secret now iat exp htimes hiat hexp
    simp [jwt, htimes, Nat.not_lt.mpr hiat, hexp]

def env : AuthEnv (Dict × String) := .sample jwt

def noRepr : Json → String := fun _ => ""

/-- Alice signs up, her session is refreshed, and she revokes it. -/
def calls : List AuthCall :=
  [⟨.signup ⟨"alice@example.com", "Passw0rd", none, none, .OWNER, .unknown⟩, .numbered 1⟩,
    ⟨.refreshAccessToken "refresh-1" none, .numbered 2⟩,
    ⟨.revokeSession (.ofNat 201) (Uuid.ofNat 301).str, .numbered 3⟩]

/-- The session of the first call is revoked in the end, and `get_current_user` lets its token in. -/
def letsIn (r : List AuthStep × AuthState) : Bool :=
  match r.1 with
  | [a, _, _] =>
    tokenSession env a == some (.ofNat 301) && (r.2.db.loginSessions.find? (.ofNat 301)).any (·.revoked) &&
      (issued (replyOf env a)).any fun token =>
        (getCurrentUser noRepr r.2.db env.jwt env.settings 0 token).isOk
  | _ => false

private theorem calls_run : ∃ tr s, AuthRun env .fresh tr s ∧ ∃ a b c token row, tr = [a, b, c] ∧
    issued (replyOf env a) = some token ∧ tokenSession env a = some (.ofNat 301) ∧
    s.db.loginSessions.find? (.ofNat 301) = some row ∧ row.revoked = true ∧
    ∃ user, getCurrentUser noRepr s.db env.jwt env.settings 0 token = .ok user := by
  have hreplay : (Run.replay (serveCall env) FreshDraw .fresh calls).map letsIn = some true := by
    decide +kernel
  obtain ⟨tr, s, hrun, hcheck⟩ := Run.exists_of_replay hreplay
  unfold letsIn at hcheck
  dsimp only at hcheck
  split at hcheck
  · rename_i a b c
    simp only [Bool.and_eq_true, beq_iff_eq, Option.any_eq_true] at hcheck
    obtain ⟨⟨hsid, row, hrow, hrevoked⟩, token, htoken, hok⟩ := hcheck
    refine ⟨_, s, hrun, a, b, c, token, row, rfl, htoken, hsid, hrow, hrevoked, ?_⟩
    cases hcurrent : getCurrentUser noRepr s.db env.jwt env.settings 0 token with
    | error e => rw [hcurrent] at hok; cases hok
    | ok user => exact ⟨user, rfl⟩
  · cases hcheck

/-- The token from before the refresh is let in after its session was revoked. -/
theorem old_token_survives_revocation :
    ∃ tr s, AuthRun env .fresh tr s ∧ ∃ a ∈ tr, ∃ token row, issued (replyOf env a) = some token ∧
      tokenSession env a = some (.ofNat 301) ∧ s.db.loginSessions.find? (.ofNat 301) = some row ∧
      row.revoked = true ∧ ¬ Rejects (getCurrentUser noRepr s.db env.jwt env.settings 0 token) := by
  obtain ⟨_, s, hrun, a, b, c, token, row, rfl, htoken, hsid, hrow, hrevoked, user, huser⟩ := calls_run
  refine ⟨_, s, hrun, a, by simp, token, row, htoken, hsid, hrow, hrevoked, ?_⟩
  rw [huser]
  rintro ⟨_, h⟩
  cases h

theorem calls_rejects_iff :
    ∃ tr s, AuthRun env .fresh tr s ∧ ∃ a b c token, tr = [a, b, c] ∧ issued (replyOf env a) = some token ∧
      (Rejects (getCurrentUser noRepr s.db env.jwt env.settings 0 token) ↔
        ¬ LiveAt env a 0 ∨ ∀ b' ∈ [b, c], tokenSession env b' ≠ some (.ofNat 301)) := by
  obtain ⟨_, s, hrun, a, b, c, token, row, rfl, htoken, hsid, hrow, hrevoked, _⟩ := calls_run
  have htr : [a, b, c] = [] ++ a :: [b, c] := rfl
  refine ⟨_, s, hrun, a, b, c, token, rfl, htoken, ?_⟩
  exact revoked_session_rejects_iff noRepr env jwt_ideal hrun htr htoken hsid hrow hrevoked 0

end RefreshedSession

end RatingLift
