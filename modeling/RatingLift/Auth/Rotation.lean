import RatingLift.Auth.RefreshRequests

/-!
# Rotation of refresh tokens

`refresh_access_token` finds the session of a token, checks it, and writes a new hash over the old one at the
commit; it takes no lock and does not compare what it overwrites.

* (`rotation_single_use_iff`) in an interleaving of refreshes, logouts, revocations and password resets, each
  token is exchanged at most once and none of a revoked session, exactly when every refresh finds the hash and
  the revoked flag of its session at its commit as it has loaded them;
* (`StolenToken.exchanged_twice`) two requests with one token that both select before they commit both
  succeed.
-/

namespace RatingLift

open Library

section

variable {τ : Type} {env : AuthEnv τ} {π : Type}

abbrev SessionStep (π : Type) := Step (Config π Db SessionLocal) (π × SessionAction)

/-- The token that an action exchanges and the session as it was loaded: a refresh commits. -/
def SessionAction.exchange : SessionAction → SessionLocal → Option (String × LoginSession)
  | .commit _, .rotating refreshToken _ _ session _ => some (refreshToken, session)
  | _, _ => none

def exchangeOf (c : Config π Db SessionLocal) (l : π × SessionAction) : Option (String × LoginSession) :=
  l.2.exchange (c.locals l.1)

/-- The tokens that were exchanged, in order. -/
def exchangedTokens (tr : List (SessionStep π)) : List String :=
  tr.filterMap fun x => (exchangeOf x.before x.label).map (·.1)

/-- Each token is exchanged at most once, and none after the revocation of its session was committed. -/
structure SingleUse (tr : List (SessionStep π)) : Prop where
  once : (exchangedTokens tr).Nodup
  unrevoked : ∀ x ∈ tr, ∀ refreshToken session, exchangeOf x.before x.label = some (refreshToken, session) →
    ∀ row, x.before.shared.loginSessions.find? session.id = some row → row.revoked = false

/-- When a step is the commit of a refresh, its session has the hash and the revoked flag that the request
loaded. -/
def RowUnchanged (c : Config π Db SessionLocal) (l : π × SessionAction) : Prop :=
  ∀ refreshToken session, exchangeOf c l = some (refreshToken, session) →
    ∃ row, c.shared.loginSessions.find? session.id = some row ∧
      row.refreshTokenHash = session.refreshTokenHash ∧ row.revoked = session.revoked

/-- The token that a step presents. -/
def presentedToken (x : SessionStep π) : Option String :=
  match x.label.2 with
  | .select (.refresh refreshToken _) _ => some refreshToken
  | _ => none

/-- What the commit of a refresh draws. -/
def SessionAction.newDraw : SessionAction → SessionLocal → Option AuthDraw
  | .commit draw, .rotating .. => some draw
  | _, _ => none

variable (env) in
/-- The token that a refresh hands out at its commit is new: no session has its hash, and nobody has presented
it. -/
def FreshToken (tr : List (SessionStep π)) (c : Config π Db SessionLocal) (l : π × SessionAction) : Prop :=
  ∀ draw ∈ l.2.newDraw (c.locals l.1),
    (∀ row ∈ c.shared.loginSessions.rows, row.refreshTokenHash ≠ some (env.sha256 draw.refreshToken)) ∧
      ∀ x ∈ tr, presentedToken x ≠ some draw.refreshToken

instance (env : AuthEnv τ) (tr : List (SessionStep π)) (c : Config π Db SessionLocal)
    (l : π × SessionAction) :
    Decidable (FreshToken env tr c l) :=
  inferInstanceAs (Decidable (∀ draw ∈ l.2.newDraw (c.locals l.1),
    (∀ row ∈ c.shared.loginSessions.rows, row.refreshTokenHash ≠ some (env.sha256 draw.refreshToken)) ∧
      ∀ x ∈ tr, presentedToken x ≠ some draw.refreshToken))

/-! ### Invariants -/

/-- The hash that a session has. -/
def hashOf (db : Db) (sid : Uuid) : Option String := (db.loginSessions.find? sid).bind (·.refreshTokenHash)

variable (env) in
/-- The hashes are different, and no session has the hash of an exchanged token. -/
structure HashesOk (tr : List (SessionStep π)) (db : Db) : Prop where
  unique : ∀ sid sid' hash, hashOf db sid = some hash → hashOf db sid' = some hash → sid = sid'
  spent : ∀ refreshToken ∈ exchangedTokens tr, (∃ x ∈ tr, presentedToken x = some refreshToken) ∧
    ∀ sid, hashOf db sid ≠ some (env.sha256 refreshToken)

variable (env) in
/-- A session that a refresh has found: it had the hash of the token, and still has it if the token was not
exchanged. -/
structure Found (tr : List (SessionStep π)) (db : Db) (refreshToken : String)
    (session : LoginSession) : Prop where
  hash : session.refreshTokenHash = some (env.sha256 refreshToken)
  unrevoked : session.revoked = false
  presented : ∃ x ∈ tr, presentedToken x = some refreshToken
  exists_row : ∃ row, db.loginSessions.find? session.id = some row
  current : hashOf db session.id = some (env.sha256 refreshToken) ∨ refreshToken ∈ exchangedTokens tr

variable (env) in
/-- What a refresh knows. -/
def RefreshOk (tr : List (SessionStep π)) (db : Db) : SessionLocal → Prop
  | .matched refreshToken _ _ session => Found env tr db refreshToken session
  | .rotating refreshToken _ _ session _ => Found env tr db refreshToken session
  | _ => True

variable {tr : List (SessionStep π)} {x : SessionStep π} {db db' : Db} {m : SessionLocal}
  {refreshToken : String}

theorem exchangedTokens_concat : exchangedTokens (tr ++ [x]) =
    exchangedTokens tr ++ ((exchangeOf x.before x.label).map (·.1)).toList := by
  unfold exchangedTokens
  rw [List.filterMap_append]
  cases h : exchangeOf x.before x.label <;> simp [h]

theorem exchangedTokens_of_none (h : exchangeOf x.before x.label = none) :
    exchangedTokens (tr ++ [x]) = exchangedTokens tr := by
  rw [exchangedTokens_concat, h]
  exact List.append_nil _

theorem exchangedTokens_of_some {session : LoginSession}
    (h : exchangeOf x.before x.label = some (refreshToken, session)) :
    exchangedTokens (tr ++ [x]) = exchangedTokens tr ++ [refreshToken] := by
  rw [exchangedTokens_concat, h]
  rfl

theorem SingleUse.of_concat (h : SingleUse (tr ++ [x])) : SingleUse tr where
  once := by
    have := h.once
    rw [exchangedTokens_concat] at this
    exact (List.nodup_append.mp this).1
  unrevoked y hy := h.unrevoked y (List.mem_append_left _ hy)

theorem singleUse_concat : SingleUse (tr ++ [x]) ↔ SingleUse tr ∧
    ∀ refreshToken session, exchangeOf x.before x.label = some (refreshToken, session) →
      refreshToken ∉ exchangedTokens tr ∧
        ∀ row, x.before.shared.loginSessions.find? session.id = some row → row.revoked = false := by
  constructor
  · intro h
    refine ⟨h.of_concat, ?_⟩
    intro refreshToken session hexchange
    have honce := h.once
    rw [exchangedTokens_of_some hexchange, List.nodup_append] at honce
    exact ⟨fun hmem => honce.2.2 _ hmem _ (List.mem_singleton.mpr rfl) rfl,
      h.unrevoked x (by simp) refreshToken session hexchange⟩
  · rintro ⟨h, hlast⟩
    cases hexchange : exchangeOf x.before x.label with
    | none =>
      refine ⟨by rw [exchangedTokens_of_none hexchange]; exact h.once, ?_⟩
      intro y hy
      rcases List.mem_append.mp hy with hy | hy
      · exact h.unrevoked y hy
      · rw [List.mem_singleton.mp hy, hexchange]
        rintro _ _ ⟨⟩
    | some exchanged =>
      obtain ⟨refreshToken, session⟩ := exchanged
      obtain ⟨hunspent, hunrevoked⟩ := hlast refreshToken session hexchange
      refine ⟨?_, fun y hy => ?_⟩
      · rw [exchangedTokens_of_some hexchange, List.nodup_append]
        refine ⟨h.once, List.nodup_singleton _, ?_⟩
        intro token htoken token' htoken' heq
        rw [heq, List.mem_singleton.mp htoken'] at htoken
        exact hunspent htoken
      · rcases List.mem_append.mp hy with hy | hy
        · exact h.unrevoked y hy
        · rw [List.mem_singleton.mp hy, hexchange]
          rintro _ _ ⟨⟩
          exact hunrevoked

theorem exchange_eq_some {a : SessionAction} {session : LoginSession}
    (h : a.exchange m = some (refreshToken, session)) :
    ∃ ipAddress now user, m = .rotating refreshToken ipAddress now session user := by
  unfold SessionAction.exchange at h
  split at h
  · rename_i ipAddress now _ user
    obtain ⟨rfl, rfl⟩ := Prod.mk.inj (Option.some.inj h)
    exact ⟨ipAddress, now, user, rfl⟩
  · cases h

theorem Found.mono {session : LoginSession} (h : Found env tr db refreshToken session)
    (hrows : ∀ sid row, db.loginSessions.find? sid = some row →
      ∃ row', db'.loginSessions.find? sid = some row')
    (hhash : ∀ sid, hashOf db sid = some (env.sha256 refreshToken) →
      hashOf db' sid = some (env.sha256 refreshToken) ∨ refreshToken ∈ exchangedTokens (tr ++ [x])) :
    Found env (tr ++ [x]) db' refreshToken session where
  hash := h.hash
  unrevoked := h.unrevoked
  presented := by
    obtain ⟨y, hy, hpresented⟩ := h.presented
    exact ⟨y, List.mem_append_left _ hy, hpresented⟩
  exists_row := by
    obtain ⟨row, hrow⟩ := h.exists_row
    exact hrows _ _ hrow
  current := by
    rcases h.current with hcurrent | hspent
    · exact hhash _ hcurrent
    · rw [exchangedTokens_concat]
      exact Or.inr (List.mem_append_left _ hspent)

theorem RefreshOk.mono (h : RefreshOk env tr db m)
    (hrows : ∀ sid row, db.loginSessions.find? sid = some row →
      ∃ row', db'.loginSessions.find? sid = some row')
    (hhash : ∀ refreshToken sid, hashOf db sid = some (env.sha256 refreshToken) →
      hashOf db' sid = some (env.sha256 refreshToken) ∨ refreshToken ∈ exchangedTokens (tr ++ [x])) :
    RefreshOk env (tr ++ [x]) db' m := by
  cases m with
  | matched refreshToken ipAddress now session => exact Found.mono h hrows (hhash refreshToken)
  | rotating refreshToken ipAddress now session user => exact Found.mono h hrows (hhash refreshToken)
  | _ => trivial

/-- A step that exchanges nothing and leaves every hash. -/
theorem HashesOk.mono (h : HashesOk env tr db) (hnone : exchangeOf x.before x.label = none)
    (hhash : ∀ sid, hashOf db' sid = hashOf db sid) : HashesOk env (tr ++ [x]) db' where
  unique sid sid' hash hsid hsid' :=
    h.unique sid sid' hash ((hhash sid).symm.trans hsid) ((hhash sid').symm.trans hsid')
  spent refreshToken htoken := by
    rw [exchangedTokens_of_none hnone] at htoken
    obtain ⟨⟨y, hy, hpresented⟩, hspent⟩ := h.spent refreshToken htoken
    exact ⟨⟨y, List.mem_append_left _ hy, hpresented⟩, fun sid => by rw [hhash]; exact hspent sid⟩

variable {c : Config π Db SessionLocal} {p : π}

/-- The commit of a refresh that finds the hash it has loaded. -/
theorem HashesOk.rotate (h : HashesOk env tr db) (hinjective : Function.Injective env.sha256)
    {session row written : LoginSession} {newToken : String} (hfound : Found env tr db refreshToken session)
    (hexchange : exchangeOf x.before x.label = some (refreshToken, session))
    (hrow : db.loginSessions.find? session.id = some row)
    (hsame : row.refreshTokenHash = session.refreshTokenHash)
    (hwritten : written.refreshTokenHash = some (env.sha256 newToken))
    (hunused : ∀ row ∈ db.loginSessions.rows, row.refreshTokenHash ≠ some (env.sha256 newToken))
    (hunpresented : ∀ x ∈ tr, presentedToken x ≠ some newToken) :
    HashesOk env (tr ++ [x]) (flushSession db session written) ∧
      ∀ token sid, hashOf db sid = some (env.sha256 token) →
        hashOf (flushSession db session written) sid = some (env.sha256 token) ∨
        token ∈ exchangedTokens (tr ++ [x]) := by
  have hnew : ∀ sid, hashOf db sid ≠ some (env.sha256 newToken) := by
    intro sid heq
    obtain ⟨r, hr, hhash⟩ := Option.bind_eq_some_iff.mp heq
    exact hunused r (Table.find?_some hr).1 hhash
  have hold : hashOf db session.id = some (env.sha256 refreshToken) := by
    unfold hashOf
    rw [hrow, Option.bind_some, hsame, hfound.hash]
  have hafter : ∀ sid, hashOf (flushSession db session written) sid =
      if sid = session.id then some (env.sha256 newToken) else hashOf db sid := by
    intro sid
    unfold hashOf
    rw [flushSession_find]
    by_cases hsid : sid = session.id
    · have hchanged : written.refreshTokenHash ≠ session.refreshTokenHash := by
        rw [hwritten, hfound.hash, ← hold]
        exact (hnew session.id).symm
      rw [if_pos hsid, if_pos hsid, hsid, hrow]
      show flushColumn session.refreshTokenHash written.refreshTokenHash row.refreshTokenHash = _
      unfold flushColumn
      rw [if_neg hchanged, hwritten]
    · rw [if_neg hsid, if_neg hsid]
  have htokens : exchangedTokens (tr ++ [x]) = exchangedTokens tr ++ [refreshToken] := by
    rw [exchangedTokens_concat, hexchange]
    rfl
  have hdifferent : ∀ token, (∃ y ∈ tr, presentedToken y = some token) →
      env.sha256 newToken ≠ env.sha256 token := by
    rintro token ⟨y, hy, hpresented⟩ heq
    exact hunpresented y hy (by rw [hinjective heq]; exact hpresented)
  refine ⟨⟨fun sid sid' hash hsid hsid' => ?_, fun token htoken => ?_⟩, fun token sid hsid => ?_⟩
  · rw [hafter] at hsid hsid'
    by_cases heq : sid = session.id <;> by_cases heq' : sid' = session.id
    · rw [heq, heq']
    · rw [if_pos heq] at hsid
      rw [if_neg heq', ← hsid] at hsid'
      exact absurd hsid' (hnew sid')
    · rw [if_pos heq'] at hsid'
      rw [if_neg heq, ← hsid'] at hsid
      exact absurd hsid (hnew sid)
    · rw [if_neg heq] at hsid
      rw [if_neg heq'] at hsid'
      exact h.unique sid sid' hash hsid hsid'
  · rw [htokens, List.mem_append, List.mem_singleton] at htoken
    have hpresented : ∃ y ∈ tr, presentedToken y = some token := by
      rcases htoken with hspent | rfl
      · exact (h.spent token hspent).1
      · exact hfound.presented
    refine ⟨?_, fun sid heq => ?_⟩
    · obtain ⟨y, hy, hy'⟩ := hpresented
      exact ⟨y, List.mem_append_left _ hy, hy'⟩
    · rw [hafter] at heq
      split at heq
      · exact hdifferent token hpresented (Option.some.inj heq)
      · rename_i hother
        rcases htoken with hspent | rfl
        · exact (h.spent token hspent).2 sid heq
        · exact hother (h.unique sid session.id _ heq hold)
  · by_cases heq : sid = session.id
    · rw [heq, hold] at hsid
      rw [htokens, hinjective (Option.some.inj hsid)]
      exact Or.inr (List.mem_append_right _ (List.mem_singleton.mpr rfl))
    · rw [hafter, if_neg heq]
      exact Or.inl hsid

theorem hashOf_revoke {session : LoginSession} (sid : Uuid) :
    hashOf (flushSession db session { session with revoked := true }) sid = hashOf db sid := by
  unfold hashOf
  rw [flushSession_find]
  split
  · cases db.loginSessions.find? sid with
    | none => rfl
    | some row => exact flushColumn_same ..
  · rfl

theorem hashOf_revokeAll {userId : Uuid} (sid : Uuid) : hashOf (revokeAll db userId) sid = hashOf db sid := by
  unfold hashOf
  rw [revokeAll_find]
  cases db.loginSessions.find? sid <;> rfl

theorem flushSession_rows {loaded written : LoginSession} (sid : Uuid) (row : LoginSession)
    (h : db.loginSessions.find? sid = some row) :
    ∃ row', (flushSession db loaded written).loginSessions.find? sid = some row' := by
  rw [flushSession_find, h]
  split
  · exact ⟨_, rfl⟩
  · exact ⟨_, rfl⟩

theorem refreshableSession_found {now : Instant} {session : LoginSession}
    (h : refreshableSession env db now refreshToken = some session)
    (hpresented : ∃ y ∈ tr, presentedToken y = some refreshToken) : Found env tr db refreshToken session := by
  obtain ⟨hfirst, hvalid⟩ := Option.filter_eq_some_iff.mp h
  obtain ⟨hmem, hhash⟩ := Table.first_some hfirst
  have hstored : db.loginSessions.find? session.id = some session := Table.mem_iff_find?.mp hmem
  have hhash : session.refreshTokenHash = some (env.sha256 refreshToken) := by simpa using hhash
  refine ⟨hhash, ?_, hpresented, ⟨session, hstored⟩, Or.inl ?_⟩
  · rw [Bool.and_eq_true] at hvalid
    simpa using hvalid.1
  · unfold hashOf
    rw [hstored, Option.bind_some, hhash]

variable [DecidableEq π]

/-- What a step keeps when it finds the row as it was loaded. -/
theorem sessionStep_keeps (hinjective : Function.Injective env.sha256) {a : SessionAction}
    (hhashes : HashesOk env tr c.shared) (hlocals : ∀ q, RefreshOk env tr c.shared (c.locals q))
    (hfresh : FreshToken env tr c (p, a)) (hrow : RowUnchanged c (p, a))
    (hprog : sessionProg env a (c.locals p) c.shared = some (m, db)) :
    HashesOk env (tr ++ [⟨c, (p, a), c.act p m db⟩]) db ∧
    RefreshOk env (tr ++ [⟨c, (p, a), c.act p m db⟩]) db m ∧
      ∀ q, q ≠ p → RefreshOk env (tr ++ [⟨c, (p, a), c.act p m db⟩]) db (c.locals q) := by
  have hown := hlocals p
  have hexchange : exchangeOf c (p, a) = a.exchange (c.locals p) := rfl
  have hnewToken : ∀ draw ∈ a.newDraw (c.locals p),
      (∀ row ∈ c.shared.loginSessions.rows, row.refreshTokenHash ≠ some (env.sha256 draw.refreshToken)) ∧
        ∀ x ∈ tr, presentedToken x ≠ some draw.refreshToken := hfresh
  generalize c.locals p = before at hprog hown hexchange hnewToken
  have kept : ∀ {m db}, (∀ sid row, c.shared.loginSessions.find? sid = some row →
      ∃ row', db.loginSessions.find? sid = some row') → (∀ sid, hashOf db sid = hashOf c.shared sid) →
      exchangeOf c (p, a) = none → RefreshOk env (tr ++ [⟨c, (p, a), c.act p m db⟩]) db m →
      HashesOk env (tr ++ [⟨c, (p, a), c.act p m db⟩]) db ∧
      RefreshOk env (tr ++ [⟨c, (p, a), c.act p m db⟩]) db m ∧
        ∀ q, q ≠ p → RefreshOk env (tr ++ [⟨c, (p, a), c.act p m db⟩]) db (c.locals q) :=
    fun hrows hhash hnone hnew => ⟨hhashes.mono hnone hhash, hnew, fun q _ =>
      (hlocals q).mono hrows fun _ sid h => Or.inl ((hhash sid).trans h)⟩
  have same : ∀ sid row, c.shared.loginSessions.find? sid = some row →
      ∃ row', c.shared.loginSessions.find? sid = some row' := fun _ row h => ⟨row, h⟩
  -- a step that only reads
  have quiet : ∀ {m₀}, some (m₀, c.shared) = some (m, db) → exchangeOf c (p, a) = none →
      RefreshOk env (tr ++ [⟨c, (p, a), c.act p m₀ c.shared⟩]) c.shared m₀ →
      HashesOk env (tr ++ [⟨c, (p, a), c.act p m db⟩]) db ∧
      RefreshOk env (tr ++ [⟨c, (p, a), c.act p m db⟩]) db m ∧
        ∀ q, q ≠ p → RefreshOk env (tr ++ [⟨c, (p, a), c.act p m db⟩]) db (c.locals q) := by
    intro m₀ hread hnone hnew
    obtain ⟨rfl, rfl⟩ := Prod.mk.inj (Option.some.inj hread)
    exact kept same (fun _ => rfl) hnone hnew
  unfold sessionProg at hprog
  split at hprog
  · -- a refresh selects the session
    rename_i refreshToken ipAddress now
    split at hprog
    · exact quiet hprog hexchange trivial
    · rename_i session hsession
      refine quiet hprog hexchange (refreshableSession_found hsession ?_)
      exact ⟨_, List.mem_append_right _ (List.mem_singleton.mpr rfl), rfl⟩
  · split at hprog
    · exact quiet hprog hexchange trivial
    · exact quiet hprog hexchange trivial
  · split at hprog
    · exact quiet hprog hexchange trivial
    · exact quiet hprog hexchange trivial
  · split at hprog
    · exact quiet hprog hexchange trivial
    · exact quiet hprog hexchange trivial
  · -- a refresh selects the user
    split at hprog
    · exact quiet hprog hexchange trivial
    · exact quiet hprog hexchange (Found.mono hown same fun _ h => Or.inl h)
  · split at hprog
    · exact quiet hprog hexchange trivial
    · exact quiet hprog hexchange trivial
  · -- a refresh commits
    rename_i draw refreshToken ipAddress now session user
    obtain ⟨rfl, rfl⟩ := Prod.mk.inj (Option.some.inj hprog)
    obtain ⟨row, hstored, hsame, _⟩ := hrow refreshToken session hexchange
    have hwritten : (rotate env { draw with now := now } session user ipAddress).refreshTokenHash =
        some (env.sha256 draw.refreshToken) := rfl
    have hexchange' : exchangeOf c (p, .commit draw) = some (refreshToken, session) := hexchange
    obtain ⟨hrotated, hothers⟩ := hhashes.rotate (x := ⟨c, (p, .commit draw), c.act p .done
        (flushSession c.shared session (rotate env { draw with now := now } session user ipAddress))⟩)
      hinjective hown hexchange' hstored hsame hwritten (hnewToken draw rfl).1 (hnewToken draw rfl).2
    exact ⟨hrotated, trivial, fun q _ => (hlocals q).mono (flushSession_rows) hothers⟩
  · obtain ⟨rfl, rfl⟩ := Prod.mk.inj (Option.some.inj hprog)
    exact kept flushSession_rows hashOf_revoke hexchange trivial
  · obtain ⟨rfl, rfl⟩ := Prod.mk.inj (Option.some.inj hprog)
    refine kept ?_ hashOf_revokeAll hexchange trivial
    intro sid row h
    rw [revokeAll_find, h]
    exact ⟨_, rfl⟩
  · cases hprog

/-! ### Runs -/

/-- In a run whose commits find the rows as they were loaded, the invariants hold. -/
theorem rotation_invariants (hinjective : Function.Injective env.sha256) {init : Config π Db SessionLocal}
    (hrun : Run (Config.step (sessionProg env)) (FreshToken env) init tr c)
    (hidle : ∀ p, init.locals p = .idle) (hunique : ∀ sid sid' hash, hashOf init.shared sid = some hash →
      hashOf init.shared sid' = some hash → sid = sid')
    (hrows : ∀ x ∈ tr, RowUnchanged x.before x.label) :
    HashesOk env tr c.shared ∧ ∀ q, RefreshOk env tr c.shared (c.locals q) := by
  have hstrict := Run.and_of_forall hrun hrows
  refine Config.invariant (I := fun tr c => HashesOk env tr c.shared) (L := RefreshOk env) ?_ ?_ ?_ hstrict
  · exact ⟨hunique, fun _ h => by cases h⟩
  · intro p
    rw [hidle]
    trivial
  · intro tr c p a m db hhashes hlocals hok hprog
    exact sessionStep_keeps hinjective hhashes hlocals hok.1 hok.2 hprog

/-- In every interleaving of the steps of any number of refreshes, logouts, revocations and password resets:
each token is exchanged at most once, and none after the revocation of its session was committed, exactly when
every refresh finds the hash and the revoked flag of its session at its commit as it has loaded them. -/
theorem rotation_single_use_iff (env : AuthEnv τ) (hinjective : Function.Injective env.sha256)
    {init c : Config π Db SessionLocal} {tr : List (SessionStep π)}
    (hrun : Run (Config.step (sessionProg env)) (FreshToken env) init tr c)
    (hidle : ∀ p, init.locals p = .idle) (hunique : ∀ sid sid' hash, hashOf init.shared sid = some hash →
      hashOf init.shared sid' = some hash → sid = sid') :
    SingleUse tr ↔ ∀ x ∈ tr, RowUnchanged x.before x.label := by
  refine Run.invariant (I := fun tr _ => SingleUse tr ↔ ∀ x ∈ tr, RowUnchanged x.before x.label) ?_ ?_ hrun
  · constructor
    · intro _ x hx
      cases hx
    · intro _
      exact ⟨List.nodup_nil, fun _ hx => by cases hx⟩
  intro tr c l c' hrun ih hfresh hnext
  have hlast : ∀ x : SessionStep π, (∀ y ∈ tr ++ [x], RowUnchanged y.before y.label) ↔
      (∀ y ∈ tr, RowUnchanged y.before y.label) ∧ RowUnchanged x.before x.label := by
    intro x
    simp [or_imp, forall_and]
  rw [singleUse_concat, hlast, ih]
  refine and_congr_right ?_
  intro hrows
  obtain ⟨hhashes, hlocals⟩ := rotation_invariants hinjective hrun hidle hunique hrows
  refine forall_congr' fun refreshToken => forall_congr' fun session => forall_congr' ?_
  intro hexchange
  have hfound : Found env tr c.shared refreshToken session := by
    obtain ⟨ipAddress, now, user, hlocal⟩ := exchange_eq_some hexchange
    have := hlocals l.1
    rw [hlocal] at this
    exact this
  obtain ⟨row, hrow⟩ := hfound.exists_row
  have hhash : hashOf c.shared session.id = row.refreshTokenHash := by
    unfold hashOf
    rw [hrow, Option.bind_some]
  constructor
  · rintro ⟨hunspent, hunrevoked⟩
    refine ⟨row, hrow, ?_, ?_⟩
    · rw [← hhash, hfound.current.resolve_right hunspent, hfound.hash]
    · rw [hunrevoked row hrow, hfound.unrevoked]
  · rintro ⟨row', hrow', hsame, hflag⟩
    obtain rfl : row' = row := Option.some.inj (hrow'.symm.trans hrow)
    refine ⟨fun hspent => ?_, fun row'' hrow'' => ?_⟩
    · refine (hhashes.spent refreshToken hspent).2 session.id ?_
      rw [hhash, hsame, hfound.hash]
    · obtain rfl : row'' = row' := Option.some.inj (hrow''.symm.trans hrow)
      rw [hflag, hfound.unrevoked]

end

/-! ### A token in two hands -/

namespace StolenToken

def env : AuthEnv String := .sample ⟨fun _ secret => secret, fun _ _ _ => .invalid⟩

def alice : User := newUser (.numbered 1) "alice@example.com" none "$2b$" .OWNER none false "password"

def session : LoginSession := newSession env (.numbered 1) alice .unknown false

/-- The requests that present a token. -/
inductive Holder where
  | first | second
deriving DecidableEq

/-- Alice has one session. -/
def start : Config Holder Db SessionLocal :=
  ⟨{ Db.empty with
      users := Table.empty.insert alice
      loginSessions := Table.empty.insert session }, fun _ => .idle⟩

def refresh (p : Holder) (refreshToken : String) : Holder × SessionAction :=
  (p, .select (.refresh refreshToken none) 0)

/-- Two requests present the token, and both have selected its session when the first one commits. -/
def race : List (Holder × SessionAction) :=
  [refresh .first "refresh-1", refresh .second "refresh-1", (.first, .selectNext), (.second, .selectNext),
    (.first, .commit (.numbered 2)), (.second, .commit (.numbered 3))]

/-- The second request presents the token that the first one got. -/
def relay : List (Holder × SessionAction) :=
  [refresh .first "refresh-1", (.first, .selectNext), (.first, .commit (.numbered 2)),
    refresh .second "refresh-2",
    (.second, .selectNext), (.second, .commit (.numbered 3))]

/-- The token is exchanged twice. -/
theorem exchanged_twice :
    ∃ tr c, Run (Config.step (sessionProg env)) (FreshToken env) start tr c ∧ ¬ SingleUse tr := by
  have hreplay : (Run.replay (Config.step (sessionProg env)) (FreshToken env) start race).map
      (fun r => exchangedTokens r.1 == ["refresh-1", "refresh-1"]) = some true := by decide +kernel
  obtain ⟨tr, c, hrun, htokens⟩ := Run.exists_of_replay hreplay
  refine ⟨tr, c, hrun, ?_⟩
  intro h
  have honce := h.once
  rw [beq_iff_eq.mp htokens] at honce
  revert honce
  decide

private theorem start_unique (sid sid' : Uuid) (hash : String) (h : hashOf start.shared sid = some hash)
    (h' : hashOf start.shared sid' = some hash) : sid = sid' := by
  have only : ∀ sid, hashOf start.shared sid = some hash → sid = session.id := by
    intro sid hsid
    obtain ⟨row, hrow, _⟩ := Option.bind_eq_some_iff.mp hsid
    obtain ⟨hmem, hkey⟩ := Table.find?_some hrow
    rcases Table.mem_of_mem_insert hmem with hempty | rfl
    · exact absurd hempty (Table.not_mem_empty row)
    · exact hkey.symm
  rw [only sid h, only sid' h']

theorem relay_single_use_iff :
    ∃ tr c, Run (Config.step (sessionProg env)) (FreshToken env) start tr c ∧
      exchangedTokens tr = ["refresh-1", "refresh-2"] ∧
      (SingleUse tr ↔ ∀ x ∈ tr, RowUnchanged x.before x.label) := by
  have hreplay : (Run.replay (Config.step (sessionProg env)) (FreshToken env) start relay).map
      (fun r => exchangedTokens r.1 == ["refresh-1", "refresh-2"]) = some true := by decide +kernel
  obtain ⟨tr, c, hrun, htokens⟩ := Run.exists_of_replay hreplay
  refine ⟨tr, c, hrun, beq_iff_eq.mp htokens, ?_⟩
  exact rotation_single_use_iff env Function.injective_id hrun (fun _ => rfl) start_unique

end StolenToken

end RatingLift
