import RatingLift.Platform.Runs
import RatingLift.Property.Search

/-!
# Accounts over runs of the platform

Only the routes of authentication and the bootstrap of a startup write users and sessions, so what they keep
is kept by every run of the platform:

* (`emails_canonical`) emails are stored lowered, and every spelling of one leads to its user;
* (`account_isolated`) the account of a user is left as it is while no request works for the user.
-/

namespace RatingLift

open Library Fallible

/-- Lowering a text twice is lowering it once. -/
def LowersOnce (lower : String → String) : Prop := ∀ text, lower (lower text) = lower text

def EmailsCanonical (lower : String → String) (db : Db) : Prop :=
  ∀ user ∈ db.users, lower user.email = user.email

section

variable {env : BackendEnv} {s s₀ : PlatformState} {draw : PlatformDraw} {ipAddress : Option String}
  {tr : List PlatformStep}

/-! ### Calls that leave the accounts alone -/

/-- The other routers write neither accounts nor one-time passwords. -/
theorem PlatformCall.next_accounts {call : PlatformCall} (hfresh : call.Fresh s.db draw)
    (hother : ∀ http, call ≠ .auth http) :
    (call.next env s draw ipAddress).db.accounts = s.db.accounts ∧
      (call.next env s draw ipAddress).auth.redis = s.auth.redis := by
  have hwrites :
      PlatformWrites env.connectors (call.domains env s.db draw) s.db (call.next env s draw ipAddress).db :=
    PlatformCall.next_writes hfresh
  cases call with
  | auth http => exact absurd rfl (hother http)
  | tenant request => exact ⟨hwrites.accounts id, rfl⟩
  | catalogue adminId route => exact ⟨hwrites.accounts (by simp [domains, catalogueDomains]), rfl⟩
  | manuallyBlockIp adminId payload => exact ⟨hwrites.accounts (by simp [domains, blockDomains]), rfl⟩
  | manuallyUnblockIp adminId address => exact ⟨hwrites.accounts (by simp [domains, blockDomains]), rfl⟩

/-! ### Emails -/

section

variable {τ : Type} {aenv : AuthEnv τ} {a : AuthState} {adraw : AuthDraw} {db : Db}

theorem emailClaim_lowered {lower : String → String} {claim : Json} {missing email : String}
    (h : emailClaim lower claim missing = .ok email) : ∃ text, email = lower text := by
  unfold emailClaim at h
  split at h
  · cases h
  split at h
  · cases h
    exact ⟨_, rfl⟩
  · cases h

/-- The email of a social profile is lowered. -/
theorem verifyOauthToken_lowered {lower : String → String} {reply : UserInfoReply} {provider : SocialProvider}
    {profile : SocialProfile} (h : verifyOauthToken lower reply provider = .ok profile) :
    ∃ text, profile.email = lower text := by
  cases provider with
  | GOOGLE =>
    obtain ⟨_, _, h⟩ := bind_eq_ok.mp h
    obtain ⟨email, hemail, h⟩ := bind_eq_ok.mp h
    obtain ⟨_, _, h⟩ := bind_eq_ok.mp h
    obtain ⟨_, _, h⟩ := bind_eq_ok.mp h
    obtain ⟨_, _, h⟩ := bind_eq_ok.mp h
    cases h
    exact emailClaim_lowered hemail
  | MICROSOFT =>
    obtain ⟨_, _, h⟩ := bind_eq_ok.mp h
    obtain ⟨email, hemail, h⟩ := bind_eq_ok.mp h
    obtain ⟨_, _, h⟩ := bind_eq_ok.mp h
    obtain ⟨_, _, h⟩ := bind_eq_ok.mp h
    cases h
    exact emailClaim_lowered hemail
  | FACEBOOK =>
    obtain ⟨_, _, h⟩ := bind_eq_ok.mp h
    obtain ⟨email, hemail, h⟩ := bind_eq_ok.mp h
    obtain ⟨_, _, h⟩ := bind_eq_ok.mp h
    obtain ⟨_, _, h⟩ := bind_eq_ok.mp h
    obtain ⟨_, _, h⟩ := bind_eq_ok.mp h
    cases h
    exact emailClaim_lowered hemail

/-- A new user has a lowered email. -/
theorem Created.email_lowered {req : AuthRequest} {row : User} (h : Created aenv a adraw req row) :
    ∃ text, row.email = aenv.lower text := by
  cases h with
  | signup tenantId _ => exact ⟨_, rfl⟩
  | social tenantId hprofile _ => exact verifyOauthToken_lowered hprofile
  | admin _ => exact ⟨_, rfl⟩

/-- No change of a row changes the email. -/
theorem RowChange.email_eq {user row : User} {req : AuthRequest}
    (h : RowChange aenv a adraw db user req row) :
    row.email = user.email := by
  have hclear : (clearLock user).email = user.email := by
    unfold clearLock
    split <;> rfl
  cases h with
  | failed _ =>
    unfold countFailure
    extract_lets counted
    split <;> exact hclear
  | challenged _ => exact hclear
  | channelAdded hchange => rcases channelChange_cases hchange with ⟨_, _, rfl⟩ | ⟨_, _, rfl⟩ <;> rfl
  | channelVerified _ => unfold markVerified; split <;> rfl
  | _ => rfl

theorem EmailsCanonical.serve {req : AuthRequest} (hlower : LowersOnce aenv.lower)
    (hfresh : a.db.users.Fresh adraw.userId) (h : EmailsCanonical aenv.lower a.db) :
    EmailsCanonical aenv.lower (req.serve aenv a adraw).1.db := by
  refine (serve_users aenv a adraw req hfresh).forall_users hfresh ?_ ?_ h
  · intro row hcreated
    obtain ⟨text, htext⟩ := hcreated.email_lowered
    rw [htext, hlower]
  · intro user row _ hchange huser
    rw [hchange.email_eq]
    exact huser

theorem EmailsCanonical.seedAdmins (hlower : LowersOnce aenv.lower) (fault : AdminSeed → Option SeedFault)
    (entries : List (AdminSeed × AuthDraw)) (h : EmailsCanonical aenv.lower db) :
    EmailsCanonical aenv.lower (seedAdminsUntil aenv fault [] db entries).1 := by
  rw [seedAdminsUntil_eq]
  refine ensureAll_keeps (P := EmailsCanonical aenv.lower) ?_ h
  intro db₁ x db₂ _ hstep hcanonical
  obtain ⟨_, rfl⟩ := seedAdmin_ok hstep
  rcases seedOne_cases aenv db₁ x.2 x.1 with ⟨_, hsame⟩ | ⟨_, _, hsame⟩
    | ⟨_, _, admin, row, _, hemail, hadded⟩
  · rw [hsame]
    exact hcanonical
  · rw [hsame]
    exact hcanonical
  · rw [hadded]
    intro user huser
    rcases Table.mem_of_mem_insert huser with hold | rfl
    · exact hcanonical user hold
    · rw [hemail]
      exact hlower _

end

theorem EmailsCanonical.step {event : PlatformEvent} (hlower : LowersOnce env.routes.auth.lower)
    (hfresh : event.Fresh env s) (h : EmailsCanonical env.routes.auth.lower s.db) :
    EmailsCanonical env.routes.auth.lower (event.next env s).db := by
  cases event with
  | startup fault entries id =>
    have hadmins := EmailsCanonical.seedAdmins hlower fault entries h
    show EmailsCanonical _ (runSeeders env.routes.auth fault env.connectors s.db entries id)
    rcases runSeeders_either fault entries id with hsame | hseeded
    · rw [hsame]
      exact hadmins
    · have honly := seedConnectors_only hseeded
      unfold EmailsCanonical
      rw [honly]
      exact hadmins
  | request http draw =>
    unfold PlatformEvent.next
    dsimp only
    split
    · exact h
    rename_i call hcall
    have hnew := hfresh call hcall
    by_cases hother : ∀ http, call ≠ .auth http
    · have husers : (call.next env s draw (clientIp http.request)).db.users = s.db.users :=
        congrArg (fun x => x.2.1) (PlatformCall.next_accounts hnew hother).1
      unfold EmailsCanonical
      rw [husers]
      exact h
    · obtain ⟨authHttp, rfl⟩ := not_forall_not.mp hother
      show EmailsCanonical _ (authHttp.handle env.routes s.auth draw.auth).1.db
      rw [handle_state]
      cases authHttp.operation env.routes s.auth draw.auth with
      | none => exact h
      | some req => exact EmailsCanonical.serve hlower hnew.user h

/-- Over every run of the platform emails are stored lowered.  So two accounts never differ in the spelling
alone; every spelling of a stored email leads to its user, and a signup with one is refused and leaves
everything as it is. -/
theorem emails_canonical (hrun : PlatformRun env s₀ tr s) (hlower : LowersOnce env.routes.auth.lower)
    (hsound : Sound env.connectors s₀.db) (hstart : EmailsCanonical env.routes.auth.lower s₀.db) :
    EmailsCanonical env.routes.auth.lower s.db ∧
      ∀ user ∈ s.db.users, ∀ email, env.routes.auth.lower email = env.routes.auth.lower user.email →
        getUserByEmail env.routes.auth s.db email = some user ∧
          ∀ draw req, req.email = email →
            signup env.routes.auth s.auth draw req = (s.auth, .error (.http 409 "Email already exists")) := by
  have hcanonical : EmailsCanonical env.routes.auth.lower s.db := by
    refine hrun.invariant (I := fun _ s => EmailsCanonical env.routes.auth.lower s.db) hstart ?_
    intro _ _ _ _ _ hs hfresh hnext
    cases hnext
    exact hs.step hlower hfresh
  have hunique : s.db.users.UniqueOn fun u => some u.email :=
    (hrun.writes (P := Sound env.connectors) (fun _ _ _ hwrites h => hwrites.sound h) hsound).emails
  refine ⟨hcanonical, ?_⟩
  intro user huser email hemail
  rw [hcanonical user huser] at hemail
  have hfound : getUserByEmail env.routes.auth s.db email = some user := by
    cases hfind : getUserByEmail env.routes.auth s.db email with
    | none =>
      have hmissing := Table.first_eq_none.mp hfind user huser
      simp [hemail] at hmissing
    | some other =>
      obtain ⟨hmem, hother⟩ := Table.first_some hfind
      have hsame : other.email = user.email := by simpa [hemail] using hother
      rw [hunique other hmem user huser user.email (congrArg some hsame) rfl]
  refine ⟨hfound, ?_⟩
  rintro draw req rfl
  unfold signup
  rw [show getUserByEmail env.routes.auth s.auth.db req.email = some user from hfound]

/-! ### The account of one user -/

/-- The user whom an event works for. -/
def PlatformEvent.subject (env : BackendEnv) (s : PlatformState) : PlatformEvent → Option Uuid
  | startup _ _ _ => none
  | request http draw =>
    match http.call env s draw.auth with
    | .ok (.auth authHttp) => (authHttp.operation env.routes s.auth draw.auth).bind fun req =>
        req.subject env.routes.auth s.auth draw.auth
    | _ => none

/-- The seeders leave the stored accounts as they are. -/
theorem SeedFrame.untouched {a : AuthState} {db : Db} {id : Uuid} (h : SeedFrame a.db db)
    (hid : (a.db.users.find? id).isSome = true) : Untouched id a { a with db := db } := by
  obtain ⟨user, huser⟩ := Option.isSome_iff_exists.mp hid
  obtain ⟨hmem, hkey⟩ := Table.find?_some huser
  refine ⟨⟨?_, ?_⟩, fun _ => rfl⟩
  · rw [huser]
    exact Table.find?_eq_some.mpr ⟨h.users.subset hmem, hkey⟩
  · have hsessions := congrArg Db.loginSessions h.others
    exact congrArg (fun t => Table.restrict t fun r => r.userId == id) hsessions

theorem runSeeders_frame {τ : Type} {aenv : AuthEnv τ} {cenv : ConnectorEnv} {db : Db}
    (fault : AdminSeed → Option SeedFault) (entries : List (AdminSeed × AuthDraw)) (id : Nat → Uuid) :
    SeedFrame db (runSeeders aenv fault cenv db entries id) := by
  have hadmins : SeedFrame db (seedAdminsUntil aenv fault [] db entries).1 := seedAdminsUntil_frame []
  rcases runSeeders_either fault entries id with hsame | hseeded
  · rw [hsame]
    exact hadmins
  · refine seedConnectors_keeps (P := SeedFrame db) ?_ hseeded hadmins
    exact fun _ _ _ _ _ hstep h => h.trans (seedConnector_frame hstep)

/-- An event leaves the account of another user as it is. -/
theorem PlatformEvent.next_untouched {event : PlatformEvent} {id : Uuid} (hfresh : event.Fresh env s)
    (hid : (s.db.users.find? id).isSome = true) (hother : event.subject env s ≠ some id) :
    Untouched id s.auth (event.next env s).auth := by
  cases event with
  | startup fault entries k => exact (runSeeders_frame fault entries k).untouched hid
  | request http draw =>
    unfold PlatformEvent.next
    unfold PlatformEvent.subject at hother
    dsimp only at hother ⊢
    split
    · exact .refl s.auth
    rename_i call hcall
    rw [hcall] at hother
    have hnew := hfresh call hcall
    by_cases hauth : ∀ authHttp, call ≠ .auth authHttp
    · have hkept : (call.next env s draw (clientIp http.request)).db.accounts = s.db.accounts ∧
          (call.next env s draw (clientIp http.request)).auth.redis = s.auth.redis :=
        PlatformCall.next_accounts hnew hauth
      obtain ⟨haccounts, hredis⟩ := hkept
      refine ⟨⟨?_, ?_⟩, ?_⟩
      · exact congrArg (fun x => x.2.1.find? id) haccounts
      · exact congrArg (fun x => Table.restrict x.2.2 fun r => r.userId == id) haccounts
      · exact fun purpose => congrFun hredis _
    · obtain ⟨authHttp, rfl⟩ := not_forall_not.mp hauth
      show Untouched id s.auth (authHttp.handle env.routes s.auth draw.auth).1
      rw [handle_state]
      dsimp only at hother
      cases hreq : authHttp.operation env.routes s.auth draw.auth with
      | none => exact .refl s.auth
      | some req =>
        rw [hreq] at hother
        exact serve_untouched hnew.user hnew.session hid hother

/-- In every run of the platform the account of a user is left as it is, the row, the login sessions and the
one-time passwords, as long as no request works for the user. -/
theorem account_isolated (hrun : PlatformRun env s₀ tr s) {id : Uuid}
    (huser : (s₀.db.users.find? id).isSome = true)
    (hothers : ∀ x ∈ tr, x.label.subject env x.before ≠ some id) : Untouched id s₀.auth s.auth := by
  induction hrun with
  | nil => exact .refl s₀.auth
  | @snoc tr t t' event _ hfresh hnext ih =>
    obtain rfl : event.next env t = t' := Option.some.inj hnext
    have hbefore : Untouched id s₀.auth t.auth := ih fun x hx => hothers x (List.mem_append_left _ hx)
    have hid : (t.db.users.find? id).isSome = true := by
      have hrow : t.db.users.find? id = s₀.db.users.find? id := hbefore.account.row
      rw [hrow]
      exact huser
    exact hbefore.trans
      (PlatformEvent.next_untouched hfresh hid (hothers ⟨t, event, event.next env t⟩ (by simp)))

end

/-! ### A day without the first administrator -/

namespace SamplePlatform

theorem lowers_once : LowersOnce env.routes.auth.lower := by
  intro text
  show Py.asciiLower (Py.asciiLower text) = Py.asciiLower text
  unfold Py.asciiLower
  rw [String.toList_ofList, List.map_map]
  refine congrArg String.ofList (List.map_congr_left ?_)
  exact fun c _ => PlaceSearch.toLower_toLower c

theorem day_emails :
    ∃ s : PlatformState, summary s.db = evening ∧ EmailsCanonical env.routes.auth.lower s.db := by
  obtain ⟨_, s, hrun, hs⟩ := day_run
  have hnobody : EmailsCanonical env.routes.auth.lower empty.db :=
    fun user huser => absurd huser (Table.not_mem_empty user)
  exact ⟨s, hs, (emails_canonical hrun lowers_once (.empty _) hnobody).1⟩

theorem root_untouched : ∃ tr s, PlatformRun env (startup.next env empty) tr s ∧ tr.length = 4 ∧
    Untouched (.ofNat 201) (startup.next env empty).auth s.auth := by
  have hreplay : (Run.replay (fun s (event : PlatformEvent) => some (event.next env s))
      (fun _ s event => event.Fresh env s)
      (startup.next env empty) day.tail).map
      (fun r => decide (r.1.length = 4 ∧ ∀ x ∈ r.1, x.label.subject env x.before ≠ some (.ofNat 201))) =
        some true := by
    decide +kernel
  have hroot : (((startup.next env empty).db.users.find? (.ofNat 201)).isSome) = true := by decide +kernel
  obtain ⟨tr, s, hrun, hcheck⟩ := Run.exists_of_replay hreplay
  obtain ⟨hlength, hothers⟩ := of_decide_eq_true hcheck
  exact ⟨tr, s, hrun, hlength, account_isolated hrun hroot hothers⟩

end SamplePlatform

end RatingLift
