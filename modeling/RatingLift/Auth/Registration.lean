import RatingLift.Auth.Effects

/-!
# Tenants of self-service registrations

A registration that names no tenant gets the tenant of a name made from the email: `_get_or_create_tenant`
looks that name up first, so that the loop which is to find an unused name never runs a second round
(`freeCandidate_of_unused`), and takes the tenant it finds.

* (`getOrCreateTenant_spec`) the tenant has the requested name, and is an old one exactly when an old one has
  that name;
* (`registrations_separated_iff`) in every run two such registrations end up in different tenants exactly when
  their default names differ, and a registration ends up in an existing tenant exactly when one has its
  default name;
* (`SharedInbox.strangers_share_a_tenant`) the emails `info@acme.com` and `info@globex.com` have the same
  default name.
-/

namespace RatingLift

open Library Fallible

section

variable {τ : Type} (env : AuthEnv τ)

/-- The name that a registration without a tenant name asks for. -/
def defaultTenantName (email : String) : String := requestedName env none email

/-- The email of a registration that named no tenant: a signup, or the first social login of an unknown
email. -/
def registration (step : AuthStep) : Option String :=
  match step.label.request, replyOf env step with
  | .signup req, .ok _ => if req.tenantName.any (· ≠ "") then none else some req.email
  | .loginWithSocialProvider req, .ok _ =>
    match verifyOauthToken env.lower req.reply req.provider with
    | .error _ => none
    | .ok profile =>
      if (getUserByEmail env step.before.db profile.email).isSome then none else some profile.email
  | _, _ => none

/-- The `tenant_id` of a user. -/
def tenantOf (db : Db) (userId : Uuid) : Option Uuid := (db.users.find? userId).bind (·.tenantId)

variable {env} {db db' : Db} {draw : AuthDraw}

/-- The loop stops at the requested name, because the lookup before it has found no tenant of that name. -/
theorem freeCandidate_of_unused {requested : String} {fuel suffix : Nat}
    (h : tenantNamed db requested = none) :
    freeCandidate db requested (fuel + 1) suffix requested = requested := by
  unfold freeCandidate
  simp [h]

theorem requestedName_of_unnamed {tenantName : Option String} {email : String}
    (h : tenantName.any (· ≠ "") = false) :
    requestedName env tenantName email = defaultTenantName env email := by
  unfold defaultTenantName requestedName
  cases tenantName with
  | none => rfl
  | some name =>
    have hempty : name = "" := by simpa using h
    subst hempty
    rfl

/-- The tenant has the requested name, and it is an old one exactly when an old one has that name. -/
theorem getOrCreateTenant_spec {tenantName : Option String} {email : String}
    (hfresh : db.tenants.Fresh draw.tenantId) :
    tenantNamed (getOrCreateTenant env db draw tenantName email).2 (requestedName env tenantName email) =
        some (getOrCreateTenant env db draw tenantName email).1 ∧
      ((∃ t ∈ db.tenants, t.id = (getOrCreateTenant env db draw tenantName email).1.id) ↔
        ∃ t ∈ db.tenants, t.name = requestedName env tenantName email) := by
  unfold getOrCreateTenant
  extract_lets requested tenant
  cases hfound : tenantNamed db requested with
  | some t =>
    obtain ⟨ht, hname⟩ := Table.first_some hfound
    exact ⟨hfound, fun _ => ⟨t, ht, by simpa using hname⟩, fun _ => ⟨t, ht, rfl⟩⟩
  | none =>
    have hunused := Table.first_eq_none.mp hfound
    have hname : tenant.name = requested := freeCandidate_of_unused hfound
    refine ⟨?_, ?_, ?_⟩
    · show (db.tenants.insert tenant).first (fun t => t.name == requested) = some tenant
      refine Table.first_eq_some_of_unique ((Table.mem_insert hfresh).mpr (Or.inr rfl)) (by simp [hname]) ?_
      intro t ht hnamed
      rcases (Table.mem_insert hfresh).mp ht with hold | hnew
      · rw [hunused t hold] at hnamed; cases hnamed
      · exact hnew
    · rintro ⟨t, ht, hid⟩
      exact absurd hid (hfresh t ht)
    · rintro ⟨t, ht, hnamed⟩
      have := hunused t ht
      rw [hnamed] at this
      simp [requested] at this

/-- A tenant found by its name is found as long as tenants are only added. -/
theorem TenancyKept.tenantNamed (h : TenancyKept db db') {name : String} {t : Tenant}
    (ht : tenantNamed db name = some t) : RatingLift.tenantNamed db' name = some t := by
  obtain ⟨new, hnew⟩ := h.tenants
  unfold RatingLift.tenantNamed Table.first at ht ⊢
  rw [hnew, List.find?_append, ht, Option.some_or]

theorem TenancyKept.tenantOf (h : TenancyKept db db') {userId tenantId : Uuid}
    (ht : tenantOf db userId = some tenantId) : RatingLift.tenantOf db' userId = some tenantId := by
  obtain ⟨u, hu, htenant⟩ := Option.bind_eq_some_iff.mp ht
  obtain ⟨u', hu', hkept⟩ := h.users userId u hu
  exact Option.bind_eq_some_iff.mpr ⟨u', hu', hkept tenantId htenant⟩

/-- A new user is stored with the tenant that was found or created. -/
theorem addUser_tenantOf {user : User} {t : Tenant} (hfresh : db.users.Fresh user.id)
    (ht : user.tenantId = some t.id) (h : addUser db user = .ok db') :
    tenantOf db' user.id = some t.id ∧ db'.tenants = db.tenants :=
  ⟨Option.bind_eq_some_iff.mpr ⟨user, addUser_find hfresh h, ht⟩, by rw [addUser_ok h]⟩

variable {s : AuthState}

theorem signup_registers {req : SignupRequest} {response : AuthResponse τ}
    (hfresh : s.db.users.Fresh draw.userId) (h : (signup env s draw req).2 = .ok response) :
    tenantOf (signup env s draw req).1.db draw.userId =
        some (getOrCreateTenant env s.db draw req.tenantName req.email).1.id ∧
      (signup env s draw req).1.db.tenants =
        (getOrCreateTenant env s.db draw req.tenantName req.email).2.tenants := by
  have husers : (getOrCreateTenant env s.db draw req.tenantName req.email).2.users = s.db.users :=
    getOrCreateTenant_kept.2.2
  revert h
  unfold signup
  cases getUserByEmail env s.db req.email with
  | some _ => intro h; cases h
  | none =>
    generalize getOrCreateTenant env s.db draw req.tenantName req.email = created at husers ⊢
    obtain ⟨tenant, db₁⟩ := created
    dsimp only
    generalize huser : newUser draw (env.lower req.email) req.fullName
      (getPasswordHash env draw req.password) req.role
      (some tenant.id) false "password" = user
    have hid : user.id = draw.userId := by rw [← huser]; rfl
    have htenant : user.tenantId = some tenant.id := by rw [← huser]; rfl
    cases hadd : addUser db₁ user with
    | error e => intro h; cases h
    | ok db₂ =>
      intro _
      have hfresh₁ : db₁.users.Fresh user.id := by
        rw [hid, show db₁.users = s.db.users from husers]; exact hfresh
      obtain ⟨hstored, htenants⟩ := addUser_tenantOf hfresh₁ htenant hadd
      constructor
      · show (Table.find? (recordAuditLoginAttempt env _ _ _ _ _ _ _).users draw.userId).bind _ = _
        rw [recordAuditLoginAttempt_users, ← hid]
        exact hstored
      · refine (recordAuditLoginAttempt_tenants ..).trans htenants

theorem socialAccount_registers {provider : SocialProvider} {profile : SocialProfile} {user : User}
    (hfresh : db.users.Fresh draw.userId) (hunknown : getUserByEmail env db profile.email = none)
    (h : socialAccount env draw db provider profile = .ok (user, db')) :
    user.id = draw.userId ∧ user.tenantId = some (getOrCreateTenant env db draw none profile.email).1.id ∧
      db'.users.find? user.id = some user ∧
      db'.tenants = (getOrCreateTenant env db draw none profile.email).2.tenants := by
  have husers : (getOrCreateTenant env db draw none profile.email).2.users = db.users :=
    getOrCreateTenant_kept.2.2
  unfold socialAccount at h
  rw [hunknown] at h
  generalize getOrCreateTenant env db draw none profile.email = created at husers h ⊢
  obtain ⟨tenant, db₁⟩ := created
  obtain ⟨db₂, hadd, h⟩ := bind_eq_ok.mp h
  obtain ⟨rfl, rfl⟩ := Prod.mk.inj (pure_eq_ok.mp h)
  have hfresh₁ : db₁.users.Fresh draw.userId := by rw [show db₁.users = db.users from husers]; exact hfresh
  exact ⟨rfl, rfl, addUser_find hfresh₁ hadd, by rw [addUser_ok hadd]⟩

theorem openSession_tenantOf {user : User} {client : ClientInfo} {adminToken : Bool} {email : String}
    (huser : db.users.find? user.id = some user) :
    tenantOf (openSession env s draw db user client adminToken email).1.db user.id = user.tenantId ∧
      (openSession env s draw db user client adminToken email).1.db.tenants = db.tenants := by
  constructor
  · show (Table.find? (recordAuditLoginAttempt env _ _ _ _ _ _ _).users user.id).bind _ = _
    rw [recordAuditLoginAttempt_users]
    have hstored : (db.users.update (resetFailedLogin user)).find? user.id = some (resetFailedLogin user) :=
      Table.find?_update_of_find? huser
    exact congrArg (Option.bind · (·.tenantId)) hstored
  · exact recordAuditLoginAttempt_tenants ..

theorem socialLogin_registers {req : SocialLoginRequest} {profile : SocialProfile} {response : AuthResponse τ}
    (hfresh : s.db.users.Fresh draw.userId)
    (hprofile : verifyOauthToken env.lower req.reply req.provider = .ok profile)
    (hunknown : getUserByEmail env s.db profile.email = none)
    (h : (loginWithSocialProvider env s draw req).2 = .ok response) :
    tenantOf (loginWithSocialProvider env s draw req).1.db draw.userId =
        some (getOrCreateTenant env s.db draw none profile.email).1.id ∧
      (loginWithSocialProvider env s draw req).1.db.tenants =
        (getOrCreateTenant env s.db draw none profile.email).2.tenants := by
  revert h
  unfold loginWithSocialProvider
  rw [hprofile]
  dsimp only
  cases haccount : socialAccount env draw s.db req.provider profile with
  | error e => intro h; cases h
  | ok account =>
    obtain ⟨user, db₁⟩ := account
    obtain ⟨hid, htenant, hstored, htenants⟩ := socialAccount_registers hfresh hunknown haccount
    intro _
    obtain ⟨hopened, hopenedTenants⟩ :
        tenantOf (openSession env s draw db₁ user req.client false user.email).1.db user.id = user.tenantId ∧
          (openSession env s draw db₁ user req.client false user.email).1.db.tenants = db₁.tenants :=
      openSession_tenantOf hstored
    exact ⟨by rw [← hid, ← htenant]; exact hopened, hopenedTenants.trans htenants⟩

/-- A registration is a successful signup that names no tenant or the successful first social login of an
email. -/
theorem registration_cases {step : AuthStep} {email : String} (hreg : registration env step = some email) :
    (∃ req response, step.label.request = .signup req ∧ req.tenantName.any (· ≠ "") = false ∧
      req.email = email ∧
        (signup env step.before step.label.draw req).2 = .ok response) ∨
      ∃ req profile response, step.label.request = .loginWithSocialProvider req ∧
        verifyOauthToken env.lower req.reply req.provider = .ok profile ∧
        getUserByEmail env step.before.db profile.email = none ∧ profile.email = email ∧
        (loginWithSocialProvider env step.before step.label.draw req).2 = .ok response := by
  unfold registration replyOf at hreg
  cases hreq : step.label.request with
  | signup req =>
    rw [hreq] at hreg
    cases hresult : (signup env step.before step.label.draw req).2 with
    | error e => simp [AuthRequest.serve, hresult, Except.map] at hreg
    | ok response =>
      simp only [AuthRequest.serve, Prod.map_snd, hresult, Except.map, Option.ite_none_left_eq_some,
        Bool.not_eq_true, Option.some.injEq] at hreg
      exact Or.inl ⟨req, response, rfl, hreg.1, hreg.2, hresult⟩
  | loginWithSocialProvider req =>
    rw [hreq] at hreg
    cases hresult : (loginWithSocialProvider env step.before step.label.draw req).2 with
    | error e => simp [AuthRequest.serve, hresult, Except.map] at hreg
    | ok response =>
      cases hprofile : verifyOauthToken env.lower req.reply req.provider with
      | error e => simp [AuthRequest.serve, hresult, Except.map, hprofile] at hreg
      | ok profile =>
        simp only [AuthRequest.serve, Prod.map_snd, hresult, Except.map, hprofile,
          Option.ite_none_left_eq_some, Option.not_isSome_iff_eq_none, Option.some.injEq] at hreg
        exact Or.inr ⟨req, profile, response, rfl, hprofile, hreg.1, hreg.2, hresult⟩
  | _ => rw [hreq] at hreg; simp at hreg

/-- What a registration leaves: its tenant is found under the default name and is the tenant of the new user,
and it is an old tenant exactly when an old tenant has that name. -/
theorem registration_spec {step : AuthStep} {email : String} (hreg : registration env step = some email)
    (htenantFresh : step.before.db.tenants.Fresh step.label.draw.tenantId)
    (huserFresh : step.before.db.users.Fresh step.label.draw.userId)
    (hafter : (step.label.request.serve env step.before step.label.draw).1 = step.after) :
    ∃ t : Tenant, tenantNamed step.after.db (defaultTenantName env email) = some t ∧
      tenantOf step.after.db step.label.draw.userId = some t.id ∧
      ((∃ t' ∈ step.before.db.tenants, t'.id = t.id) ↔
        ∃ t' ∈ step.before.db.tenants, t'.name = defaultTenantName env email) := by
  have conclude : ∀ tenantName, requestedName env tenantName email = defaultTenantName env email →
      tenantOf step.after.db step.label.draw.userId =
        some (getOrCreateTenant env step.before.db step.label.draw tenantName email).1.id →
      step.after.db.tenants =
        (getOrCreateTenant env step.before.db step.label.draw tenantName email).2.tenants →
      ∃ t : Tenant, tenantNamed step.after.db (defaultTenantName env email) = some t ∧
        tenantOf step.after.db step.label.draw.userId = some t.id ∧
        ((∃ t' ∈ step.before.db.tenants, t'.id = t.id) ↔
          ∃ t' ∈ step.before.db.tenants, t'.name = defaultTenantName env email) := by
    intro tenantName hname htenant htenants
    rw [← hname]
    obtain ⟨hnamed, hold⟩ := getOrCreateTenant_spec htenantFresh
    refine ⟨_, ?_, htenant, hold⟩
    unfold tenantNamed at hnamed ⊢
    rw [htenants]
    exact hnamed
  rcases registration_cases hreg with ⟨req, response, hreq, hunnamed, rfl, hresult⟩ |
    ⟨req, profile, response, hreq, hprofile, hunknown, rfl, hresult⟩
  · rw [hreq] at hafter
    obtain ⟨htenant, htenants⟩ := signup_registers huserFresh hresult
    refine conclude req.tenantName (requestedName_of_unnamed hunnamed) ?_ ?_
    · rw [← hafter]; exact htenant
    · rw [← hafter]; exact htenants
  · rw [hreq] at hafter
    obtain ⟨htenant, htenants⟩ := socialLogin_registers huserFresh hprofile hunknown hresult
    refine conclude none rfl ?_ ?_
    · rw [← hafter]; exact htenant
    · rw [← hafter]; exact htenants

/-! ### Runs -/

variable {s₀ : AuthState} {tr : List AuthStep}

/-- The registrations of a run at its end. -/
theorem AuthRun.registered (h : AuthRun env s₀ tr s) {a : AuthStep} (ha : a ∈ tr) {email : String}
    (hreg : registration env a = some email) :
    ∃ t : Tenant, tenantNamed s.db (defaultTenantName env email) = some t ∧
      tenantOf s.db a.label.draw.userId = some t.id ∧
      ((∃ t' ∈ a.before.db.tenants, t'.id = t.id) ↔
        ∃ t' ∈ a.before.db.tenants, t'.name = defaultTenantName env email) := by
  obtain ⟨pre, post, htr⟩ := List.append_of_mem ha
  obtain ⟨_, hfresh, hnext⟩ := Run.split h htr
  obtain ⟨t, hnamed, htenant, hold⟩ :=
    registration_spec hreg hfresh.tenant hfresh.user (Option.some.inj hnext)
  have hkept := h.tenancy_since ha
  exact ⟨t, hkept.tenantNamed hnamed, hkept.tenantOf htenant, hold⟩

/-- In every run, two registrations that named no tenant end up in different tenants exactly when their
default names differ; and a registration ends up in a tenant that existed before it exactly when one had its
default name. -/
theorem registrations_separated_iff (env : AuthEnv τ) {s₀ s : AuthState} {tr : List AuthStep}
    (hrun : AuthRun env s₀ tr s) {a b : AuthStep} (ha : a ∈ tr) (hb : b ∈ tr) {e₁ e₂ : String}
    (he₁ : registration env a = some e₁) (he₂ : registration env b = some e₂) :
    (tenantOf s.db a.label.draw.userId ≠ tenantOf s.db b.label.draw.userId ↔
        defaultTenantName env e₁ ≠ defaultTenantName env e₂) ∧
      ((∃ t ∈ a.before.db.tenants, tenantOf s.db a.label.draw.userId = some t.id) ↔
        ∃ t ∈ a.before.db.tenants, t.name = defaultTenantName env e₁) := by
  obtain ⟨t₁, hnamed₁, htenant₁, hold₁⟩ := hrun.registered ha he₁
  obtain ⟨t₂, hnamed₂, htenant₂, _⟩ := hrun.registered hb he₂
  constructor
  · rw [htenant₁, htenant₂, not_iff_not]
    constructor
    · intro heq
      have ht : t₁ = t₂ := Table.eq_of_key_eq (Table.first_some hnamed₁).1 (Table.first_some hnamed₂).1
        (Option.some.inj heq)
      have hname₁ : t₁.name = defaultTenantName env e₁ := by simpa using (Table.first_some hnamed₁).2
      have hname₂ : t₂.name = defaultTenantName env e₂ := by simpa using (Table.first_some hnamed₂).2
      rw [← hname₁, ← hname₂, ht]
    · intro heq
      rw [heq, hnamed₂] at hnamed₁
      rw [Option.some.inj hnamed₁]
  · rw [htenant₁, ← hold₁]
    exact exists_congr fun t =>
      and_congr_right fun _ => ⟨fun h => (Option.some.inj h).symm, fun h => by rw [h]⟩

end

/-! ### Two inboxes of the same name -/

namespace SharedInbox

def env : AuthEnv String := .sample ⟨fun _ secret => secret, fun _ _ _ => .invalid⟩

def signupOf (email : String) : AuthRequest := .signup ⟨email, "Passw0rd", none, none, .OWNER, .unknown⟩

/-- Two companies sign up with their `info` address. -/
def calls : List AuthCall :=
  [⟨signupOf "info@acme.com", .numbered 1⟩, ⟨signupOf "info@globex.com", .numbered 2⟩]

/-- The calls register the two addresses, in one tenant. -/
def sharesTenant (r : List AuthStep × AuthState) : Bool :=
  match r.1 with
  | [a, b] => registration env a == some "info@acme.com" && registration env b == some "info@globex.com" &&
      tenantOf r.2.db a.label.draw.userId == tenantOf r.2.db b.label.draw.userId
  | _ => false

private theorem calls_run : ∃ tr s, AuthRun env .fresh tr s ∧ ∃ a b, tr = [a, b] ∧
    registration env a = some "info@acme.com" ∧ registration env b = some "info@globex.com" ∧
    tenantOf s.db a.label.draw.userId = tenantOf s.db b.label.draw.userId := by
  have hreplay : (Run.replay (serveCall env) FreshDraw .fresh calls).map sharesTenant = some true := by
    decide +kernel
  obtain ⟨tr, s, hrun, hcheck⟩ := Run.exists_of_replay hreplay
  unfold sharesTenant at hcheck
  dsimp only at hcheck
  split at hcheck
  · rename_i a b
    simp only [Bool.and_eq_true, beq_iff_eq] at hcheck
    exact ⟨_, s, hrun, a, b, rfl, hcheck.1.1, hcheck.1.2, hcheck.2⟩
  · cases hcheck

/-- Both users end up in one tenant. -/
theorem strangers_share_a_tenant :
    ∃ tr s, AuthRun env .fresh tr s ∧ ∃ a ∈ tr, ∃ b ∈ tr,
      registration env a = some "info@acme.com" ∧ registration env b = some "info@globex.com" ∧
      ¬ tenantOf s.db a.label.draw.userId ≠ tenantOf s.db b.label.draw.userId := by
  obtain ⟨tr, s, hrun, a, b, rfl, ha, hb, hsame⟩ := calls_run
  exact ⟨_, s, hrun, a, by simp, b, by simp, ha, hb, not_not.mpr hsame⟩

theorem calls_separated_iff :
    ∃ tr s, AuthRun env .fresh tr s ∧ ∃ a ∈ tr, ∃ b ∈ tr,
      (tenantOf s.db a.label.draw.userId ≠ tenantOf s.db b.label.draw.userId ↔
        defaultTenantName env "info@acme.com" ≠ defaultTenantName env "info@globex.com") ∧
      ((∃ t ∈ a.before.db.tenants, tenantOf s.db a.label.draw.userId = some t.id) ↔
        ∃ t ∈ a.before.db.tenants, t.name = defaultTenantName env "info@acme.com") := by
  obtain ⟨tr, s, hrun, a, b, rfl, ha, hb, _⟩ := calls_run
  exact ⟨_, s, hrun, a, by simp, b, by simp, registrations_separated_iff env hrun (by simp) (by simp) ha hb⟩

end SharedInbox

end RatingLift
