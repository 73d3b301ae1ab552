import RatingLift.Auth.AccountWrites
import RatingLift.Auth.Bootstrap
import RatingLift.Auth.Roles
import RatingLift.Auth.Routes

/-!
# Runs of the authentication routes

A request to a route calls at most one operation of the service (`AuthHttp.operation`), with arguments that
have passed the schema and for the user whom the bearer token names; otherwise it leaves the state as it is
(`handle_state`).  So a run of requests is a run of the service (`ApiRun.service`), in which every operation
of a user was asked for with a token of that user, and every new administrator with a token of a
`SUPER_ADMIN`.
-/

namespace RatingLift

open Library

section

variable {τ : Type} (env : AuthRouteEnv τ) (s : AuthState) (draw : AuthDraw) (http : AuthHttp τ)

/-- The operation of the service that a request calls: none where it is refused and where it only reads. -/
def AuthHttp.operation : Option AuthRequest :=
  let user := (AuthRoutes.currentUser env s draw http).toOption
  let client := AuthRoutes.client http
  let body {α : Type} (parse : Dict → Parsed α) : Option α := (requiredBody http.body parse).toOption
  match http.path with
  | .signup => (body (SignupPayload.parse env.schemas)).map fun p =>
      .signup ⟨p.email, p.password, p.fullName, p.tenantName, p.role, client⟩
  | .login => (body (LoginPayload.parse env.schemas)).map fun p =>
    .loginWithPassword ⟨p.email, p.password, false, client⟩
  | .adminLogin => (body (LoginPayload.parse env.schemas)).map fun p =>
      .loginWithPassword ⟨p.email, p.password, true, client⟩
  | .verifyMfa => (body (MfaVerifyPayload.parse env.schemas)).map fun p =>
      .verifyMfaLogin ⟨p.email, p.otp, p.isAdminLogin, client⟩
  | .social provider => (body SocialLoginPayload.parse).map fun _ =>
    .loginWithSocialProvider ⟨provider, http.profile, client⟩
  | .createAdmin => (AuthRoutes.requireRole env s draw http [.SUPER_ADMIN]).toOption.bind fun actor =>
      (body (CreateAdminPayload.parse env.schemas)).map fun p =>
        .createAdmin actor.id p.email p.password p.fullName p.role
  | .addMfaChannel => user.bind fun user => (body (MfaChannelAddPayload.parse env.schemas)).map fun p =>
      .addMfaChannel user.id p.channel p.destination
  | .verifyMfaChannel => user.bind fun user => (body MfaChannelVerifyPayload.parse).map fun p =>
      .verifyMfaChannel user.id p.channel p.otp
  | .enableMfa => user.bind fun user => (optionalBody http.body fun _ => Except.ok ()).toOption.map fun _ =>
      .enableMfa user.id
  | .disableMfa => user.bind fun user => some (.disableMfa user.id)
  | .passwordForgot => (body (PasswordForgotPayload.parse env.schemas)).map fun p =>
    .requestPasswordReset p.email
  | .passwordReset => (body PasswordResetPayload.parse).map fun p => .resetPassword p.token p.newPassword
  | .emailVerify => (body EmailVerifyPayload.parse).map fun p => .verifyEmailToken p.token
  | .emailResend => user.bind fun user => (optionalBody http.body fun _ => Except.ok ()).toOption.map fun _ =>
      .requestEmailVerification user.id
  | .refresh => (body RefreshPayload.parse).map fun p =>
    .refreshAccessToken p.refreshToken (getClientIp http.request)
  | .logout => user.bind fun user => (optionalBody http.body LogoutPayload.parse).toOption.map fun p =>
      .logout user.id (AuthRoutes.jtiText env http) (p.bind (·.refreshToken))
  | .revokeSession sessionId => user.bind fun user => some (.revokeSession user.id sessionId)
  | .totpSetup => user.bind fun user => some (.setupTotp user.id)
  | .totpVerify => user.bind fun user =>
    (body TotpVerifyPayload.parse).map fun p => .verifyTotp user.id p.code
  | .me | .mfaStatus | .listSessions => none

/-- The user on whose behalf an operation runs. -/
def AuthRequest.actor : AuthRequest → Option Uuid
  | addMfaChannel userId _ _ | verifyMfaChannel userId _ _ | enableMfa userId | disableMfa userId
  | requestEmailVerification userId | logout userId _ _ | revokeSession userId _ | setupTotp
      userId | verifyTotp userId _
  | createAdmin userId _ _ _ _ => some userId
  | _ => none

variable {env s draw http}

/-! ### The user of a request -/

theorem checkSession_ok {db : Db} {payload : Dict} {found user : User}
    (h : checkSession db payload found = .ok user) :
    found = user := by
  unfold checkSession at h
  dsimp only at h
  split at h
  · exact Except.ok.inj h
  split at h
  · split at h
    · split at h
      · cases h
      · exact Except.ok.inj h
    · exact Except.ok.inj h
  · cases h

theorem currentUser_stored {user : User} (h : AuthRoutes.currentUser env s draw http = .ok user) :
    s.db.users.find? user.id = some user := by
  unfold AuthRoutes.currentUser at h
  split at h
  · cases h
  · rename_i token _
    unfold getCurrentUser at h
    obtain ⟨payload, _, h⟩ := Fallible.bind_eq_ok.mp h
    unfold currentUserOf at h
    extract_lets userId at h
    split at h
    · cases h
    split at h
    · cases h
    split at h
    · cases h
    rename_i found hfound
    rw [← checkSession_ok h]
    exact Table.mem_iff_find?.mp (Table.find?_some hfound).1

theorem requireRole_ok {roles : List UserRole} {user : User}
    (h : AuthRoutes.requireRole env s draw http roles = .ok user) :
    AuthRoutes.currentUser env s draw http = .ok user ∧
    (roles.map (·.value)).contains user.role.value = true := by
  unfold AuthRoutes.requireRole at h
  obtain ⟨found, hfound, h⟩ := Fallible.bind_eq_ok.mp h
  split at h
  · rename_i hrole
    cases h
    exact ⟨hfound, hrole⟩
  · cases h

/-! ### What a handler leaves -/

/-- The state after an operation, if there is one. -/
def afterOperation {τ : Type} (env : AuthEnv τ) (s : AuthState) (draw : AuthDraw) :
    Option AuthRequest → AuthState
  | none => s
  | some req => (req.serve env s draw).1

theorem respond_state {α : Type} {status : Nat} {body : α → AuthBody τ} {f : α → AuthReply τ}
    {result : AuthState × Except Exn α} :
    (AuthRoutes.respond status body result).1 = (result.map id (Except.map f)).1 := rfl

theorem withUser_stored {user : User} {run : User → AuthState × Except Exn (AuthReply τ)}
    (huser : s.db.users.find? user.id = some user) : withUser s user.id run = run user := by
  unfold withUser
  rw [huser]

theorem withBody_state {α : Type} {parsed : Parsed α} {handler : α → AuthRoutes.Outcome τ}
    {op : α → AuthRequest} (h : ∀ p, parsed = .ok p → (handler p).1 = ((op p).serve env.auth s draw).1) :
    (AuthRoutes.withBody s parsed handler).1 = afterOperation env.auth s draw (parsed.toOption.map op) := by
  unfold AuthRoutes.withBody
  cases parsed with
  | error errors => rfl
  | ok p => exact h p rfl

theorem withCurrent_state {current : Except Exn User} {handler : User → AuthRoutes.Outcome τ}
    {op : User → Option AuthRequest}
    (h : ∀ user, current = .ok user → (handler user).1 = afterOperation env.auth s draw (op user)) :
    (AuthRoutes.withCurrent s current handler).1 =
      afterOperation env.auth s draw (current.toOption.bind op) := by
  unfold AuthRoutes.withCurrent
  cases current with
  | error e => rfl
  | ok user => exact h user rfl

theorem withCurrent_read {current : Except Exn User} {handler : User → AuthRoutes.Outcome τ}
    (h : ∀ user, (handler user).1 = s) : (AuthRoutes.withCurrent s current handler).1 = s := by
  unfold AuthRoutes.withCurrent
  cases current with
  | error e => rfl
  | ok user => exact h user

/-- A handler leaves the state that the operation it calls leaves. -/
theorem handle_state (env : AuthRouteEnv τ) (s : AuthState) (draw : AuthDraw) (http : AuthHttp τ) :
    (http.handle env s draw).1 = afterOperation env.auth s draw (http.operation env s draw) := by
  have hstored := fun user (h : AuthRoutes.currentUser env s draw http = .ok user) => currentUser_stored h
  unfold AuthHttp.handle AuthHttp.operation
  cases http.path with
  | signup => exact withBody_state fun p _ => respond_state
  | login => exact withBody_state fun p _ => respond_state
  | adminLogin => exact withBody_state fun p _ => respond_state
  | verifyMfa => exact withBody_state fun p _ => respond_state
  | social provider => exact withBody_state fun p _ => respond_state
  | passwordForgot => exact withBody_state fun p _ => respond_state
  | passwordReset => exact withBody_state fun p _ => respond_state
  | emailVerify => exact withBody_state fun p _ => respond_state
  | refresh => exact withBody_state fun p _ => respond_state
  | me => exact withCurrent_read fun _ => rfl
  | mfaStatus => exact withCurrent_read fun _ => rfl
  | listSessions => exact withCurrent_read fun _ => rfl
  | createAdmin =>
    refine withCurrent_state fun actor hactor => withBody_state fun p _ => ?_
    show _ = (withUser s actor.id _).1
    rw [withUser_stored (hstored actor (requireRole_ok hactor).1)]
    exact respond_state
  | addMfaChannel =>
    refine withCurrent_state fun user huser => withBody_state fun p _ => ?_
    show _ = (withUser s user.id _).1
    rw [withUser_stored (hstored user huser)]
    exact respond_state
  | verifyMfaChannel =>
    refine withCurrent_state fun user huser => withBody_state fun p _ => ?_
    show _ = (withUser s user.id _).1
    rw [withUser_stored (hstored user huser)]
    exact respond_state
  | enableMfa =>
    refine withCurrent_state fun user huser => withBody_state fun p _ => ?_
    show _ = (withUser s user.id _).1
    rw [withUser_stored (hstored user huser)]
    exact respond_state
  | emailResend =>
    refine withCurrent_state fun user huser => withBody_state fun p _ => ?_
    show _ = (withUser s user.id _).1
    rw [withUser_stored (hstored user huser)]
    exact respond_state
  | logout =>
    refine withCurrent_state fun user huser => withBody_state fun p _ => ?_
    show _ = (withUser s user.id _).1
    rw [withUser_stored (hstored user huser)]
    exact respond_state
  | totpVerify =>
    refine withCurrent_state fun user huser => withBody_state fun p _ => ?_
    show _ = (withUser s user.id _).1
    rw [withUser_stored (hstored user huser)]
    exact respond_state
  | disableMfa =>
    refine withCurrent_state fun user huser => ?_
    show _ = (withUser s user.id _).1
    rw [withUser_stored (hstored user huser)]
    exact respond_state
  | revokeSession sessionId =>
    refine withCurrent_state fun user huser => ?_
    show _ = (withUser s user.id _).1
    rw [withUser_stored (hstored user huser)]
    exact respond_state
  | totpSetup =>
    refine withCurrent_state fun user huser => ?_
    show _ = (withUser s user.id _).1
    rw [withUser_stored (hstored user huser)]
    exact respond_state

/-! ### Who may ask for an operation -/

/-- An operation of a user is asked for with a token of that user, a new administrator with a token of a
`SUPER_ADMIN`; a signup is for a role of a tenant. -/
structure Entitled (env : AuthRouteEnv τ) (s : AuthState) (draw : AuthDraw) (http : AuthHttp τ)
    (req : AuthRequest) :
    Prop where
  actor : ∀ id, req.actor = some id → ∃ user, AuthRoutes.currentUser env s draw http = .ok user ∧ user.id = id
  admin : ∀ id email password fullName role, req = .createAdmin id email password fullName role →
    http.path = .createAdmin ∧
      ∃ user, AuthRoutes.currentUser env s draw http = .ok user ∧ user.id = id ∧ user.role = .SUPER_ADMIN
  tenantRole : req.tenantRole = true

/-- An operation that needs no user. -/
theorem Entitled.anonymous {req : AuthRequest} (hactor : req.actor = none) (hrole : req.tenantRole = true) :
    Entitled env s draw http req := by
  refine ⟨?_, ?_, hrole⟩
  · intro id h
    rw [hactor] at h
    cases h
  · rintro id email password fullName role rfl
    cases hactor

/-- An operation of the user of the token. -/
theorem Entitled.own {req : AuthRequest} {user : User}
    (huser : AuthRoutes.currentUser env s draw http = .ok user) (hactor : req.actor = some user.id)
    (hadmin : ∀ id email password fullName role,
      req ≠ .createAdmin id email password fullName role) (hrole : req.tenantRole = true) :
    Entitled env s draw http req := by
  refine ⟨?_, ?_, hrole⟩
  · intro id h
    exact ⟨user, huser, Option.some.inj (hactor.symm.trans h)⟩
  · intro id email password fullName role h
    exact absurd h (hadmin id email password fullName role)

private theorem superAdmin_of_contains {role : UserRole}
    (h : ([UserRole.SUPER_ADMIN].map (·.value)).contains role.value = true) : role = .SUPER_ADMIN := by
  cases role <;> first | rfl | (exfalso; revert h; decide)

private theorem tenantRole_isAdminRole {role : UserRole} (h : role ∈ TenantRole) :
    role.isAdminRole = false := by
  have hall : ∀ r ∈ TenantRole, r.isAdminRole = false := by decide
  exact hall role h

/-- The operation that a request calls is one that the request is entitled to. -/
theorem operation_entitled {req : AuthRequest} (h : http.operation env s draw = some req) :
    Entitled env s draw http req := by
  unfold AuthHttp.operation at h
  cases hpath : http.path with
  | signup =>
    rw [hpath] at h
    obtain ⟨p, hp, rfl⟩ := Option.map_eq_some_iff.mp h
    obtain ⟨fields, _, hparse⟩ := requiredBody_ok (Fallible.toOption_eq_some.mp hp)
    refine .anonymous rfl ?_
    simpa [AuthRequest.tenantRole] using tenantRole_isAdminRole (SignupPayload.role_mem hparse)
  | createAdmin =>
    rw [hpath] at h
    obtain ⟨actor, hactor, h⟩ := Option.bind_eq_some_iff.mp h
    obtain ⟨p, hp, rfl⟩ := Option.map_eq_some_iff.mp h
    obtain ⟨hcurrent, hrole⟩ := requireRole_ok (Fallible.toOption_eq_some.mp hactor)
    refine ⟨?_, ?_, rfl⟩
    · intro id hid
      exact ⟨actor, hcurrent, Option.some.inj hid⟩
    · intro id email password fullName role heq
      cases heq
      exact ⟨hpath, actor, hcurrent, rfl, superAdmin_of_contains hrole⟩
  | login | adminLogin | verifyMfa | social | passwordForgot | passwordReset | emailVerify | refresh =>
    rw [hpath] at h
    obtain ⟨p, _, rfl⟩ := Option.map_eq_some_iff.mp h
    exact .anonymous rfl rfl
  | me | mfaStatus | listSessions =>
    rw [hpath] at h
    cases h
  | addMfaChannel | verifyMfaChannel | enableMfa | emailResend | logout | totpVerify =>
    rw [hpath] at h
    obtain ⟨user, huser, h⟩ := Option.bind_eq_some_iff.mp h
    obtain ⟨p, _, rfl⟩ := Option.map_eq_some_iff.mp h
    exact .own (Fallible.toOption_eq_some.mp huser) rfl (by intros; simp) rfl
  | disableMfa | revokeSession | totpSetup =>
    rw [hpath] at h
    obtain ⟨user, huser, h⟩ := Option.bind_eq_some_iff.mp h
    cases h
    exact .own (Fallible.toOption_eq_some.mp huser) rfl (by intros; simp) rfl

end

/-! ### Runs -/

/-- A startup, or a request with what it draws. -/
inductive ApiCall (τ : Type) where
  | startup (entries : List (AdminSeed × AuthDraw))
  | request (http : AuthHttp τ) (draw : AuthDraw)

abbrev ApiStep (τ : Type) := Step AuthState (ApiCall τ)

section

variable {τ : Type}

/-- The `jti` that a request draws. -/
def ApiCall.jti? : ApiCall τ → Option String
  | startup _ => none
  | request _ draw => some draw.jti

/-- The keys that a request draws are not in use, its `jti` is a text that no session has and no earlier
request drew. -/
def ApiCall.Fresh (tr : List (ApiStep τ)) (s : AuthState) : ApiCall τ → Prop
  | startup _ => True
  | request _ draw =>
    s.db.tenants.Fresh draw.tenantId ∧ s.db.users.Fresh draw.userId ∧
    s.db.loginSessions.Fresh draw.sessionId ∧
      draw.jti ≠ "" ∧ (∀ row ∈ s.db.loginSessions.rows, row.jti ≠ some draw.jti) ∧
      ∀ step ∈ tr, step.label.jti? ≠ some draw.jti

instance ApiCall.decidableFresh (tr : List (ApiStep τ)) (s : AuthState) (call : ApiCall τ) :
    Decidable (call.Fresh tr s) :=
  match call with
  | .startup _ => inferInstanceAs (Decidable True)
  | .request _ draw =>
    inferInstanceAs (Decidable (s.db.tenants.Fresh draw.tenantId ∧ s.db.users.Fresh draw.userId ∧
      s.db.loginSessions.Fresh draw.sessionId ∧ draw.jti ≠ "" ∧
      (∀ row ∈ s.db.loginSessions.rows, row.jti ≠ some draw.jti) ∧ ∀ step ∈ tr,
        step.label.jti? ≠ some draw.jti))

variable (env : AuthRouteEnv τ)

def ApiCall.next (s : AuthState) : ApiCall τ → AuthState
  | startup entries => { s with db := (seedAdmins env.auth s.db entries).2 }
  | request http draw => (http.handle env s draw).1

/-- Runs of the routes with their startups. -/
abbrev ApiRun := Run (fun s (call : ApiCall τ) => some (call.next env s)) ApiCall.Fresh

/-- The operation of the service that a step calls. -/
def ApiStep.operation (x : ApiStep τ) : Option AuthRequest :=
  match x.label with
  | .startup _ => none
  | .request http draw => http.operation env x.before draw

/-- A step as a call of the service. -/
def ApiStep.serviceCall (x : ApiStep τ) : Option AuthCall :=
  match x.label with
  | .startup _ => none
  | .request http draw => (http.operation env x.before draw).map fun req => ⟨req, draw⟩

/-- A step as a call of the service, or a startup. -/
def ApiStep.roleCall (x : ApiStep τ) : Option RoleCall :=
  match x.label with
  | .startup entries => some (.seed entries)
  | .request http draw => (http.operation env x.before draw).map fun req => .serve ⟨req, draw⟩

def ApiStep.isStartup (x : ApiStep τ) : Bool :=
  match x.label with
  | .startup _ => true
  | .request _ _ => false

variable {env} {s₀ s : AuthState} {tr : List (ApiStep τ)}

/-- What a step of a run does, in terms of the operation it calls. -/
theorem ApiRun.after_request (h : ApiRun env s₀ tr s) {x : ApiStep τ} (hx : x ∈ tr) {http : AuthHttp τ}
    {draw : AuthDraw} (hlabel : x.label = .request http draw) :
    x.after = afterOperation env.auth x.before draw (http.operation env x.before draw) := by
  obtain ⟨pre, post, htr⟩ := List.append_of_mem hx
  have hnext := (h.split htr).2.2
  rw [hlabel] at hnext
  rw [← handle_state]
  exact (Option.some.inj hnext).symm

theorem ApiRun.after_startup (h : ApiRun env s₀ tr s) {x : ApiStep τ} (hx : x ∈ tr)
    {entries : List (AdminSeed × AuthDraw)} (hlabel : x.label = .startup entries) :
    x.after = { x.before with db := (seedAdmins env.auth x.before.db entries).2 } := by
  obtain ⟨pre, post, htr⟩ := List.append_of_mem hx
  have hnext := (h.split htr).2.2
  rw [hlabel] at hnext
  exact (Option.some.inj hnext).symm

/-- The keys that a request of a run draws are new. -/
theorem ApiRun.fresh (h : ApiRun env s₀ tr s) {pre post : List (ApiStep τ)} {x : ApiStep τ}
    (htr : tr = pre ++ x :: post) {http : AuthHttp τ} {draw : AuthDraw}
    (hlabel : x.label = .request http draw) :
    (ApiCall.request http draw).Fresh pre x.before := by
  have hok := (h.split htr).2.1
  rw [hlabel] at hok
  exact hok

/-- A run without startups is a run of the service. -/
theorem ApiRun.service (h : ApiRun env s₀ tr s) (hrequests : ∀ x ∈ tr, x.isStartup = false) :
    AuthRun env.auth s₀ (Run.visible (ApiStep.serviceCall env) tr) s := by
  refine h.visible_run ?_ ?_
  · intro x hx hnone
    have hrequest := hrequests x hx
    unfold ApiStep.serviceCall at hnone
    unfold ApiStep.isStartup at hrequest
    split at hrequest
    · cases hrequest
    · rename_i http draw hlabel
      rw [hlabel] at hnone
      rw [ApiRun.after_request h hx hlabel, Option.map_eq_none_iff.mp hnone]
      rfl
  · intro pre x post call htr hcall
    have hx : x ∈ tr := by rw [htr]; simp
    unfold ApiStep.serviceCall at hcall
    split at hcall
    · cases hcall
    · rename_i http draw hlabel
      obtain ⟨req, hreq, rfl⟩ := Option.map_eq_some_iff.mp hcall
      obtain ⟨htenant, huser, hsession, hjti, hunused, hnew⟩ := ApiRun.fresh h htr hlabel
      refine ⟨⟨htenant, huser, hsession, hjti, hunused, ?_⟩, ?_⟩
      · intro step hstep
        obtain ⟨y, hy, hstep⟩ := List.mem_filterMap.mp hstep
        obtain ⟨yreq, hyreq, rfl⟩ := Option.map_eq_some_iff.mp hstep
        have hyjti := hnew y hy
        unfold ApiStep.serviceCall at hyreq
        split at hyreq
        · cases hyreq
        · rename_i yhttp ydraw hylabel
          obtain ⟨_, _, rfl⟩ := Option.map_eq_some_iff.mp hyreq
          rw [hylabel] at hyjti
          exact fun heq => hyjti (congrArg some heq)
      · rw [ApiRun.after_request h hx hlabel, hreq]
        rfl

/-- Every run is, without the requests that leave the state alone, a run of the service with its startups. -/
theorem ApiRun.roles (h : ApiRun env s₀ tr s) :
    RoleRun env.auth s₀ (Run.visible (ApiStep.roleCall env) tr) s := by
  refine h.visible_run ?_ ?_
  · intro x hx hnone
    unfold ApiStep.roleCall at hnone
    split at hnone
    · cases hnone
    · rename_i http draw hlabel
      rw [ApiRun.after_request h hx hlabel, Option.map_eq_none_iff.mp hnone]
      rfl
  · intro pre x post call htr hcall
    have hx : x ∈ tr := by rw [htr]; simp
    unfold ApiStep.roleCall at hcall
    split at hcall
    · rename_i entries hlabel
      obtain rfl := Option.some.inj hcall
      refine ⟨trivial, ?_⟩
      rw [ApiRun.after_startup h hx hlabel]
      rfl
    · rename_i http draw hlabel
      obtain ⟨req, hreq, rfl⟩ := Option.map_eq_some_iff.mp hcall
      refine ⟨⟨(ApiRun.fresh h htr hlabel).2.1, (operation_entitled hreq).tenantRole⟩, ?_⟩
      rw [ApiRun.after_request h hx hlabel, hreq]
      rfl

/-- The routes refine the service.  Every run of the routes and the startups is a run of the service and its
bootstrap, without startups one with sessions, when the requests that call no operation are left out; and
every operation that a request of the run calls is one that the request is entitled to. -/
theorem routes_refine_service (h : ApiRun env s₀ tr s) :
    RoleRun env.auth s₀ (Run.visible (ApiStep.roleCall env) tr) s ∧
      ((∀ x ∈ tr, x.isStartup = false) → AuthRun env.auth s₀ (Run.visible (ApiStep.serviceCall env) tr) s) ∧
      ∀ x ∈ tr, ∀ http draw req, x.label = .request http draw → http.operation env x.before draw = some req →
        x.after = (req.serve env.auth x.before draw).1 ∧ Entitled env x.before draw http req := by
  refine ⟨h.roles, h.service, ?_⟩
  intro x hx http draw req hlabel hreq
  refine ⟨?_, operation_entitled hreq⟩
  rw [ApiRun.after_request h hx hlabel, hreq]
  rfl

end

namespace SampleApi

/-- The bearer tokens of the example are the texts of user ids. -/
def env : AuthRouteEnv String where
  auth := .sample ⟨fun _ secret => secret, fun token _ _ => .payload [("user_id", .str token)]⟩
  repr := fun _ => ""
  emailStr := some
  boolOf := fun _ => none
  decodeUnexpired := fun _ _ => none
  createdAt := fun _ => 0

def startup : ApiCall String :=
  .startup [(⟨"root@example.com", "a long secret", "Root", "SUPER_ADMIN"⟩, .numbered 1)]

def request (path : AuthPath) (url : String) (actor : Option Uuid) (body : Dict) (n : Nat) : ApiCall String :=
  .request {
    path := path
    request := ⟨url, [], [], none⟩
    credentials := actor.map (·.str)
    body := some (.dict body)
    profile := ⟨200, []⟩ } (.numbered n)

def appoint (actor : Uuid) (email role : String) (n : Nat) : ApiCall String :=
  request .createAdmin "/api/v1/admin/auth/create-admin" (some actor)
    [("email", .str email), ("password", .str "Passw0rd-1234"), ("role", .str role)] n

def guess (email password : String) (n : Nat) : ApiCall String :=
  request .login "/api/v1/auth/login" none [("email", .str email), ("password", .str password)] n

theorem routes_refine_service_startup :
    ∃ tr s, ApiRun env .fresh tr s ∧ (Run.visible (ApiStep.roleCall env) tr).length = 2 ∧
      RoleRun env.auth .fresh (Run.visible (ApiStep.roleCall env) tr) s := by
  -- the last request carries no body that the schema accepts
  have hreplay : (Run.replay (fun s (call : ApiCall String) => some (call.next env s)) ApiCall.Fresh .fresh
      [startup, appoint (.ofNat 201) "Ann@Example.com" "SUPER_ADMIN" 2, guess "" "" 3]).map
      (fun r => decide ((Run.visible (ApiStep.roleCall env) r.1).length = 2)) = some true := by decide +kernel
  obtain ⟨tr, s, hrun, hcheck⟩ := Run.exists_of_replay hreplay
  exact ⟨tr, s, hrun, of_decide_eq_true hcheck, (routes_refine_service hrun).1⟩

end SampleApi

end RatingLift
