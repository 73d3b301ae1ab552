import RatingLift.Auth.AccountWrites
import RatingLift.Auth.Bootstrap

/-!
# Administrators and tenants

A user is an administrator, has an administrator's role and has no tenant, or is none of these.  The
bootstrap, the signup, `create_admin` and a social login of a new user create only such rows; a social login
that finds an administrator gives the row a tenant.  So the roles are coherent in a run exactly when no social
login finds a user without a tenant (`roles_coherent_iff`).
-/

namespace RatingLift

open Library

/-- The role is one of `ADMIN_ROLES`. -/
def UserRole.isAdminRole (role : UserRole) : Bool := adminRoles.contains role.value

structure RoleCoherent (user : User) : Prop where
  role : user.isAdmin = user.role.isAdminRole
  tenant : user.isAdmin = user.tenantId.isNone

/-- A startup, or a request of the service. -/
inductive RoleCall where
  | seed (entries : List (AdminSeed × AuthDraw))
  | serve (call : AuthCall)

abbrev RoleStep := Step AuthState RoleCall

/-- `SignupRequest.role` is a `TenantRole`. -/
def AuthRequest.tenantRole : AuthRequest → Bool
  | .signup req => !req.role.isAdminRole
  | _ => true

section

variable {τ : Type} (env : AuthEnv τ)

def nextRoles (s : AuthState) : RoleCall → Option AuthState
  | .seed entries => some { s with db := (seedAdmins env s.db entries).2 }
  | .serve call => serveCall env s call

/-- A request has passed its schema and draws a fresh key for a user. -/
def RoleCall.Allowed (s : AuthState) : RoleCall → Prop
  | .seed _ => True
  | .serve call => s.db.users.Fresh call.draw.userId ∧ call.request.tenantRole = true

instance (s : AuthState) (call : RoleCall) : Decidable (call.Allowed s) :=
  match call with
  | .seed _ => inferInstanceAs (Decidable True)
  | .serve call =>
    inferInstanceAs (Decidable (s.db.users.Fresh call.draw.userId ∧ call.request.tenantRole = true))

/-- Runs of the service with its startups. -/
def RoleRun (s₀ : AuthState) : List RoleStep → AuthState → Prop :=
  Run (nextRoles env) (fun _ s call => call.Allowed s) s₀

/-- A social login finds nobody, or a user with a tenant. -/
def findsTenant (x : RoleStep) : Bool :=
  match x.label with
  | .serve ⟨.loginWithSocialProvider req, _⟩ => (socialUser env x.before req).all fun user =>
    user.tenantId.isSome
  | _ => true

variable {env} {s : AuthState} {draw : AuthDraw} {db : Db}

/-! ### Rows -/

/-- A row with the same role, the same flag and the same tenant. -/
theorem RoleCoherent.congr {user row : User} (hu : RoleCoherent user) (hrole : row.role = user.role)
    (hadmin : row.isAdmin = user.isAdmin) (htenant : row.tenantId = user.tenantId) : RoleCoherent row :=
  ⟨by rw [hadmin, hrole]; exact hu.role, by rw [hadmin, htenant]; exact hu.tenant⟩

/-- A change of a row keeps the roles coherent, unless a social login gives a tenant to a user without one. -/
theorem RowChange.roleCoherent {user row : User} {req : AuthRequest}
    (h : RowChange env s draw db user req row) (hu : RoleCoherent user)
    (hsocial : ∀ social, req = .loginWithSocialProvider social → socialUser env s social = some user →
      user.tenantId.isSome = true) :
    RoleCoherent row := by
  have hcleared : RoleCoherent (clearLock user) := by
    unfold clearLock
    split <;> exact hu.congr rfl rfl rfl
  cases h with
  | failed _ =>
    unfold countFailure
    extract_lets counted
    split <;> exact hcleared.congr rfl rfl rfl
  | challenged _ => exact hcleared
  | @social req profile tenantId hprofile hfound htenant _ =>
    have hsome : user.tenantId.isSome = true :=
      hsocial _ rfl (by unfold socialUser; rw [hprofile]; exact hfound)
    obtain ⟨t, ht⟩ := Option.isSome_iff_exists.mp hsome
    exact hu.congr rfl rfl (by rw [ht, ← htenant t ht]; rfl)
  | channelAdded hchange =>
    rcases channelChange_cases hchange with ⟨_, _, rfl⟩ | ⟨_, _, rfl⟩
    · exact hu.congr rfl rfl rfl
    · exact hu.congr rfl rfl rfl
  | channelVerified _ =>
    unfold markVerified
    split <;> exact hu.congr rfl rfl rfl
  | _ => exact hu.congr rfl rfl rfl

theorem Created.roleCoherent {row : User} {req : AuthRequest} (h : Created env s draw req row)
    (hrole : req.tenantRole = true) : RoleCoherent row := by
  cases h with
  | @signup req tenantId _ =>
    have htenant : req.role.isAdminRole = false := by simpa [AuthRequest.tenantRole] using hrole
    exact ⟨htenant.symm, rfl⟩
  | social tenantId _ _ =>
    have hstaff : UserRole.STAFF.isAdminRole = false := by decide
    exact ⟨hstaff.symm, rfl⟩
  | admin hadmin => exact ⟨hadmin.symm, rfl⟩

/-! ### The bootstrap -/

theorem seedRole_isAdminRole {text : String} {role : UserRole} (h : seedRole text = some role) :
    role.isAdminRole = true := by
  have hmem : role ∈ seedRoles := List.mem_of_find?_eq_some h
  have hall : ∀ r ∈ seedRoles, r.isAdminRole = true := by decide
  exact hall role hmem

/-- An entry adds at most one administrator. -/
theorem seedOne_coherent {entry : AdminSeed} (h : ∀ user ∈ db.users, RoleCoherent user) :
    ∀ user ∈ (seedOne env db draw entry).2.users, RoleCoherent user := by
  unfold seedOne
  extract_lets email
  split
  · exact h
  split
  · exact h
  rename_i role hrole
  split
  · exact h
  · intro user huser
    rcases Table.mem_of_mem_insert huser with hold | rfl
    · exact h user hold
    · exact ⟨(seedRole_isAdminRole hrole).symm, rfl⟩

theorem seedAdmins_coherent {entries : List (AdminSeed × AuthDraw)}
    (h : ∀ user ∈ db.users, RoleCoherent user) :
    ∀ user ∈ (seedAdmins env db entries).2.users, RoleCoherent user := by
  unfold seedAdmins
  generalize ([] : List String) = seen
  induction entries generalizing seen db with
  | nil => exact h
  | cons entry entries ih =>
    unfold seedFrom
    extract_lets key
    split
    · exact ih h seen
    · exact ih (seedOne_coherent h) (key :: seen)

/-! ### Runs -/

/-- One step keeps the roles coherent. -/
theorem roleCoherent_step {x : RoleStep} (hallowed : x.label.Allowed x.before)
    (hnext : nextRoles env x.before x.label = some x.after) (hfinds : findsTenant env x = true)
    (hbefore : ∀ user ∈ x.before.db.users, RoleCoherent user) :
    ∀ user ∈ x.after.db.users, RoleCoherent user := by
  obtain ⟨before, label, after⟩ := x
  dsimp only at hallowed hnext hbefore ⊢
  cases label with
  | seed entries =>
    obtain rfl : _ = after := Option.some.inj hnext
    exact seedAdmins_coherent hbefore
  | serve call =>
    obtain rfl : _ = after := Option.some.inj hnext
    obtain ⟨hfresh, hrole⟩ := hallowed
    have hwrite := serve_users env before call.draw call.request hfresh
    refine hwrite.forall_users hfresh (fun row hcreated => hcreated.roleCoherent hrole) ?_ hbefore
    intro user row _ hchange hu
    refine hchange.roleCoherent hu ?_
    intro social hreq hfound
    obtain ⟨request, draw⟩ := call
    replace hreq : request = .loginWithSocialProvider social := hreq
    subst hreq
    have hall : (socialUser env before social).all (fun user => user.tenantId.isSome) = true := hfinds
    rw [hfound] at hall
    exact hall

/-- A social login that finds an administrator leaves a row that is not coherent. -/
theorem findsTenant_of_coherent {x : RoleStep} (hnext : nextRoles env x.before x.label = some x.after)
    (hbefore : ∀ user ∈ x.before.db.users, RoleCoherent user)
    (hafter : ∀ user ∈ x.after.db.users, RoleCoherent user) : findsTenant env x = true := by
  unfold findsTenant
  split
  · rename_i req draw hlabel
    cases hfound : socialUser env x.before req with
    | none => rfl
    | some user =>
      rw [Option.all_some]
      unfold socialUser at hfound
      cases hprofile : verifyOauthToken env.lower req.reply req.provider with
      | error e => rw [hprofile] at hfound; cases hfound
      | ok profile =>
        rw [hprofile] at hfound
        obtain ⟨tenantId, husers⟩ := loginWithSocialProvider_users draw hprofile hfound
        rw [hlabel] at hnext
        have hstate : (loginWithSocialProvider env x.before draw req).1 = x.after := Option.some.inj hnext
        rw [hstate] at husers
        have huser : x.before.db.users.find? user.id = some user := getUserByEmail_some hfound
        have hrow :
            resetFailedLogin (linkSocial user (some tenantId) req.provider profile) ∈ x.after.db.users := by
          have hwritten : x.after.db.users.find? user.id =
              some (resetFailedLogin (linkSocial user (some tenantId) req.provider profile)) := by
            rw [husers]
            exact Table.find?_update_of_find? huser
          exact (Table.find?_some hwritten).1
        -- the row has a tenant now, so it is not an administrator's, and had one before
        have hnotAdmin : user.isAdmin = false := (hafter _ hrow).tenant
        rw [(hbefore user (Table.find?_some huser).1).tenant] at hnotAdmin
        simpa using hnotAdmin
  · rfl

/-- In a run the roles are coherent in every state exactly when no social login finds a user without a
tenant. -/
theorem roles_coherent_iff {s₀ : AuthState} {tr : List RoleStep} (h : RoleRun env s₀ tr s)
    (hstart : ∀ user ∈ s₀.db.users, RoleCoherent user) :
    (∀ x ∈ tr, ∀ user ∈ x.after.db.users, RoleCoherent user) ↔ ∀ x ∈ tr, findsTenant env x = true := by
  constructor
  · intro hcoherent x hx
    obtain ⟨pre, post, htr⟩ := List.append_of_mem hx
    exact findsTenant_of_coherent (h.split htr).2.2
      (Run.forall_before (p := fun s => ∀ user ∈ s.db.users, RoleCoherent user) h hstart hcoherent x hx)
        (hcoherent x hx)
  · intro hfinds
    refine Run.forall_steps (p := fun s => ∀ user ∈ s.db.users, RoleCoherent user) h hstart ?_
    intro x hx hbefore
    obtain ⟨pre, post, htr⟩ := List.append_of_mem hx
    obtain ⟨_, hallowed, hnext⟩ := h.split htr
    exact roleCoherent_step hallowed hnext (hfinds x hx) hbefore

end

/-! ### An administrator and a social login -/

namespace AdminSocial

def env : AuthEnv String := .sample ⟨fun _ secret => secret, fun _ _ _ => .invalid⟩

def startup (n : Nat) : RoleCall :=
  .seed [(⟨" Root@Example.com", "a long secret", "Root", "SUPER_ADMIN"⟩, .numbered n)]

def social (email : String) (n : Nat) : RoleCall :=
  .serve ⟨.loginWithSocialProvider ⟨.GOOGLE, ⟨200, [("email", .str email)]⟩, .unknown⟩, .numbered n⟩

private theorem no_users (user : User) (h : user ∈ AuthState.fresh.db.users) : RoleCoherent user :=
  absurd h (Table.not_mem_empty user)

/-- The bootstrap administrator logs in with a social provider. -/
theorem admin_with_tenant :
    ∃ tr s, RoleRun env .fresh tr s ∧ ¬ ∀ x ∈ tr, ∀ user ∈ x.after.db.users, RoleCoherent user := by
  have hreplay : (Run.replay (nextRoles env) (fun _ s call => RoleCall.Allowed s call) .fresh
      [startup 1, social "root@example.com" 2]).map
      (fun r => r.1.any fun x => x.after.db.users.rows.any fun user => user.isAdmin && user.tenantId.isSome) =
        some true := by decide +kernel
  obtain ⟨tr, s, hrun, hcheck⟩ := Run.exists_of_replay hreplay
  refine ⟨tr, s, hrun, ?_⟩
  intro hcoherent
  obtain ⟨x, hx, hbroken⟩ := List.any_eq_true.mp hcheck
  obtain ⟨user, huser, hflags⟩ := List.any_eq_true.mp hbroken
  have htenant := (hcoherent x hx user huser).tenant
  rw [Bool.and_eq_true, Option.isSome_iff_exists] at hflags
  obtain ⟨hadmin, t, ht⟩ := hflags
  rw [hadmin, ht] at htenant
  cases htenant

/-- Startups, a social login of a new user and a new administrator. -/
theorem roles_of_new_users :
    ∃ tr s, RoleRun env .fresh tr s ∧ s.db.users.rows.length = 3 ∧
      ∀ x ∈ tr, ∀ user ∈ x.after.db.users, RoleCoherent user := by
  have hreplay : (Run.replay (nextRoles env) (fun _ s call => RoleCall.Allowed s call) .fresh
      [startup 1, startup 2, social "eve@example.com" 3, .serve ⟨.createAdmin (.ofNat 201) "ops@example.com"
        "a long secret" none .OPS_ADMIN, .numbered 4⟩]).map
      (fun r => decide (r.2.db.users.rows.length = 3) && r.1.all (findsTenant env)) = some true := by
        decide +kernel
  obtain ⟨tr, s, hrun, hcheck⟩ := Run.exists_of_replay hreplay
  rw [Bool.and_eq_true, decide_eq_true_eq, List.all_eq_true] at hcheck
  exact ⟨tr, s, hrun, hcheck.1, (roles_coherent_iff hrun no_users).mpr hcheck.2⟩

end AdminSocial

end RatingLift
