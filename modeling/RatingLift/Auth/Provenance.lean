import RatingLift.Auth.RouteRuns
import RatingLift.Db.Seed

/-!
# Where administrators come from

No request changes the role of a user or makes a user an administrator.  A new administrator is written by the
bootstrap of a startup, or by the route `create-admin`, whose request carries a valid token of a stored
`SUPER_ADMIN`.  So in every run an administrator is appointed by another one, and the appointments lead back
to a startup (`admins_appointed`).
-/

namespace RatingLift

open Library

/-- An administrator, by the flag or by the role. -/
def User.Administrates (user : User) : Prop := user.isAdmin = true ∨ user.role.isAdminRole = true

/-- The step wrote the user `id`. -/
def ApiStep.AddsUser {τ : Type} (x : ApiStep τ) (id : Uuid) : Prop :=
  x.before.db.users.find? id = none ∧ (x.after.db.users.find? id).isSome = true

/-- The user `id` was written by a startup of the run, or on behalf of a `SUPER_ADMIN` who had been appointed
before. -/
inductive Appointed {τ : Type} (env : AuthRouteEnv τ) : List (ApiStep τ) → Uuid → Prop
  | seeded {pre post : List (ApiStep τ)} {x : ApiStep τ} {entries : List (AdminSeed × AuthDraw)} {id : Uuid} :
      x.label = .startup entries → x.AddsUser id → Appointed env (pre ++ x :: post) id
  | appointed {pre post : List (ApiStep τ)} {x : ApiStep τ} {http : AuthHttp τ} {draw : AuthDraw}
      {actor : User} :
      x.label = .request http draw → http.path = .createAdmin →
      AuthRoutes.currentUser env x.before draw http = .ok actor → actor.role = .SUPER_ADMIN →
      x.AddsUser draw.userId → Appointed env pre actor.id → Appointed env (pre ++ x :: post) draw.userId

section

variable {τ : Type} {env : AuthRouteEnv τ} {s₀ s : AuthState} {tr : List (ApiStep τ)}

/-- An appointment stays one in every longer run. -/
theorem Appointed.append {id : Uuid} (h : Appointed env tr id) (later : List (ApiStep τ)) :
    Appointed env (tr ++ later) id := by
  cases h with
  | seeded hlabel hadds =>
    rw [List.append_assoc, List.cons_append]
    exact .seeded hlabel hadds
  | appointed hlabel hpath hactor hrole hadds happointed =>
    rw [List.append_assoc, List.cons_append]
    exact .appointed hlabel hpath hactor hrole hadds happointed

/-- An appointment leads back to a startup. -/
theorem Appointed.startup {id : Uuid} (h : Appointed env tr id) : ∃ x ∈ tr, x.isStartup = true := by
  induction h with
  | @seeded pre post x entries id hlabel _ =>
    refine ⟨x, by simp, ?_⟩
    unfold ApiStep.isStartup
    rw [hlabel]
  | appointed _ _ _ _ _ _ ih =>
    obtain ⟨x, hx, hstartup⟩ := ih
    exact ⟨x, List.mem_append_left _ hx, hstartup⟩

/-! ### Rows -/

theorem clearLock_role (user : User) :
    (clearLock user).role = user.role ∧ (clearLock user).isAdmin = user.isAdmin := by
  unfold clearLock
  split <;> exact ⟨rfl, rfl⟩

/-- A change of a row keeps the role and the flag. -/
theorem RowChange.role_eq {env : AuthEnv τ} {draw : AuthDraw} {db : Db} {user row : User} {req : AuthRequest}
    (h : RowChange env s draw db user req row) : row.role = user.role ∧ row.isAdmin = user.isAdmin := by
  cases h with
  | failed _ =>
    unfold countFailure
    extract_lets counted
    split <;> exact clearLock_role user
  | challenged _ => exact clearLock_role user
  | channelAdded hchange =>
    rcases channelChange_cases hchange with ⟨_, _, rfl⟩ | ⟨_, _, rfl⟩ <;> exact ⟨rfl, rfl⟩
  | channelVerified _ => unfold markVerified; split <;> exact ⟨rfl, rfl⟩
  | _ => exact ⟨rfl, rfl⟩

theorem RowChange.administrates {env : AuthEnv τ} {draw : AuthDraw} {db : Db} {user row : User}
    {req : AuthRequest} (h : RowChange env s draw db user req row) (hrow : row.Administrates) :
    user.Administrates := by
  obtain ⟨hrole, hadmin⟩ := h.role_eq
  unfold User.Administrates at hrow ⊢
  rwa [hrole, hadmin] at hrow

/-- A new row is an administrator's only when `create_admin` wrote it. -/
theorem Created.administrates {env : AuthEnv τ} {draw : AuthDraw} {row : User} {req : AuthRequest}
    (h : Created env s draw req row) (hrole : req.tenantRole = true) (hrow : row.Administrates) :
    ∃ actorId email password fullName role, req = .createAdmin actorId email password fullName role := by
  cases h with
  | @signup req tenantId _ =>
    have htenant : req.role.isAdminRole = false := by simpa [AuthRequest.tenantRole] using hrole
    rcases hrow with h | h
    · cases h
    · exact absurd (htenant.symm.trans h) (by decide)
  | social tenantId _ _ =>
    have hstaff : UserRole.STAFF.isAdminRole = false := by decide
    rcases hrow with h | h
    · cases h
    · exact absurd (hstaff.symm.trans h) (by decide)
  | @admin actorId email password fullName role _ => exact ⟨actorId, email, password, fullName, role, rfl⟩

/-! ### Steps -/

/-- A row after the bootstrap was there before, or is under a key that was not in use. -/
theorem seedAdmins_new {env : AuthEnv τ} {db : Db} {entries : List (AdminSeed × AuthDraw)} {user : User}
    (h : user ∈ (seedAdmins env db entries).2.users) : user ∈ db.users ∨ db.users.find? user.id = none := by
  cases hfind : db.users.find? user.id with
  | none => exact Or.inr rfl
  | some existing =>
    obtain ⟨hmem, hid⟩ := Table.find?_some hfind
    have hkept : existing ∈ (seedAdmins env db entries).2.users :=
      (seedAdmins_frame env db entries).users.subset hmem
    obtain rfl : existing = user := Table.eq_of_key_eq hkept h hid
    exact Or.inl hmem

/-- Every administrator of the state has been appointed. -/
def AdminsAppointed (env : AuthRouteEnv τ) (tr : List (ApiStep τ)) (s : AuthState) : Prop :=
  ∀ user ∈ s.db.users, user.Administrates → Appointed env tr user.id

/-- A request that calls an operation keeps the administrators appointed. -/
theorem AdminsAppointed.operation {http : AuthHttp τ} {draw : AuthDraw} {req : AuthRequest} {s' : AuthState}
    (h : AdminsAppointed env tr s) (hfresh : s.db.users.Fresh draw.userId)
    (hreq : http.operation env s draw = some req) (hs' : s' = (req.serve env.auth s draw).1) :
    AdminsAppointed env (tr ++ [⟨s, .request http draw, s'⟩]) s' := by
  have hentitled := operation_entitled hreq
  have hwrite := serve_users env.auth s draw req hfresh
  rw [← hs'] at hwrite
  -- an administrator of the new state was one before, or is the row of `create_admin`
  have hall : ∀ row ∈ s'.db.users, row.Administrates → Appointed env tr row.id ∨ row.id = draw.userId ∧
      http.path = .createAdmin ∧ ∃ actor, AuthRoutes.currentUser env s draw http = .ok actor ∧
      actor.role = .SUPER_ADMIN := by
    refine hwrite.forall_users hfresh ?_ ?_ ?_
    · intro row hcreated hrow
      obtain ⟨actorId, email, password, fullName, role, rfl⟩ :=
        hcreated.administrates hentitled.tenantRole hrow
      obtain ⟨hpath, actor, hactor, _, hrole⟩ := hentitled.admin _ _ _ _ _ rfl
      exact Or.inr ⟨hcreated.id_eq, hpath, actor, hactor, hrole⟩
    · intro user row _ hchange huser hrow
      rw [hchange.id_eq]
      exact huser (hchange.administrates hrow)
    · intro user huser hadmin
      exact Or.inl (h user huser hadmin)
  intro row hmem hrow
  rcases hall row hmem hrow with happointed | ⟨hid, hpath, actor, hactor, hrole⟩
  · exact happointed.append _
  · have hsuper : actor.role.isAdminRole = true := by rw [hrole]; decide
    have happointed := h actor (Table.find?_some (currentUser_stored hactor)).1 (Or.inr hsuper)
    have hfound : s'.db.users.find? draw.userId = some row := by
      rw [← hid]
      exact Table.mem_iff_find?.mp hmem
    rw [hid]
    have hadds : ApiStep.AddsUser ⟨s, .request http draw, s'⟩ draw.userId :=
      ⟨Table.fresh_iff_find?.mp hfresh, Option.isSome_iff_exists.mpr ⟨row, hfound⟩⟩
    exact .appointed rfl hpath hactor hrole hadds happointed

/-- Every step keeps the administrators appointed. -/
theorem AdminsAppointed.step {call : ApiCall τ} (h : AdminsAppointed env tr s) (hfresh : call.Fresh tr s) :
    AdminsAppointed env (tr ++ [⟨s, call, call.next env s⟩]) (call.next env s) := by
  cases call with
  | startup entries =>
    intro user huser hadmin
    rcases seedAdmins_new huser with hold | hnone
    · exact (h user hold hadmin).append _
    · refine .seeded rfl ⟨hnone, ?_⟩
      exact Option.isSome_iff_exists.mpr ⟨user, Table.mem_iff_find?.mp huser⟩
  | request http draw =>
    cases hreq : http.operation env s draw with
    | some req =>
      refine h.operation hfresh.2.1 hreq ?_
      show (http.handle env s draw).1 = _
      rw [handle_state, hreq]
      rfl
    | none =>
      have hsame : (ApiCall.request http draw).next env s = s := by
        show (http.handle env s draw).1 = s
        rw [handle_state, hreq]
        rfl
      intro user huser hadmin
      rw [hsame] at huser
      exact (h user huser hadmin).append _

/-! ### Runs -/

/-- In every run that starts without administrators, each of them has been appointed: by a startup, or on
behalf of a `SUPER_ADMIN` who had been appointed before. -/
theorem admins_appointed (h : ApiRun env s₀ tr s) (hstart : ∀ user ∈ s₀.db.users, ¬ user.Administrates) :
    ∀ user ∈ s.db.users, user.Administrates → Appointed env tr user.id := by
  refine h.invariant (I := AdminsAppointed env) ?_ ?_
  · intro user huser hadmin
    exact absurd hadmin (hstart user huser)
  · intro tr s call s' _ hs hfresh hnext
    cases hnext
    exact hs.step hfresh

end

/-! ### A chain of two appointments -/

namespace AdminChain

open SampleApi

/-- Root appoints a second administrator, who appoints a third one. -/
def calls : List (ApiCall String) :=
  [startup, appoint (.ofNat 201) "Ann@Example.com" "SUPER_ADMIN" 2,
    appoint (.ofNat 202) "ops@example.com" "OPS_ADMIN" 3]

theorem three_administrators :
    ∃ tr s, ApiRun env .fresh tr s ∧ s.db.users.rows.length = 3 ∧
      ∀ user ∈ s.db.users, user.Administrates → Appointed env tr user.id := by
  have hreplay :
      (Run.replay (fun s (call : ApiCall String) => some (call.next env s)) ApiCall.Fresh .fresh calls).map
      (fun r => decide (r.2.db.users.rows.length = 3)) = some true := by decide +kernel
  obtain ⟨tr, s, hrun, hcheck⟩ := Run.exists_of_replay hreplay
  refine ⟨tr, s, hrun, of_decide_eq_true hcheck, admins_appointed hrun ?_⟩
  intro user huser
  exact absurd huser (Table.not_mem_empty user)

end AdminChain

end RatingLift
