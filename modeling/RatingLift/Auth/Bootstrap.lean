import RatingLift.Auth.Service

/-!
# The bootstrap administrators

`seed_admins` runs on every startup and creates the administrators of `ADMINS` that are missing.  Each entry
commits on its own; a row that exists is left alone.
-/

namespace RatingLift

open Library

structure AdminSeed where
  email : String
  password : String
  fullName : String
  role : String := "SUPER_ADMIN"

/-- `_ADMIN_ROLE_VALUES` -/
def seedRoles : List UserRole := [.SUPER_ADMIN, .FINANCE_ADMIN, .SUPPORT_ADMIN, .OPS_ADMIN, .COMPLIANCE_ADMIN]

/-- The role that an entry names, when it is one of `_ADMIN_ROLE_VALUES`. -/
def seedRole (role : String) : Option UserRole := seedRoles.find? fun r => r.value == role

section

variable {τ : Type} (env : AuthEnv τ)

/-- The row that `_seed_one` adds. -/
def seededAdmin (draw : AuthDraw) (entry : AdminSeed) (email : String) (role : UserRole) : User :=
  newUser draw email (some entry.fullName) (getPasswordHash env draw entry.password) role none true "password"

/-- `_seed_one`: the user it returns and the database after its commit. -/
def seedOne (db : Db) (draw : AuthDraw) (entry : AdminSeed) : Option User × Db :=
  let email := env.lower (Py.strip entry.email)
  if email = "" ∨ entry.password = "" then (none, db)
  else
    match seedRole entry.role with
    | none => (none, db)
    | some role =>
      match db.users.first fun u => u.email == email with
      | some existing => (some existing, db)
      | none =>
        let admin := seededAdmin env draw entry email role
        let db := { db with users := db.users.insert admin }
        (some admin, { db with auditLogs := db.auditLogs.insert {
            id := draw.auditId 0
            actorId := none
            actorType := .system
            action := "admin_seeded"
            entity := "user"
            entityId := some admin.id
            beforeValue := .none
            afterValue := .dict [("email", .str email), ("role", .str entry.role)]
            ipAddress := none
            timestamp := draw.now } })

/-- The loop of `seed_admins` from an entry on; `seen` are the emails of the entries before it. -/
def seedFrom (seen : List String) (db : Db) : List (AdminSeed × AuthDraw) → List User × Db
  | [] => ([], db)
  | (entry, draw) :: entries =>
    let key := env.lower (Py.strip entry.email)
    if seen.contains key then seedFrom seen db entries
    else
      let (user, db) := seedOne env db draw entry
      let (users, db) := seedFrom (key :: seen) db entries
      (user.toList ++ users, db)

/-- `seed_admins`, over the entries of `ADMINS` with what each draws. -/
def seedAdmins (db : Db) (entries : List (AdminSeed × AuthDraw)) : List User × Db :=
  seedFrom env [] db entries

end

end RatingLift
