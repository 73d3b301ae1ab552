import RatingLift.Db.Models

/-!
# Audit logging

`logAction` adds a row to `audit_logs`; `logAdminAction` adds one to `admin_action_logs` and mirrors it into
`audit_logs`.  Neither commits.  Before and after values are JSON already, on which `_json_safe` is the
identity.
-/

namespace RatingLift

open Library

/-- `_coerce_actor_type` on a text -/
def coerceActorType (value : String) : ActorType :=
  let text := Py.asciiLower (Py.strip value)
  if text = "system" ∨ text = "service" ∨ text = "worker" then .system else .user

/-- `log_action` -/
def logAction (db : Db) (id : Uuid) (now : Instant) (actorId : Option String)
    (actorType action entity : String) (entityId : Option Uuid) (beforeValue afterValue : Json)
    (ipAddress : Option String) : Db :=
  { db with auditLogs := db.auditLogs.insert {
      id := id
      actorId := actorId.bind Uuid.parse
      actorType := coerceActorType actorType
      action := action
      entity := entity
      entityId := entityId
      beforeValue := beforeValue
      afterValue := afterValue
      ipAddress := ipAddress
      timestamp := now } }

/-- `log_admin_action` -/
def logAdminAction (db : Db) (draw : Draw) (adminId : Uuid) (action : String) (targetEntity : Option String)
    (targetId targetTenantId : Option Uuid) (beforeValue afterValue : Json)
    (ipAddress : Option String) : Db :=
  let db := { db with adminActionLogs := db.adminActionLogs.insert {
      id := draw.adminLogId
      adminId := adminId
      action := action
      targetEntity := targetEntity
      targetId := targetId
      targetTenantId := targetTenantId
      beforeValue := beforeValue
      afterValue := afterValue
      ipAddress := ipAddress
      timestamp := draw.now } }
  logAction db (draw.auditId 0) draw.now (some adminId.str) "user" ("admin." ++ action)
    (targetEntity.getD "admin")
    targetId beforeValue afterValue ipAddress

end RatingLift
