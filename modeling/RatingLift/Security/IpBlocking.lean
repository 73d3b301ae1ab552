import Mathlib.Order.WithBot
import RatingLift.Audit.Service
import RatingLift.Security.LoginTracking

/-!
# How long an address is blocked

`block_ip` and `unblock_ip` with their parameters, the two routes by which an administrator calls them, and
the instant until which an address is blocked (`blockedUntil`), on which `is_ip_blocked` rests
(`isIpBlocked_iff`).  A block that is written again takes the larger number of failures of the two, but the
new expiry whatever the old one was (`blockedUntil_blockIpWith`).
-/

namespace RatingLift

open Library

/-! ### The routes of the administrators -/

/-- `IpBlockCreateRequest`, as validated -/
structure IpBlockCreateRequest where
  ipAddress : String
  reason : Option String
  durationSeconds : Nat
  ipAddress_length : 2 ≤ ipAddress.length ∧ ipAddress.length ≤ 64
  reason_length : ∀ r ∈ reason, r.length ≤ 255
  durationSeconds_range : 60 ≤ durationSeconds ∧ durationSeconds ≤ 60 * 60 * 24 * 30

section

variable (db : Db)

/-- `block_ip`; a duration of zero means no expiry. -/
def blockIpWith (ipAddress : String) (reason : Option String) (failedAttempts durationSeconds : Nat)
    (now : Instant) :
    IpBlocklist × Db :=
  let expiresAt := if durationSeconds = 0 then none else some (now + seconds durationSeconds)
  match db.ipBlocklist.find? ipAddress with
  | some row =>
    let row := { row with
      reason := if reason.any (· ≠ "") then reason else row.reason
      failedAttempts := max row.failedAttempts failedAttempts
      blockedAt := now
      expiresAt := expiresAt }
    (row, { db with ipBlocklist := db.ipBlocklist.update row })
  | none =>
    let row := {
      ipAddress := ipAddress
      reason := reason
      failedAttempts := failedAttempts
      blockedAt := now
      expiresAt := expiresAt }
    (row, { db with ipBlocklist := db.ipBlocklist.insert row })

/-- `unblock_ip` -/
def unblockIp (ipAddress : String) : Bool × Db :=
  match db.ipBlocklist.find? ipAddress with
  | none => (false, db)
  | some row => (true, { db with ipBlocklist := db.ipBlocklist.delete row.ipAddress })

variable (draw : Draw) (clientIp : Option String) (adminId : Uuid)

/-- `manually_block_ip` -/
def manuallyBlockIp (payload : IpBlockCreateRequest) : IpBlocklist × Db :=
  let reason := match payload.reason.filter (· ≠ "") with
    | some reason => reason
    | none => "manual_admin_block"
  let (row, db) := blockIpWith db payload.ipAddress (some reason) 0 payload.durationSeconds draw.now
  (row, logAdminAction db draw adminId "ip.block" (some "ip") none none .none
    (.dict [("ip_address", .str payload.ipAddress), ("reason", .ofOption payload.reason),
      ("duration_seconds", .int payload.durationSeconds)]) clientIp)

/-- `manually_unblock_ip` -/
def manuallyUnblockIp (ipAddress : String) : Except Exn String × Db :=
  if ipAddress = "" then (.error (.http 400 "ip_address required"), db)
  else
    let (removed, flushed) := unblockIp db ipAddress
    if !removed then (.error (.http 404 "IP is not blocked"), db)
    else
      (.ok ("IP " ++ ipAddress ++ " unblocked."),
        logAdminAction flushed draw adminId "ip.unblock" (some "ip") none none
      (.dict [("ip_address", .str ipAddress)]) .none clientIp)

end

/-! ### The instant until which an address is blocked -/

/-- An instant, or never (`⊥`), or for ever (`⊤`). -/
abbrev Expiry := WithBot (WithTop Instant)

/-- An instant as an expiry. -/
def Expiry.at (t : Instant) : Expiry := WithBot.some (WithTop.some t)

theorem Expiry.at_le_at {t u : Instant} : Expiry.at t ≤ Expiry.at u ↔ t ≤ u := by
  unfold Expiry.at
  exact WithBot.coe_le_coe.trans WithTop.coe_le_coe

theorem Expiry.at_lt_at {t u : Instant} : Expiry.at t < Expiry.at u ↔ t < u := by
  unfold Expiry.at
  exact WithBot.coe_lt_coe.trans WithTop.coe_lt_coe

theorem Expiry.at_lt_top {t : Instant} : Expiry.at t < ⊤ := by
  unfold Expiry.at
  exact WithBot.coe_lt_coe.mpr (WithTop.coe_lt_top t)

/-- The expiry of a row; a null `expires_at` never comes. -/
def IpBlocklist.expiry (row : IpBlocklist) : Expiry :=
  match row.expiresAt with
  | none => ⊤
  | some t => .at t

/-- The instant until which `is_ip_blocked` is true of an address; an empty text is no address. -/
def blockedUntil (db : Db) (a : String) : Expiry :=
  if a = "" then ⊥ else (db.ipBlocklist.find? a).elim ⊥ IpBlocklist.expiry

section

variable {db db' : Db} {a b : String} {now : Instant}

theorem blockedUntil_congr (h : db'.ipBlocklist.find? a = db.ipBlocklist.find? a) :
    blockedUntil db' a = blockedUntil db a := by
  unfold blockedUntil
  rw [h]

theorem blockedUntil_of_find? {row : IpBlocklist} (ha : a ≠ "") (h : db.ipBlocklist.find? a = some row) :
    blockedUntil db a = row.expiry := by
  unfold blockedUntil
  rw [if_neg ha, h]
  rfl

theorem blockedUntil_of_unlisted (h : db.ipBlocklist.find? a = none) : blockedUntil db a = ⊥ := by
  unfold blockedUntil
  rw [h]
  simp

/-- `is_ip_blocked` is true until then. -/
theorem isIpBlocked_iff : (isIpBlocked db (some a) now).1 = true ↔ Expiry.at now < blockedUntil db a := by
  unfold isIpBlocked
  by_cases ha : a = ""
  · subst ha
    have hnone : (some "").filter (fun x => decide (x ≠ "")) = none := rfl
    rw [hnone]
    simp [blockedUntil]
  · rw [Option.filter_some, if_pos (by simpa using ha), Option.bind_some]
    cases hrow : db.ipBlocklist.find? a with
    | none => simp [blockedUntil_of_unlisted hrow]
    | some row =>
      rw [blockedUntil_of_find? ha hrow]
      unfold IpBlocklist.expiry
      cases hexpires : row.expiresAt with
      | none => simp [hexpires, Expiry.at_lt_top]
      | some t =>
        by_cases ht : t ≤ now
        · simp [hexpires, ht, Expiry.at_lt_at]
        · have hlater : now < t := not_le.mp ht
          simp [hexpires, ht, hlater, Expiry.at_lt_at]

/-! ### What the writes do to it -/

/-- The expiry that `block_ip` writes. -/
def newExpiry (durationSeconds : Nat) (now : Instant) : Expiry :=
  if durationSeconds = 0 then ⊤ else .at (now + seconds durationSeconds)

/-- `block_ip` leaves one row of the address, with the new expiry, and the other rows as they are. -/
theorem blockIpWith_listed (db : Db) (a : String) (reason : Option String)
    (failedAttempts durationSeconds : Nat) (now : Instant) :
    ∃ row : IpBlocklist, row.expiry = newExpiry durationSeconds now ∧
      ∀ k, (blockIpWith db a reason failedAttempts durationSeconds now).2.ipBlocklist.find? k =
        if k = a then some row else db.ipBlocklist.find? k := by
  have hexpiry : ∀ row : IpBlocklist,
      row.expiresAt = (if durationSeconds = 0 then none else some (now + seconds durationSeconds)) →
        row.expiry = newExpiry durationSeconds now := by
    intro row hrow
    unfold IpBlocklist.expiry newExpiry
    rw [hrow]
    by_cases hzero : durationSeconds = 0
    · simp [hzero]
    · simp [hzero]
  unfold blockIpWith
  extract_lets expiresAt new
  cases hfound : db.ipBlocklist.find? a with
  | some row =>
    obtain rfl : row.ipAddress = a := (Table.find?_some hfound).2
    exact ⟨_, hexpiry _ rfl, Table.find?_update_found hfound⟩
  | none =>
    exact ⟨new, hexpiry new rfl, Table.find?_insert_fresh (r := new) (Table.fresh_iff_find?.mpr hfound)⟩

/-- A block lasts for its own duration, and the other blocks stay. -/
theorem blockedUntil_blockIpWith {reason : Option String} {failedAttempts durationSeconds : Nat}
    (ha : a ≠ "") :
    blockedUntil (blockIpWith db a reason failedAttempts durationSeconds now).2 b =
      if b = a then newExpiry durationSeconds now else blockedUntil db b := by
  obtain ⟨row, hexpiry, hfind⟩ := blockIpWith_listed db a reason failedAttempts durationSeconds now
  by_cases hb : b = a
  · subst hb
    have hrow :
        (blockIpWith db b reason failedAttempts durationSeconds now).2.ipBlocklist.find? b = some row := by
      rw [hfind, if_pos rfl]
    rw [if_pos rfl, blockedUntil_of_find? ha hrow, hexpiry]
  · rw [if_neg hb]
    exact blockedUntil_congr (by rw [hfind, if_neg hb])

/-- An automatic block is `block_ip` with its default duration. -/
theorem blockIp_eq {reason : String} {failedAttempts : Nat} (hreason : reason ≠ "") :
    blockIp db a reason failedAttempts now =
      (blockIpWith db a (some reason) failedAttempts blockDurationSeconds now).2 := by
  have hduration : blockDurationSeconds ≠ 0 := by decide
  unfold blockIp blockIpWith
  cases db.ipBlocklist.find? a with
  | some row => simp [hreason, hduration]
  | none => simp [hduration]

/-- A failure that stays below the threshold blocks nothing. -/
theorem registerFailedAttemptForIp_of_few {ipAddress : Option String}
    (hfew : ∀ b, ipAddress = some b → b ≠ "" → recentFailuresForIp db b now < defaultFailureThreshold) :
    registerFailedAttemptForIp db ipAddress now = db := by
  unfold registerFailedAttemptForIp
  cases hip : ipAddress.filter (· ≠ "") with
  | none => rfl
  | some b =>
    obtain ⟨hb, hne⟩ := Option.filter_eq_some_iff.mp hip
    exact if_pos (hfew b hb (by simpa using hne))

theorem registerFailedAttemptForIp_loginAttempts {ipAddress : Option String} :
    (registerFailedAttemptForIp db ipAddress now).loginAttempts = db.loginAttempts := by
  unfold registerFailedAttemptForIp
  cases ipAddress.filter (· ≠ "") with
  | none => rfl
  | some b =>
    dsimp only
    split
    · rfl
    · unfold blockIp
      extract_lets expiresAt
      cases db.ipBlocklist.find? b with
      | none => rfl
      | some row => rfl

/-- A failure that reaches the threshold leaves a row of its address, which lasts for an hour from now. -/
theorem registerFailedAttemptForIp_listed (ha : a ≠ "")
    (hmany : defaultFailureThreshold ≤ recentFailuresForIp db a now) :
    ∃ row : IpBlocklist, row.expiry = Expiry.at (now + seconds blockDurationSeconds) ∧
      ∀ k, (registerFailedAttemptForIp db (some a) now).ipBlocklist.find? k =
        if k = a then some row else db.ipBlocklist.find? k := by
  have hblock : registerFailedAttemptForIp db (some a) now =
      blockIp db a "failed_login_threshold_exceeded" (recentFailuresForIp db a now) now := by
    unfold registerFailedAttemptForIp
    rw [Option.filter_some, if_pos (by simpa using ha)]
    exact if_neg (not_lt.mpr hmany)
  rw [hblock, blockIp_eq (by decide)]
  obtain ⟨row, hexpiry, hfind⟩ := blockIpWith_listed db a (some "failed_login_threshold_exceeded")
    (recentFailuresForIp db a now) blockDurationSeconds now
  exact ⟨row, hexpiry.trans (if_neg (by decide)), hfind⟩

/-- An address whose failures reach the threshold is blocked for an hour from now; the other blocks stay. -/
theorem blockedUntil_registerFailedAttemptForIp {ipAddress : Option String} :
    blockedUntil (registerFailedAttemptForIp db ipAddress now) b =
      if ipAddress = some b ∧ b ≠ "" ∧ defaultFailureThreshold ≤ recentFailuresForIp db b now
      then Expiry.at (now + seconds blockDurationSeconds) else blockedUntil db b := by
  by_cases hfew : ∀ c, ipAddress = some c → c ≠ "" → recentFailuresForIp db c now < defaultFailureThreshold
  · rw [registerFailedAttemptForIp_of_few hfew, if_neg]
    rintro ⟨hb, hne, hmany⟩
    have := hfew b hb hne
    omega
  · push Not at hfew
    obtain ⟨c, rfl, hc, hmany⟩ := hfew
    obtain ⟨row, hexpiry, hfind⟩ := registerFailedAttemptForIp_listed hc hmany
    by_cases hb : b = c
    · subst hb
      have hrow : (registerFailedAttemptForIp db (some b) now).ipBlocklist.find? b = some row := by
        rw [hfind, if_pos rfl]
      rw [blockedUntil_of_find? hc hrow, hexpiry, if_pos ⟨rfl, hc, hmany⟩]
    · rw [if_neg fun h => hb (Option.some.inj h.1).symm]
      exact blockedUntil_congr (by rw [hfind, if_neg hb])

/-! ### Failures of an address -/

/-- When the failed attempts of an address were made. -/
def failureTimes (db : Db) (a : String) : List Instant :=
  (db.loginAttempts.select fun r => r.ipAddress == some a && !r.success).map (·.timestamp)

theorem failureTimes_congr (h : db'.loginAttempts = db.loginAttempts) :
    failureTimes db' a = failureTimes db a := by
  unfold failureTimes
  rw [h]

/-- The window looks at these times only. -/
theorem recentFailuresForIp_eq :
    recentFailuresForIp db a now = (failureTimes db a).countP fun t => decide (now ≤ t + minutes 15) := by
  unfold recentFailuresForIp failureTimes Table.select
  rw [List.countP_map, List.countP_eq_length_filter, List.filter_filter]
  congr 2
  funext r
  exact Bool.and_comm _ _

section

variable {lower : String → String} {id : Uuid} {email : String} {reason ipAddress : Option String}

/-- Recording a failure adds its time to the failures of its address. -/
theorem failureTimes_record (hfresh : db.loginAttempts.Fresh id) :
    failureTimes (recordLoginAttempt lower db id now email ipAddress false reason) a =
      failureTimes db a ++ if ipAddress = some a then [now] else [] := by
  unfold failureTimes recordLoginAttempt Table.select
  rw [Table.rows_insert hfresh, List.filter_append, List.map_append]
  by_cases ha : ipAddress = some a
  · simp [ha]
  · simp [ha]

/-- Recording a success adds nothing. -/
theorem failureTimes_success (hfresh : db.loginAttempts.Fresh id) :
    failureTimes (recordLoginAttempt lower db id now email ipAddress true reason) a = failureTimes db a := by
  unfold failureTimes recordLoginAttempt Table.select
  rw [Table.rows_insert hfresh, List.filter_append]
  simp

theorem recentFailuresForIp_record (hfresh : db.loginAttempts.Fresh id) :
    recentFailuresForIp (recordLoginAttempt lower db id now email (some a) false reason) a now =
      recentFailuresForIp db a now + 1 := by
  rw [recentFailuresForIp_eq, recentFailuresForIp_eq, failureTimes_record hfresh, if_pos rfl,
    List.countP_append]
  simp

end

/-! ### The administrators -/

theorem manuallyBlockIp_loginAttempts (db : Db) (draw : Draw) (clientIp : Option String) (adminId : Uuid)
    (payload : IpBlockCreateRequest) :
    (manuallyBlockIp db draw clientIp adminId payload).2.loginAttempts = db.loginAttempts := by
  unfold manuallyBlockIp blockIpWith
  cases db.ipBlocklist.find? payload.ipAddress with
  | none => rfl
  | some row => rfl

theorem manuallyUnblockIp_loginAttempts (db : Db) (draw : Draw) (clientIp : Option String) (adminId : Uuid)
    (a : String) :
    (manuallyUnblockIp db draw clientIp adminId a).2.loginAttempts = db.loginAttempts := by
  unfold manuallyUnblockIp unblockIp
  by_cases ha : a = ""
  · rw [if_pos ha]
  · rw [if_neg ha]
    cases db.ipBlocklist.find? a with
    | none => rfl
    | some row => rfl

/-- The routes of an administrator leave the other addresses as they are. -/
theorem blockedUntil_manuallyBlockIp {draw : Draw} {clientIp : Option String} {adminId : Uuid}
    {payload : IpBlockCreateRequest} (hb : b ≠ payload.ipAddress) :
    blockedUntil (manuallyBlockIp db draw clientIp adminId payload).2 b = blockedUntil db b := by
  have haddress : payload.ipAddress ≠ "" := by
    intro hempty
    have hlength := payload.ipAddress_length.1
    rw [hempty] at hlength
    cases hlength
  exact (blockedUntil_blockIpWith haddress).trans (if_neg hb)

theorem blockedUntil_manuallyUnblockIp {draw : Draw} {clientIp : Option String} {adminId : Uuid}
    (hb : b ≠ a) :
    blockedUntil (manuallyUnblockIp db draw clientIp adminId a).2 b = blockedUntil db b := by
  unfold manuallyUnblockIp unblockIp
  by_cases ha : a = ""
  · rw [if_pos ha]
  · rw [if_neg ha]
    cases hfound : db.ipBlocklist.find? a with
    | none => rfl
    | some row =>
      have hkey : row.ipAddress = a := (Table.find?_some hfound).2
      refine blockedUntil_congr ?_
      show (db.ipBlocklist.delete row.ipAddress).find? b = _
      rw [Table.find?_delete, hkey, if_neg hb]

end

end RatingLift
