import RatingLift.Auth.Bootstrap
import RatingLift.Auth.Effects
import RatingLift.Connectors.Names
import RatingLift.Library.Ensure

/-!
# The seeders

`run_seeders` runs on every startup: `seed_admins`, which commits every administrator on its own, and
`seed_connectors`, which commits once.  What a seeder raises is logged; after a refused flush the session
takes no further statement.

* (`SeedFrame`) the seeders append rows and change none;
* (`runSeeders_again`) a second run leaves the database as it is;
* (`seeding_idempotent`) so do all together, and neither the emails nor the live connector names lose their
  uniqueness.
-/

namespace RatingLift

open Library Fallible

/-- What an entry of `ADMINS` can make `_seed_one` raise: at its lookup, when the password of a missing
administrator is hashed, or when the row is flushed. -/
inductive SeedFault where
  | lookup | hash | flush
deriving DecidableEq

section

variable {τ : Type} (env : AuthEnv τ) (fault : AdminSeed → Option SeedFault)

/-- `entry.email.strip().lower()` -/
def AdminSeed.key (entry : AdminSeed) : String := env.lower (Py.strip entry.email)

/-- `_seed_one` returns before its lookup. -/
def AdminSeed.skipped (entry : AdminSeed) : Bool :=
  entry.key env == "" || entry.password == "" || (seedRole entry.role).isNone

/-- The row that the lookup of `_seed_one` finds. -/
def AdminSeed.existing (db : Db) (entry : AdminSeed) : Option User :=
  db.users.first fun u => u.email == entry.key env

/-- What `_seed_one` raises. -/
def AdminSeed.raises (db : Db) (entry : AdminSeed) : Option SeedFault :=
  if entry.skipped env then none
  else
    match fault entry with
    | none => none
    | some .lookup => some .lookup
    | some later => if (entry.existing env db).isSome then none else some later

/-- The database after `_seed_one`, or what it raises. -/
def seedAdmin (db : Db) (x : AdminSeed × AuthDraw) : Except SeedFault Db :=
  match x.1.raises env fault db with
  | some f => .error f
  | none => .ok (seedOne env db x.2 x.1).2

/-- The loop of `seed_admins` from an entry on: the database and what stopped it. -/
def seedAdminsUntil (seen : List String) (db : Db) : List (AdminSeed × AuthDraw) → Db × Option SeedFault
  | [] => (db, none)
  | x :: entries =>
    if seen.contains (x.1.key env) then seedAdminsUntil seen db entries
    else
      match seedAdmin env fault db x with
      | .error f => (db, some f)
      | .ok db => seedAdminsUntil (x.1.key env :: seen) db entries

/-- `run_seeders`, over the entries of `ADMINS` with what each draws and the ids of new connectors. -/
def runSeeders (cenv : ConnectorEnv) (db : Db) (entries : List (AdminSeed × AuthDraw))
    (id : Nat → Uuid) : Db :=
  match seedAdminsUntil env fault [] db entries with
  | (db, some .flush) => db
  | (db, _) =>
    match seedConnectors cenv db id with
    | .ok db => db
    | .error _ => db

/-- The entries that the loop does not skip as duplicates. -/
def unseenSeeds (seen : List String) : List (AdminSeed × AuthDraw) → List (AdminSeed × AuthDraw)
  | [] => []
  | x :: entries =>
    if seen.contains (x.1.key env) then unseenSeeds seen entries
    else x :: unseenSeeds (x.1.key env :: seen) entries

end

/-- Rows were appended to the tables of the users, the connectors and the audit log, and nothing else
changed. -/
structure SeedFrame (db db' : Db) : Prop where
  users : db.users.rows <+: db'.users.rows
  connectors : db.connectors.rows <+: db'.connectors.rows
  auditLogs : db.auditLogs.rows <+: db'.auditLogs.rows
  others : { db' with users := db.users, connectors := db.connectors, auditLogs := db.auditLogs } = db

theorem SeedFrame.refl (db : Db) : SeedFrame db db :=
  ⟨List.prefix_rfl, List.prefix_rfl, List.prefix_rfl, rfl⟩

theorem SeedFrame.trans {db db' db'' : Db} (h : SeedFrame db db') (h' : SeedFrame db' db'') :
    SeedFrame db db'' where
  users := h.users.trans h'.users
  connectors := h.connectors.trans h'.connectors
  auditLogs := h.auditLogs.trans h'.auditLogs
  others := by
    rw [← h.others, ← h'.others]

/-- A row that is inserted, or refused, comes after the others. -/
theorem prefix_insert {ρ κ : Type} [Keyed ρ κ] [DecidableEq κ] (t : Table ρ) (r : ρ) :
    t.rows <+: (t.insert r).rows := by
  unfold Table.insert
  split
  · exact List.prefix_rfl
  · exact List.prefix_append _ _

/-- No two users have the same email, which the unique constraint on the column says. -/
def EmailsUnique (users : Table User) : Prop := ∀ a ∈ users, ∀ b ∈ users, a.email = b.email → a = b

/-- At most one row carries an email. -/
theorem EmailsUnique.select_le_one {users : Table User} (h : EmailsUnique users) (email : String) :
    (users.select fun user => user.email == email).length ≤ 1 := by
  have hnodup : (users.select fun user => user.email == email).Nodup := by
    unfold Table.select
    exact users.nodup.of_map.filter _
  have hsame : ∀ a ∈ users.select (fun user => user.email == email),
      ∀ b ∈ users.select (fun user => user.email == email),
      a = b := by
    intro a ha b hb
    obtain ⟨hmem, hemail⟩ := Table.mem_select.mp ha
    obtain ⟨hmem', hemail'⟩ := Table.mem_select.mp hb
    rw [beq_iff_eq] at hemail hemail'
    exact h a hmem b hmem' (hemail.trans hemail'.symm)
  generalize users.select (fun user => user.email == email) = rows at hnodup hsame
  cases rows with
  | nil => simp
  | cons a rows =>
    cases rows with
    | nil => simp
    | cons b rows =>
      obtain rfl := hsame a (by simp) b (by simp)
      simp at hnodup

/-- The ids that the database generates for the administrators are new. -/
structure NewUserIds (users : Table User) (entries : List (AdminSeed × AuthDraw)) : Prop where
  nodup : (entries.map fun x => x.2.userId).Nodup
  fresh : ∀ x ∈ entries, users.Fresh x.2.userId

/-- No two live connectors have names that differ in case only. -/
def LiveNamesUnique (cenv : ConnectorEnv) (connectors : Table Connector) : Prop :=
  ∀ a ∈ connectors, ∀ b ∈ connectors, a.isDeleted = false → b.isDeleted = false → a.id ≠ b.id →
    cenv.pgLower a.name ≠ cenv.pgLower b.name

section

variable {τ : Type} {env : AuthEnv τ} {fault : AdminSeed → Option SeedFault} {db db' : Db} {entry : AdminSeed}
  {draw : AuthDraw} {entries : List (AdminSeed × AuthDraw)}

/-! ### Administrators -/

/-- What `_seed_one` does to the database: nothing, or it adds the missing row and an audit row. -/
theorem seedOne_cases (env : AuthEnv τ) (db : Db) (draw : AuthDraw) (entry : AdminSeed) :
    (entry.skipped env = true ∧ (seedOne env db draw entry).2 = db) ∨
      (entry.skipped env = false ∧ (∃ user, entry.existing env db = some user) ∧
        (seedOne env db draw entry).2 = db) ∨
      (entry.skipped env = false ∧ entry.existing env db = none ∧ ∃ admin row,
        admin.id = draw.userId ∧ admin.email = entry.key env ∧
          (seedOne env db draw entry).2 =
            { db with users := db.users.insert admin, auditLogs := db.auditLogs.insert row }) := by
  unfold seedOne
  extract_lets email
  by_cases hblank : email = "" ∨ entry.password = ""
  · left
    rw [if_pos hblank]
    refine ⟨?_, rfl⟩
    unfold AdminSeed.skipped
    rcases hblank with hemail | hpassword
    · have hkey : entry.key env = "" := hemail
      simp [hkey]
    · simp [hpassword]
  rw [if_neg hblank]
  have hkey : entry.key env ≠ "" := fun h => hblank (Or.inl h)
  have hpassword : entry.password ≠ "" := fun h => hblank (Or.inr h)
  have hskipped : entry.skipped env = (seedRole entry.role).isNone := by
    unfold AdminSeed.skipped
    simp [hkey, hpassword]
  cases hrole : seedRole entry.role with
  | none =>
    left
    rw [hskipped, hrole]
    exact ⟨rfl, rfl⟩
  | some role =>
    right
    rw [hskipped, hrole]
    have hexisting : entry.existing env db = db.users.first fun u => u.email == email := rfl
    rw [hexisting]
    cases hfound : db.users.first fun u => u.email == email with
    | some user => exact Or.inl ⟨rfl, ⟨user, rfl⟩, rfl⟩
    | none => exact Or.inr ⟨rfl, rfl, seededAdmin env draw entry email role, _, rfl, rfl, rfl⟩

theorem seedOne_frame (env : AuthEnv τ) (db : Db) (draw : AuthDraw) (entry : AdminSeed) :
    SeedFrame db (seedOne env db draw entry).2 := by
  rcases seedOne_cases env db draw entry with ⟨_, h⟩ | ⟨_, _, h⟩ | ⟨_, _, admin, row, _, _, h⟩
  · rw [h]
    exact .refl db
  · rw [h]
    exact .refl db
  · rw [h]
    exact ⟨prefix_insert _ _, List.prefix_rfl, prefix_insert _ _, rfl⟩

theorem seedAdmin_ok {x : AdminSeed × AuthDraw} (h : seedAdmin env fault db x = .ok db') :
    x.1.raises env fault db = none ∧ db' = (seedOne env db x.2 x.1).2 := by
  unfold seedAdmin at h
  split at h
  · cases h
  · rename_i hnone
    exact ⟨hnone, (Except.ok.inj h).symm⟩

/-- Nothing is left to do for the entry, and its lookup does not raise. -/
def AdminSeed.Settled (env : AuthEnv τ) (fault : AdminSeed → Option SeedFault) (db : Db)
    (entry : AdminSeed) : Prop :=
  entry.skipped env = true ∨ (fault entry ≠ some .lookup ∧ ∃ user ∈ db.users, user.email = entry.key env)

/-- A step settles its entry. -/
theorem seedAdmin_settles {x : AdminSeed × AuthDraw} (hfresh : db.users.Fresh x.2.userId)
    (h : seedAdmin env fault db x = .ok db') : x.1.Settled env fault db' := by
  obtain ⟨hraises, rfl⟩ := seedAdmin_ok h
  have hlookup : x.1.skipped env = false → fault x.1 ≠ some .lookup := by
    intro hskipped hfault
    unfold AdminSeed.raises at hraises
    simp [hskipped, hfault] at hraises
  rcases seedOne_cases env db x.2 x.1 with ⟨hskipped, _⟩ | ⟨hskipped, ⟨user, hfound⟩, heq⟩ |
    ⟨hskipped, _, admin, row, hid, hemail, heq⟩
  · exact Or.inl hskipped
  · obtain ⟨hmem, huser⟩ := Table.first_some hfound
    right
    rw [heq]
    exact ⟨hlookup hskipped, user, hmem, by simpa using huser⟩
  · right
    rw [heq]
    refine ⟨hlookup hskipped, admin, ?_, hemail⟩
    have hnew : db.users.Fresh admin.id := by
      rw [hid]
      exact hfresh
    exact (Table.mem_insert hnew).mpr (Or.inr rfl)

/-- A settled entry is left alone, whatever it draws. -/
theorem seedAdmin_settled {x : AdminSeed × AuthDraw} (h : x.1.Settled env fault db) :
    seedAdmin env fault db x = .ok db := by
  have hexists : x.1.skipped env = true ∨ ∃ user, x.1.existing env db = some user := by
    rcases h with h | ⟨_, user, huser, hemail⟩
    · exact Or.inl h
    · right
      rw [← Option.isSome_iff_exists, Option.isSome_iff_ne_none]
      intro hnone
      have := Table.first_eq_none.mp hnone user huser
      simp [hemail] at this
  have hraises : x.1.raises env fault db = none := by
    unfold AdminSeed.raises
    rcases h with h | ⟨hfault, _⟩
    · simp [h]
    · rcases hexists with hskipped | ⟨user, hfound⟩
      · simp [hskipped]
      · cases hf : fault x.1 with
        | none => simp
        | some f =>
          cases f with
          | lookup => exact absurd hf hfault
          | hash => simp [hfound]
          | flush => simp [hfound]
  have hsame : (seedOne env db x.2 x.1).2 = db := by
    rcases seedOne_cases env db x.2 x.1 with ⟨_, heq⟩ | ⟨_, _, heq⟩ | ⟨hskipped, hnone, _⟩
    · exact heq
    · exact heq
    · rcases hexists with h | ⟨user, hfound⟩
      · rw [hskipped] at h
        cases h
      · rw [hnone] at hfound
        cases hfound
  unfold seedAdmin
  rw [hraises, hsame]

/-- The loop makes sure of the entries that are no duplicates. -/
theorem seedAdminsUntil_eq (entries : List (AdminSeed × AuthDraw)) : ∀ (seen : List String) (db : Db),
    seedAdminsUntil env fault seen db entries =
      ensureAll (seedAdmin env fault) db (unseenSeeds env seen entries) := by
  induction entries with
  | nil => intro seen db; rfl
  | cons x entries ih =>
    intro seen db
    unfold seedAdminsUntil unseenSeeds
    by_cases hseen : seen.contains (x.1.key env) = true
    · rw [if_pos hseen, if_pos hseen]
      exact ih seen db
    · rw [if_neg hseen, if_neg hseen]
      cases hstep : seedAdmin env fault db x with
      | error f => rw [ensureAll_cons_error hstep]
      | ok db' =>
        rw [ensureAll_cons_ok hstep]
        exact ih _ db'

/-- Where nothing is raised, the loop is `seed_admins` as it is. -/
theorem seedAdminsUntil_of_no_fault (entries : List (AdminSeed × AuthDraw)) :
    ∀ (seen : List String) (db : Db),
    seedAdminsUntil env (fun _ => none) seen db entries = ((seedFrom env seen db entries).2, none) := by
  induction entries with
  | nil => intro seen db; rfl
  | cons x entries ih =>
    intro seen db
    have hstep : seedAdmin env (fun _ => none) db x = .ok (seedOne env db x.2 x.1).2 := by
      unfold seedAdmin AdminSeed.raises
      simp
    unfold seedAdminsUntil seedFrom
    by_cases hseen : seen.contains (x.1.key env) = true
    · rw [if_pos hseen]
      have hseen' : seen.contains (env.lower (Py.strip x.1.email)) = true := hseen
      simp only [hseen', ↓reduceIte]
      exact ih seen db
    · rw [if_neg hseen, hstep]
      have hseen' : seen.contains (env.lower (Py.strip x.1.email)) ≠ true := hseen
      simp only [hseen']
      exact ih _ _

theorem mem_unseenSeeds (entries : List (AdminSeed × AuthDraw)) : ∀ seen : List String,
    List.Sublist (unseenSeeds env seen entries) entries := by
  induction entries with
  | nil => intro seen; exact .slnil
  | cons x entries ih =>
    intro seen
    unfold unseenSeeds
    split
    · exact (ih seen).cons x
    · exact (ih _).cons_cons x

/-- Which entries are duplicates does not depend on what they draw. -/
theorem unseenSeeds_same {entries entries' : List (AdminSeed × AuthDraw)}
    (h : List.Forall₂ (fun x x' => x.1 = x'.1) entries entries') : ∀ seen : List String,
    List.Forall₂ (fun x x' => x.1 = x'.1) (unseenSeeds env seen entries) (unseenSeeds env seen entries') := by
  induction h with
  | nil => intro seen; exact .nil
  | @cons x x' entries entries' hx _ ih =>
    intro seen
    unfold unseenSeeds
    rw [← hx]
    split
    · exact ih seen
    · exact .cons hx (ih _)

theorem NewUserIds.sublist {users : Table User} {entries' : List (AdminSeed × AuthDraw)}
    (h : NewUserIds users entries) (hsub : List.Sublist entries' entries) : NewUserIds users entries' where
  nodup := h.nodup.sublist (hsub.map _)
  fresh x hx := h.fresh x (hsub.subset hx)

/-- A step settles its entry, and the ids of the others are still new. -/
theorem seedAdmin_step {x : AdminSeed × AuthDraw} (hnew : NewUserIds db.users (x :: entries))
    (h : seedAdmin env fault db x = .ok db') : x.1.Settled env fault db' ∧ NewUserIds db'.users entries := by
  refine ⟨seedAdmin_settles (hnew.fresh x List.mem_cons_self) h, ?_⟩
  obtain ⟨_, rfl⟩ := seedAdmin_ok h
  have hnodup := hnew.nodup
  rw [List.map_cons, List.nodup_cons] at hnodup
  refine ⟨hnodup.2, ?_⟩
  intro y hy user huser
  have hold : user ∈ db.users → user.id ≠ y.2.userId := hnew.fresh y (List.mem_cons_of_mem _ hy) user
  rcases seedOne_cases env db x.2 x.1 with ⟨_, heq⟩ | ⟨_, _, heq⟩ | ⟨_, _, admin, row, hid, _, heq⟩
  · rw [heq] at huser
    exact hold huser
  · rw [heq] at huser
    exact hold huser
  · rw [heq] at huser
    rcases Table.mem_of_mem_insert huser with huser | rfl
    · exact hold huser
    · intro hsame
      apply hnodup.1
      rw [List.mem_map]
      exact ⟨y, hy, hsame.symm.trans hid⟩

theorem AdminSeed.Settled.mono (h : entry.Settled env fault db)
    (husers : ∀ user ∈ db.users, user ∈ db'.users) :
    entry.Settled env fault db' := by
  rcases h with hskipped | ⟨hfault, user, huser, hemail⟩
  · exact Or.inl hskipped
  · exact Or.inr ⟨hfault, user, husers user huser, hemail⟩

/-- What an entry raises depends on the users only. -/
theorem seedAdmin_error {x x' : AdminSeed × AuthDraw} {f : SeedFault} (hsame : x.1 = x'.1)
    (husers : db'.users = db.users) (h : seedAdmin env fault db x = .error f) :
    seedAdmin env fault db' x' = .error f := by
  have hraises : x'.1.raises env fault db' = x.1.raises env fault db := by
    unfold AdminSeed.raises AdminSeed.existing
    rw [hsame, husers]
  unfold seedAdmin at h ⊢
  rw [hraises]
  cases hf : x.1.raises env fault db with
  | none =>
    rw [hf] at h
    cases h
  | some f' =>
    rw [hf] at h
    exact h

/-- A second pass over the administrators changes nothing, and ends as the first one did. -/
theorem seedAdmins_again (env : AuthEnv τ) (fault : AdminSeed → Option SeedFault)
    {entries' : List (AdminSeed × AuthDraw)} (hsame : List.Forall₂ (fun x x' => x.1 = x'.1) entries entries')
    (hnew : NewUserIds db.users entries)
    (husers : db'.users = (seedAdminsUntil env fault [] db entries).1.users) :
    seedAdminsUntil env fault [] db' entries' = (db', (seedAdminsUntil env fault [] db entries).2) := by
  rw [seedAdminsUntil_eq] at husers
  rw [seedAdminsUntil_eq, seedAdminsUntil_eq]
  refine ensureAll_again (D := fun db x => x.1.Settled env fault db) (I := fun db l => NewUserIds db.users l)
    (R := fun x x' => x.1 = x'.1) ?_ ?_ ?_ ?_ (unseenSeeds_same hsame [])
    (hnew.sublist (mem_unseenSeeds entries [])) rfl
  · intro db x l db' hl hstep
    exact seedAdmin_step hl hstep
  · intro db x y db' hstep hx
    obtain ⟨_, rfl⟩ := seedAdmin_ok hstep
    exact hx.mono fun user huser => (seedOne_frame env db y.2 y.1).users.subset huser
  · intro x x' hx hsettled
    apply seedAdmin_settled
    rw [← hx]
    exact hsettled.mono fun user huser => by rw [husers]; exact huser
  · intro x x' f hx _ hstep
    exact seedAdmin_error hx husers hstep

theorem seedAdminsUntil_frame (seen : List String) :
    SeedFrame db (seedAdminsUntil env fault seen db entries).1 := by
  rw [seedAdminsUntil_eq]
  refine ensureAll_keeps (P := SeedFrame db) ?_ (.refl db)
  intro db₁ x db₂ _ hstep h
  obtain ⟨_, rfl⟩ := seedAdmin_ok hstep
  exact h.trans (seedOne_frame env db₁ x.2 x.1)

/-- `seedAdmins` adds users and audit rows. -/
theorem seedAdmins_frame (env : AuthEnv τ) (db : Db) (entries : List (AdminSeed × AuthDraw)) :
    SeedFrame db (seedAdmins env db entries).2 := by
  have hframe : SeedFrame db (seedAdminsUntil env (fun _ => none) [] db entries).1 := seedAdminsUntil_frame []
  rw [seedAdminsUntil_of_no_fault] at hframe
  exact hframe

theorem seedAdminsUntil_connectors (seen : List String) :
    (seedAdminsUntil env fault seen db entries).1.connectors = db.connectors := by
  rw [seedAdminsUntil_eq]
  refine ensureAll_keeps (P := fun db' : Db => db'.connectors = db.connectors) ?_ rfl
  intro db₁ x db₂ _ hstep h
  obtain ⟨_, rfl⟩ := seedAdmin_ok hstep
  rcases seedOne_cases env db₁ x.2 x.1
    with ⟨_, heq⟩ | ⟨_, _, heq⟩ | ⟨_, _, admin, row, _, _, heq⟩ <;> rw [heq] <;>
    exact h

/-- The lookup keeps the emails unique. -/
theorem seedAdminsUntil_emails (env : AuthEnv τ) (fault : AdminSeed → Option SeedFault)
    (entries : List (AdminSeed × AuthDraw)) (seen : List String) (h : EmailsUnique db.users) :
    EmailsUnique (seedAdminsUntil env fault seen db entries).1.users := by
  rw [seedAdminsUntil_eq]
  refine ensureAll_keeps (P := fun db : Db => EmailsUnique db.users) ?_ h
  intro db₁ x db₂ _ hstep hunique
  obtain ⟨_, rfl⟩ := seedAdmin_ok hstep
  rcases seedOne_cases env db₁ x.2 x.1 with ⟨_, heq⟩ | ⟨_, _, heq⟩ | ⟨_, hnone, admin, row, _, hemail, heq⟩
  · rw [heq]
    exact hunique
  · rw [heq]
    exact hunique
  · rw [heq]
    have hother : ∀ user ∈ db₁.users, user.email ≠ admin.email := by
      intro user huser hsame
      have := Table.first_eq_none.mp hnone user huser
      simp [hsame, hemail] at this
    intro a ha b hb hab
    rcases Table.mem_of_mem_insert ha with hold | rfl
    · rcases Table.mem_of_mem_insert hb with hold' | rfl
      · exact hunique a hold b hold' hab
      · exact absurd hab (hother a hold)
    · rcases Table.mem_of_mem_insert hb with hold' | rfl
      · exact absurd hab.symm (hother b hold')
      · rfl

/-! ### Connectors -/

variable {cenv : ConnectorEnv} {id : Nat → Uuid}

/-- The default connectors with the ids that they get. -/
def seedItems (id : Nat → Uuid) (n : Nat) : List String → List (Uuid × String)
  | [] => []
  | name :: names => (id n, name) :: seedItems id (n + 1) names

/-- The loop of `seed_connectors` makes sure of the default connectors, or fails as a whole. -/
theorem seedConnectorsFrom_eq_ok (names : List String) : ∀ {n : Nat} {db db' : Db},
    seedConnectorsFrom cenv id db n names = .ok db' ↔
      ensureAll (fun db x => seedConnector cenv db x.1 x.2) db (seedItems id n names) = (db', none) := by
  induction names with
  | nil =>
    intro n db db'
    simp [seedConnectorsFrom, seedItems, ensureAll]
  | cons name names ih =>
    intro n db db'
    unfold seedConnectorsFrom seedItems
    cases hstep : seedConnector cenv db (id n) name with
    | error e =>
      rw [ensureAll_cons_error hstep]
      simp
    | ok db₁ =>
      rw [ensureAll_cons_ok hstep, ok_bind]
      exact ih

/-- The items are default connectors, whose ids are new. -/
def PendingConnectors (id : Nat → Uuid) (connectors : Table Connector)
    (items : List (Uuid × String)) : Prop :=
  ∃ n names, items = seedItems id n names ∧ connectors.NewKeys id n (n + names.length) ∧
    ∀ name ∈ names, name ∈ defaultConnectors

/-- A connector of this name exists. -/
def ConnectorSeeded (cenv : ConnectorEnv) (db : Db) (name : String) : Prop :=
  ∃ c ∈ db.connectors, cenv.pgLower c.name = cenv.lower name

/-- A turn of the loop finds the connector, or adds it. -/
theorem seedConnector_cases {connectorId : Uuid} {name : String}
    (hlower : cenv.pgLower name = cenv.lower name) (hfresh : db.connectors.Fresh connectorId) :
    (ConnectorSeeded cenv db name ∧ seedConnector cenv db connectorId name = .ok db) ∨
      (¬ ConnectorSeeded cenv db name ∧ seedConnector cenv db connectorId name =
        .ok { db with connectors := db.connectors.insert (newConnector connectorId name) }) := by
  unfold seedConnector
  cases hfound : db.connectors.first fun c => cenv.pgLower c.name == cenv.lower name with
  | some c =>
    obtain ⟨hc, hname⟩ := Table.first_some hfound
    exact Or.inl ⟨⟨c, hc, by simpa using hname⟩, rfl⟩
  | none =>
    right
    have hnone : ∀ c ∈ db.connectors, cenv.pgLower c.name ≠ cenv.lower name := by
      intro c hc
      simpa using Table.first_eq_none.mp hfound c hc
    have haccept : indexesAccept cenv db.connectors (newConnector connectorId name) = true := by
      rw [indexesAccept_iff]
      intro c hc _
      have hname : (cenv.pgLower c.name == cenv.pgLower name) = false := by
        rw [hlower]
        simpa using hnone c hc
      have hhash : sameHash c (newConnector connectorId name) = false := by
        unfold sameHash newConnector
        cases c.logoSha256 <;> simp
      unfold conflict
      rw [hhash]
      cases cenv.schema with
      | metadata => rfl
      | migrations =>
        show (_ && _ && ((cenv.pgLower c.name == cenv.pgLower name) || false)) = false
        rw [hname]
        simp
    refine ⟨fun ⟨c, hc, hname⟩ => hnone c hc hname, ?_⟩
    dsimp only
    unfold addConnector
    have hfree : (db.connectors.find? (newConnector connectorId name).id) = none :=
      Table.fresh_iff_find?.mp hfresh
    rw [hfree, haccept]
    rfl

/-- A turn of the loop does not fail, and settles its connector. -/
theorem seedConnector_step (hdefaults : DefaultsLowered cenv) {x : Uuid × String}
    {items : List (Uuid × String)} (h : PendingConnectors id db.connectors (x :: items)) :
    ∃ db', seedConnector cenv db x.1 x.2 = .ok db' ∧ ConnectorSeeded cenv db' x.2 ∧
      PendingConnectors id db'.connectors items := by
  obtain ⟨n, names, hitems, hnew, hnames⟩ := h
  cases names with
  | nil => cases hitems
  | cons name names =>
    obtain ⟨rfl, rfl⟩ := List.cons.inj hitems
    have hlen : n + (name :: names).length = n + 1 + names.length := by
      rw [List.length_cons]
      omega
    rw [hlen] at hnew
    have hlower := hdefaults name (hnames name List.mem_cons_self)
    have hfresh : db.connectors.Fresh (id n) := hnew.head (by omega)
    have hrest : ∀ other ∈ names, other ∈ defaultConnectors :=
      fun other h => hnames other (List.mem_cons_of_mem _ h)
    rcases seedConnector_cases hlower hfresh with ⟨hseeded, hstep⟩ | ⟨_, hstep⟩
    · exact ⟨db, hstep, hseeded, n + 1, names, rfl, hnew.tail, hrest⟩
    · refine ⟨_, hstep, ⟨newConnector (id n) name, (Table.mem_insert hfresh).mpr (Or.inr rfl), hlower⟩,
        n + 1, names, rfl,
        ?_, hrest⟩
      exact hnew.insert rfl

/-- `seed_connectors` does not fail when the ids are new. -/
theorem seedConnectors_ok (hdefaults : DefaultsLowered cenv)
    (hnew : db.connectors.NewKeys id 0 defaultConnectors.length) :
    ∃ db', seedConnectors cenv db id = .ok db' ∧
      ensureAll (fun db x => seedConnector cenv db x.1 x.2) db (seedItems id 0 defaultConnectors) =
        (db', none) := by
  have hpending : PendingConnectors id db.connectors (seedItems id 0 defaultConnectors) :=
    ⟨0, defaultConnectors, rfl, by rwa [Nat.zero_add], fun _ h => h⟩
  have hfinished := ensureAll_finished (I := fun db l => PendingConnectors id db.connectors l)
    (f := fun db (x : Uuid × String) => seedConnector cenv db x.1 x.2) ?_ hpending
  · refine ⟨(ensureAll (fun db x => seedConnector cenv db x.1 x.2) db (seedItems id 0 defaultConnectors)).1,
      ?_, ?_⟩
    · exact (seedConnectorsFrom_eq_ok defaultConnectors).mpr (Prod.ext rfl hfinished)
    · exact Prod.ext rfl hfinished
  · intro db x l hl
    obtain ⟨db', hstep, _, hl'⟩ := seedConnector_step hdefaults hl
    exact ⟨db', hstep, hl'⟩

theorem seedConnector_inserts {connectorId : Uuid} {name : String}
    (h : seedConnector cenv db connectorId name = .ok db') : db' = db ∨ (¬ ConnectorSeeded cenv db name ∧
      db' = { db with connectors := db.connectors.insert (newConnector connectorId name) }) := by
  unfold seedConnector at h
  split at h
  · exact Or.inl (Except.ok.inj h).symm
  · rename_i hnone
    obtain ⟨_, _, rfl⟩ := addConnector_ok h
    refine Or.inr ⟨?_, rfl⟩
    rintro ⟨c, hc, hname⟩
    have := Table.first_eq_none.mp hnone c hc
    simp [hname] at this

theorem seedConnector_frame {connectorId : Uuid} {name : String}
    (h : seedConnector cenv db connectorId name = .ok db') : SeedFrame db db' := by
  rcases seedConnector_inserts h with rfl | ⟨_, rfl⟩
  · exact .refl _
  · exact ⟨List.prefix_rfl, prefix_insert _ _, List.prefix_rfl, rfl⟩

/-- The new connector has a name that no live one has. -/
theorem seedConnector_names {connectorId : Uuid} {name : String}
    (hlower : cenv.pgLower name = cenv.lower name) (h : seedConnector cenv db connectorId name = .ok db')
    (hunique : LiveNamesUnique cenv db.connectors) :
    LiveNamesUnique cenv db'.connectors := by
  rcases seedConnector_inserts h with rfl | ⟨hmissing, rfl⟩
  · exact hunique
  · have hother : ∀ c ∈ db.connectors, cenv.pgLower c.name ≠ cenv.pgLower name := by
      intro c hc hsame
      exact hmissing ⟨c, hc, hsame.trans hlower⟩
    intro a ha b hb hlive hlive' hne
    rcases Table.mem_of_mem_insert ha with hold | rfl
    · rcases Table.mem_of_mem_insert hb with hold' | rfl
      · exact hunique a hold b hold' hlive hlive' hne
      · exact hother a hold
    · rcases Table.mem_of_mem_insert hb with hold' | rfl
      · exact (hother b hold').symm
      · exact absurd rfl hne

/-- What every turn of the loop keeps is kept by `seed_connectors`. -/
theorem seedConnectors_keeps {P : Db → Prop} (hstep : ∀ db₁ db₂ connectorId name, name ∈ defaultConnectors →
    seedConnector cenv db₁ connectorId name = .ok db₂ → P db₁ →
      P db₂) (h : seedConnectors cenv db id = .ok db')
    (hdb : P db) : P db' := by
  have hitems : ∀ names n, (∀ name ∈ names, name ∈ defaultConnectors) → ∀ x ∈ seedItems id n names,
      x.2 ∈ defaultConnectors := by
    intro names
    induction names with
    | nil => intro n _ x hx; cases hx
    | cons name names ih =>
      intro n hnames x hx
      rcases List.mem_cons.mp hx with rfl | hx
      · exact hnames name List.mem_cons_self
      · exact ih (n + 1) (fun other h => hnames other (List.mem_cons_of_mem _ h)) x hx
  have hpass := (seedConnectorsFrom_eq_ok defaultConnectors).mp h
  have hkept := ensureAll_keeps (f := fun db (x : Uuid × String) => seedConnector cenv db x.1 x.2)
    (l := seedItems id 0 defaultConnectors)
    (fun db₁ x db₂ hx hok => hstep db₁ db₂ x.1 x.2 (hitems defaultConnectors 0 (fun _ h => h) x hx) hok) hdb
  rw [hpass] at hkept
  exact hkept

/-- A second pass over the connectors changes nothing. -/
theorem seedConnectors_again (hdefaults : DefaultsLowered cenv)
    (hnew : db.connectors.NewKeys id 0 defaultConnectors.length) (h : seedConnectors cenv db id = .ok db')
    (id' : Nat → Uuid) : seedConnectors cenv db' id' = .ok db' := by
  have hfirst := (seedConnectorsFrom_eq_ok defaultConnectors).mp h
  have hpending : PendingConnectors id db.connectors (seedItems id 0 defaultConnectors) :=
    ⟨0, defaultConnectors, rfl, by rwa [Nat.zero_add], fun _ h => h⟩
  have hsame : ∀ names n, List.Forall₂ (fun x y : Uuid × String => x.2 = y.2) (seedItems id n names)
      (seedItems id' n names) := by
    intro names
    induction names with
    | nil => intro n; exact .nil
    | cons name names ih => intro n; exact .cons rfl (ih (n + 1))
  -- no turn of the first pass fails, so none of the second does
  have hall : ∀ (x : Uuid × String), ConnectorSeeded cenv db' x.2 →
      seedConnector cenv db' x.1 x.2 = .ok db' := by
    rintro x ⟨c, hc, hname⟩
    unfold seedConnector
    cases hfound : db'.connectors.first fun c => cenv.pgLower c.name == cenv.lower x.2 with
    | some row => rfl
    | none =>
      have := Table.first_eq_none.mp hfound c hc
      simp [hname] at this
  have hpass := ensureAll_again (g := fun db (x : Uuid × String) => seedConnector cenv db x.1 x.2) (t := db')
    (D := fun db x => ConnectorSeeded cenv db x.2)
      (I := fun db l => PendingConnectors id db.connectors l) ?_ ?_ ?_ ?_
    (hsame defaultConnectors 0) hpending hfirst
  · exact (seedConnectorsFrom_eq_ok defaultConnectors).mpr hpass
  · intro db x l db₁ hl hstep
    obtain ⟨db₂, hstep', hseeded, hl'⟩ := seedConnector_step hdefaults hl
    obtain rfl : db₂ = db₁ := Except.ok.inj (hstep'.symm.trans hstep)
    exact ⟨hseeded, hl'⟩
  · rintro db x y db₁ hstep ⟨c, hc, hname⟩
    exact ⟨c, (seedConnector_frame hstep).connectors.subset hc, hname⟩
  · intro x y hxy hseeded
    apply hall
    rwa [← hxy]
  · rintro x y e _ ⟨⟩

/-! ### All together -/

/-- What `run_seeders` leaves: the administrators, and the connectors unless a flush of an administrator was
refused. -/
theorem runSeeders_cases (env : AuthEnv τ) (fault : AdminSeed → Option SeedFault)
    (entries : List (AdminSeed × AuthDraw)) (hdefaults : DefaultsLowered cenv)
    (hnew : db.connectors.NewKeys id 0 defaultConnectors.length) :
    ((seedAdminsUntil env fault [] db entries).2 = some .flush ∧
      runSeeders env fault cenv db entries id = (seedAdminsUntil env fault [] db entries).1) ∨
      ((seedAdminsUntil env fault [] db entries).2 ≠ some .flush ∧
        seedConnectors cenv (seedAdminsUntil env fault [] db entries).1 id =
          .ok (runSeeders env fault cenv db entries id)) := by
  have hconnectors : (seedAdminsUntil env fault [] db entries).1.connectors = db.connectors :=
    seedAdminsUntil_connectors []
  unfold runSeeders
  generalize seedAdminsUntil env fault [] db entries = admins at hconnectors ⊢
  obtain ⟨dbA, outcome⟩ := admins
  rw [← hconnectors] at hnew
  obtain ⟨dbC, hok, _⟩ := seedConnectors_ok hdefaults hnew
  cases outcome with
  | none => exact Or.inr ⟨by simp, by simp [hok]⟩
  | some f =>
    cases f with
    | flush => exact Or.inl ⟨rfl, rfl⟩
    | lookup => exact Or.inr ⟨by simp, by simp [hok]⟩
    | hash => exact Or.inr ⟨by simp, by simp [hok]⟩

/-- What the administrators keep, and every turn of the loop over the connectors, is kept by `run_seeders`. -/
theorem runSeeders_keeps {P : Db → Prop} (hdefaults : DefaultsLowered cenv)
    (hnew : db.connectors.NewKeys id 0 defaultConnectors.length)
    (hadmins : P (seedAdminsUntil env fault [] db entries).1)
    (hstep : ∀ db₁ db₂ connectorId name, name ∈ defaultConnectors →
      seedConnector cenv db₁ connectorId name = .ok db₂ → P db₁ → P db₂) :
    P (runSeeders env fault cenv db entries id) := by
  rcases runSeeders_cases env fault entries hdefaults hnew with ⟨_, heq⟩ | ⟨_, hconnectors⟩
  · rw [heq]
    exact hadmins
  · exact seedConnectors_keeps hstep hconnectors hadmins

/-- A second run of the seeders leaves the database as it is. -/
theorem runSeeders_again (hdefaults : DefaultsLowered cenv) (husers : NewUserIds db.users entries)
    (hnew : db.connectors.NewKeys id 0 defaultConnectors.length) {entries' : List (AdminSeed × AuthDraw)}
    (hsame : List.Forall₂ (fun x x' => x.1 = x'.1) entries entries') (id' : Nat → Uuid) :
    runSeeders env fault cenv (runSeeders env fault cenv db entries id) entries' id' =
      runSeeders env fault cenv db entries id := by
  rcases runSeeders_cases env fault entries hdefaults hnew with ⟨hflush, heq⟩ | ⟨hgoes, hconnectors⟩
  · have hagain := seedAdmins_again env fault hsame husers (congrArg Db.users heq)
    generalize runSeeders env fault cenv db entries id = db' at hagain ⊢
    unfold runSeeders
    rw [hagain, hflush]
  · have husers' : (runSeeders env fault cenv db entries id).users =
        (seedAdminsUntil env fault [] db entries).1.users := by
      refine seedConnectors_keeps
        (P := fun db' => db'.users = (seedAdminsUntil env fault [] db entries).1.users) ?_
        hconnectors rfl
      intro db₁ db₂ connectorId name _ hstep h
      rcases seedConnector_inserts hstep with rfl | ⟨_, rfl⟩ <;> exact h
    have hagain := seedAdmins_again env fault hsame husers husers'
    have hkeys :
        (seedAdminsUntil env fault [] db entries).1.connectors.NewKeys id 0 defaultConnectors.length := by
      rw [seedAdminsUntil_connectors]
      exact hnew
    have hagainConnectors := seedConnectors_again hdefaults hkeys hconnectors id'
    generalize runSeeders env fault cenv db entries id = db' at hagain hagainConnectors ⊢
    generalize (seedAdminsUntil env fault [] db entries).2 = outcome at hgoes hagain
    unfold runSeeders
    rw [hagain]
    cases outcome with
    | none => simp [hagainConnectors]
    | some f =>
      cases f with
      | flush => exact absurd rfl hgoes
      | lookup => simp [hagainConnectors]
      | hash => simp [hagainConnectors]

end

/-- The seeders, run a second time with whatever they draw then, leave the database as it is; they append rows
and change none; and neither the emails nor the live connector names lose their uniqueness. -/
theorem seeding_idempotent {τ : Type} (env : AuthEnv τ) (fault : AdminSeed → Option SeedFault)
    (cenv : ConnectorEnv) (hdefaults : DefaultsLowered cenv) (db : Db) (entries : List (AdminSeed × AuthDraw))
    (id : Nat → Uuid) (husers : NewUserIds db.users entries)
    (hnew : db.connectors.NewKeys id 0 defaultConnectors.length) :
    (∀ (entries' : List (AdminSeed × AuthDraw)) (id' : Nat → Uuid),
      entries'.map Prod.fst = entries.map Prod.fst →
        runSeeders env fault cenv (runSeeders env fault cenv db entries id) entries' id' =
          runSeeders env fault cenv db entries id) ∧
      SeedFrame db (runSeeders env fault cenv db entries id) ∧
      (EmailsUnique db.users → EmailsUnique (runSeeders env fault cenv db entries id).users ∧
        ∀ entry ∈ entries.map Prod.fst, ((runSeeders env fault cenv db entries id).users.select
          fun user => user.email == entry.key env).length ≤ 1) ∧
      (LiveNamesUnique cenv db.connectors →
        LiveNamesUnique cenv (runSeeders env fault cenv db entries id).connectors) := by
  have hemails : EmailsUnique db.users → EmailsUnique (runSeeders env fault cenv db entries id).users := by
    intro hunique
    have hadmins := seedAdminsUntil_emails env fault entries [] hunique
    refine runSeeders_keeps (P := fun db' => EmailsUnique db'.users) hdefaults hnew hadmins ?_
    intro db₁ db₂ connectorId name _ hstep h
    rcases seedConnector_inserts hstep with rfl | ⟨_, rfl⟩ <;> exact h
  refine ⟨?_, ?_, ?_, ?_⟩
  · intro entries' id' hsame
    have hmapped : List.Forall₂ (· = ·) (entries.map Prod.fst) (entries'.map Prod.fst) := by
      rw [List.forall₂_eq_eq_eq]
      exact hsame.symm
    have hpairs : List.Forall₂ (fun x x' : AdminSeed × AuthDraw => x.1 = x'.1) entries entries' :=
      List.forall₂_map_right_iff.mp (List.forall₂_map_left_iff.mp hmapped)
    exact runSeeders_again hdefaults husers hnew hpairs id'
  · refine runSeeders_keeps (P := SeedFrame db) hdefaults hnew (seedAdminsUntil_frame []) ?_
    intro db₁ db₂ connectorId name _ hstep h
    exact h.trans (seedConnector_frame hstep)
  · intro hunique
    refine ⟨hemails hunique, ?_⟩
    intro entry _
    exact (hemails hunique).select_le_one (entry.key env)
  · intro hunique
    refine runSeeders_keeps (P := fun db' => LiveNamesUnique cenv db'.connectors) hdefaults hnew ?_ ?_
    · rw [seedAdminsUntil_connectors]
      exact hunique
    · intro db₁ db₂ connectorId name hname hstep h
      exact seedConnector_names (hdefaults name hname) hstep h

namespace PaddedAdmins

def env : AuthEnv Unit := AuthEnv.sample ⟨fun _ _ => (), fun _ _ _ => .invalid⟩

/-- One administrator in two spellings, a blank entry and one whose role is none of the platform's. -/
def admins : List AdminSeed :=
  [⟨" Root@example.com", "ValidPass123!", "Root", "SUPER_ADMIN"⟩,
    ⟨"root@EXAMPLE.com ", "Other456!", "Root", "OPS_ADMIN"⟩,
    ⟨"", "", "", "SUPER_ADMIN"⟩, ⟨"owner@example.com", "ValidPass123!", "Owner", "OWNER"⟩]

/-- The entries as a startup draws for them. -/
def startup (n : Nat) : List (AdminSeed × AuthDraw) := admins.zipIdx.map fun x => (x.1, .numbered (n + x.2))

theorem startup_again :
    runSeeders env (fun _ => none) SharedSlug.env
        (runSeeders env (fun _ => none) SharedSlug.env .empty (startup 0) (.ofNat ·)) (startup 10)
        (fun n => .ofNat (100 + n)) =
      runSeeders env (fun _ => none) SharedSlug.env .empty (startup 0) (.ofNat ·) :=
  (seeding_idempotent env (fun _ => none) SharedSlug.env (fun _ _ => rfl) .empty (startup 0) (.ofNat ·)
    ⟨by decide, fun _ _ user huser => absurd huser (Table.not_mem_empty user)⟩ (by decide)).1 (startup 10)
    (fun n => .ofNat (100 + n)) rfl

example :
    (runSeeders env (fun _ => none) SharedSlug.env .empty (startup 0) (.ofNat ·)).users.rows.map User.email =
    ["root@example.com"] := by decide +kernel

end PaddedAdmins

end RatingLift
