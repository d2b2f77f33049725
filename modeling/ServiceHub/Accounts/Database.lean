/-
# `Accounts.Database` — the users, and the statements that touch them

The part of the database that `AuthRepository` and `AdminUserRepository` work
on, as an instance of `Txn.Database` of its own: no function that issues one of
these statements issues any of `ServiceHub.Stmt`.  None of them opens a
transaction, so each statement is committed by itself.

`User.email` and `User.phone` are unique; no update sets them.
-/
import ServiceHub.Database

namespace ServiceHub.Accounts

open Data Txn

/-- The tables that accounts are about. -/
structure Db where
  users : Table User Uuid User.id
  auditLogs : Table AuditLog Uuid AuditLog.id

/-- A row of either table, and its key. -/
inductive Row where
  | user (u : User)
  | audit (a : AuditLog)

inductive Key where
  | user (id : Uuid)
  | audit (id : Uuid)
  deriving DecidableEq

def Row.key : Row → Key
  | .user u => .user u.id
  | .audit a => .audit a.id

/-- Two rows that a unique index keeps apart. -/
def clash : Row → Row → Bool
  | .user u, .user v => u.email == v.email || u.phone == v.phone
  | _, _ => false

/-- Some text of the row is wider than its column. -/
def Row.tooLong : Row → Bool
  | .user u => ServiceHub.tooLong 255 u.email || ServiceHub.tooLong 100 u.firstName ||
      ServiceHub.tooLong 100 u.lastName || ServiceHub.tooLong 20 u.phone
  | .audit a => ServiceHub.tooLong 100 a.entityType

/-- `role: Role.ADMIN, status: UserStatus.ACTIVE`. -/
def activeAdmin (u : User) : Bool := u.role == .admin && u.status == .active

namespace Db

def get (db : Db) : Key → Option Row
  | .user id => (db.users.find? id).map .user
  | .audit id => (db.auditLogs.find? id).map .audit

/-- The row in place of that of its key, or as a new one. -/
def put (db : Db) : Row → Db
  | .user u => { db with users := db.users.put u }
  | .audit a => { db with auditLogs := db.auditLogs.put a }

/-- The rows of the same table. -/
def siblings (db : Db) : Row → List Row
  | .user _ => db.users.rows.map .user
  | .audit _ => db.auditLogs.rows.map .audit

/-- The user that the row refers to does not exist. -/
def dangling (db : Db) : Row → Bool
  | .user _ => false
  | .audit a => a.actorUserId.any fun id => (db.users.find? id).isNone

/-- What `countActiveAdmin` counts. -/
def activeAdmins (db : Db) : Nat := db.users.rows.countP activeAdmin

/-- INSERT. -/
def insert {α : Type} (db : Db) (r : Row) (answer : α) : Except Exn α :=
  if (db.get r.key).isSome then .error (.failure "id already taken")
  else if r.tooLong then
    .error (.knownRequest "P2000" "The provided value for the column is too long for the column's type")
  else if db.dangling r then .error (.knownRequest "P2003" "Foreign key constraint violated")
  else if (db.siblings r).any (clash r) then
    .error (.knownRequest "P2002" "Unique constraint failed")
  else .ok answer

end Db

/-- The columns of a user that some update sets. -/
structure UserUpdate where
  status : Option UserStatus := none
  refreshTokenHash : Option (Option String) := none
  lastLoginAt : Option Time := none

/-- The row after the update; what is not set stays. -/
def UserUpdate.on (data : UserUpdate) (u : User) : User :=
  { u with
    status := data.status.getD u.status
    refreshTokenHash := data.refreshTokenHash.getD u.refreshTokenHash
    lastLoginAt := data.lastLoginAt.or u.lastLoginAt }

/-- The statements of the two repositories and of the audit log. -/
inductive Stmt where
  | findUser (id : Uuid)
  | findUserByEmail (email : String)
  | findUserByPhone (phone : String)
  | createUser (u : User)
  | updateUser (id : Uuid) (data : UserUpdate)
  | countActiveAdmin
  | createAudit (a : AuditLog)

/-- What a statement answers. -/
abbrev Ans : Stmt → Type
  | .findUser _ => Option User
  | .findUserByEmail _ => Option User
  | .findUserByPhone _ => Option User
  | .createUser _ => User
  | .updateUser _ _ => User
  | .countActiveAdmin => Nat
  | .createAudit _ => AuditLog

/-- The answer of a statement, or why it fails; `update` finds its row or raises
P2025. -/
def Db.exec : (s : Stmt) → Db → Except Exn (Ans s)
  | .findUser id, db => .ok (db.users.find? id)
  | .findUserByEmail email, db => .ok (db.users.rows.find? (·.email == email))
  | .findUserByPhone phone, db => .ok (db.users.rows.find? (·.phone == phone))
  | .createUser u, db => db.insert (.user u) u
  | .updateUser id data, db =>
      match db.users.find? id with
      | none => .error (.knownRequest "P2025" "No record was found for an update")
      | some u => .ok (data.on u)
  | .countActiveAdmin, db => .ok db.activeAdmins
  | .createAudit a, db => db.insert (.audit a) a

/-- The rows that a statement has written, when it answered this. -/
def Stmt.written : (s : Stmt) → Ans s → List Row
  | .createUser _, u => [.user u]
  | .updateUser _ _, u => [.user u]
  | .createAudit _, a => [.audit a]
  | _, _ => []

/-- The rows that a statement would write. -/
def Stmt.targets (db : Db) : Stmt → List Row
  | .createUser u => [.user u]
  | .updateUser id data => ((db.users.find? id).map fun u => Row.user (data.on u)).toList
  | .createAudit a => [.audit a]
  | _ => []

instance : Txn.Database Db Row Key Stmt Exn Ans where
  key := Row.key
  get := Db.get
  put := Db.put
  exec := Db.exec
  written := Stmt.written
  waits s db others := (s.targets db).any fun r =>
    others.any fun o => decide (o.key = r.key) || clash r o

namespace Db

variable {db : Db}

theorem get_put (db : Db) (r : Row) (k : Key) :
    (db.put r).get k = if r.key = k then some r else db.get k := by
  cases r <;> cases k <;> simp only [put, get, Row.key, reduceCtorEq, if_false,
    Key.user.injEq, Key.audit.injEq, Table.find?_put]
  all_goals split <;> rfl

theorem insert_ok {α : Type} {r : Row} {a b : α} (h : db.insert r a = .ok b) :
    b = a ∧ db.get r.key = none := by
  unfold insert at h
  split at h
  · cases h
  rename_i hfresh
  split at h
  · cases h
  split at h
  · cases h
  split at h
  · cases h
  cases h
  exact ⟨rfl, by simpa using hfresh⟩

theorem updateUser_ok {id : Uuid} {data : UserUpdate} {v : User}
    (h : db.exec (.updateUser id data) = .ok v) :
    ∃ u, db.users.find? id = some u ∧ v = data.on u := by
  simp only [exec] at h
  split at h
  · cases h
  rename_i u hu
  cases h
  exact ⟨u, hu, rfl⟩

/-- A statement writes what it would write. -/
theorem written_eq {s : Stmt} {a : Ans s} (h : db.exec s = .ok a) : s.written a = s.targets db := by
  cases s with
  | createUser u => exact congrArg (fun v => [Row.user v]) (insert_ok h).1
  | createAudit row => exact congrArg (fun v => [Row.audit v]) (insert_ok h).1
  | updateUser id data =>
      obtain ⟨u, hu, rfl⟩ := updateUser_ok h
      simp only [Stmt.written, Stmt.targets, hu, Option.map_some, Option.toList_some]
  | _ => rfl

end Db

instance : Txn.Lawful Db where
  get_put := Db.get_put
  apart := by
    intro s db others a hwait hexec r hr o ho hk
    rw [show Database.written Db s a = s.targets db from Db.written_eq hexec] at hr
    refine List.any_eq_false.mp hwait r hr (List.any_eq_true.mpr ⟨o, ho, ?_⟩)
    rw [show o.key = r.key from hk, decide_eq_true rfl]
    rfl
  alone := by
    intro s db
    exact List.any_eq_false.mpr fun _ _ => by simp

/-- A part of a repository: statements, one after the other. -/
abbrev Query (α : Type) : Type := Prog Stmt Ans Exn α

abbrev query (s : Stmt) : Query (Ans s) := Prog.perform s

/-! ## `AuthRepository` and `AdminUserRepository` -/

namespace AuthRepository

def findById (userId : Uuid) : Query (Option User) := query (.findUser userId)

def findByEmail (email : String) : Query (Option User) := query (.findUserByEmail email)

def findByPhone (phone : String) : Query (Option User) := query (.findUserByPhone phone)

def create (row : User) : Query User := query (.createUser row)

def update (userId : Uuid) (data : UserUpdate) : Query User := query (.updateUser userId data)

/-- `null` signs the user out. -/
def updateRefreshToken (userId : Uuid) (refreshTokenHash : Option String) : Query User :=
  query (.updateUser userId { refreshTokenHash := some refreshTokenHash })

/-- The time of a login. -/
def updateLastLogin (now : Time) (userId : Uuid) : Query User :=
  query (.updateUser userId { lastLoginAt := some now })

end AuthRepository

namespace AdminUserRepository

def findById (id : Uuid) : Query (Option User) := query (.findUser id)

/-- No condition on the status that is there. -/
def updateStatus (id : Uuid) (status : UserStatus) : Query User :=
  query (.updateUser id { status := some status })

/-- `count({ where: { role: ADMIN, status: ACTIVE } })`. -/
def countActiveAdmin : Query Nat := query .countActiveAdmin

end AdminUserRepository

namespace AuditLogRepository

def create (row : AuditLog) : Query AuditLog := query (.createAudit row)

end AuditLogRepository

/-! ## What an update does -/

@[simp] theorem UserUpdate.id_on (data : UserUpdate) (u : User) : (data.on u).id = u.id := rfl

/-- An update counts the new row for the old one. -/
theorem Db.activeAdmins_put {db : Db} {u v : User} (hold : db.users.find? v.id = some u) :
    (db.put (.user v)).activeAdmins + (if activeAdmin u then 1 else 0) =
      db.activeAdmins + if activeAdmin v then 1 else 0 := by
  obtain ⟨l, l', hrows, hput, _⟩ := Table.rows_put_split hold
  simp only [activeAdmins, put, hrows, hput, List.countP_append, List.countP_cons]
  omega

end ServiceHub.Accounts
