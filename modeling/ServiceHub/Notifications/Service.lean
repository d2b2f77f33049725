/-
# `Notifications.Service` — the notifications that a user reads

`NotificationService` and its repository, on the table of notifications.  None
of the functions opens a transaction, so each statement is committed by itself.
`markAsRead` looks for the notification first; the update that follows has a
condition of its own, and Prisma raises P2025 where no row meets it.
-/
import ServiceHub.Jobs.Service
import ServiceHub.Txn.ReadCommitted

namespace ServiceHub.Notifications

open Data Txn

/-- A notification with all its columns. -/
structure Notification extends Jobs.Notification where
  readAt : Option Time
  createdAt : Time
  deriving DecidableEq

/-- The columns that `findByUserId` selects. -/
structure NotificationItem where
  id : Uuid
  bookingId : Option Uuid
  type : NotificationType
  channel : NotificationChannel
  status : NotificationStatus
  title : String
  body : String
  scheduledFor : Time
  sentAt : Option Time
  readAt : Option Time
  createdAt : Time

/-- The columns of `select`. -/
def NotificationItem.of (n : Notification) : NotificationItem :=
  ⟨n.id, n.bookingId, n.type, n.channel, n.status, n.title, n.body, n.scheduledFor, n.sentAt,
    n.readAt, n.createdAt⟩

/-- The table `notifications`. -/
structure Db where
  notifications : Table Notification Uuid fun n => n.id

/-- `where: { userId, readAt: null }`. -/
def Notification.unreadBy (userId : Uuid) (n : Notification) : Bool :=
  n.userId == userId && n.readAt.isNone

/-- `readAt` is set, and nothing else. -/
def Notification.read (readAt : Time) (n : Notification) : Notification :=
  { n with readAt := some readAt }

/-- The statements of `NotificationRepository` that a user causes. -/
inductive Stmt where
  | findByUserId (userId : Uuid)
  | findNotification (id : Uuid)
  | countUnread (userId : Uuid)
  | markAsRead (id userId : Uuid) (readAt : Time)
  | markAllAsRead (userId : Uuid) (readAt : Time)

/-- Of `markAllAsRead` the rows; `updateMany` answers with their number. -/
abbrev Ans : Stmt → Type
  | .findByUserId _ => List NotificationItem
  | .findNotification _ => Option Notification
  | .countUnread _ => Nat
  | .markAsRead _ _ _ => Notification
  | .markAllAsRead _ _ => List Notification

namespace Db

/-- How many rows the user has that are unread. -/
def countUnread (db : Db) (userId : Uuid) : Nat :=
  db.notifications.rows.countP (·.unreadBy userId)

/-- The answer of a statement; `update` finds its row or raises P2025. -/
def exec : (s : Stmt) → Db → Except Exn (Ans s)
  | .findByUserId userId, db =>
      .ok (((db.notifications.rows.filter (·.userId == userId)).insertionSort
        fun a b => b.createdAt ≤ a.createdAt).map NotificationItem.of)
  | .findNotification id, db => .ok (db.notifications.find? id)
  | .countUnread userId, db => .ok (db.countUnread userId)
  | .markAsRead id userId readAt, db =>
      match (db.notifications.find? id).filter (·.unreadBy userId) with
      | none => .error (.knownRequest "P2025" "No record was found for an update")
      | some n => .ok (n.read readAt)
  | .markAllAsRead userId readAt, db =>
      .ok ((db.notifications.rows.filter (·.unreadBy userId)).map (·.read readAt))

end Db

/-- The rows that a statement has written, when it answered this. -/
def Stmt.written : (s : Stmt) → Ans s → List Notification
  | .markAsRead _ _ _, n => [n]
  | .markAllAsRead _ _, ns => ns
  | _, _ => []

/-- The rows that a statement would write. -/
def Stmt.targets (db : Db) : Stmt → List Notification
  | .markAsRead id userId _ => ((db.notifications.find? id).filter (·.unreadBy userId)).toList
  | .markAllAsRead userId _ => db.notifications.rows.filter (·.unreadBy userId)
  | _ => []

instance : Txn.Database Db Notification Uuid Stmt Exn Ans where
  key n := n.id
  get db id := db.notifications.find? id
  put db n := ⟨db.notifications.put n⟩
  exec := Db.exec
  written := Stmt.written
  waits s db others := (s.targets db).any fun n => others.any fun o => o.id == n.id

instance : Txn.Lawful Db where
  get_put db n id := Table.find?_put db.notifications n id
  apart := by
    intro s db others a hwait hexec r hr o ho hk
    have hfree : ∀ n ∈ s.targets db, o.id ≠ n.id := by
      intro n hn heq
      have hwaits : (s.targets db).any (fun n => others.any fun o => o.id == n.id) = false := hwait
      have hnone := List.any_eq_false.mp hwaits n hn
      exact hnone (List.any_eq_true.mpr ⟨o, ho, beq_iff_eq.mpr heq⟩)
    cases s with
    | markAsRead id userId readAt =>
        have hexec : Db.exec (.markAsRead id userId readAt) db = .ok a := hexec
        simp only [Db.exec] at hexec
        split at hexec
        · cases hexec
        · rename_i n hn
          cases hexec
          cases List.mem_singleton.mp hr
          refine hfree n ?_ hk
          rw [Stmt.targets, hn]
          exact List.mem_singleton_self n
    | markAllAsRead userId readAt =>
        cases hexec
        obtain ⟨n, hn, rfl⟩ := List.mem_map.mp hr
        exact hfree n hn hk
    | _ => cases hr
  alone := by
    intro s db
    have hnone : (s.targets db).any (fun n => ([] : List Notification).any fun o => o.id == n.id) =
        false := by simp
    exact hnone

/-- A part of the repository or of the service. -/
abbrev Query (α : Type) : Type := Prog Stmt Ans Exn α

abbrev query (s : Stmt) : Query (Ans s) := Prog.perform s

namespace NotificationRepository

/-- The newest first. -/
def findByUserId (userId : Uuid) : Query (List NotificationItem) := query (.findByUserId userId)

def findById (id : Uuid) : Query (Option Notification) := query (.findNotification id)

def countUnread (userId : Uuid) : Query Nat := query (.countUnread userId)

/-- `update` with `where: { id, userId, readAt: null }`. -/
def markAsRead (now : Time) (id userId : Uuid) : Query Notification :=
  query (.markAsRead id userId now)

/-- `{ count }`. -/
def markAllAsRead (now : Time) (userId : Uuid) : Query Nat := do
  let rows ← query (.markAllAsRead userId now)
  pure rows.length

end NotificationRepository

namespace NotificationService

def getUserNotifications (userId : Uuid) : Query (List NotificationItem) :=
  NotificationRepository.findByUserId userId

/-- `{ count }`. -/
def getUserNotificationsUnreadCount (userId : Uuid) : Query Nat :=
  NotificationRepository.countUnread userId

/-- The same for no notification and for that of another user. -/
def notFound (notificationId : Uuid) : Exn :=
  .notFound s!"Notification with ID \"{notificationId}\" not found"

/-- A notification that is read already is answered as it is. -/
def markAsRead (now : Time) (notificationId userId : Uuid) : Query Notification := do
  let notification ← NotificationRepository.findById notificationId
  let notification ← Prog.orThrow (notification.filter (·.userId == userId))
    (notFound notificationId)
  if notification.readAt.isSome then pure notification
  else NotificationRepository.markAsRead now notificationId userId

def markAllAsRead (now : Time) (userId : Uuid) : Query Nat :=
  NotificationRepository.markAllAsRead now userId

end NotificationService

/-! ## The operations -/

/-- What a user may ask for. -/
inductive Op where
  | getUserNotifications (userId : Uuid)
  | getUserNotificationsUnreadCount (userId : Uuid)
  | markAsRead (now : Time) (notificationId userId : Uuid)
  | markAllAsRead (now : Time) (userId : Uuid)

inductive Response where
  | notifications (items : List NotificationItem)
  | count (n : Nat)
  | notification (n : Notification)

/-- The statements of an operation. -/
def body : Op → Query Response
  | .getUserNotifications userId =>
      (NotificationService.getUserNotifications userId).map .notifications
  | .getUserNotificationsUnreadCount userId =>
      (NotificationService.getUserNotificationsUnreadCount userId).map .count
  | .markAsRead now notificationId userId =>
      (NotificationService.markAsRead now notificationId userId).map .notification
  | .markAllAsRead now userId => (NotificationService.markAllAsRead now userId).map .count

/-- A request, each statement committed by itself. -/
def program (o : Op) : Prog (Instr Stmt Empty) (Instr.Ans Ans) Exn Response :=
  autocommit Empty (body o)

abbrev Caller : Type := Proc Op Notification Stmt Empty Ans Exn Response

abbrev System : Type := Config Op Db Notification Stmt Empty Ans Exn Response

end ServiceHub.Notifications
