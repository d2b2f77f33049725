/-
# `Notifications.Reading` — notifications are read once

Calls of `markAsRead` and `markAllAsRead` interleave statement by statement.

    a row changes only from unread to read, by a call of its owner    (`ReadBy`)
    every call is at one of few stages of its program                 (`Stage`)
    what one answer does to both                                      (`Stage.answered`)

**What fails.**  `markAsRead` finds the notification unread, and its update asks
for it to be unread still.  If another call has read it meanwhile the update
raises, where the same call a moment later would have answered with the
notification (`not_read_once`).

**What holds.**  `StillUnread` asks that the notification which an update is
about to mark has not been read since it was found.  In runs whose steps all
meet it, everything that was claimed holds (`read_once`).
-/
import ServiceHub.Notifications.Service
import ServiceHub.Txn.Debts

namespace ServiceHub.Notifications

open Data Txn

/-! ## What is marked -/

/-- The notification is one that the call is to mark, and the caller's own. -/
def Op.addresses : Op → Notification → Prop
  | .markAsRead _ id userId, n => n.id = id ∧ n.userId = userId
  | .markAllAsRead _ userId, n => n.userId = userId
  | _, _ => False

instance : ∀ (o : Op) (n : Notification), Decidable (o.addresses n)
  | .markAsRead _ _ _, _ => inferInstanceAs (Decidable (_ ∧ _))
  | .markAllAsRead _ _, n => inferInstanceAs (Decidable (n.userId = _))
  | .getUserNotifications _, _ => .isFalse id
  | .getUserNotificationsUnreadCount _, _ => .isFalse id

/-- Nothing has changed but rows of `A`, each from unread to read. -/
def ReadBy (A : Notification → Prop) (db db' : Db) : Prop :=
  ∀ id, db'.notifications.find? id = db.notifications.find? id ∨
    ∃ n t, db.notifications.find? id = some n ∧ n.readAt = none ∧ A n ∧
      db'.notifications.find? id = some (n.read t)

section
variable {A B : Notification → Prop} {db db' db'' : Db} {id userId : Uuid} {n : Notification}

theorem ReadBy.refl (db : Db) : ReadBy A db db := fun _ => Or.inl rfl

theorem ReadBy.mono (h : ReadBy A db db') (hAB : ∀ n, A n → B n) : ReadBy B db db' := by
  intro id
  rcases h id with hsame | ⟨n, t, hn, hunread, hA, hread⟩
  · exact Or.inl hsame
  · exact Or.inr ⟨n, t, hn, hunread, hAB n hA, hread⟩

theorem ReadBy.trans (h : ReadBy A db db') (h' : ReadBy A db' db'') : ReadBy A db db'' := by
  intro id
  rcases h id with hsame | ⟨n, t, hn, hunread, hA, hread⟩
  · rcases h' id with hsame' | ⟨n, t, hn, hunread, hA, hread⟩
    · exact Or.inl (hsame'.trans hsame)
    · exact Or.inr ⟨n, t, hsame.symm.trans hn, hunread, hA, hread⟩
  · rcases h' id with hsame' | ⟨m, _, hm, hunread', _, _⟩
    · exact Or.inr ⟨n, t, hn, hunread, hA, hsame'.trans hread⟩
    · -- what is read is not read again
      obtain rfl := Option.some.inj (hread.symm.trans hm)
      cases hunread'

/-- A notification that is read stays as it is. -/
theorem ReadBy.of_read (h : ReadBy A db db') (hn : db.notifications.find? id = some n)
    (hread : n.readAt.isSome = true) : db'.notifications.find? id = some n := by
  rcases h id with hsame | ⟨m, _, hm, hunread, _, _⟩
  · exact hsame.trans hn
  · obtain rfl := Option.some.inj (hn.symm.trans hm)
    rw [hunread] at hread
    cases hread

/-- Every notification is there before and after, but for `readAt` the same. -/
theorem ReadBy.find?_eq (h : ReadBy A db db') (id : Uuid) :
    (db'.notifications.find? id).map (fun n => { n with readAt := none }) =
      (db.notifications.find? id).map fun n => { n with readAt := none } := by
  rcases h id with hsame | ⟨n, t, hn, _, _, hread⟩
  · rw [hsame]
  · rw [hn, hread]
    rfl

/-- The user has a notification of this id. -/
def Db.Own (db : Db) (id userId : Uuid) : Prop :=
  ∃ n, db.notifications.find? id = some n ∧ n.userId = userId

theorem ReadBy.own_iff (h : ReadBy A db db') : db'.Own id userId ↔ db.Own id userId := by
  have hiff : ∀ db : Db, db.Own id userId ↔ ((db.notifications.find? id).map
      fun n : Notification => { n with readAt := none }).any (·.userId == userId) = true := by
    intro db
    simp [Db.Own, Option.any_eq_true]
  rw [hiff, hiff, h.find?_eq]

end

/-- A statement marks notifications of the user that it is issued for. -/
def Stmt.marks : Stmt → Notification → Prop
  | .markAsRead id userId _, n => n.id = id ∧ n.userId = userId
  | .markAllAsRead userId _, n => n.userId = userId
  | _, _ => False

/-- What a statement writes was unread, and is read. -/
theorem written_read {s : Stmt} {db : Db} {a : Ans s} (hexec : db.exec s = .ok a)
    {w : Notification} (hw : w ∈ s.written a) : ∃ n t, db.notifications.find? n.id = some n ∧
      n.readAt = none ∧ s.marks n ∧ w = n.read t := by
  cases s with
  | markAsRead id userId readAt =>
      simp only [Db.exec] at hexec
      split at hexec
      · cases hexec
      · rename_i n hn
        cases hexec
        cases List.mem_singleton.mp hw
        obtain ⟨hn, hunread⟩ := Option.filter_eq_some_iff.mp hn
        have hid := Table.key_of_find? hn
        simp only [Notification.unreadBy, Bool.and_eq_true, beq_iff_eq,
          Option.isNone_iff_eq_none] at hunread
        exact ⟨n, readAt, hid ▸ hn, hunread.2, ⟨hid, hunread.1⟩, rfl⟩
  | markAllAsRead userId readAt =>
      cases hexec
      obtain ⟨n, hn, rfl⟩ := List.mem_map.mp hw
      obtain ⟨hmem, hunread⟩ := List.mem_filter.mp hn
      simp only [Notification.unreadBy, Bool.and_eq_true, beq_iff_eq,
        Option.isNone_iff_eq_none] at hunread
      exact ⟨n, readAt, Table.find?_of_mem hmem, hunread.2, hunread.1, rfl⟩
  | _ => cases hw

theorem readBy_written {s : Stmt} {db : Db} {a : Ans s} (hexec : db.exec s = .ok a) :
    ReadBy s.marks db (puts db (s.written a)) := by
  intro id
  rcases get_puts id (s.written a) db with ⟨w, hw, hid, hget⟩ | ⟨_, hget⟩
  · obtain ⟨n, t, hn, hunread, hmarks, rfl⟩ := written_read hexec hw
    have hid : n.id = id := hid
    exact Or.inr ⟨n, t, hid ▸ hn, hunread, hmarks, hget⟩
  · exact Or.inl hget

/-- All notifications of the user are read. -/
def Db.AllRead (db : Db) (userId : Uuid) : Prop :=
  ∀ id n, db.notifications.find? id = some n → n.userId = userId → n.readAt.isSome = true

theorem allRead_of_markAllAsRead {db : Db} {userId : Uuid} {t : Time} {a : List Notification}
    (hexec : db.exec (.markAllAsRead userId t) = .ok a) : (puts db a).AllRead userId := by
  cases hexec
  intro id n hn huser
  rcases get_puts id ((db.notifications.rows.filter (·.unreadBy userId)).map (·.read t)) db with
    ⟨w, hw, _, hget⟩ | ⟨hother, hget⟩
  · obtain ⟨m, _, rfl⟩ := List.mem_map.mp hw
    obtain rfl := Option.some.inj (hget.symm.trans hn)
    rfl
  · have hold : db.notifications.find? id = some n := hget.symm.trans hn
    have hid := Table.key_of_find? hold
    by_contra hunread
    refine hother (n.read t) (List.mem_map.mpr ⟨n, List.mem_filter.mpr ⟨Table.mem_of_find? hold, ?_⟩,
      rfl⟩) hid
    simp only [Notification.unreadBy, huser, beq_self_eq_true, Bool.true_and]
    simpa using hunread

theorem ReadBy.allRead {A : Notification → Prop} {db db' : Db} {userId : Uuid}
    (h : ReadBy A db db') (hall : db.AllRead userId) : db'.AllRead userId := by
  intro id n hn huser
  rcases h id with hsame | ⟨m, t, _, _, _, hread⟩
  · exact hall id n (hsame.symm.trans hn) huser
  · obtain rfl := Option.some.inj (hread.symm.trans hn)
    rfl

/-! ## The stages of a call -/

/-- The end of `markAsRead`, after a notification that was found unread. -/
def markFound (now : Time) (id userId : Uuid) :
    Prog (Instr Stmt Empty) (Instr.Ans Ans) Exn Response :=
  .ask (.stmt (.markAsRead id userId now)) fun
    | .ok n => .ret (.notification n)
    | .error e => .throw e

/-- What `markAsRead` does with what it finds. -/
def afterFind (now : Time) (id userId : Uuid) :
    Except Exn (Option Notification) → Prog (Instr Stmt Empty) (Instr.Ans Ans) Exn Response
  | .error e => .throw e
  | .ok notification =>
      match notification.filter (·.userId == userId) with
      | none => .throw (NotificationService.notFound id)
      | some n => if n.readAt.isSome then .ret (.notification n) else markFound now id userId

theorem program_update (now : Time) (id userId : Uuid) :
    autocommit Empty ((NotificationRepository.markAsRead now id userId).map Response.notification) =
      markFound now id userId := by
  refine congrArg _ (funext fun r => ?_)
  cases r with
  | error e => rfl
  | ok n => rfl

theorem program_markAsRead (now : Time) (id userId : Uuid) :
    program (.markAsRead now id userId) =
      .ask (.stmt (.findNotification id)) (afterFind now id userId) := by
  refine congrArg _ (funext fun r => ?_)
  cases r with
  | error e => rfl
  | ok notification =>
      show autocommit Empty ((Prog.orThrow (notification.filter (·.userId == userId))
        (NotificationService.notFound id) >>= fun n => if n.readAt.isSome then pure n
          else NotificationRepository.markAsRead now id userId).map Response.notification) = _
      simp only [afterFind]
      cases notification.filter (·.userId == userId) with
      | none => rfl
      | some n =>
          show autocommit Empty ((if n.readAt.isSome then pure n
            else NotificationRepository.markAsRead now id userId : Query Notification).map
              Response.notification) = _
          by_cases hread : n.readAt.isSome = true
          · simp only [hread, if_true]
            rfl
          · simp only [hread]
            exact program_update now id userId

/-- Where a call is in its program.  `start` are the notifications when the run
began, `cur` the ones now. -/
inductive Stage (start cur : Db) : Op → Prog (Instr Stmt Empty) (Instr.Ans Ans) Exn Response → Prop
  | made (o : Op) : Stage start cur o (program o)
  | found {now : Time} {id userId : Uuid} : start.Own id userId →
      Stage start cur (.markAsRead now id userId) (markFound now id userId)
  | marked {now : Time} {id userId : Uuid} {n : Notification} :
      cur.notifications.find? id = some n → n.userId = userId → n.readAt.isSome = true →
      Stage start cur (.markAsRead now id userId) (.ret (.notification n))
  | refused {now : Time} {id userId : Uuid} {e : Exn} : ¬ start.Own id userId →
      Stage start cur (.markAsRead now id userId) (.throw e)
  | allMarked {now : Time} {userId : Uuid} {r : Response} : cur.AllRead userId →
      Stage start cur (.markAllAsRead now userId) (.ret r)
  | listed {userId : Uuid} {r : Response} : Stage start cur (.getUserNotifications userId) (.ret r)
  | counted {userId : Uuid} {r : Response} :
      Stage start cur (.getUserNotificationsUnreadCount userId) (.ret r)

/-- The update that is about to mark a notification finds it unread. -/
def finds (db : Db) : Instr Stmt Empty → Prop
  | .stmt (.markAsRead id userId _) =>
      (db.notifications.find? id).any (·.unreadBy userId) = true
  | _ => True

instance (db : Db) : ∀ i, Decidable (finds db i)
  | .stmt (.markAsRead _ _ _) => inferInstanceAs (Decidable (_ = true))
  | .stmt (.findByUserId _) => .isTrue trivial
  | .stmt (.findNotification _) => .isTrue trivial
  | .stmt (.countUnread _) => .isTrue trivial
  | .stmt (.markAllAsRead _ _) => .isTrue trivial
  | .begin => .isTrue trivial
  | .commit => .isTrue trivial
  | .rollback => .isTrue trivial
  | .call _ => .isTrue trivial

section
variable {A : Notification → Prop} {start cur cur' : Db} {o : Op}
  {p : Prog (Instr Stmt Empty) (Instr.Ans Ans) Exn Response}

/-- What other calls mark does not set a call back. -/
theorem Stage.later (h : Stage start cur o p) (hread : ReadBy A cur cur') :
    Stage start cur' o p := by
  cases h with
  | made => exact .made o
  | found hown => exact .found hown
  | marked hn huser hisRead => exact .marked (hread.of_read hn hisRead) huser hisRead
  | refused hown => exact .refused hown
  | allMarked hall => exact .allMarked (hread.allRead hall)
  | listed => exact .listed
  | counted => exact .counted

theorem not_ended (h : p.head.isSome = true) : (∀ e, p ≠ .throw e) ∧ ∀ r, p ≠ .ret r := by
  constructor
  · rintro e rfl
    cases h
  · rintro r rfl
    cases h

/-- `markAsRead` of an own notification does not raise, and answers with it. -/
theorem Stage.markAsRead {now : Time} {id userId : Uuid}
    (h : Stage start cur (.markAsRead now id userId) p) (hown : start.Own id userId) :
    (∀ e, p ≠ .throw e) ∧ ∀ r, p = .ret r → ∃ n, r = .notification n ∧
      cur.notifications.find? id = some n ∧ n.userId = userId ∧ n.readAt.isSome = true := by
  have hgoing : p.head.isSome = true → (∀ e, p ≠ .throw e) ∧ ∀ r, p = .ret r →
      ∃ n, r = .notification n ∧ cur.notifications.find? id = some n ∧ n.userId = userId ∧
        n.readAt.isSome = true :=
    fun hhead => ⟨(not_ended hhead).1, fun r hr => absurd hr ((not_ended hhead).2 r)⟩
  cases h with
  | made => exact hgoing rfl
  | found => exact hgoing rfl
  | marked hn huser hread =>
      refine ⟨nofun, fun r hr => ?_⟩
      cases hr
      exact ⟨_, rfl, hn, huser, hread⟩
  | refused hnot => exact absurd hown hnot

/-- The answer to `findNotification`. -/
theorem stage_afterFind (hread : ReadBy A start cur) (now : Time) (id userId : Uuid) :
    Stage start cur (.markAsRead now id userId)
      (afterFind now id userId (.ok (cur.notifications.find? id))) := by
  have hown : start.Own id userId ↔ cur.Own id userId := hread.own_iff.symm
  simp only [afterFind]
  cases hfilter : (cur.notifications.find? id).filter (·.userId == userId) with
  | none =>
      refine .refused fun hstart => ?_
      obtain ⟨n, hn, huser⟩ := hown.mp hstart
      simp [hn, huser] at hfilter
  | some n =>
      obtain ⟨hn, huser⟩ := Option.filter_eq_some_iff.mp hfilter
      have huser : n.userId = userId := beq_iff_eq.mp huser
      by_cases hisRead : n.readAt.isSome = true
      · simp only [hisRead, if_true]
        exact .marked hn huser hisRead
      · simp only [hisRead]
        exact .found (hown.mpr ⟨n, hn, huser⟩)

/-- **What one answer does**: the call goes on to its next stage, and what was
marked is what it addresses. -/
theorem Stage.answered {s : Stmt} {k : Except Exn (Ans s) → Prog (Instr Stmt Empty) (Instr.Ans Ans) Exn Response}
    (h : Stage start cur o p) (hp : p = .ask (.stmt s) k) (hread : ReadBy A start cur)
    (hfinds : finds cur (.stmt s)) : ∃ a, cur.exec s = .ok a ∧
      ReadBy (fun n => o.addresses n) cur (puts cur (s.written a)) ∧
        Stage start (puts cur (s.written a)) o (k (.ok a)) := by
  cases h with
  | made =>
      cases o with
      | getUserNotifications userId =>
          cases hp
          exact ⟨_, rfl, ReadBy.refl cur, .listed⟩
      | getUserNotificationsUnreadCount userId =>
          cases hp
          exact ⟨_, rfl, ReadBy.refl cur, .counted⟩
      | markAsRead now id userId =>
          rw [program_markAsRead] at hp
          cases hp
          exact ⟨_, rfl, ReadBy.refl cur, stage_afterFind hread now id userId⟩
      | markAllAsRead now userId =>
          cases hp
          refine ⟨_, rfl, ?_, ?_⟩
          · exact readBy_written (s := .markAllAsRead userId now) rfl
          · exact .allMarked (allRead_of_markAllAsRead (t := now) rfl)
  | @found now id userId hown =>
      cases hp
      obtain ⟨n, hn, hunread⟩ := (Option.any_eq_true _ _).mp hfinds
      have hexec : cur.exec (.markAsRead id userId now) = .ok (n.read now) := by
        have hfilter : (cur.notifications.find? id).filter (·.unreadBy userId) = some n :=
          Option.filter_eq_some_iff.mpr ⟨hn, hunread⟩
        rw [Db.exec, hfilter]
      refine ⟨n.read now, hexec, readBy_written hexec, .marked ?_ ?_ rfl⟩
      · have hid := Table.key_of_find? hn
        exact (Table.find?_put _ _ _).trans (if_pos hid)
      · simp only [Notification.unreadBy, Bool.and_eq_true, beq_iff_eq] at hunread
        exact hunread.1
  | marked => cases hp
  | refused => cases hp
  | allMarked => cases hp
  | listed => cases hp
  | counted => cases hp

end

/-! ## Runs -/

/-- No statement fails on its way, and where `markAsRead` is about to mark what
it has found unread, it is unread still. -/
def StillUnread (c : System) : Event Op Exn → Prop
  | .exec p => ∀ P ∈ c.procs[p]?, ∀ i ∈ P.prog.head, finds c.db i
  | .fail _ _ => False
  | .spawn _ => True

instance (c : System) : ∀ e, Decidable (StillUnread c e)
  | .exec p => inferInstanceAs (Decidable (∀ P ∈ c.procs[p]?, ∀ i ∈ P.prog.head, finds c.db i))
  | .fail _ _ => .isFalse id
  | .spawn _ => .isTrue trivial

/-- The notifications are those of the start, some of them read by the calls that
were made, and every call is at some stage. -/
structure Reading (start : Db) (c : System) : Prop where
  rows : ReadBy (fun n => ∃ P ∈ c.procs, P.op.addresses n) start c.db
  calls : ∀ P ∈ c.procs, P.tx = none ∧ Stage start c.db P.op P.prog

theorem Stage.stmt_of_ask {start cur : Db} {o : Op} {i : Instr Stmt Empty}
    {k : Except Exn (i.Ans Ans) → Prog (Instr Stmt Empty) (Instr.Ans Ans) Exn Response}
    {p : Prog (Instr Stmt Empty) (Instr.Ans Ans) Exn Response} (h : Stage start cur o p)
    (hp : p = .ask i k) : ∃ s, i = .stmt s := by
  cases h with
  | made =>
      cases o with
      | getUserNotifications userId => cases hp; exact ⟨_, rfl⟩
      | getUserNotificationsUnreadCount userId => cases hp; exact ⟨_, rfl⟩
      | markAsRead now id userId => cases hp; exact ⟨_, rfl⟩
      | markAllAsRead now userId => cases hp; exact ⟨_, rfl⟩
  | found => cases hp; exact ⟨_, rfl⟩
  | marked => cases hp
  | refused => cases hp
  | allMarked => cases hp
  | listed => cases hp
  | counted => cases hp

section
variable {start : Db} {c c' : System} {e : Event Op Exn}

/-- A step: a call is made, or one of them has its next statement answered. -/
theorem Reading.next_cases (h : Reading start c) (hok : StillUnread c e)
    (hn : next program c e = some c') :
    (∃ o, c' = ⟨c.db, c.procs ++ [Proc.start program o]⟩) ∨
    ∃ (p : Nat) (P P' : Caller), c.procs[p]? = some P ∧ P'.op = P.op ∧ P'.tx = none ∧
      c'.procs = c.procs.set p P' ∧ ReadBy (fun n => P.op.addresses n) c.db c'.db ∧
      Stage start c'.db P'.op P'.prog := by
  rcases Txn.next_cases program hn with ⟨o, _, rfl⟩ | ⟨p, P, i, k, r, tx, db, hP, hk, heff, rfl⟩
  · exact Or.inl ⟨o, rfl⟩
  right
  obtain ⟨htx, hstage⟩ := h.calls P (List.mem_of_getElem? hP)
  obtain ⟨s, rfl⟩ := hstage.stmt_of_ask hk
  cases heff with
  | failed _ => exact hok.elim
  | answered heff =>
      have hfinds : finds c.db (.stmt s) := hok P hP _ (by rw [hk]; rfl)
      obtain ⟨a, hexec, hread, hstage'⟩ := hstage.answered hk h.rows hfinds
      have hexec' : Database.exec s (puts c.db ((none : Option (List Notification)).getD [])) =
          .ok a := hexec
      rw [htx] at heff
      simp only [effect, hexec'] at heff
      split at heff
      · cases heff
      · cases heff
        exact ⟨p, P, P.advance (.stmt s) k (.ok a) none, hP, rfl, rfl, rfl, hread, hstage'⟩

/-- The step lemma. -/
theorem Reading.next (h : Reading start c) (hok : StillUnread c e)
    (hn : next program c e = some c') : Reading start c' := by
  have hops : ∀ n : Notification, (∃ P ∈ c.procs, P.op.addresses n) →
      ∃ P ∈ c'.procs, P.op.addresses n := by
    rintro n ⟨P, hP, haddr⟩
    obtain ⟨P', hP', hop⟩ := op_of_next hn hP
    exact ⟨P', hP', hop ▸ haddr⟩
  rcases h.next_cases hok hn with ⟨o, rfl⟩ | ⟨p, P, P', hP, hop, htx, hprocs, hread, hstage⟩
  · refine ⟨h.rows.mono hops, fun Q hQ => ?_⟩
    rcases List.mem_append.mp hQ with hQ | hQ
    · exact h.calls Q hQ
    · cases List.mem_singleton.mp hQ
      exact ⟨rfl, .made o⟩
  · have hP' : P' ∈ c'.procs := by
      rw [hprocs]
      exact List.mem_of_getElem? (List.getElem?_set_self (List.getElem?_eq_some_iff.mp hP).1)
    refine ⟨(h.rows.mono hops).trans (hread.mono fun n hn => ⟨P', hP', hop ▸ hn⟩), fun Q hQ => ?_⟩
    rw [hprocs] at hQ
    rcases List.mem_or_eq_of_mem_set hQ with hold | rfl
    · exact ⟨(h.calls Q hold).1, (h.calls Q hold).2.later hread⟩
    · exact ⟨htx, hstage⟩

theorem reading_of_run (hrun : Run program StillUnread ⟨start, []⟩ c) : Reading start c := by
  induction hrun with
  | start => exact ⟨ReadBy.refl start, fun P hP => absurd hP List.not_mem_nil⟩
  | step _ hok hn ih => exact ih.next hok hn

/-- From one configuration of a run to a later one. -/
theorem readBy_of_run (hrun : Run program StillUnread ⟨start, []⟩ c)
    (hrun' : Run program StillUnread c c') : ReadBy (fun _ => True) c.db c'.db := by
  induction hrun' with
  | start => exact ReadBy.refl c.db
  | step hrun' hok hn ih =>
      have h := reading_of_run (hrun.trans hrun')
      rcases h.next_cases hok hn with ⟨o, rfl⟩ | ⟨_, _, _, _, _, _, _, hread, _⟩
      · exact ih
      · exact ih.trans (hread.mono fun _ _ => trivial)

/-! ## What is left unread -/

/-- A call that has ended has marked what it addresses. -/
theorem Reading.read_of_ended (h : Reading start c) {P : Caller} (hP : P ∈ c.procs)
    (hended : P.prog.head.isNone) {n : Notification} {id : Uuid}
    (hn : start.notifications.find? id = some n) (haddr : P.op.addresses n) :
    ∀ n', c.db.notifications.find? id = some n' → n'.readAt.isSome = true := by
  intro n' hn'
  have hid := Table.key_of_find? hn
  have huser : n'.userId = n.userId := by
    have hsame := h.rows.find?_eq id
    rw [hn, hn'] at hsame
    injection hsame with hsame
    injection hsame with hsame
    exact congrArg (·.userId) hsame
  obtain ⟨_, hstage⟩ := h.calls P hP
  generalize P.op = o at hstage haddr
  generalize P.prog = p at hstage hended
  cases hstage with
  | made =>
      cases o with
      | getUserNotifications userId => cases hended
      | getUserNotificationsUnreadCount userId => cases hended
      | markAsRead now id userId => cases hended
      | markAllAsRead now userId => cases hended
  | found => cases hended
  | marked hm _ hread =>
      obtain ⟨hnid, _⟩ := haddr
      obtain rfl := hnid.symm.trans hid
      obtain rfl := Option.some.inj (hm.symm.trans hn')
      exact hread
  | refused hown =>
      obtain ⟨hnid, hnuser⟩ := haddr
      obtain rfl := hnid.symm.trans hid
      exact absurd ⟨n, hn, hnuser⟩ hown
  | allMarked hall => exact hall id n' hn' (huser.trans haddr)
  | listed => exact haddr.elim
  | counted => exact haddr.elim

/-- The notifications of a user that are left unread are those that nobody was
to mark. -/
theorem Reading.countUnread_eq (h : Reading start c) (hended : ∀ P ∈ c.procs, P.prog.head.isNone)
    (userId : Uuid) : c.db.countUnread userId = start.notifications.rows.countP fun n =>
      n.unreadBy userId && decide (∀ P ∈ c.procs, ¬ P.op.addresses n) := by
  refine Table.countP_eq fun id => ?_
  rcases h.rows id with hsame | ⟨n, t, hn, _, ⟨P, hP, haddr⟩, hread⟩
  · rw [hsame]
    cases hn : start.notifications.find? id with
    | none => rfl
    | some n =>
        cases hunread : n.unreadBy userId with
        | false => simp [hunread]
        | true =>
            have hnobody : ∀ P ∈ c.procs, ¬ P.op.addresses n := by
              intro P hP haddr
              have hread := h.read_of_ended hP (hended P hP) hn haddr n (hsame.trans hn)
              simp only [Notification.unreadBy, Bool.and_eq_true, Option.isNone_iff_eq_none] at hunread
              rw [hunread.2] at hread
              cases hread
            simp only [Option.any_some, hunread, decide_eq_true hnobody, Bool.and_self]
  · rw [hn, hread]
    have hsomebody : ¬ ∀ P ∈ c.procs, ¬ P.op.addresses n := fun hnobody => hnobody P hP haddr
    simp only [Option.any_some, Notification.unreadBy, Notification.read, Option.isNone_some,
      Bool.and_false, decide_eq_false hsomebody]

end

/-- **Notifications are read once.**  What is read stays as it is, nobody marks
another user's notifications, `markAsRead` answers with the notification and
does not raise, and when all calls have ended those are unread that were unread
and addressed by none. -/
theorem read_once (db : Db) (c : System) (hrun : Run program StillUnread ⟨db, []⟩ c) :
    (∀ c', Run program StillUnread c c' → ∀ n ∈ c.db.notifications.rows,
      n.readAt.isSome = true → n ∈ c'.db.notifications.rows) ∧
    (∀ n ∈ db.notifications.rows, ∃ n' ∈ c.db.notifications.rows,
      n' = { n with readAt := n'.readAt } ∧
        (n' = n ∨ ∃ P ∈ c.procs, P.op.addresses n)) ∧
    (∀ P ∈ c.procs, ∀ now id userId, P.op = .markAsRead now id userId → db.Own id userId →
      (∀ e, P.prog ≠ .throw e) ∧ ∀ r, P.prog = .ret r → ∃ n, r = .notification n ∧ n.id = id ∧
        n.userId = userId ∧ n.readAt.isSome = true ∧ n ∈ c.db.notifications.rows) ∧
    ((∀ P ∈ c.procs, P.prog.head.isNone) → ∀ userId, c.db.countUnread userId =
      db.notifications.rows.countP fun n =>
        n.unreadBy userId && decide (∀ P ∈ c.procs, ¬ P.op.addresses n)) := by
  have h := reading_of_run hrun
  refine ⟨?_, ?_, ?_, fun hended userId => h.countUnread_eq hended userId⟩
  · intro c' hrun' n hn hread
    exact Table.mem_of_find? ((readBy_of_run hrun hrun').of_read (Table.find?_of_mem hn) hread)
  · intro n hn
    rcases h.rows n.id with hsame | ⟨m, t, hm, _, haddr, hread⟩
    · exact ⟨n, Table.mem_of_find? (hsame.trans (Table.find?_of_mem hn)), rfl, Or.inl rfl⟩
    · obtain rfl := Option.some.inj ((Table.find?_of_mem hn).symm.trans hm)
      exact ⟨n.read t, Table.mem_of_find? hread, rfl, Or.inr haddr⟩
  · intro P hP now id userId hop hown
    obtain ⟨_, hstage⟩ := h.calls P hP
    rw [hop] at hstage
    obtain ⟨hthrow, hret⟩ := hstage.markAsRead hown
    refine ⟨hthrow, fun r hr => ?_⟩
    obtain ⟨n, rfl, hn, huser, hread⟩ := hret r hr
    have hid := Table.key_of_find? hn
    exact ⟨n, rfl, hid, huser, hread, Table.mem_of_find? hn⟩

/-! ## Two readers -/

namespace Sample

def notification (id userId : Uuid) : Notification where
  id := id
  userId := userId
  bookingId := none
  type := .reminder
  channel := .email
  status := .sent
  title := "Reminder"
  body := ""
  scheduledFor := 0
  sentAt := some 0
  failedAt := none
  failureReason := none
  attemptCount := 1
  readAt := none
  createdAt := 0

/-- Three notifications of Alice, and one of Bob. -/
def db : Db :=
  ⟨(((Table.empty.put (notification "n1" "alice")).put (notification "n2" "alice")).put
    (notification "n3" "alice")).put (notification "n4" "bob")⟩

/-- Two calls look for what they mark, and then mark it; another one marks all
that is left, between a call that finds the first one read and one of Alice's that
asks for Bob's. -/
def interleaved : List (Event Op Exn) :=
  [.spawn (.markAsRead 1 "n1" "alice"), .spawn (.markAsRead 2 "n2" "alice"), .exec 0, .exec 1,
    .exec 1, .exec 0, .spawn (.markAllAsRead 3 "alice"), .spawn (.markAsRead 4 "n1" "alice"),
    .spawn (.markAsRead 5 "n4" "alice"), .exec 3, .exec 2, .exec 4]

/-- Two calls find the first one unread. -/
def atOnce : List (Event Op Exn) :=
  [.spawn (.markAsRead 1 "n1" "alice"), .spawn (.markAsRead 2 "n1" "alice"), .exec 0, .exec 1,
    .exec 0, .exec 1]

end Sample

theorem read_once_sample : ∃ c,
    runChecked program StillUnread ⟨Sample.db, []⟩ Sample.interleaved = some c ∧
    c.db.notifications.rows.map (·.readAt) = [some 1, some 2, some 3, none] ∧
    (∀ P ∈ c.procs, P.prog.head.isNone) ∧
    (∀ c', Run program StillUnread c c' → ∀ n ∈ c.db.notifications.rows,
      n.readAt.isSome = true → n ∈ c'.db.notifications.rows) ∧
    (∀ n ∈ Sample.db.notifications.rows, ∃ n' ∈ c.db.notifications.rows,
      n' = { n with readAt := n'.readAt } ∧
        (n' = n ∨ ∃ P ∈ c.procs, P.op.addresses n)) ∧
    (∀ P ∈ c.procs, ∀ now id userId, P.op = .markAsRead now id userId → Sample.db.Own id userId →
      (∀ e, P.prog ≠ .throw e) ∧ ∀ r, P.prog = .ret r → ∃ n, r = .notification n ∧ n.id = id ∧
        n.userId = userId ∧ n.readAt.isSome = true ∧ n ∈ c.db.notifications.rows) ∧
    ∀ userId, c.db.countUnread userId = Sample.db.notifications.rows.countP fun n =>
      n.unreadBy userId && decide (∀ P ∈ c.procs, ¬ P.op.addresses n) := by
  obtain ⟨c, hc⟩ := Option.isSome_iff_exists.mp
    (show (runChecked program StillUnread ⟨Sample.db, []⟩ Sample.interleaved).isSome by
      decide +kernel)
  have hread : ∀ c ∈ runChecked program StillUnread ⟨Sample.db, []⟩ Sample.interleaved,
      c.db.notifications.rows.map (·.readAt) = [some 1, some 2, some 3, none] ∧
      ∀ P ∈ c.procs, P.prog.head.isNone := by decide +kernel
  obtain ⟨hstay, hown, hanswer, hcount⟩ := read_once Sample.db c (Run.of_runChecked _ _ hc)
  exact ⟨c, hc, (hread c hc).1, (hread c hc).2, hstay, hown, hanswer, hcount (hread c hc).2⟩

/-- The code of the error of Prisma that the call has raised. -/
def Sample.raised (P : Caller) : Option String :=
  match P.prog with
  | .throw (.knownRequest code _) => some code
  | _ => none

/-- The second of them raises, although the notification is there and Alice's. -/
theorem not_read_once : ∃ c,
    runEvents program ⟨Sample.db, []⟩ Sample.atOnce = some c ∧
    Sample.notification "n1" "alice" ∈ Sample.db.notifications.rows ∧
    ∃ P ∈ c.procs, P.op.addresses (Sample.notification "n1" "alice") ∧
      Sample.raised P = some "P2025" := by
  obtain ⟨c, hc⟩ := Option.isSome_iff_exists.mp
    (show (runEvents program ⟨Sample.db, []⟩ Sample.atOnce).isSome by decide +kernel)
  have hraised : ∀ c ∈ runEvents program ⟨Sample.db, []⟩ Sample.atOnce,
      ∃ P ∈ c.procs, P.op.addresses (Sample.notification "n1" "alice") ∧
        Sample.raised P = some "P2025" := by decide +kernel
  exact ⟨c, hc, by decide, hraised c hc⟩

end ServiceHub.Notifications
