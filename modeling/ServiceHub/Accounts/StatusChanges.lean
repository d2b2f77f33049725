/-
# `Accounts.StatusChanges` — what `AdminUserService.updateStatus` leaves behind

The service reads the user, counts the active admins where it has to, inserts an
audit row that names the status which was read, and sets the new one, each
statement committed by itself.

**What fails.**  If the last statement fails, the audit row stays and tells of a
change that has not happened.  A status that was set by someone else after it
was read is replaced, and another one is named.

**What holds.**  `Settling`: an administrator is named, the status is set once
the audit row is there, and it is the status that was read which is replaced.
Then a call that throws has left nothing, and one that returns has left the
audit row and the status (`status_settled`).
-/
import ServiceHub.Accounts.AdminUsers
import ServiceHub.Txn.Debts
import ServiceHub.Txn.Once

namespace ServiceHub.Accounts

open Data Txn Prog Database

/-! ## What is asked -/

/-- The arguments of `updateStatus`, the id that the audit row gets, and the
time. -/
structure StatusChange where
  auditId : Uuid
  now : Time
  id : Uuid
  status : UserStatus
  adminUserId : Option Uuid

namespace StatusChange

variable (o : StatusChange)

def program : Prog (Instr Stmt Empty) (Instr.Ans Ans) Exn User :=
  autocommit Empty
    (AdminUserService.updateStatus o.auditId o.now o.id o.status o.adminUserId)

def on (u : User) : User := ({ status := some o.status } : UserUpdate).on u

/-- The audit row of `adminUserId`, on a user as it was. -/
def audit (adminUserId : Uuid) (old : User) : AuditLog :=
  AdminUserService.statusAudit o.auditId o.now o.id old o.status adminUserId

/-- The administrator, if one is named. -/
def admin : Option Uuid := o.adminUserId.filter (· ≠ "")

end StatusChange

abbrev Changer : Type := Proc StatusChange Row Stmt Empty Ans Exn User

abbrev Changers : Type := Config StatusChange Db Row Stmt Empty Ans Exn User

/-! ## What a call leaves -/

namespace StatusChange

/-- What has to be followed by the new status. -/
def incurs : (s : Stmt) → Ans s → Bool
  | .createAudit _, _ => true
  | _, _ => false

def settles : Stmt → Bool
  | .updateUser _ _ => true
  | _ => false

/-- The history of a call before its audit row; `count` is how many active admins
there were, if that was asked. -/
def checked (o : StatusChange) (existing : User) (count : Option Nat) : StatusHist :=
  count.toList.map (fun n => ⟨.stmt .countActiveAdmin, .ok n⟩) ++
    [⟨.stmt (.findUser o.id), .ok (some existing)⟩]

/-- The same with its audit row. -/
def recorded (o : StatusChange) (adminUserId : Uuid) (existing : User) (count : Option Nat)
    (a : AuditLog) : StatusHist :=
  ⟨.stmt (.createAudit (o.audit adminUserId existing)), .ok a⟩ :: checked o existing count

/-- How a call ends: it has asked for everything, or has left nothing, or a
statement failed after the audit row was there. -/
def Ended (o : StatusChange) (h : StatusHist) : Except Exn User → Prop
  | .ok u => ∃ adminUserId existing count a, o.admin = some adminUserId ∧
      h = ⟨.stmt (.updateUser o.id { status := some o.status }), .ok u⟩ ::
        recorded o adminUserId existing count a
  | .error _ => rowsOf Db (kept h) = [] ∨ lapsed incurs settles h = true

variable {o : StatusChange} {adminUserId : Uuid} {existing : User} {count : Option Nat}
  {a : AuditLog} {h : StatusHist}

theorem checked_stmt : ∀ x ∈ checked o existing count, ∃ s, x.1 = .stmt s := by
  cases count <;> simp [checked]

theorem recorded_stmt : ∀ x ∈ recorded o adminUserId existing count a, ∃ s, x.1 = .stmt s := by
  cases count <;> simp [recorded, checked]

theorem kept_checked : rowsOf Db (kept (checked o existing count)) = [] := by
  cases count <;> rfl

/-! ### The program logic -/

theorem recordStatus_ended (count : Option Nat) (hadmin : o.admin = some adminUserId) :
    Obeys (fun _ _ => True) (Ended o) (checked o existing count) (autocommit Empty (do
      AdminUserService.recordStatus o.auditId o.now o.id existing o.status o.adminUserId
      AdminUserRepository.updateStatus o.id o.status)) := by
  obtain ⟨hgiven, hne⟩ := Option.filter_eq_some_iff.mp hadmin
  have hne : adminUserId ≠ "" := by simpa using hne
  rw [hgiven, AdminUserService.recordStatus, if_neg hne]
  refine ⟨trivial, fun r => ?_⟩
  cases r with
  | error e => exact Or.inl kept_checked
  | ok a =>
      refine (obeys_stmt (s := Stmt.updateUser o.id { status := some o.status })).mpr
        ⟨trivial, fun u => ?_, fun e => ?_⟩
      · exact ⟨adminUserId, existing, count, a, hadmin, rfl⟩
      · exact Or.inr (by cases count <;> rfl)

theorem checkFinalAdmin_ended (hadmin : o.admin = some adminUserId) :
    Obeys (fun _ _ => True) (Ended o) (checked o existing none) (autocommit Empty (do
      AdminUserService.checkFinalAdmin existing o.status
      AdminUserService.recordStatus o.auditId o.now o.id existing o.status o.adminUserId
      AdminUserRepository.updateStatus o.id o.status)) := by
  unfold AdminUserService.checkFinalAdmin
  split
  · refine ⟨trivial, fun r => ?_⟩
    cases r with
    | error e => exact Or.inl rfl
    | ok n =>
        by_cases hlast : n ≤ 1
        · show Obeys _ (Ended o) _ (autocommit Empty (Prog.throwIf (n ≤ 1) _ >>= fun _ => _))
          rw [Prog.throwIf, if_pos hlast]
          exact Or.inl rfl
        · show Obeys _ (Ended o) _ (autocommit Empty (Prog.throwIf (n ≤ 1) _ >>= fun _ => _))
          rw [Prog.throwIf, if_neg hlast]
          exact recordStatus_ended (some n) hadmin
  · exact recordStatus_ended none hadmin

theorem program_ended (hadmin : o.admin = some adminUserId) :
    Obeys (fun _ _ => True) (Ended o) [] o.program := by
  refine ⟨trivial, fun r => ?_⟩
  cases r with
  | error e => exact Or.inl rfl
  | ok found =>
      cases found with
      | none => exact Or.inl rfl
      | some existing =>
          show Obeys _ (Ended o) _ (autocommit Empty (Prog.throwIf _ _ >>= fun _ => _))
          by_cases hown : some existing.id = o.adminUserId
          · rw [Prog.throwIf, if_pos hown]
            exact Or.inl rfl
          · rw [Prog.throwIf, if_neg hown]
            exact checkFinalAdmin_ended hadmin

end StatusChange

/-! ## Audit rows stay -/

theorem key_of_get {db : Db} {k : Key} {r : Row} (h : db.get k = some r) : r.key = k := by
  cases k with
  | user id =>
      obtain ⟨u, hu, rfl⟩ := Option.map_eq_some_iff.mp h
      exact congrArg Key.user (Table.key_of_find? hu)
  | audit id =>
      obtain ⟨a, ha, rfl⟩ := Option.map_eq_some_iff.mp h
      exact congrArg Key.audit (Table.key_of_find? ha)

theorem audit_fixed (s : Stmt) (db : Db) (a : Ans s) (hexec : db.exec s = .ok a) (w : Row)
    (hw : w ∈ s.written a) (r : Row) (hr : db.get w.key = some r) : ¬ ∃ x, r = .audit x := by
  rintro ⟨x, rfl⟩
  have hkey : w.key = .audit x.id := (key_of_get hr).symm
  cases s with
  | createAudit row =>
      obtain ⟨hsame, hfresh⟩ := Db.insert_ok hexec
      rw [List.mem_singleton.mp hw, hsame] at hr
      rw [hfresh] at hr
      cases hr
  | createUser u =>
      rw [List.mem_singleton.mp hw] at hkey
      cases hkey
  | updateUser id data =>
      rw [List.mem_singleton.mp hw] at hkey
      cases hkey
  | _ => exact absurd hw List.not_mem_nil

/-! ## Runs -/

namespace StatusChange

/-- The user that the call has found. -/
def foundUser : StatusHist → Option User
  | [] => none
  | ⟨.stmt (.findUser _), .ok u⟩ :: _ => u
  | _ :: h => foundUser h

/-- If the call sets the status next, it replaces the one it has read. -/
def ReplacesRead (db : Db) (P : Changer) : Prop :=
  match P.stmt? with
  | some (.updateUser id _) => ∀ u ∈ db.users.find? id, ∀ existing ∈ foundUser P.hist,
      u.status = existing.status
  | _ => True

instance (db : Db) (P : Changer) : Decidable (ReplacesRead db P) := by
  unfold ReplacesRead
  split <;> infer_instance

/-- An administrator is named; no statement fails between the audit row and the
new status; and the status that is replaced is the one that was read. -/
def Settling (c : Changers) (e : Event StatusChange Exn) : Prop :=
  Undisturbed incurs settles c e ∧
    match e with
    | .spawn o => o.admin.isSome = true
    | .exec p => ∀ P ∈ c.procs[p]?, ReplacesRead c.db P
    | .fail _ _ => True

instance (c : Changers) : ∀ e, Decidable (Settling c e)
  | .spawn o => inferInstanceAs (Decidable (_ ∧ o.admin.isSome = true))
  | .exec p => inferInstanceAs (Decidable (_ ∧ ∀ P ∈ c.procs[p]?, ReplacesRead c.db P))
  | .fail _ _ => inferInstanceAs (Decidable (_ ∧ True))

section
variable (Ok : Changers → Event StatusChange Exn → Prop) (c₀ c : Changers) (p : Nat)

/-- In the run from `c₀` to `c`, call number `p` has left the audit row, which has
stayed, and the new status, on a user whose old one the audit row names. -/
def Settled (o : StatusChange) (rows : List Row) : Prop :=
  ∃ (c₁ : Changers) (old : User) (adminUserId : Uuid), o.adminUserId = some adminUserId ∧
    rows = [.audit (o.audit adminUserId old), .user (o.on old)] ∧
    c₁.db.users.find? o.id = some old ∧ Commits program Ok c₀ c p c₁ [.user (o.on old)] ∧
    c.db.auditLogs.find? o.auditId = some (o.audit adminUserId old)

/-- If the call throws it has left nothing, and if it returns it has left
everything. -/
def AllOrNothing (P : Changer) : Prop :=
  (∀ e, P.prog = .throw e → rowsOf Db (kept P.hist) = []) ∧
  ∀ r, P.prog = .ret r → Settled Ok c₀ c p P.op (rowsOf Db (kept P.hist))

end

section
variable {c₀ c : Changers} {p : Nat} {P : Changer} {o : StatusChange} {adminUserId : Uuid}
  {existing u : User} {count : Option Nat} {a : AuditLog}

/-- The audit row, and that it has stayed. -/
theorem audit_committed (hc₀ : c₀.procs = []) (hrun : Run program Settling c₀ c)
    (hP : c.procs[p]? = some P) (hsuffix : recorded o adminUserId existing count a <:+ P.hist) :
    a = o.audit adminUserId existing ∧ c.db.auditLogs.find? a.id = some a := by
  obtain ⟨c₁, _, _, hcommits, hexec, _⟩ :=
    (hrun.traced hc₀ hP hsuffix).commits hc₀ (sinceBegin_of_stmts checked_stmt)
  obtain ⟨hsame, -⟩ := Db.insert_ok hexec
  refine ⟨hsame, ?_⟩
  obtain ⟨c₂, hn, hdb, hafter⟩ := hcommits.step
  have hthere : c₂.db.get (.audit a.id) = some (.audit a) := by
    rw [hdb]
    exact (Db.get_put c₁.db (.audit a) (.audit a.id)).trans (if_pos rfl)
  have hstays : c.db.get (.audit a.id) = some (.audit a) :=
    Run.stays audit_fixed hc₀ (.step hcommits.before hcommits.ok hn) hafter hthere ⟨a, rfl⟩
  obtain ⟨x, hx, hsame⟩ := Option.map_eq_some_iff.mp hstays
  cases hsame
  exact hx

/-- The step that set the status. -/
theorem status_committed (hc₀ : c₀.procs = []) (hrun : Run program Settling c₀ c)
    (hP : c.procs[p]? = some P)
    (hsuffix : (⟨.stmt (.updateUser o.id { status := some o.status }), .ok u⟩ ::
      recorded o adminUserId existing count a) <:+ P.hist) : ∃ c₁ old,
      c₁.db.users.find? o.id = some old ∧ u = o.on old ∧ old.status = existing.status ∧
      Commits program Settling c₀ c p c₁ [.user u] := by
  obtain ⟨c₁, P₁, k, hcommits, hexec, hP₁, _, hhist, hprog⟩ :=
    (hrun.traced hc₀ hP hsuffix).commits hc₀ (sinceBegin_of_stmts recorded_stmt)
  obtain ⟨old, hold, rfl⟩ := Db.updateUser_ok hexec
  refine ⟨c₁, old, hold, rfl, ?_, hcommits⟩
  have hreads := hcommits.ok.2 P₁ hP₁
  rw [ReplacesRead, Proc.stmt?_eq hprog, hhist] at hreads
  refine hreads old hold existing ?_
  cases count <;> rfl

/-- **The changes of a status.** -/
theorem status_settled (hc₀ : c₀.procs = []) (hrun : Run program Settling c₀ c)
    (hP : c.procs[p]? = some P) : AllOrNothing Settling c₀ c p P := by
  have hmem := List.mem_of_getElem? hP
  have hobeys := hrun.obeys (Q := fun _ _ _ => True) (R := Ended) (fun c o hok => by
    obtain ⟨adminUserId, hadmin⟩ := Option.isSome_iff_exists.mp hok.2
    exact program_ended hadmin) hc₀ P hmem
  constructor
  · intro e hthrow
    rw [hthrow] at hobeys
    rcases hobeys with hnothing | hlapsed
    · exact hnothing
    · rw [Run.not_lapsed (fun _ _ hok => hok.1) hc₀ hrun P hmem] at hlapsed
      cases hlapsed
  · intro u hret
    rw [hret] at hobeys
    obtain ⟨adminUserId, existing, count, a, hadmin, hhist⟩ := hobeys
    have hset : (_ :: recorded P.op adminUserId existing count a) <:+ P.hist := ⟨[], hhist.symm⟩
    have hrecorded := (List.suffix_cons _ _).trans hset
    obtain ⟨c₁, old, hold, rfl, hstatus, hcommits⟩ := status_committed hc₀ hrun hP hset
    obtain ⟨rfl, hstays⟩ := audit_committed hc₀ hrun hP hrecorded
    have hnames : P.op.audit adminUserId existing = P.op.audit adminUserId old := by
      simp only [audit, AdminUserService.statusAudit, hstatus]
    rw [hnames] at hstays
    refine ⟨c₁, old, adminUserId, (Option.filter_eq_some_iff.mp hadmin).1, ?_, hold, hcommits,
      hstays⟩
    rw [hhist, hnames]
    cases count <;> rfl

end

end StatusChange

end ServiceHub.Accounts
