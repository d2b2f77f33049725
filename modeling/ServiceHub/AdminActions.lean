/-
# `AdminActions` — what administrators do, all or nothing

`verifyProvider`, `rejectProvider`, `suspendProvider` and
`AdminUserService.updateStatus` write two or three times, without a transaction
around it.

**What fails.**  A failure between the writes leaves some of them: a provider is
suspended and there is no audit row of it, or there is an audit row of a change
that has not happened.  Two calls that have read the same status record it
both, though one of them replaces what the other has set
(`not_admin_actions_atomic`).

**What holds.**  In a run whose steps all meet `Settling`, each call leaves
nothing or everything, however the calls interleave (`admin_actions_atomic`).
-/
import ServiceHub.Providers.Verification
import ServiceHub.Accounts.StatusChanges

namespace ServiceHub.AdminActions

open Data Txn

/-- **All or nothing**, for the profiles of providers and for users. -/
theorem admin_actions_atomic (p : Nat) :
    (∀ (js : Providers.Builtins) (db : Providers.Db) (c : Providers.System)
      (P : Providers.Caller) (q : Providers.AdminRequest),
      Run (Providers.program js) Providers.Settling ⟨db, []⟩ c → c.procs[p]? = some P →
        P.op.admin = some q → Providers.AllOrNothing Providers.Settling js ⟨db, []⟩ c p q P) ∧
    ∀ (db : Accounts.Db) (c : Accounts.Changers) (P : Accounts.Changer),
      Run Accounts.StatusChange.program Accounts.StatusChange.Settling ⟨db, []⟩ c →
        c.procs[p]? = some P →
          Accounts.StatusChange.AllOrNothing Accounts.StatusChange.Settling ⟨db, []⟩ c p P := by
  constructor
  · intro js db c P q hrun hP hadmin
    exact Providers.admin_settled rfl hrun hP hadmin
  · intro db c P hrun hP
    exact Accounts.StatusChange.status_settled rfl hrun hP

/-! ## Some calls -/

namespace Sample

/-- The provider of `Providers.Sample`, with a document. -/
def db : Providers.Db :=
  { Providers.Sample.db with
    documents := Table.empty.put
      ⟨"document", "provider", .pan, "pan.pdf", .pending, none, 0, none⟩ }

def suspend (auditId : Uuid) (now : Time) : Event Providers.Op Exn :=
  .spawn (.suspendProvider ⟨auditId, now, some "admin"⟩ "provider")

def verify (auditId : Uuid) (now : Time) : Event Providers.Op Exn :=
  .spawn (.verifyProvider ⟨auditId, now, some "admin"⟩ "provider")

/-- A suspension, and a verification that begins once the status is set. -/
def overlapping : List (Event Providers.Op Exn) :=
  suspend "a1" 1 :: Providers.Sample.steps 0 2 ++ verify "a2" 2 :: Providers.Sample.steps 1 1 ++
    Providers.Sample.steps 0 3 ++ Providers.Sample.steps 1 5

/-- The profile is suspended, and the connection is lost. -/
def interrupted : List (Event Providers.Op Exn) :=
  suspend "a1" 1 :: Providers.Sample.steps 0 2 ++ [.fail 0 (.failure "connection lost")]

/-- Two suspensions have found the profile verified, and one of them is done. -/
def bothRead : List (Event Providers.Op Exn) :=
  [suspend "a1" 1, suspend "a2" 2, .exec 1] ++ Providers.Sample.steps 0 5

/-- Alice sets the status of Bob. -/
def change (auditId : Uuid) (status : UserStatus) : Event Accounts.StatusChange Exn :=
  .spawn ⟨auditId, 0, "bob", status, some "alice"⟩

/-- Bob is suspended, and active again. -/
def inTurn : List (Event Accounts.StatusChange Exn) :=
  change "a1" .suspended :: List.replicate 4 (.exec 0) ++
    change "a2" .active :: List.replicate 3 (.exec 1)

/-- The suspension of Bob is recorded, and the connection is lost. -/
def recorded : List (Event Accounts.StatusChange Exn) :=
  change "a1" .suspended :: List.replicate 3 (.exec 0) ++ [.fail 0 (.failure "connection lost")]

def suspended (db : Providers.Db) : Bool :=
  (db.providers.find? "provider").any (·.verificationStatus == .suspended)

def thrown {I : Type} {A : I → Type} {ε α : Type} : Prog I A ε α → Bool
  | .throw _ => true
  | _ => false

theorem of_thrown {I : Type} {A : I → Type} {ε α : Type} {p : Prog I A ε α}
    (h : thrown p = true) : ∃ e, p = .throw e := by
  cases p with
  | throw e => exact ⟨e, rfl⟩
  | ret a => cases h
  | ask i k => cases h

end Sample

theorem admin_actions_atomic_sample :
    (∃ c P q, runChecked (Providers.program Providers.Sample.js) Providers.Settling
        ⟨Sample.db, []⟩ Sample.overlapping = some c ∧
      c.procs[1]? = some P ∧ P.op.admin = some q ∧ P.prog.head.isNone = true ∧
      Providers.AllOrNothing Providers.Settling Providers.Sample.js ⟨Sample.db, []⟩ c 1 q P) ∧
    ∃ c P, runChecked Accounts.StatusChange.program Accounts.StatusChange.Settling
        ⟨Accounts.Sample.db, []⟩ Sample.inTurn = some c ∧
      c.procs[1]? = some P ∧ P.prog.head.isNone = true ∧
      Accounts.StatusChange.AllOrNothing Accounts.StatusChange.Settling
        ⟨Accounts.Sample.db, []⟩ c 1 P := by
  constructor
  · obtain ⟨c, hc⟩ := Option.isSome_iff_exists.mp
      (show (runChecked (Providers.program Providers.Sample.js) Providers.Settling
        ⟨Sample.db, []⟩ Sample.overlapping).isSome by decide +kernel)
    have hended : ∀ c ∈ runChecked (Providers.program Providers.Sample.js) Providers.Settling
        ⟨Sample.db, []⟩ Sample.overlapping, c.procs[1]?.any (fun P =>
          P.op.admin.isSome && P.prog.head.isNone) = true := by decide +kernel
    obtain ⟨P, hP, hhead⟩ := (Option.any_eq_true _ _).mp (hended c hc)
    obtain ⟨hadmin, hhead⟩ := Bool.and_eq_true_iff.mp hhead
    obtain ⟨q, hq⟩ := Option.isSome_iff_exists.mp hadmin
    exact ⟨c, P, q, hc, hP, hq, hhead,
      (admin_actions_atomic 1).1 _ _ c P q (Run.of_runChecked _ _ hc) hP hq⟩
  · obtain ⟨c, hc⟩ := Option.isSome_iff_exists.mp
      (show (runChecked Accounts.StatusChange.program Accounts.StatusChange.Settling
        ⟨Accounts.Sample.db, []⟩ Sample.inTurn).isSome by decide +kernel)
    have hended : ∀ c ∈ runChecked Accounts.StatusChange.program Accounts.StatusChange.Settling
        ⟨Accounts.Sample.db, []⟩ Sample.inTurn,
          c.procs[1]?.any (fun P => P.prog.head.isNone) = true := by decide +kernel
    obtain ⟨P, hP, hhead⟩ := (Option.any_eq_true _ _).mp (hended c hc)
    exact ⟨c, P, hc, hP, hhead, (admin_actions_atomic 1).2 _ c P (Run.of_runChecked _ _ hc) hP⟩

/-- A suspension that throws has set the status and left no audit row; of two
that return, the second replaces SUSPENDED and names VERIFIED; and a change of a
user's status that throws has left its audit row. -/
theorem not_admin_actions_atomic :
    (∃ c P q, runEvents (Providers.program Providers.Sample.js) ⟨Sample.db, []⟩
        Sample.interrupted = some c ∧
      c.procs[0]? = some P ∧ P.op.admin = some q ∧ Sample.suspended c.db = true ∧
      c.db.auditLogs.rows.length = 0 ∧ ¬ Providers.AllOrNothing (fun _ _ => True)
        Providers.Sample.js ⟨Sample.db, []⟩ c 0 q P) ∧
    (∃ c₁ c, runEvents (Providers.program Providers.Sample.js) ⟨Sample.db, []⟩
        Sample.bothRead = some c₁ ∧
      runEvents (Providers.program Providers.Sample.js) c₁ (Providers.Sample.steps 1 4) = some c ∧
      Sample.suspended c₁.db = true ∧
      c.procs.all (fun P => P.prog.head.isNone && !Sample.thrown P.prog) = true ∧
      c.db.auditLogs.rows.map (·.oldValue) = List.replicate 2
        (some (.object [("status", status VerificationStatus.verified)]))) ∧
    ∃ c P, runEvents Accounts.StatusChange.program ⟨Accounts.Sample.db, []⟩
        Sample.recorded = some c ∧
      c.procs[0]? = some P ∧ (c.db.users.find? "bob").map (·.status) = some .active ∧
      c.db.auditLogs.rows.length = 1 ∧ ¬ Accounts.StatusChange.AllOrNothing (fun _ _ => True)
        ⟨Accounts.Sample.db, []⟩ c 0 P := by
  refine ⟨?_, ?_, ?_⟩
  · obtain ⟨c, hc⟩ := Option.isSome_iff_exists.mp
      (show (runEvents (Providers.program Providers.Sample.js) ⟨Sample.db, []⟩
        Sample.interrupted).isSome by decide +kernel)
    have hleft : ∀ c ∈ runEvents (Providers.program Providers.Sample.js) ⟨Sample.db, []⟩
        Sample.interrupted, (Sample.suspended c.db = true ∧ c.db.auditLogs.rows.length = 0) ∧
          c.procs[0]?.any (fun P => P.op.admin.isSome && (Sample.thrown P.prog &&
            !(left Providers.Db Providers.Row.durable P.hist).isEmpty)) = true := by
      decide +kernel
    obtain ⟨⟨hset, haudit⟩, hcall⟩ := hleft c hc
    obtain ⟨P, hP, hcall⟩ := (Option.any_eq_true _ _).mp hcall
    obtain ⟨hadmin, hcall⟩ := Bool.and_eq_true_iff.mp hcall
    obtain ⟨hthrown, hleft⟩ := Bool.and_eq_true_iff.mp hcall
    obtain ⟨q, hq⟩ := Option.isSome_iff_exists.mp hadmin
    obtain ⟨e, he⟩ := Sample.of_thrown hthrown
    refine ⟨c, P, q, hc, hP, hq, hset, haudit, fun hall => ?_⟩
    rw [hall.1 e he] at hleft
    cases hleft
  · obtain ⟨c₁, hc₁⟩ := Option.isSome_iff_exists.mp
      (show (runEvents (Providers.program Providers.Sample.js) ⟨Sample.db, []⟩
        Sample.bothRead).isSome by decide +kernel)
    have hset : ∀ c₁ ∈ runEvents (Providers.program Providers.Sample.js) ⟨Sample.db, []⟩
        Sample.bothRead, Sample.suspended c₁.db = true ∧
          ∃ c, runEvents (Providers.program Providers.Sample.js) c₁ (Providers.Sample.steps 1 4) =
            some c ∧ c.procs.all (fun P => P.prog.head.isNone && !Sample.thrown P.prog) = true ∧
            c.db.auditLogs.rows.map (·.oldValue) = List.replicate 2
              (some (.object [("status", status VerificationStatus.verified)])) := by
      intro c₁ hc₁
      cases hc₁
      exact ⟨by decide +kernel, _, rfl, by decide +kernel, rfl⟩
    obtain ⟨hsuspended, c, hc, hended, haudit⟩ := hset c₁ hc₁
    exact ⟨c₁, c, hc₁, hc, hsuspended, hended, haudit⟩
  · obtain ⟨c, hc⟩ := Option.isSome_iff_exists.mp
      (show (runEvents Accounts.StatusChange.program ⟨Accounts.Sample.db, []⟩
        Sample.recorded).isSome by decide +kernel)
    have hleft : ∀ c ∈ runEvents Accounts.StatusChange.program ⟨Accounts.Sample.db, []⟩
        Sample.recorded, ((c.db.users.find? "bob").map (·.status) = some .active ∧
          c.db.auditLogs.rows.length = 1) ∧
          c.procs[0]?.any (fun P => Sample.thrown P.prog && !(rowsOf Accounts.Db (kept P.hist)).isEmpty) = true := by
      decide +kernel
    obtain ⟨⟨hactive, haudit⟩, hcall⟩ := hleft c hc
    obtain ⟨P, hP, hcall⟩ := (Option.any_eq_true _ _).mp hcall
    obtain ⟨hthrown, hleft⟩ := Bool.and_eq_true_iff.mp hcall
    obtain ⟨e, he⟩ := Sample.of_thrown hthrown
    refine ⟨c, P, hc, hP, hactive, haudit, fun hall => ?_⟩
    rw [hall.1 e he] at hleft
    cases hleft

end ServiceHub.AdminActions
