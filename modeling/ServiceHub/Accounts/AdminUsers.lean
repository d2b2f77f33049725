/-
# `Accounts.AdminUsers` — the last active administrator

`PATCH /admin/users/:id/status` is two guards and one service function:
`JwtStrategy.validate` reads the user of the token, `RoleGuard` wants an ADMIN,
and `AdminUserService.updateStatus` reads the target, counts the active admins
where it is about to take one away, and writes an audit row and the status.
Each of these statements is committed by itself.

**What fails.**  The write is unconditional, so that what was counted may be
out of date by then: two admins who deactivate each other both count two
(`not_active_admin_stays`).

**What holds.**  `CheckedAlone`: a call that takes an active admin away has counted, and
no other call stands between its count and its write.  Then what a call has
counted is a lower bound of what there is until it has written
(`Counts.next`), and one is left (`active_admin_stays`).
-/
import ServiceHub.Accounts.Database
import ServiceHub.Operations
import ServiceHub.Txn.History

namespace ServiceHub.Accounts

open Data Txn Txn.Database

/-! ## The service -/

/-- `request.user`. -/
structure CurrentUser where
  userId : Uuid
  email : String
  role : Role

def JwtStrategy.validate (sub : Uuid) : Query CurrentUser := do
  let dbUser ← AuthRepository.findById sub
  let dbUser ← Prog.orThrow (dbUser.filter fun u => u.status == .active)
    (.unauthorized "User account is inactive or deleted")
  pure ⟨dbUser.id, dbUser.email, dbUser.role⟩

def RoleGuard.canActivate (requiredRole : List Role) (user : CurrentUser) : Query Unit :=
  Prog.throwIf (requiredRole ≠ [] ∧ user.role ∉ requiredRole)
    (.forbidden "You do not have permission to access this resource")

namespace AdminUserService

def findOne (id : Uuid) : Query User := do
  let user ← AdminUserRepository.findById id
  Prog.orThrow user (.notFound s!"User with ID \"{id}\" not found")

/-- Invariant 2: cannot remove or suspend the final active admin. -/
def checkFinalAdmin (existing : User) (status : UserStatus) : Query Unit :=
  if existing.role = .admin ∧ existing.status = .active ∧ status ≠ .active then do
    let activeAdminCount ← AdminUserRepository.countActiveAdmin
    Prog.throwIf (activeAdminCount ≤ 1)
      (.badRequest "Cannot suspend or deactivate the final active administrative account")
  else pure ()

def statusAudit (auditId : Uuid) (now : Time) (id : Uuid) (existing : User)
    (status : UserStatus) (adminUserId : Uuid) : AuditLog where
  id := auditId
  actorUserId := some adminUserId
  entityType := "User"
  entityId := id
  action := if status = .suspended then .userSuspended else .userStatusUpdated
  oldValue := some (.object [("status", ServiceHub.status existing.status)])
  newValue := some (.object [("status", ServiceHub.status status)])
  createdAt := now

/-- `if (adminUserId) await this.auditLogRepository.create(…)`. -/
def recordStatus (auditId : Uuid) (now : Time) (id : Uuid) (existing : User)
    (status : UserStatus) : Option Uuid → Query Unit
  | some adminUserId =>
      if adminUserId = "" then pure ()
      else do
        let _ ← AuditLogRepository.create (statusAudit auditId now id existing status adminUserId)
        pure ()
  | none => pure ()

def updateStatus (auditId : Uuid) (now : Time) (id : Uuid) (status : UserStatus)
    (adminUserId : Option Uuid) : Query User := do
  let existing ← findOne id
  Prog.throwIf (some existing.id = adminUserId)
    (.badRequest "Admin cannot change their own account status")
  checkFinalAdmin existing status
  recordStatus auditId now id existing status adminUserId
  AdminUserRepository.updateStatus id status

end AdminUserService

/-- A request: the subject of its access token, the user whose status it sets,
the id that its audit row gets, and the time. -/
structure StatusRequest where
  sub : Uuid
  id : Uuid
  status : UserStatus
  auditId : Uuid
  now : Time

def AdminUserController.updateStatus (o : StatusRequest) : Query User := do
  let user ← JwtStrategy.validate o.sub
  RoleGuard.canActivate [.admin] user
  AdminUserService.updateStatus o.auditId o.now o.id o.status (some user.userId)

def updateStatusProgram (o : StatusRequest) : Prog (Instr Stmt Empty) (Instr.Ans Ans) Exn User :=
  autocommit Empty (AdminUserController.updateStatus o)

abbrev StatusCall : Type := Proc StatusRequest Row Stmt Empty Ans Exn User

abbrev StatusCalls : Type := Config StatusRequest Db Row Stmt Empty Ans Exn User

abbrev StatusHist : Type := Hist (Instr Stmt Empty) (Instr.Ans Ans) Exn

/-! ## What a request issues -/

/-- The active admins were counted, `n` of them. -/
def Counted (n : Nat) (h : StatusHist) : Prop := ⟨.stmt .countActiveAdmin, .ok n⟩ ∈ h

/-- The status was set. -/
def Updated (h : StatusHist) : Prop :=
  ∃ id data a, ⟨.stmt (.updateUser id data), .ok a⟩ ∈ h

/-- Statements only, nothing once the status is set, and it is set only where
more than one active admin was counted, if any were. -/
def Guarded (h : StatusHist) : Instr Stmt Empty → Prop
  | .stmt (.updateUser _ _) => ¬ Updated h ∧ ∀ n, Counted n h → 1 < n
  | .stmt (.createUser _) => False
  | .stmt _ => ¬ Updated h
  | _ => False

section
variable {h : StatusHist} {α : Type} {R : StatusHist → Except Exn α → Prop}

theorem not_updated_cons {s : Stmt} {r : Except Exn (Ans s)} (hs : ∀ id data, s ≠ .updateUser id data)
    (hno : ¬ Updated h) : ¬ Updated (⟨.stmt s, r⟩ :: h) := by
  rintro ⟨id, data, a, hmem⟩
  rcases List.mem_cons.mp hmem with heq | hmem
  · injection heq with hi _
    injection hi with hs'
    exact hs id data hs'.symm
  · exact hno ⟨id, data, a, hmem⟩

theorem counted_cons {s : Stmt} {r : Except Exn (Ans s)} {n : Nat} (hs : s ≠ .countActiveAdmin)
    (hn : Counted n (⟨.stmt s, r⟩ :: h)) : Counted n h := by
  rcases List.mem_cons.mp hn with heq | hmem
  · injection heq with hi _
    injection hi with hs'
    exact absurd hs'.symm hs
  · exact hmem

end

/-- Nothing was counted, or more than one. -/
def MoreThanOne (h : StatusHist) : Prop := ¬ Updated h ∧ ∀ n, Counted n h → 1 < n

/-- A statement that counts nothing and touches no user. -/
def Stmt.aside : Stmt → Prop
  | .createUser _ | .updateUser _ _ | .countActiveAdmin => False
  | _ => True

theorem moreThanOne_cons {h : StatusHist} {s : Stmt} {r : Except Exn (Ans s)} (hs : s.aside)
    (hmore : MoreThanOne h) : MoreThanOne (⟨.stmt s, r⟩ :: h) := by
  refine ⟨not_updated_cons ?_ hmore.1, fun n hn => hmore.2 n (counted_cons ?_ hn)⟩
  · rintro id data rfl
    exact hs
  · rintro rfl
    exact hs

/-- A part of the program after which it may go on to set the status. -/
def Passes {α : Type} (h : StatusHist) (p : Query α) : Prop :=
  Obeys Guarded (fun h' r => r.isOk → MoreThanOne h') h (autocommit Empty p)

section
variable {h : StatusHist} {α β : Type} {p : Query α} {f : α → Query β}

theorem Passes.then {R : StatusHist → Except Exn β → Prop} (hp : Passes h p)
    (hf : ∀ h' a, MoreThanOne h' → Obeys Guarded R h' (autocommit Empty (f a)))
    (hR : ∀ h' e, R h' (.error e)) : Obeys Guarded R h (autocommit Empty (p >>= f)) := by
  rw [autocommit_bind]
  refine obeys_bind.mpr (hp.mono (fun _ _ hi => hi) ?_)
  rintro h' (e | a) hmore
  · exact hR h' e
  · exact hf h' a (hmore rfl)

theorem Passes.bind (hp : Passes h p) (hf : ∀ h' a, MoreThanOne h' → Passes h' (f a)) :
    Passes h (p >>= f) := hp.then hf fun _ _ => nofun

theorem Passes.orThrow {o : Option α} {e : Exn} (hmore : MoreThanOne h) :
    Passes h (Prog.orThrow o e) := by
  cases o with
  | none => exact nofun
  | some a => exact fun _ => hmore

theorem Passes.throwIf {c : Prop} [Decidable c] {e : Exn} (hmore : ¬ c → MoreThanOne h) :
    Passes h (Prog.throwIf c e) := by
  unfold Prog.throwIf
  split
  · exact nofun
  · rename_i hc
    exact fun _ => hmore hc

theorem Passes.query {s : Stmt} (hs : s.aside) (hmore : MoreThanOne h) : Passes h (query s) := by
  refine obeys_stmt.mpr ⟨?_, fun a _ => moreThanOne_cons hs hmore, fun e => nofun⟩
  cases s with
  | updateUser id data => exact hs.elim
  | createUser u => exact hs.elim
  | _ => exact hmore.1

end

theorem validate_passes {h : StatusHist} (sub : Uuid) (hmore : MoreThanOne h) :
    Passes h (JwtStrategy.validate sub) := by
  refine (Passes.query (s := .findUser sub) trivial hmore).bind fun h dbUser hmore => ?_
  refine (Passes.orThrow hmore).bind fun h dbUser hmore => ?_
  exact fun _ => hmore

theorem findOne_passes {h : StatusHist} (id : Uuid) (hmore : MoreThanOne h) :
    Passes h (AdminUserService.findOne id) :=
  (Passes.query (s := .findUser id) trivial hmore).bind fun _ _ hmore => Passes.orThrow hmore

theorem checkFinalAdmin_passes {h : StatusHist} (existing : User) (status : UserStatus)
    (hmore : MoreThanOne h) : Passes h (AdminUserService.checkFinalAdmin existing status) := by
  unfold AdminUserService.checkFinalAdmin
  split
  · unfold Passes
    rw [autocommit_bind]
    refine obeys_bind.mpr (obeys_stmt.mpr ⟨hmore.1, fun count => ?_, fun e => nofun⟩)
    refine Passes.throwIf fun hcount => ⟨not_updated_cons nofun hmore.1, fun n hn => ?_⟩
    rcases List.mem_cons.mp hn with heq | hmem
    · cases heq
      exact Nat.lt_of_not_le hcount
    · exact hmore.2 n hmem
  · exact fun _ => hmore

theorem recordStatus_passes {h : StatusHist} (auditId : Uuid) (now : Time) (id : Uuid)
    (existing : User) (status : UserStatus) (hmore : MoreThanOne h) : ∀ adminUserId,
      Passes h (AdminUserService.recordStatus auditId now id existing status adminUserId)
  | none => fun _ => hmore
  | some adminUserId => by
      simp only [AdminUserService.recordStatus]
      split
      · exact fun _ => hmore
      · refine (Passes.query (s := .createAudit _) trivial hmore).bind fun h a hmore => ?_
        exact fun _ => hmore

theorem updateStatus_guarded {h : StatusHist} (auditId : Uuid) (now : Time) (id : Uuid)
    (status : UserStatus) (adminUserId : Option Uuid) (hmore : MoreThanOne h) :
    Obeys Guarded (fun _ _ => True) h
      (autocommit Empty (AdminUserService.updateStatus auditId now id status adminUserId)) := by
  refine (findOne_passes id hmore).then (fun h existing hmore => ?_) fun _ _ => trivial
  refine (Passes.throwIf fun _ => hmore).then (fun h _ hmore => ?_) fun _ _ => trivial
  refine (checkFinalAdmin_passes existing status hmore).then (fun h _ hmore => ?_)
    fun _ _ => trivial
  refine (recordStatus_passes auditId now id existing status hmore adminUserId).then
    (fun h _ hmore => ?_) fun _ _ => trivial
  exact obeys_stmt.mpr ⟨hmore, fun _ => trivial, fun _ => trivial⟩

/-- The program logic of a request. -/
theorem updateStatusProgram_guarded (o : StatusRequest) :
    Obeys Guarded (fun _ _ => True) [] (updateStatusProgram o) := by
  have hmore : MoreThanOne [] :=
    ⟨fun ⟨_, _, _, hmem⟩ => absurd hmem List.not_mem_nil, fun _ hn => absurd hn List.not_mem_nil⟩
  refine (validate_passes o.sub hmore).then (fun h user hmore => ?_) fun _ _ => trivial
  refine (Passes.throwIf fun _ => hmore).then (fun h _ hmore => ?_) fun _ _ => trivial
  exact updateStatus_guarded _ _ _ _ _ hmore

/-! ## Runs -/

/-- The call has counted the active admins. -/
def hasCounted (P : StatusCall) : Bool :=
  P.hist.any fun
    | ⟨.stmt .countActiveAdmin, .ok _⟩ => true
    | _ => false

/-- The call stands between its count and its end. -/
def counting (P : StatusCall) : Bool := hasCounted P && P.prog.head.isSome

/-- The call is about to take an active admin away. -/
def takesAdmin (db : Db) (P : StatusCall) : Bool :=
  match P.prog.head with
  | some (.stmt (.updateUser id data)) =>
      (db.users.find? id).any fun u => activeAdmin u && !activeAdmin (data.on u)
  | _ => false

/-- A call that takes an active admin away has counted, and no other call stands
between its count and its end. -/
def CheckedAlone (c : StatusCalls) : Event StatusRequest Exn → Prop
  | .exec p => ∀ P ∈ c.procs[p]?, takesAdmin c.db P →
      hasCounted P ∧ ∀ Q ∈ c.procs.eraseIdx p, counting Q = false
  | _ => True

instance (c : StatusCalls) (e : Event StatusRequest Exn) : Decidable (CheckedAlone c e) := by
  unfold CheckedAlone
  split <;> infer_instance

/-- The active admins are at least one, and as many as any call has counted
that may still act. -/
def Counts (c : StatusCalls) : Prop :=
  1 ≤ c.db.activeAdmins ∧
    ∀ P ∈ c.procs, counting P → ∀ n, Counted n P.hist → n ≤ c.db.activeAdmins

theorem hasCounted_iff {P : StatusCall} : hasCounted P ↔ ∃ n, Counted n P.hist := by
  rw [hasCounted, List.any_eq_true]
  constructor
  · rintro ⟨⟨i, r⟩, hmem, hmatch⟩
    split at hmatch
    · rename_i n heq
      cases heq
      exact ⟨n, hmem⟩
    · cases hmatch
  · rintro ⟨n, hmem⟩
    exact ⟨_, hmem, rfl⟩

section
variable {db : Db} {Ok : StatusCalls → Event StatusRequest Exn → Prop} {c c' : StatusCalls}
  {e : Event StatusRequest Exn} {P : StatusCall}

/-- What a call issues next is guarded by its history. -/
theorem guarded_of_head (hrun : Run updateStatusProgram Ok ⟨db, []⟩ c) (hP : P ∈ c.procs)
    {i : Instr Stmt Empty} {k : Except Exn (i.Ans Ans) → Prog (Instr Stmt Empty) (Instr.Ans Ans) Exn User}
    (hk : P.prog = .ask i k) : Guarded P.hist i := by
  have hobeys := hrun.obeys (fun _ o _ => updateStatusProgram_guarded o) rfl P hP
  rw [hk] at hobeys
  exact hobeys.1

theorem not_updated_of_head (hrun : Run updateStatusProgram Ok ⟨db, []⟩ c) (hP : P ∈ c.procs)
    (hhead : P.prog.head.isSome) : ¬ Updated P.hist := by
  cases hprog : P.prog with
  | ret a => simp [hprog, Prog.head] at hhead
  | throw x => simp [hprog, Prog.head] at hhead
  | ask i k =>
      have hguarded := guarded_of_head hrun hP hprog
      cases i with
      | stmt s =>
          cases s with
          | updateUser id data => exact hguarded.1
          | createUser u => exact hguarded.elim
          | _ => exact hguarded
      | _ => exact hguarded.elim

theorem sinceBegin_of_guarded : ∀ {h : StatusHist}, Obeyed Guarded h → sinceBegin h = none
  | [], _ => rfl
  | ⟨i, r⟩ :: h, ⟨hguarded, hbefore⟩ => by
      have hout := sinceBegin_of_guarded hbefore
      cases i with
      | stmt s => cases r <;> simp [sinceBegin, hout]
      | _ => exact hguarded.elim

/-- A request opens no transaction. -/
theorem tx_of_run (hrun : Run updateStatusProgram Ok ⟨db, []⟩ c) (hP : P ∈ c.procs) :
    P.tx = none := by
  have hobeyed := hrun.obeyed (fun _ o _ => updateStatusProgram_guarded o) rfl P hP
  rw [Run.tx_eq rfl hrun P hP, sinceBegin_of_guarded hobeyed]
  rfl

/-- **What a step does to their number**: it falls by one where a call takes one
away, and does not fall otherwise. -/
theorem activeAdmins_next (hrun : Run updateStatusProgram Ok ⟨db, []⟩ c)
    (hn : next updateStatusProgram c e = some c') : c.db.activeAdmins ≤ c'.db.activeAdmins ∨
    ∃ p P, e = .exec p ∧ c.procs[p]? = some P ∧ takesAdmin c.db P ∧
      c'.db.activeAdmins + 1 = c.db.activeAdmins := by
  rcases Run.db_next rfl hrun hn with hsame | ⟨p, P, hP, rfl, ⟨k, l, hk, _, _⟩ |
      ⟨s, k, a, hk, _, hexec, hdb⟩⟩
  · exact Or.inl (Nat.le_of_eq (congrArg Db.activeAdmins hsame.symm))
  · exact (guarded_of_head hrun (List.mem_of_getElem? hP) hk).elim
  · cases s with
    | updateUser id data =>
        simp only [exec, Db.exec] at hexec
        cases hfind : c.db.users.find? id with
        | none => simp [hfind] at hexec
        | some u =>
            rw [hfind] at hexec
            cases hexec
            have hid : (data.on u).id = id := show u.id = id from Table.key_of_find? hfind
            have hput := Db.activeAdmins_put (hid ▸ hfind : c.db.users.find? (data.on u).id = some u)
            have hcount : c'.db.activeAdmins = (c.db.put (.user (data.on u))).activeAdmins :=
              congrArg Db.activeAdmins hdb
            by_cases htakes : activeAdmin u = true ∧ activeAdmin (data.on u) = false
            · right
              refine ⟨p, P, rfl, hP, ?_, ?_⟩
              · simp [takesAdmin, hk, Prog.head, hfind, htakes]
              · simp [htakes] at hput
                omega
            · left
              cases hu : activeAdmin u <;> cases hv : activeAdmin (data.on u) <;>
                simp [hu, hv] at hput htakes <;> omega
    | createUser u => exact (guarded_of_head hrun (List.mem_of_getElem? hP) hk).elim
    | _ =>
        left
        rw [hdb]
        exact Nat.le_refl c.db.activeAdmins

/-- The step lemma. -/
theorem Counts.next (hrun : Run updateStatusProgram CheckedAlone ⟨db, []⟩ c)
    (hok : CheckedAlone c e) (hn : next updateStatusProgram c e = some c') (hcounts : Counts c) :
    Counts c' := by
  obtain ⟨hleft, hcounted⟩ := hcounts
  rcases activeAdmins_next hrun hn with hle | ⟨p, P, rfl, hP, htakes, hfall⟩
  · refine ⟨Nat.le_trans hleft hle, fun Q hQ hcounting n hcount => ?_⟩
    obtain ⟨q, hq⟩ := List.mem_iff_getElem?.mp hQ
    rcases proc_of_next hn hq with hold | ⟨o, _, _, rfl⟩ | ⟨P, i, k, r, tx, hP, hk, heff, rfl⟩
    · exact Nat.le_trans (hcounted Q (List.mem_of_getElem? hold) hcounting n hcount) hle
    · exact absurd hcount List.not_mem_nil
    · have hmem := List.mem_of_getElem? hP
      rcases List.mem_cons.mp hcount with heq | hbefore
      · -- the count that was just answered is of the committed state
        cases heq
        obtain ⟨_, hexec⟩ := heff.exec_of_ok
        rw [tx_of_run hrun hmem] at hexec
        cases hexec
        exact hle
      · refine Nat.le_trans (hcounted P hmem ?_ n hbefore) hle
        rw [counting, hasCounted_iff.mpr ⟨n, hbefore⟩, hk]
        rfl
  · obtain ⟨hhas, halone⟩ := hok P hP htakes
    obtain ⟨n, hn'⟩ := hasCounted_iff.mp hhas
    have hmem := List.mem_of_getElem? hP
    have hafter : Run updateStatusProgram CheckedAlone ⟨db, []⟩ c' := .step hrun hok hn
    rcases next_cases _ hn with ⟨o, he, _⟩ | ⟨p', P', i, k, r, tx, db', hP', hk, heff, rfl⟩
    · cases he
    obtain rfl : p = p' := by
      rcases heff.actor with he | ⟨x, he⟩ <;> cases he
      rfl
    obtain rfl := Option.some.inj (hP.symm.trans hP')
    have hset := guarded_of_head hrun hmem hk
    rw [takesAdmin, hk] at htakes
    cases i with
    | stmt s =>
        cases s with
        | updateUser id data =>
            -- more than one was counted, and it was not too many
            have hlow := hset.2 n hn'
            have hhigh := hcounted P hmem (by rw [counting, hhas, hk]; rfl) n hn'
            refine ⟨by omega, fun Q hQ hcounting => ?_⟩
            obtain ⟨q, hq⟩ := List.mem_iff_getElem?.mp hQ
            by_cases hpq : p = q
            · -- the call that has just written is at its end
              subst hpq
              cases r with
              | error x =>
                  simp only [heff.db_of_error] at hfall
                  omega
              | ok a =>
                  simp only [List.getElem?_set_self (List.getElem?_eq_some_iff.mp hP).1,
                    Option.some.injEq] at hq
                  subst hq
                  have hend := not_updated_of_head hafter hQ (Bool.and_eq_true_iff.mp hcounting).2
                  exact absurd ⟨id, data, a, List.mem_cons_self⟩ hend
            · rw [List.getElem?_set_ne hpq] at hq
              have hother := List.mem_eraseIdx_iff_getElem?.mpr ⟨q, Ne.symm hpq, hq⟩
              exact absurd (hcounting.symm.trans (halone Q hother)) (by decide)
        | _ => simp [Prog.head] at htakes
    | _ => simp [Prog.head] at htakes

theorem counts_of_run (hdb : 1 ≤ db.activeAdmins)
    (hrun : Run updateStatusProgram CheckedAlone ⟨db, []⟩ c) : Counts c := by
  induction hrun with
  | start => exact ⟨hdb, fun P hP => absurd hP List.not_mem_nil⟩
  | step hrun hok hn ih => exact ih.next hrun hok hn

end

/-- **An active admin stays.** -/
theorem active_admin_stays (db : Db) (c : StatusCalls)
    (hadmin : ∃ u ∈ db.users.rows, u.role = .admin ∧ u.status = .active)
    (hrun : Run updateStatusProgram CheckedAlone ⟨db, []⟩ c) :
    ∃ u ∈ c.db.users.rows, u.role = .admin ∧ u.status = .active := by
  have hcounted : ∀ db : Db, 1 ≤ db.activeAdmins ↔
      ∃ u ∈ db.users.rows, u.role = .admin ∧ u.status = .active := by
    intro db
    simp only [Db.activeAdmins, activeAdmin, Nat.one_le_iff_ne_zero, ← Nat.pos_iff_ne_zero,
      List.countP_pos_iff, Bool.and_eq_true, beq_iff_eq]
  exact (hcounted c.db).mp (counts_of_run ((hcounted db).mpr hadmin) hrun).1

/-! ## Two admins -/

namespace Sample

open ServiceHub.Sample (user)

def db : Db where
  users := (Table.empty.put (user "alice" .admin)).put (user "bob" .admin)
  auditLogs := .empty

/-- `sub` deactivates `id`. -/
def deactivate (sub id auditId : Uuid) : StatusRequest := ⟨sub, id, .inactive, auditId, 0⟩

/-- Bob is deactivated and then activated again, one request at a time. -/
def inTurn : List (Event StatusRequest Exn) :=
  .spawn (deactivate "alice" "bob" "a1") :: List.replicate 5 (.exec 0) ++
    .spawn ⟨"alice", "bob", .active, "a2", 0⟩ :: List.replicate 4 (.exec 1)

/-- Alice and Bob deactivate each other. -/
def eachOther : List (Event StatusRequest Exn) :=
  [.spawn (deactivate "alice" "bob" "a1"), .spawn (deactivate "bob" "alice" "a2")] ++
    List.replicate 3 (.exec 0) ++ List.replicate 5 (.exec 1) ++ List.replicate 2 (.exec 0)

end Sample

theorem active_admin_stays_sample : ∃ c : StatusCalls,
    runChecked updateStatusProgram CheckedAlone ⟨Sample.db, []⟩ Sample.inTurn = some c ∧
    c.procs.all (fun P => P.prog.head.isNone) ∧
    ∃ u ∈ c.db.users.rows, u.role = .admin ∧ u.status = .active := by
  obtain ⟨c, hc⟩ := Option.isSome_iff_exists.mp
    (show (runChecked updateStatusProgram CheckedAlone ⟨Sample.db, []⟩ Sample.inTurn).isSome by
      decide +kernel)
  have hended : ∀ c ∈ runChecked updateStatusProgram CheckedAlone ⟨Sample.db, []⟩ Sample.inTurn,
      c.procs.all (fun P => P.prog.head.isNone) := by decide +kernel
  exact ⟨c, hc, hended c hc, active_admin_stays Sample.db c (by decide +kernel)
    (Run.of_runChecked _ _ hc)⟩

/-- Both count two. -/
theorem not_active_admin_stays : ∃ c : StatusCalls,
    Run updateStatusProgram (fun _ _ => True) ⟨Sample.db, []⟩ c ∧
    (∃ u ∈ Sample.db.users.rows, u.role = .admin ∧ u.status = .active) ∧
    ¬ ∃ u ∈ c.db.users.rows, u.role = .admin ∧ u.status = .active := by
  obtain ⟨c, hc⟩ := Option.isSome_iff_exists.mp
    (show (runChecked updateStatusProgram (fun _ _ => True) ⟨Sample.db, []⟩
      Sample.eachOther).isSome by decide +kernel)
  have hnone : ∀ c ∈ runChecked updateStatusProgram (fun _ _ => True) ⟨Sample.db, []⟩
      Sample.eachOther, ¬ ∃ u ∈ c.db.users.rows, u.role = .admin ∧ u.status = .active := by
    decide +kernel
  exact ⟨c, Run.of_runChecked _ _ hc, by decide +kernel, hnone c hc⟩

end ServiceHub.Accounts
