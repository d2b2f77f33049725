/-
# `Providers.Verification` — what an administrator's call leaves behind

`verifyProvider`, `rejectProvider` and `suspendProvider` read the profile, set
its status, set the status of its documents where the new one says something of
them, and insert an audit row that names the status which was read.  Each of
these is committed by itself.

    what is asked                 (`AdminRequest`)
    what a call has asked for     (`asked`), and what of it is left   (`left_asked`)
    how it ends                   (`Ended`, `admin_ended`)

**What fails.**  A statement that fails after the status is set leaves the new
status without an audit row, and the documents as they were.  A status that was
set by someone else after it was read is replaced, and another one is named.

**What holds.**  `Settling`: no statement fails after the status is set and
before the audit row is inserted, and the status is replaced by none but a call
that has read it.  Then a call that throws has left nothing, and one that
returns has left all of it (`Settled`).
-/
import ServiceHub.Providers.Requests
import ServiceHub.Txn.Debts
import ServiceHub.Txn.Once

namespace ServiceHub.Providers

open Data Txn Prog Database

/-! ## What is asked -/

/-- The new status of a profile, what it says of the documents, and the audit row
that names the old one. -/
structure AdminRequest where
  id : Uuid
  now : Time
  status : VerificationStatus
  documents : Option DocumentUpdate
  audit : VerificationStatus → AuditLog

def AdminRequest.on (q : AdminRequest) (p : ProviderProfile) : ProviderProfile :=
  { p with verificationStatus := q.status, updatedAt := q.now }

namespace AdminProviderService

def verification (r : Request) (id : Uuid) : AdminRequest where
  id := id
  now := r.now
  status := .verified
  documents := some { verificationStatus := .verified, verifiedAt := some r.now }
  audit old := statusAudit r id .providerVerified old .verified []

def rejection (r : Request) (id : Uuid) (reason : String) : AdminRequest where
  id := id
  now := r.now
  status := .rejected
  documents := some { verificationStatus := .rejected, rejectionReason := some reason }
  audit old := statusAudit r id .providerRejected old .rejected
    [("rejectReason", some (.str reason))]

def suspension (r : Request) (id : Uuid) : AdminRequest where
  id := id
  now := r.now
  status := .suspended
  documents := none
  audit old := statusAudit r id .providerSuspended old .suspended []

end AdminProviderService

open AdminProviderService in
/-- What the call of an administrator asks. -/
def Op.admin : Op → Option AdminRequest
  | .verifyProvider r id => some (verification r id)
  | .rejectProvider r id reason => some (rejection r id reason)
  | .suspendProvider r id => some (suspension r id)
  | _ => none

/-! ## What a call leaves -/

/-- What has to be followed by an audit row. -/
def incurs : (s : Stmt) → Ans s → Bool
  | .setVerification _ _ _, _ => true
  | .updateDocuments _ _, _ => true
  | _, _ => false

def settles : Stmt → Bool
  | .createAudit _ => true
  | _ => false

def isRedis : Instr Stmt Empty → Bool
  | .stmt s => s.isRedis
  | _ => false

/-- The history of a call before its audit row; `docs` is what the documents were
set to, and as which. -/
def changed (q : AdminRequest) (existing p : ProviderProfile)
    (docs : Option (DocumentUpdate × List ProviderDocument)) : CallHist :=
  docs.toList.map (fun d => ⟨.stmt (.updateDocuments q.id d.1), .ok d.2⟩) ++
    [⟨.stmt (.setVerification q.now q.id q.status), .ok p⟩,
      ⟨.stmt (.findProvider q.id), .ok (some existing)⟩]

/-- The same with its audit row. -/
def asked (q : AdminRequest) (existing p : ProviderProfile)
    (docs : Option (DocumentUpdate × List ProviderDocument)) (a : AuditLog) : CallHist :=
  ⟨.stmt (.createAudit (q.audit existing.verificationStatus)), .ok a⟩ :: changed q existing p docs

/-- How the call of an administrator ends: it has asked for everything, or has
left nothing, or a statement failed in between. -/
def Ended {α : Type} (q : AdminRequest) (h : CallHist) : Except Exn α → Prop
  | .ok _ => ∃ redis existing p docs a, h = redis ++ asked q existing p docs a ∧
      (∀ x ∈ redis, isRedis x.1 = true) ∧ docs.map (·.1) = q.documents
  | .error _ => left Db Row.durable h = [] ∨ lapsed incurs settles h = true

section
variable {q : AdminRequest} {h redis : CallHist} {existing p : ProviderProfile}
  {docs : Option (DocumentUpdate × List ProviderDocument)} {a : AuditLog}

theorem changed_stmt : ∀ x ∈ changed q existing p docs, ∃ s, x.1 = .stmt s := by
  cases docs <;> simp [changed]

theorem asked_stmt : ∀ x ∈ asked q existing p docs a, ∃ s, x.1 = .stmt s := by
  cases docs <;> simp [asked, changed]

theorem redis_stmt {i : Instr Stmt Empty} (hi : isRedis i = true) : ∃ s, i = .stmt s := by
  cases i with
  | stmt s => exact ⟨s, rfl⟩
  | _ => cases hi

theorem written_redis {s : Stmt} (hs : isRedis (.stmt s) = true) (a : Ans s) :
    (s.written a).filter Row.durable = [] := by
  cases s with
  | redisGet _ _ => rfl
  | redisSet _ _ _ _ => rfl
  | redisDel _ => rfl
  | redisGetVersion => rfl
  | redisIncr => rfl
  | _ => cases hs

/-- Redis commands leave nothing in PostgreSQL. -/
theorem left_redis (hstmt : ∀ x ∈ h, ∃ s, x.1 = .stmt s) (hredis : ∀ x ∈ redis, isRedis x.1 = true) :
    left Db Row.durable (redis ++ h) = left Db Row.durable h := by
  induction redis with
  | nil => rfl
  | cons x redis ih =>
      have hrest := fun y hy => hredis y (List.mem_cons_of_mem _ hy)
      have hout : sinceBegin (redis ++ h) = none := by
        refine sinceBegin_of_stmts fun y hy => ?_
        rcases List.mem_append.mp hy with hy | hy
        · exact redis_stmt (hrest y hy)
        · exact hstmt y hy
      obtain ⟨i, r⟩ := x
      have hi : isRedis i = true := hredis _ List.mem_cons_self
      obtain ⟨s, rfl⟩ := redis_stmt hi
      exact (left_cons hout (written_redis hi)).trans (ih hrest)

/-- What a call leaves that has asked for everything. -/
theorem left_asked : left Db Row.durable (asked q existing p docs a) =
    .provider p :: (docs.elim [] (·.2.map .document) ++ [.audit a]) := by
  have hchanged : left Db Row.durable (changed q existing p docs) =
      .provider p :: docs.elim [] (·.2.map .document) := by
    cases docs with
    | none => rfl
    | some d =>
        have hall : (d.2.map Row.document).filter Row.durable = d.2.map Row.document := by
          simp [Row.durable]
        exact (left_ok rfl).trans (congrArg ([Row.provider p] ++ ·) hall)
  exact (left_ok (sinceBegin_of_stmts changed_stmt)).trans (congrArg (· ++ [Row.audit a]) hchanged)

end

/-! ## How a call ends -/

section
variable {q : AdminRequest} {h : CallHist} {α β : Type}

/-- A part of the program that only asks Redis, and does not fail. -/
def AsksRedis (h : CallHist) (p : Call α) : Prop :=
  Obeys (fun _ _ => True) (fun h' r => r.isOk = true ∧
    ∃ redis, h' = redis ++ h ∧ ∀ x ∈ redis, isRedis x.1 = true) h p

theorem AsksRedis.bind {p : Call α} {f : α → Call β} (hp : AsksRedis h p)
    (hf : ∀ h' a, AsksRedis h' (f a)) : AsksRedis h (p >>= f) := by
  refine obeys_bind.mpr (Obeys.mono (fun _ _ hq => hq) ?_ hp)
  rintro h' (e | a) ⟨hok, redis, rfl, hredis⟩
  · cases hok
  · refine (hf _ a).mono (fun _ _ hq => hq) ?_
    rintro h' r ⟨hok, redis', rfl, hredis'⟩
    refine ⟨hok, redis' ++ redis, (List.append_assoc _ _ _).symm, fun x hx => ?_⟩
    exact (List.mem_append.mp hx).elim (hredis' x) (hredis x)

theorem asksRedis_del (key : String) : AsksRedis h (RedisService.del key) := by
  have hone : ∀ r : Except Exn Unit, ∀ x ∈ ([⟨.stmt (.redisDel key), r⟩] : CallHist),
      isRedis x.1 = true := by
    intro r x hx
    cases List.mem_singleton.mp hx
    rfl
  refine obeys_catching.mpr ((obeys_stmt (s := Stmt.redisDel key)).mpr
    ⟨trivial, fun a => ?_, fun e => ?_⟩)
  · exact ⟨rfl, [_], rfl, hone _⟩
  · exact ⟨rfl, [_], rfl, hone _⟩

theorem asksRedis_incr : AsksRedis h RedisService.incrementSearchVersion := by
  have hone : ∀ r : Except Exn Nat, ∀ x ∈ ([⟨.stmt .redisIncr, r⟩] : CallHist),
      isRedis x.1 = true := by
    intro r x hx
    cases List.mem_singleton.mp hx
    rfl
  refine obeys_catching.mpr (obeys_map.mpr (obeys_stmt.mpr ⟨trivial, fun a => ?_, fun e => ?_⟩))
  · exact ⟨rfl, [_], rfl, hone _⟩
  · exact ⟨rfl, [_], rfl, hone _⟩

theorem asksRedis_invalidate (providerId : Uuid) : AsksRedis h (invalidate providerId) :=
  (asksRedis_del _).bind fun _ _ => asksRedis_incr

/-- What `updateVerificationStatus` sets the documents to. -/
def documentUpdate (now : Time) (status : VerificationStatus) (rejectionReason : Option String) :
    Option DocumentUpdate :=
  match rejectionReason.filter (· ≠ "") with
  | some reason => some { verificationStatus := .rejected, rejectionReason := some reason }
  | none =>
      if status = .verified then some { verificationStatus := .verified, verifiedAt := some now }
      else none

theorem updateVerificationStatus_eq (now : Time) (id : Uuid) (status : VerificationStatus)
    (rejectionReason : Option String) :
    AdminProviderRepository.updateVerificationStatus now id status rejectionReason = (do
      let profile ← query (.setVerification now id status)
      match documentUpdate now status rejectionReason with
      | some data => do
          let _ ← query (.updateDocuments id data)
          pure profile
      | none => pure profile) := by
  unfold AdminProviderRepository.updateVerificationStatus documentUpdate
  refine congrArg _ (funext fun profile => ?_)
  cases rejectionReason.filter (· ≠ "") with
  | some reason => rfl
  | none =>
      dsimp only
      split <;> rfl

/-- After everything but the audit row. -/
theorem record_ended {existing p : ProviderProfile}
    (docs : Option (DocumentUpdate × List ProviderDocument))
    (hdocs : docs.map (·.1) = q.documents) :
    Obeys (fun _ _ => True) (Ended q)
      (changed q existing p docs)
      (do
        let _ ← autocommit Empty (query (.createAudit (q.audit existing.verificationStatus)))
        invalidate q.id
        pure p) := by
  refine obeys_bind.mpr (obeys_stmt.mpr ⟨trivial, fun a => ?_, fun e => Or.inr ?_⟩)
  · refine obeys_bind.mpr (Obeys.mono (fun _ _ hq => hq) ?_ (asksRedis_invalidate q.id))
    rintro h' (e | u) ⟨hok, redis, rfl, hredis⟩
    · cases hok
    · exact ⟨redis, existing, p, docs, a, rfl, hredis, hdocs⟩
  · cases docs <;> rfl

/-- After the status that was there has been read. -/
theorem changeStatus_ended {r : AdminProviderService.Request} {rejectionReason : Option String}
    {existing : ProviderProfile} (hnow : r.now = q.now)
    (hdocs : documentUpdate q.now q.status rejectionReason = q.documents) :
    Obeys (fun _ _ => True) (Ended q) [⟨.stmt (.findProvider q.id), .ok (some existing)⟩]
      (AdminProviderService.changeStatus r q.id q.status rejectionReason
        (q.audit existing.verificationStatus)) := by
  unfold AdminProviderService.changeStatus
  rw [hnow, updateVerificationStatus_eq, hdocs, autocommit_bind]
  refine obeys_bind.mpr (obeys_bind.mpr (obeys_stmt.mpr ⟨trivial, fun p => ?_, fun e => ?_⟩))
  · cases hdata : q.documents with
    | none => exact record_ended none hdata.symm
    | some data =>
        dsimp only
        rw [autocommit_bind]
        refine obeys_bind.mpr (obeys_stmt.mpr ⟨trivial, fun ds => ?_, fun e => Or.inr rfl⟩)
        exact record_ended (some (data, ds)) hdata.symm
  · exact Or.inl rfl

/-- The call of an administrator, from `findOne` on. -/
theorem findOne_ended {q : AdminRequest} {f : ProviderProfile → Call ProviderProfile}
    (hf : ∀ existing, Obeys (fun _ _ => True) (Ended q)
      [⟨.stmt (.findProvider q.id), .ok (some existing)⟩] (f existing)) :
    Obeys (fun _ _ => True) (Ended q) []
      ((do
        let existing ← AdminProviderService.findOne q.id
        f existing).map Response.profile) := by
  have hcall : Obeys (fun _ _ => True) (Ended q) [] (do
      let existing ← AdminProviderService.findOne q.id
      f existing) := by
    refine obeys_bind.mpr (obeys_bind.mpr (obeys_stmt.mpr ⟨trivial, fun found => ?_, fun e => ?_⟩))
    · refine obeys_orThrow.mpr ⟨fun _ => Or.inl (by cases found <;> rfl), fun existing hfound => ?_⟩
      subst hfound
      exact hf existing
    · exact Or.inl rfl
  refine obeys_map.mpr (hcall.mono (fun _ _ hq => hq) ?_)
  rintro h (e | p) hended
  · exact hended
  · exact hended

/-- A rejection has a reason: `@Length(5, 500)`. -/
def Op.reasoned : Op → Bool
  | .rejectProvider _ _ reason => reason ≠ ""
  | _ => true

/-- The program logic of the call of an administrator. -/
theorem admin_ended (js : Builtins) {o : Op} {q : AdminRequest} (hadmin : o.admin = some q)
    (hreason : o.reasoned = true) : Obeys (fun _ _ => True) (Ended q) [] (program js o) := by
  cases o with
  | verifyProvider r id =>
      cases hadmin
      exact findOne_ended fun existing => changeStatus_ended rfl rfl
  | rejectProvider r id reason =>
      cases hadmin
      refine findOne_ended fun existing => changeStatus_ended rfl ?_
      have hne : reason ≠ "" := by simpa [Op.reasoned] using hreason
      simp only [documentUpdate, Option.filter_some, decide_eq_true hne, if_true]
      rfl
  | suspendProvider r id =>
      cases hadmin
      refine findOne_ended fun existing => obeys_bind.mpr (obeys_throwIf.mpr ⟨fun _ => ?_, fun _ => ?_⟩)
      · exact Or.inl rfl
      · exact changeStatus_ended rfl rfl
  | _ => cases hadmin

end

/-! ## Audit rows stay -/

theorem key_of_get {db : Db} {k : Key} {r : Row} (h : db.get k = some r) : r.key = k := by
  cases k with
  | entry key => cases h; rfl
  | version => cases h; rfl
  | _ =>
      obtain ⟨x, hx, rfl⟩ := Option.map_eq_some_iff.mp h
      have hid := Table.key_of_find? hx
      simp only [Row.key, hid]

/-- Only `createAudit` writes audit rows. -/
theorem settles_of_audit {s : Stmt} {a : Ans s} {w : Row} (hw : w ∈ s.written a) {id : Uuid}
    (hkey : w.key = .audit id) : settles s = true := by
  cases s with
  | createAudit row => rfl
  | updateProvider now id data =>
      rcases List.mem_cons.mp hw with rfl | hw
      · cases hkey
      · obtain ⟨_, _, rfl⟩ := List.mem_map.mp hw
        cases hkey
  | updateDocuments providerId data =>
      obtain ⟨_, _, rfl⟩ := List.mem_map.mp hw
      cases hkey
  | createProvider p l =>
      rcases List.mem_pair.mp hw with hw | hw <;> rw [hw] at hkey <;> cases hkey
  | _ => first
    | exact absurd hw List.not_mem_nil
    | rw [List.mem_singleton.mp hw] at hkey; cases hkey

theorem audit_fixed (s : Stmt) (db : Db) (a : Ans s) (hexec : db.exec s = .ok a) (w : Row)
    (hw : w ∈ s.written a) (r : Row) (hr : db.get w.key = some r) : ¬ ∃ x, r = .audit x := by
  rintro ⟨x, rfl⟩
  have hkey : w.key = .audit x.id := (key_of_get hr).symm
  have hsettles := settles_of_audit hw hkey
  cases s with
  | createAudit row =>
      obtain ⟨hsame, hfresh⟩ := Accounts.Db.insert_ok hexec
      have hnone : db.auditLogs.find? row.id = none := Option.map_eq_none_iff.mp hfresh
      rw [List.mem_singleton.mp hw, hsame] at hr
      have hget : db.get (Row.audit row).key = none := congrArg (Option.map Row.audit) hnone
      rw [hget] at hr
      cases hr
  | _ => cases hsettles

/-! ## Runs -/

/-- The profile that the call has found. -/
def foundProvider : CallHist → Option ProviderProfile
  | [] => none
  | ⟨.stmt (.findProvider _), .ok p⟩ :: _ => p
  | _ :: h => foundProvider h

/-- If the call sets the status next, it replaces the one it has read. -/
def ReplacesRead (db : Db) (P : Caller) : Prop :=
  match P.stmt? with
  | some (.setVerification _ id _) => ∀ p ∈ db.providers.find? id,
      ∀ existing ∈ foundProvider P.hist, p.verificationStatus = existing.verificationStatus
  | _ => True

instance (db : Db) (P : Caller) : Decidable (ReplacesRead db P) := by
  unfold ReplacesRead
  split <;> infer_instance

/-- A rejection has a reason; no statement fails between the new status and its
audit row; and the status that is replaced is the one that was read. -/
def Settling (c : System) (e : Event Op Exn) : Prop :=
  Undisturbed incurs settles c e ∧
    match e with
    | .spawn o => o.reasoned = true
    | .exec p => ∀ P ∈ c.procs[p]?, ReplacesRead c.db P
    | .fail _ _ => True

instance (c : System) : ∀ e, Decidable (Settling c e)
  | .spawn o => inferInstanceAs (Decidable (_ ∧ o.reasoned = true))
  | .exec p => inferInstanceAs (Decidable (_ ∧ ∀ P ∈ c.procs[p]?, ReplacesRead c.db P))
  | .fail _ _ => inferInstanceAs (Decidable (_ ∧ True))

section
variable (Ok : System → Event Op Exn → Prop) (js : Builtins) (c₀ c : System) (p : Nat)
  (q : AdminRequest)

/-- In the run from `c₀` to `c`, call number `p` has left the new status, on a
profile whose old one the audit row names; what this says of the documents, on
those of the provider; and the audit row, which has stayed. -/
def Settled (rows : List Row) : Prop :=
  ∃ (c₁ : System) (old : ProviderProfile) (docs : List ProviderDocument),
    rows = .provider (q.on old) ::
      (docs.map .document ++ [.audit (q.audit old.verificationStatus)]) ∧
    c₁.db.providers.find? q.id = some old ∧
    Commits (program js) Ok c₀ c p c₁ [.provider (q.on old)] ∧
    (match q.documents with
      | none => docs = []
      | some data => ∃ c₂, docs = (c₂.db.documentsOf q.id).map data.on ∧
          Commits (program js) Ok c₀ c p c₂ (docs.map .document)) ∧
    c.db.auditLogs.find? (q.audit old.verificationStatus).id =
      some (q.audit old.verificationStatus)

/-- If the call throws it has left nothing, and if it returns it has left
everything. -/
def AllOrNothing (P : Caller) : Prop :=
  (∀ e, P.prog = .throw e → left Db Row.durable P.hist = []) ∧
  ∀ r, P.prog = .ret r → Settled Ok js c₀ c p q (left Db Row.durable P.hist)

end

section
variable {js : Builtins} {c₀ c : System} {p : Nat} {P : Caller} {q : AdminRequest}
  {existing profile : ProviderProfile} {docs : Option (DocumentUpdate × List ProviderDocument)}
  {a : AuditLog}

/-- The step that set the status. -/
theorem status_committed (hc₀ : c₀.procs = []) (hrun : Run (program js) Settling c₀ c)
    (hP : c.procs[p]? = some P)
    (hsuffix : changed q existing profile none <:+ P.hist) : ∃ c₁ old,
      c₁.db.providers.find? q.id = some old ∧ profile = q.on old ∧
      old.verificationStatus = existing.verificationStatus ∧
      Commits (program js) Settling c₀ c p c₁ [.provider profile] := by
  obtain ⟨c₁, P₁, k, hcommits, hexec, hP₁, _, hhist, hprog⟩ :=
    (hrun.traced hc₀ hP hsuffix).commits hc₀ rfl
  obtain ⟨old, hold, rfl⟩ := Reviews.written_of_update hexec
  refine ⟨c₁, old, hold, rfl, ?_, hcommits⟩
  have hreads := hcommits.ok.2 P₁ hP₁
  rw [ReplacesRead, Proc.stmt?_eq hprog, hhist] at hreads
  exact hreads old hold existing rfl

/-- The step that set the documents. -/
theorem documents_committed (hc₀ : c₀.procs = []) (hrun : Run (program js) Settling c₀ c)
    (hP : c.procs[p]? = some P) {data : DocumentUpdate} {ds : List ProviderDocument}
    (hsuffix : changed q existing profile (some (data, ds)) <:+ P.hist) : ∃ c₂ : System,
      ds = (c₂.db.documentsOf q.id).map data.on ∧
      Commits (program js) Settling c₀ c p c₂ (ds.map .document) := by
  obtain ⟨c₂, _, _, hcommits, hexec, _⟩ := (hrun.traced hc₀ hP hsuffix).commits hc₀ rfl
  exact ⟨c₂, (Except.ok.inj hexec).symm, hcommits⟩

/-- The audit row, and that it has stayed. -/
theorem audit_committed (hc₀ : c₀.procs = []) (hrun : Run (program js) Settling c₀ c)
    (hP : c.procs[p]? = some P) (hsuffix : asked q existing profile docs a <:+ P.hist) :
    a = q.audit existing.verificationStatus ∧ c.db.auditLogs.find? a.id = some a := by
  obtain ⟨c₁, _, _, hcommits, hexec, _⟩ :=
    (hrun.traced hc₀ hP hsuffix).commits hc₀ (sinceBegin_of_stmts changed_stmt)
  obtain ⟨hsame, -⟩ := Accounts.Db.insert_ok hexec
  refine ⟨hsame, ?_⟩
  obtain ⟨c₂, hn, hdb, hafter⟩ := hcommits.step
  have hthere : c₂.db.get (.audit a.id) = some (.audit a) := by
    rw [hdb]
    exact (Db.get_put c₁.db (.audit a) (.audit a.id)).trans (if_pos rfl)
  have hstays : c.db.get (.audit a.id) = some (.audit a) :=
    Run.stays audit_fixed hc₀ (.step hcommits.before hcommits.ok hn) hafter hthere ⟨a, rfl⟩
  obtain ⟨x, hx, hsame⟩ := Option.map_eq_some_iff.mp hstays
  cases hsame
  exact hx

/-- **The calls of administrators.** -/
theorem admin_settled (hc₀ : c₀.procs = []) (hrun : Run (program js) Settling c₀ c)
    (hP : c.procs[p]? = some P) (hadmin : P.op.admin = some q) :
    AllOrNothing Settling js c₀ c p q P := by
  have hmem := List.mem_of_getElem? hP
  have hobeys := hrun.obeys (Q := fun _ _ _ => True)
    (R := fun o h r => ∀ q, o.admin = some q → Ended q h r) (fun c o hok => by
      cases hq : o.admin with
      | none => exact Obeys.of_forall (fun _ _ => trivial) (fun _ _ _ => nofun) _ _
      | some q =>
          refine (admin_ended js hq hok.2).mono (fun _ _ hi => hi) ?_
          rintro h r hended _ ⟨⟩
          exact hended) hc₀ P hmem
  constructor
  · intro e hthrow
    rw [hthrow] at hobeys
    rcases hobeys q hadmin with hnothing | hlapsed
    · exact hnothing
    · rw [Run.not_lapsed (fun _ _ hok => hok.1) hc₀ hrun P hmem] at hlapsed
      cases hlapsed
  · intro r hret
    rw [hret] at hobeys
    obtain ⟨redis, existing, profile, docs, a, hhist, hredis, hdocs⟩ := hobeys q hadmin
    have hasked : asked q existing profile docs a <:+ P.hist := ⟨redis, hhist.symm⟩
    have hchanged : changed q existing profile docs <:+ P.hist :=
      (List.suffix_cons _ _).trans hasked
    have hset : changed q existing profile none <:+ P.hist :=
      List.IsSuffix.trans ⟨_, rfl⟩ hchanged
    obtain ⟨c₁, old, hold, rfl, hstatus, hcommits⟩ := status_committed hc₀ hrun hP hset
    obtain ⟨rfl, hstays⟩ := audit_committed hc₀ hrun hP hasked
    rw [← hstatus] at hstays
    refine ⟨c₁, old, docs.elim [] (·.2), ?_, hold, hcommits, ?_, hstays⟩
    · rw [hhist, left_redis asked_stmt hredis, left_asked, hstatus]
      cases docs <;> rfl
    · rw [← hdocs]
      cases docs with
      | none => rfl
      | some d => exact documents_committed hc₀ hrun hP hchanged

end

end ServiceHub.Providers
