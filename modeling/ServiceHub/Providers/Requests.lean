/-
# `Providers.Requests` — what a request leaves behind

Requests one after the other, those of the provider subsystem and those of the
modules whose tables its search reads: the catalog, the working hours, and the
status of a user.  A request runs alone on the `World`; the requests of the
other modules run on the tables of their own databases.

`Mutates` is what every request that changes a profile does: it writes rows, and
if it completes it ends with `invalidate`.
-/
import ServiceHub.Providers.Service
import ServiceHub.Catalog.Transparency
import ServiceHub.Accounts.AdminUsers
import ServiceHub.Txn.Alone
import ServiceHub.Txn.Hoare

namespace ServiceHub.Providers

open Data Txn Prog

/-! ## The world -/

/-- The database, the windows of the working hours, and what Redis keeps of the
catalog. -/
structure World where
  db : Db
  windows : Table Schedules.Version Uuid Schedules.Version.id
  catalogCache : Catalog.Redis

namespace Db

/-- The tables that `Catalog` works on. -/
def catalog (db : Db) : Catalog.Db where
  categories := db.categories
  services := db.services
  providerServices :=
    db.providerServices.map ProviderService.toProviderService ProviderService.toProviderService_id

/-- The counter after `incrementSearchVersion`. -/
def bump (db : Db) : Db :=
  match db.incremented with
  | .ok n => db.put (.version (some n))
  | .error _ => db

/-- Redis after `invalidate`. -/
def invalidated (db : Db) (providerId : Uuid) : Db :=
  (db.put (.entry (profileKey providerId) none)).bump

end Db

namespace World

/-- The tables that `Schedules` works on. -/
def schedules (w : World) : Schedules.Db where
  providers :=
    w.db.providers.map ProviderProfile.toProviderProfile ProviderProfile.toProviderProfile_id
  providerServices :=
    w.db.providerServices.map ProviderService.toProviderService ProviderService.toProviderService_id
  versions := w.windows

end World

/-- A request, other than those that only read. -/
inductive Request where
  | provider (o : Op)
  | catalog (now : Time) (o : Catalog.Op)
  | setAvailibity (o : Schedules.Op)
  | updateStatus (auditId : Uuid) (now : Time) (id : Uuid) (status : UserStatus)
      (adminUserId : Option Uuid)

inductive Reply where
  | provider (r : Response)
  | catalog (r : Catalog.Reply)
  | replaced (r : Schedules.Replaced)
  | user (u : User)

section
variable (js : Builtins)

/-- What the catalog finds with `ILIKE`, and how it calculates. -/
def Db.catalogEngine (db : Db) : Catalog.Engine := ⟨db.engine.ilike, js.mul, js.div⟩

namespace World

def serveProvider (w : World) (o : Op) : Except Exn Reply × World :=
  let r := (program js o).serial (⟨none, w.db, []⟩ : SerialState Db Empty)
  (r.2.map .provider, { w with db := r.1.db })

def serveCatalog (w : World) (now : Time) (o : Catalog.Op) : Except Exn Reply × World :=
  let e := w.db.catalogEngine js
  let r := (Catalog.call e o).handle (Catalog.World.exec e) ⟨w.db.catalog, w.catalogCache, now⟩
  (r.1.map .catalog,
    { w with
      db := { w.db with categories := r.2.db.categories, services := r.2.db.services }
      catalogCache := r.2.redis })

def serveSetAvailibity (w : World) (o : Schedules.Op) : Except Exn Reply × World :=
  let r := (Schedules.setAvailibity o).serial
    (⟨none, w.schedules, []⟩ : SerialState Schedules.Db Schedules.Ext)
  (r.2.map .replaced,
    { w with
      db := r.1.log.foldl (fun db _ => db.bump) w.db
      windows := r.1.db.versions })

def serveUpdateStatus (w : World) (auditId : Uuid) (now : Time) (id : Uuid) (status : UserStatus)
    (adminUserId : Option Uuid) : Except Exn Reply × World :=
  let r := (Accounts.AdminUserService.updateStatus auditId now id status adminUserId).eval w.db.accounts
  (r.2.map .user, { w with db := { w.db with users := r.1.users, auditLogs := r.1.auditLogs } })

def serve (w : World) : Request → Except Exn Reply × World
  | .provider o => w.serveProvider js o
  | .catalog now o => w.serveCatalog js now o
  | .setAvailibity o => w.serveSetAvailibity o
  | .updateStatus auditId now id status adminUserId =>
      w.serveUpdateStatus auditId now id status adminUserId

/-- The world after the requests. -/
def after (w : World) (rs : List Request) : World := rs.foldl (fun w r => (w.serve js r).2) w

/-- Each of the requests meets `Ok` in the world that it is made in. -/
def Meets (Ok : World → Request → Prop) : World → List Request → Prop
  | _, [] => True
  | w, r :: rs => Ok w r ∧ Meets Ok (w.serve js r).2 rs

instance (Ok : World → Request → Prop) [∀ w r, Decidable (Ok w r)] :
    ∀ (w : World) (rs : List Request), Decidable (w.Meets js Ok rs)
  | _, [] => .isTrue trivial
  | w, r :: rs => @instDecidableAnd _ _ _ (instDecidableMeets Ok (w.serve js r).2 rs)

end World

end

/-! ## What a request of a provider does -/

section
variable {α β : Type} {db : Db} {Q : Db → Except Exn β → Prop}

theorem serial_invalidate (providerId : Uuid) (log : List Empty) :
    (invalidate providerId).serial ⟨none, db, log⟩ =
      (⟨none, db.invalidated providerId, log⟩, .ok ()) := by
  have hincr : ∀ db : Db, RedisService.incrementSearchVersion.serial ⟨none, db, log⟩ =
      (⟨none, db.bump, log⟩, .ok ()) := by
    intro db
    cases hn : db.incremented with
    | ok n =>
        simp only [RedisService.incrementSearchVersion, query, perform, autocommit, map, catching,
          cont_ask, cont_ret, serial, show Database.exec Stmt.redisIncr db = .ok n from hn, Db.bump, hn]
        rfl
    | error e =>
        simp only [RedisService.incrementSearchVersion, query, perform, autocommit, map, catching,
          cont_ask, cont_throw, serial, show Database.exec Stmt.redisIncr db = .error e from hn,
          Db.bump, hn]
        rfl
  rw [invalidate, serial_bind,
    show (RedisService.del (profileKey providerId)).serial ⟨none, db, log⟩ =
      (⟨none, db.put (.entry (profileKey providerId) none), log⟩, .ok ()) from rfl]
  exact hincr _

/-- `invalidate` touches nothing but Redis. -/
theorem Db.invalidated_eq (db : Db) (providerId : Uuid) : ∃ redis version,
    db.invalidated providerId = { db with redis := redis, version := version } := by
  unfold Db.invalidated Db.bump
  split
  · exact ⟨_, _, rfl⟩
  · exact ⟨_, _, rfl⟩

theorem Ends.invalidate_bind {providerId : Uuid} {f : Unit → Call β}
    (h : (f ()).Ends (db.invalidated providerId) Q) : (invalidate providerId >>= f).Ends db Q :=
  Ends.bind fun log => ⟨_, log, .ok (), serial_invalidate providerId log, h⟩

/-- A query that writes nothing. -/
theorem Ends.read_bind {s : Stmt} {a : Ans s} {f : Ans s → Call β} (hexec : db.exec s = .ok a)
    (hwritten : s.written a = []) (h : (f a).Ends db Q) :
    (autocommit Empty (query s) >>= f).Ends db Q := by
  refine Ends.stmt_bind (fun b hb => ?_) fun e he => ?_
  · obtain rfl := Except.ok.inj (hexec.symm.trans hb)
    rwa [show Database.written Db s a = [] from hwritten]
  · cases hexec.symm.trans he

end

/-! ### Rows and Redis -/

/-- A row that is not one of Redis. -/
def Row.durable : Row → Bool
  | .entry _ _ => false
  | .version _ => false
  | _ => true

def Stmt.isRedis : Stmt → Bool
  | .redisGet _ _ => true
  | .redisSet _ _ _ _ => true
  | .redisDel _ => true
  | .redisGetVersion => true
  | .redisIncr => true
  | _ => false

theorem durable_of_written {s : Stmt} (hs : s.isRedis = false) {a : Ans s} :
    ∀ x ∈ s.written a, x.durable = true := by
  intro x hx
  cases s with
  | updateProvider now id data =>
      rcases List.mem_cons.mp hx with rfl | hx
      · rfl
      · obtain ⟨l, _, rfl⟩ := List.mem_map.mp hx
        rfl
  | updateDocuments providerId data =>
      obtain ⟨d, _, rfl⟩ := List.mem_map.mp hx
      rfl
  | createProvider p l =>
      rcases List.mem_cons.mp hx with rfl | hx
      · rfl
      · rw [List.mem_singleton.mp hx]
        rfl
  | redisGet now key => cases hs
  | redisSet now key value ttlSeconds => cases hs
  | redisDel key => cases hs
  | redisGetVersion => cases hs
  | redisIncr => cases hs
  | setVerification now id status => rw [List.mem_singleton.mp hx]; rfl
  | createDocument d => rw [List.mem_singleton.mp hx]; rfl
  | createOffering o => rw [List.mem_singleton.mp hx]; rfl
  | updateOffering now id data => rw [List.mem_singleton.mp hx]; rfl
  | createReview r => rw [List.mem_singleton.mp hx]; rfl
  | updateReview id data => rw [List.mem_singleton.mp hx]; rfl
  | updateStats now providerId averageRating totalReviews => rw [List.mem_singleton.mp hx]; rfl
  | createAudit r => rw [List.mem_singleton.mp hx]; rfl
  | _ => cases hx

/-- Rows were written, none of them of Redis. -/
def Wrote (db db' : Db) : Prop :=
  ∃ rows : List Row, (∀ x ∈ rows, x.durable = true) ∧ db' = puts db rows

/-- Rows are written; if the request completes, `invalidate` is the last it
does. -/
def Mutated {α : Type} (db db' : Db) (r : Except Exn α) : Prop :=
  ∃ mid, Wrote db mid ∧
    match r with
    | .ok _ => ∃ id, db' = mid.invalidated id
    | .error _ => db' = mid

section
variable {db db' db₀ : Db} {α β : Type} {Q : Db → Except Exn β → Prop}

theorem Wrote.refl (db : Db) : Wrote db db := ⟨[], by simp, rfl⟩

theorem Wrote.puts (h : Wrote db db') {rows : List Row} (hrows : ∀ x ∈ rows, x.durable = true) :
    Wrote db (puts db' rows) := by
  obtain ⟨before, hbefore, rfl⟩ := h
  refine ⟨before ++ rows, fun x hx => ?_, (puts_append db before rows).symm⟩
  rcases List.mem_append.mp hx with hx | hx
  · exact hbefore x hx
  · exact hrows x hx

theorem Wrote.written (h : Wrote db db') {s : Stmt} (hs : s.isRedis = false) {a : Ans s} :
    Wrote db (Txn.puts db' (Database.written Db s a)) :=
  h.puts (durable_of_written hs)

theorem Wrote.error (h : Wrote db db') {e : Exn} : Mutated (α := α) db db' (.error e) :=
  ⟨db', h, rfl⟩

/-- A statement that is no command of Redis. -/
theorem Ends.query_bind {s : Stmt} {f : Ans s → Call β} (hs : s.isRedis = false)
    (hwrote : Wrote db₀ db) (hok : ∀ a db', Wrote db₀ db' → (f a).Ends db' Q)
    (herr : ∀ e, Q db (.error e)) : (autocommit Empty (query s) >>= f).Ends db Q :=
  Ends.stmt_bind (fun a _ => hok a _ (hwrote.written hs)) fun e _ => herr e

/-- The end of a request that changes a profile. -/
theorem Ends.then_invalidate {providerId : Uuid} {a : α} (hwrote : Wrote db₀ db) :
    (do invalidate providerId; pure a : Call α).Ends db (Mutated db₀) :=
  Ends.invalidate_bind (Ends.pure ⟨db, hwrote, providerId, rfl⟩)

/-! ### Profiles -/

theorem checkBusinessName_ends (profile : ProviderProfile) (businessName : Option String) :
    (ProviderService.checkBusinessName profile businessName).Ends db fun db' _ => db' = db := by
  unfold ProviderService.checkBusinessName
  split
  · exact Ends.pure rfl
  · refine Ends.read_bind rfl rfl ?_
    unfold throwIf
    split
    · exact Ends.throw rfl
    · exact Ends.pure rfl

theorem updateOwnProfile_ends (now : Time) (userId : Uuid) (dto : UpdateProviderDto) :
    (ProviderService.updateOwnProfile now userId dto).Ends db (Mutated db) := by
  refine Ends.read_bind rfl rfl ?_
  refine Ends.orThrow_bind (fun profile _ => ?_) fun _ => (Wrote.refl db).error
  refine Ends.bind ((checkBusinessName_ends profile dto.businessName).mono ?_)
  rintro db' (e | _) rfl
  · exact (Wrote.refl db').error
  · exact Ends.query_bind rfl (Wrote.refl db') (fun _ _ hwrote => Ends.then_invalidate hwrote)
      fun _ => (Wrote.refl db').error

theorem updateVerificationStatus_ends (now : Time) (id : Uuid) (status : VerificationStatus)
    (reason : Option String) :
    (autocommit Empty (AdminProviderRepository.updateVerificationStatus now id status reason)).Ends
      db fun db' _ => Wrote db db' := by
  have hdocuments : ∀ (p : ProviderProfile) (db' : Db) (data : DocumentUpdate), Wrote db db' →
      (autocommit Empty (do let _ ← query (.updateDocuments id data); pure p :
        Query ProviderProfile)).Ends db' fun db' _ => Wrote db db' := by
    intro p db' data hwrote
    rw [autocommit_bind]
    exact Ends.query_bind rfl hwrote (fun _ _ hwrote => Ends.pure hwrote) fun _ => hwrote
  unfold AdminProviderRepository.updateVerificationStatus
  rw [autocommit_bind]
  refine Ends.query_bind rfl (Wrote.refl db) (fun p db' hwrote => ?_) fun _ => Wrote.refl db
  split
  · exact hdocuments p db' _ hwrote
  · split
    · exact hdocuments p db' _ hwrote
    · exact Ends.pure hwrote

namespace AdminProviderService

theorem changeStatus_ends (r : Request) (id : Uuid) (status : VerificationStatus)
    (rejectionReason : Option String) (audit : AuditLog) :
    (changeStatus r id status rejectionReason audit).Ends db (Mutated db) := by
  refine Ends.bind ((updateVerificationStatus_ends r.now id status rejectionReason).mono ?_)
  rintro db' (e | result) hwrote
  · exact hwrote.error
  · exact Ends.query_bind rfl hwrote (fun _ _ hwrote => Ends.then_invalidate hwrote)
      fun _ => hwrote.error

theorem findOne_bind {id : Uuid} {f : ProviderProfile → Call ProviderProfile}
    (hf : ∀ p, (f p).Ends db (Mutated db)) : (findOne id >>= f).Ends db (Mutated db) := by
  refine Ends.bind (Ends.read_bind (a := db.providers.find? id) rfl rfl ?_)
  cases db.providers.find? id with
  | none => exact Ends.throw (Wrote.refl db).error
  | some p => exact Ends.pure (hf p)

theorem verifyProvider_ends (r : Request) (id : Uuid) :
    (verifyProvider r id).Ends db (Mutated db) :=
  findOne_bind fun _ => changeStatus_ends r id _ _ _

theorem rejectProvider_ends (r : Request) (id : Uuid) (reason : String) :
    (rejectProvider r id reason).Ends db (Mutated db) :=
  findOne_bind fun _ => changeStatus_ends r id _ _ _

theorem suspendProvider_ends (r : Request) (id : Uuid) :
    (suspendProvider r id).Ends db (Mutated db) := by
  refine findOne_bind fun existing => ?_
  exact Ends.throwIf_bind (fun _ => changeStatus_ends r id _ _ _) fun _ => (Wrote.refl db).error

end AdminProviderService

end

/-- The request is refused, or writes one offering and ends with `invalidate`. -/
def OfferingWritten (db : Db) (providerId : Uuid) (W : ProviderService → Prop) (db' : Db)
    (r : Except Exn ProviderService) : Prop :=
  match r with
  | .ok o => W o ∧ db' = (db.put (.providerService o)).invalidated providerId
  | .error _ => db' = db

section
variable {db db' : Db} {α : Type}

theorem OfferingWritten.mutated {providerId : Uuid} {W : ProviderService → Prop}
    {r : Except Exn ProviderService} (h : OfferingWritten db providerId W db' r) :
    Mutated db db' r := by
  cases r with
  | ok o =>
      refine ⟨db.put (.providerService o), ?_, providerId, h.2⟩
      show Wrote db (puts db [.providerService o])
      exact (Wrote.refl db).puts (by simp [Row.durable])
  | error e => exact ⟨db, Wrote.refl db, h⟩

/-! ### Offerings -/

/-- One statement that writes an offering, and `invalidate`. -/
theorem Ends.offering (s : Stmt) (answer : Ans s → ProviderService) {providerId : Uuid}
    {W : ProviderService → Prop}
    (hok : ∀ a, db.exec s = .ok a → W (answer a) ∧ s.written a = [.providerService (answer a)]) :
    (do
      let a ← autocommit Empty (query s)
      invalidate providerId
      pure (answer a) : Call ProviderService).Ends db (OfferingWritten db providerId W) := by
  refine Ends.stmt_bind (fun a ha => ?_) fun e _ => rfl
  obtain ⟨hW, hwritten⟩ := hok a ha
  refine Ends.invalidate_bind (Ends.pure ⟨hW, ?_⟩)
  rw [show Database.written Db s a = [.providerService (answer a)] from hwritten]
  rfl

/-- What is inserted: an offering of an active service, under a new id. -/
def Inserted (db : Db) (o : ProviderService) : Prop :=
  db.providerServices.find? o.id = none ∧
    ∃ s, db.services.find? o.serviceId = some s ∧ s.isActive = true

theorem createOffering_ends (id : Uuid) (now : Time) (providerId : Uuid)
    (dto : CreateProviderServiceDto) :
    (ProviderServiceService.create id now providerId dto).Ends db
      (OfferingWritten db providerId (Inserted db)) := by
  refine Ends.read_bind (a := db.services.find? dto.serviceId) rfl rfl ?_
  refine Ends.read_bind rfl rfl ?_
  refine Ends.throwIf_bind (fun hactive => ?_) fun _ => rfl
  refine Ends.throwIf_bind (fun _ => ?_) fun _ => rfl
  refine Ends.offering (.createOffering _) (fun o => o) fun o ho => ⟨?_, rfl⟩
  obtain ⟨s, hs, hsactive⟩ := (Option.any_eq_true _ _).mp (by simpa using hactive)
  obtain ⟨rfl, hfresh⟩ := Db.insertOffering_ok ho
  exact ⟨hfresh, s, hs, hsactive⟩

/-- A part that finds the offering, and only reads. -/
theorem Ends.findOwn_bind {providerId id : Uuid} {f : ProviderService → Call α}
    {Q : Db → Except Exn α → Prop}
    (hok : ∀ o, db.providerServices.find? id = some o → (f o).Ends db Q)
    (herr : ∀ e, Q db (.error e)) :
    (ProviderServiceService.findOwn providerId id >>= f).Ends db Q := by
  refine Ends.bind ?_
  refine Ends.read_bind (a := db.providerServices.find? id) rfl rfl ?_
  cases hfound : (db.providerServices.find? id).filter (·.providerId == providerId) with
  | none => exact Ends.throw (herr _)
  | some o => exact Ends.pure (hok o (Option.filter_eq_some_iff.mp hfound).1)

/-- What an update writes: the offering that was there, updated. -/
def UpdatedBy (db : Db) (now : Time) (id : Uuid) (data : OfferingUpdate) (o' : ProviderService) :
    Prop :=
  ∃ o, db.providerServices.find? id = some o ∧ o' = data.on now o

theorem updateOffering_ends (now : Time) (providerId id : Uuid) (dto : OfferingUpdate) :
    (ProviderServiceService.update now providerId id dto).Ends db
      (OfferingWritten db providerId (UpdatedBy db now id dto)) := by
  refine Ends.findOwn_bind (fun _ _ => ?_) fun _ => rfl
  exact Ends.offering (.updateOffering now id dto) (fun o => o) fun o ho =>
    ⟨Db.updateOffering_ok ho, rfl⟩

theorem removeOffering_ends (now : Time) (providerId id : Uuid) :
    (ProviderServiceService.remove now providerId id).Ends db
      (OfferingWritten db providerId (UpdatedBy db now id { isActive := some false })) := by
  refine Ends.findOwn_bind (fun _ _ => ?_) fun _ => rfl
  exact Ends.offering (.updateOffering now id _) (fun o => o) fun o ho =>
    ⟨Db.updateOffering_ok ho, rfl⟩

end

/-! ### Working hours -/

/-- A working schedule is refused, or replaced with one `incrementSearchVersion`
after it. -/
theorem setAvailibity_log (o : Schedules.Op) (db : Schedules.Db) {σ : SerialState Schedules.Db Schedules.Ext}
    {r : Except Exn Schedules.Replaced}
    (h : (Schedules.setAvailibity o).serial ⟨none, db, []⟩ = (σ, r)) :
    σ.log = match r with
      | .ok _ => [.incrementSearchVersion]
      | .error _ => [] := by
  unfold Schedules.setAvailibity at h
  rw [serial_bind, serial_autocommit] at h
  simp only [Schedules.query, eval_perform, Database.exec, Schedules.Db.exec] at h
  split at h
  · cases h
    rfl
  · rw [serial_bind, serial_transaction] at h
    split at h
    · rename_i hbody
      split at hbody
      · cases hbody
        cases h
        rfl
      · cases hbody
    · rename_i hbody
      split at hbody
      · cases hbody
      · cases hbody
        cases h
        rfl

namespace Sample

def world : World := ⟨db, .empty, .empty⟩

end Sample

end ServiceHub.Providers
