/-
# `Providers.Invalidation` — which requests tell the search

Every cached search carries the version that `incrementSearchVersion` moves on.
So a request that changes what `findPublicProviders` finds has to call it, after
the change is committed (`Invalidates`).

**What fails.**  The requests of providers and of their administrators do.  A
review, which moves the rating of a provider, a change of a user's status, which
lists or unlists the provider, and changes of the catalog, whose names and
categories are searched, do not (`not_search_invalidated`).

**What holds.**  `Unsearched` is what a request of these kinds must leave alone
for the search not to see it; and it is exactly then that a request invalidates
(`search_invalidated`).  Where the condition fails, some page of one row has
changed (`found_of_same`).

**What is assumed** (`Sound`).  Foreign keys lead to rows, no two categories have
one name, and the clock has moved on since a profile was written.
-/
import ServiceHub.Providers.Shown
import ServiceHub.Providers.SearchVersion
import ServiceHub.Providers.Hierarchy

namespace ServiceHub.Providers

open Data Txn Prog

/-! ## What a request has to do -/

/-- A row that is not one of Redis was written, or a transaction committed. -/
def changesTables (x : (i : Instr Stmt Empty) × Except Exn (i.Ans Ans)) : Bool :=
  match x with
  | ⟨.stmt s, .ok a⟩ => (s.written a).any Row.durable
  | ⟨.commit, _⟩ => true
  | _ => false

def callsIncrement (x : (i : Instr Stmt Empty) × Except Exn (i.Ans Ans)) : Bool :=
  match x with
  | ⟨.stmt .redisIncr, _⟩ => true
  | _ => false

/-- `incrementSearchVersion` was called after the last change. -/
def Incremented (h : CallHist) : Bool := askedSince callsIncrement changesTables h

section
variable (js : Builtins)

namespace World

/-- Likewise, of a request.  The catalog and the administration of users have no
such call. -/
def incremented (w : World) : Request → Bool
  | .provider o => Incremented ((program js o).asked (⟨none, w.db, []⟩ : SerialState Db Empty) [])
  | .setAvailibity o => askedSince
      (fun x => match x with
        | ⟨.call .incrementSearchVersion, _⟩ => true
        | _ => false)
      (fun x => match x with
        | ⟨.stmt s, .ok a⟩ => !(s.written a).isEmpty
        | ⟨.commit, _⟩ => true
        | _ => false)
      ((Schedules.setAvailibity o).asked
        (⟨none, w.schedules, []⟩ : SerialState Schedules.Db Schedules.Ext) [])
  | .catalog _ _ => false
  | .updateStatus _ _ _ _ _ => false

/-- If the request changes the result of some search, it calls
`incrementSearchVersion` after the change. -/
def Invalidates (w : World) (r : Request) : Prop :=
  (∃ q, w.db.results js q ≠ (w.serve js r).2.db.results js q) → w.incremented js r = true

end World

end

/-! ## What a request must leave alone -/

/-- The provider whose rating the request recalculates. -/
def Db.rated (db : Db) : Reviews.Op → Option ProviderProfile
  | .createReview _ _ _ dto pathBookingId => do
      let bookingId ← (pathBookingId.filter (· ≠ "")).or (dto.bookingId.filter (· ≠ ""))
      let booking ← db.bookings.find? bookingId
      db.providers.find? booking.providerId
  | .updateReview _ reviewId dto => do
      let review ← db.reviews.find? reviewId
      if dto.rating.isSome ∧ dto.rating ≠ some review.rating then
        db.providers.find? review.providerId
      else none

/-- What the listed providers offer. -/
def Db.onOffer (db : Db) : List (ProviderService × Catalog.Service × Catalog.Category) :=
  (db.providers.rows.filter db.listed).flatMap fun p => db.offered p.id

/-- A review is of a provider that is not listed; a user who is a verified
provider stays as active or inactive as they are; and a category or a service
that is on offer keeps its name, a service its category. -/
def Unsearched (w : World) : Request → Prop
  | .provider (.review _ o) => ∀ p ∈ w.db.rated o, w.db.listed p = false
  | .updateStatus _ _ id status _ => ∀ p ∈ w.db.providers.rows, p.userId = id →
      p.verificationStatus = .verified → w.db.listed p = decide (status = .active)
  | .catalog _ (.updateCategory id dto) => ∀ x ∈ w.db.onOffer, x.2.2.id = id →
      dto.name.getD x.2.2.name = x.2.2.name
  | .catalog _ (.updateService id dto) => ∀ x ∈ w.db.onOffer, x.2.1.id = id →
      dto.name.getD x.2.1.name = x.2.1.name ∧ dto.categoryId.getD x.2.1.categoryId = x.2.1.categoryId
  | _ => True

instance (w : World) (r : Request) : Decidable (Unsearched w r) := by
  rcases r with o | ⟨_, o⟩ | _ | _ <;> first | cases o | skip
  all_goals
    dsimp only [Unsearched]
    infer_instance

/-- What the database and the language keep. -/
structure Sound (js : Builtins) (w : World) (r : Request) : Prop where
  countable : Countable js w.db
  hasCategory : ∀ s ∈ w.db.services.rows, (w.db.categories.find? s.categoryId).isSome = true
  hasService : ∀ o ∈ w.db.providerServices.rows, (w.db.services.find? o.serviceId).isSome = true
  names : ∀ c ∈ w.db.categories.rows, ∀ c' ∈ w.db.categories.rows, c.name = c'.name → c = c'
  clock : ∀ now o, r = .provider (.review now o) → ∀ p ∈ w.db.providers.rows, p.updatedAt ≠ now

/-! ## Requests that call `incrementSearchVersion` -/

section
variable {α β : Type}

/-- If the call completes, `incrementSearchVersion` was called after the last
change. -/
def Closes (p : Call α) : Prop :=
  ∀ h, Obeys (fun _ _ => True) (fun h r => r.isOk = true → Incremented h = true) h p

theorem closes_bind {p : Call α} {f : α → Call β} (hf : ∀ a, Closes (f a)) : Closes (p >>= f) := by
  intro h
  refine Obeys.bind (Obeys.of_forall (fun _ _ => trivial) (fun _ _ => trivial) p h)
    (fun h a => hf a h) ?_
  intro h e hok
  cases hok

theorem closes_map {p : Call α} {f : α → β} (hp : Closes p) : Closes (p.map f) := by
  intro h
  refine obeys_map.mpr ((hp h).mono (fun _ _ hq => hq) ?_)
  rintro h' (e | a) hincr
  · exact hincr
  · exact hincr

theorem closes_invalidate (providerId : Uuid) (a : α) :
    Closes (do invalidate providerId; pure a) := by
  intro h
  refine obeys_bind.mpr (obeys_bind.mpr ?_)
  refine (Obeys.of_forall (Q := fun _ _ => True) (fun _ _ => trivial) (R := fun _ _ => True)
    (fun _ _ => trivial) _ h).mono (fun _ _ hq => hq) ?_
  rintro h' (e | _) _
  · intro hok
    cases hok
  · refine ⟨trivial, fun r => ?_⟩
    cases r with
    | ok n => exact fun _ => rfl
    | error e => exact fun _ => rfl

theorem changeStatus_closes (r : AdminProviderService.Request) (id : Uuid)
    (status : VerificationStatus) (rejectionReason : Option String) (audit : AuditLog) :
    Closes (AdminProviderService.changeStatus r id status rejectionReason audit) :=
  closes_bind fun _ => closes_bind fun _ => closes_invalidate id _

end

/-- The requests that end with `invalidate`. -/
def Op.ends : Op → Bool
  | .updateOwnProfile _ _ _ => true
  | .createOffering _ _ _ _ => true
  | .updateOffering _ _ _ _ => true
  | .removeOffering _ _ _ => true
  | .verifyProvider _ _ => true
  | .rejectProvider _ _ _ => true
  | .suspendProvider _ _ => true
  | _ => false

theorem program_closes (js : Builtins) {o : Op} (ho : o.ends = true) : Closes (program js o) := by
  cases o with
  | updateOwnProfile now userId dto =>
      refine closes_map (closes_bind fun _ => closes_bind fun profile => ?_)
      exact closes_bind fun _ => closes_bind fun _ => closes_invalidate profile.id _
  | createOffering id now providerId dto =>
      refine closes_map (closes_bind fun _ => closes_bind fun _ => closes_bind fun _ => ?_)
      exact closes_bind fun _ => closes_bind fun _ => closes_invalidate providerId _
  | updateOffering now providerId id dto =>
      exact closes_map (closes_bind fun _ => closes_bind fun _ => closes_invalidate providerId _)
  | removeOffering now providerId id =>
      exact closes_map (closes_bind fun _ => closes_bind fun _ => closes_invalidate providerId _)
  | verifyProvider r id => exact closes_map (closes_bind fun _ => changeStatus_closes r id _ _ _)
  | rejectProvider r id reason =>
      exact closes_map (closes_bind fun _ => changeStatus_closes r id _ _ _)
  | suspendProvider r id =>
      exact closes_map (closes_bind fun _ => closes_bind fun _ => changeStatus_closes r id _ _ _)
  | _ => cases ho

/-- **They invalidate**, whatever they have changed. -/
theorem incremented_of_ends {js : Builtins} {w : World} {o : Op} (ho : o.ends = true)
    (hdone : (w.serve js (.provider o)).1.isOk = true) : w.incremented js (.provider o) = true := by
  refine result_asked (⟨none, w.db, []⟩ : SerialState Db Empty) (program_closes js ho []) ?_
  have hresult : (((program js o).serial (⟨none, w.db, []⟩ : SerialState Db Empty)).2.map
      Reply.provider).isOk = true := hdone
  cases hserial : ((program js o).serial (⟨none, w.db, []⟩ : SerialState Db Empty)).2 with
  | ok a => rfl
  | error e =>
      rw [hserial] at hresult
      cases hresult

/-! ## Requests that the search does not see -/

/-- The search does not see the difference. -/
structure Unseen (db db' : Db) : Prop where
  engine : db'.engine = db.engine
  listing : db'.listing = db.listing

section
variable {db db' db'' : Db} {js : Builtins}

theorem Unseen.results (h : Unseen db db') : SameResults js db db' :=
  fun q => (results_congr h.engine h.listing q).symm

theorem Unseen.refl (db : Db) : Unseen db db := ⟨rfl, rfl⟩

theorem Unseen.trans (h : Unseen db db') (h' : Unseen db' db'') : Unseen db db'' :=
  ⟨h'.engine.trans h.engine, h'.listing.trans h.listing⟩

/-- A row that no search reads. -/
def Row.unsearched : Row → Bool
  | .document _ => true
  | .review _ => true
  | .audit _ => true
  | .entry _ _ => true
  | .version _ => true
  | _ => false

theorem unseen_put {r : Row} (hr : r.unsearched = true) : Unseen db (db.put r) := by
  cases r with
  | provider p => cases hr
  | location l => cases hr
  | providerService o => cases hr
  | _ => exact ⟨rfl, rfl⟩

/-- A profile that is not listed, neither before nor after. -/
theorem unseen_putProvider {p : ProviderProfile} (hp : db.listed p = false)
    (hold : ∀ q, db.providers.find? p.id = some q → db.listed q = false) :
    Unseen db (db.put (.provider p)) :=
  ⟨rfl, congrArg (List.map db.shown) (Table.filter_put hp hold)⟩

/-- A location of a profile that is not listed. -/
theorem unseen_putLocation {l : ProviderLocation} (hfresh : db.locations.find? l.id = none)
    (hnot : ∀ p ∈ db.providers.rows, db.listed p = true → p.id ≠ l.providerId) :
    Unseen db (db.put (.location l)) := by
  refine ⟨rfl, listing_congr rfl (fun _ _ => rfl) fun p hp hlisted => ?_⟩
  have hlocations : (db.put (.location l)).locationsOf p.id = db.locationsOf p.id := by
    refine Table.filter_put (beq_eq_false_iff_ne.mpr (hnot p hp hlisted).symm) ?_
    intro x hx
    cases hfresh.symm.trans hx
  show Shown.mk p _ _ = Shown.mk p _ _
  rw [hlocations]
  rfl

end

/-! ### Reviews -/

/-- What a request leaves if it completes. -/
def Done {α : Type} (E : Db → Prop) (db' : Db) : Except Exn α → Prop
  | .ok _ => E db'
  | .error _ => True

theorem Ends.done {db : Db} {E : Db → Prop} {s : Stmt}
    (hok : ∀ a, db.exec s = .ok a → E (puts db (s.written a))) :
    (autocommit Empty (query s)).Ends db (Done E) :=
  Ends.stmt hok fun _ _ => trivial

/-- A review was written, and the rating of the provider with it. -/
def Recalculated (db : Db) (now : Time) (providerId : Uuid) (db' : Db) : Prop :=
  ∃ r p averageRating totalReviews, db.providers.find? providerId = some p ∧
    db' = (db.put (.review r)).put (.provider (withStats now averageRating totalReviews p))

/-- What a review leaves. -/
def Reviewed (db : Db) (now : Time) (o : Reviews.Op) (db' : Db) : Prop :=
  (∃ providerId key mid, db.rated o = db.providers.find? providerId ∧
      Recalculated db now providerId mid ∧ db' = mid.put (.entry key none)) ∨
    db.rated o = none ∧ ∃ r, db' = db.put (.review r)

section
variable {db : Db} {now : Time} {providerId : Uuid}

theorem recalculate_returns {s : Reviews.Stmt}
    {f : Reviews.Ans s → Reviews.ProviderMetrics → Reviews.Response}
    (hs : ∀ a, ∃ r, (reviewStmt now s).written a = [.review r]) :
    (embed (reviewing now) (do
      let review ← Reviews.query s
      let metrics ← Reviews.recalculate providerId
      pure (f review metrics))).Returns db fun db' _ => Recalculated db now providerId db' := by
  rw [embed_perform_bind, returns_bind, returns_perform]
  intro a _
  obtain ⟨r, hr⟩ := hs a
  rw [show Database.written Db ((reviewing now).stmt s) a = [.review r] from hr]
  unfold Reviews.recalculate Reviews.ReviewRepository.aggregateProviderRating
    Reviews.ReviewRepository.updateProviderRatingStats
  rw [embed_bind, returns_bind, embed_perform_bind, returns_bind, returns_perform]
  intro agg _
  rw [embed_perform_bind, returns_bind, returns_perform]
  intro q hq
  obtain ⟨p, hp, rfl⟩ := Db.updateStats_ok hq
  rw [embed_pure, returns_pure, embed_pure, returns_pure]
  exact ⟨r, p, _, _, hp, rfl⟩

/-- The transaction of a review, and the deletion of the key after it. -/
theorem rated_ends {o : Reviews.Op} {s : Reviews.Stmt}
    {f : Reviews.Ans s → Reviews.ProviderMetrics → Reviews.Response}
    (hs : ∀ a, ∃ r, (reviewStmt now s).written a = [.review r])
    (hrated : db.rated o = db.providers.find? providerId) :
    (show Call Reviews.Response from embedCall (reviewing now) (fun | .del key => .redisDel key) (do
      let result ← transaction Reviews.Ext (do
        let review ← Reviews.query s
        let metrics ← Reviews.recalculate providerId
        pure (f review metrics))
      Prog.perform (Instr.call (.del (profileKey providerId)))
      pure result : Reviews.Call Reviews.Response)).Ends db (Done (Reviewed db now o)) := by
  show (embedCall _ _ _).Ends db _
  rw [embedCall_bind, embedCall_transaction]
  refine Ends.transaction_bind ?_ fun _ _ _ => trivial
  intro mid result hresult log
  have hmid := recalculate_returns hs mid result hresult
  exact ⟨_, log, .ok result, rfl, Or.inl ⟨providerId, profileKey providerId, mid, hrated, hmid, rfl⟩⟩

theorem review_ends (js : Builtins) (db : Db) (now : Time) (o : Reviews.Op) :
    (review js now o).Ends db (Done (Reviewed db now o)) := by
  cases o with
  | createReview id createdAt customerId dto pathBookingId =>
      unfold review Reviews.program Reviews.createReview Reviews.ReviewRepository.findByBookingId
      rw [embedCall_bind, embedCall_orThrow]
      refine Ends.orThrow_bind (fun bookingId hid => ?_) fun _ => trivial
      rw [embedCall_stmt_bind]
      refine Ends.read_bind (a := db.bookings.find? bookingId) rfl rfl ?_
      rw [embedCall_bind, embedCall_orThrow]
      refine Ends.orThrow_bind (fun booking hbooking => ?_) fun _ => trivial
      rw [embedCall_bind, embedCall_throwIf]
      refine Ends.throwIf_bind (fun _ => ?_) fun _ => trivial
      rw [embedCall_bind, embedCall_throwIf]
      refine Ends.throwIf_bind (fun _ => ?_) fun _ => trivial
      rw [embedCall_stmt_bind]
      refine Ends.read_bind rfl rfl ?_
      rw [embedCall_bind, embedCall_throwIf]
      refine Ends.throwIf_bind (fun _ => ?_) fun _ => trivial
      refine rated_ends (fun a => ⟨a, rfl⟩) ?_
      have hfound : db.bookings.find? bookingId = some booking := hbooking
      simp only [Db.rated, hid, hfound, Option.bind_eq_bind, Option.bind_some]
  | updateReview customerId reviewId dto =>
      unfold review Reviews.program Reviews.updateReview Reviews.ReviewRepository.findById
      rw [embedCall_stmt_bind]
      refine Ends.read_bind (a := db.reviews.find? reviewId) rfl rfl ?_
      rw [embedCall_bind, embedCall_orThrow]
      refine Ends.orThrow_bind (fun review hreview => ?_) fun _ => trivial
      have hfound : db.reviews.find? reviewId = some review := hreview
      rw [embedCall_bind, embedCall_throwIf]
      refine Ends.throwIf_bind (fun _ => ?_) fun _ => trivial
      rw [embedCall_ite]
      split
      · rename_i hmoves
        refine rated_ends (fun a => ⟨a, rfl⟩) ?_
        simp only [Db.rated, hfound, Option.bind_eq_bind, Option.bind_some, if_pos hmoves]
      · rename_i hstays
        rw [Reviews.ReviewRepository.update, embedCall_stmt_bind]
        refine Ends.stmt_bind (fun a _ => Ends.pure (Or.inr ⟨?_, a, rfl⟩)) fun _ _ => trivial
        simp only [Db.rated, hfound, Option.bind_eq_bind, Option.bind_some, if_neg hstays]

end

section
variable {js : Builtins} {w : World} {db db' : Db} {now : Time} {o : Reviews.Op}

theorem unseen_of_reviewed (hrated : ∀ p ∈ db.rated o, db.listed p = false)
    (h : Reviewed db now o db') : Unseen db db' := by
  rcases h with ⟨providerId, key, mid, hfound, ⟨r, p, a, n, hp, rfl⟩, rfl⟩ | ⟨_, r, rfl⟩
  · have hunlisted := hrated p (hfound.trans hp)
    refine (unseen_put (r := .review r) rfl).trans (Unseen.trans ?_ (unseen_put rfl))
    refine unseen_putProvider hunlisted fun q hq => ?_
    obtain rfl : q = p := Option.some.inj (hq.symm.trans (by
      rw [← hp, ← Table.key_of_find? hp]
      rfl))
    exact hunlisted
  · exact unseen_put rfl

/-- The profile whose rating is recalculated is dated anew. -/
theorem updatedAt_of_reviewed (h : Reviewed db now o db') {p : ProviderProfile}
    (hp : p ∈ db.rated o) (hkept : p ∈ db'.providers.rows) : p.updatedAt = now := by
  rcases h with ⟨providerId, key, mid, hfound, ⟨r, q, a, n, hq, rfl⟩, rfl⟩ | ⟨hnone, _⟩
  · obtain rfl : p = q := Option.some.inj (hp.symm.trans (hfound.trans hq))
    rcases Table.mem_put.mp hkept with hnew | ⟨_, hne⟩
    · exact congrArg ProviderProfile.updatedAt hnew
    · exact absurd rfl hne
  · cases hnone.symm.trans hp

/-! ### The other requests of providers -/

theorem createProfile_ends (id locationId : Uuid) (now : Time) (userId : Uuid)
    (dto : CreateProviderDto) :
    (ProviderService.createProfile id locationId now userId dto).Ends db (Done (Unseen db)) := by
  refine Ends.read_bind rfl rfl ?_
  refine Ends.read_bind rfl rfl ?_
  refine Ends.throwIf_bind (fun _ => ?_) fun _ => trivial
  refine Ends.throwIf_bind (fun _ => ?_) fun _ => trivial
  refine Ends.done (s := .createProvider _ _) fun p hp => ?_
  obtain ⟨rfl, hfresh, hfreshLocation⟩ := Db.insertProvider_ok hp
  -- the profile is new and pending, and so is none that is listed
  have hpending : db.listed (ProviderRepository.newProfile id now userId dto) = false := rfl
  refine Unseen.trans (unseen_putProvider hpending fun q hq => ?_) (unseen_putLocation hfreshLocation ?_)
  · cases hfresh.symm.trans hq
  · intro q hq hlisted
    rcases Table.mem_put.mp hq with rfl | ⟨_, hne⟩
    · cases hpending.symm.trans hlisted
    · exact hne

theorem uploadDocument_ends (id : Uuid) (now : Time) (userId : Uuid) (documentType : DocumentType)
    (stored : Except Exn String) :
    (ProviderService.uploadDocument id now userId documentType stored).Ends db
      (Done (Unseen db)) := by
  refine Ends.read_bind rfl rfl ?_
  refine Ends.orThrow_bind (fun provider _ => ?_) fun _ => trivial
  refine Ends.read_bind rfl rfl ?_
  refine Ends.throwIf_bind (fun _ => ?_) fun _ => trivial
  cases stored with
  | error e => exact Ends.throw trivial
  | ok fileUrl => exact Ends.done (s := .createDocument _) fun d _ => unseen_put (r := .document d) rfl

theorem unseen_of_looked {key : String} {ttl : Int} {r : Except Exn Cached}
    (h : Looked now key ttl db db' r) : Unseen db db' := by
  unfold Looked at h
  split at h
  · rw [h.2]
    exact Unseen.refl db
  · rcases h with ⟨_, _, rfl⟩ | ⟨_, _, rfl⟩
    · exact Unseen.refl db'
    · exact unseen_put rfl

theorem getPublicProfileById_ends (now : Time) (providerId : Uuid) :
    (ProviderService.getPublicProfileById now providerId).Ends db fun db' _ => Unseen db db' := by
  refine (getOrSet_ends ?_).mono fun _ _ => unseen_of_looked
  refine Ends.read_bind rfl rfl ?_
  refine Ends.orThrow_bind (fun provider _ => Ends.pure rfl) fun _ => rfl

end

section
variable {js : Builtins} {w : World}

theorem done_map {α β : Type} {E : Db → Prop} {db' : Db} {f : α → β} {r : Except Exn α}
    (h : Done E db' r) : Done E db' (r.map f) := by
  cases r with
  | ok a => exact h
  | error e => trivial

/-- What holds of a request that completes. -/
theorem served {o : Op} {E : Db → Prop} (h : (program js o).Ends w.db (Done E))
    (hdone : (w.serve js (.provider o)).1.isOk = true) : E (w.serve js (.provider o)).2.db := by
  obtain ⟨db', log', r, hserial, hr⟩ := h []
  have hresult : (((program js o).serial (⟨none, w.db, []⟩ : SerialState Db Empty)).2.map
      Reply.provider).isOk = true := hdone
  show E ((program js o).serial (⟨none, w.db, []⟩ : SerialState Db Empty)).1.db
  rw [hserial] at hresult ⊢
  cases r with
  | ok a => exact hr
  | error e => cases hresult

theorem served_map {α : Type} {p : Call α} {f : α → Response} {o : Op} {E : Db → Prop}
    (ho : program js o = p.map f) (h : p.Ends w.db (Done E))
    (hdone : (w.serve js (.provider o)).1.isOk = true) : E (w.serve js (.provider o)).2.db := by
  refine served ?_ hdone
  rw [ho]
  exact Ends.map (h.mono fun _ _ => done_map)

/-- A review never calls `incrementSearchVersion`. -/
theorem review_incremented (now : Time) (o : Reviews.Op) :
    w.incremented js (.provider (.review now o)) = false := by
  have hasks : Obeys (fun _ i => i ≠ Instr.stmt Stmt.redisIncr) (fun _ _ => True) []
      (program js (.review now o)) := by
    refine Obeys.map (obeys_embedCall (fun s => ?_) (fun c => ?_) nofun nofun nofun _ _)
    · cases s <;> nofun
    · cases c
      nofun
  refine askedSince_of_obeyed (fun h x hx => ?_) (obeyed_asked _ hasks trivial)
  unfold callsIncrement
  split
  · exact absurd rfl hx
  · rfl

/-- What the search does not see of the requests of providers. -/
theorem unseen_provider {o : Op} (ho : o.ends = false) (hnot : ∀ now r, o ≠ .review now r)
    (hdone : (w.serve js (.provider o)).1.isOk = true) :
    Unseen w.db (w.serve js (.provider o)).2.db := by
  cases o with
  | createProfile id locationId now userId dto =>
      exact served_map rfl (createProfile_ends id locationId now userId dto) hdone
  | uploadDocument id now userId documentType stored =>
      exact served_map rfl (uploadDocument_ends id now userId documentType stored) hdone
  | getPublicProfileById now providerId =>
      refine served_map rfl ((getPublicProfileById_ends now providerId).mono fun _ r h => ?_) hdone
      cases r with
      | ok v => exact h
      | error e => trivial
  | searchPublicProviders now q =>
      refine served_map rfl ((searchPublicProviders_ends js w now q).mono fun _ r h => ?_) hdone
      cases r with
      | ok v => exact unseen_of_looked h
      | error e => trivial
  | review now r => exact absurd rfl (hnot now r)
  | _ => cases ho

end

/-! ### The status of a user -/

theorem checkFinalAdmin_returns (existing : User) (status : UserStatus) (db : Accounts.Db) :
    (Accounts.AdminUserService.checkFinalAdmin existing status).Returns db
      fun db' _ => db'.users = db.users := by
  unfold Accounts.AdminUserService.checkFinalAdmin throwIf
  rw [returns_ite, returns_bind]
  refine ⟨fun _ => ?_, fun _ => returns_pure.mpr rfl⟩
  refine (returns_perform (s := Accounts.Stmt.countActiveAdmin)).mpr fun n _ => ?_
  rw [returns_ite]
  exact ⟨fun _ => returns_throw.mpr trivial, fun _ => returns_pure.mpr rfl⟩

theorem recordStatus_returns (auditId : Uuid) (now : Time) (id : Uuid) (existing : User)
    (status : UserStatus) (adminUserId : Option Uuid) (db : Accounts.Db) :
    (Accounts.AdminUserService.recordStatus auditId now id existing status adminUserId).Returns db
      fun db' _ => db'.users = db.users := by
  cases adminUserId with
  | none => exact returns_pure.mpr rfl
  | some adminUserId =>
      unfold Accounts.AdminUserService.recordStatus
      rw [returns_ite, returns_bind]
      refine ⟨fun _ => returns_pure.mpr rfl, fun _ => ?_⟩
      exact (returns_perform (s := Accounts.Stmt.createAudit _)).mpr fun a _ => returns_pure.mpr rfl

theorem updateStatus_returns (auditId : Uuid) (now : Time) (id : Uuid) (status : UserStatus)
    (adminUserId : Option Uuid) (db : Accounts.Db) :
    (Accounts.AdminUserService.updateStatus auditId now id status adminUserId).Returns db
      fun db' _ => ∃ u, db.users.find? id = some u ∧
        db'.users = db.users.put { u with status := status } := by
  unfold Accounts.AdminUserService.updateStatus Accounts.AdminUserService.findOne throwIf
  rw [returns_bind, returns_bind]
  refine (returns_perform (s := Accounts.Stmt.findUser id)).mpr fun found _ => ?_
  rw [returns_orThrow]
  intro existing _
  rw [returns_bind, returns_ite]
  refine ⟨fun _ => returns_throw.mpr trivial, fun _ => returns_pure.mpr ?_⟩
  rw [returns_bind]
  intro db₁ _ hchecked
  rw [returns_bind]
  intro db₂ _ hrecorded
  have husers₁ := checkFinalAdmin_returns existing status _ db₁ _ hchecked
  have husers₂ := recordStatus_returns auditId now id existing status adminUserId db₁ db₂ _ hrecorded
  have husers : db₂.users = db.users := husers₂.trans husers₁
  refine (returns_perform (s := Accounts.Stmt.updateUser id _)).mpr fun u hu => ?_
  have hexec : db₂.exec (.updateUser id { status := some status }) = .ok u := hu
  simp only [Accounts.Db.exec, husers] at hexec
  split at hexec
  · cases hexec
  · rename_i v hv
    cases hexec
    refine ⟨v, hv, ?_⟩
    show db₂.users.put _ = _
    rw [husers]
    rfl

/-- The users after a change of a status. -/
theorem users_of_status {js : Builtins} {w : World} {auditId : Uuid} {now : Time} {id : Uuid}
    {status : UserStatus} {adminUserId : Option Uuid}
    (hdone : (w.serve js (.updateStatus auditId now id status adminUserId)).1.isOk = true) :
    ∃ u logs, w.db.users.find? id = some u ∧
      (w.serve js (.updateStatus auditId now id status adminUserId)).2.db =
        { w.db with users := w.db.users.put { u with status := status }, auditLogs := logs } := by
  have hresult : ((Accounts.AdminUserService.updateStatus auditId now id status
      adminUserId).eval w.db.accounts).2.isOk = true := by
    have hserved : (((Accounts.AdminUserService.updateStatus auditId now id status
        adminUserId).eval w.db.accounts).2.map Reply.user).isOk = true := hdone
    cases hr : ((Accounts.AdminUserService.updateStatus auditId now id status
        adminUserId).eval w.db.accounts).2 with
    | ok u => rfl
    | error e =>
        rw [hr] at hserved
        cases hserved
  show ∃ u logs, _ ∧ (w.serveUpdateStatus auditId now id status adminUserId).2.db = _
  unfold World.serveUpdateStatus
  rcases heval : (Accounts.AdminUserService.updateStatus auditId now id status
      adminUserId).eval w.db.accounts with ⟨db', r⟩
  rw [heval] at hresult
  cases r with
  | error e => cases hresult
  | ok a =>
      obtain ⟨u, hu, husers⟩ := updateStatus_returns auditId now id status adminUserId _ db' a heval
      exact ⟨u, db'.auditLogs, hu, congrArg (fun users =>
        ({ w.db with users := users, auditLogs := db'.auditLogs } : Db)) husers⟩

/-! ### The catalog -/

section
variable {js : Builtins} {db db' : Db}
  {x : ProviderService × Catalog.Service × Catalog.Category}

/-- The query without a condition. -/
def unfiltered : QueryProviderSearchDto :=
  ⟨none, none, none, none, none, none, none, none, none, none⟩

theorem mem_found_unfiltered {p : ProviderProfile} :
    p ∈ db.found unfiltered ↔ p ∈ db.providers.rows ∧ db.listed p = true := by
  rw [Db.found, List.mem_insertionSort, List.mem_filter]
  refine and_congr Iff.rfl ?_
  simp [Db.holds, unfiltered, QueryProviderSearchDto.asksForService]

theorem mem_offered {providerId : Uuid} : x ∈ db.offered providerId ↔
    (x.1 ∈ db.providerServices.rows ∧ x.1.providerId = providerId ∧ x.1.isActive = true) ∧
      db.services.find? x.1.serviceId = some x.2.1 ∧
        db.categories.find? x.2.1.categoryId = some x.2.2 := by
  obtain ⟨o, s, c⟩ := x
  simp only [Db.offered, List.mem_filterMap, List.mem_filter, Bool.and_eq_true, beq_iff_eq,
    Option.bind_eq_bind, Option.bind_eq_some_iff]
  constructor
  · rintro ⟨o, ho, s, hs, c, hc, heq⟩
    cases heq
    exact ⟨ho, hs, hc⟩
  · rintro ⟨ho, hs, hc⟩
    exact ⟨o, ho, s, hs, c, hc, rfl⟩

theorem mem_onOffer : x ∈ db.onOffer ↔
    ∃ p ∈ db.providers.rows, db.listed p = true ∧ x ∈ db.offered p.id := by
  simp only [Db.onOffer, List.mem_flatMap, List.mem_filter, and_assoc]

/-- The catalog may change where nothing is on offer. -/
theorem unseen_catalog {categories : Table Catalog.Category Uuid Catalog.Category.id}
    {services : Table Catalog.Service Uuid fun s => s.id}
    (hcategory : ∀ s ∈ db.services.rows, (db.categories.find? s.categoryId).isSome = true)
    (hservice : ∀ o ∈ db.providerServices.rows, (db.services.find? o.serviceId).isSome = true)
    (hkept : ∀ x ∈ db.onOffer, ∃ s' c', services.find? x.1.serviceId = some s' ∧
      categories.find? s'.categoryId = some c' ∧ s'.name = x.2.1.name ∧
        s'.categoryId = x.2.1.categoryId ∧ c'.name = x.2.2.name) :
    Unseen db { db with categories := categories, services := services } := by
  refine ⟨rfl, listing_congr rfl (fun _ _ => rfl) fun p hp hlisted => ?_⟩
  simp only [Db.shown, Db.offered, List.map_filterMap]
  refine congrArg (Shown.mk p (db.locationsOf p.id)) (List.filterMap_congr fun o ho => ?_)
  obtain ⟨hrow, hof⟩ := List.mem_filter.mp ho
  obtain ⟨s, hs⟩ := Option.isSome_iff_exists.mp (hservice o hrow)
  obtain ⟨c, hc⟩ := Option.isSome_iff_exists.mp (hcategory s (Table.mem_of_find? hs))
  have hof : o.providerId = p.id ∧ o.isActive = true := by simpa using hof
  have hoffer : (o, s, c) ∈ db.onOffer :=
    mem_onOffer.mpr ⟨p, hp, hlisted, mem_offered.mpr ⟨⟨hrow, hof⟩, hs, hc⟩⟩
  obtain ⟨s', c', hs', hc', hname, hid, hcname⟩ := hkept _ hoffer
  rw [hid] at hc'
  simp only [hs, hc, hs', hc', hname, hid, hcname, Option.bind_eq_bind, Option.bind_some,
    Option.pure_def, Option.map_some]

/-- What is on offer shows the same names where every search gives the same. -/
theorem names_of_same (hcount : Countable js db) (hsame : SameResults js db db')
    (hx : x ∈ db.onOffer) : ∃ s' c', db'.services.find? x.1.serviceId = some s' ∧
      db'.categories.find? s'.categoryId = some c' ∧ s'.name = x.2.1.name ∧
        c'.name = x.2.2.name := by
  obtain ⟨p, hp, hlisted, hoffered⟩ := mem_onOffer.mp hx
  obtain ⟨p', _, hitem⟩ := found_of_same hcount hsame (mem_found_unfiltered.mpr ⟨hp, hlisted⟩)
  have hshown : (x.1, x.2.1.name, x.2.2.name) ∈ (db.item p).services :=
    List.mem_map.mpr ⟨x, hoffered, rfl⟩
  rw [← hitem] at hshown
  obtain ⟨y, hy, heq⟩ := List.mem_map.mp hshown
  obtain ⟨_, hs, hc⟩ := mem_offered.mp hy
  have hoffering := congrArg (·.1) heq
  have hname := congrArg (·.2.1) heq
  have hcname := congrArg (·.2.2) heq
  refine ⟨y.2.1, y.2.2, ?_, hc, hname, hcname⟩
  rw [← show y.1 = x.1 from hoffering]
  exact hs

end

section
variable {js : Builtins} {w : World} {r : Request}

/-- What a request of the catalog leaves if it completes. -/
theorem effect_of_done {now : Time} {op : Catalog.Op}
    (hdone : (w.serve js (.catalog now op)).1.isOk = true) :
    ∃ db', Catalog.Effect ⟨w.db.catalog, w.catalogCache, now⟩ op db' ∧
      (w.serve js (.catalog now op)).2.db =
        { w.db with categories := db'.categories, services := db'.services } := by
  have hdoes := Catalog.call_does (w.db.catalogEngine js) ⟨w.db.catalog, w.catalogCache, now⟩ op
  unfold Prog.Post at hdoes
  have hserved : (((Catalog.call (w.db.catalogEngine js) op).handle
      (Catalog.World.exec (w.db.catalogEngine js)) ⟨w.db.catalog, w.catalogCache, now⟩).1.map
        Reply.catalog).isOk = true := hdone
  cases hresult : ((Catalog.call (w.db.catalogEngine js) op).handle
      (Catalog.World.exec (w.db.catalogEngine js)) ⟨w.db.catalog, w.catalogCache, now⟩).1 with
  | ok a =>
      rw [hresult] at hdoes
      exact ⟨_, hdoes, rfl⟩
  | error e =>
      rw [hresult] at hserved
      cases hserved

/-- A category that is put keeps the name that is on offer. -/
theorem unseen_putCategory (hsound : Sound js w r) {c₁ : Catalog.Category}
    (hname : ∀ x ∈ w.db.onOffer, x.2.2.id = c₁.id → c₁.name = x.2.2.name) :
    Unseen w.db { w.db with categories := w.db.categories.put c₁, services := w.db.services } := by
  refine unseen_catalog hsound.hasCategory hsound.hasService fun x hx => ?_
  obtain ⟨p, _, _, hoffered⟩ := mem_onOffer.mp hx
  obtain ⟨_, hs, hc⟩ := mem_offered.mp hoffered
  have hid := Table.key_of_find? hc
  by_cases hput : x.2.2.id = c₁.id
  · refine ⟨x.2.1, c₁, hs, ?_, rfl, rfl, hname x hx hput⟩
    rw [Table.find?_put, if_pos (hput.symm.trans hid)]
  · refine ⟨x.2.1, x.2.2, hs, ?_, rfl, rfl, rfl⟩
    rw [Table.find?_put, if_neg fun h => hput (hid.trans h.symm), hc]

/-- A service that is put keeps the name and the category that are on offer. -/
theorem unseen_putService (hsound : Sound js w r) {s₁ : Catalog.Service}
    (hkept : ∀ x ∈ w.db.onOffer, x.2.1.id = s₁.id →
      s₁.name = x.2.1.name ∧ s₁.categoryId = x.2.1.categoryId) :
    Unseen w.db { w.db with categories := w.db.categories, services := w.db.services.put s₁ } := by
  refine unseen_catalog hsound.hasCategory hsound.hasService fun x hx => ?_
  obtain ⟨p, _, _, hoffered⟩ := mem_onOffer.mp hx
  obtain ⟨_, hs, hc⟩ := mem_offered.mp hoffered
  have hid := Table.key_of_find? hs
  by_cases hput : x.2.1.id = s₁.id
  · obtain ⟨hname, hcategory⟩ := hkept x hx hput
    refine ⟨s₁, x.2.2, ?_, by rw [hcategory, hc], hname, hcategory, rfl⟩
    rw [Table.find?_put, if_pos (hput.symm.trans hid)]
  · refine ⟨x.2.1, x.2.2, ?_, hc, rfl, rfl, rfl⟩
    rw [Table.find?_put, if_neg fun h => hput (hid.trans h.symm), hs]

theorem listed_putUser {db : Db} {u : User} {logs} (p : ProviderProfile) :
    Db.listed { db with users := db.users.put u, auditLogs := logs } p =
      if u.id = p.userId then p.verificationStatus == .verified && u.status == .active
      else db.listed p := by
  simp only [Db.listed, Db.userOf, Table.find?_put]
  split
  · rfl
  · rfl

/-! ## Exactly these -/

theorem same_of_invalidates (h : w.Invalidates js r) (hincr : w.incremented js r = false) :
    SameResults js w.db (w.serve js r).2.db := by
  intro q
  by_contra hne
  rw [h ⟨q, hne⟩] at hincr
  cases hincr

theorem invalidates_of_unseen (h : Unseen w.db (w.serve js r).2.db) : w.Invalidates js r :=
  fun ⟨q, hne⟩ => absurd (h.results q) hne

theorem mem_of_rated {db : Db} {o : Reviews.Op} {p : ProviderProfile} (hp : p ∈ db.rated o) :
    p ∈ db.providers.rows := by
  cases o with
  | createReview id now customerId dto pathBookingId =>
      obtain ⟨_, _, hp⟩ := Option.bind_eq_some_iff.mp hp
      obtain ⟨_, _, hp⟩ := Option.bind_eq_some_iff.mp hp
      exact Table.mem_of_find? hp
  | updateReview customerId reviewId dto =>
      obtain ⟨_, _, hp⟩ := Option.bind_eq_some_iff.mp hp
      split at hp
      · exact Table.mem_of_find? hp
      · cases hp

theorem invalidates_review (hsound : Sound js w r) {now : Time} {o : Reviews.Op}
    (hr : r = .provider (.review now o)) (hdone : (w.serve js r).1.isOk = true) :
    w.Invalidates js r ↔ Unsearched w r := by
  subst hr
  have hreviewed : Reviewed w.db now o (w.serve js (.provider (.review now o))).2.db :=
    served_map rfl (review_ends js w.db now o) hdone
  constructor
  · intro hinvalidates p hp
    by_contra hlisted
    have hlisted : w.db.listed p = true := by simpa using hlisted
    have hrow := mem_of_rated hp
    -- a page of the provider alone would show when it was updated
    have hsame := same_of_invalidates hinvalidates (review_incremented now o)
    obtain ⟨p', hp', hitem⟩ := found_of_same hsound.countable hsame
      (mem_found_unfiltered.mpr ⟨hrow, hlisted⟩)
    have heq : p' = p := congrArg ProviderItem.profile hitem
    rw [heq] at hp'
    exact hsound.clock now o rfl p hrow
      (updatedAt_of_reviewed hreviewed hp (mem_found_unfiltered.mp hp').1)
  · intro hunlisted
    exact invalidates_of_unseen (unseen_of_reviewed hunlisted hreviewed)

theorem invalidates_updateStatus (hsound : Sound js w r) {auditId : Uuid} {now : Time} {id : Uuid}
    {status : UserStatus} {adminUserId : Option Uuid}
    (hr : r = .updateStatus auditId now id status adminUserId)
    (hdone : (w.serve js r).1.isOk = true) : w.Invalidates js r ↔ Unsearched w r := by
  subst hr
  obtain ⟨u, logs, hu, hdb⟩ := users_of_status hdone
  have huid := Table.key_of_find? hu
  have hlisted : ∀ p, (w.serve js (.updateStatus auditId now id status adminUserId)).2.db.listed p =
      if id = p.userId then p.verificationStatus == .verified && status == .active
      else w.db.listed p := by
    intro p
    rw [hdb, listed_putUser, show u.id = id from huid]
  constructor
  · intro hinvalidates p hp hid hverified
    have hsame := same_of_invalidates hinvalidates rfl
    have hafter := hlisted p
    rw [if_pos hid.symm, hverified] at hafter
    have hrows : (w.serve js (.updateStatus auditId now id status adminUserId)).2.db.providers =
        w.db.providers := by rw [hdb]
    by_cases hactive : status = .active
    · -- listed now, so found now, so found before
      have hcount : Countable js (w.serve js (.updateStatus auditId now id status adminUserId)).2.db :=
        ⟨hsound.countable.mul_one, hrows ▸ hsound.countable.few⟩
      obtain ⟨p', hp', hitem⟩ := found_of_same hcount (fun q => (hsame q).symm)
        (mem_found_unfiltered.mpr ⟨hrows ▸ hp, hafter.trans (by rw [hactive]; rfl)⟩)
      have heq : p' = p := congrArg ProviderItem.profile hitem
      rw [heq] at hp'
      rw [(mem_found_unfiltered.mp hp').2, decide_eq_true hactive]
    · rw [decide_eq_false hactive]
      by_contra hbefore
      -- found before, so found now, though not listed
      obtain ⟨p', hp', hitem⟩ := found_of_same hsound.countable hsame
        (mem_found_unfiltered.mpr ⟨hp, by simpa using hbefore⟩)
      have heq : p' = p := congrArg ProviderItem.profile hitem
      rw [heq] at hp'
      rw [(mem_found_unfiltered.mp hp').2] at hafter
      exact hactive (eq_of_beq (Bool.and_eq_true_iff.mp hafter.symm).2)
  · intro hkept
    refine invalidates_of_unseen ⟨by rw [hdb], ?_⟩
    rw [hdb] at hlisted ⊢
    refine listing_congr rfl (fun p hp => (hlisted p).trans ?_) fun _ _ _ => rfl
    split
    · rename_i hid
      by_cases hverified : p.verificationStatus = .verified
      · rw [hkept p hp hid.symm hverified, hverified]
        cases status <;> rfl
      · rw [Db.listed, beq_eq_false_iff_ne.mpr hverified, Bool.false_and, Bool.false_and]
    · rfl

theorem invalidates_catalog (hsound : Sound js w r) {now : Time} {op : Catalog.Op}
    (hr : r = .catalog now op) (hdone : (w.serve js r).1.isOk = true) :
    w.Invalidates js r ↔ Unsearched w r := by
  subst hr
  obtain ⟨db', heffect, hdb⟩ := effect_of_done hdone
  have hnames : w.Invalidates js (.catalog now op) → ∀ x ∈ w.db.onOffer, ∃ s' c',
      db'.services.find? x.1.serviceId = some s' ∧ db'.categories.find? s'.categoryId = some c' ∧
        s'.name = x.2.1.name ∧ c'.name = x.2.2.name := by
    intro hinvalidates x hx
    have hsame := same_of_invalidates hinvalidates rfl
    rw [hdb] at hsame
    exact names_of_same hsound.countable hsame hx
  have hfound : ∀ x ∈ w.db.onOffer, w.db.services.find? x.1.serviceId = some x.2.1 ∧
      w.db.categories.find? x.2.1.categoryId = some x.2.2 := by
    intro x hx
    obtain ⟨_, _, _, hoffered⟩ := mem_onOffer.mp hx
    exact (mem_offered.mp hoffered).2
  have hunseen : Unseen w.db { w.db with categories := db'.categories, services := db'.services } →
      w.Invalidates js (.catalog now op) :=
    fun h => invalidates_of_unseen (hdb.symm ▸ h)
  cases op with
  | findCategories q =>
      subst heffect
      exact iff_of_true (hunseen (Unseen.refl _)) trivial
  | findServices q =>
      subst heffect
      exact iff_of_true (hunseen (Unseen.refl _)) trivial
  | createCategory id dto =>
      obtain ⟨hfresh, slug, rfl⟩ := heffect
      refine iff_of_true (hunseen (unseen_putCategory hsound fun x hx hid => ?_)) trivial
      have hc := (hfound x hx).2
      rw [← Table.key_of_find? hc, show Catalog.Category.id x.2.2 = id from hid] at hc
      cases hfresh.symm.trans hc
  | removeCategory id =>
      obtain ⟨_, c, hc, rfl⟩ := heffect
      refine iff_of_true (hunseen (unseen_putCategory hsound fun x hx hid => ?_)) trivial
      have heq : x.2.2 = c :=
        Table.eq_of_key (Table.mem_of_find? (hfound x hx).2) (Table.mem_of_find? hc) hid
      rw [heq]
  | updateCategory id dto =>
      obtain ⟨c, slug, hc, rfl⟩ := heffect
      have hid := Table.key_of_find? hc
      have hsame : ∀ x ∈ w.db.onOffer, x.2.2.id = id → x.2.2 = c := fun x hx hx' =>
        Table.eq_of_key (Table.mem_of_find? (hfound x hx).2) (Table.mem_of_find? hc) (hx'.trans hid.symm)
      constructor
      · intro hinvalidates x hx hx'
        obtain ⟨s', c', hs', hc', -, hcname⟩ := hnames hinvalidates x hx
        obtain rfl := Option.some.inj (hs'.symm.trans (hfound x hx).1)
        have hcategory := Table.key_of_find? (hfound x hx).2
        have hput : (Catalog.CategoryUpdate.apply now ⟨dto, slug⟩ c).id = x.2.1.categoryId :=
          hid.trans (hx'.symm.trans hcategory)
        rw [Table.find?_put, if_pos hput] at hc'
        rw [← Option.some.inj hc', ← hsame x hx hx'] at hcname
        exact hcname
      · intro hkept
        refine hunseen (unseen_putCategory hsound fun x hx hx' => ?_)
        have hx' := hx'.trans hid
        rw [← hsame x hx hx']
        exact hkept x hx hx'
  | createService id dto =>
      obtain ⟨hfresh, _, slug, rfl⟩ := heffect
      refine iff_of_true (hunseen (unseen_putService hsound fun x hx hid => ?_)) trivial
      have hs := (hfound x hx).1
      rw [← Table.key_of_find? hs, show x.2.1.id = id from hid] at hs
      cases hfresh.symm.trans hs
  | removeService id =>
      obtain ⟨_, s, hs, rfl⟩ := heffect
      refine iff_of_true (hunseen (unseen_putService hsound fun x hx hid => ?_)) trivial
      have heq : x.2.1 = s :=
        Table.eq_of_key (Table.mem_of_find? (hfound x hx).1) (Table.mem_of_find? hs) hid
      rw [heq]
      exact ⟨rfl, rfl⟩
  | updateService id dto =>
      obtain ⟨s, slug, hs, _, rfl⟩ := heffect
      have hid := Table.key_of_find? hs
      have hsame : ∀ x ∈ w.db.onOffer, x.2.1.id = id → x.2.1 = s := fun x hx hx' =>
        Table.eq_of_key (Table.mem_of_find? (hfound x hx).1) (Table.mem_of_find? hs) (hx'.trans hid.symm)
      constructor
      · intro hinvalidates x hx hx'
        obtain ⟨s', c', hs', hc', hname, hcname⟩ := hnames hinvalidates x hx
        have hservice := Table.key_of_find? (hfound x hx).1
        have hput : (Catalog.ServiceUpdate.apply now ⟨dto, slug⟩ s).id = x.1.serviceId :=
          hid.trans (hx'.symm.trans hservice)
        rw [Table.find?_put, if_pos hput] at hs'
        rw [← Option.some.inj hs', ← hsame x hx hx'] at hname hc'
        -- of one name there is one category
        have heq := hsound.names c' (Table.mem_of_find? hc') x.2.2
          (Table.mem_of_find? (hfound x hx).2) hcname
        have hcategory := Table.key_of_find? hc'
        rw [heq, Table.key_of_find? (hfound x hx).2] at hcategory
        exact ⟨hname, hcategory.symm⟩
      · intro hkept
        refine hunseen (unseen_putService hsound fun x hx hx' => ?_)
        have hx' := hx'.trans hid
        rw [← hsame x hx hx']
        exact hkept x hx hx'

theorem unseen_bump (db : Db) : Unseen db db.bump := by
  unfold Db.bump
  split
  · exact unseen_put rfl
  · exact Unseen.refl db

theorem unseen_setAvailibity (o : Schedules.Op) :
    Unseen w.db (w.serve js (.setAvailibity o)).2.db := by
  have hbumps : ∀ (log : List Schedules.Ext) (db : Db),
      Unseen db (log.foldl (fun db _ => db.bump) db) := by
    intro log
    induction log with
    | nil => exact Unseen.refl
    | cons _ log ih => exact fun db => (unseen_bump db).trans (ih db.bump)
  exact hbumps _ w.db

end

/-- **The requests that invalidate**: a request that completes calls
`incrementSearchVersion` after every change that some search sees if and only if
it is not a review of a listed provider, a change of a user's status that lists
or unlists them, or a change of a name or category that is on offer. -/
theorem search_invalidated (js : Builtins) (w : World) (r : Request) (hsound : Sound js w r)
    (hdone : (w.serve js r).1.isOk = true) : w.Invalidates js r ↔ Unsearched w r := by
  cases r with
  | catalog now op => exact invalidates_catalog hsound rfl hdone
  | setAvailibity o => exact iff_of_true (invalidates_of_unseen (unseen_setAvailibity o)) trivial
  | updateStatus auditId now id status adminUserId =>
      exact invalidates_updateStatus hsound rfl hdone
  | provider o =>
      by_cases hreview : ∃ now r, o = .review now r
      · obtain ⟨now, r, rfl⟩ := hreview
        exact invalidates_review hsound rfl hdone
      · have hnot : ∀ now r, o ≠ .review now r := fun now r h => hreview ⟨now, r, h⟩
        have htrivial : Unsearched w (.provider o) := by
          cases o with
          | review now r => exact absurd rfl (hnot now r)
          | _ => trivial
        refine iff_of_true ?_ htrivial
        cases hends : o.ends with
        | true => exact fun _ => incremented_of_ends hends hdone
        | false => exact invalidates_of_unseen (unseen_provider hends hnot hdone)

namespace Sample

/-- The owner of the provider is suspended. -/
def suspend : Request := .updateStatus "audit" 1 "owner" .suspended (some "admin")

end Sample

theorem search_invalidated_sample :
    Sample.world.Invalidates Sample.js Sample.suspend ↔ Unsearched Sample.world Sample.suspend := by
  refine search_invalidated Sample.js Sample.world Sample.suspend ?_ (by decide +kernel)
  exact
    { countable := ⟨fun k _ => mul_one (k : ℚ), by decide⟩
      hasCategory := by decide
      hasService := by decide
      names := by decide
      clock := nofun }

/-- A provider whose user is suspended is found no more, and no cached search is
given up for it. -/
theorem not_search_invalidated : (Sample.world.serve Sample.js Sample.suspend).1.isOk = true ∧
    ¬ Sample.world.Invalidates Sample.js Sample.suspend := by
  refine ⟨by decide +kernel, fun hinvalidates => ?_⟩
  have hsame := same_of_invalidates hinvalidates rfl unfiltered
  have htotal := congrArg (fun r => r.toOption.map ProviderRepository.Page.total) hsame
  have hdiffers : ¬ (Sample.world.db.results Sample.js unfiltered).toOption.map
      ProviderRepository.Page.total =
    ((Sample.world.serve Sample.js Sample.suspend).2.db.results Sample.js unfiltered).toOption.map
      ProviderRepository.Page.total := by decide +kernel
  exact hdiffers htotal

end ServiceHub.Providers
