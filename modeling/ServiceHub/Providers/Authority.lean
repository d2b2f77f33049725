/-
# `Providers.Authority` — who changes a profile, an offering or a document

    what is written          by whom
    ----------------------   --------------------------------------------------
    a new profile            the user that it is of
    name, description        the user of the profile
    verification status      an administrator
    rating                   a review
    a new document           the user of the profile
    status of documents      an administrator
    an offering              a request in the name of its provider

What a call has found may be out of date when it writes.  But whose a profile is,
and of which profile a document or an offering is, no statement writes a second
time (`Row.fixed`), so that a step of a call changes nothing that is not its to
change (`provider_by_authority`).
-/
import ServiceHub.Providers.Service
import ServiceHub.Txn.Origins

namespace ServiceHub.Providers

open Data Txn

/-! ## What a call may write -/

/-- The decision of an administrator on a profile. -/
inductive Decides : Op → AdminProviderService.Request → Uuid → VerificationStatus → Prop where
  | verified {r : AdminProviderService.Request} {id : Uuid} :
      Decides (.verifyProvider r id) r id .verified
  | rejected {r : AdminProviderService.Request} {id : Uuid} {reason : String} :
      Decides (.rejectProvider r id reason) r id .rejected
  | suspended {r : AdminProviderService.Request} {id : Uuid} :
      Decides (.suspendProvider r id) r id .suspended

/-- What the decision says of the documents. -/
inductive Marks : Op → Uuid → DocumentUpdate → Prop where
  | verified {r : AdminProviderService.Request} {id : Uuid} :
      Marks (.verifyProvider r id) id { verificationStatus := .verified, verifiedAt := some r.now }
  | rejected {r : AdminProviderService.Request} {id : Uuid} {reason : String} :
      Marks (.rejectProvider r id reason) id
        { verificationStatus := .rejected, rejectionReason := some reason }

/-- What a request in the name of a provider sets of an offering. -/
inductive Edits : Op → Time → Uuid → Uuid → OfferingUpdate → Prop where
  | updated {now : Time} {providerId id : Uuid} {dto : OfferingUpdate} :
      Edits (.updateOffering now providerId id dto) now providerId id dto
  | removed {now : Time} {providerId id : Uuid} :
      Edits (.removeOffering now providerId id) now providerId id { isActive := some false }

/-- What a call may issue, by what it was answered before. -/
def Permits (o : Op) (h : CallHist) : Instr Stmt Empty → Prop
  | .stmt (.createProvider p l) => ∃ now userId dto, o = .createProfile p.id l.id now userId dto ∧
      p = ProviderRepository.newProfile p.id now userId dto
  | .stmt (.updateProvider now id data) => ∃ userId dto p, o = .updateOwnProfile now userId dto ∧
      ⟨.stmt (.findByUserId userId), .ok (some p)⟩ ∈ h ∧ p.id = id ∧
      data = ProviderRepository.updateData dto
  | .stmt (.setVerification now id status) => ∃ r, Decides o r id status ∧ now = r.now
  | .stmt (.updateStats now _ _ _) => (∃ r, o = .review now r) ∧
      ∀ x ∈ (sinceBegin h).getD [], ∀ p, Row.provider p ∉ x.1.written x.2
  | .stmt (.createDocument d) => ∃ now userId documentType fileUrl p,
      o = .uploadDocument d.id now userId documentType (.ok fileUrl) ∧
      ⟨.stmt (.findByUserId userId), .ok (some p)⟩ ∈ h ∧
      d = ProviderService.newDocument d.id now p.id documentType fileUrl
  | .stmt (.updateDocuments id data) => Marks o id data
  | .stmt (.createOffering x) => ∃ now dto, o = .createOffering x.id now x.providerId dto ∧
      x = ProviderServiceRepository.newOffering x.id now x.providerId dto
  | .stmt (.updateOffering now id data) => ∃ x, Edits o now x.providerId id data ∧
      ⟨.stmt (.findOffering id), .ok (some x)⟩ ∈ h
  | .begin => ∃ now r, o = .review now r
  | _ => True

section
variable {α β : Type} {o : Op} {h : CallHist}

def Permitted (o : Op) (h : CallHist) (c : Call α) : Prop :=
  Obeys (Permits o) (fun _ _ => True) h c

theorem Permitted.map {f : α → β} {c : Call α} (hc : Permitted o h c) : Permitted o h (c.map f) :=
  Obeys.map hc

theorem Permitted.stmt_bind {s : Stmt} {f : Ans s → Call α} (hs : Permits o h (.stmt s))
    (hf : ∀ a, Permitted o (⟨.stmt s, .ok a⟩ :: h) (f a)) :
    Permitted o h (autocommit Empty (query s) >>= f) :=
  obeys_bind.mpr (obeys_stmt.mpr ⟨hs, hf, fun _ => trivial⟩)

theorem Permitted.stmt {s : Stmt} (hs : Permits o h (.stmt s)) :
    Permitted o h (autocommit Empty (query s)) :=
  obeys_stmt.mpr ⟨hs, fun _ => trivial, fun _ => trivial⟩

theorem Permitted.throwIf_bind {c : Prop} [Decidable c] {e : Exn} {f : Unit → Call α}
    (hf : ¬ c → Permitted o h (f ())) : Permitted o h (Prog.throwIf c e >>= f) :=
  obeys_bind.mpr (obeys_throwIf.mpr ⟨fun _ => trivial, hf⟩)

theorem Permitted.orThrow_bind {a : Option β} {e : Exn} {f : β → Call α}
    (hf : ∀ b, a = some b → Permitted o h (f b)) : Permitted o h (Prog.orThrow a e >>= f) :=
  obeys_bind.mpr (obeys_orThrow.mpr ⟨fun _ => trivial, hf⟩)

/-- A part that needs nothing of what was answered, and adds nothing. -/
theorem Permitted.bind {c : Call β} {f : β → Call α} (hc : Permitted o h c)
    (hf : ∀ h b, Permitted o h (f b)) : Permitted o h (c >>= f) :=
  Obeys.bind hc hf fun _ _ => trivial

theorem Permitted.catching {s : Stmt} {g : Exn → Call (Ans s)} (hs : Permits o h (.stmt s))
    (hg : ∀ h e, Permitted o h (g e)) : Permitted o h ((autocommit Empty (query s)).catching g) :=
  obeys_catching.mpr (obeys_stmt.mpr ⟨hs, fun _ => trivial, fun e => hg _ e⟩)

end

/-! ## Every request is permitted -/

section
variable {o : Op} {h : CallHist}

theorem invalidate_permitted (providerId : Uuid) : Permitted o h (invalidate providerId) := by
  have hincr : ∀ h, Permitted o h RedisService.incrementSearchVersion := by
    intro h
    exact obeys_catching.mpr (obeys_map.mpr (obeys_stmt.mpr
      ⟨trivial, fun _ => trivial, fun _ => trivial⟩))
  exact .bind (.catching trivial fun _ _ => trivial) fun h _ => hincr h

theorem createProfile_permitted {id locationId : Uuid} {now : Time} {userId : Uuid}
    {dto : CreateProviderDto} (ho : o = .createProfile id locationId now userId dto) :
    Permitted o h (ProviderService.createProfile id locationId now userId dto) := by
  refine .stmt_bind trivial fun _ => .stmt_bind trivial fun _ => ?_
  refine .throwIf_bind fun _ => .throwIf_bind fun _ => .stmt ?_
  exact ⟨now, userId, dto, ho, rfl⟩

theorem updateOwnProfile_permitted {now : Time} {userId : Uuid} {dto : UpdateProviderDto}
    (ho : o = .updateOwnProfile now userId dto) :
    Permitted o h (ProviderService.updateOwnProfile now userId dto) := by
  refine .stmt_bind trivial fun found => .orThrow_bind fun p hfound => ?_
  subst hfound
  have hupdate : ∀ h', ⟨.stmt (.findByUserId userId), .ok (some p)⟩ ∈ h' →
      Permitted o h' (do
        let updated ← autocommit Empty (ProviderRepository.update now p.id dto)
        invalidate p.id
        pure updated) := by
    intro h' hmem
    refine .stmt_bind ⟨userId, dto, p, ho, hmem, rfl, rfl⟩ fun _ => ?_
    exact .bind (invalidate_permitted _) fun _ _ => trivial
  unfold ProviderService.checkBusinessName
  split
  · exact hupdate _ List.mem_cons_self
  · refine obeys_bind.mpr (obeys_bind.mpr (obeys_stmt.mpr ⟨trivial, fun _ => ?_, fun _ => trivial⟩))
    refine obeys_throwIf.mpr ⟨fun _ => trivial, fun _ => ?_⟩
    exact hupdate _ (List.mem_cons_of_mem _ List.mem_cons_self)

theorem uploadDocument_permitted {id : Uuid} {now : Time} {userId : Uuid}
    {documentType : DocumentType} {stored : Except Exn String}
    (ho : o = .uploadDocument id now userId documentType stored) :
    Permitted o h (ProviderService.uploadDocument id now userId documentType stored) := by
  refine .stmt_bind trivial fun found => .orThrow_bind fun p hfound => ?_
  refine .stmt_bind trivial fun _ => .throwIf_bind fun _ => ?_
  cases stored with
  | error e => trivial
  | ok fileUrl =>
      refine .stmt ⟨now, userId, documentType, fileUrl, p, ho, ?_, rfl⟩
      exact List.mem_cons_of_mem _ (hfound ▸ List.mem_cons_self)

theorem createOffering_permitted {id : Uuid} {now : Time} {providerId : Uuid}
    {dto : CreateProviderServiceDto} (ho : o = .createOffering id now providerId dto) :
    Permitted o h (ProviderServiceService.create id now providerId dto) := by
  refine .stmt_bind trivial fun _ => .stmt_bind trivial fun _ => ?_
  refine .throwIf_bind fun _ => .throwIf_bind fun _ => ?_
  refine .stmt_bind ⟨now, dto, ho, rfl⟩ fun _ => ?_
  exact .bind (invalidate_permitted _) fun _ _ => trivial

/-- An offering is looked up, and is written if it is one of the provider. -/
theorem findOwn_permitted {α : Type} {providerId id : Uuid} {f : ProviderService → Call α}
    (hf : ∀ x h, x.providerId = providerId → ⟨.stmt (.findOffering id), .ok (some x)⟩ ∈ h →
      Permitted o h (f x)) : Permitted o h (ProviderServiceService.findOwn providerId id >>= f) := by
  refine obeys_bind.mpr (obeys_bind.mpr (obeys_stmt.mpr ⟨trivial, fun found => ?_, fun _ => trivial⟩))
  refine obeys_orThrow.mpr ⟨fun _ => trivial, fun x hx => ?_⟩
  obtain ⟨rfl, hown⟩ := Option.filter_eq_some_iff.mp hx
  exact hf x _ (eq_of_beq hown) List.mem_cons_self

theorem edit_permitted {now : Time} {providerId id : Uuid} {data : OfferingUpdate}
    (hedits : Edits o now providerId id data) : Permitted o h (do
      let _ ← ProviderServiceService.findOwn providerId id
      let updated ← autocommit Empty (query (.updateOffering now id data))
      invalidate providerId
      pure updated) := by
  refine findOwn_permitted fun x h hx hmem => ?_
  subst hx
  refine .stmt_bind ⟨x, hedits, hmem⟩ fun _ => ?_
  exact .bind (invalidate_permitted _) fun _ _ => trivial

theorem findOne_permitted {α : Type} {id : Uuid} {f : ProviderProfile → Call α}
    (hf : ∀ p h, Permitted o h (f p)) : Permitted o h (AdminProviderService.findOne id >>= f) := by
  refine obeys_bind.mpr (obeys_bind.mpr (obeys_stmt.mpr ⟨trivial, fun found => ?_, fun _ => trivial⟩))
  exact obeys_orThrow.mpr ⟨fun _ => trivial, fun p _ => hf p _⟩

theorem changeStatus_permitted {r : AdminProviderService.Request} {id : Uuid}
    {status : VerificationStatus} {reason : Option String} {audit : AuditLog}
    (hdecides : Decides o r id status)
    (hreason : ∀ text, reason = some text → Marks o id
      { verificationStatus := .rejected, rejectionReason := some text })
    (hverified : status = .verified → Marks o id
      { verificationStatus := .verified, verifiedAt := some r.now }) :
    Permitted o h (AdminProviderService.changeStatus r id status reason audit) := by
  have hrest : ∀ (p : ProviderProfile) h, Permitted o h (do
      let _ ← autocommit Empty (query (.createAudit audit))
      invalidate id
      pure p) := by
    intro p h
    refine .stmt_bind trivial fun _ => ?_
    exact .bind (invalidate_permitted _) fun _ _ => trivial
  refine .bind ?_ fun h p => hrest p h
  unfold AdminProviderRepository.updateVerificationStatus
  rw [autocommit_bind]
  refine .stmt_bind ⟨r, hdecides, rfl⟩ fun p => ?_
  split
  · rename_i text htext
    rw [autocommit_bind]
    exact .stmt_bind (hreason text (Option.filter_eq_some_iff.mp htext).1) fun _ => trivial
  · split
    · rename_i hstatus
      rw [autocommit_bind]
      exact .stmt_bind (hverified hstatus) fun _ => trivial
    · trivial

theorem getOrSet_permitted {now : Time} {key : String} {fetch : Call Cached} {ttl : Int}
    (hfetch : ∀ h, Permitted o h fetch) :
    Permitted o h (RedisService.getOrSet now key fetch ttl) := by
  unfold RedisService.getOrSet RedisService.get RedisService.set
  refine .bind (.catching trivial fun _ _ => trivial) fun h cached => ?_
  cases cached with
  | some value => trivial
  | none =>
      refine .bind (hfetch h) fun h freshData => .bind ?_ fun _ _ => trivial
      exact .catching trivial fun _ _ => trivial

theorem getPublicProfileById_permitted {now : Time} {providerId : Uuid} :
    Permitted o h (ProviderService.getPublicProfileById now providerId) := by
  refine getOrSet_permitted fun h => ?_
  exact .stmt_bind trivial fun _ => .orThrow_bind fun _ _ => trivial

theorem searchPublicProviders_permitted {js : Builtins} {now : Time} {q : QueryProviderSearchDto} :
    Permitted o h (ProviderService.searchPublicProviders js now q) := by
  have hversion : Permitted o h RedisService.getSearchVersion := by
    exact obeys_map.mpr (obeys_catching.mpr (obeys_stmt.mpr
      ⟨trivial, fun _ => trivial, fun _ => trivial⟩))
  refine .bind hversion fun h version => getOrSet_permitted fun h => ?_
  unfold ProviderService.fetchSearch ProviderRepository.findPublicProviders
  refine .bind ?_ fun _ _ => trivial
  rw [autocommit_bind]
  refine .stmt_bind trivial fun _ => ?_
  rw [autocommit_bind]
  exact .stmt_bind trivial fun _ => trivial

/-! ### Reviews -/

/-- The transaction that rates a provider writes the profile once, after the
review. -/
theorem rated_permitted {s : Reviews.Stmt} {f : Reviews.Ans s → Reviews.ProviderMetrics → Reviews.Response}
    {now : Time} {r : Reviews.Op} {providerId : Uuid} (ho : o = .review now r)
    (hout : sinceBegin h = none) (hs : ∀ h, Permits o h (.stmt (reviewStmt now s)))
    (hwritten : ∀ a p, Row.provider p ∉ (reviewStmt now s).written a) :
    Permitted o h (Prog.embedCall (reviewing now) (fun | .del key => .redisDel key) (do
      let result ← transaction Reviews.Ext (do
        let review ← Reviews.query s
        let metrics ← Reviews.recalculate providerId
        pure (f review metrics))
      Prog.perform (Instr.call (.del (profileKey providerId)))
      pure result : Reviews.Call Reviews.Response)) := by
  have hbody : ∀ h, sinceBegin h = some [] → Permitted o h
      (autocommit Empty (Prog.embed (reviewing now) (do
        let review ← Reviews.query s
        let metrics ← Reviews.recalculate providerId
        pure (f review metrics)))) := by
    intro h hbegun
    rw [Prog.embed_perform_bind, autocommit_bind]
    refine .stmt_bind (hs h) fun review => ?_
    rw [Prog.embed_bind, autocommit_bind]
    refine .bind ?_ fun _ _ => trivial
    unfold Reviews.recalculate Reviews.ReviewRepository.aggregateProviderRating
      Reviews.ReviewRepository.updateProviderRatingStats
    rw [Prog.embed_perform_bind, autocommit_bind]
    refine .stmt_bind trivial fun agg => ?_
    rw [Prog.embed_perform_bind, autocommit_bind]
    refine .stmt_bind ⟨⟨r, ho⟩, fun x hx p => ?_⟩ fun _ => trivial
    simp only [sinceBegin, hbegun, Option.map_some, Option.getD_some, List.mem_cons,
      List.not_mem_nil, or_false] at hx
    rcases hx with rfl | rfl
    · exact List.not_mem_nil
    · exact hwritten review p
  rw [Prog.embedCall_bind, Prog.embedCall_transaction]
  refine .bind (obeys_transaction.mpr ⟨⟨now, r, ho⟩, fun _ => trivial, ?_⟩) fun _ _ =>
    ⟨trivial, fun _ => trivial⟩
  have hbegun : sinceBegin (⟨.begin, .ok ()⟩ :: h : CallHist) = some [] := by
    simp only [sinceBegin, hout, Option.getD_none]
  refine (hbody _ hbegun).mono (fun _ _ hq => hq) ?_
  rintro h' (e | a) _
  · exact ⟨trivial, fun _ => trivial⟩
  · exact ⟨trivial, trivial, fun _ => trivial⟩

theorem review_permitted {js : Builtins} {now : Time} {r : Reviews.Op} (ho : o = .review now r) :
    Permitted o [] (review js now r) := by
  cases r with
  | createReview id createdAt customerId dto pathBookingId =>
      unfold review Reviews.program Reviews.createReview Reviews.ReviewRepository.findByBookingId
      rw [Prog.embedCall_bind, Prog.embedCall_orThrow]
      refine .orThrow_bind fun bookingId _ => ?_
      rw [Prog.embedCall_stmt_bind]
      refine .stmt_bind trivial fun found => ?_
      rw [Prog.embedCall_bind, Prog.embedCall_orThrow]
      refine .orThrow_bind fun booking _ => ?_
      rw [Prog.embedCall_bind, Prog.embedCall_throwIf]
      refine .throwIf_bind fun _ => ?_
      rw [Prog.embedCall_bind, Prog.embedCall_throwIf]
      refine .throwIf_bind fun _ => ?_
      rw [Prog.embedCall_stmt_bind]
      refine .stmt_bind trivial fun existing => ?_
      rw [Prog.embedCall_bind, Prog.embedCall_throwIf]
      refine .throwIf_bind fun _ => rated_permitted ho rfl (fun _ => trivial) fun review p hp => ?_
      cases List.mem_singleton.mp hp
  | updateReview customerId reviewId dto =>
      unfold review Reviews.program Reviews.updateReview Reviews.ReviewRepository.findById
      rw [Prog.embedCall_stmt_bind]
      refine .stmt_bind trivial fun found => ?_
      rw [Prog.embedCall_bind, Prog.embedCall_orThrow]
      refine .orThrow_bind fun review _ => ?_
      rw [Prog.embedCall_bind, Prog.embedCall_throwIf]
      refine .throwIf_bind fun _ => ?_
      rw [Prog.embedCall_ite]
      split
      · refine rated_permitted ho rfl (fun _ => trivial) fun review p hp => ?_
        cases List.mem_singleton.mp hp
      · rw [Reviews.ReviewRepository.update, Prog.embedCall_stmt_bind]
        exact .stmt_bind trivial fun _ => trivial

theorem program_permits (js : Builtins) (o : Op) :
    Obeys (Permits o) (fun _ _ => True) [] (program js o) := by
  show Permitted o [] (program js o)
  cases o with
  | createProfile id locationId now userId dto => exact (createProfile_permitted rfl).map
  | updateOwnProfile now userId dto => exact (updateOwnProfile_permitted rfl).map
  | uploadDocument id now userId documentType stored => exact (uploadDocument_permitted rfl).map
  | createOffering id now providerId dto => exact (createOffering_permitted rfl).map
  | updateOffering now providerId id dto => exact (edit_permitted .updated).map
  | removeOffering now providerId id => exact (edit_permitted .removed).map
  | verifyProvider r id =>
      refine .map (findOne_permitted fun existing h => changeStatus_permitted .verified ?_ ?_)
      · intro text htext
        cases htext
      · exact fun _ => .verified
  | rejectProvider r id reason =>
      refine .map (findOne_permitted fun existing h => changeStatus_permitted .rejected ?_ ?_)
      · intro text htext
        cases htext
        exact .rejected
      · intro hstatus
        cases hstatus
  | suspendProvider r id =>
      refine .map (findOne_permitted fun existing h => .throwIf_bind fun _ =>
        changeStatus_permitted .suspended ?_ ?_)
      · intro text htext
        cases htext
      · intro hstatus
        cases hstatus
  | getPublicProfileById now providerId => exact getPublicProfileById_permitted.map
  | searchPublicProviders now queryDto => exact searchPublicProviders_permitted.map
  | review now r => exact (review_permitted rfl).map

end

/-! ## What stays as it is -/

/-- The id of a row, whose it is, and the file or the service that it is of. -/
def Row.fixed : Row → Option (Uuid × Uuid × String)
  | .provider p => some (p.id, p.userId, "")
  | .document d => some (d.id, d.providerId, d.fileUrl)
  | .providerService x => some (x.id, x.providerId, x.serviceId)
  | _ => none

/-- The rows are two versions of one. -/
def Continues (r w : Row) : Prop := r.fixed = w.fixed

theorem continues_refl (r : Row) : Continues r r := rfl

theorem continues_trans (r r' r'' : Row) (h : Continues r r') (h' : Continues r' r'') :
    Continues r r'' := Eq.trans h h'

theorem document_free {db : Db} {d d' : ProviderDocument} (h : db.insertDocument d = .ok d') :
    db.documents.find? d.id = none := by
  unfold Db.insertDocument at h
  split at h
  · cases h
  rename_i hfree
  exact Option.not_isSome_iff_eq_none.mp hfree

theorem fixed_of_free {db : Db} {w : Row} (hw : w.fixed = none) :
    db.get w.key = none ∨ ∃ r, db.get w.key = some r ∧ Continues r w := by
  cases hr : db.get w.key with
  | none => exact Or.inl rfl
  | some r =>
      refine Or.inr ⟨r, rfl, Eq.trans ?_ hw.symm⟩
      cases w with
      | provider p => cases hw
      | document d => cases hw
      | providerService x => cases hw
      | entry key e =>
          cases hr
          rfl
      | version n =>
          cases hr
          rfl
      | _ =>
          obtain ⟨x, _, rfl⟩ := Option.map_eq_some_iff.mp hr
          rfl

theorem fixed_of_provider {db : Db} {id : Uuid} {p q : ProviderProfile}
    (hp : db.providers.find? id = some p) (hq : Continues (.provider p) (.provider q)) :
    db.get (.provider q.id) = none ∨
      ∃ r, db.get (.provider q.id) = some r ∧ Continues r (.provider q) := by
  obtain rfl := Table.key_of_find? hp
  have hid : q.id = p.id := congrArg Prod.fst (Option.some.inj hq.symm)
  refine Or.inr ⟨.provider p, ?_, hq⟩
  rw [hid, Db.get, hp]
  rfl

/-- A row that is written over another one is of the same owner. -/
theorem fixed_of_written {s : Stmt} {db : Db} {a : Ans s} (hexec : db.exec s = .ok a) {w : Row}
    (hw : w ∈ s.written a) :
    db.get w.key = none ∨ ∃ r, db.get w.key = some r ∧ Continues r w := by
  cases s with
  | createProvider p l =>
      obtain ⟨hp, hfree, _⟩ := Db.insertProvider_ok hexec
      cases hp
      rcases List.mem_cons.mp hw with rfl | hw
      · exact Or.inl (Option.map_eq_none_iff.mpr hfree)
      · cases List.mem_singleton.mp hw
        exact fixed_of_free rfl
  | updateProvider now id data =>
      obtain ⟨p, hp, rfl⟩ := Db.updateProvider_ok hexec
      rcases List.mem_cons.mp hw with rfl | hw
      · exact fixed_of_provider hp rfl
      · obtain ⟨l, _, rfl⟩ := List.mem_map.mp hw
        exact fixed_of_free rfl
  | setVerification now id status =>
      obtain ⟨p, hp, rfl⟩ := Reviews.written_of_update hexec
      cases List.mem_singleton.mp hw
      exact fixed_of_provider hp rfl
  | updateStats now id averageRating totalReviews =>
      obtain ⟨p, hp, rfl⟩ := Db.updateStats_ok hexec
      cases List.mem_singleton.mp hw
      exact fixed_of_provider hp rfl
  | createDocument d =>
      cases Db.insertDocument_ok hexec
      cases List.mem_singleton.mp hw
      exact Or.inl (Option.map_eq_none_iff.mpr (document_free hexec))
  | updateDocuments providerId data =>
      cases hexec
      simp only [Stmt.written, List.map_map, List.mem_map, Function.comp_def] at hw
      obtain ⟨d, hd, rfl⟩ := hw
      have hmem : d ∈ db.documents.rows := (List.mem_filter.mp hd).1
      exact Or.inr ⟨.document d, Option.map_eq_some_iff.mpr ⟨d, Table.find?_of_mem hmem, rfl⟩, rfl⟩
  | createOffering x =>
      obtain ⟨hx, hfree⟩ := Db.insertOffering_ok hexec
      cases hx
      cases List.mem_singleton.mp hw
      exact Or.inl (Option.map_eq_none_iff.mpr hfree)
  | updateOffering now id data =>
      obtain ⟨x, hx, rfl⟩ := Db.updateOffering_ok hexec
      cases List.mem_singleton.mp hw
      obtain rfl := Table.key_of_find? hx
      exact Or.inr ⟨.providerService x, Option.map_eq_some_iff.mpr ⟨x, hx, rfl⟩, rfl⟩
  | createReview r | updateReview id data | createAudit a | redisSet now key value ttl | redisDel key
  | redisIncr =>
      cases List.mem_singleton.mp hw
      exact fixed_of_free rfl
  | _ => exact absurd hw List.not_mem_nil

/-! ## Runs -/

section
variable {js : Builtins} {db : Db} {Ok : System → Event Op Exn → Prop} {c c' : System} {P : Caller}

/-- A row stays, and is of the same owner. -/
theorem fixed_of_run (hrun : Run (program js) Ok ⟨db, []⟩ c) (hrun' : Run (program js) Ok c c')
    {k : Key} {r : Row} (hr : c.db.get k = some r) : ∃ r', c'.db.get k = some r' ∧ Continues r r' :=
  Run.related continues_refl continues_trans rfl (fun _ _ _ hver _ =>
    hver.writesIn continues_trans fun _ _ _ hexec _ hw => fixed_of_written hexec hw) hrun hrun' hr

theorem provider_of_run (hrun : Run (program js) Ok ⟨db, []⟩ c) (hrun' : Run (program js) Ok c c')
    {id : Uuid} {p : ProviderProfile} (hp : c.db.providers.find? id = some p) :
    ∃ q, c'.db.providers.find? id = some q ∧ q.userId = p.userId := by
  obtain ⟨r, hr, hfixed⟩ := fixed_of_run hrun hrun' (k := .provider id) (r := .provider p)
    (Option.map_eq_some_iff.mpr ⟨p, hp, rfl⟩)
  obtain ⟨q, hq, rfl⟩ := Option.map_eq_some_iff.mp hr
  simp only [Continues, Row.fixed, Option.some.injEq, Prod.mk.injEq] at hfixed
  exact ⟨q, hq, hfixed.2.1.symm⟩

theorem document_of_run (hrun : Run (program js) Ok ⟨db, []⟩ c) (hrun' : Run (program js) Ok c c')
    {id : Uuid} {d : ProviderDocument} (hd : c.db.documents.find? id = some d) :
    ∃ d', c'.db.documents.find? id = some d' ∧ d'.providerId = d.providerId ∧
      d'.fileUrl = d.fileUrl := by
  obtain ⟨r, hr, hfixed⟩ := fixed_of_run hrun hrun' (k := .document id) (r := .document d)
    (Option.map_eq_some_iff.mpr ⟨d, hd, rfl⟩)
  obtain ⟨d', hd', rfl⟩ := Option.map_eq_some_iff.mp hr
  simp only [Continues, Row.fixed, Option.some.injEq, Prod.mk.injEq] at hfixed
  exact ⟨d', hd', hfixed.2.1.symm, hfixed.2.2.symm⟩

theorem offering_of_run (hrun : Run (program js) Ok ⟨db, []⟩ c) (hrun' : Run (program js) Ok c c')
    {id : Uuid} {x : ProviderService} (hx : c.db.providerServices.find? id = some x) :
    ∃ y, c'.db.providerServices.find? id = some y ∧ y.providerId = x.providerId := by
  obtain ⟨r, hr, hfixed⟩ := fixed_of_run hrun hrun' (k := .providerService id)
    (r := .providerService x) (Option.map_eq_some_iff.mpr ⟨x, hx, rfl⟩)
  obtain ⟨y, hy, rfl⟩ := Option.map_eq_some_iff.mp hr
  simp only [Continues, Row.fixed, Option.some.injEq, Prod.mk.injEq] at hfixed
  exact ⟨y, hy, hfixed.2.1.symm⟩

theorem permitted_of_run (hrun : Run (program js) Ok ⟨db, []⟩ c) (hP : P ∈ c.procs) :
    Obeyed (Permits P.op) P.hist :=
  hrun.obeyed (R := fun _ _ _ => True) (fun _ o _ => program_permits js o) rfl P hP

/-- Only a review opens a transaction. -/
theorem outside_of_run (hrun : Run (program js) Ok ⟨db, []⟩ c) (hP : P ∈ c.procs)
    (hop : ∀ now r, P.op ≠ .review now r) {h : CallHist} (hsuffix : h <:+ P.hist) :
    sinceBegin h = none := by
  refine outside_of_obeyed ?_ (permitted_of_run hrun hP) hsuffix
  rintro h ⟨now, r, hreview⟩
  exact hop now r hreview

/-- What a call is about to commit outside a transaction, it finds committed. -/
theorem exec_of_committing (hrun : Run (program js) Ok ⟨db, []⟩ c) (hP : P ∈ c.procs)
    (hop : ∀ now r, P.op ≠ .review now r) {s : Stmt} {a : Ans s} (hcommits : Committing c.db P s a) :
    c.db.exec s = .ok a := by
  rcases hcommits with hopen | ⟨_, _, hexec⟩
  · rw [outside_of_run hrun hP hop List.suffix_rfl] at hopen
    exact absurd hopen List.not_mem_nil
  · exact hexec

/-- The profile that was found by its user is there still. -/
theorem profile_of_read (hrun : Run (program js) Ok ⟨db, []⟩ c) (hP : P ∈ c.procs)
    (hop : ∀ now r, P.op ≠ .review now r) {userId : Uuid} {p : ProviderProfile}
    (hmem : ⟨.stmt (.findByUserId userId), .ok (some p)⟩ ∈ P.hist) :
    ∃ q, c.db.providers.find? p.id = some q ∧ q.userId = userId := by
  obtain ⟨h, hsuffix, _⟩ := (permitted_of_run hrun hP).of_mem hmem
  obtain ⟨c₁, hrun₁, hrun₂, hexec⟩ := hrun.seen rfl hP hsuffix
    (outside_of_run hrun hP hop ((List.suffix_cons _ _).trans hsuffix))
  have hfind : c₁.db.providers.rows.find? (·.userId == userId) = some p := Except.ok.inj hexec
  have huser : p.userId = userId := eq_of_beq (List.find?_some hfind :)
  obtain ⟨q, hq, hsame⟩ := provider_of_run hrun₁ hrun₂
    (Table.find?_of_mem (List.mem_of_find?_eq_some hfind))
  exact ⟨q, hq, hsame.trans huser⟩

/-- The offering that was found is there still. -/
theorem offering_of_read (hrun : Run (program js) Ok ⟨db, []⟩ c) (hP : P ∈ c.procs)
    (hop : ∀ now r, P.op ≠ .review now r) {id : Uuid} {x : ProviderService}
    (hmem : ⟨.stmt (.findOffering id), .ok (some x)⟩ ∈ P.hist) :
    ∃ y, c.db.providerServices.find? id = some y ∧ y.providerId = x.providerId := by
  obtain ⟨h, hsuffix, _⟩ := (permitted_of_run hrun hP).of_mem hmem
  obtain ⟨c₁, hrun₁, hrun₂, hexec⟩ := hrun.seen rfl hP hsuffix
    (outside_of_run hrun hP hop ((List.suffix_cons _ _).trans hsuffix))
  exact offering_of_run hrun₁ hrun₂ (Except.ok.inj hexec)

/-- While the transaction of a review is open, the profile it has rated is
committed as the transaction has found it. -/
theorem rated_of_run (hrun : Run (program js) Ok ⟨db, []⟩ c) (hP : P ∈ c.procs) {now : Time}
    {id : Uuid} {averageRating : ℚ} {totalReviews : Nat} {p : ProviderProfile}
    (hopen : (⟨.updateStats now id averageRating totalReviews, p⟩ : (s : Stmt) × Ans s) ∈
      (sinceBegin P.hist).getD []) :
    ∃ q, c.db.providers.find? p.id = some q ∧ p = withStats now averageRating totalReviews q := by
  have hlocked := hrun.locked (L := fun s _ r found => ∀ now id averageRating totalReviews p,
      s = .updateStats now id averageRating totalReviews → r = .provider p →
      ∃ q, found = some (.provider q) ∧ p = withStats now averageRating totalReviews q) rfl <| by
    rintro c n P s k a hrun _ hP hk hexec r hr now id averageRating totalReviews p rfl rfl
    have hmem := List.mem_of_getElem? hP
    have hobeys := hrun.obeys (R := fun _ _ _ => True) (fun _ o _ => program_permits js o) rfl P hmem
    rw [hk] at hobeys
    obtain ⟨_, hnone⟩ := hobeys.1
    obtain ⟨q, hq, rfl⟩ := Db.updateStats_ok hexec
    cases List.mem_singleton.mp hr
    refine ⟨q, ?_, rfl⟩
    -- it has not written the profile before, so it sees the committed one
    have hview : Txn.Database.get (view c.db P) (Key.provider q.id) = some (Row.provider q) := by
      obtain rfl := Table.key_of_find? hq
      exact Option.map_eq_some_iff.mpr ⟨q, hq, rfl⟩
    rcases get_puts (Key.provider q.id) P.pending c.db with ⟨v, hv, _, hown⟩ | ⟨_, hcommitted⟩
    · obtain rfl := Option.some.inj (hown.symm.trans hview)
      obtain ⟨x, hx, hwritten⟩ := hrun.written_of_pending rfl hmem hv
      exact absurd hwritten (hnone x hx q)
    · exact hcommitted.symm.trans hview
  obtain ⟨q, hq, hp⟩ := hlocked P hP _ hopen (.provider p) List.mem_cons_self _ _ _ _ p rfl rfl
  obtain ⟨q', hq', heq⟩ := Option.map_eq_some_iff.mp hq
  cases heq
  exact ⟨q, hq', hp⟩

end

/-! ## Who may write -/

/-- The call may write the profile over the one that is stored, if one is. -/
inductive ProfileAuthority (op : Op) : Option ProviderProfile → ProviderProfile → Prop where
  | created {id locationId : Uuid} {now : Time} {userId : Uuid} {dto : CreateProviderDto} :
      op = .createProfile id locationId now userId dto →
      ProfileAuthority op none (ProviderRepository.newProfile id now userId dto)
  | edited {now : Time} {dto : UpdateProviderDto} {p : ProviderProfile} :
      op = .updateOwnProfile now p.userId dto →
      ProfileAuthority op (some p) ((ProviderRepository.updateData dto).on now p)
  | decided {r : AdminProviderService.Request} {status : VerificationStatus} {p : ProviderProfile} :
      Decides op r p.id status →
      ProfileAuthority op (some p) { p with verificationStatus := status, updatedAt := r.now }
  | rated {now : Time} {r : Reviews.Op} {averageRating : ℚ} {totalReviews : Nat}
      {p : ProviderProfile} : op = .review now r →
      ProfileAuthority op (some p) (withStats now averageRating totalReviews p)

inductive DocumentAuthority (db : Db) (op : Op) : Option ProviderDocument → ProviderDocument → Prop where
  | uploaded {id : Uuid} {now : Time} {documentType : DocumentType} {fileUrl : String}
      {p : ProviderProfile} : op = .uploadDocument id now p.userId documentType (.ok fileUrl) →
      db.providers.find? p.id = some p →
      DocumentAuthority db op none (ProviderService.newDocument id now p.id documentType fileUrl)
  | decided {data : DocumentUpdate} {d : ProviderDocument} : Marks op d.providerId data →
      DocumentAuthority db op (some d) (data.on d)

inductive OfferingAuthority (op : Op) : Option ProviderService → ProviderService → Prop where
  | created {id : Uuid} {now : Time} {providerId : Uuid} {dto : CreateProviderServiceDto} :
      op = .createOffering id now providerId dto →
      OfferingAuthority op none (ProviderServiceRepository.newOffering id now providerId dto)
  | edited {now : Time} {data : OfferingUpdate} {x : ProviderService} :
      Edits op now x.providerId x.id data → OfferingAuthority op (some x) (data.on now x)

section
variable {js : Builtins} {db : Db} {Ok : System → Event Op Exn → Prop} {c : System} {P : Caller}
  {h : CallHist} {s : Stmt} {a : Ans s}

/-- A profile is written by whom it is to be. -/
theorem profile_of_committing (hrun : Run (program js) Ok ⟨db, []⟩ c) (hP : P ∈ c.procs)
    (hcommits : Committing c.db P s a) {p : ProviderProfile} (hw : Row.provider p ∈ s.written a)
    (hsuffix : h <:+ P.hist) (hpermits : Permits P.op h (.stmt s)) :
    ProfileAuthority P.op (c.db.providers.find? p.id) p := by
  cases s with
  | createProvider p₀ l =>
      obtain ⟨now, userId, dto, hop, hp⟩ := hpermits
      have hexec := exec_of_committing hrun hP (fun _ _ hr => by cases hop.symm.trans hr) hcommits
      obtain ⟨ha, hfree, _⟩ := Db.insertProvider_ok hexec
      cases ha
      rcases List.mem_cons.mp hw with hw | hw
      · cases hw
        rw [hfree, hp]
        exact .created hop
      · cases List.mem_singleton.mp hw
  | updateProvider now id data =>
      obtain ⟨userId, dto, p₀, hop, hmem, rfl, rfl⟩ := hpermits
      have hreview : ∀ now r, P.op ≠ .review now r := fun _ _ hr => by cases hop.symm.trans hr
      obtain ⟨q, hq, hown⟩ := profile_of_read hrun hP hreview (hsuffix.subset hmem)
      obtain ⟨q', hq', ha⟩ := Db.updateProvider_ok (exec_of_committing hrun hP hreview hcommits)
      cases ha
      obtain rfl := Option.some.inj (hq.symm.trans hq')
      rcases List.mem_cons.mp hw with hw | hw
      · cases hw
        have hid := Table.key_of_find? hq
        have hfind : c.db.providers.find? q.id = some q := hid.symm ▸ hq
        rw [show c.db.providers.find? (((ProviderRepository.updateData dto).on now q).id) = some q
          from hfind]
        exact .edited (hown.symm ▸ hop)
      · obtain ⟨_, _, hl⟩ := List.mem_map.mp hw
        cases hl
  | setVerification now id status =>
      obtain ⟨r, hdecides, rfl⟩ := hpermits
      have hreview : ∀ now r, P.op ≠ .review now r := by
        intro now' r' hr
        rw [hr] at hdecides
        cases hdecides
      obtain ⟨q, hq, rfl⟩ := Reviews.written_of_update (exec_of_committing hrun hP hreview hcommits)
      cases List.mem_singleton.mp hw
      have hid := Table.key_of_find? hq
      rw [show c.db.providers.find? q.id = some q from hid.symm ▸ hq]
      exact .decided (hid.symm ▸ hdecides)
  | updateStats now id averageRating totalReviews =>
      obtain ⟨⟨r, hop⟩, _⟩ := hpermits
      cases List.mem_singleton.mp hw
      rcases hcommits with hopen | ⟨_, _, hexec⟩
      · obtain ⟨q, hq, hp⟩ := rated_of_run hrun hP hopen
        rw [hq, hp]
        exact .rated hop
      · obtain ⟨q, hq, rfl⟩ := Db.updateStats_ok hexec
        obtain rfl := Table.key_of_find? hq
        rw [show c.db.providers.find? (withStats now averageRating totalReviews q).id = some q from hq]
        exact .rated hop
  | _ => simp [Stmt.written] at hw

theorem document_of_committing (hrun : Run (program js) Ok ⟨db, []⟩ c) (hP : P ∈ c.procs)
    (hcommits : Committing c.db P s a) {d : ProviderDocument} (hw : Row.document d ∈ s.written a)
    (hsuffix : h <:+ P.hist) (hpermits : Permits P.op h (.stmt s)) :
    DocumentAuthority c.db P.op (c.db.documents.find? d.id) d := by
  cases s with
  | createDocument d₀ =>
      obtain ⟨now, userId, documentType, fileUrl, p, hop, hmem, hd⟩ := hpermits
      have hreview : ∀ now r, P.op ≠ .review now r := fun _ _ hr => by cases hop.symm.trans hr
      obtain ⟨q, hq, rfl⟩ := profile_of_read hrun hP hreview (hsuffix.subset hmem)
      have hexec := exec_of_committing hrun hP hreview hcommits
      cases Db.insertDocument_ok hexec
      cases List.mem_singleton.mp hw
      rw [document_free hexec, hd, ← Table.key_of_find? hq]
      exact .uploaded hop ((Table.key_of_find? hq) ▸ hq)
  | updateDocuments providerId data =>
      have hreview : ∀ now r, P.op ≠ .review now r := by
        intro now r hr
        have hmarks : Marks P.op providerId data := hpermits
        rw [hr] at hmarks
        cases hmarks
      cases exec_of_committing hrun hP hreview hcommits
      simp only [Stmt.written, List.map_map, List.mem_map, Function.comp_def,
        Row.document.injEq] at hw
      obtain ⟨d₀, hd₀, rfl⟩ := hw
      obtain ⟨hmem, hown⟩ := List.mem_filter.mp hd₀
      rw [show c.db.documents.find? (data.on d₀).id = some d₀ from Table.find?_of_mem hmem]
      exact .decided ((eq_of_beq hown).symm ▸ hpermits)
  | _ => simp [Stmt.written] at hw

theorem offering_of_committing (hrun : Run (program js) Ok ⟨db, []⟩ c) (hP : P ∈ c.procs)
    (hcommits : Committing c.db P s a) {x : ProviderService}
    (hw : Row.providerService x ∈ s.written a) (hsuffix : h <:+ P.hist)
    (hpermits : Permits P.op h (.stmt s)) :
    OfferingAuthority P.op (c.db.providerServices.find? x.id) x := by
  cases s with
  | createOffering x₀ =>
      obtain ⟨now, dto, hop, hx⟩ := hpermits
      have hexec := exec_of_committing hrun hP (fun _ _ hr => by cases hop.symm.trans hr) hcommits
      obtain ⟨ha, hfree⟩ := Db.insertOffering_ok hexec
      cases ha
      cases List.mem_singleton.mp hw
      rw [hfree, hx]
      exact .created hop
  | updateOffering now id data =>
      obtain ⟨x₀, hedits, hmem⟩ := hpermits
      have hreview : ∀ now r, P.op ≠ .review now r := by
        intro now r hr
        rw [hr] at hedits
        cases hedits
      obtain ⟨y, hy, hown⟩ := offering_of_read hrun hP hreview (hsuffix.subset hmem)
      obtain ⟨y', hy', rfl⟩ := Db.updateOffering_ok (exec_of_committing hrun hP hreview hcommits)
      obtain rfl := Option.some.inj (hy.symm.trans hy')
      cases List.mem_singleton.mp hw
      have hid := Table.key_of_find? hy
      rw [show c.db.providerServices.find? (data.on now y).id = some y from hid.symm ▸ hy]
      refine .edited ?_
      rw [hown, hid]
      exact hedits
  | _ => simp [Stmt.written] at hw

/-- Who has changed a row in a step. -/
theorem committing_of_next {c' : System} {e : Event Op Exn} (hrun : Run (program js) Ok ⟨db, []⟩ c)
    (hn : Txn.next (program js) c e = some c') {k : Key} {r : Row} (hr : c'.db.get k = some r)
    (hnew : c.db.get k ≠ some r) :
    ∃ (n : Nat) (P : Caller), e = .exec n ∧ c.procs[n]? = some P ∧ P ∈ c.procs ∧
      ∃ (s : Stmt) (a : Ans s), Committing c.db P s a ∧ r ∈ s.written a ∧
        ∃ h, h <:+ P.hist ∧ Permits P.op h (.stmt s) := by
  obtain ⟨n, P, s, a, he, hp, hcommits, hw, _, hpermits⟩ :=
    hrun.changed (program_permits js) rfl hn hr hnew
  exact ⟨n, P, he, hp, List.mem_of_getElem? hp, s, a, hcommits, hw, hpermits⟩

theorem profile_of_next {c' : System} {e : Event Op Exn} (hrun : Run (program js) Ok ⟨db, []⟩ c)
    (hn : Txn.next (program js) c e = some c') {id : Uuid} {p : ProviderProfile}
    (hp : c'.db.providers.find? id = some p) (hnew : c.db.providers.find? id ≠ some p) :
    ∃ (n : Nat) (P : Caller), e = .exec n ∧ c.procs[n]? = some P ∧
      ProfileAuthority P.op (c.db.providers.find? id) p := by
  obtain ⟨n, P, he, hget, hP, s, a, hcommits, hw, h, hsuffix, hpermits⟩ := committing_of_next hrun hn
    (k := .provider id) (r := .provider p) (Option.map_eq_some_iff.mpr ⟨p, hp, rfl⟩)
    (by simpa [Db.get] using hnew)
  rw [← Table.key_of_find? hp]
  exact ⟨n, P, he, hget, profile_of_committing hrun hP hcommits hw hsuffix hpermits⟩

theorem document_of_next {c' : System} {e : Event Op Exn} (hrun : Run (program js) Ok ⟨db, []⟩ c)
    (hn : Txn.next (program js) c e = some c') {id : Uuid} {d : ProviderDocument}
    (hd : c'.db.documents.find? id = some d) (hnew : c.db.documents.find? id ≠ some d) :
    ∃ (n : Nat) (P : Caller), e = .exec n ∧ c.procs[n]? = some P ∧
      DocumentAuthority c.db P.op (c.db.documents.find? id) d := by
  obtain ⟨n, P, he, hget, hP, s, a, hcommits, hw, h, hsuffix, hpermits⟩ := committing_of_next hrun hn
    (k := .document id) (r := .document d) (Option.map_eq_some_iff.mpr ⟨d, hd, rfl⟩)
    (by simpa [Db.get] using hnew)
  rw [← Table.key_of_find? hd]
  exact ⟨n, P, he, hget, document_of_committing hrun hP hcommits hw hsuffix hpermits⟩

theorem offering_of_next {c' : System} {e : Event Op Exn} (hrun : Run (program js) Ok ⟨db, []⟩ c)
    (hn : Txn.next (program js) c e = some c') {id : Uuid} {x : ProviderService}
    (hx : c'.db.providerServices.find? id = some x)
    (hnew : c.db.providerServices.find? id ≠ some x) :
    ∃ (n : Nat) (P : Caller), e = .exec n ∧ c.procs[n]? = some P ∧
      OfferingAuthority P.op (c.db.providerServices.find? id) x := by
  obtain ⟨n, P, he, hget, hP, s, a, hcommits, hw, h, hsuffix, hpermits⟩ := committing_of_next hrun hn
    (k := .providerService id) (r := .providerService x)
    (Option.map_eq_some_iff.mpr ⟨x, hx, rfl⟩) (by simpa [Db.get] using hnew)
  rw [← Table.key_of_find? hx]
  exact ⟨n, P, he, hget, offering_of_committing hrun hP hcommits hw hsuffix hpermits⟩

end

/-- **Whoever changes a profile, a document or an offering may do so**, in every
step of every interleaving. -/
theorem provider_by_authority (js : Builtins) (db : Db) (c c' : System) (e : Event Op Exn)
    (hrun : Run (program js) (fun _ _ => True) ⟨db, []⟩ c)
    (hn : Txn.next (program js) c e = some c') :
    (∀ id p', c'.db.providers.find? id = some p' → c.db.providers.find? id ≠ some p' →
      ∃ (n : Nat) (P : Caller), e = .exec n ∧ c.procs[n]? = some P ∧
        ProfileAuthority P.op (c.db.providers.find? id) p') ∧
    (∀ id d', c'.db.documents.find? id = some d' → c.db.documents.find? id ≠ some d' →
      ∃ (n : Nat) (P : Caller), e = .exec n ∧ c.procs[n]? = some P ∧
        DocumentAuthority c.db P.op (c.db.documents.find? id) d') ∧
    ∀ id x', c'.db.providerServices.find? id = some x' → c.db.providerServices.find? id ≠ some x' →
      ∃ (n : Nat) (P : Caller), e = .exec n ∧ c.procs[n]? = some P ∧
        OfferingAuthority P.op (c.db.providerServices.find? id) x' :=
  ⟨fun _ _ hp' hnew => profile_of_next hrun hn hp' hnew,
    fun _ _ hd' hnew => document_of_next hrun hn hd' hnew,
    fun _ _ hx' hnew => offering_of_next hrun hn hx' hnew⟩

/-! ## A review, an upload and an edit -/

namespace Sample

/-- Alice reviews the booking that was completed; her transaction is about to be
committed. -/
def rating : List (Event Op Exn) :=
  .spawn (.review 0 (.createReview "r" 0 "alice" ⟨some "booking", 4, none, by decide, by decide⟩ none)) ::
    steps 0 6

/-- The owner is about to upload a document, and an administrator suspends the
profile that was found. -/
def attaching : List (Event Op Exn) :=
  [.spawn (.uploadDocument "d" 0 "owner" .gst (.ok "/uploads/documents/d.pdf")), .exec 0,
    .spawn (.suspendProvider ⟨"a", 0, some "admin"⟩ "provider"), .exec 1, .exec 0, .exec 1]

/-- The owner is about to raise a price, and the offering that was found is
removed. -/
def repricing : List (Event Op Exn) :=
  [.spawn (.updateOffering 1 "provider" "offering"
      { price := some 600, durationMinutes_pos := OfferingUpdate.no_duration }), .exec 0,
    .spawn (.removeOffering 2 "provider" "offering"), .exec 1, .exec 1]

/-- The step after a run, by which a row comes to have a property. -/
theorem exists_step {α : Type} (find : Db → Option α) (test : α → Bool) (es : List (Event Op Exn))
    (h : ((runChecked (program js) (fun _ _ => True) ⟨db, []⟩ es).any fun c =>
      (Txn.next (program js) c (.exec 0)).any fun c' =>
        !(find c.db).any test && (find c'.db).any test) = true) :
    ∃ (c c' : System) (x : α), runChecked (program js) (fun _ _ => True) ⟨db, []⟩ es = some c ∧
      Txn.next (program js) c (.exec 0) = some c' ∧ find c'.db = some x ∧ test x = true ∧
      find c.db ≠ some x := by
  obtain ⟨c, hc, hstep⟩ := (Option.any_eq_true _ _).mp h
  obtain ⟨c', hn, hboth⟩ := (Option.any_eq_true _ _).mp hstep
  obtain ⟨hbefore, hafter⟩ := Bool.and_eq_true_iff.mp hboth
  obtain ⟨x, hx, htest⟩ := (Option.any_eq_true _ _).mp hafter
  refine ⟨c, c', x, hc, hn, hx, htest, fun hsame => ?_⟩
  rw [hsame, Option.any_some, htest] at hbefore
  cases hbefore

end Sample

/-- The commit changes the rating of the profile; the upload adds a document; the
price of the offering is raised although it was removed. -/
theorem provider_by_authority_sample :
    (∃ (c c' : System) (p' : ProviderProfile),
      runChecked (program Sample.js) (fun _ _ => True) ⟨Sample.db, []⟩ Sample.rating = some c ∧
      Txn.next (program Sample.js) c (.exec 0) = some c' ∧
      c'.db.providers.find? "provider" = some p' ∧ (p'.averageRating == 4) = true ∧
      ∃ (n : Nat) (P : Caller), (Event.exec 0 : Event Op Exn) = .exec n ∧ c.procs[n]? = some P ∧
        ProfileAuthority P.op (c.db.providers.find? "provider") p') ∧
    (∃ (c c' : System) (d' : ProviderDocument),
      runChecked (program Sample.js) (fun _ _ => True) ⟨Sample.db, []⟩ Sample.attaching = some c ∧
      Txn.next (program Sample.js) c (.exec 0) = some c' ∧
      c'.db.documents.find? "d" = some d' ∧ (d'.providerId == "provider") = true ∧
      ∃ (n : Nat) (P : Caller), (Event.exec 0 : Event Op Exn) = .exec n ∧ c.procs[n]? = some P ∧
        DocumentAuthority c.db P.op (c.db.documents.find? "d") d') ∧
    ∃ (c c' : System) (x' : ProviderService),
      runChecked (program Sample.js) (fun _ _ => True) ⟨Sample.db, []⟩ Sample.repricing = some c ∧
      Txn.next (program Sample.js) c (.exec 0) = some c' ∧
      c'.db.providerServices.find? "offering" = some x' ∧
      (x'.price == 600 && !x'.isActive) = true ∧
      ∃ (n : Nat) (P : Caller), (Event.exec 0 : Event Op Exn) = .exec n ∧ c.procs[n]? = some P ∧
        OfferingAuthority P.op (c.db.providerServices.find? "offering") x' := by
  refine ⟨?_, ?_, ?_⟩
  · obtain ⟨c, c', p', hc, hn, hp', htest, hnew⟩ := Sample.exists_step
      (fun db => db.providers.find? "provider") (·.averageRating == 4) Sample.rating
      (by decide +kernel)
    exact ⟨c, c', p', hc, hn, hp', htest, (provider_by_authority Sample.js Sample.db c c'
      (.exec 0) (Run.of_runChecked _ _ hc) hn).1 "provider" p' hp' hnew⟩
  · obtain ⟨c, c', d', hc, hn, hd', htest, hnew⟩ := Sample.exists_step
      (fun db => db.documents.find? "d") (·.providerId == "provider") Sample.attaching
      (by decide +kernel)
    exact ⟨c, c', d', hc, hn, hd', htest, (provider_by_authority Sample.js Sample.db c c'
      (.exec 0) (Run.of_runChecked _ _ hc) hn).2.1 "d" d' hd' hnew⟩
  · obtain ⟨c, c', x', hc, hn, hx', htest, hnew⟩ := Sample.exists_step
      (fun db => db.providerServices.find? "offering") (fun x => x.price == 600 && !x.isActive)
      Sample.repricing (by decide +kernel)
    exact ⟨c, c', x', hc, hn, hx', htest, (provider_by_authority Sample.js Sample.db c c'
      (.exec 0) (Run.of_runChecked _ _ hc) hn).2.2 "offering" x' hx' hnew⟩

end ServiceHub.Providers
