/-
# `Providers.Uniqueness` — one business name, one document of each type

A profile is created, or renamed, after a query that finds nobody else with the
name; a document is inserted after a query that finds none of its type.  No
index stands behind either query.

**What fails.**  Two users that create a profile of one name at once both find
nobody, and so do a creation and a renaming; two uploads of one document both
find none (`not_provider_unique`).

**What holds.**  A call that is about to write has checked in the step before
(`program_vetted`), so that nothing stands between its check and its write but
what the others do meanwhile.  In runs in which nobody writes what such a call is
about to write (`Undisturbed`), what it has found is true until it writes
(`Cleared.next`); no two profiles have one name, and no provider has two documents
of one type (`provider_unique`).

**How a name is compared.**  `SameName` is equality ignoring case, and the query
finds a name by `Engine.equalsInsensitive`, an `ILIKE` in which a backslash
escapes and `%` and `_` match anything.  `Undisturbed` asks of a search for a name
that another user has that it comes upon another user's profile.
-/
import ServiceHub.Providers.Authority
import ServiceHub.Txn.Views

namespace ServiceHub.Providers

open Data Txn

section
variable (js : Builtins)

/-- The names are equal ignoring case. -/
def SameName (a b : String) : Prop := js.toLowerCase a = js.toLowerCase b

instance (a b : String) : Decidable (SameName js a b) :=
  inferInstanceAs (Decidable (js.toLowerCase a = js.toLowerCase b))

/-- Two profiles of one user or of one name, or two documents of one provider and
type. -/
def Collides : Row → Row → Prop
  | .provider p, .provider q =>
      p.id ≠ q.id ∧ (p.userId = q.userId ∨ SameName js p.businessName q.businessName)
  | .document d, .document e =>
      d.id ≠ e.id ∧ d.providerId = e.providerId ∧ d.documentType = e.documentType
  | _, _ => False

theorem collides_comm (r r' : Row) (h : Collides js r r') : Collides js r' r := by
  cases r <;> cases r' <;> try exact h.elim
  · exact ⟨Ne.symm h.1, h.2.imp Eq.symm Eq.symm⟩
  · exact ⟨Ne.symm h.1, h.2.1.symm, h.2.2.symm⟩

end

/-! ## What a statement claims -/

/-- The user in whose name a profile is created or renamed. -/
def Op.user : Op → Option Uuid
  | .createProfile _ _ _ userId _ => some userId
  | .updateOwnProfile _ userId _ => some userId
  | _ => none

/-- The name that the statement writes. -/
def Stmt.names : Stmt → Option String
  | .createProvider p _ => some p.businessName
  | .updateProvider _ _ data => data.businessName
  | _ => none

/-- The name that the statement looks for. -/
def Stmt.searches : Stmt → Option String
  | .findByBusinessName name => some name
  | _ => none

/-- The document that the statement inserts. -/
def Stmt.uploads : Stmt → Option ProviderDocument
  | .createDocument d => some d
  | _ => none

/-- The statement that a call issues next. -/
def stmtOf (P : Caller) : Option Stmt :=
  match P.prog.head with
  | some (.stmt s) => some s
  | _ => none

section
variable (js : Builtins)

/-- The statements of two calls write one name for two users, or insert one
document twice. -/
def Contends (o : Op) (s : Stmt) (o' : Op) (s' : Stmt) : Prop :=
  (o.user ≠ o'.user ∧ ∃ name ∈ s.names, ∃ name' ∈ s'.names, SameName js name name') ∨
  ∃ d ∈ s.uploads, ∃ e ∈ s'.uploads, d.providerId = e.providerId ∧ d.documentType = e.documentType

/-- A search for a name that another user has comes upon another user's profile. -/
def Finds (db : Db) (o : Op) (s : Stmt) : Prop :=
  ∀ name ∈ s.searches,
    (∃ p ∈ db.providers.rows, o.user ≠ some p.userId ∧ SameName js name p.businessName) →
      ∃ q ∈ db.providers.rows.find? fun q => db.engine.equalsInsensitive name q.businessName,
        o.user ≠ some q.userId

/-- A search finds what it is for, and nobody writes what another call, between
its own check and its write, is about to write. -/
def Undisturbed (c : System) : Event Op Exn → Prop
  | .exec n => ∀ P ∈ c.procs[n]?, ∀ s ∈ stmtOf P, Finds js c.db P.op s ∧
      (((view c.db P).exec s).isOk = true → ∀ Q ∈ c.procs.eraseIdx n, ∀ s' ∈ stmtOf Q,
        ¬ Contends js P.op s Q.op s')
  | _ => True

instance (o o' : Op) (s s' : Stmt) : Decidable (Contends js o s o' s') :=
  inferInstanceAs (Decidable (_ ∨ _))

instance (db : Db) (o : Op) (s : Stmt) : Decidable (Finds js db o s) :=
  inferInstanceAs (Decidable (∀ name ∈ s.searches, _ → _))

instance (c : System) : ∀ e, Decidable (Undisturbed js c e)
  | .exec n => inferInstanceAs (Decidable (∀ P ∈ c.procs[n]?, ∀ s ∈ stmtOf P, _ ∧ _))
  | .spawn _ => .isTrue trivial
  | .fail _ _ => .isTrue trivial

end

/-- Nobody else has the name, or the provider no document of the type, that the
statement of the call writes. -/
def Clear (js : Builtins) (c : System) (o : Op) (s : Stmt) : Prop :=
  (∀ name ∈ s.names, ∀ p, Present c (.provider p) → o.user ≠ some p.userId →
    ¬ SameName js name p.businessName) ∧
  ∀ d ∈ s.uploads, ∀ e, Present c (.document e) → e.providerId = d.providerId →
    e.documentType ≠ d.documentType

section
variable {db : Db} {s : Stmt} {a : Ans s}

theorem provider_of_get {k : Key} {p : ProviderProfile} (hp : db.get k = some (.provider p)) :
    p ∈ db.providers.rows := by
  cases k with
  | provider id =>
      obtain ⟨q, hq, heq⟩ := Option.map_eq_some_iff.mp hp
      cases heq
      exact Table.mem_of_find? hq
  | _ => simp [Db.get] at hp

theorem document_of_get {k : Key} {d : ProviderDocument} (hd : db.get k = some (.document d)) :
    d ∈ db.documents.rows := by
  cases k with
  | document id =>
      obtain ⟨e, he, heq⟩ := Option.map_eq_some_iff.mp hd
      cases heq
      exact Table.mem_of_find? he
  | _ => simp [Db.get] at hd

/-- A profile that is written is inserted for a user that has none, or goes on
from the one that was there, under its name unless the statement writes one. -/
theorem written_provider (hexec : db.exec s = .ok a) {w : ProviderProfile}
    (hw : .provider w ∈ s.written a) :
    (s.names = some w.businessName ∧ (∃ l, s = .createProvider w l) ∧
      ∀ p ∈ db.providers.rows, p.userId ≠ w.userId) ∨
    ∃ p, db.get (.provider w.id) = some (.provider p) ∧ p.id = w.id ∧ p.userId = w.userId ∧
      (s.names = some w.businessName ∨ p.businessName = w.businessName) := by
  have hfound : ∀ {id : Uuid} {p : ProviderProfile}, db.providers.find? id = some p →
      p.id = id ∧ db.get (.provider p.id) = some (.provider p) := by
    intro id p hp
    obtain rfl := Table.key_of_find? hp
    exact ⟨rfl, Option.map_eq_some_iff.mpr ⟨p, hp, rfl⟩⟩
  cases s with
  | createProvider p l =>
      obtain ⟨hq, _, _⟩ := Db.insertProvider_ok hexec
      have halone := fun r hr => Db.user_ne_of_insertProvider hexec (r := r) hr
      cases hq
      simp only [Stmt.written, List.mem_cons, Row.provider.injEq, reduceCtorEq, List.not_mem_nil,
        or_false] at hw
      subst hw
      exact Or.inl ⟨rfl, ⟨l, rfl⟩, halone⟩
  | updateProvider now id data =>
      obtain ⟨p, hp, rfl⟩ := Db.updateProvider_ok hexec
      simp only [Stmt.written, List.mem_cons, Row.provider.injEq, List.mem_map, reduceCtorEq,
        and_false, exists_false, or_false] at hw
      subst hw
      obtain ⟨rfl, hget⟩ := hfound hp
      refine Or.inr ⟨p, hget, rfl, rfl, ?_⟩
      cases hname : data.businessName with
      | none => exact Or.inr (by simp [ProviderUpdate.on, hname])
      | some name => exact Or.inl (by simp [Stmt.names, ProviderUpdate.on, hname])
  | setVerification now id status =>
      obtain ⟨p, hp, rfl⟩ := Reviews.written_of_update hexec
      cases List.mem_singleton.mp hw
      obtain ⟨_, hget⟩ := hfound hp
      exact Or.inr ⟨p, hget, rfl, rfl, Or.inr rfl⟩
  | updateStats now providerId averageRating totalReviews =>
      obtain ⟨p, hp, rfl⟩ := Db.updateStats_ok hexec
      cases List.mem_singleton.mp hw
      obtain ⟨_, hget⟩ := hfound hp
      exact Or.inr ⟨p, hget, rfl, rfl, Or.inr rfl⟩
  | _ => simp [Stmt.written] at hw

/-- A document that is written is the one that the statement inserts, or was
there with its provider and type. -/
theorem written_document (hexec : db.exec s = .ok a) {w : ProviderDocument}
    (hw : .document w ∈ s.written a) : s.uploads = some w ∨
      ∃ d, db.get (.document w.id) = some (.document d) ∧ d.id = w.id ∧
        d.providerId = w.providerId ∧ d.documentType = w.documentType := by
  cases s with
  | createDocument d =>
      cases Db.insertDocument_ok hexec
      cases List.mem_singleton.mp hw
      exact Or.inl rfl
  | updateDocuments providerId data =>
      cases hexec
      simp only [Stmt.written, List.map_map, List.mem_map, Function.comp_def, Row.document.injEq] at hw
      obtain ⟨d, hd, rfl⟩ := hw
      have hmem : d ∈ db.documents.rows := (List.mem_filter.mp hd).1
      exact Or.inr ⟨d, Option.map_eq_some_iff.mpr ⟨d, Table.find?_of_mem hmem, rfl⟩, rfl, rfl, rfl⟩
  | _ => simp [Stmt.written] at hw

/-- One statement writes one profile, and documents that it found. -/
theorem not_collides_together {js : Builtins} (hexec : db.exec s = .ok a)
    (hold : ∀ d e : ProviderDocument, db.get (.document d.id) = some (.document d) →
      db.get (.document e.id) = some (.document e) → ¬ Collides js (.document d) (.document e))
    {w w' : Row} (hw : w ∈ s.written a) (hw' : w' ∈ s.written a) : ¬ Collides js w w' := by
  intro hcollides
  cases w <;> cases w' <;> try exact hcollides.elim
  · rename_i p q
    refine hcollides.1 ?_
    cases s <;> simp_all [Stmt.written]
  · rename_i d e
    obtain ⟨hid, hprovider, htype⟩ := hcollides
    rcases written_document hexec hw with hs | ⟨d', hd', hdid, hdp, hdt⟩
    · cases s <;> simp_all [Stmt.uploads, Stmt.written]
    · rcases written_document hexec hw' with hs | ⟨e', he', heid, hep, het⟩
      · cases s <;> simp_all [Stmt.uploads, Stmt.written]
      · exact hold d' e' (hdid ▸ hd') (heid ▸ he')
          ⟨by rw [hdid, heid]; exact hid, by rw [hdp, hep, hprovider], by rw [hdt, het, htype]⟩

end

/-! ## Every write is checked -/

/-- The write follows upon its check. -/
def Vetted (h : CallHist) : Instr Stmt Empty → Prop
  | .stmt (.createProvider p _) =>
      ∃ h', h = ⟨.stmt (.findByBusinessName p.businessName), .ok none⟩ :: h'
  | .stmt (.updateProvider _ id data) => ∀ name ∈ data.businessName, ∃ found h',
      h = ⟨.stmt (.findByBusinessName name), .ok found⟩ :: h' ∧ ∀ q ∈ found, q.id = id
  | .stmt (.createDocument d) =>
      ∃ h', h = ⟨.stmt (.findDocumentByType d.providerId d.documentType), .ok none⟩ :: h'
  | _ => True

section
variable {o : Op} {h : CallHist}

/-- The other requests have nothing to check. -/
theorem vetted_of_permits (huser : o.user = none)
    (hupload : ∀ id now userId documentType stored,
      o ≠ .uploadDocument id now userId documentType stored)
    (h : CallHist) (i : Instr Stmt Empty) (hi : Permits o h i) : Vetted h i := by
  cases i with
  | stmt s =>
      cases s with
      | createProvider p l =>
          obtain ⟨_, _, _, rfl, _⟩ := hi
          cases huser
      | updateProvider now id data =>
          obtain ⟨_, _, _, rfl, _⟩ := hi
          cases huser
      | createDocument d =>
          obtain ⟨_, _, _, _, _, hop, _⟩ := hi
          exact absurd hop (hupload _ _ _ _ _)
      | _ => trivial
  | _ => trivial

theorem createProfile_vetted (id locationId : Uuid) (now : Time) (userId : Uuid)
    (dto : CreateProviderDto) : Obeys Vetted (fun _ _ => True) h
      (ProviderService.createProfile id locationId now userId dto) := by
  refine obeys_bind.mpr (obeys_stmt.mpr ⟨trivial, fun isUserExist => ?_, fun _ => trivial⟩)
  refine obeys_bind.mpr (obeys_stmt.mpr ⟨trivial, fun isDuplicate => ?_, fun _ => trivial⟩)
  refine obeys_bind.mpr (obeys_throwIf.mpr ⟨fun _ => trivial, fun _ => ?_⟩)
  refine obeys_bind.mpr (obeys_throwIf.mpr ⟨fun _ => trivial, fun hduplicate => ?_⟩)
  obtain rfl := Option.not_isSome_iff_eq_none.mp hduplicate
  exact obeys_stmt.mpr ⟨⟨_, rfl⟩, fun _ => trivial, fun _ => trivial⟩

theorem updateOwnProfile_vetted (now : Time) (userId : Uuid) (dto : UpdateProviderDto) :
    Obeys Vetted (fun _ _ => True) h (ProviderService.updateOwnProfile now userId dto) := by
  have hupdate : ∀ (h : CallHist) (profile : ProviderProfile),
      (∀ name ∈ dto.businessName, ∃ found h',
        h = ⟨.stmt (.findByBusinessName name), .ok found⟩ :: h' ∧ ∀ q ∈ found, q.id = profile.id) →
      Obeys Vetted (fun _ _ => True) h (do
        let updated ← autocommit Empty (ProviderRepository.update now profile.id dto)
        invalidate profile.id
        pure updated) := by
    intro h profile hchecked
    refine obeys_bind.mpr (obeys_stmt.mpr ⟨hchecked, fun updated => ?_, fun _ => trivial⟩)
    have hinvalidate := (invalidate_permitted (o := .getPublicProfileById now "")
      (h := ⟨.stmt (.updateProvider now profile.id (ProviderRepository.updateData dto)),
        .ok updated⟩ :: h) profile.id).mono
      (vetted_of_permits rfl fun _ _ _ _ _ => by simp) fun _ _ => id
    exact hinvalidate.bind (fun _ _ => trivial) fun _ _ => trivial
  refine obeys_bind.mpr (obeys_stmt.mpr ⟨trivial, fun found => ?_, fun _ => trivial⟩)
  refine obeys_bind.mpr (obeys_orThrow.mpr ⟨fun _ => trivial, fun profile _ => ?_⟩)
  refine obeys_bind.mpr ?_
  unfold ProviderService.checkBusinessName
  cases hname : dto.businessName with
  | none => exact hupdate _ profile (by simp [hname])
  | some name =>
      rw [Option.filter_some, if_pos (by simpa using dto.businessName_ne name hname)]
      refine obeys_bind.mpr (obeys_stmt.mpr ⟨trivial, fun isDuplicate => ?_, fun _ => trivial⟩)
      refine obeys_throwIf.mpr ⟨fun _ => trivial, fun hduplicate => hupdate _ profile ?_⟩
      intro name' hname'
      obtain rfl := Option.some.inj (hname.symm.trans hname')
      refine ⟨isDuplicate, _, rfl, fun q hq => ?_⟩
      simpa [Option.mem_def.mp hq] using hduplicate

theorem uploadDocument_vetted (id : Uuid) (now : Time) (userId : Uuid)
    (documentType : DocumentType) (stored : Except Exn String) :
    Obeys Vetted (fun _ _ => True) h
      (ProviderService.uploadDocument id now userId documentType stored) := by
  refine obeys_bind.mpr (obeys_stmt.mpr ⟨trivial, fun found => ?_, fun _ => trivial⟩)
  refine obeys_bind.mpr (obeys_orThrow.mpr ⟨fun _ => trivial, fun provider _ => ?_⟩)
  refine obeys_bind.mpr (obeys_stmt.mpr ⟨trivial, fun document => ?_, fun _ => trivial⟩)
  refine obeys_bind.mpr (obeys_throwIf.mpr ⟨fun _ => trivial, fun hdocument => ?_⟩)
  obtain rfl := Option.not_isSome_iff_eq_none.mp hdocument
  cases stored with
  | error e => trivial
  | ok fileUrl => exact obeys_stmt.mpr ⟨⟨_, rfl⟩, fun _ => trivial, fun _ => trivial⟩

/-- **A call writes in the step after its check.** -/
theorem program_vetted (js : Builtins) (o : Op) :
    Obeys Vetted (fun _ _ => True) [] (program js o) := by
  cases o with
  | createProfile id locationId now userId dto => exact (createProfile_vetted ..).map
  | updateOwnProfile now userId dto => exact (updateOwnProfile_vetted ..).map
  | uploadDocument id now userId documentType stored => exact (uploadDocument_vetted ..).map
  | _ =>
      exact (program_permits js _).mono (vetted_of_permits rfl fun _ _ _ _ _ => by simp) fun _ _ => id

end

/-! ## Runs -/

theorem stmtOf_eq {P : Caller} {s : Stmt} (hs : stmtOf P = some s) :
    ∃ k, P.prog = .ask (.stmt s) k := by
  unfold stmtOf at hs
  cases hprog : P.prog with
  | ask i k =>
      rw [hprog] at hs
      cases i with
      | stmt t =>
          cases hs
          exact ⟨k, rfl⟩
      | _ => cases hs
  | _ =>
      rw [hprog] at hs
      cases hs

section
variable {js : Builtins} {db : Db} {Ok : System → Event Op Exn → Prop} {c c' : System}
  {P : Caller} {s : Stmt}

theorem vetted_of_run (hrun : Run (program js) Ok ⟨db, []⟩ c) (hP : P ∈ c.procs)
    (hs : stmtOf P = some s) : Permits P.op P.hist (.stmt s) ∧ Vetted P.hist (.stmt s) := by
  obtain ⟨k, hk⟩ := stmtOf_eq hs
  have hobeys := hrun.obeys (R := fun _ _ _ => True ∧ True)
    (fun _ o _ => (program_permits js o).and (program_vetted js o)) rfl P hP
  rw [hk] at hobeys
  exact hobeys.1

/-- Whoever writes a name or a document has no transaction open. -/
theorem alone_of_writes (hrun : Run (program js) Ok ⟨db, []⟩ c) (hP : P ∈ c.procs)
    (hs : stmtOf P = some s) (hwrites : s.names.isSome ∨ s.uploads.isSome) :
    P.tx = none ∧ ∀ now r, P.op ≠ .review now r := by
  have hreview : ∀ now r, P.op ≠ .review now r := by
    intro now r hop
    obtain ⟨hpermits, _⟩ := vetted_of_run hrun hP hs
    rw [hop] at hpermits
    cases s with
    | createProvider p l =>
        obtain ⟨_, _, _, hop, _⟩ := hpermits
        cases hop
    | updateProvider now id data =>
        obtain ⟨_, _, _, hop, _⟩ := hpermits
        cases hop
    | createDocument d =>
        obtain ⟨_, _, _, _, _, hop, _⟩ := hpermits
        cases hop
    | _ => simp [Stmt.names, Stmt.uploads] at hwrites
  refine ⟨?_, hreview⟩
  rw [hrun.tx_eq rfl P hP, outside_of_run hrun hP hreview List.suffix_rfl]
  rfl

/-- Who writes a profile writes that of its user. -/
theorem user_of_names (hrun : Run (program js) Ok ⟨db, []⟩ c) (hP : P ∈ c.procs)
    (hs : stmtOf P = some s) {name : String} (hname : s.names = some name) :
    (∃ p l, s = .createProvider p l ∧ P.op.user = some p.userId) ∨
    ∃ now id data q, s = .updateProvider now id data ∧ c.db.providers.find? id = some q ∧
      P.op.user = some q.userId := by
  obtain ⟨hpermits, _⟩ := vetted_of_run hrun hP hs
  have hreview := (alone_of_writes hrun hP hs (Or.inl (by simp [hname]))).2
  cases s with
  | createProvider p l =>
      obtain ⟨now, userId, dto, hop, hp⟩ := hpermits
      exact Or.inl ⟨p, l, rfl, by rw [hop, hp]; rfl⟩
  | updateProvider now id data =>
      obtain ⟨userId, dto, p, hop, hmem, rfl, _⟩ := hpermits
      obtain ⟨q, hq, huser⟩ := profile_of_read hrun hP hreview hmem
      exact Or.inr ⟨now, p.id, data, q, rfl, hq, by rw [hop, huser]; rfl⟩
  | _ => cases hname

/-- What is pending is of the transaction of a review. -/
theorem pending_of_run (hrun : Run (program js) Ok ⟨db, []⟩ c) (hP : P ∈ c.procs) {w : Row}
    (hw : w ∈ P.pending) : ∃ s a now r h, (⟨s, a⟩ : (s : Stmt) × Ans s) ∈ (sinceBegin P.hist).getD [] ∧
      w ∈ s.written a ∧ Permits (.review now r) h (.stmt s) := by
  obtain ⟨⟨s, a⟩, hopen, hwritten⟩ := hrun.written_of_pending rfl hP hw
  obtain ⟨h, _, hpermits, _⟩ := (permitted_of_run hrun hP).of_open hopen
  by_cases hreview : ∃ now r, P.op = .review now r
  · obtain ⟨now, r, hop⟩ := hreview
    exact ⟨s, a, now, r, h, hopen, hwritten, hop ▸ hpermits⟩
  · rw [outside_of_run hrun hP (fun now r hop => hreview ⟨now, r, hop⟩) List.suffix_rfl] at hopen
    cases hopen

/-- A profile that is present is committed under its name. -/
theorem committed_of_present (hrun : Run (program js) Ok ⟨db, []⟩ c) {p : ProviderProfile}
    (hp : Present c (.provider p)) : ∃ q ∈ c.db.providers.rows, q.userId = p.userId ∧
      q.businessName = p.businessName := by
  rcases hp with ⟨k, hp⟩ | ⟨P, hP, hp⟩
  · exact ⟨p, provider_of_get hp, rfl, rfl⟩
  obtain ⟨s, a, now, r, h, hopen, hw, hpermits⟩ := pending_of_run hrun hP hp
  cases s with
  | updateStats now id averageRating totalReviews =>
      cases List.mem_singleton.mp hw
      obtain ⟨q, hq, rfl⟩ := rated_of_run hrun hP hopen
      exact ⟨q, Table.mem_of_find? hq, rfl, rfl⟩
  | createProvider p l =>
      obtain ⟨_, _, _, hop, _⟩ := hpermits
      cases hop
  | updateProvider now id data =>
      obtain ⟨_, _, _, hop, _⟩ := hpermits
      cases hop
  | setVerification now id status =>
      obtain ⟨_, hdecides, _⟩ := hpermits
      cases hdecides
  | _ => simp [Stmt.written] at hw

/-- A document that is present is committed. -/
theorem document_of_present (hrun : Run (program js) Ok ⟨db, []⟩ c) {d : ProviderDocument}
    (hd : Present c (.document d)) : d ∈ c.db.documents.rows := by
  rcases hd with ⟨k, hd⟩ | ⟨P, hP, hd⟩
  · exact document_of_get hd
  obtain ⟨s, a, now, r, h, _, hw, hpermits⟩ := pending_of_run hrun hP hd
  cases s with
  | createDocument d =>
      obtain ⟨_, _, _, _, _, hop, _⟩ := hpermits
      cases hop
  | updateDocuments providerId data => cases (hpermits : Marks _ _ _)
  | _ => simp [Stmt.written] at hw

end

/-! ### What a call has found stays true -/

/-- What a call is about to write is clear. -/
def Cleared (js : Builtins) (c : System) : Prop :=
  ∀ P ∈ c.procs, ∀ s ∈ stmtOf P, Clear js c P.op s

section
variable {js : Builtins} {db : Db} {c c' : System} {e : Event Op Exn} {P Q : Caller} {s : Stmt}

theorem isOk_of_exec {a : Ans s} (hexec : (view c.db P).exec s = .ok a) :
    ((view c.db P).exec s).isOk = true := by
  rw [hexec]
  rfl

/-- Whose profile is created or renamed, asks for it. -/
theorem user_of_written {Ok : System → Event Op Exn → Prop} {a : Ans s}
    (hrun : Run (program js) Ok ⟨db, []⟩ c) (hP : P ∈ c.procs) (hs : stmtOf P = some s)
    (hexec : (view c.db P).exec s = .ok a) {w : ProviderProfile} (hw : .provider w ∈ s.written a)
    {name : String} (hname : s.names = some name) : P.op.user = some w.userId := by
  have htx := (alone_of_writes hrun hP hs (Or.inl (by simp [hname]))).1
  have hview : view c.db P = c.db := by simp [view, Proc.pending, htx]
  rw [hview] at hexec
  rcases user_of_names hrun hP hs hname with ⟨p, l, rfl, huser⟩ | ⟨now, id, data, q, rfl, hq, huser⟩
  · cases (Db.insertProvider_ok hexec).1
    rcases List.mem_cons.mp hw with hw | hw
    · cases hw
      exact huser
    · cases List.mem_singleton.mp hw
  · obtain ⟨p, hp, rfl⟩ := Db.updateProvider_ok hexec
    obtain rfl := Option.some.inj (hq.symm.trans hp)
    rcases List.mem_cons.mp hw with hw | hw
    · cases hw
      exact huser
    · obtain ⟨_, _, hl⟩ := List.mem_map.mp hw
      cases hl

/-- Another call takes nothing that this one is about to write. -/
theorem Clear.kept (hrun : Run (program js) (Undisturbed js) ⟨db, []⟩ c) (hok : Undisturbed js c e)
    (hn : Txn.next (program js) c e = some c') (hQ : ∀ n, e = .exec n → Q ∈ c.procs.eraseIdx n)
    (hs : stmtOf Q = some s) (hclear : Clear js c Q.op s) : Clear js c' Q.op s := by
  refine ⟨fun name hname p hp huser hsame => ?_, fun d hd d' hd' hprovider htype => ?_⟩
  · rcases present_next hn hp with hold | ⟨n, P, t, k, a, rfl, hP, hk, _, hexec, hw⟩
    · exact hclear.1 name hname p hold huser hsame
    have hmem := List.mem_of_getElem? hP
    have ht : stmtOf P = some t := by simp [stmtOf, hk, Prog.head]
    have hcontends : t.names = some p.businessName → False := by
      intro hnames
      refine (hok P hP t ht).2 (isOk_of_exec hexec) Q (hQ n rfl) s hs (Or.inl ⟨?_, ?_⟩)
      · rw [user_of_written hrun hmem ht hexec hw hnames]
        exact huser.symm
      · exact ⟨_, hnames, name, hname, hsame.symm⟩
    rcases written_provider hexec hw with ⟨hnames, _, _⟩ | ⟨p₀, hp₀, _, howner, hnames | hkept⟩
    · exact hcontends hnames
    · exact hcontends hnames
    · exact hclear.1 name hname p₀ (present_of_view hmem hp₀) (howner ▸ huser) (hkept ▸ hsame)
  · rcases present_next hn hd' with hold | ⟨n, P, t, k, a, rfl, hP, hk, _, hexec, hw⟩
    · exact hclear.2 d hd d' hold hprovider htype
    have ht : stmtOf P = some t := by simp [stmtOf, hk, Prog.head]
    rcases written_document hexec hw with huploads | ⟨d₀, hd₀, _, hprovider₀, htype₀⟩
    · exact (hok P hP t ht).2 (isOk_of_exec hexec) Q (hQ n rfl) s hs
        (Or.inr ⟨d', huploads, d, hd, hprovider, htype⟩)
    · exact hclear.2 d hd d₀ (present_of_view (List.mem_of_getElem? hP) hd₀)
        (hprovider₀.trans hprovider) (htype₀.trans htype)

/-- A search outside a transaction is answered from the committed rows, and
leaves them. -/
theorem exec_of_answered {n : Nat} {t : Stmt} {a : Ans t} {tx : Option (List Row)} {db' : Db}
    (hwrites : t.written a = []) (htx : P.tx = none)
    (heff : Effect c.db (others c.procs n) P.tx n (.stmt t : Instr Stmt Empty) e (.ok a) tx db') :
    e = .exec n ∧ c.db.exec t = .ok a ∧ db' = c.db := by
  rw [htx] at heff
  obtain ⟨rfl, hexec⟩ := heff.exec_of_ok
  refine ⟨rfl, hexec, ?_⟩
  have hdb : db' = puts c.db (t.written a) := (heff.after_ok.1 rfl).2
  rw [hwrites] at hdb
  exact hdb

section Checked
variable {n : Nat} {i : Instr Stmt Empty} {k : Except Exn (i.Ans Ans) → Call Response}
  {r : Except Exn (i.Ans Ans)} {tx : Option (List Row)}
  (hrun : Run (program js) (Undisturbed js) ⟨db, []⟩ c) (hok : Undisturbed js c e)
  (hn : Txn.next (program js) c e = some c') (hP : c.procs[n]? = some P)
  (hk : P.prog = .ask i k) (heff : Effect c.db (others c.procs n) P.tx n i e r tx c'.db)
  (hQ : P.advance i k r tx ∈ c'.procs) (hs : stmtOf (P.advance i k r tx) = some s)
include hrun hok hn hQ hs

/-- The search for the name it writes came upon nobody, or upon its own profile. -/
theorem searched_of_advance {name : String} (hname : name ∈ s.names) : ∃ found h',
    (⟨i, r⟩ :: P.hist : CallHist) = ⟨.stmt (.findByBusinessName name), .ok found⟩ :: h' ∧
      ∀ x ∈ found, x ∈ c'.db.providers.rows → P.op.user = some x.userId := by
  have hrun' : Run (program js) (Undisturbed js) ⟨db, []⟩ c' := .step hrun hok hn
  obtain ⟨_, hvetted⟩ := vetted_of_run hrun' hQ hs
  rcases user_of_names hrun' hQ hs hname with
    ⟨p, l, rfl, _⟩ | ⟨now, id, data, q, rfl, hq, howns⟩
  · obtain ⟨h', hlast⟩ := hvetted
    cases hname
    exact ⟨none, h', hlast, fun x hx => by cases hx⟩
  · obtain ⟨found, h', hlast, hid⟩ := hvetted name hname
    refine ⟨found, h', hlast, fun x hx hrow => ?_⟩
    have hfind := Table.find?_of_mem hrow
    rw [hid x hx] at hfind
    obtain rfl := Option.some.inj (hq.symm.trans hfind)
    exact howns

include hP

/-- A call that has come to a write was outside a transaction. -/
theorem tx_of_advance (hwrites : s.names.isSome ∨ s.uploads.isSome) : P.tx = none := by
  have hmem := List.mem_of_getElem? hP
  rw [hrun.tx_eq rfl P hmem, outside_of_run hrun hmem
    (alone_of_writes (.step hrun hok hn) hQ hs hwrites).2 List.suffix_rfl]
  rfl

include hk heff

theorem names_checked {name : String} (hname : name ∈ s.names) {p : ProviderProfile}
    (hp : Present c' (.provider p)) (huser : P.op.user ≠ some p.userId) :
    ¬ SameName js name p.businessName := by
  intro hsame
  obtain ⟨q, hq, howner, hkept⟩ := committed_of_present (.step hrun hok hn) hp
  have htx := tx_of_advance hrun hok hn hP hQ hs (Or.inl (by simp [Option.mem_def.mp hname]))
  obtain ⟨found, h', hlast, hown⟩ := searched_of_advance hrun hok hn hQ hs hname
  cases hlast
  obtain ⟨rfl, hexec, hdb⟩ := exec_of_answered rfl htx heff
  have hfound := Except.ok.inj hexec
  -- the search has come upon another user's profile
  obtain ⟨x, hx, hother⟩ := (hok P hP (.findByBusinessName name)
    (by simp [stmtOf, hk, Prog.head])).1 name rfl ⟨q, hdb ▸ hq, howner ▸ huser, hkept ▸ hsame⟩
  refine hother (hown x (hfound ▸ hx) ?_)
  rw [hdb]
  exact List.mem_of_find?_eq_some hx

theorem uploads_checked {d d' : ProviderDocument} (hd : d ∈ s.uploads)
    (hd' : Present c' (.document d')) (hprovider : d'.providerId = d.providerId) :
    d'.documentType ≠ d.documentType := by
  intro htype
  have htx := tx_of_advance hrun hok hn hP hQ hs (Or.inr (by simp [Option.mem_def.mp hd]))
  obtain ⟨_, hvetted⟩ := vetted_of_run (.step hrun hok hn) hQ hs
  have hrow := document_of_present (.step hrun hok hn) hd'
  cases s with
  | createDocument d₀ =>
      cases hd
      obtain ⟨h', hlast⟩ := hvetted
      cases hlast
      obtain ⟨rfl, hexec, hdb⟩ := exec_of_answered rfl htx heff
      have hnone : (c.db.documentsOf d.providerId).find? (·.documentType == d.documentType) = none :=
        Except.ok.inj hexec
      rw [hdb] at hrow
      refine absurd ?_ (List.find?_eq_none.mp hnone d' (List.mem_filter.mpr ⟨hrow, ?_⟩))
      · simpa using htype
      · simpa using hprovider
  | _ => cases hd

/-- A check that lets its call go on has found what it is about to write
clear. -/
theorem Clear.checked : Clear js c' P.op s :=
  ⟨fun _ hname _ hp huser => names_checked hrun hok hn hP hk heff hQ hs hname hp huser,
    fun _ hd _ hd' hprovider => uploads_checked hrun hok hn hP hk heff hQ hs hd hd' hprovider⟩

end Checked

/-- The step lemma. -/
theorem Cleared.next (hrun : Run (program js) (Undisturbed js) ⟨db, []⟩ c)
    (hok : Undisturbed js c e) (hn : Txn.next (program js) c e = some c') (hcleared : Cleared js c) :
    Cleared js c' := by
  intro Q hQ s hs
  have hrun' : Run (program js) (Undisturbed js) ⟨db, []⟩ c' := .step hrun hok hn
  rcases next_cases (program js) hn with ⟨o, rfl, rfl⟩ | ⟨n, P, i, k, r, tx, db', hP, hk, heff, rfl⟩
  · rcases List.mem_append.mp hQ with hold | hnew
    · exact (hcleared Q hold s hs).kept hrun hok hn (fun _ he => by cases he) hs
    · -- its first instruction is no write
      obtain rfl := List.mem_singleton.mp hnew
      obtain ⟨_, hvetted⟩ := vetted_of_run hrun' hQ hs
      cases s with
      | createProvider p l =>
          obtain ⟨_, hlast⟩ := hvetted
          cases hlast
      | updateProvider now id data =>
          refine ⟨fun name hname => ?_, fun _ hd => (by cases hd)⟩
          obtain ⟨_, _, hlast, _⟩ := hvetted name hname
          cases hlast
      | createDocument d =>
          obtain ⟨_, hlast⟩ := hvetted
          cases hlast
      | _ => exact ⟨fun _ hname => (by cases hname), fun _ hd => (by cases hd)⟩
  · obtain ⟨q, hq⟩ := List.mem_iff_getElem?.mp hQ
    have hlt : n < c.procs.length := (List.getElem?_eq_some_iff.mp hP).1
    by_cases hnq : n = q
    · subst hnq
      rw [List.getElem?_set_self hlt] at hq
      obtain rfl := Option.some.inj hq
      exact Clear.checked (P := P) hrun hok hn hP hk heff hQ hs
    · rw [List.getElem?_set_ne hnq] at hq
      refine (hcleared Q (List.mem_of_getElem? hq) s hs).kept hrun hok hn ?_ hs
      rintro m rfl
      rcases heff.actor with he | ⟨_, he⟩ <;> cases he
      exact List.mem_eraseIdx_iff_getElem?.mpr ⟨q, Ne.symm hnq, hq⟩

theorem cleared_of_run (hrun : Run (program js) (Undisturbed js) ⟨db, []⟩ c) : Cleared js c := by
  induction hrun with
  | start => exact fun P hP => absurd hP List.not_mem_nil
  | step hrun hok hn ih => exact ih.next hrun hok hn

/-! ### No two rows collide -/

/-- A row that is written collides with none that is present. -/
theorem not_collides_of_written (hrun : Run (program js) (Undisturbed js) ⟨db, []⟩ c)
    (hP : P ∈ c.procs) (hs : stmtOf P = some s) {a : Ans s} (hexec : (view c.db P).exec s = .ok a)
    (hnone : ∀ r r', Present c r → Present c r' → ¬ Collides js r r') {w r : Row}
    (hw : w ∈ s.written a) (hr : Present c r) : ¬ Collides js w r := by
  intro hcollides
  obtain ⟨hnames, huploads⟩ := cleared_of_run hrun P hP s hs
  cases w <;> cases r <;> try exact hcollides.elim
  · rename_i p q
    obtain ⟨hid, hcollides⟩ := hcollides
    rcases written_provider hexec hw with ⟨hname, ⟨l, rfl⟩, halone⟩ | ⟨x, hx, hxid, howner, hname⟩
    · -- nobody has two profiles
      have hother : p.userId ≠ q.userId := by
        obtain ⟨q₀, hq₀, hq₀user, _⟩ := committed_of_present hrun hr
        have htx := (alone_of_writes hrun hP hs (Or.inl rfl)).1
        rw [view, Proc.pending, htx] at halone
        exact hq₀user ▸ (halone q₀ hq₀).symm
      rcases hcollides with huser | hsame
      · exact hother huser
      · refine hnames _ hname q hr ?_ hsame
        rw [user_of_written hrun hP hs hexec hw hname]
        exact fun h => hother (Option.some.inj h)
    · have hkept := hnone _ _ (present_of_view hP hx) hr
      rcases hcollides with huser | hsame
      · exact hkept ⟨hxid ▸ hid, Or.inl (howner.trans huser)⟩
      rcases hname with hname | hname
      · refine hnames _ hname q hr ?_ hsame
        rw [user_of_written hrun hP hs hexec hw hname]
        exact fun h => hkept ⟨hxid ▸ hid, Or.inl (howner.trans (Option.some.inj h))⟩
      · refine hkept ⟨hxid ▸ hid, Or.inr ?_⟩
        rw [hname]
        exact hsame
  · rename_i d e
    rcases written_document hexec hw with hd | ⟨x, hx, hid, hprovider, htype⟩
    · exact huploads d hd e hr hcollides.2.1.symm hcollides.2.2.symm
    · exact hnone _ _ (present_of_view hP hx) hr
        ⟨hid ▸ hcollides.1, hprovider.trans hcollides.2.1, htype.trans hcollides.2.2⟩

theorem not_collides_of_run
    (h₀ : ∀ k k' r r', db.get k = some r → db.get k' = some r' → ¬ Collides js r r')
    (hrun : Run (program js) (Undisturbed js) ⟨db, []⟩ c) :
    ∀ r r', Present c r → Present c r' → ¬ Collides js r r' := by
  refine hrun.pairwise (collides_comm js) h₀ rfl ?_
  intro c p P s k a hrun _ hP hk hexec hnone w hw
  have hmem := List.mem_of_getElem? hP
  have hs : stmtOf P = some s := by simp [stmtOf, hk, Prog.head]
  refine ⟨fun r hr => not_collides_of_written hrun hmem hs hexec hnone hw hr, fun w' hw' => ?_⟩
  refine not_collides_together hexec (fun d e hd he => ?_) hw hw'
  exact hnone _ _ (present_of_view hmem hd) (present_of_view hmem he)

end

/-- No user has two profiles, no two profiles have one name ignoring case, and no
provider has two documents of one type. -/
structure Db.Unique (js : Builtins) (db : Db) : Prop where
  users : ∀ p ∈ db.providers.rows, ∀ q ∈ db.providers.rows, p.userId = q.userId → p = q
  names : ∀ p ∈ db.providers.rows, ∀ q ∈ db.providers.rows,
    SameName js p.businessName q.businessName → p = q
  documents : ∀ d ∈ db.documents.rows, ∀ e ∈ db.documents.rows,
    d.providerId = e.providerId → d.documentType = e.documentType → d = e

theorem Db.Unique.not_collides {js : Builtins} {db : Db} (h : db.Unique js) (k k' : Key)
    (r r' : Row) (hr : db.get k = some r) (hr' : db.get k' = some r') : ¬ Collides js r r' := by
  intro hcollides
  cases r <;> cases r' <;> try exact hcollides.elim
  · have hp := provider_of_get hr
    have hq := provider_of_get hr'
    obtain ⟨hid, huser | hname⟩ := hcollides
    · exact hid (congrArg (·.id) (h.users _ hp _ hq huser))
    · exact hid (congrArg (·.id) (h.names _ hp _ hq hname))
  · exact hcollides.1 (congrArg (·.id) (h.documents _ (document_of_get hr) _ (document_of_get hr')
      hcollides.2.1 hcollides.2.2))

/-- **Names and documents stay unique** in every run in which nobody writes what
another call has checked and is about to write. -/
theorem provider_unique (js : Builtins) (db : Db) (c : System) (hdb : db.Unique js)
    (hrun : Run (program js) (Undisturbed js) ⟨db, []⟩ c) : c.db.Unique js := by
  have hnone := not_collides_of_run hdb.not_collides hrun
  have hprovider : ∀ p ∈ c.db.providers.rows, Present c (.provider p) := fun p hp =>
    Or.inl ⟨.provider p.id, Option.map_eq_some_iff.mpr ⟨p, Table.find?_of_mem hp, rfl⟩⟩
  have hdocument : ∀ d ∈ c.db.documents.rows, Present c (.document d) := fun d hd =>
    Or.inl ⟨.document d.id, Option.map_eq_some_iff.mpr ⟨d, Table.find?_of_mem hd, rfl⟩⟩
  refine ⟨fun p hp q hq huser => ?_, fun p hp q hq hname => ?_, fun d hd e he hp htype => ?_⟩
  · by_contra hne
    exact hnone _ _ (hprovider p hp) (hprovider q hq)
      ⟨fun hid => hne (Table.eq_of_key hp hq hid), Or.inl huser⟩
  · by_contra hne
    exact hnone _ _ (hprovider p hp) (hprovider q hq)
      ⟨fun hid => hne (Table.eq_of_key hp hq hid), Or.inr hname⟩
  · by_contra hne
    exact hnone _ _ (hdocument d hd) (hdocument e he)
      ⟨fun hid => hne (Table.eq_of_key hd he hid), hp, htype⟩

/-! ## Two runs -/

namespace Sample

def newProvider (businessName : String) : CreateProviderDto where
  businessName := businessName
  description := none
  experienceYears := 1
  profileImageUrl := none
  addressLine1 := "2 Main Street"
  addressLine2 := none
  city := "Pune"
  state := "Maharashtra"
  postalCode := "411001"

/-- Alice and Bob register, under names that differ in case only. -/
def alice : Op := .createProfile "a" "la" 0 "alice" (newProvider "Sparkle")

def bob : Op := .createProfile "b" "lb" 0 "bob" (newProvider "SPARKLE")

/-- The owner takes a new name. -/
def newName : Op := .updateOwnProfile 0 "owner" (nameOnly "Acme Works" (by decide))

/-- The owner uploads a document. -/
def upload (id : Uuid) : Op := .uploadDocument id 0 "owner" .gst (.ok ("documents/" ++ id))

/-- Alice registers while the owner takes another name, and Bob after both; the
second upload begins when the first has ended. -/
def inTurn : List (Event Op Exn) :=
  .spawn alice :: steps 0 2 ++ .spawn newName :: steps 1 2 ++ steps 0 1 ++ steps 1 3 ++
    .spawn bob :: steps 2 2 ++ .spawn (upload "x") :: steps 3 3 ++ .spawn (upload "y") :: steps 4 2

/-- Both check before either writes, and so do two uploads. -/
def atOnce : List (Event Op Exn) :=
  .spawn alice :: steps 0 2 ++ .spawn bob :: steps 1 3 ++ steps 0 1 ++
    .spawn (upload "x") :: steps 2 2 ++ .spawn (upload "y") :: steps 3 3 ++ steps 2 1

end Sample

/-- The second registration of a name, and the second upload, are refused. -/
theorem provider_unique_sample : ∃ c,
    runChecked (program Sample.js) (Undisturbed Sample.js) ⟨Sample.db, []⟩ Sample.inTurn = some c ∧
    c.db.providers.rows.map (·.businessName) = ["Acme Works", "Sparkle"] ∧
    c.db.documents.rows.map (·.id) = ["x"] ∧ c.db.Unique Sample.js := by
  obtain ⟨c, hc⟩ := Option.isSome_iff_exists.mp
    (show (runChecked (program Sample.js) (Undisturbed Sample.js) ⟨Sample.db, []⟩
      Sample.inTurn).isSome by decide +kernel)
  have hrows : ∀ c ∈ runChecked (program Sample.js) (Undisturbed Sample.js) ⟨Sample.db, []⟩
      Sample.inTurn, c.db.providers.rows.map (·.businessName) = ["Acme Works", "Sparkle"] ∧
        c.db.documents.rows.map (·.id) = ["x"] := by decide +kernel
  have hunique : Sample.db.Unique Sample.js := by
    have hone : ∀ p ∈ Sample.db.providers.rows, ∀ q ∈ Sample.db.providers.rows, p = q :=
      fun p hp q hq => (List.mem_singleton.mp hp).trans (List.mem_singleton.mp hq).symm
    exact ⟨fun p hp q hq _ => hone p hp q hq, fun p hp q hq _ => hone p hp q hq,
      fun d hd => absurd hd List.not_mem_nil⟩
  exact ⟨c, hc, (hrows c hc).1, (hrows c hc).2,
    provider_unique Sample.js Sample.db c hunique (Run.of_runChecked _ _ hc)⟩

/-- Both registrations succeed, and both uploads. -/
theorem not_provider_unique : ∃ c,
    runEvents (program Sample.js) ⟨Sample.db, []⟩ Sample.atOnce = some c ∧
    (∀ P ∈ c.procs, P.prog.head.isNone) ∧
    (∃ p ∈ c.db.providers.rows, ∃ q ∈ c.db.providers.rows, p.id ≠ q.id ∧
      SameName Sample.js p.businessName q.businessName) ∧
    ∃ d ∈ c.db.documents.rows, ∃ e ∈ c.db.documents.rows, d.id ≠ e.id ∧
      d.providerId = e.providerId ∧ d.documentType = e.documentType := by
  obtain ⟨c, hc⟩ := Option.isSome_iff_exists.mp
    (show (runEvents (program Sample.js) ⟨Sample.db, []⟩ Sample.atOnce).isSome by decide +kernel)
  have htwice : ∀ c ∈ runEvents (program Sample.js) ⟨Sample.db, []⟩ Sample.atOnce,
      (∀ P ∈ c.procs, P.prog.head.isNone) ∧
      (∃ p ∈ c.db.providers.rows, ∃ q ∈ c.db.providers.rows, p.id ≠ q.id ∧
        SameName Sample.js p.businessName q.businessName) ∧
      ∃ d ∈ c.db.documents.rows, ∃ e ∈ c.db.documents.rows, d.id ≠ e.id ∧
        d.providerId = e.providerId ∧ d.documentType = e.documentType := by decide +kernel
  exact ⟨c, hc, htwice c hc⟩

end ServiceHub.Providers
