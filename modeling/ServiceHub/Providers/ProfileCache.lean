/-
# `Providers.ProfileCache` — the cached profile and the rows it is made of

`getPublicProfileById` answers from `provider:profile:<id>`, and fills the key
with what it reads.  Every request that writes a row of the profile deletes the
key afterwards, outside any transaction.

**What fails.**  A reader that has read before the write, and stores after the
deletion, leaves an old profile under the key (`not_profile_coherent`); so does
a writer whose next statement fails before it deletes the key.

**What holds.**  `Prompt`: what is stored is still the profile, or a writer has
yet to delete the key; and nothing fails between a write and its deletion.  Then
a stale profile is always owed a deletion, and when all calls have ended the key
is absent or holds the profile (`profile_coherent`).
-/
import ServiceHub.Providers.Service
import ServiceHub.Txn.Debts

namespace ServiceHub.Providers

open Data Txn

/-! ## The rows of a profile -/

/-- The provider in whose profile the row is shown. -/
def Row.owner : Row → Option Uuid
  | .provider p => some p.id
  | .location l => some l.providerId
  | .providerService o => some o.providerId
  | _ => none

def SameOwner (r r' : Row) : Prop := r.owner = r'.owner

/-- The statement writes a row of the profile. -/
def Stmt.shows (p : Uuid) : (s : Stmt) → Ans s → Bool
  | .createProvider q l, _ => q.id == p || l.providerId == p
  | .updateProvider _ id _, _ => id == p
  | .setVerification _ id _, _ => id == p
  | .createOffering o, _ => o.providerId == p
  | .updateOffering _ _ _, o => o.providerId == p
  | .updateStats _ id _ _, _ => id == p
  | _, _ => false

/-- The statement deletes the key. -/
def Stmt.deletes (p : Uuid) : Stmt → Bool
  | .redisDel key => key == profileKey p
  | _ => false

/-- The statement is not one of a transaction, which are those of the reviews. -/
def Stmt.alone : Stmt → Bool
  | .createReview _ => false
  | .updateReview _ _ => false
  | .aggregateRating _ => false
  | .updateStats _ _ _ _ => false
  | _ => true

/-- What is under the key is the profile. -/
def Db.Coherent (p : Uuid) (db : Db) : Prop :=
  ∀ e, db.redis.entries (profileKey p) = some e →
    (db.publicProfile p).map Cached.profile = some e.value

section
variable {db : Db} {s : Stmt} {a : Ans s} {p : Uuid}

/-- A row that is shown in no profile replaces one that is shown in none. -/
theorem sameOwner_of_unowned {w : Row} (h : w.owner = none) :
    db.get w.key = none ∨ ∃ r, db.get w.key = some r ∧ SameOwner r w := by
  cases hr : db.get w.key with
  | none => exact Or.inl rfl
  | some r =>
      refine Or.inr ⟨r, rfl, Eq.trans ?_ h.symm⟩
      cases w with
      | provider q => cases h
      | location l => cases h
      | providerService o => cases h
      | entry key e =>
          cases hr
          rfl
      | version n =>
          cases hr
          rfl
      | _ =>
          obtain ⟨x, _, rfl⟩ := Option.map_eq_some_iff.mp hr
          rfl

theorem sameOwner_of_provider {id : Uuid} {q w : ProviderProfile} (hq : db.providers.find? id = some q)
    (hid : w.id = q.id) : db.get (Row.provider w).key = none ∨
      ∃ r, db.get (Row.provider w).key = some r ∧ SameOwner r (.provider w) := by
  obtain rfl := Table.key_of_find? hq
  refine Or.inr ⟨.provider q, ?_, congrArg some hid.symm⟩
  rw [Row.key, hid, Db.get, hq]
  rfl

/-- A row that is written replaces one of the same provider. -/
theorem sameOwner_of_written (hexec : db.exec s = .ok a) : ∀ w ∈ s.written a,
    db.get w.key = none ∨ ∃ r, db.get w.key = some r ∧ SameOwner r w := by
  intro w hw
  cases s with
  | createProvider q l =>
      obtain ⟨hq, hprovider, hlocation⟩ := Db.insertProvider_ok hexec
      cases hq
      rcases List.mem_cons.mp hw with rfl | hw
      · exact Or.inl (by rw [Row.key, Db.get, hprovider]; rfl)
      · cases List.mem_singleton.mp hw
        exact Or.inl (by rw [Row.key, Db.get, hlocation]; rfl)
  | updateProvider now id data =>
      obtain ⟨q, hq, ha⟩ := Db.updateProvider_ok hexec
      cases ha
      rcases List.mem_cons.mp hw with rfl | hw
      · exact sameOwner_of_provider hq rfl
      · obtain ⟨l, hl, rfl⟩ := List.mem_map.mp hw
        obtain ⟨l₀, hl₀, hid, hprovider, _⟩ := Db.mem_relocated hl
        refine Or.inr ⟨.location l₀, ?_, congrArg some hprovider.symm⟩
        rw [Row.key, hid, Db.get, Table.find?_of_mem hl₀]
        rfl
  | setVerification now id status =>
      obtain ⟨q, hq, rfl⟩ := Reviews.written_of_update hexec
      cases List.mem_singleton.mp hw
      exact sameOwner_of_provider hq rfl
  | updateStats now id averageRating totalReviews =>
      obtain ⟨q, hq, rfl⟩ := Db.updateStats_ok hexec
      cases List.mem_singleton.mp hw
      exact sameOwner_of_provider hq rfl
  | createOffering o =>
      obtain ⟨ho, hfresh⟩ := Db.insertOffering_ok hexec
      cases ho
      cases List.mem_singleton.mp hw
      exact Or.inl (by rw [Row.key, Db.get, hfresh]; rfl)
  | updateOffering now id data =>
      obtain ⟨o, ho, rfl⟩ := Db.updateOffering_ok hexec
      cases List.mem_singleton.mp hw
      have hid := Table.key_of_find? ho
      refine Or.inr ⟨.providerService o, ?_, rfl⟩
      rw [show (Row.providerService (data.on now o)).key = .providerService id from
        congrArg Key.providerService hid, Db.get, ho]
      rfl
  | updateDocuments providerId data =>
      obtain ⟨d, _, rfl⟩ := List.mem_map.mp hw
      exact sameOwner_of_unowned rfl
  | _ =>
      first
      | exact absurd hw List.not_mem_nil
      | cases List.mem_singleton.mp hw
        exact sameOwner_of_unowned rfl

theorem owner_of_written (hexec : db.exec s = .ok a) (hshows : s.shows p a = false) :
    ∀ w ∈ s.written a, w.owner ≠ some p := by
  intro w hw howner
  cases s with
  | createProvider q l =>
      cases (Db.insertProvider_ok hexec).1
      simp only [Stmt.shows, Bool.or_eq_false_iff, beq_eq_false_iff_ne] at hshows
      rcases List.mem_cons.mp hw with rfl | hw
      · exact hshows.1 (Option.some.inj howner)
      · cases List.mem_singleton.mp hw
        exact hshows.2 (Option.some.inj howner)
  | updateProvider now id data =>
      obtain ⟨q, hq, ha⟩ := Db.updateProvider_ok hexec
      cases ha
      obtain rfl := Table.key_of_find? hq
      simp only [Stmt.shows, beq_eq_false_iff_ne] at hshows
      rcases List.mem_cons.mp hw with rfl | hw
      · exact hshows (Option.some.inj howner)
      · obtain ⟨l, hl, rfl⟩ := List.mem_map.mp hw
        obtain ⟨l₀, _, _, hprovider, hl₀⟩ := Db.mem_relocated hl
        exact hshows (hl₀.symm.trans (hprovider.symm.trans (Option.some.inj howner)))
  | setVerification now id status =>
      obtain ⟨q, hq, ha⟩ := Reviews.written_of_update hexec
      cases ha
      have hid := Table.key_of_find? hq
      cases List.mem_singleton.mp hw
      exact beq_eq_false_iff_ne.mp hshows (hid.symm.trans (Option.some.inj howner))
  | updateStats now id averageRating totalReviews =>
      obtain ⟨q, hq, ha⟩ := Db.updateStats_ok hexec
      cases ha
      have hid := Table.key_of_find? hq
      cases List.mem_singleton.mp hw
      exact beq_eq_false_iff_ne.mp hshows (hid.symm.trans (Option.some.inj howner))
  | createOffering o =>
      cases (Db.insertOffering_ok hexec).1
      cases List.mem_singleton.mp hw
      exact beq_eq_false_iff_ne.mp hshows (Option.some.inj howner)
  | updateOffering now id data =>
      cases List.mem_singleton.mp hw
      exact beq_eq_false_iff_ne.mp hshows (Option.some.inj howner)
  | updateDocuments providerId data =>
      obtain ⟨d, _, rfl⟩ := List.mem_map.mp hw
      cases howner
  | _ =>
      first
      | exact absurd hw List.not_mem_nil
      | cases List.mem_singleton.mp hw
        cases howner

/-- A row of no part of the profile, in the place of another such row. -/
theorem publicProfile_put {w : Row} (hw : w.owner ≠ some p)
    (hold : ∀ r, db.get w.key = some r → r.owner ≠ some p) :
    (db.put w).publicProfile p = db.publicProfile p := by
  cases w with
  | provider q =>
      have hfind : (db.providers.put q).find? p = db.providers.find? p := by
        rw [Table.find?_put, if_neg fun hid => hw (congrArg some hid)]
      unfold Db.publicProfile
      rw [show (db.put (.provider q)).providers = db.providers.put q from rfl, hfind]
      rfl
  | location l =>
      have hfilter : (db.locations.put l).rows.filter (·.providerId == p) =
          db.locations.rows.filter (·.providerId == p) := by
        refine Table.filter_put (by simpa using fun h => hw (congrArg some h)) fun x hx => ?_
        have hx' := hold (.location x) (by rw [Row.key, Db.get, hx]; rfl)
        simpa using fun h => hx' (congrArg some h)
      unfold Db.publicProfile
      rw [show (db.put (.location l)).locationsOf p = db.locationsOf p from hfilter]
      rfl
  | providerService o =>
      have hfilter : (db.providerServices.put o).rows.filter
            (fun o => o.providerId == p && o.isActive) =
          db.providerServices.rows.filter (fun o => o.providerId == p && o.isActive) := by
        refine Table.filter_put ?_ fun x hx => ?_
        · rw [beq_eq_false_iff_ne.mpr fun h => hw (congrArg some h), Bool.false_and]
        · have hx' := hold (.providerService x) (by rw [Row.key, Db.get, hx]; rfl)
          rw [beq_eq_false_iff_ne.mpr fun h => hx' (congrArg some h), Bool.false_and]
      have hoffered : (db.put (.providerService o)).offered p = db.offered p := by
        unfold Db.offered
        rw [show (db.put (.providerService o)).providerServices = db.providerServices.put o from rfl,
          hfilter]
        rfl
      unfold Db.publicProfile
      rw [hoffered]
      rfl
  | _ => rfl

theorem coherent_put {w : Row} (h : db.Coherent p) (hw : w.owner ≠ some p)
    (hold : ∀ r, db.get w.key = some r → r.owner ≠ some p)
    (hentry : w.key ≠ .entry (profileKey p)) : (db.put w).Coherent p := by
  intro e he
  rw [publicProfile_put hw hold]
  refine h e (Eq.trans ?_ he)
  cases w with
  | entry key x => exact (Function.update_of_ne (fun hk => hentry (congrArg Key.entry hk.symm)) _ _).symm
  | _ => rfl

theorem coherent_puts {ws : List Row} (h : db.Coherent p) (hws : ∀ w ∈ ws, w.owner ≠ some p ∧
    (∀ r, db.get w.key = some r → r.owner ≠ some p) ∧ w.key ≠ .entry (profileKey p)) :
    (puts db ws).Coherent p := by
  induction ws generalizing db with
  | nil => exact h
  | cons w ws ih =>
      obtain ⟨howner, hold, hentry⟩ := hws w List.mem_cons_self
      refine ih (coherent_put h howner hold hentry) fun x hx => ?_
      obtain ⟨hx, hxold, hxentry⟩ := hws x (List.mem_cons_of_mem _ hx)
      refine ⟨hx, fun r hr => ?_, hxentry⟩
      rw [show (Database.put db w : Db) = db.put w from rfl, Db.get_put] at hr
      split at hr
      · obtain rfl := Option.some.inj hr
        exact howner
      · exact hxold r hr

end

/-! ## What a call does -/

/-- An offering that is updated is of the provider that it was read to be of. -/
def Owned (h : CallHist) : (s : Stmt) → Ans s → Prop
  | .updateOffering _ id _, o => ∀ o₀,
      (⟨.stmt (.findOffering id), .ok (some o₀)⟩ : (i : Instr Stmt Empty) × Except Exn (i.Ans Ans)) ∈ h →
        o.providerId = o₀.providerId
  | _, _ => True

section
variable (p : Uuid)

/-- The call settles what it owes to the key of `p`. -/
abbrev Settles {α : Type} (h : CallHist) (c : Call α) : Prop :=
  Obeys (Orderly (Stmt.shows p) (Stmt.deletes p) Stmt.alone) (Squared (Stmt.shows p) (Stmt.deletes p) Owned) h c

abbrev IsClean (h : CallHist) : Prop := Clean (Stmt.shows p) (Stmt.deletes p) h

/-- Nothing is owed, unless a statement failed. -/
abbrev IsSquare (h : CallHist) : Prop :=
  Owing (Stmt.shows p) (Stmt.deletes p) Owned False h

abbrev Owes (providerId : Uuid) (h : CallHist) : Prop :=
  Owing (Stmt.shows p) (Stmt.deletes p) Owned (providerId = p) h

end

section
variable {p providerId : Uuid} {α β : Type} {h : CallHist}

/-- `invalidate` settles. -/
theorem invalidate_obeys (hh : Owes p providerId h) :
    Obeys (Orderly (Stmt.shows p) (Stmt.deletes p) Stmt.alone) (fun h _ => IsSquare p h) h
      (invalidate providerId) := by
  have hincr : ∀ h, IsSquare p h → Obeys (Orderly (Stmt.shows p) (Stmt.deletes p) Stmt.alone)
      (fun h _ => IsSquare p h) h RedisService.incrementSearchVersion := by
    intro h hh
    have hafter := hh.settled (s := .redisIncr) False.elim fun _ => rfl
    exact obeys_catching.mpr (obeys_map.mpr (obeys_stmt.mpr
      ⟨fun _ => hh.1, fun _ => hafter _, fun _ => hafter _⟩))
  have hdel := hh.settled (s := .redisDel (profileKey providerId))
    (fun hid => by rw [hid]; exact beq_self_eq_true _) fun _ => rfl
  exact obeys_bind.mpr (obeys_catching.mpr (obeys_stmt.mpr
    ⟨fun _ => hh.1, fun _ => hincr _ (hdel _), fun _ => hincr _ (hdel _)⟩))

theorem settles_invalidate (hh : Owes p providerId h) (a : α) :
    Settles p h (do invalidate providerId; pure a) := by
  refine obeys_bind.mpr ((invalidate_obeys hh).mono (fun _ _ hq => hq) ?_)
  rintro h' (e | _) hsquare
  · exact hsquare.squared
  · exact hsquare.squared

/-- A part that only reads. -/
theorem settles_orThrow (hh : IsClean p h) {o : Option α} {e : Exn} {f : α → Call β}
    (hf : ∀ a, o = some a → Settles p h (f a)) : Settles p h (Prog.orThrow o e >>= f) :=
  obeys_bind.mpr (obeys_orThrow.mpr ⟨fun _ => hh.squared, hf⟩)

theorem settles_throwIf (hh : IsClean p h) {c : Prop} [Decidable c] {e : Exn} {f : Unit → Call β}
    (hf : Settles p h (f ())) : Settles p h (Prog.throwIf c e >>= f) :=
  obeys_bind.mpr (obeys_throwIf.mpr ⟨fun _ => hh.squared, fun _ => hf⟩)

/-- A statement that writes rows of one provider, then `invalidate`. -/
theorem settles_write (hh : IsClean p h) {s : Stmt}
    (hshows : ∀ a, Owned h s a → s.shows p a = true → providerId = p) :
    Settles p h (do
      let a ← autocommit Empty (query s)
      invalidate providerId
      pure a) :=
  (hh.owing (G := providerId = p)).obeys_stmt hshows fun a ha => settles_invalidate ha a

/-! ### The programs -/

theorem settles_updateOwnProfile (now : Time) (userId : Uuid) (dto : UpdateProviderDto)
    (hh : IsClean p h) : Settles p h (ProviderService.updateOwnProfile now userId dto) := by
  refine hh.obeys_stmt (fun _ => rfl) fun found hh => ?_
  refine settles_orThrow hh fun profile _ => ?_
  have hwrite : ∀ h, IsClean p h → Settles p h (do
      let updated ← autocommit Empty (ProviderRepository.update now profile.id dto)
      invalidate profile.id
      pure updated) :=
    fun h hh => settles_write hh fun _ _ hid => by simpa [Stmt.shows] using hid
  refine obeys_bind.mpr ?_
  unfold ProviderService.checkBusinessName
  split
  · exact hwrite _ hh
  · rename_i name _
    have hread := hh.stmt (s := .findByBusinessName name) fun _ => rfl
    refine obeys_bind.mpr (obeys_stmt.mpr ⟨fun _ => hh.1, fun found' => ?_, fun e => ?_⟩)
    · exact obeys_throwIf.mpr ⟨fun _ => (hread _).squared, fun _ => hwrite _ (hread _)⟩
    · exact (hread _).squared

theorem settles_createOffering (id : Uuid) (now : Time) (dto : CreateProviderServiceDto)
    (hh : IsClean p h) : Settles p h (ProviderServiceService.create id now providerId dto) := by
  refine hh.obeys_stmt (fun _ => rfl) fun service hh => ?_
  refine hh.obeys_stmt (fun _ => rfl) fun existing hh => ?_
  refine settles_throwIf hh (settles_throwIf hh ?_)
  exact settles_write hh fun _ _ hid => by
    simpa [Stmt.shows, ProviderServiceRepository.newOffering] using hid

/-- The offering is updated of which `findOwn` has read that it is the
provider's. -/
theorem settles_updateOwn (now : Time) (id : Uuid) (dto : OfferingUpdate) (hh : IsClean p h) :
    Settles p h (do
      let _ ← ProviderServiceService.findOwn providerId id
      let updated ← autocommit Empty (ProviderServiceRepository.update now id dto)
      invalidate providerId
      pure updated) := by
  refine obeys_bind.mpr (obeys_bind.mpr (obeys_stmt.mpr ⟨fun _ => hh.1, fun found => ?_, fun e => ?_⟩))
  · have hread := hh.stmt (s := .findOffering id) (fun _ => rfl) (.ok found)
    refine obeys_orThrow.mpr ⟨fun _ => hread.squared, fun o ho => ?_⟩
    obtain ⟨rfl, hprovider⟩ := Option.filter_eq_some_iff.mp ho
    refine settles_write hread fun updated howned hshows => ?_
    have hsame := howned o List.mem_cons_self
    rw [← eq_of_beq hprovider, ← hsame]
    exact eq_of_beq hshows
  · exact (hh.stmt (s := .findOffering id) (fun _ => rfl) (.error e)).squared

theorem settles_updateVerificationStatus {f : ProviderProfile → Call β} (now : Time) (id : Uuid)
    (status : VerificationStatus) (reason : Option String) (hh : IsClean p h)
    (hf : ∀ q h, Owes p id h → Settles p h (f q)) :
    Settles p h (autocommit Empty
      (AdminProviderRepository.updateVerificationStatus now id status reason) >>= f) := by
  have hdocuments : ∀ (q : ProviderProfile) (h : CallHist) (data : DocumentUpdate), Owes p id h →
      Settles p h (autocommit Empty (do let _ ← query (.updateDocuments id data); pure q :
        Query ProviderProfile) >>= f) := by
    intro q h data hh
    rw [autocommit_bind]
    refine obeys_bind.mpr (obeys_bind.mpr (obeys_stmt.mpr ⟨fun _ => hh.1, fun a => ?_, fun e => ?_⟩))
    · exact hf q _ (hh.answered nofun)
    · exact (hh.failed e).squared
  unfold AdminProviderRepository.updateVerificationStatus
  rw [autocommit_bind]
  have hh : Owes p id h := hh.owing
  refine obeys_bind.mpr (obeys_bind.mpr (obeys_stmt.mpr ⟨fun _ => hh.1, fun q => ?_, fun e => ?_⟩))
  · have hh' : Owes p id (⟨.stmt (.setVerification now id status), .ok q⟩ :: h) :=
      hh.answered fun _ hid => by simpa [Stmt.shows] using hid
    refine obeys_bind.mp ?_
    split
    · exact hdocuments q _ _ hh'
    · split
      · exact hdocuments q _ _ hh'
      · exact hf q _ hh'
  · exact (hh.failed e).squared

theorem settles_changeStatus (r : AdminProviderService.Request) (id : Uuid)
    (status : VerificationStatus) (reason : Option String) (audit : AuditLog) (hh : IsClean p h) :
    Settles p h (AdminProviderService.changeStatus r id status reason audit) := by
  refine settles_updateVerificationStatus r.now id status reason hh fun q h hh => ?_
  exact hh.obeys_stmt nofun fun _ hh => settles_invalidate hh q

theorem settles_findOne {f : ProviderProfile → Call β} (id : Uuid) (hh : IsClean p h)
    (hf : ∀ q h, IsClean p h → Settles p h (f q)) :
    Settles p h (AdminProviderService.findOne id >>= f) := by
  refine obeys_bind.mpr (obeys_bind.mpr (obeys_stmt.mpr ⟨fun _ => hh.1, fun found => ?_, fun e => ?_⟩))
  · have hread := hh.stmt (s := .findProvider id) (fun _ => rfl) (.ok found)
    exact obeys_orThrow.mpr ⟨fun _ => hread.squared, fun q _ => hf q _ hread⟩
  · exact (hh.stmt (s := .findProvider id) (fun _ => rfl) (.error e)).squared

/-- A reader owes nothing. -/
theorem settles_getOrSet {fetchFn : Call Cached} (now : Time) (key : String) (ttl : Int)
    (hfetch : ∀ h, IsClean p h → Obeys (Orderly (Stmt.shows p) (Stmt.deletes p) Stmt.alone)
      (fun h _ => IsClean p h) h fetchFn) (hh : IsClean p h) :
    Settles p h (RedisService.getOrSet now key fetchFn ttl) := by
  have hfresh : ∀ h, IsClean p h → Settles p h (do
      let freshData ← fetchFn
      RedisService.set now key freshData ttl
      pure freshData) := by
    intro h hh
    refine obeys_bind.mpr ((hfetch h hh).mono (fun _ _ hq => hq) ?_)
    rintro h' (e | v) hh'
    · exact hh'.squared
    · have hset := hh'.stmt (s := .redisSet now key v ttl) fun _ => rfl
      exact obeys_bind.mpr (obeys_catching.mpr (obeys_stmt.mpr
        ⟨fun _ => hh'.1, fun _ => (hset _).squared (r := (.ok v : Except Exn Cached)),
          fun _ => (hset _).squared (r := (.ok v : Except Exn Cached))⟩))
  have hget := hh.stmt (s := .redisGet now key) fun _ => rfl
  refine obeys_bind.mpr (obeys_catching.mpr (obeys_stmt.mpr
    ⟨fun _ => hh.1, fun found => ?_, fun _ => hfresh _ (hget _)⟩))
  cases found with
  | some value => exact (hget _).squared
  | none => exact hfresh _ (hget _)

theorem settles_getPublicProfileById (now : Time) (id : Uuid) (hh : IsClean p h) :
    Settles p h (ProviderService.getPublicProfileById now id) := by
  refine settles_getOrSet now _ _ (fun h hh => ?_) hh
  have hread := hh.stmt (s := .findPublicById id) fun _ => rfl
  exact obeys_bind.mpr (obeys_stmt.mpr ⟨fun _ => hh.1, fun _ => obeys_bind.mpr
    (obeys_orThrow.mpr ⟨fun _ => hread _, fun _ _ => hread _⟩), fun _ => hread _⟩)

theorem settles_searchPublicProviders (js : Builtins) (now : Time) (q : QueryProviderSearchDto)
    (hh : IsClean p h) : Settles p h (ProviderService.searchPublicProviders js now q) := by
  have hversion := hh.stmt (s := .redisGetVersion) fun _ => rfl
  have hrest : ∀ (version : Nat) h, IsClean p h → Settles p h (RedisService.getOrSet now
      (ProviderService.searchKey js version q) (ProviderService.fetchSearch js q) searchTtl) := by
    intro version h hh
    refine settles_getOrSet now _ _ (fun h hh => ?_) hh
    unfold ProviderService.fetchSearch ProviderRepository.findPublicProviders
    simp only [autocommit_bind]
    have hitems := hh.stmt (s := .findPublicProviders q
      (js.mul (q.page.getD 1 - 1) (q.limit.getD 20)) (q.limit.getD 20)) fun _ => rfl
    have hcount := fun r => (hitems r).stmt (s := .countPublicProviders q) fun _ => rfl
    exact obeys_bind.mpr (obeys_bind.mpr (obeys_stmt.mpr ⟨fun _ => hh.1, fun items =>
      obeys_bind.mpr (obeys_stmt.mpr ⟨fun _ => (hitems _).1, fun _ => hcount _ _, fun _ => hcount _ _⟩),
      fun _ => hitems _⟩))
  exact obeys_bind.mpr (obeys_map.mpr (obeys_catching.mpr (obeys_stmt.mpr
    ⟨fun _ => hh.1, fun version => hrest _ _ (hversion _), fun _ => hrest _ _ (hversion _)⟩)))

theorem settles_uploadDocument (id : Uuid) (now : Time) (userId : Uuid) (documentType : DocumentType)
    (stored : Except Exn String) (hh : IsClean p h) :
    Settles p h (ProviderService.uploadDocument id now userId documentType stored) := by
  refine hh.obeys_stmt (fun _ => rfl) fun found hh => ?_
  refine settles_orThrow hh fun provider _ => ?_
  refine hh.obeys_stmt (fun _ => rfl) fun document hh => ?_
  refine settles_throwIf hh ?_
  cases stored with
  | error e => exact hh.squared
  | ok fileUrl =>
      have hcreate := hh.stmt (s := .createDocument
        (ProviderService.newDocument id now provider.id documentType fileUrl)) fun _ => rfl
      exact obeys_stmt.mpr ⟨fun _ => hh.1, fun _ => (hcreate _).squared, fun _ => (hcreate _).squared⟩

/-- A profile that is created is none that is cached. -/
theorem settles_createProfile (id locationId : Uuid) (now : Time) (userId : Uuid)
    (dto : CreateProviderDto) (hid : id ≠ p) (hh : IsClean p h) :
    Settles p h (ProviderService.createProfile id locationId now userId dto) := by
  refine hh.obeys_stmt (fun _ => rfl) fun _ hh => ?_
  refine hh.obeys_stmt (fun _ => rfl) fun _ hh => ?_
  refine settles_throwIf hh (settles_throwIf hh ?_)
  have hcreate := hh.stmt (s := .createProvider (ProviderRepository.newProfile id now userId dto)
    (ProviderRepository.newLocation locationId id now dto)) fun _ => by
      simp [Stmt.shows, ProviderRepository.newProfile, ProviderRepository.newLocation, hid]
  exact obeys_stmt.mpr ⟨fun _ => hh.1, fun _ => (hcreate _).squared, fun _ => (hcreate _).squared⟩

/-- The transaction of a review, and the deletion of the key after it. -/
theorem settles_rated {body : Reviews.Query Reviews.Response} (now : Time) (hh : IsClean p h)
    (hbody : ∀ h, Inside (Stmt.shows p) (Stmt.deletes p) Owned (providerId = p) h →
      Obeys (Orderly (Stmt.shows p) (Stmt.deletes p) Stmt.alone)
        (fun h _ => Inside (Stmt.shows p) (Stmt.deletes p) Owned (providerId = p) h) h
        (autocommit Empty (Prog.embed (reviewing now) body))) :
    Settles p h (Prog.embedCall (reviewing now) (fun | .del key => .redisDel key) (do
      let result ← transaction Reviews.Ext body
      Prog.perform (Instr.call (.del (profileKey providerId)))
      pure result : Reviews.Call Reviews.Response)) := by
  rw [Prog.embedCall_bind, Prog.embedCall_transaction]
  refine hh.obeys_transaction (hbody _ hh.inside) fun result h hh => ⟨fun _ => hh.1, fun r => ?_⟩
  have hsettled := hh.settled (s := .redisDel (profileKey providerId))
    (fun hid => by rw [hid]; exact beq_self_eq_true _) (fun _ => rfl)
  exact (hsettled r).squared

/-- What writes the review, and the recalculation. -/
theorem inside_rated {s : Reviews.Stmt} {f : Reviews.Ans s → Reviews.ProviderMetrics → Reviews.Response}
    (now : Time) (hshows : ∀ a, Stmt.shows p (reviewStmt now s) a = false)
    (halone : (reviewStmt now s).alone = false)
    (hh : Inside (Stmt.shows p) (Stmt.deletes p) Owned (providerId = p) h) :
    Obeys (Orderly (Stmt.shows p) (Stmt.deletes p) Stmt.alone)
      (fun h _ => Inside (Stmt.shows p) (Stmt.deletes p) Owned (providerId = p) h) h
      (autocommit Empty (Prog.embed (reviewing now) (do
        let review ← Reviews.query s
        let metrics ← Reviews.recalculate providerId
        pure (f review metrics)))) := by
  rw [Prog.embed_perform_bind]
  refine hh.obeys_stmt halone (fun a _ hshown => ?_) fun review hh => ?_
  · rw [show Stmt.shows p ((reviewing now).stmt s) a = false from hshows a] at hshown
    cases hshown
  · have hrecalculate : ∀ h, Inside (Stmt.shows p) (Stmt.deletes p) Owned (providerId = p) h →
        Obeys (Orderly (Stmt.shows p) (Stmt.deletes p) Stmt.alone)
          (fun h _ => Inside (Stmt.shows p) (Stmt.deletes p) Owned (providerId = p) h) h
          (autocommit Empty (Prog.embed (reviewing now) (Reviews.recalculate providerId))) := by
      intro h hh
      unfold Reviews.recalculate Reviews.ReviewRepository.aggregateProviderRating
        Reviews.ReviewRepository.updateProviderRatingStats
      rw [Prog.embed_perform_bind]
      refine hh.obeys_stmt rfl nofun fun agg hh => ?_
      rw [Prog.embed_perform_bind]
      exact hh.obeys_stmt rfl (fun _ _ hshown => eq_of_beq hshown) fun _ hh => hh
    rw [Prog.embed_bind, autocommit_bind]
    refine obeys_bind.mpr ((hrecalculate _ hh).mono (fun _ _ hq => hq) ?_)
    rintro h' (e | metrics) hinside
    · exact hinside
    · exact hinside

theorem settles_review (js : Builtins) (now : Time) (o : Reviews.Op) (hh : IsClean p h) :
    Settles p h (review js now o) := by
  cases o with
  | createReview id createdAt customerId dto pathBookingId =>
      unfold review Reviews.program Reviews.createReview Reviews.ReviewRepository.findByBookingId
      rw [Prog.embedCall_bind, Prog.embedCall_orThrow]
      refine settles_orThrow hh fun bookingId _ => ?_
      rw [Prog.embedCall_stmt_bind]
      refine hh.obeys_stmt (fun _ => rfl) fun found hh => ?_
      rw [Prog.embedCall_bind, Prog.embedCall_orThrow]
      refine settles_orThrow hh fun booking _ => ?_
      rw [Prog.embedCall_bind, Prog.embedCall_throwIf]
      refine settles_throwIf hh ?_
      rw [Prog.embedCall_bind, Prog.embedCall_throwIf]
      refine settles_throwIf hh ?_
      rw [Prog.embedCall_stmt_bind]
      refine hh.obeys_stmt (fun _ => rfl) fun existing hh => ?_
      rw [Prog.embedCall_bind, Prog.embedCall_throwIf]
      refine settles_throwIf hh (settles_rated now hh fun h hh => ?_)
      exact inside_rated now (fun _ => rfl) rfl hh
  | updateReview customerId reviewId dto =>
      unfold review Reviews.program Reviews.updateReview Reviews.ReviewRepository.findById
      rw [Prog.embedCall_stmt_bind]
      refine hh.obeys_stmt (fun _ => rfl) fun found hh => ?_
      rw [Prog.embedCall_bind, Prog.embedCall_orThrow]
      refine settles_orThrow hh fun review _ => ?_
      rw [Prog.embedCall_bind, Prog.embedCall_throwIf]
      refine settles_throwIf hh ?_
      rw [Prog.embedCall_ite]
      split
      · exact settles_rated now hh fun h hh => inside_rated now (fun _ => rfl) rfl hh
      · rw [Reviews.ReviewRepository.update, Prog.embedCall_stmt_bind]
        exact hh.obeys_stmt (fun _ => rfl) fun _ hh => hh.squared

theorem settles_map {f : α → β} {c : Call α} (hc : Settles p h c) : Settles p h (c.map f) := by
  refine obeys_map.mpr (hc.mono (fun _ _ hq => hq) ?_)
  rintro h' (e | a) hsquared
  · exact hsquared
  · exact hsquared

end

/-- The profile that the request creates. -/
def Op.creates : Op → Option Uuid
  | .createProfile id _ _ _ _ => some id
  | _ => none

/-- **Every request settles** what it owes, one of `p` and one of others. -/
theorem program_settles (js : Builtins) {p : Uuid} {o : Op} (ho : o.creates ≠ some p) :
    Settles p [] (program js o) := by
  have hclean : IsClean p [] := ⟨rfl, rfl⟩
  cases o with
  | createProfile id locationId now userId dto =>
      exact settles_map (settles_createProfile id locationId now userId dto
        (fun hid => ho (congrArg some hid)) hclean)
  | updateOwnProfile now userId dto => exact settles_map (settles_updateOwnProfile now userId dto hclean)
  | uploadDocument id now userId documentType stored =>
      exact settles_map (settles_uploadDocument id now userId documentType stored hclean)
  | createOffering id now providerId dto => exact settles_map (settles_createOffering id now dto hclean)
  | updateOffering now providerId id dto => exact settles_map (settles_updateOwn now id dto hclean)
  | removeOffering now providerId id => exact settles_map (settles_updateOwn now id _ hclean)
  | verifyProvider r id =>
      exact settles_map (settles_findOne id hclean fun _ _ hh => settles_changeStatus r id _ _ _ hh)
  | rejectProvider r id reason =>
      exact settles_map (settles_findOne id hclean fun _ _ hh => settles_changeStatus r id _ _ _ hh)
  | suspendProvider r id =>
      exact settles_map (settles_findOne id hclean fun _ _ hh =>
        settles_throwIf hh (settles_changeStatus r id _ _ _ hh))
  | getPublicProfileById now id => exact settles_map (settles_getPublicProfileById now id hclean)
  | searchPublicProviders now q => exact settles_map (settles_searchPublicProviders js now q hclean)
  | review now o => exact settles_map (settles_review js now o hclean)

/-! ## Runs -/

/-- The call has written the profile, and has yet to delete its key. -/
abbrev owesDeletion (p : Uuid) (P : Caller) : Bool := Proc.owes (Stmt.shows p) (Stmt.deletes p) P

/-- What the statement stores under the key. -/
def Stmt.stored (p : Uuid) : Stmt → Option Cached
  | .redisSet _ key value _ => if key = profileKey p then some value else none
  | _ => none

/-- What is stored is still the profile, or a call has yet to delete the key;
and no statement fails between a write of the profile and the deletion. -/
def Prompt (p : Uuid) (c : System) (e : Event Op Exn) : Prop :=
  Undisturbed (Stmt.shows p) (Stmt.deletes p) c e ∧
    match e with
    | .spawn o => o.creates ≠ some p
    | .exec q => ∀ P ∈ c.procs[q]?, ∀ s ∈ P.stmt?, ∀ v ∈ s.stored p,
        (c.db.publicProfile p).map Cached.profile = some v ∨ ∃ Q ∈ c.procs, owesDeletion p Q = true
    | .fail _ _ => True

instance (p : Uuid) (c : System) : ∀ e, Decidable (Prompt p c e)
  | .spawn o => inferInstanceAs (Decidable (_ ∧ o.creates ≠ some p))
  | .exec q => inferInstanceAs (Decidable (_ ∧ ∀ P ∈ c.procs[q]?, ∀ s ∈ P.stmt?, ∀ v ∈ s.stored p, _))
  | .fail _ _ => inferInstanceAs (Decidable (_ ∧ True))

section
variable {js : Builtins} {p : Uuid} {db : Db} {c : System}

theorem sameOwner_of_run (hrun : Run (program js) (Prompt p) ⟨db, []⟩ c) :
    Versions SameOwner c := by
  refine Run.versions rfl (fun c e _ hver _ => ?_) hrun
  exact hver.writesIn (fun _ _ _ h h' => h.trans h') fun _ _ _ hexec => sameOwner_of_written hexec

theorem orderly_of_run (hrun : Run (program js) (Prompt p) ⟨db, []⟩ c) : ∀ P ∈ c.procs,
    Settles p P.hist P.prog ∧ Obeyed (Orderly (Stmt.shows p) (Stmt.deletes p) Stmt.alone) P.hist := by
  have hspawn : ∀ c o, Prompt p c (.spawn o) → Settles p [] (program js o) :=
    fun _ _ hok => program_settles js hok.2
  exact fun P hP => ⟨Run.obeys hspawn rfl hrun P hP, Run.obeyed hspawn rfl hrun P hP⟩

/-- The provider of an offering never changes. -/
theorem owned_of_run (hrun : Run (program js) (Prompt p) ⟨db, []⟩ c) :
    ∀ P ∈ c.procs, Answered Owned P.hist := by
  refine Run.answered (fun c q P s k a hrun _ hP hk hexec => ?_) rfl hrun
  cases s with
  | updateOffering now id data =>
      intro o₀ hread
      have hmem := List.mem_of_getElem? hP
      obtain ⟨hobeys, hobeyed⟩ := orderly_of_run hrun P hmem
      rw [hk] at hobeys
      have hout : sinceBegin P.hist = none := hobeys.1 rfl
      obtain ⟨h', hsuffix, hreadout⟩ := hobeyed.of_mem hread
      obtain ⟨c₁, hrun₁, hrun₂, hexec₁⟩ := Run.seen rfl hrun hmem hsuffix (hreadout rfl)
      obtain ⟨r, hr, hsame⟩ := Run.related (fun x => (show SameOwner x x from rfl))
        (fun _ _ _ h h' => h.trans h') rfl (fun c e _ hver _ => hver.writesIn
          (fun _ _ _ h h' => h.trans h') fun _ _ _ hexec => sameOwner_of_written hexec) hrun₁ hrun₂
        (k := .providerService id) (r := .providerService o₀) (by
          have hfound : c₁.db.providerServices.find? id = some o₀ := Except.ok.inj hexec₁
          exact Option.map_eq_some_iff.mpr ⟨o₀, hfound, rfl⟩)
      obtain ⟨o, ho, rfl⟩ := Option.map_eq_some_iff.mp hr
      have hview : view c.db P = c.db := by
        have htx := Run.tx_eq rfl hrun P hmem
        rw [view, Proc.pending, htx, hout]
        rfl
      rw [hview] at hexec
      obtain ⟨o', ho', ha⟩ := Db.updateOffering_ok hexec
      obtain rfl := Option.some.inj (ho.symm.trans ho')
      rw [ha]
      exact (Option.some.inj hsame).symm
  | _ => trivial

/-- A key of Redis is written by its own commands. -/
theorem entry_of_written {s : Stmt} {a : Ans s} {w : Row} (hw : w ∈ s.written a)
    (hkey : w.key = .entry (profileKey p)) : s.deletes p = true ∨ (s.stored p).isSome = true := by
  cases s with
  | redisDel key =>
      cases List.mem_singleton.mp hw
      exact Or.inl (beq_iff_eq.mpr (Key.entry.inj hkey))
  | redisSet now key value ttl =>
      cases List.mem_singleton.mp hw
      exact Or.inr (by rw [Stmt.stored, if_pos (Key.entry.inj hkey)]; rfl)
  | createProvider q l =>
      rcases List.mem_cons.mp hw with rfl | hw
      · cases hkey
      · cases List.mem_singleton.mp hw
        cases hkey
  | updateProvider now id data =>
      rcases List.mem_cons.mp hw with rfl | hw
      · cases hkey
      · obtain ⟨l, _, rfl⟩ := List.mem_map.mp hw
        cases hkey
  | updateDocuments providerId data =>
      obtain ⟨d, _, rfl⟩ := List.mem_map.mp hw
      cases hkey
  | _ =>
      first
      | exact absurd hw List.not_mem_nil
      | cases List.mem_singleton.mp hw
        cases hkey

theorem alone_of_deletes (s : Stmt) (hs : s.deletes p = true) : s.alone = true := by
  cases s with
  | redisDel key => rfl
  | _ => cases hs

/-- After the deletion there is nothing under the key. -/
theorem coherent_of_deletes {s : Stmt} {a : Ans s} (hs : s.deletes p = true) :
    (puts db (s.written a)).Coherent p := by
  cases s with
  | redisDel key =>
      obtain rfl := eq_of_beq hs
      intro e he
      have hnone : Function.update db.redis.entries (profileKey p) none (profileKey p) = some e := he
      rw [Function.update_self] at hnone
      cases hnone
  | _ => cases hs

/-- A statement that writes no row of the profile leaves what is under the key
as it should be, if it stores what it should. -/
theorem coherent_of_stmt {s : Stmt} {a : Ans s} (hdb : db.Coherent p) (hexec : db.exec s = .ok a)
    (hfree : s.deletes p = true ∨ s.shows p a = false)
    (hstored : ∀ v ∈ s.stored p, (db.publicProfile p).map Cached.profile = some v) :
    (puts db (s.written a)).Coherent p := by
  by_cases hdeletes : s.deletes p = true
  · exact coherent_of_deletes hdeletes
  cases hstores : s.stored p with
  | some v =>
      cases s with
      | redisSet now key value ttl =>
          simp only [Stmt.stored] at hstores hstored
          split at hstores
          · rename_i hkey
            subst hkey
            obtain rfl := Option.some.inj hstores
            intro e he
            have hentry : Function.update db.redis.entries (profileKey p)
                (some ⟨value, now + 1000 * ttl⟩) (profileKey p) = some e := he
            rw [Function.update_self] at hentry
            obtain rfl := Option.some.inj hentry
            exact hstored value (if_pos rfl)
          · cases hstores
      | _ => cases hstores
  | none =>
      refine coherent_puts hdb fun w hw => ?_
      have howner := owner_of_written hexec (hfree.resolve_left hdeletes) w hw
      refine ⟨howner, fun r hr => ?_, fun hkey => ?_⟩
      · rcases sameOwner_of_written hexec w hw with hnone | ⟨r', hr', hsame⟩
        · cases hnone.symm.trans hr
        · obtain rfl := Option.some.inj (hr'.symm.trans hr)
          exact fun h => howner (hsame.symm.trans h)
      · rcases entry_of_written hw hkey with h | h
        · exact hdeletes h
        · rw [hstores] at h
          cases h

/-- The rows of a transaction are those of a review. -/
theorem coherent_of_commit {P : Caller} {l : List ((s : Stmt) × Ans s)}
    (hrun : Run (program js) (Prompt p) ⟨db, []⟩ c) (hP : P ∈ c.procs)
    (hopen : sinceBegin P.hist = some l) (hshows : ∀ x ∈ l, x.1.shows p x.2 = false)
    (hdb : c.db.Coherent p) : (puts c.db (rowsOf Db l)).Coherent p := by
  have hversions := sameOwner_of_run hrun
  obtain ⟨_, hobeyed⟩ := orderly_of_run hrun P hP
  refine coherent_puts hdb fun w hw => ?_
  obtain ⟨x, hx, hw⟩ := mem_rowsOf.mp hw
  have hx' : x ∈ (sinceBegin P.hist).getD [] := by rwa [hopen]
  obtain ⟨db', hexec⟩ := Run.executed rfl hrun hP (mem_of_sinceBegin hx')
  have howner := owner_of_written hexec (hshows x hx) w hw
  refine ⟨howner, fun r hr => ?_, fun hkey => ?_⟩
  · have hsame := hversions P hP w (Run.mem_pending rfl hrun hP hx' hw) r hr
    exact fun h => howner (hsame.symm.trans h)
  · have halone := alone_of_mem hobeyed hx'
    rcases entry_of_written hw hkey with h | h
    · rw [alone_of_deletes x.1 h] at halone
      cases halone
    · obtain ⟨s, a⟩ := x
      cases s with
      | redisSet now key value ttl => cases halone
      | _ => cases h

/-- What is stale is owed a deletion. -/
theorem owed_of_run (hdb : db.Coherent p) (hrun : Run (program js) (Prompt p) ⟨db, []⟩ c)
    (hstale : ¬ c.db.Coherent p) : ∃ P ∈ c.procs, owesDeletion p P = true := by
  refine Run.owed (fun db => ¬ db.Coherent p) alone_of_deletes (not_not_intro hdb) rfl
    (fun c hrun P hP => ?_) (fun c q P s k a _ hok hP hk _ hexec hfree hstale => ?_)
    (fun c P l hrun hP hopen hshows => mt fun hdb => ?_) hrun hstale
  · obtain ⟨hsettles, hobeyed⟩ := orderly_of_run hrun P hP
    exact ⟨hsettles.mono (fun _ _ hq => hq) fun _ _ _ => trivial, hobeyed⟩
  · have hstored := hok.2 P hP s (Proc.stmt?_eq hk)
    constructor
    · by_contra hdeletes
      exact hstale (coherent_of_deletes (by simpa using hdeletes))
    · by_contra hnot
      simp only [not_or, not_not] at hnot
      exact hstale (coherent_of_stmt hnot.1 hexec hfree fun v hv => (hstored v hv).resolve_right hnot.2)
  · exact coherent_of_commit hrun hP hopen hshows hdb

end

instance (p : Uuid) (db : Db) : Decidable (db.Coherent p) :=
  inferInstanceAs (Decidable (∀ e ∈ db.redis.entries (profileKey p), _))

namespace Sample

/-- Somebody looks at the profile. -/
def look : Op := .getPublicProfileById 0 "provider"

/-- The owner changes the name. -/
def changeName : Op := .updateOwnProfile 0 "owner" (nameOnly "Zenith" (by decide))

/-- The reader stores after the write, before the deletion; another one stores
after it. -/
def storedInTime : List (Event Op Exn) :=
  .spawn look :: steps 0 2 ++ .spawn changeName :: steps 1 3 ++ steps 0 1 ++ steps 1 2 ++
    .spawn look :: steps 2 3

/-- The reader stores after the deletion. -/
def storedLate : List (Event Op Exn) :=
  .spawn look :: steps 0 2 ++ .spawn changeName :: steps 1 5 ++ steps 0 1

end Sample

end ServiceHub.Providers
