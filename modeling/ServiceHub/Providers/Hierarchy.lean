/-
# `Providers.Hierarchy` — what is offered is active

An active service belongs to an active category, and an active offering is one
of an active service.  A removal is refused while something active depends on
what is removed, and an offering is created of an active service only.

**What fails.**  `CategoryService.update` takes `isActive: false` without asking
for services, `ServiceService.create` and `update` ask whether a category is
there and not whether it is active, and `ProviderServiceService.update` takes
`isActive: true` without asking for the service (`not_hierarchy_kept`).

**What holds.**  `RespectsActivity` asks these four things.  Requests that meet
it keep the hierarchy, in any order (`hierarchy_kept`).
-/
import ServiceHub.Providers.Requests
import ServiceHub.Catalog.Effects

namespace ServiceHub.Providers

open Data Txn

/-! ## The hierarchy -/

/-- The category is active. -/
def Db.activeCategory (db : Db) (id : Uuid) : Bool := (db.categories.find? id).any (·.isActive)

def Db.activeService (db : Db) (id : Uuid) : Bool := (db.services.find? id).any (·.isActive)

/-- Every active service belongs to an active category, and every active
offering is one of an active service. -/
def Db.Hierarchy (db : Db) : Prop :=
  (∀ s ∈ db.services.rows, s.isActive = true → db.activeCategory s.categoryId = true) ∧
    ∀ o ∈ db.providerServices.rows, o.isActive = true → db.activeService o.serviceId = true

instance (db : Db) : Decidable db.Hierarchy := inferInstanceAs (Decidable (_ ∧ _))

section
variable {db : Db}

theorem activeCategory_iff {id : Uuid} :
    db.activeCategory id = true ↔ ∃ c, db.categories.find? id = some c ∧ c.isActive = true :=
  Option.any_eq_true _ _

theorem activeService_iff {id : Uuid} :
    db.activeService id = true ↔ ∃ s, db.services.find? id = some s ∧ s.isActive = true :=
  Option.any_eq_true _ _

/-- A category is put that is active, or has no active service. -/
theorem Db.Hierarchy.putCategory (h : db.Hierarchy) {c : Catalog.Category}
    (hc : c.isActive = true ∨ ∀ s ∈ db.services.rows, s.categoryId = c.id → s.isActive = false) :
    Db.Hierarchy { db with categories := db.categories.put c } := by
  refine ⟨fun s hs hactive => ?_, h.2⟩
  refine activeCategory_iff.mpr ?_
  simp only [Table.find?_put]
  by_cases hid : c.id = s.categoryId
  · rw [if_pos hid]
    rcases hc with hc | hc
    · exact ⟨c, rfl, hc⟩
    · rw [hc s hs hid.symm] at hactive
      cases hactive
  · rw [if_neg hid]
    exact activeCategory_iff.mp (h.1 s hs hactive)

/-- A service is put whose category is active if it is, and that is active or
has no active offering. -/
theorem Db.Hierarchy.putService (h : db.Hierarchy) {s : Catalog.Service}
    (hcategory : s.isActive = true → db.activeCategory s.categoryId = true)
    (hs : s.isActive = true ∨
      ∀ o ∈ db.providerServices.rows, o.serviceId = s.id → o.isActive = false) :
    Db.Hierarchy { db with services := db.services.put s } := by
  refine ⟨fun s' hs' hactive => ?_, fun o ho hactive => ?_⟩
  · rcases Table.mem_put.mp hs' with rfl | ⟨hs', _⟩
    · exact hcategory hactive
    · exact h.1 s' hs' hactive
  · refine activeService_iff.mpr ?_
    simp only [Table.find?_put]
    by_cases hid : s.id = o.serviceId
    · rw [if_pos hid]
      rcases hs with hs | hs
      · exact ⟨s, rfl, hs⟩
      · rw [hs o ho hid.symm] at hactive
        cases hactive
    · rw [if_neg hid]
      exact activeService_iff.mp (h.2 o ho hactive)

/-- An offering is put whose service is active if it is. -/
theorem Db.Hierarchy.putOffering (h : db.Hierarchy) {o : ProviderService}
    (hservice : o.isActive = true → db.activeService o.serviceId = true) :
    (db.put (.providerService o)).Hierarchy := by
  refine ⟨h.1, fun o' ho' hactive => ?_⟩
  rcases Table.mem_put.mp ho' with rfl | ⟨ho', _⟩
  · exact hservice hactive
  · exact h.2 o' ho' hactive

theorem Db.Hierarchy.invalidated (h : db.Hierarchy) (providerId : Uuid) :
    (db.invalidated providerId).Hierarchy := by
  obtain ⟨redis, version, heq⟩ := db.invalidated_eq providerId
  rw [heq]
  exact h

end

/-! ## Requests -/

/-- The requests of the catalog, and those that change an offering. -/
def Request.ofHierarchy : Request → Bool
  | .catalog _ _ => true
  | .provider (.createOffering _ _ _ _) => true
  | .provider (.updateOffering _ _ _ _) => true
  | .provider (.removeOffering _ _ _) => true
  | _ => false

/-- A category is deactivated by an update only if it has no active service, a
service is created in an active category, or moved to one if it is active, and
an offering is activated by an update only if its service is active. -/
def RespectsActivity (w : World) : Request → Prop
  | .catalog _ (.updateCategory id dto) => dto.isActive = some false →
      ∀ s ∈ w.db.services.rows, s.categoryId = id → s.isActive = false
  | .catalog _ (.createService _ dto) =>
      ∀ c ∈ w.db.categories.find? dto.categoryId, c.isActive = true
  | .catalog _ (.updateService id dto) => ∀ s ∈ w.db.services.find? id, s.isActive = true →
      ∀ categoryId ∈ dto.categoryId, ∀ c ∈ w.db.categories.find? categoryId, c.isActive = true
  | .provider (.updateOffering _ _ id dto) => dto.isActive = some true →
      ∀ o ∈ w.db.providerServices.find? id, w.db.activeService o.serviceId = true
  | _ => True

instance (w : World) : ∀ r, Decidable (RespectsActivity w r) := by
  intro r
  unfold RespectsActivity
  split <;> infer_instance

section
variable {js : Builtins} {w : World}

/-- The step lemma for the catalog. -/
theorem hierarchy_of_effect (h : w.db.Hierarchy) {now : Time} {op : Catalog.Op}
    (hok : RespectsActivity w (.catalog now op)) {cache : Catalog.Redis} {db' : Catalog.Db}
    (heffect : Catalog.Effect ⟨w.db.catalog, cache, now⟩ op db') :
    Db.Hierarchy { w.db with categories := db'.categories, services := db'.services } := by
  cases op with
  | findCategories q =>
      subst heffect
      exact h
  | createCategory id dto =>
      obtain ⟨hfresh, slug, rfl⟩ := heffect
      refine h.putCategory (Or.inr fun s hs hid => ?_)
      -- an active service has a category already
      by_contra hactive
      obtain ⟨c, hc, _⟩ := activeCategory_iff.mp (h.1 s hs (by simpa using hactive))
      rw [hid] at hc
      exact absurd (hfresh.symm.trans hc) (by simp)
  | updateCategory id dto =>
      obtain ⟨c, slug, hc, rfl⟩ := heffect
      have hcid : c.id = id := Table.key_of_find? hc
      refine h.putCategory ?_
      cases hset : dto.isActive with
      | some active =>
          cases active with
          | true => exact Or.inl (by simp [Catalog.CategoryUpdate.apply, hset])
          | false =>
              refine Or.inr fun s hs hid => hok hset s hs ?_
              exact hid.trans hcid
      | none =>
          cases hactive : c.isActive with
          | true => exact Or.inl (by simp [Catalog.CategoryUpdate.apply, hset, hactive])
          | false =>
              refine Or.inr fun s hs hid => ?_
              by_contra hs'
              obtain ⟨c', hc', hactive'⟩ := activeCategory_iff.mp (h.1 s hs (by simpa using hs'))
              rw [show s.categoryId = id from hid.trans hcid] at hc'
              obtain rfl := Option.some.inj (hc.symm.trans hc')
              rw [hactive] at hactive'
              cases hactive'
  | removeCategory id =>
      obtain ⟨hnone, c, hc, rfl⟩ := heffect
      have hcid : c.id = id := Table.key_of_find? hc
      exact h.putCategory (Or.inr fun s hs hid => hnone s hs (hid.trans hcid))
  | findServices q =>
      subst heffect
      exact h
  | createService id dto =>
      obtain ⟨hfresh, hcategory, slug, rfl⟩ := heffect
      obtain ⟨c, hc⟩ := Option.isSome_iff_exists.mp hcategory
      refine h.putService (fun _ => activeCategory_iff.mpr ⟨c, hc, hok c hc⟩) (Or.inl rfl)
  | updateService id dto =>
      obtain ⟨s, slug, hs, hcategory, rfl⟩ := heffect
      have hsid := Table.key_of_find? hs
      refine h.putService (fun hactive => ?_) ?_
      · obtain ⟨c, hc⟩ := Option.isSome_iff_exists.mp hcategory
        cases hmove : dto.categoryId with
        | some categoryId =>
            have hc : w.db.categories.find? categoryId = some c := by rwa [hmove] at hc
            refine activeCategory_iff.mpr ⟨c, ?_, hok s hs hactive categoryId hmove c hc⟩
            simpa [Catalog.ServiceUpdate.apply, hmove] using hc
        | none =>
            have hkept := h.1 s (Table.mem_of_find? hs) hactive
            simpa [Catalog.ServiceUpdate.apply, hmove] using hkept
      · cases hactive : s.isActive with
        | true => exact Or.inl hactive
        | false =>
            refine Or.inr fun o ho hid => ?_
            by_contra ho'
            obtain ⟨s', hs', hactive'⟩ := activeService_iff.mp (h.2 o ho (by simpa using ho'))
            rw [show o.serviceId = id from hid.trans hsid] at hs'
            obtain rfl := Option.some.inj (Eq.trans (Eq.symm hs) hs')
            rw [hactive] at hactive'
            cases hactive'
  | removeService id =>
      obtain ⟨hnone, s, hs, rfl⟩ := heffect
      have hsid := Table.key_of_find? hs
      refine h.putService nofun (Or.inr fun o ho hid => ?_)
      exact hnone o.toProviderService (List.mem_map_of_mem ho) (hid.trans hsid)

theorem hierarchy_serveCatalog (h : w.db.Hierarchy) (now : Time) (op : Catalog.Op)
    (hok : RespectsActivity w (.catalog now op)) :
    (w.serveCatalog js now op).2.db.Hierarchy := by
  have hdoes := Catalog.call_does (w.db.catalogEngine js) ⟨w.db.catalog, w.catalogCache, now⟩ op
  unfold Prog.Post at hdoes
  unfold World.serveCatalog
  cases hresult : ((Catalog.call (w.db.catalogEngine js) op).handle
      (Catalog.World.exec (w.db.catalogEngine js)) ⟨w.db.catalog, w.catalogCache, now⟩).1 with
  | ok r =>
      rw [hresult] at hdoes
      exact hierarchy_of_effect h hok hdoes
  | error e =>
      rw [hresult] at hdoes
      -- as a listing: nothing is written
      have hlisting : RespectsActivity w (.catalog now (.findCategories ⟨none, none, none, none⟩)) :=
        trivial
      exact hierarchy_of_effect h hlisting hdoes

/-- An offering that is written keeps the hierarchy if its service is active. -/
theorem hierarchy_of_offeringWritten (h : w.db.Hierarchy) {o : Op}
    {p : Call ProviderService} (hp : program js o = p.map .offering) {providerId : Uuid}
    {W : ProviderService → Prop} (hends : p.Ends w.db (OfferingWritten w.db providerId W))
    (hW : ∀ x, W x → x.isActive = true → w.db.activeService x.serviceId = true) :
    (w.serveProvider js o).2.db.Hierarchy := by
  obtain ⟨db', log', r, hserial, hr⟩ := Prog.Ends.map (Q := fun db' _ => db'.Hierarchy)
    (f := Response.offering) (hends.mono fun db' r hr => by
      cases r with
      | ok x =>
          obtain ⟨hx, rfl⟩ := hr
          exact (h.putOffering (hW x hx)).invalidated providerId
      | error e =>
          obtain rfl := hr
          exact h) []
  unfold World.serveProvider
  rw [hp, hserial]
  exact hr

/-- **The step lemma.** -/
theorem hierarchy_serve (h : w.db.Hierarchy) {r : Request} (hr : r.ofHierarchy = true)
    (hok : RespectsActivity w r) : (w.serve js r).2.db.Hierarchy := by
  cases r with
  | catalog now op => exact hierarchy_serveCatalog h now op hok
  | setAvailibity o => cases hr
  | updateStatus auditId now id status adminUserId => cases hr
  | provider o =>
      cases o with
      | createOffering id now providerId dto =>
          refine hierarchy_of_offeringWritten h rfl (createOffering_ends id now providerId dto) ?_
          rintro x ⟨_, s, hs, hactive⟩ _
          exact activeService_iff.mpr ⟨s, hs, hactive⟩
      | updateOffering now providerId id dto =>
          refine hierarchy_of_offeringWritten h rfl (updateOffering_ends now providerId id dto) ?_
          rintro x ⟨o, ho, rfl⟩ hactive
          cases hset : dto.isActive with
          | some active =>
              have hactive : dto.isActive.getD o.isActive = true := hactive
              rw [hset] at hactive
              exact hok (hset.trans (congrArg some hactive)) o ho
          | none =>
              have hactive : dto.isActive.getD o.isActive = true := hactive
              rw [hset] at hactive
              exact h.2 o (Table.mem_of_find? ho) hactive
      | removeOffering now providerId id =>
          refine hierarchy_of_offeringWritten h rfl (removeOffering_ends now providerId id) ?_
          rintro x ⟨o, _, rfl⟩ hactive
          cases hactive
      | _ => cases hr

end

/-- **The hierarchy is kept**, by any requests that respect it. -/
theorem hierarchy_kept (js : Builtins) (w : World) (rs : List Request) (hw : w.db.Hierarchy)
    (hrs : ∀ r ∈ rs, r.ofHierarchy = true) (hok : w.Meets js RespectsActivity rs) :
    (w.after js rs).db.Hierarchy := by
  induction rs generalizing w with
  | nil => exact hw
  | cons r rs ih =>
      refine ih (w.serve js r).2 ?_ (fun x hx => hrs x (List.mem_cons_of_mem _ hx)) hok.2
      exact hierarchy_serve hw (hrs r List.mem_cons_self) hok.1

/-! ## Requests that break it -/

namespace Sample

/-- The category is switched off. -/
def deactivate : Request :=
  .catalog 1 (.updateCategory "category" ⟨none, none, none, none, some false⟩)

/-- A service of a category that is switched off. -/
def inInactive : List Request :=
  [.catalog 1 (.createCategory "empty" ⟨"Empty", none, none, 0, false⟩),
    .catalog 2 (.createService "new" ⟨"empty", "New", none, .online, none⟩)]

/-- A service is moved to a category that is switched off. -/
def moved : List Request :=
  [.catalog 1 (.createCategory "empty" ⟨"Empty", none, none, 0, false⟩),
    .catalog 2 (.updateService "service" ⟨some "empty", none, none, none⟩)]

/-- The offering and its service are removed, and the offering is switched on
again. -/
def revived : List Request :=
  [.provider (.removeOffering 1 "provider" "offering"), .catalog 2 (.removeService "service"),
    .provider (.updateOffering 3 "provider" "offering"
      { isActive := some true, durationMinutes_pos := OfferingUpdate.no_duration })]

/-- The offering, its service and its category are removed in this order, and
another category is switched off. -/
def orderly : List Request :=
  [.provider (.removeOffering 1 "provider" "offering"), .catalog 2 (.removeService "service"),
    .catalog 3 (.removeCategory "category"),
    .catalog 4 (.createCategory "empty" ⟨"Empty", none, none, 0, true⟩),
    .catalog 5 (.updateCategory "empty" ⟨none, none, none, none, some false⟩)]

end Sample

theorem hierarchy_kept_sample :
    (Sample.world.after Sample.js Sample.orderly).db.categories.rows.map (·.isActive) =
      [false, false] ∧
    (Sample.world.after Sample.js Sample.orderly).db.Hierarchy :=
  ⟨by decide +kernel, hierarchy_kept Sample.js Sample.world Sample.orderly (by decide +kernel)
    (by decide) (by decide +kernel)⟩

/-- Each of the four steps alone breaks it. -/
theorem not_hierarchy_kept : Sample.world.db.Hierarchy ∧
    ¬ (Sample.world.after Sample.js [Sample.deactivate]).db.Hierarchy ∧
    ¬ (Sample.world.after Sample.js Sample.inInactive).db.Hierarchy ∧
    ¬ (Sample.world.after Sample.js Sample.moved).db.Hierarchy ∧
    ¬ (Sample.world.after Sample.js Sample.revived).db.Hierarchy := by
  decide +kernel

end ServiceHub.Providers
