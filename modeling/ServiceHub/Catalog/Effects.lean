/-
# `Catalog.Effects` — what a request changes in the catalog

`Effect w op db'` says what the tables are after a request that completes, row
by row: which row was there, and what was put in its place.  A request that is
refused changes nothing (`call_does`).
-/
import ServiceHub.Catalog.Transparency

namespace ServiceHub.Catalog

open Data Txn

section
variable (w : World)

/-- What the tables are after a request that completed. -/
def Effect : Op → Db → Prop
  | .findCategories _, db' => db' = w.db
  | .createCategory id dto, db' => w.db.categories.find? id = none ∧
      ∃ slug, db' =
        { w.db with categories := w.db.categories.put (newCategory w.now id slug dto) }
  | .updateCategory id dto, db' => ∃ c slug, w.db.categories.find? id = some c ∧
      db' = { w.db with
        categories := w.db.categories.put (CategoryUpdate.apply w.now ⟨dto, slug⟩ c) }
  | .removeCategory id, db' =>
      (∀ s ∈ w.db.services.rows, s.categoryId = id → s.isActive = false) ∧
      ∃ c, w.db.categories.find? id = some c ∧
        db' = { w.db with
          categories := w.db.categories.put { c with isActive := false, updatedAt := w.now } }
  | .findServices _, db' => db' = w.db
  | .createService id dto, db' => w.db.services.find? id = none ∧
      (w.db.categories.find? dto.categoryId).isSome ∧
      ∃ slug, db' = { w.db with services := w.db.services.put (newService w.now id slug dto) }
  | .updateService id dto, db' => ∃ s slug, w.db.services.find? id = some s ∧
      (w.db.categories.find? (dto.categoryId.getD s.categoryId)).isSome ∧
      db' = { w.db with services := w.db.services.put (ServiceUpdate.apply w.now ⟨dto, slug⟩ s) }
  | .removeService id, db' =>
      (∀ o ∈ w.db.providerServices.rows, o.serviceId = id → o.isActive = false) ∧
      ∃ s, w.db.services.find? id = some s ∧
        db' = { w.db with
          services := w.db.services.put { s with isActive := false, updatedAt := w.now } }

/-- Refused, with the tables as they were, or done. -/
def Does {α : Type} (E : Db → Prop) (r : Except Exn α) (w' : World) : Prop :=
  match r with
  | .ok _ => E w'.db
  | .error _ => w'.db = w.db

end

section
variable {e : Engine} {w : World} {α β : Type} {E : Db → Prop}

theorem Does.mono {E' : Db → Prop} {r : Except Exn α} {w' : World} (h : Does w E r w')
    (hE : ∀ db, E db → E' db) : Does w E' r w' := by
  cases r with
  | ok a => exact hE _ h
  | error x => exact h

/-- A part that only reads comes first; what it has found is known after it. -/
theorem does_bind {p : Call α} {f : α → Call β} {K : α → Prop}
    (hp : p.Post (World.exec e) w fun r w' => w' = w ∧ ∀ a, r = .ok a → K a)
    (hf : ∀ a, K a → (f a).Post (World.exec e) w (Does w E)) :
    (p >>= f).Post (World.exec e) w (Does w E) := by
  refine Prog.post_bind.mpr (hp.mono ?_)
  rintro (x | a) w' ⟨rfl, hK⟩
  · exact rfl
  · exact hf a (hK a rfl)

/-- A command that only reads. -/
theorem does_command_bind {c : Cmd} {f : c.Ans → Call β} (hreads : (World.exec e c w).2 = w)
    (hf : ∀ a, (World.exec e c w).1 = .ok a → (f a).Post (World.exec e) w (Does w E)) :
    (command c >>= f).Post (World.exec e) w (Does w E) :=
  does_bind (Prog.post_perform.mpr ⟨hreads, fun _ ha => ha⟩) hf

theorem does_throwIf_bind {c : Prop} [Decidable c] {x : Exn} {f : Unit → Call β}
    (hf : ¬ c → (f ()).Post (World.exec e) w (Does w E)) :
    ((Prog.throwIf c x : Call Unit) >>= f).Post (World.exec e) w (Does w E) :=
  does_bind (K := fun _ => ¬ c)
    (Prog.post_throwIf.mpr ⟨fun _ => ⟨rfl, nofun⟩, fun hc => ⟨rfl, fun _ _ => hc⟩⟩) fun _ => hf

theorem does_orThrow_bind {o : Option α} {x : Exn} {f : α → Call β}
    (hf : ∀ a, o = some a → (f a).Post (World.exec e) w (Does w E)) :
    ((Prog.orThrow o x : Call α) >>= f).Post (World.exec e) w (Does w E) :=
  does_bind (K := fun a => o = some a) (Prog.post_orThrow.mpr
    ⟨fun _ => ⟨rfl, nofun⟩, fun _ hb => ⟨rfl, fun _ ha => Except.ok.inj ha ▸ hb⟩⟩) hf

/-- A write, and then `del`. -/
theorem does_then_del {p : Call α} {k : CacheKey} (h : p.Post (World.exec e) w (Does w E)) :
    (do let a ← p; command (.del k); pure a : Call α).Post (World.exec e) w (Does w E) := by
  refine Prog.post_bind.mpr (h.mono ?_)
  intro r w' hr
  cases r with
  | error x => exact hr
  | ok a => exact Prog.post_bind.mpr (Prog.post_perform.mpr hr)

/-! ## Writes -/

theorem putCategory_does (c : Category) :
    Does w (fun db' => db' = { w.db with categories := w.db.categories.put c })
      (w.putCategory c).1 (w.putCategory c).2 := by
  unfold World.putCategory
  split
  · exact rfl
  · exact rfl

theorem putService_does (s : Service) :
    Does w (fun db' => (w.db.categories.find? s.categoryId).isSome ∧
        db' = { w.db with services := w.db.services.put s })
      (w.putService s).1 (w.putService s).2 := by
  unfold World.putService
  split
  · exact rfl
  · rename_i hcheck
    refine ⟨?_, rfl⟩
    simp only [Db.checkService] at hcheck
    split at hcheck
    · cases hcheck
    split at hcheck
    · cases hcheck
    split at hcheck
    · cases hcheck
    split at hcheck
    · cases hcheck
    · rename_i hcategory
      simpa [Option.isSome_iff_ne_none] using hcategory

theorem changeCategory_does (id : Uuid) (f : Category → Category) :
    Does w (fun db' => ∃ c, w.db.categories.find? id = some c ∧
        db' = { w.db with categories := w.db.categories.put (f c) })
      (w.changeCategory id f).1 (w.changeCategory id f).2 := by
  unfold World.changeCategory
  split
  · exact rfl
  · rename_i c hc
    exact (putCategory_does (f c)).mono fun db' hdb' => ⟨c, hc, hdb'⟩

theorem changeService_does (id : Uuid) (f : Service → Service) :
    Does w (fun db' => ∃ s, w.db.services.find? id = some s ∧
        (w.db.categories.find? (f s).categoryId).isSome ∧
        db' = { w.db with services := w.db.services.put (f s) })
      (w.changeService id f).1 (w.changeService id f).2 := by
  unfold World.changeService
  split
  · exact rfl
  · rename_i s hs
    exact (putService_does (f s)).mono fun db' hdb' => ⟨s, hs, hdb'⟩

/-! ## Requests -/

/-- A list, whether it is cached or not. -/
theorem getOrSet_does {k : CacheKey} (q : ListQuery k) (ttl : Int) :
    (getOrSet k (q.fetch e) ttl).Post (World.exec e) w (Does w (· = w.db)) := by
  unfold Prog.Post
  cases hget : w.redis.get w.now k with
  | some p =>
      rw [handle_getOrSet_hit hget]
      exact rfl
  | none =>
      rw [handle_getOrSet_miss hget (handle_fetch q)]
      cases q.selected e w.db with
      | error x => exact rfl
      | ok p => exact rfl

theorem createCategory_does (id : Uuid) (dto : CreateCategoryDto) :
    (CategoryService.create id dto).Post (World.exec e) w
      (Does w (Effect w (.createCategory id dto))) := by
  refine does_command_bind rfl fun isSlugExist _ => ?_
  refine does_throwIf_bind fun _ => ?_
  refine does_then_del (Prog.post_perform.mpr ?_)
  by_cases htaken : (w.db.categories.find? id).isSome = true
  · rw [World.exec, if_pos htaken]
    exact rfl
  · rw [World.exec, if_neg htaken]
    exact (putCategory_does _).mono fun db' hdb' => ⟨by simpa using htaken, _, hdb'⟩

/-- A slug is written only with a new name. -/
theorem newSlug_of_name {id : Uuid} {dto : UpdateCategoryDto} :
    (CategoryService.newSlug id dto).Post (World.exec e) w fun r w' =>
      w' = w ∧ ∀ slug, r = .ok slug → dto.name = none → slug = none := by
  refine ⟨newSlug_reads id dto, ?_⟩
  intro slug hslug hname
  rw [CategoryService.newSlug, hname] at hslug
  exact (Except.ok.inj hslug).symm

theorem updateCategory_row (id : Uuid) (dto : UpdateCategoryDto) :
    (CategoryService.update id dto).Post (World.exec e) w (Does w fun db' =>
      ∃ c slug, w.db.categories.find? id = some c ∧ (dto.name = none → slug = none) ∧
        db' = { w.db with
          categories := w.db.categories.put (CategoryUpdate.apply w.now ⟨dto, slug⟩ c) }) := by
  refine does_bind (K := fun _ => True) ((findOne_reads id).mono fun _ _ h => ⟨h, fun _ _ => trivial⟩)
    fun _ _ => ?_
  refine does_bind newSlug_of_name fun slug hslug => ?_
  refine does_then_del (Prog.post_perform.mpr ?_)
  refine (changeCategory_does id _).mono ?_
  rintro db' ⟨c, hc, hdb'⟩
  refine ⟨c, _, hc, fun hname => ?_, hdb'⟩
  rw [hslug hname]
  rfl

theorem updateCategory_does (id : Uuid) (dto : UpdateCategoryDto) :
    (CategoryService.update id dto).Post (World.exec e) w
      (Does w (Effect w (.updateCategory id dto))) := by
  refine (updateCategory_row id dto).mono fun r w' h => h.mono ?_
  rintro db' ⟨c, slug, hc, _, hdb'⟩
  exact ⟨c, slug, hc, hdb'⟩

theorem removeCategory_does (id : Uuid) :
    (CategoryService.remove id).Post (World.exec e) w
      (Does w (Effect w (.removeCategory id))) := by
  refine does_bind (K := fun _ => True) ((findOne_reads id).mono fun _ _ h => ⟨h, fun _ _ => trivial⟩)
    fun _ _ => ?_
  refine does_bind (K := fun has => has =
      decide (0 < w.db.services.rows.countP fun s => s.categoryId == id && s.isActive))
    ⟨rfl, fun _ hb => (Except.ok.inj hb).symm⟩ fun hasServices hhas => ?_
  refine does_throwIf_bind fun hnone => ?_
  refine does_then_del (Prog.post_perform.mpr ?_)
  refine (changeCategory_does id _).mono ?_
  rintro db' ⟨c, hc, hdb'⟩
  refine ⟨fun s hs hcategory => ?_, c, hc, hdb'⟩
  have hcount : ¬ 0 < w.db.services.rows.countP fun s => s.categoryId == id && s.isActive := by
    rw [hhas] at hnone
    simpa using hnone
  have hone := List.countP_eq_zero.mp (Nat.le_zero.mp (Nat.not_lt.mp hcount)) s hs
  simpa [hcategory] using hone

theorem createService_does (id : Uuid) (dto : CreateServiceDto) :
    (ServiceService.create id dto).Post (World.exec e) w
      (Does w (Effect w (.createService id dto))) := by
  refine does_command_bind rfl fun category _ => ?_
  refine does_orThrow_bind fun _ _ => ?_
  refine does_command_bind rfl fun isUnique _ => ?_
  refine does_throwIf_bind fun _ => ?_
  refine does_then_del (Prog.post_perform.mpr ?_)
  by_cases htaken : (w.db.services.find? id).isSome = true
  · rw [World.exec, if_pos htaken]
    exact rfl
  · rw [World.exec, if_neg htaken]
    exact (putService_does _).mono fun db' hdb' => ⟨by simpa using htaken, hdb'.1, _, hdb'.2⟩

theorem newServiceSlug_of_name {id targetCategoryId : Uuid} {dto : UpdateServiceDto} :
    (ServiceService.newSlug id targetCategoryId dto).Post (World.exec e) w fun r w' =>
      w' = w ∧ ∀ slug, r = .ok slug → dto.name = none → slug = none := by
  refine ⟨newServiceSlug_reads id targetCategoryId dto, ?_⟩
  intro slug hslug hname
  rw [ServiceService.newSlug, hname] at hslug
  exact (Except.ok.inj hslug).symm

theorem updateService_row (id : Uuid) (dto : UpdateServiceDto) :
    (ServiceService.update id dto).Post (World.exec e) w (Does w fun db' =>
      ∃ s slug, w.db.services.find? id = some s ∧ (dto.name = none → slug = none) ∧
        (w.db.categories.find? (dto.categoryId.getD s.categoryId)).isSome ∧
        db' = { w.db with
          services := w.db.services.put (ServiceUpdate.apply w.now ⟨dto, slug⟩ s) }) := by
  refine does_bind (K := fun _ => True)
    ((findOneService_reads id).mono fun _ _ h => ⟨h, fun _ _ => trivial⟩) fun _ _ => ?_
  refine does_bind (K := fun _ => True)
    ((checkTargetCategory_reads dto).mono fun _ _ h => ⟨h, fun _ _ => trivial⟩) fun _ _ => ?_
  refine does_bind newServiceSlug_of_name fun slug hslug => ?_
  refine does_then_del (Prog.post_perform.mpr ?_)
  refine (changeService_does id _).mono ?_
  rintro db' ⟨s, hs, hcategory, hdb'⟩
  refine ⟨s, _, hs, fun hname => ?_, hcategory, hdb'⟩
  rw [hslug hname]
  rfl

theorem updateService_does (id : Uuid) (dto : UpdateServiceDto) :
    (ServiceService.update id dto).Post (World.exec e) w
      (Does w (Effect w (.updateService id dto))) := by
  refine (updateService_row id dto).mono fun r w' h => h.mono ?_
  rintro db' ⟨s, slug, hs, _, hcategory, hdb'⟩
  exact ⟨s, slug, hs, hcategory, hdb'⟩

theorem removeService_does (id : Uuid) :
    (ServiceService.remove id).Post (World.exec e) w
      (Does w (Effect w (.removeService id))) := by
  refine does_bind (K := fun _ => True)
    ((findOneService_reads id).mono fun _ _ h => ⟨h, fun _ _ => trivial⟩) fun _ _ => ?_
  refine does_bind (K := fun has => has =
      decide (0 < w.db.providerServices.rows.countP fun o => o.serviceId == id && o.isActive))
    ⟨rfl, fun _ hb => (Except.ok.inj hb).symm⟩ fun hasProvider hhas => ?_
  refine does_throwIf_bind fun hnone => ?_
  refine does_then_del (Prog.post_perform.mpr ?_)
  refine (changeService_does id _).mono ?_
  rintro db' ⟨s, hs, _, hdb'⟩
  refine ⟨fun o ho hservice => ?_, s, hs, hdb'⟩
  have hcount : ¬ 0 < w.db.providerServices.rows.countP fun o => o.serviceId == id && o.isActive := by
    rw [hhas] at hnone
    simpa using hnone
  have hone := List.countP_eq_zero.mp (Nat.le_zero.mp (Nat.not_lt.mp hcount)) o ho
  simpa [hservice] using hone

/-- A request is refused, or has its effect. -/
theorem call_does (e : Engine) (w : World) (op : Op) :
    (call e op).Post (World.exec e) w (Does w (Effect w op)) := by
  have hreply : ∀ {α : Type} {p : Call α} {g : α → Reply} {E : Db → Prop},
      p.Post (World.exec e) w (Does w E) → (p.map g).Post (World.exec e) w (Does w E) := by
    intro α p g E hp
    refine Prog.post_map.mpr (hp.mono fun r w' hr => ?_)
    cases r with
    | ok a => exact hr
    | error x => exact hr
  cases op with
  | findCategories q => exact hreply (getOrSet_does (k := .categoriesAll) q _)
  | createCategory id dto => exact hreply (createCategory_does id dto)
  | updateCategory id dto => exact hreply (updateCategory_does id dto)
  | removeCategory id => exact hreply (removeCategory_does id)
  | findServices q => exact hreply (getOrSet_does (k := .servicesAll) q _)
  | createService id dto => exact hreply (createService_does id dto)
  | updateService id dto => exact hreply (updateService_does id dto)
  | removeService id => exact hreply (removeService_does id)

end

end ServiceHub.Catalog
