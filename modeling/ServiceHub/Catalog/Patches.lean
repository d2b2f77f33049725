/-
# `Catalog.Patches` — what a PATCH of a category or a service leaves alone

The body of a PATCH has a member, has `null` for it, or does not have it.  It
becomes an instance of the DTO that `PartialType` derives, and the instance
starts with what the parent's initialisers say.

**What fails.**  `displayOrder = 0`, `isActive = true` and `defaultDuration = 0`
are initialisers of the DTOs for creation.  The derived ones have them too, and
the update writes them where the body says nothing.

**What holds.**  Every other column is kept.  So a column is changed without
having been sent exactly if it is one of these, and its value was not the
default (`categoryKept_iff`, `serviceKept_iff`).
-/
import ServiceHub.Catalog.Effects

namespace ServiceHub.Catalog

open Data Txn

/-! ## Members of a body -/

/-- Missing, `null`, or a value. -/
abbrev Field (T : Type) : Type := Option (Option T)

/-- The member of the instance where the DTO has an initialiser: `null` or a
value. -/
def Field.initialised {T : Type} (f : Field T) (init : T) : Option T := f.getD (some init)

/-- The column is addressed by the member, or as it was. -/
def Kept {T C : Type} (f : Field T) (old new : C) : Prop := f = none → new = old

section
variable {T C : Type} {f : Field T}

instance [DecidableEq C] (old new : C) : Decidable (Kept f old new) :=
  inferInstanceAs (Decidable (f = none → new = old))

/-- A column that may be `NULL`. -/
theorem kept_getD (old : Option T) : Kept f old (f.getD old) := by
  rintro rfl
  rfl

/-- A column that is written if the member has a value. -/
theorem kept_join (g : T → C) (old : C) : Kept f old ((f.join.map g).getD old) := by
  rintro rfl
  rfl

/-- A column with an initialiser: without the member the default is written. -/
theorem kept_initialised_iff {init old : T} :
    Kept f old ((f.initialised init).getD old) ↔ (f = none → old = init) := by
  constructor
  · rintro h rfl
    exact (h rfl).symm
  · rintro h rfl
    exact (h rfl).symm

/-- The same, where the column may be `NULL`. -/
theorem kept_some_initialised_iff {init : T} {old : Option T} :
    Kept f old ((some (f.initialised init)).getD old) ↔ (f = none → old = some init) := by
  constructor
  · rintro h rfl
    exact (h rfl).symm
  · rintro h rfl
    exact (h rfl).symm

end

/-- `value?.trim()`. -/
def trimmed (s : String) : String := .ofList (trim s.toList)

/-- Prisma's refusal of `null` for a column that has none. -/
def nullArgument : Exn := .validation "Argument must not be null."

/-! ## Categories -/

/-- A body that the pipe admits for `UpdateCategoryDto`. -/
structure CategoryBody where
  name : Field String := none
  description : Field String := none
  icon : Field String := none
  displayOrder : Field Nat := none
  isActive : Field Bool := none
  name_ne : ∀ s ∈ name.join, trimmed s ≠ "" := by simp
  displayOrder_le : ∀ n ∈ displayOrder.join, n ≤ 32767 := by simp

namespace CategoryBody

/-- The instance; a `null` for `displayOrder` or `isActive` is in `hasNull`. -/
def dto (b : CategoryBody) : UpdateCategoryDto where
  name := b.name.join.map trimmed
  description := b.description
  icon := b.icon
  displayOrder := b.displayOrder.initialised 0
  isActive := b.isActive.initialised true

def hasNull (b : CategoryBody) : Bool := b.displayOrder == some none || b.isActive == some none

end CategoryBody

/-- `update` with the instance that the body becomes. -/
def CategoryService.patch (id : Uuid) (b : CategoryBody) : Call Category :=
  if b.hasNull then do
    let _ ← findOne id
    let _ ← newSlug id b.dto
    Prog.throw nullArgument
  else update id b.dto

/-- Every column that the body does not address is as it was; the slug is
derived from the name, and Prisma keeps `updatedAt` itself. -/
def CategoryKept (b : CategoryBody) (c c' : Category) : Prop :=
  c'.id = c.id ∧ c'.createdAt = c.createdAt ∧
    Kept b.name c.name c'.name ∧ Kept b.name c.slug c'.slug ∧
    Kept b.icon c.icon c'.icon ∧ Kept b.description c.description c'.description ∧
    Kept b.displayOrder c.displayOrder c'.displayOrder ∧ Kept b.isActive c.isActive c'.isActive

instance (b : CategoryBody) (c c' : Category) : Decidable (CategoryKept b c c') :=
  inferInstanceAs (Decidable (_ ∧ _))

/-- What is not sent and has a default is at its default. -/
def CategoryAtDefaults (b : CategoryBody) (c : Category) : Prop :=
  (b.displayOrder = none → c.displayOrder = 0) ∧ (b.isActive = none → c.isActive = true)

theorem categoryKept_iff {b : CategoryBody} {c : Category} {now : Time} {slug : Option String}
    (hslug : b.dto.name = none → slug = none) :
    CategoryKept b c (CategoryUpdate.apply now ⟨b.dto, slug⟩ c) ↔ CategoryAtDefaults b c := by
  have hkeptSlug : Kept b.name c.slug (slug.getD c.slug) := by
    intro hname
    have hnone : b.dto.name = none := by rw [CategoryBody.dto, hname]; rfl
    rw [hslug hnone]
    rfl
  constructor
  · rintro ⟨_, _, _, _, _, _, horder, hactive⟩
    exact ⟨kept_initialised_iff.mp horder, kept_initialised_iff.mp hactive⟩
  · rintro ⟨horder, hactive⟩
    exact ⟨rfl, rfl, kept_join trimmed c.name, hkeptSlug, kept_getD c.icon,
      kept_getD c.description, kept_initialised_iff.mpr horder, kept_initialised_iff.mpr hactive⟩

section
variable {e : Engine} {w : World}

/-- A refusal of `null` comes after what only reads. -/
theorem does_refused {α β : Type} {p : Call α} {x : Exn} {E : Db → Prop}
    (hp : p.Post (World.exec e) w fun _ w' => w' = w) :
    (p >>= fun _ => (Prog.throw x : Call β)).Post (World.exec e) w (Does w E) :=
  does_bind (K := fun _ => True) (hp.mono fun _ _ h => ⟨h, fun _ _ => trivial⟩) fun _ _ => rfl

/-- A category is as it was where the PATCH says nothing, exactly if what has a
default was at its default. -/
theorem patchCategory_keeps {id : Uuid} {c : Category} (b : CategoryBody)
    (hc : w.db.categories.find? id = some c) :
    (CategoryService.patch id b).Post (World.exec e) w (Does w fun db' =>
      ∃ c', db'.categories.find? id = some c' ∧
        (CategoryKept b c c' ↔ CategoryAtDefaults b c)) := by
  refine Prog.post_ite.mpr ⟨fun _ => ?_, fun _ => ?_⟩
  · refine does_bind (K := fun _ => True)
      ((findOne_reads id).mono fun _ _ h => ⟨h, fun _ _ => trivial⟩) fun _ _ => ?_
    exact does_refused (newSlug_reads id b.dto)
  · refine (updateCategory_row id b.dto).mono fun r w' h => h.mono ?_
    rintro db' ⟨c₀, slug, hc₀, hslug, rfl⟩
    obtain rfl := Option.some.inj (hc.symm.trans hc₀)
    refine ⟨CategoryUpdate.apply w.now ⟨b.dto, slug⟩ c, ?_, categoryKept_iff hslug⟩
    have hid := Table.key_of_find? hc
    exact (Table.find?_put _ _ _).trans (if_pos hid)

end

/-! ## Services -/

/-- A body that the pipe admits for `UpdateServiceDto`. -/
structure ServiceBody where
  categoryId : Field Uuid := none
  name : Field String := none
  description : Field String := none
  defaultDuration : Field Nat := none
  name_ne : ∀ s ∈ name.join, trimmed s ≠ "" := by simp

namespace ServiceBody

/-- The instance; a `null` for `categoryId` is in `hasNull`. -/
def dto (b : ServiceBody) : UpdateServiceDto where
  categoryId := b.categoryId.join
  name := b.name.join.map trimmed
  description := b.description
  defaultDuration := some (b.defaultDuration.initialised 0)

def hasNull (b : ServiceBody) : Bool := b.categoryId == some none

end ServiceBody

def ServiceService.patch (id : Uuid) (b : ServiceBody) : Call Service :=
  if b.hasNull then do
    let currentService ← findOne id
    let _ ← newSlug id currentService.categoryId b.dto
    Prog.throw nullArgument
  else update id b.dto

def ServiceKept (b : ServiceBody) (s s' : Service) : Prop :=
  s'.id = s.id ∧ s'.createdAt = s.createdAt ∧ s'.serviceMode = s.serviceMode ∧
    s'.isActive = s.isActive ∧ Kept b.categoryId s.categoryId s'.categoryId ∧
    Kept b.name s.name s'.name ∧ Kept b.name s.slug s'.slug ∧
    Kept b.description s.description s'.description ∧
    Kept b.defaultDuration s.defaultDuration s'.defaultDuration

instance (b : ServiceBody) (s s' : Service) : Decidable (ServiceKept b s s') :=
  inferInstanceAs (Decidable (_ ∧ _))

def ServiceAtDefaults (b : ServiceBody) (s : Service) : Prop :=
  b.defaultDuration = none → s.defaultDuration = some 0

theorem serviceKept_iff {b : ServiceBody} {s : Service} {now : Time} {slug : Option String}
    (hslug : b.dto.name = none → slug = none) :
    ServiceKept b s (ServiceUpdate.apply now ⟨b.dto, slug⟩ s) ↔ ServiceAtDefaults b s := by
  have hkeptSlug : Kept b.name s.slug (slug.getD s.slug) := by
    intro hname
    have hnone : b.dto.name = none := by rw [ServiceBody.dto, hname]; rfl
    rw [hslug hnone]
    rfl
  have hcategory : Kept b.categoryId s.categoryId (b.categoryId.join.getD s.categoryId) := by
    intro hmissing
    rw [hmissing]
    rfl
  constructor
  · rintro ⟨_, _, _, _, _, _, _, _, hduration⟩
    exact kept_some_initialised_iff.mp hduration
  · intro hduration
    exact ⟨rfl, rfl, rfl, rfl, hcategory, kept_join trimmed s.name, hkeptSlug,
      kept_getD s.description, kept_some_initialised_iff.mpr hduration⟩

section
variable {e : Engine} {w : World}

theorem patchService_keeps {id : Uuid} {s : Service} (b : ServiceBody)
    (hs : w.db.services.find? id = some s) :
    (ServiceService.patch id b).Post (World.exec e) w (Does w fun db' =>
      ∃ s', db'.services.find? id = some s' ∧
        (ServiceKept b s s' ↔ ServiceAtDefaults b s)) := by
  refine Prog.post_ite.mpr ⟨fun _ => ?_, fun _ => ?_⟩
  · refine does_bind (K := fun _ => True)
      ((findOneService_reads id).mono fun _ _ h => ⟨h, fun _ _ => trivial⟩) fun _ _ => ?_
    exact does_refused (newServiceSlug_reads id _ b.dto)
  · refine (updateService_row id b.dto).mono fun r w' h => h.mono ?_
    rintro db' ⟨s₀, slug, hs₀, hslug, _, rfl⟩
    obtain rfl := Option.some.inj (hs.symm.trans hs₀)
    refine ⟨ServiceUpdate.apply w.now ⟨b.dto, slug⟩ s, ?_, serviceKept_iff hslug⟩
    have hid := Table.key_of_find? hs
    exact (Table.find?_put _ _ _).trans (if_pos hid)

end

end ServiceHub.Catalog
