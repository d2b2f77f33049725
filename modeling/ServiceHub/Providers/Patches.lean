/-
# `Providers.Patches` — what a PATCH leaves alone

The offering of a provider has a PATCH like those of the catalog
(`Catalog.Patches`), and `bufferMinutes = 0` is an initialiser of its DTO for
creation.  `patch_keeps_iff` is about all three.
-/
import ServiceHub.Catalog.Patches
import ServiceHub.Providers.Requests

namespace ServiceHub.Providers

open Data Txn Prog
open Catalog (Kept kept_getD kept_join kept_initialised_iff nullArgument)

/-- A body that the pipe admits for `UpdateProviderServiceDto`. -/
structure OfferingBody where
  price : Catalog.Field ℚ := none
  durationMinutes : Catalog.Field Nat := none
  bufferMinutes : Catalog.Field Nat := none
  description : Catalog.Field String := none
  isActive : Catalog.Field Bool := none
  price_ge : ∀ p ∈ price.join, (1 / 100 : ℚ) ≤ p := by simp
  price_decimals : ∀ p ∈ price.join, (100 * p).den = 1 := by simp
  durationMinutes_pos : ∀ d ∈ durationMinutes.join, 1 ≤ d := by simp

namespace OfferingBody

/-- The instance; a `null` for a column that has none is in `hasNull`. -/
def dto (b : OfferingBody) : OfferingUpdate where
  price := b.price.join
  durationMinutes := b.durationMinutes.join
  bufferMinutes := b.bufferMinutes.initialised 0
  description := b.description
  isActive := b.isActive.join
  durationMinutes_pos := b.durationMinutes_pos

def hasNull (b : OfferingBody) : Bool :=
  b.price == some none || b.durationMinutes == some none || b.bufferMinutes == some none ||
    b.isActive == some none

end OfferingBody

/-- `update` with the instance that the body becomes. -/
def ProviderServiceService.patch (now : Time) (providerId id : Uuid) (b : OfferingBody) :
    Call Providers.ProviderService :=
  if b.hasNull then do
    let _ ← findOwn providerId id
    Prog.throw nullArgument
  else update now providerId id b.dto

/-- Every column that the body does not address is as it was. -/
def OfferingKept (b : OfferingBody) (o o' : ProviderService) : Prop :=
  o'.id = o.id ∧ o'.providerId = o.providerId ∧ o'.serviceId = o.serviceId ∧
    o'.currency = o.currency ∧ o'.createdAt = o.createdAt ∧ Kept b.price o.price o'.price ∧
    Kept b.durationMinutes o.durationMinutes o'.durationMinutes ∧
    Kept b.bufferMinutes o.bufferMinutes o'.bufferMinutes ∧
    Kept b.description o.description o'.description ∧ Kept b.isActive o.isActive o'.isActive

instance (b : OfferingBody) (o o' : ProviderService) : Decidable (OfferingKept b o o') :=
  inferInstanceAs (Decidable (_ ∧ _))

def OfferingAtDefaults (b : OfferingBody) (o : ProviderService) : Prop :=
  b.bufferMinutes = none → o.bufferMinutes = 0

theorem offeringKept_iff {b : OfferingBody} {o : ProviderService} {now : Time} :
    OfferingKept b o (b.dto.on now o) ↔ OfferingAtDefaults b o := by
  have hjoin : ∀ {T : Type} (f : Catalog.Field T) (old : T), Kept f old (f.join.getD old) := by
    intro T f old hmissing
    rw [hmissing]
    rfl
  constructor
  · rintro ⟨_, _, _, _, _, _, _, hbuffer, _⟩
    exact kept_initialised_iff.mp hbuffer
  · intro hbuffer
    exact ⟨rfl, rfl, rfl, rfl, rfl, hjoin b.price o.price,
      hjoin b.durationMinutes o.durationMinutes, kept_initialised_iff.mpr hbuffer,
      kept_getD o.description, hjoin b.isActive o.isActive⟩

/-- Refused, with the tables as they were, or done. -/
def PatchEnds (db : Db) (E : Db → Prop) (db' : Db) (r : Except Exn ProviderService) : Prop :=
  match r with
  | .ok _ => E db'
  | .error _ => db' = db

theorem patchOffering_keeps {db : Db} {id : Uuid} {o : ProviderService} (now : Time)
    (providerId : Uuid) (b : OfferingBody) (ho : db.providerServices.find? id = some o) :
    (ProviderServiceService.patch now providerId id b).Ends db (PatchEnds db fun db' =>
      ∃ o', db'.providerServices.find? id = some o' ∧
        (OfferingKept b o o' ↔ OfferingAtDefaults b o)) := by
  unfold ProviderServiceService.patch
  split
  · exact Ends.findOwn_bind (fun _ _ => Ends.throw rfl) fun _ => rfl
  · refine (updateOffering_ends now providerId id b.dto).mono ?_
    intro db' r h
    cases r with
    | error x => exact h
    | ok x =>
        obtain ⟨⟨o₀, ho₀, rfl⟩, rfl⟩ := h
        obtain rfl := Option.some.inj (ho.symm.trans ho₀)
        refine ⟨b.dto.on now o, ?_, offeringKept_iff⟩
        obtain ⟨redis, version, heq⟩ :=
          (db.put (.providerService (b.dto.on now o))).invalidated_eq providerId
        rw [heq]
        have hid := Table.key_of_find? ho
        exact (Table.find?_put _ _ _).trans (if_pos hid)

/-- **What was not sent is kept**, by a PATCH that completes, exactly if each
column that has a default and was not sent is at it. -/
theorem patch_keeps_iff (id : Uuid) :
    (∀ (e : Catalog.Engine) (w : Catalog.World) (b : Catalog.CategoryBody)
      (c : Catalog.Category), w.db.categories.find? id = some c →
        (Catalog.CategoryService.patch id b).Post (Catalog.World.exec e) w
          (Catalog.Does w fun db' => ∃ c', db'.categories.find? id = some c' ∧
            (Catalog.CategoryKept b c c' ↔ Catalog.CategoryAtDefaults b c))) ∧
    (∀ (e : Catalog.Engine) (w : Catalog.World) (b : Catalog.ServiceBody)
      (s : Catalog.Service), w.db.services.find? id = some s →
        (Catalog.ServiceService.patch id b).Post (Catalog.World.exec e) w
          (Catalog.Does w fun db' => ∃ s', db'.services.find? id = some s' ∧
            (Catalog.ServiceKept b s s' ↔ Catalog.ServiceAtDefaults b s))) ∧
    ∀ (db : Db) (now : Time) (providerId : Uuid) (b : OfferingBody) (o : ProviderService),
      db.providerServices.find? id = some o →
        (ProviderServiceService.patch now providerId id b).Ends db (PatchEnds db fun db' =>
          ∃ o', db'.providerServices.find? id = some o' ∧
            (OfferingKept b o o' ↔ OfferingAtDefaults b o)) := by
  refine ⟨?_, ?_, ?_⟩
  · intro e w b c hc
    exact Catalog.patchCategory_keeps b hc
  · intro e w b s hs
    exact Catalog.patchService_keeps b hs
  · intro db now providerId b o ho
    exact patchOffering_keeps now providerId b ho

/-! ## A PATCH of the description -/

namespace Sample

/-- A category that is shown third, and switched off. -/
def garden : Catalog.Category :=
  ⟨"garden", "Garden", "garden", none, none, 3, false, 0, 0⟩

def catalog : Catalog.World where
  db := { categories := (Table.empty.put category).put garden, services := db.services,
          providerServices := .empty }
  redis := .empty
  now := 1

def catalogEngine : Catalog.Engine := ⟨engine.ilike, (· * ·), (· / ·)⟩

def describeCategory : Catalog.CategoryBody := { description := some (some "All we do") }

def describeService : Catalog.ServiceBody := { description := some (some "All we do") }

def describeOffering : OfferingBody where
  description := some (some "All we do")
  durationMinutes_pos := by exact OfferingUpdate.no_duration

/-- The tables after the three PATCHes. -/
def patchedCategory : Option Catalog.Category :=
  ((Catalog.CategoryService.patch "garden" describeCategory).handle
    (Catalog.World.exec catalogEngine) catalog).2.db.categories.find? "garden"

def patchedService : Option Catalog.Service :=
  ((Catalog.ServiceService.patch "service" describeService).handle
    (Catalog.World.exec catalogEngine) catalog).2.db.services.find? "service"

def patchedOffering : Option ProviderService :=
  ((ProviderServiceService.patch 1 "provider" "offering" describeOffering).serial
    ⟨none, db, []⟩).1.db.providerServices.find? "offering"

end Sample

theorem patch_keeps_iff_sample :
    ((Catalog.CategoryService.patch "garden" Sample.describeCategory).Post
      (Catalog.World.exec Sample.catalogEngine) Sample.catalog
        (Catalog.Does Sample.catalog fun db' => ∃ c', db'.categories.find? "garden" = some c' ∧
          (Catalog.CategoryKept Sample.describeCategory Sample.garden c' ↔
            Catalog.CategoryAtDefaults Sample.describeCategory Sample.garden))) ∧
    ((Catalog.ServiceService.patch "service" Sample.describeService).Post
      (Catalog.World.exec Sample.catalogEngine) Sample.catalog
        (Catalog.Does Sample.catalog fun db' => ∃ s', db'.services.find? "service" = some s' ∧
          (Catalog.ServiceKept Sample.describeService Sample.service s' ↔
            Catalog.ServiceAtDefaults Sample.describeService Sample.service))) ∧
    (ProviderServiceService.patch 1 "provider" "offering" Sample.describeOffering).Ends Sample.db
      (PatchEnds Sample.db fun db' => ∃ o', db'.providerServices.find? "offering" = some o' ∧
        (OfferingKept Sample.describeOffering Sample.offering o' ↔
          OfferingAtDefaults Sample.describeOffering Sample.offering)) := by
  refine ⟨?_, ?_, ?_⟩
  · exact (patch_keeps_iff "garden").1 Sample.catalogEngine Sample.catalog
      Sample.describeCategory Sample.garden (by decide +kernel)
  · exact (patch_keeps_iff "service").2.1 Sample.catalogEngine Sample.catalog
      Sample.describeService Sample.service (by decide +kernel)
  · exact (patch_keeps_iff "offering").2.2 Sample.db 1 "provider" Sample.describeOffering
      Sample.offering (by decide +kernel)

/-- The category is moved and switched on, the duration of the service and the
buffer of the offering are set to 0. -/
theorem not_patch_keeps :
    Sample.patchedCategory.map (fun c => (c.displayOrder, c.isActive)) = some (0, true) ∧
    Sample.patchedService.map (·.defaultDuration) = some (some 0) ∧
    Sample.patchedOffering.map (·.bufferMinutes) = some 0 ∧
    (∀ c ∈ Sample.patchedCategory,
      ¬ Catalog.CategoryKept Sample.describeCategory Sample.garden c) ∧
    (∀ s ∈ Sample.patchedService,
      ¬ Catalog.ServiceKept Sample.describeService Sample.service s) ∧
    ∀ o ∈ Sample.patchedOffering, ¬ OfferingKept Sample.describeOffering Sample.offering o := by
  decide +kernel

end ServiceHub.Providers
