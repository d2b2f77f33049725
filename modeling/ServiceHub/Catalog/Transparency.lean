/-
# `Catalog.Transparency` — what the cache of the catalog answers

**What fails.**  A list is cached under a key that does not depend on the query:
whatever `findAll` asks for while an entry is live, it gets the page of the
query that the entry was filled with (`not_findAll_transparent`).

**What holds.**  An entry is never stale: every change deletes it, so that it is
the page that its query selects now (`Current`).  Hence a list is right exactly
if no entry is live, or the query selects the same page as the one that the
entry was filled with (`findAll_transparent`).
-/
import ServiceHub.Catalog.Service

namespace ServiceHub.Catalog

open Data Txn

/-! ## The page that a query selects -/

section
variable {T : Type} {e : Engine} {page limit page' limit' : ℚ} {rows rows' : List T}

/-- The page of the rows that a filter selects. -/
def pageOf (e : Engine) (page limit : ℚ) (rows : List T) : Except Exn (PaginatedResult T) :=
  (window (e.mul (page - 1) limit) limit rows).map fun data =>
    paginate e.div data rows.length page limit

/-- The same page, as many rows in all, and the same rows on the page. -/
def SamePage (e : Engine) (page limit : ℚ) (rows : List T) (page' limit' : ℚ)
    (rows' : List T) : Prop :=
  page = page' ∧ limit = limit' ∧ rows.length = rows'.length ∧
    window (e.mul (page - 1) limit) limit rows = window (e.mul (page' - 1) limit') limit' rows'

theorem paginate_inj {div : ℚ → ℚ → ℚ} {data data' : List T} {n n' : Nat} :
    paginate div data n page limit = paginate div data' n' page' limit' ↔
      data = data' ∧ n = n' ∧ page = page' ∧ limit = limit' := by
  constructor
  · intro h
    simp only [paginate, PaginatedResult.mk.injEq, PageMeta.mk.injEq] at h
    exact ⟨h.1, h.2.1, h.2.2.1, h.2.2.2.1⟩
  · rintro ⟨rfl, rfl, rfl, rfl⟩
    rfl

theorem pageOf_eq_ok {p : PaginatedResult T} : pageOf e page limit rows = .ok p ↔
    ∃ data, window (e.mul (page - 1) limit) limit rows = .ok data ∧
      paginate e.div data rows.length page limit = p := by
  unfold pageOf
  cases window (e.mul (page - 1) limit) limit rows with
  | error x => simp [Except.map]
  | ok data => simp [Except.map]

/-- Where one query yields a page, another one yields it too if it is the same
page. -/
theorem pageOf_eq_ok_iff {p : PaginatedResult T} (h : pageOf e page' limit' rows' = .ok p) :
    pageOf e page limit rows = .ok p ↔ SamePage e page limit rows page' limit' rows' := by
  obtain ⟨data', hdata', rfl⟩ := pageOf_eq_ok.mp h
  rw [pageOf_eq_ok]
  constructor
  · rintro ⟨data, hdata, hp⟩
    obtain ⟨rfl, hlength, hpage, hlimit⟩ := paginate_inj.mp hp
    exact ⟨hpage, hlimit, hlength, hdata.trans hdata'.symm⟩
  · rintro ⟨hpage, hlimit, hlength, hwindow⟩
    exact ⟨data', hwindow.trans hdata', paginate_inj.mpr ⟨rfl, hlength, hpage, hlimit⟩⟩

end

/-! ### By the key of the list -/

/-- The query of a list. -/
abbrev ListQuery : CacheKey → Type
  | .categoriesAll => QueryCategoryDto
  | .servicesAll => QueryServiceDto

namespace ListQuery

def page : {k : CacheKey} → ListQuery k → ℚ
  | .categoriesAll, q => (QueryCategoryDto.page q).getD 1
  | .servicesAll, q => (QueryServiceDto.page q).getD 1

def limit : {k : CacheKey} → ListQuery k → ℚ
  | .categoriesAll, q => (QueryCategoryDto.limit q).getD 10
  | .servicesAll, q => (QueryServiceDto.limit q).getD 10

/-- The rows that the filter selects. -/
def rows (e : Engine) (db : Db) : {k : CacheKey} → ListQuery k → List (Listed k)
  | .categoriesAll, q => db.categoriesWhere e (CategoryRepository.where_ q)
  | .servicesAll, q => db.servicesWhere e (ServiceRepository.where_ q)

/-- The page that the query selects. -/
def selected (e : Engine) (db : Db) {k : CacheKey} (q : ListQuery k) : Except Exn (Cached k) :=
  pageOf e (page q) (limit q) (rows e db q)

/-- What the repository is asked for. -/
def fetch (e : Engine) : {k : CacheKey} → ListQuery k → Call (Cached k)
  | .categoriesAll, q => CategoryRepository.findAllPaginated e q
  | .servicesAll, q => ServiceRepository.findAllPaginated e q

end ListQuery

section
variable {e : Engine} {w : World}

/-- The rows of a page are read first, and then the number of all of them. -/
theorem handle_paginated {T : Type} {page limit : ℚ} {rows : List T} {find : Call (List T)}
    {count : Call Nat}
    (hfind : find.handle (World.exec e) w = (window (e.mul (page - 1) limit) limit rows, w))
    (hcount : count.handle (World.exec e) w = (.ok rows.length, w)) :
    (do
      let data ← find
      let total ← count
      pure (paginate e.div data total page limit) : Call (PaginatedResult T)).handle
        (World.exec e) w = (pageOf e page limit rows, w) := by
  rw [Prog.bind_def, Prog.handle_cont, hfind, pageOf]
  cases window (e.mul (page - 1) limit) limit rows with
  | error x => rfl
  | ok data =>
      show (count >>= _).handle (World.exec e) w = _
      rw [Prog.bind_def, Prog.handle_cont, hcount]
      rfl

theorem handle_fetch {k : CacheKey} (q : ListQuery k) :
    (q.fetch e).handle (World.exec e) w = (q.selected e w.db, w) := by
  cases k with
  | categoriesAll => exact handle_paginated (Prog.handle_perform _) (Prog.handle_perform _)
  | servicesAll => exact handle_paginated (Prog.handle_perform _) (Prog.handle_perform _)

/-! ## What a request does -/

/-- A value that is cached is the answer. -/
theorem handle_getOrSet_hit {key : CacheKey} {fetchFn : Call (Cached key)} {ttl : Int}
    {v : Cached key} (h : w.redis.get w.now key = some v) :
    (getOrSet key fetchFn ttl).handle (World.exec e) w = (.ok v, w) := by
  simp only [getOrSet, Prog.bind_def, command, Prog.perform, Prog.cont_ask, Prog.handle,
    World.exec, Prog.cont_ret, h]
  rfl

/-- A value that was fetched is stored. -/
def World.store (w : World) (key : CacheKey) (ttl : Int) :
    Except Exn (Cached key) → Except Exn (Cached key) × World
  | .ok v => (.ok v, { w with redis := w.redis.set w.now key v (1000 * ttl) })
  | .error x => (.error x, w)

/-- Otherwise the answer is what is fetched. -/
theorem handle_getOrSet_miss {key : CacheKey} {fetchFn : Call (Cached key)} {ttl : Int}
    {r : Except Exn (Cached key)} (h : w.redis.get w.now key = none)
    (hfetch : fetchFn.handle (World.exec e) w = (r, w)) :
    (getOrSet key fetchFn ttl).handle (World.exec e) w = w.store key ttl r := by
  simp only [getOrSet, Prog.bind_def, command, Prog.perform, Prog.cont_ask, Prog.handle,
    World.exec, Prog.cont_ret, h]
  rw [Prog.handle_cont, hfetch]
  cases r with
  | ok v => rfl
  | error x => rfl

/-- Only the table of a key is another one. -/
def Db.SameBut : CacheKey → Db → Db → Prop
  | .categoriesAll, db, db' => ∃ t, db' = { db with categories := t }
  | .servicesAll, db, db' => ∃ t, db' = { db with services := t }

/-- The rows of another list are the same. -/
theorem Db.SameBut.rows_eq {k k' : CacheKey} {db db' : Db} (h : db.SameBut k db') (hne : k' ≠ k)
    (q : ListQuery k') : q.rows e db' = q.rows e db := by
  cases k <;> cases k' <;> first
    | exact absurd rfl hne
    | obtain ⟨t, rfl⟩ := h
      rfl

/-- A write of the table of a key: refused, or done. -/
def Written (k : CacheKey) (w : World) (r : Except Exn (Listed k)) (w' : World) : Prop :=
  (∃ x, r = .error x ∧ w' = w) ∨
    ∃ a db, r = .ok a ∧ w.db.SameBut k db ∧ w' = { w with db := db }

/-- A change of the table of a key: refused, or done and the entry deleted. -/
def Changed (k : CacheKey) (w : World) (r : Except Exn (Listed k)) (w' : World) : Prop :=
  (∃ x, r = .error x ∧ w' = w) ∨
    ∃ a db, r = .ok a ∧ w.db.SameBut k db ∧ w' = ⟨db, w.redis.del k, w.now⟩

namespace World

/-- The writes, by the key of the list that they are of. -/
def put : (k : CacheKey) → World → Listed k → Except Exn (Listed k) × World
  | .categoriesAll, w, c => w.putCategory c
  | .servicesAll, w, s => w.putService s

def change : (k : CacheKey) → World → Uuid → (Listed k → Listed k) →
    Except Exn (Listed k) × World
  | .categoriesAll, w, id, f => w.changeCategory id f
  | .servicesAll, w, id, f => w.changeService id f

end World

theorem put_written (k : CacheKey) (w : World) (a : Listed k) :
    Written k w (World.put k w a).1 (World.put k w a).2 := by
  cases k
  all_goals
    simp only [World.put, World.putCategory, World.putService]
    split
    · exact Or.inl ⟨_, rfl, rfl⟩
    · exact Or.inr ⟨_, _, rfl, ⟨_, rfl⟩, rfl⟩

theorem change_written (k : CacheKey) (w : World) (id : Uuid) (f : Listed k → Listed k) :
    Written k w (World.change k w id f).1 (World.change k w id f).2 := by
  cases k
  all_goals
    simp only [World.change, World.changeCategory, World.changeService]
    split
    · exact Or.inl ⟨_, rfl, rfl⟩
    · exact put_written _ w _

/-- An insert, unless the id is taken. -/
theorem insert_written (k : CacheKey) (w : World) (taken : Prop) [Decidable taken]
    (a : Listed k) : Written k w (if taken then (.error duplicate, w) else World.put k w a).1
      (if taken then (.error duplicate, w) else World.put k w a).2 := by
  split
  · exact Or.inl ⟨_, rfl, rfl⟩
  · exact put_written k w a

/-- A write, and then `del`. -/
theorem post_then_del (k : CacheKey) {p : Call (Listed k)}
    (h : p.Post (World.exec e) w (Written k w)) :
    (do let a ← p; command (.del k); pure a : Call (Listed k)).Post (World.exec e) w
      (Changed k w) := by
  refine Prog.post_bind.mpr (h.mono ?_)
  rintro r w' (⟨x, rfl, rfl⟩ | ⟨a, db, rfl, hsame, rfl⟩)
  · exact Or.inl ⟨x, rfl, rfl⟩
  · exact Prog.post_bind.mpr (Prog.post_perform.mpr (Or.inr ⟨a, db, rfl, hsame, rfl⟩))

/-! ### Categories -/

/-- A part that only reads comes first. -/
theorem post_reads_bind {α β : Type} {p : Call α} {f : α → Call β}
    {Q : Except Exn β → World → Prop} (hp : p.Post (World.exec e) w fun _ w' => w' = w)
    (herror : ∀ x, Q (.error x) w) (hf : ∀ a, (f a).Post (World.exec e) w Q) :
    (p >>= f).Post (World.exec e) w Q := by
  refine Prog.post_bind.mpr (hp.mono ?_)
  rintro (x | a) w' rfl
  · exact herror x
  · exact hf a

theorem findOne_reads (id : Uuid) :
    (CategoryService.findOne id).Post (World.exec e) w fun _ w' => w' = w := by
  refine Prog.post_bind.mpr (Prog.post_perform.mpr ?_)
  exact Prog.post_orThrow.mpr ⟨fun _ => rfl, fun _ _ => rfl⟩

theorem createCategory_changed (id : Uuid) (dto : CreateCategoryDto) :
    (CategoryService.create id dto).Post (World.exec e) w (Changed .categoriesAll w) := by
  have herror : ∀ x, Changed .categoriesAll w (.error x) w := fun x => Or.inl ⟨x, rfl, rfl⟩
  refine post_reads_bind rfl herror fun isSlugExist => ?_
  refine post_reads_bind (Prog.post_throwIf.mpr ⟨fun _ => rfl, fun _ => rfl⟩) herror fun _ => ?_
  exact post_then_del .categoriesAll (Prog.post_perform.mpr (insert_written _ w _ _))

theorem newSlug_reads (id : Uuid) (dto : UpdateCategoryDto) :
    (CategoryService.newSlug id dto).Post (World.exec e) w fun _ w' => w' = w := by
  unfold CategoryService.newSlug
  split
  · rfl
  · refine Prog.post_bind.mpr (Prog.post_perform.mpr ?_)
    exact Prog.post_bind.mpr (Prog.post_throwIf.mpr ⟨fun _ => rfl, fun _ => rfl⟩)

theorem updateCategory_changed (id : Uuid) (dto : UpdateCategoryDto) :
    (CategoryService.update id dto).Post (World.exec e) w (Changed .categoriesAll w) := by
  have herror : ∀ x, Changed .categoriesAll w (.error x) w := fun x => Or.inl ⟨x, rfl, rfl⟩
  refine post_reads_bind (findOne_reads id) herror fun _ => ?_
  refine post_reads_bind (newSlug_reads id dto) herror fun slug => ?_
  exact post_then_del .categoriesAll (Prog.post_perform.mpr (change_written _ w id _))

theorem removeCategory_changed (id : Uuid) :
    (CategoryService.remove id).Post (World.exec e) w (Changed .categoriesAll w) := by
  have herror : ∀ x, Changed .categoriesAll w (.error x) w := fun x => Or.inl ⟨x, rfl, rfl⟩
  refine post_reads_bind (findOne_reads id) herror fun _ => ?_
  refine post_reads_bind rfl herror fun hasServices => ?_
  refine post_reads_bind (Prog.post_throwIf.mpr ⟨fun _ => rfl, fun _ => rfl⟩) herror fun _ => ?_
  exact post_then_del .categoriesAll (Prog.post_perform.mpr (change_written _ w id _))

/-! ### Services -/

theorem createService_changed (id : Uuid) (dto : CreateServiceDto) :
    (ServiceService.create id dto).Post (World.exec e) w (Changed .servicesAll w) := by
  have herror : ∀ x, Changed .servicesAll w (.error x) w := fun x => Or.inl ⟨x, rfl, rfl⟩
  refine post_reads_bind rfl herror fun category => ?_
  refine post_reads_bind (Prog.post_orThrow.mpr ⟨fun _ => rfl, fun _ _ => rfl⟩) herror fun _ => ?_
  refine post_reads_bind rfl herror fun isUnique => ?_
  refine post_reads_bind (Prog.post_throwIf.mpr ⟨fun _ => rfl, fun _ => rfl⟩) herror fun _ => ?_
  exact post_then_del .servicesAll (Prog.post_perform.mpr (insert_written _ w _ _))

theorem findOneService_reads (id : Uuid) :
    (ServiceService.findOne id).Post (World.exec e) w fun _ w' => w' = w := by
  refine Prog.post_bind.mpr (Prog.post_perform.mpr ?_)
  exact Prog.post_orThrow.mpr ⟨fun _ => rfl, fun _ _ => rfl⟩

theorem checkTargetCategory_reads (dto : UpdateServiceDto) :
    (ServiceService.checkTargetCategory dto).Post (World.exec e) w fun _ w' => w' = w := by
  unfold ServiceService.checkTargetCategory
  split
  · rfl
  · refine Prog.post_bind.mpr (Prog.post_perform.mpr ?_)
    exact Prog.post_bind.mpr (Prog.post_orThrow.mpr ⟨fun _ => rfl, fun _ _ => rfl⟩)

theorem newServiceSlug_reads (id targetCategoryId : Uuid) (dto : UpdateServiceDto) :
    (ServiceService.newSlug id targetCategoryId dto).Post (World.exec e) w
      fun _ w' => w' = w := by
  unfold ServiceService.newSlug
  split
  · rfl
  · refine Prog.post_bind.mpr (Prog.post_perform.mpr ?_)
    exact Prog.post_bind.mpr (Prog.post_throwIf.mpr ⟨fun _ => rfl, fun _ => rfl⟩)

theorem updateService_changed (id : Uuid) (dto : UpdateServiceDto) :
    (ServiceService.update id dto).Post (World.exec e) w (Changed .servicesAll w) := by
  have herror : ∀ x, Changed .servicesAll w (.error x) w := fun x => Or.inl ⟨x, rfl, rfl⟩
  refine post_reads_bind (findOneService_reads id) herror fun currentService => ?_
  refine post_reads_bind (checkTargetCategory_reads dto) herror fun _ => ?_
  refine post_reads_bind (newServiceSlug_reads id _ dto) herror fun slug => ?_
  exact post_then_del .servicesAll (Prog.post_perform.mpr (change_written _ w id _))

theorem removeService_changed (id : Uuid) :
    (ServiceService.remove id).Post (World.exec e) w (Changed .servicesAll w) := by
  have herror : ∀ x, Changed .servicesAll w (.error x) w := fun x => Or.inl ⟨x, rfl, rfl⟩
  refine post_reads_bind (findOneService_reads id) herror fun _ => ?_
  refine post_reads_bind rfl herror fun hasProvider => ?_
  refine post_reads_bind (Prog.post_throwIf.mpr ⟨fun _ => rfl, fun _ => rfl⟩) herror fun _ => ?_
  exact post_then_del .servicesAll (Prog.post_perform.mpr (change_written _ w id _))

end

/-! ## Requests one after the other -/

inductive Op where
  | findCategories (queryDto : QueryCategoryDto)
  | createCategory (id : Uuid) (dto : CreateCategoryDto)
  | updateCategory (id : Uuid) (dto : UpdateCategoryDto)
  | removeCategory (id : Uuid)
  | findServices (queryDto : QueryServiceDto)
  | createService (id : Uuid) (dto : CreateServiceDto)
  | updateService (id : Uuid) (dto : UpdateServiceDto)
  | removeService (id : Uuid)

inductive Reply where
  | categories (page : PaginatedResult Category)
  | category (category : Category)
  | services (page : PaginatedResult Service)
  | service (service : Service)
  deriving DecidableEq

def call (e : Engine) : Op → Call Reply
  | .findCategories queryDto => (CategoryService.findAll e queryDto).map .categories
  | .createCategory id dto => (CategoryService.create id dto).map .category
  | .updateCategory id dto => (CategoryService.update id dto).map .category
  | .removeCategory id => (CategoryService.remove id).map .category
  | .findServices queryDto => (ServiceService.findAll e queryDto).map .services
  | .createService id dto => (ServiceService.create id dto).map .service
  | .updateService id dto => (ServiceService.update id dto).map .service
  | .removeService id => (ServiceService.remove id).map .service

/-- A request that comes `wait` milliseconds after the one before. -/
structure Request where
  wait : Nat
  op : Op

def World.later (w : World) (wait : Nat) : World := { w with now := w.now + wait }

/-- The state, and each request so far with the state it was served in, the
latest first. -/
structure Session where
  world : World
  past : List (World × Op)

def Session.reply (e : Engine) (s : Session) (r : Request) : Except Exn Reply :=
  ((call e r.op).handle (World.exec e) (s.world.later r.wait)).1

def Session.next (e : Engine) (s : Session) (r : Request) : Session :=
  ⟨((call e r.op).handle (World.exec e) (s.world.later r.wait)).2,
    (s.world.later r.wait, r.op) :: s.past⟩

/-- Redis is empty at first. -/
def Session.start (db : Db) (now : Time) : Session := ⟨⟨db, .empty, now⟩, []⟩

def Session.after (e : Engine) (s : Session) (rs : List Request) : Session :=
  rs.foldl (Session.next e) s

/-- The query of a request for the list of a key. -/
def Op.asks : (k : CacheKey) → Op → Option (ListQuery k)
  | .categoriesAll, .findCategories q => some q
  | .servicesAll, .findServices q => some q
  | _, _ => none

/-- The query of the last list that Redis had no answer for. -/
def filledFrom (k : CacheKey) (past : List (World × Op)) : Option (ListQuery k) :=
  past.findSome? fun (w, op) => if (w.redis.get w.now k).isNone then op.asks k else none

/-! ## Entries are never stale -/

/-- What is cached is the page that the query it was filled with selects now. -/
def Current (e : Engine) (s : Session) : Prop :=
  ∀ k, s.world.redis.Says s.world.now k fun p =>
    ∃ q ∈ filledFrom k s.past, q.selected e s.world.db = .ok p

section
variable {e : Engine} {w w' : World} {op : Op} {past : List (World × Op)} {k : CacheKey}

theorem Current.later (h : Current e ⟨w, past⟩) (wait : Nat) : Current e ⟨w.later wait, past⟩ := by
  have hle : w.now ≤ (w.later wait).now := Int.le_add_of_nonneg_right (Int.natCast_nonneg wait)
  exact fun k => (h k).later hle

theorem filledFrom_cons_of_none (hop : op.asks k = none) :
    filledFrom k ((w, op) :: past) = filledFrom k past := by
  simp [filledFrom, hop]

/-- A change of a table deletes the entry of its list, and has no part in the
other one. -/
theorem Current.of_changed {r : Except Exn (Listed k)} (h : Current e ⟨w, past⟩)
    (hop : ∀ k', op.asks k' = none) (hchanged : Changed k w r w') :
    Current e ⟨w', (w, op) :: past⟩ := by
  intro k'
  simp only [filledFrom_cons_of_none (hop k')]
  rcases hchanged with ⟨_, _, rfl⟩ | ⟨_, db, _, hsame, rfl⟩
  · exact h k'
  · by_cases hk : k' = k
    · subst hk
      exact Cache.says_del
    · simp only [ListQuery.selected, hsame.rows_eq hk]
      exact Cache.says_del_of_ne hk (h k')

theorem Op.asks_ne {q : ListQuery k} (hop : op.asks k = some q) {k' : CacheKey} (hne : k' ≠ k) :
    op.asks k' = none := by
  cases op <;> cases k <;> cases k' <;> first | rfl | exact absurd rfl hne | cases hop

/-- A list that is asked for: the entry is the one that was filled before, or is
filled with this query. -/
theorem Current.of_findAll {q : ListQuery k} (h : Current e ⟨w, past⟩) (hop : op.asks k = some q)
    (ttl : Int) :
    Current e ⟨((getOrSet k (q.fetch e) ttl).handle (World.exec e) w).2, (w, op) :: past⟩ := by
  intro k'
  by_cases hk : k' = k
  · subst hk
    cases hget : w.redis.get w.now k' with
    | some p =>
        have hfrom : filledFrom k' ((w, op) :: past) = filledFrom k' past := by
          simp [filledFrom, hget]
        rw [handle_getOrSet_hit hget]
        simp only [hfrom]
        exact h k'
    | none =>
        have hfrom : filledFrom k' ((w, op) :: past) = some q := by
          simp [filledFrom, hget, hop]
        rw [handle_getOrSet_miss hget (handle_fetch q)]
        cases hpage : q.selected e w.db with
        | error x => exact Cache.says_of_none hget
        | ok p => exact Cache.says_set ⟨q, hfrom, hpage⟩
  · simp only [filledFrom_cons_of_none (Op.asks_ne hop hk)]
    cases hget : w.redis.get w.now k with
    | some p =>
        rw [handle_getOrSet_hit hget]
        exact h k'
    | none =>
        rw [handle_getOrSet_miss hget (handle_fetch q)]
        cases q.selected e w.db with
        | error x => exact h k'
        | ok p => exact Cache.says_set_of_ne hk (h k')

/-- What a request leaves. -/
theorem Current.call (h : Current e ⟨w, past⟩) (op : Op) :
    (call e op).Post (World.exec e) w fun _ w' => Current e ⟨w', (w, op) :: past⟩ := by
  have hchange : ∀ (k : CacheKey) {p : Call (Listed k)} {g : Listed k → Reply} {op : Op},
      p.Post (World.exec e) w (Changed k w) → (∀ k', op.asks k' = none) →
      (p.map g).Post (World.exec e) w fun _ w' => Current e ⟨w', (w, op) :: past⟩ :=
    fun _ _ _ _ hp hop => Prog.post_map.mpr (hp.mono fun _ _ hchanged => h.of_changed hop hchanged)
  cases op with
  | findCategories q => exact Prog.post_map.mpr (h.of_findAll (k := .categoriesAll) (q := q) rfl _)
  | createCategory id dto =>
      exact hchange .categoriesAll (createCategory_changed id dto) fun k' => by cases k' <;> rfl
  | updateCategory id dto =>
      exact hchange .categoriesAll (updateCategory_changed id dto) fun k' => by cases k' <;> rfl
  | removeCategory id =>
      exact hchange .categoriesAll (removeCategory_changed id) fun k' => by cases k' <;> rfl
  | findServices q => exact Prog.post_map.mpr (h.of_findAll (k := .servicesAll) (q := q) rfl _)
  | createService id dto =>
      exact hchange .servicesAll (createService_changed id dto) fun k' => by cases k' <;> rfl
  | updateService id dto =>
      exact hchange .servicesAll (updateService_changed id dto) fun k' => by cases k' <;> rfl
  | removeService id =>
      exact hchange .servicesAll (removeService_changed id) fun k' => by cases k' <;> rfl

/-- The step lemma. -/
theorem Current.next {s : Session} (h : Current e s) (r : Request) : Current e (s.next e r) :=
  Current.call (Current.later h r.wait) r.op

/-- **No entry is stale**, after any requests. -/
theorem current_after {db : Db} {now : Time} (rs : List Request) :
    Current e ((Session.start db now).after e rs) := by
  have hall : ∀ (rs : List Request) (s : Session), Current e s → Current e (s.after e rs) := by
    intro rs
    induction rs with
    | nil => exact fun s h => h
    | cons r rs ih => exact fun s h => ih (s.next e r) (h.next r)
  exact hall rs _ fun _ => Cache.says_of_none Cache.get_empty

end

/-! ## What a list answers -/

/-- The query selects the same page as the one that a live entry was filled
with. -/
def Agrees (e : Engine) (s : Session) (wait : Nat) {k : CacheKey} (q : ListQuery k) : Prop :=
  (s.world.redis.get (s.world.now + wait) k).isSome →
    ∀ q' ∈ filledFrom k s.past, SamePage e q.page q.limit (q.rows e s.world.db)
      (ListQuery.page q') (ListQuery.limit q') (ListQuery.rows e s.world.db q')

def CategoriesAgree (e : Engine) (s : Session) (wait : Nat) (q : QueryCategoryDto) : Prop :=
  Agrees e s wait (k := .categoriesAll) q

def ServicesAgree (e : Engine) (s : Session) (wait : Nat) (q : QueryServiceDto) : Prop :=
  Agrees e s wait (k := .servicesAll) q

section
variable {e : Engine} {s : Session}

theorem map_inj {α β : Type} {f : α → β} (hf : Function.Injective f) {r r' : Except Exn α} :
    r.map f = r'.map f ↔ r = r' := by
  cases r <;> cases r' <;> simp [Except.map, hf.eq_iff]

/-- The answer is what would be fetched exactly if what is stored is. -/
theorem getOrSet_eq_iff {w : World} {key : CacheKey} {fetchFn : Call (Cached key)} {ttl : Int}
    {r : Except Exn (Cached key)} (hfetch : fetchFn.handle (World.exec e) w = (r, w)) :
    ((getOrSet key fetchFn ttl).handle (World.exec e) w).1 = r ↔
      ∀ v, w.redis.get w.now key = some v → r = .ok v := by
  cases hget : w.redis.get w.now key with
  | none =>
      rw [handle_getOrSet_miss hget hfetch]
      refine iff_of_true ?_ nofun
      cases r <;> rfl
  | some v =>
      rw [handle_getOrSet_hit hget]
      constructor
      · rintro hr _ ⟨⟩
        exact hr.symm
      · exact fun hall => (hall v rfl).symm

theorem getOrSet_eq_selected {k : CacheKey} (h : Current e s) (wait : Nat) (q : ListQuery k)
    {g : Cached k → Reply} (hg : Function.Injective g) (ttl : Int) :
    ((getOrSet k (q.fetch e) ttl).handle (World.exec e) (s.world.later wait)).1.map g =
        ((q.fetch e).handle (World.exec e) (s.world.later wait)).1.map g ↔
      Agrees e s wait q := by
  have hlater : Current e ⟨s.world.later wait, s.past⟩ := Current.later h wait
  rw [handle_fetch]
  refine (map_inj hg).trans ((getOrSet_eq_iff (handle_fetch q)).trans ?_)
  constructor
  · intro hall hsome q' hq'
    obtain ⟨p, hp⟩ := Option.isSome_iff_exists.mp hsome
    obtain ⟨q'', hq'', hpage⟩ := hlater k p hp
    obtain rfl := Option.some.inj (Eq.trans (Eq.symm hq') hq'')
    exact (pageOf_eq_ok_iff hpage).mp (hall p hp)
  · intro hagree p hp
    obtain ⟨q', hq', hpage⟩ := hlater k p hp
    exact (pageOf_eq_ok_iff hpage).mpr (hagree (Option.isSome_iff_exists.mpr ⟨p, hp⟩) q' hq')

end

/-- **When a list is what the repository would answer**, after any requests. -/
theorem findAll_transparent (e : Engine) (db : Db) (now : Time) (rs : List Request) (wait : Nat) :
    let s := (Session.start db now).after e rs
    (∀ q : QueryCategoryDto, s.reply e ⟨wait, .findCategories q⟩ =
        ((CategoryRepository.findAllPaginated e q).handle (World.exec e)
          (s.world.later wait)).1.map .categories ↔
      CategoriesAgree e s wait q) ∧
    ∀ q : QueryServiceDto, s.reply e ⟨wait, .findServices q⟩ =
        ((ServiceRepository.findAllPaginated e q).handle (World.exec e)
          (s.world.later wait)).1.map .services ↔
      ServicesAgree e s wait q := by
  intro s
  have hcurrent : Current e s := current_after rs
  refine ⟨fun q => ?_, fun q => ?_⟩
  · rw [Session.reply, call, Prog.handle_map]
    exact getOrSet_eq_selected (k := .categoriesAll) hcurrent wait q
      (fun _ _ => Reply.categories.inj) _
  · rw [Session.reply, call, Prog.handle_map]
    exact getOrSet_eq_selected (k := .servicesAll) hcurrent wait q (fun _ _ => Reply.services.inj) _

/-! ## Two queries -/

namespace Sample

/-- `ILIKE '%search%'` where `search` has no `%` and no `_`. -/
def ilike (search name : String) : Bool :=
  (name.toList.map Char.toLower).tails.any fun t =>
    (search.toList.map Char.toLower).isPrefixOf t

def engine : Engine := ⟨ilike, (· * ·), (· / ·)⟩

def cleaning : Category := ⟨"c1", "Cleaning", "cleaning", none, none, 0, true, 0, 0⟩

def db : Db where
  categories := Table.empty.put cleaning
  services := Table.empty.put ⟨⟨"s1", "Windows", .online⟩, "c1", "windows", none, none, true, 0, 0⟩
  providerServices := .empty

/-- The lists without a filter, after a search that found nothing. -/
def session : Session :=
  (Session.start db 0).after engine
    [⟨0, .findCategories ⟨none, none, some "plumbing", none⟩⟩,
      ⟨0, .findServices ⟨none, some "plumbing", none, none⟩⟩]

def allCategories : QueryCategoryDto := ⟨none, none, none, none⟩

def allServices : QueryServiceDto := ⟨none, none, none, none⟩

end Sample

/-- Both lists are empty. -/
theorem not_findAll_transparent :
    Sample.session.reply Sample.engine ⟨1, .findCategories Sample.allCategories⟩ ≠
      ((CategoryRepository.findAllPaginated Sample.engine Sample.allCategories).handle
        (World.exec Sample.engine) (Sample.session.world.later 1)).1.map .categories ∧
    Sample.session.reply Sample.engine ⟨1, .findServices Sample.allServices⟩ ≠
      ((ServiceRepository.findAllPaginated Sample.engine Sample.allServices).handle
        (World.exec Sample.engine) (Sample.session.world.later 1)).1.map .services := by
  decide +kernel

end ServiceHub.Catalog
