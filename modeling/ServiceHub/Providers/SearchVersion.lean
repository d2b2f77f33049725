/-
# `Providers.SearchVersion` — a search is not older than the last change

The answer to a search is cached under a key that contains the version of the
search, `providers:version`.  Every change of what is searched increments the
version, so that the answers cached before are never looked up again.

**What fails.**  A counter that is absent is read as 1, and `INCR` makes it 1.
The first change after Redis was empty leaves the version at what it was, and
the answers of before are found (`not_search_fresh`).  From 2^53 on the counter
is rounded when it is read, and an increment may be lost in the same way.

**What holds.**  `Versioned`: a change finds the counter present, and below
2^53, or no answer cached.  Then no answer is under a version later than the
present one (`Bounded`), none is under a version that has just begun
(`fresh_of_mutated`), and what a search finds was cached after the last change
(`search_fresh`).
-/
import ServiceHub.Providers.Requests
import ServiceHub.Data.Text

namespace ServiceHub.Providers

open Data Txn Prog RedisService
open ServiceHub.Providers.ProviderService (searchKey)

/-! ## Keys -/

theorem colon_not_mem_digits (n : Nat) : ':' ∉ (toString n).toList := by
  intro h
  rw [Nat.toString_eq_repr, Nat.toList_repr] at h
  exact absurd (Nat.isDigit_of_mem_toDigits (by decide) (by decide) h) (by decide)

theorem toString_injective {m n : Nat} (h : (toString m).toList = (toString n).toList) : m = n := by
  rw [Nat.toString_eq_repr, Nat.toString_eq_repr, Nat.toList_repr, Nat.toList_repr] at h
  rw [← Nat.ofDigitChars_ten_toDigits (n := m), h, Nat.ofDigitChars_ten_toDigits]

section
variable {js : Builtins}

/-- Keys of different versions are different, whatever the queries are. -/
theorem version_of_searchKey {m n : Nat} {q q' : QueryProviderSearchDto}
    (h : searchKey js m q = searchKey js n q') : m = n := by
  have hlist := congrArg String.toList h
  simp only [searchKey, buildNormalizedQueryKey, String.toList_append, List.append_assoc,
    List.append_cancel_left_eq] at hlist
  exact toString_injective
    (Text.cut_injective (colon_not_mem_digits m) (colon_not_mem_digits n) hlist).1

theorem searchKey_ne_profileKey {n : Nat} {q : QueryProviderSearchDto} {id : Uuid} :
    searchKey js n q ≠ profileKey id := by
  intro h
  have hlist := congrArg String.toList h
  simp [searchKey, buildNormalizedQueryKey, profileKey, Reviews.profileKey] at hlist

end

/-! ## What a request does to Redis -/

/-- The counter after `INCR`. -/
def next (version : Option Nat) : Option Nat :=
  if version.getD 0 + 1 < 2 ^ 63 then some (version.getD 0 + 1) else version

theorem bump_eq (db : Db) : db.bump = { db with version := next db.version } := by
  unfold Db.bump Db.incremented next
  split
  · rename_i n hn
    split at hn
    · rename_i hlt
      cases hn
      rw [if_pos hlt]
      rfl
    · cases hn
  · rename_i hn
    split at hn
    · cases hn
    · rename_i hlt
      rw [if_neg hlt]

theorem redis_of_wrote {db db' : Db} (h : Wrote db db') :
    db'.redis = db.redis ∧ db'.version = db.version := by
  obtain ⟨rows, hrows, rfl⟩ := h
  induction rows generalizing db with
  | nil => exact ⟨rfl, rfl⟩
  | cons x rows ih =>
      have hx : (db.put x).redis = db.redis ∧ (db.put x).version = db.version := by
        cases x with
        | entry key e => exact absurd (hrows _ List.mem_cons_self) (by simp [Row.durable])
        | version n => exact absurd (hrows _ List.mem_cons_self) (by simp [Row.durable])
        | _ => exact ⟨rfl, rfl⟩
      obtain ⟨hredis, hversion⟩ := @ih (db.put x) fun y hy => hrows y (List.mem_cons_of_mem _ hy)
      exact ⟨hredis.trans hx.1, hversion.trans hx.2⟩

/-- The requests that change what is searched. -/
def Request.mutates : Request → Bool
  | .setAvailibity _ => true
  | .provider (.updateOwnProfile _ _ _) => true
  | .provider (.createOffering _ _ _ _) => true
  | .provider (.updateOffering _ _ _ _) => true
  | .provider (.removeOffering _ _ _) => true
  | .provider (.verifyProvider _ _) => true
  | .provider (.rejectProvider _ _ _) => true
  | .provider (.suspendProvider _ _) => true
  | _ => false

/-- Those and the search. -/
def Request.searches : Request → Bool
  | .provider (.searchPublicProviders _ _) => true
  | r => r.mutates

theorem search_of_searches {r : Request} (hr : r.searches = true) (hmutates : ¬ r.mutates = true) :
    ∃ now q, r = .provider (.searchPublicProviders now q) := by
  cases r with
  | provider o =>
      cases o with
      | searchPublicProviders now q => exact ⟨now, q, rfl⟩
      | _ => exact absurd hr hmutates
  | _ => exact absurd hr hmutates

section
variable {js : Builtins} {w : World}

/-- Redis after a change: the answers of searches are still there, and the
version is incremented if the change completed. -/
def Invalidated {α : Type} (js : Builtins) (db db' : Db) (r : Except Exn α) : Prop :=
  (∀ n q, db'.redis.entries (searchKey js n q) = db.redis.entries (searchKey js n q)) ∧
    match r with
    | .ok _ => db'.version = next db.version
    | .error _ => db'.version = db.version

theorem Mutated.invalidated {α : Type} {db db' : Db} {r : Except Exn α} (h : Mutated db db' r)
    (js : Builtins) : Invalidated js db db' r := by
  obtain ⟨mid, hwrote, hr⟩ := h
  obtain ⟨hredis, hversion⟩ := redis_of_wrote hwrote
  cases r with
  | error e =>
      obtain rfl := hr
      exact ⟨fun n q => by rw [hredis], hversion⟩
  | ok a =>
      obtain ⟨id, rfl⟩ := hr
      have hbump := bump_eq (mid.put (.entry (profileKey id) none))
      refine ⟨fun n q => ?_, ?_⟩
      · have hne : searchKey js n q ≠ profileKey id := searchKey_ne_profileKey
        rw [Db.invalidated, hbump, ← hredis]
        show Function.update mid.redis.entries (profileKey id) none (searchKey js n q) = _
        rw [Function.update_of_ne hne]
      · simp only [Db.invalidated, hbump, ← hversion]
        rfl

theorem invalidated_of_ends {α : Type} {o : Op} {p : Call α} {g : α → Response}
    (hp : program js o = p.map g) (hends : p.Ends w.db (Mutated w.db)) :
    Invalidated js w.db (w.serveProvider js o).2.db (w.serveProvider js o).1 := by
  obtain ⟨db', log', r, hserial, hr⟩ := Prog.Ends.map (Q := fun db' r => Invalidated js w.db db' r)
    (f := g) (hends.mono fun db' r hr => by
      have h := hr.invalidated js
      cases r with
      | ok a => exact h
      | error e => exact h) []
  unfold World.serveProvider
  rw [hp, hserial]
  cases r with
  | ok a => exact hr
  | error e => exact hr

theorem invalidated_of_mutates (js : Builtins) (w : World) {r : Request} (h : r.mutates = true) :
    Invalidated js w.db (w.serve js r).2.db (w.serve js r).1 := by
  have hoffering : ∀ {p : Call ProviderService} {id : Uuid} {W : ProviderService → Prop},
      p.Ends w.db (OfferingWritten w.db id W) → p.Ends w.db (Mutated w.db) :=
    fun hends => hends.mono fun _ _ hr => hr.mutated
  cases r with
  | catalog now op => cases h
  | updateStatus auditId now id status adminUserId => cases h
  | setAvailibity o =>
      rcases hserial : (Schedules.setAvailibity o).serial
        (⟨none, w.schedules, []⟩ : SerialState Schedules.Db Schedules.Ext) with ⟨σ, r⟩
      have hlog := setAvailibity_log o w.schedules hserial
      simp only [World.serve, World.serveSetAvailibity, hserial, hlog]
      cases r with
      | error e => exact ⟨fun _ _ => rfl, rfl⟩
      | ok x =>
          have hbump := bump_eq w.db
          simp only [List.foldl_cons, List.foldl_nil, hbump]
          exact ⟨fun _ _ => rfl, rfl⟩
  | provider o =>
      cases o with
      | updateOwnProfile now userId dto =>
          exact invalidated_of_ends rfl (updateOwnProfile_ends now userId dto)
      | createOffering id now providerId dto =>
          exact invalidated_of_ends rfl (hoffering (createOffering_ends id now providerId dto))
      | updateOffering now providerId id dto =>
          exact invalidated_of_ends rfl (hoffering (updateOffering_ends now providerId id dto))
      | removeOffering now providerId id =>
          exact invalidated_of_ends rfl (hoffering (removeOffering_ends now providerId id))
      | verifyProvider r id =>
          exact invalidated_of_ends rfl (AdminProviderService.verifyProvider_ends r id)
      | rejectProvider r id reason =>
          exact invalidated_of_ends rfl (AdminProviderService.rejectProvider_ends r id reason)
      | suspendProvider r id =>
          exact invalidated_of_ends rfl (AdminProviderService.suspendProvider_ends r id)
      | _ => cases h

end

/-! ## The search -/

section
variable {js : Builtins} {w : World}

/-- The version that a search reads. -/
def World.versionNumber (w : World) : Nat := RedisService.versionNumber w.db.version

/-- The key of a search. -/
def World.keyOf (js : Builtins) (w : World) (q : QueryProviderSearchDto) : String :=
  searchKey js w.versionNumber q

/-- The request is a search, and its answer is cached under the key: Redis had
none, and has it afterwards. -/
def Caches (js : Builtins) (w : World) (r : Request) (key : String) (e : Entry Cached) : Prop :=
  ∃ now q, r = .provider (.searchPublicProviders now q) ∧ w.keyOf js q = key ∧
    w.db.redis.get now key = none ∧ (w.serve js r).1 = .ok (.provider (.cached e.value)) ∧
    (w.serve js r).2.db.redis.entries key = some e

/-- The search finds the entry, and answers with it. -/
def Hits (js : Builtins) (w : World) (now : Time) (q : QueryProviderSearchDto)
    (e : Entry Cached) : Prop :=
  w.db.redis.entries (w.keyOf js q) = some e ∧ now < e.expiresAt ∧
    (w.serve js (.provider (.searchPublicProviders now q))).1 = .ok (.provider (.cached e.value))

/-- What is fetched is read. -/
theorem fetchSearch_ends (q : QueryProviderSearchDto) (db : Db) :
    (ProviderService.fetchSearch js q).Ends db fun db' _ => db' = db := by
  unfold ProviderService.fetchSearch ProviderRepository.findPublicProviders
  rw [autocommit_bind]
  refine Ends.bind (Ends.bind (Ends.stmt (fun items _ => ?_) fun _ _ => rfl))
  simp only [autocommit_bind]
  exact Ends.bind (Ends.stmt (fun total _ => Ends.pure (Ends.pure rfl)) fun _ _ => rfl)

/-- What `getOrSet` does: it answers with what it finds, or with what it fetches
and stores. -/
def Looked (now : Time) (key : String) (ttl : Int) (db db' : Db) (r : Except Exn Cached) : Prop :=
  match db.redis.get now key with
  | some v => r = .ok v ∧ db' = db
  | none => (∃ e, r = .error e ∧ db' = db) ∨
      ∃ v, r = .ok v ∧ db' = db.put (.entry key (some ⟨v, now + 1000 * ttl⟩))

theorem get_ends (now : Time) (key : String) (db : Db) :
    (RedisService.get now key).Ends db fun db' r => db' = db ∧ r = .ok (db.redis.get now key) :=
  fun log => ⟨db, log, .ok _, rfl, rfl, rfl⟩

theorem set_ends (now : Time) (key : String) (v : Cached) (ttl : Int) (db : Db) :
    (RedisService.set now key v ttl).Ends db fun db' r =>
      db' = db.put (.entry key (some ⟨v, now + 1000 * ttl⟩)) ∧ r = .ok () :=
  fun log => ⟨_, log, .ok (), rfl, rfl, rfl⟩

theorem getSearchVersion_ends (db : Db) :
    getSearchVersion.Ends db fun db' r =>
      db' = db ∧ r = .ok (RedisService.versionNumber db.version) :=
  fun log => ⟨db, log, .ok _, rfl, rfl, rfl⟩

section
variable {now : Time} {key : String} {ttl : Int} {db : Db} {v : Cached}

theorem Looked.hit (h : db.redis.get now key = some v) : Looked now key ttl db db (.ok v) := by
  rw [Looked, h]
  exact ⟨rfl, rfl⟩

theorem Looked.failed {e : Exn} (h : db.redis.get now key = none) :
    Looked now key ttl db db (.error e) := by
  rw [Looked, h]
  exact Or.inl ⟨e, rfl, rfl⟩

theorem Looked.stored (h : db.redis.get now key = none) :
    Looked now key ttl db (db.put (.entry key (some ⟨v, now + 1000 * ttl⟩))) (.ok v) := by
  rw [Looked, h]
  exact Or.inr ⟨v, rfl, rfl⟩

theorem getOrSet_ends {fetchFn : Call Cached} (hfetch : fetchFn.Ends db fun db' _ => db' = db) :
    (getOrSet now key fetchFn ttl).Ends db (Looked now key ttl db) := by
  refine Ends.bind ((get_ends now key db).mono ?_)
  rintro db' r ⟨rfl, rfl⟩
  cases hlook : db'.redis.get now key with
  | some v => exact Ends.pure (Looked.hit hlook)
  | none =>
      refine Ends.bind (hfetch.mono ?_)
      rintro db₁ (e | v) rfl
      · exact Looked.failed hlook
      · refine Ends.bind ((set_ends now key v ttl db₁).mono ?_)
        rintro db₂ r ⟨rfl, rfl⟩
        exact Ends.pure (Looked.stored hlook)

end

theorem searchPublicProviders_ends (js : Builtins) (w : World) (now : Time)
    (q : QueryProviderSearchDto) :
    (ProviderService.searchPublicProviders js now q).Ends w.db
      (Looked now (w.keyOf js q) searchTtl w.db) := by
  refine Ends.bind ((getSearchVersion_ends w.db).mono ?_)
  rintro db' r ⟨rfl, rfl⟩
  exact getOrSet_ends (fetchSearch_ends q w.db)

variable (js w) in
/-- A search: answered from Redis, refused, or answered and cached. -/
theorem serve_search (now : Time) (q : QueryProviderSearchDto) :
    (∃ v, w.db.redis.get now (w.keyOf js q) = some v ∧
      w.serve js (.provider (.searchPublicProviders now q)) = (.ok (.provider (.cached v)), w)) ∨
    w.db.redis.get now (w.keyOf js q) = none ∧
      ((∃ e, w.serve js (.provider (.searchPublicProviders now q)) = (.error e, w)) ∨
        ∃ v, w.serve js (.provider (.searchPublicProviders now q)) = (.ok (.provider (.cached v)),
          { w with db := w.db.put (.entry (w.keyOf js q) (some ⟨v, now + 1000 * searchTtl⟩)) })) := by
  obtain ⟨db', log', r, hserial, hr⟩ := searchPublicProviders_ends js w now q []
  have hserve : w.serve js (.provider (.searchPublicProviders now q)) =
      ((r.map Response.cached).map .provider, { w with db := db' }) := by
    simp only [World.serve, World.serveProvider, program, Prog.map, serial_cont, hserial]
    cases r with
    | ok v => rfl
    | error e => rfl
  rw [hserve]
  unfold Looked at hr
  split at hr
  · rename_i v hget
    obtain ⟨rfl, rfl⟩ := hr
    exact Or.inl ⟨v, hget, rfl⟩
  · rename_i hget
    rcases hr with ⟨e, rfl, rfl⟩ | ⟨v, rfl, rfl⟩
    · exact Or.inr ⟨hget, Or.inl ⟨e, rfl⟩⟩
    · exact Or.inr ⟨hget, Or.inr ⟨v, rfl⟩⟩

end

/-! ## Versions -/

/-- A counter that the program has reached by increments that were not lost. -/
def Counts (version : Option Nat) : Prop := ∀ n ∈ version, 1 ≤ n ∧ n ≤ 2 ^ 53

theorem versionNumber_some {n : Nat} (h : 1 ≤ n ∧ n ≤ 2 ^ 53) :
    RedisService.versionNumber (some n) = n := by
  have hdouble : toDouble n = n := by
    rcases Nat.lt_or_eq_of_le h.2 with hlt | rfl
    · rw [toDouble, if_pos hlt]
    · decide
  rw [RedisService.versionNumber, hdouble, if_neg (by omega)]

/-- Redis holds no answer of a search. -/
def NoSearch (js : Builtins) (db : Db) : Prop :=
  ∀ n q, db.redis.entries (searchKey js n q) = none

/-- A change finds the counter present, and where an increment is exact, or no
answer cached. -/
def Versioned (js : Builtins) (w : World) (r : Request) : Prop :=
  r.mutates = true →
    match w.db.version with
    | some n => n < 2 ^ 53
    | none => NoSearch js w.db

/-- No answer is under a version later than the present one. -/
structure Bounded (js : Builtins) (w : World) : Prop where
  counts : Counts w.db.version
  entries : ∀ n q, (w.db.redis.entries (searchKey js n q)).isSome → n ≤ w.versionNumber

/-- No answer is under the present version. -/
def Fresh (js : Builtins) (w : World) : Prop :=
  ∀ q, w.db.redis.entries (w.keyOf js q) = none

section
variable {js : Builtins} {w : World} {r : Request}

/-- A change that completes begins a version. -/
theorem fresh_of_mutated (h : Bounded js w) (hr : r.mutates = true) (hok : Versioned js w r)
    (hdone : (w.serve js r).1.isOk = true) :
    Bounded js (w.serve js r).2 ∧ Fresh js (w.serve js r).2 ∧
      (w.db.version.isSome → w.versionNumber < (w.serve js r).2.versionNumber) := by
  obtain ⟨hentries, hversion⟩ := invalidated_of_mutates js w hr
  have hversion : (w.serve js r).2.db.version = next w.db.version := by
    cases hresult : (w.serve js r).1 with
    | ok x =>
        rw [hresult] at hversion
        exact hversion
    | error e =>
        rw [hresult] at hdone
        cases hdone
  have hok := hok hr
  cases hold : w.db.version with
  | some n =>
      rw [hold] at hok hversion
      have hn := h.counts n hold
      have hnext : next (some n) = some (n + 1) := by
        rw [next, if_pos (by simp only [Option.getD_some]; omega)]
        rfl
      rw [hnext] at hversion
      have hbefore : w.versionNumber = n := by
        rw [World.versionNumber, hold, versionNumber_some hn]
      have hafter : (w.serve js r).2.versionNumber = n + 1 := by
        rw [World.versionNumber, hversion, versionNumber_some ⟨by omega, by omega⟩]
      refine ⟨⟨?_, fun m q hsome => ?_⟩, fun q => ?_, fun _ => by omega⟩
      · intro m hm
        rw [hversion] at hm
        obtain rfl := Option.some.inj hm
        omega
      · rw [hentries] at hsome
        have hle := h.entries m q hsome
        omega
      · by_contra hne
        rw [World.keyOf, hafter, hentries] at hne
        have hle := h.entries (n + 1) q (Option.isSome_iff_ne_none.mpr hne)
        omega
  | none =>
      rw [hold] at hok hversion
      have hnext : next none = some 1 := rfl
      rw [hnext] at hversion
      refine ⟨⟨?_, fun m q hsome => ?_⟩, fun q => ?_, fun hsome => by cases hsome⟩
      · intro m hm
        rw [hversion] at hm
        obtain rfl := Option.some.inj hm
        omega
      · rw [hentries, hok m q] at hsome
        cases hsome
      · rw [World.keyOf, hentries, hok]

/-- A change that does not complete leaves the version and the answers. -/
theorem unchanged_of_refused (hr : r.mutates = true) (hfailed : (w.serve js r).1.isOk = false) :
    (w.serve js r).2.db.version = w.db.version ∧
      ∀ n q, (w.serve js r).2.db.redis.entries (searchKey js n q) =
        w.db.redis.entries (searchKey js n q) := by
  obtain ⟨hentries, hversion⟩ := invalidated_of_mutates js w hr
  refine ⟨?_, hentries⟩
  cases hresult : (w.serve js r).1 with
  | ok x =>
      rw [hresult] at hfailed
      cases hfailed
  | error e =>
      rw [hresult] at hversion
      exact hversion

end

/-! ## Runs -/

section
variable {js : Builtins} {w : World}

theorem World.after_append (w : World) (rs rs' : List Request) :
    w.after js (rs ++ rs') = (w.after js rs).after js rs' :=
  List.foldl_append

theorem meets_append {Ok : World → Request → Prop} :
    ∀ {rs rs' : List Request} {w : World}, w.Meets js Ok (rs ++ rs') ↔
      w.Meets js Ok rs ∧ (w.after js rs).Meets js Ok rs'
  | [], _, _ => ⟨fun h => ⟨trivial, h⟩, fun h => h.2⟩
  | r :: rs, rs', w => by
      rw [List.cons_append]
      exact (and_congr Iff.rfl meets_append).trans and_assoc.symm

/-- **The step lemma.** -/
theorem Bounded.serve (h : Bounded js w) {r : Request} (hr : r.searches = true)
    (hok : Versioned js w r) : Bounded js (w.serve js r).2 := by
  by_cases hmutates : r.mutates = true
  · by_cases hdone : (w.serve js r).1.isOk = true
    · exact (fresh_of_mutated h hmutates hok hdone).1
    · obtain ⟨hversion, hentries⟩ := unchanged_of_refused hmutates (by simpa using hdone)
      refine ⟨fun n hn => h.counts n (hversion ▸ hn), fun n q hsome => ?_⟩
      rw [hentries] at hsome
      rw [World.versionNumber, hversion]
      exact h.entries n q hsome
  · obtain ⟨now, q, rfl⟩ := search_of_searches hr hmutates
    rcases serve_search js w now q with ⟨v, _, hserve⟩ | ⟨_, ⟨e, hserve⟩ | ⟨v, hserve⟩⟩
    · rw [hserve]
      exact h
    · rw [hserve]
      exact h
    · rw [hserve]
      refine ⟨h.counts, fun n q' hsome => ?_⟩
      by_cases hkey : searchKey js n q' = w.keyOf js q
      · exact Nat.le_of_eq (version_of_searchKey hkey)
      · refine h.entries n q' ?_
        have hother : Function.update w.db.redis.entries (w.keyOf js q)
            (some ⟨v, now + 1000 * searchTtl⟩) (searchKey js n q') =
              w.db.redis.entries (searchKey js n q') := Function.update_of_ne hkey _ _
        rwa [← hother]

/-- **The run lemma.** -/
theorem Bounded.after (h : Bounded js w) {rs : List Request} (hrs : ∀ r ∈ rs, r.searches = true)
    (hok : w.Meets js (Versioned js) rs) : Bounded js (w.after js rs) := by
  induction rs generalizing w with
  | nil => exact h
  | cons r rs ih =>
      exact ih (h.serve (hrs r List.mem_cons_self) hok.1)
        (fun x hx => hrs x (List.mem_cons_of_mem _ hx)) hok.2

/-- One of the requests cached the entry. -/
def Cached.Within (js : Builtins) (w : World) (rs : List Request) (key : String)
    (e : Entry Cached) : Prop :=
  ∃ rs₁ r rs₂, rs = rs₁ ++ r :: rs₂ ∧ Caches js (w.after js rs₁) r key e

theorem Cached.Within.more {rs : List Request} {key : String} {e : Entry Cached}
    (h : Cached.Within js w rs key e) (r : Request) : Cached.Within js w (rs ++ [r]) key e := by
  obtain ⟨rs₁, x, rs₂, rfl, hx⟩ := h
  exact ⟨rs₁, x, rs₂ ++ [r], by rw [List.append_assoc, List.cons_append], hx⟩

/-- After a version has begun, what is under the present one was cached since. -/
theorem within_of_fresh (hb : Bounded js w) (hfresh : Fresh js w) (rs : List Request)
    (hrs : ∀ r ∈ rs, r.searches = true) (hok : w.Meets js (Versioned js) rs)
    {q : QueryProviderSearchDto} {e : Entry Cached}
    (he : (w.after js rs).db.redis.entries ((w.after js rs).keyOf js q) = some e) :
    Cached.Within js w rs ((w.after js rs).keyOf js q) e := by
  induction rs using List.reverseRecOn generalizing q with
  | nil =>
      have hnone := hfresh q
      rw [show w.after js [] = w from rfl, hnone] at he
      cases he
  | append_singleton rs r ih =>
      obtain ⟨hmeets, hr, -⟩ := meets_append.mp hok
      have hrs' : ∀ x ∈ rs, x.searches = true := fun x hx => hrs x (List.mem_append_left _ hx)
      have hsearches : r.searches = true := hrs r (List.mem_append_right _ List.mem_cons_self)
      have hbound := hb.after hrs' hmeets
      have ih := fun {q} he => (ih hrs' hmeets (q := q) he).more r
      have hlast : w.after js (rs ++ [r]) = ((w.after js rs).serve js r).2 := World.after_append w rs [r]
      rw [hlast] at he ⊢
      by_cases hmutates : r.mutates = true
      · by_cases hdone : ((w.after js rs).serve js r).1.isOk = true
        · -- the version has just begun, and nothing is under it
          obtain ⟨-, hnone, -⟩ := fresh_of_mutated hbound hmutates hr hdone
          rw [hnone q] at he
          cases he
        · obtain ⟨hversion, hentries⟩ := unchanged_of_refused hmutates (by simpa using hdone)
          have hkey : ((w.after js rs).serve js r).2.keyOf js q = (w.after js rs).keyOf js q := by
            rw [World.keyOf, World.versionNumber, hversion]
            rfl
          rw [hkey] at he ⊢
          rw [World.keyOf, hentries] at he
          exact ih he
      · obtain ⟨now, q', rfl⟩ := search_of_searches hsearches hmutates
        rcases serve_search js (w.after js rs) now q' with
          ⟨v, _, hserve⟩ | ⟨hget, ⟨e', hserve⟩ | ⟨v, hserve⟩⟩
        · rw [hserve] at he ⊢
          exact ih he
        · rw [hserve] at he ⊢
          exact ih he
        · by_cases hkey : (w.after js rs).keyOf js q = (w.after js rs).keyOf js q'
          · -- the entry is the one that the search has stored
            have hlast : ((w.after js rs).serve js (.provider (.searchPublicProviders now q'))).2.keyOf
                js q = (w.after js rs).keyOf js q' := by
              rw [hserve]
              exact hkey
            rw [hlast] at he ⊢
            refine ⟨rs, _, [], rfl, now, q', rfl, rfl, hget, ?_, he⟩
            rw [hserve] at he ⊢
            have hstored : Function.update (w.after js rs).db.redis.entries
                ((w.after js rs).keyOf js q') (some ⟨v, now + 1000 * searchTtl⟩)
                ((w.after js rs).keyOf js q') = some e := he
            rw [Function.update_self] at hstored
            obtain rfl := Option.some.inj hstored
            rfl
          · refine hserve ▸ ih ?_
            rw [hserve] at he
            have hother : Function.update (w.after js rs).db.redis.entries
                ((w.after js rs).keyOf js q') (some ⟨v, now + 1000 * searchTtl⟩)
                ((w.after js rs).keyOf js q) =
                  (w.after js rs).db.redis.entries ((w.after js rs).keyOf js q) :=
              Function.update_of_ne hkey _ _
            rw [← hother]
            exact he

theorem bounded_of_empty (hredis : w.db.redis = .empty) (hversion : w.db.version = none) :
    Bounded js w where
  counts n hn := by
    rw [hversion] at hn
    cases hn
  entries n q hsome := by
    rw [hredis] at hsome
    cases hsome

theorem hits_of_get {now : Time} {q : QueryProviderSearchDto} {v : Cached}
    (h : w.db.redis.get now (w.keyOf js q) = some v) : ∃ e, Hits js w now q e := by
  rcases serve_search js w now q with ⟨v', hget, hserve⟩ | ⟨hget, -⟩
  · obtain ⟨e, he, rfl⟩ := Option.map_eq_some_iff.mp hget
    obtain ⟨hentry, hlive⟩ := Option.filter_eq_some_iff.mp he
    exact ⟨e, hentry, of_decide_eq_true hlive, by rw [hserve]⟩
  · cases hget.symm.trans h

theorem versioned_of_counter {r : Request} {n : Nat} (hn : w.db.version = some n)
    (hlt : n < 2 ^ 53) : Versioned js w r := by
  intro _
  rw [hn]
  exact hlt

end

/-- **A search is not older than the last change.**  After a change `m` that has
completed, the answer that a search finds in Redis was cached after the change;
and if the counter was there before the change, the version is greater. -/
theorem search_fresh (js : Builtins) (w : World) (before : List Request) (m : Request)
    (between : List Request) (hredis : w.db.redis = .empty) (hversion : w.db.version = none)
    (hops : ∀ r ∈ before ++ m :: between, r.searches = true)
    (hok : w.Meets js (Versioned js) (before ++ m :: between)) (hm : m.mutates = true)
    (hdone : ((w.after js before).serve js m).1.isOk = true) :
    (∀ now q e, Hits js (w.after js (before ++ m :: between)) now q e →
      ∃ b₁ r b₂, between = b₁ ++ r :: b₂ ∧
        Caches js (w.after js (before ++ m :: b₁)) r
          ((w.after js (before ++ m :: between)).keyOf js q) e) ∧
      ((w.after js before).db.version.isSome →
        (w.after js before).versionNumber < (w.after js (before ++ [m])).versionNumber) := by
  obtain ⟨hbefore, hchange, hbetween⟩ := meets_append.mp hok
  have hbound : Bounded js (w.after js before) :=
    (bounded_of_empty hredis hversion).after (fun r hr => hops r (List.mem_append_left _ hr)) hbefore
  obtain ⟨hbound', hfresh, hlt⟩ := fresh_of_mutated hbound hm hchange hdone
  have hafter : ∀ rs, w.after js (before ++ m :: rs) =
      ((w.after js before).serve js m).2.after js rs := fun rs => World.after_append w before (m :: rs)
  simp only [hafter]
  refine ⟨fun now q e hhits => ?_, hlt⟩
  exact within_of_fresh hbound' hfresh between
    (fun r hr => hops r (List.mem_append_right _ (List.mem_cons_of_mem _ hr))) hbetween hhits.1

/-! ## The first change -/

namespace Sample

def everything : QueryProviderSearchDto :=
  ⟨none, none, none, none, none, none, none, none, none, none⟩

def rename (now : Time) (name : String) (hname : name ≠ "" := by decide) : Request :=
  .provider (.updateOwnProfile now "owner" (nameOnly name hname))

def search (now : Time) : Request := .provider (.searchPublicProviders now everything)

/-- Redis is empty, the provider is renamed twice, and searched for after each. -/
def renamed : World := world.after js ([rename 1 "First", search 2] ++ rename 3 "Second" :: [search 4])

/-- The first change of the name, after a search. -/
def first : World := world.after js ([search 1] ++ rename 2 "First" :: [])

/-- The names of the providers that a search answers with. -/
def names : Except Exn Reply → Option (List String)
  | .ok (.provider (.cached (.search r))) => some (r.items.map (·.businessName))
  | _ => none

end Sample

theorem search_fresh_sample :
    Sample.names (Sample.renamed.serve Sample.js (Sample.search 5)).1 = some ["Second"] ∧
    ∃ e, Hits Sample.js Sample.renamed 5 Sample.everything e ∧
      ∃ b₁ r b₂, [Sample.search 4] = b₁ ++ r :: b₂ ∧
        Caches Sample.js (Sample.world.after Sample.js
          ([Sample.rename 1 "First", Sample.search 2] ++ Sample.rename 3 "Second" :: b₁)) r
          (Sample.renamed.keyOf Sample.js Sample.everything) e := by
  refine ⟨by decide +kernel, ?_⟩
  obtain ⟨v, hv⟩ := Option.isSome_iff_exists.mp (show (Sample.renamed.db.redis.get 5
    (Sample.renamed.keyOf Sample.js Sample.everything)).isSome by decide +kernel)
  obtain ⟨e, he⟩ := hits_of_get hv
  have hfresh := search_fresh Sample.js Sample.world [Sample.rename 1 "First", Sample.search 2]
    (Sample.rename 3 "Second") [Sample.search 4] rfl rfl (by decide)
    ⟨fun _ _ _ => rfl, nofun, versioned_of_counter (n := 1) (by decide +kernel) (by decide),
      nofun, trivial⟩ rfl (by decide +kernel)
  exact ⟨e, he, hfresh.1 5 Sample.everything e he⟩

/-- The search after the change finds what was cached before it. -/
theorem not_search_fresh :
    Sample.names (Sample.world.serve Sample.js (Sample.search 1)).1 = some ["Acme"] ∧
    (Sample.first.db.providers.find? "provider").map (·.businessName) = some "First" ∧
    Sample.names (Sample.first.serve Sample.js (Sample.search 3)).1 = some ["Acme"] ∧
    (Sample.world.after Sample.js [Sample.search 1]).versionNumber = Sample.first.versionNumber ∧
    ¬ ∀ (js : Builtins) (w : World) (before : List Request) (m : Request) (between : List Request),
      w.db.redis = .empty → w.db.version = none →
      (∀ r ∈ before ++ m :: between, r.searches = true) → m.mutates = true →
      ((w.after js before).serve js m).1.isOk = true →
      ∀ now q e, Hits js (w.after js (before ++ m :: between)) now q e →
        ∃ b₁ r b₂, between = b₁ ++ r :: b₂ ∧
          Caches js (w.after js (before ++ m :: b₁)) r
            ((w.after js (before ++ m :: between)).keyOf js q) e := by
  refine ⟨by decide +kernel, by decide +kernel, by decide +kernel, by decide +kernel, fun h => ?_⟩
  obtain ⟨v, hv⟩ := Option.isSome_iff_exists.mp (show (Sample.first.db.redis.get 3
    (Sample.first.keyOf Sample.js Sample.everything)).isSome by decide +kernel)
  obtain ⟨e, he⟩ := hits_of_get hv
  obtain ⟨b₁, r, b₂, hnil, -⟩ := h Sample.js Sample.world [Sample.search 1] (Sample.rename 2 "First") []
    rfl rfl (by decide) rfl (by decide +kernel) 3 Sample.everything e he
  cases b₁ with
  | nil => cases hnil
  | cons x b₁ => cases hnil

end ServiceHub.Providers
