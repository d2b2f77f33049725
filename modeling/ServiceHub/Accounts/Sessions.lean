/-
# `Accounts.Sessions` — which refresh token is good

A session is replaced by the next one of the same user, and ends with a logout:
the row of the user has the hash of the refresh token that was issued last
(`Consistent`), and `refresh` compares the token it is given with that hash.

`bcrypt` reads 72 bytes.  A token begins with its header, which takes 37 of them,
and the next 35 are the beginning of its payload, which is the id of the user.
So every token of the user is taken for the last one (`compare_token`): what
`refresh` asks for is a token that verifies and a user who has a session, whichever
of the tokens began it (`refresh_iff_signed_in`).  After a logout none is good.

**What fails.**  A token that was replaced is as good as the one that replaced it
(`not_refresh_newest`), until it expires or the user logs out.  Whoever never
presents such a token (`Superseded`) gets a session for the newest one only
(`refresh_newest_iff`).
-/
import ServiceHub.Accounts.AuthService
import ServiceHub.Txn.Handler

namespace ServiceHub.Accounts

open Data Txn Prog

/-! ## Calls one after another -/

/-- A statement, committed by itself. -/
def answer (s : Stmt) (db : Db) : Except Exn (Ans s) × Db :=
  match db.exec s with
  | .ok a => (.ok a, puts db (s.written a))
  | .error e => (.error e, db)

/-- What became of sessions: a refresh token was issued, or a user logged out. -/
inductive Act where
  | issued (userId : Uuid) (token : String) (exp : Int)
  | loggedOut (userId : Uuid)
  deriving DecidableEq

def Act.userId : Act → Uuid
  | .issued userId _ _ => userId
  | .loggedOut userId => userId

def Act.token : Act → Option String
  | .issued _ token _ => some token
  | .loggedOut _ => none

/-- The user of a token, if this is where it was issued and it has not expired. -/
def Act.verifies (now : Time) (token : String) : Act → Option Uuid
  | .issued userId t exp => if t = token ∧ now / 1000 < exp then some userId else none
  | .loggedOut _ => none

theorem Act.verifies_eq_some {now : Time} {token : String} {a : Act} {userId : Uuid}
    (h : a.verifies now token = some userId) : ∃ exp, a = .issued userId token exp := by
  cases a with
  | loggedOut id => cases h
  | issued id t exp =>
      obtain ⟨⟨rfl, -⟩, hid⟩ := Option.ite_none_right_eq_some.mp h
      obtain rfl := Option.some.inj hid
      exact ⟨exp, rfl⟩

inductive SessionOp where
  | register (dto : RegisterDto)
  | login (dto : LoginDto)
  | refresh (refreshToken : Option String)
  | logout (userId : Uuid)

/-- The database, and what has happened so far, the latest first. -/
structure World where
  db : Db
  acts : List Act

namespace World

variable (w : World)

/-- The user of a token that was issued and has not expired. -/
def verifyAsync (now : Time) (token : String) : Option Uuid :=
  w.acts.findSome? (Act.verifies now token)

/-- The latest act of a user. -/
def last (userId : Uuid) : Option Act := w.acts.find? fun a => a.userId = userId

def refresh (host : AuthHost) (ctx : AuthCtx) (refreshToken : Option String) :
    Except Exn Session × Db :=
  (AuthService.refresh host ctx (w.verifyAsync ctx.now) refreshToken).handle answer w.db

/-- A call that returns a session has issued its refresh token. -/
def opened (host : AuthHost) (ctx : AuthCtx) : Except Exn Session × Db → World
  | (.ok s, db) =>
      ⟨db, .issued s.user.id s.refreshToken (ctx.now / 1000 + host.refreshExpiresIn) :: w.acts⟩
  | (.error _, db) => ⟨db, w.acts⟩

def closed (userId : Uuid) : Except Exn String × Db → World
  | (.ok _, db) => ⟨db, .loggedOut userId :: w.acts⟩
  | (.error _, db) => ⟨db, w.acts⟩

def step (host : AuthHost) (w : World) : AuthCtx × SessionOp → World
  | (ctx, .register dto) =>
      w.opened host ctx ((AuthService.register host ctx dto).handle answer w.db)
  | (ctx, .login dto) => w.opened host ctx ((AuthService.login host ctx dto).handle answer w.db)
  | (ctx, .refresh refreshToken) => w.opened host ctx (w.refresh host ctx refreshToken)
  | (_, .logout userId) => w.closed userId ((AuthService.logout userId).handle answer w.db)

def run (host : AuthHost) (w : World) (ops : List (AuthCtx × SessionOp)) : World :=
  ops.foldl (step host) w

/-- `token` is the refresh token that was issued to the user last, and the user
has not logged out since. -/
def Newest (userId : Uuid) (token : String) : Prop :=
  ∃ exp, w.last userId = some (.issued userId token exp)

/-- `token` has not expired, and is of a user who was issued another one later and
has not logged out since. -/
def Superseded (now : Time) (token : String) : Prop :=
  ∃ userId other, w.verifyAsync now token = some userId ∧ w.Newest userId other ∧ other ≠ token

end World

/-- What is known of `bcrypt`. -/
structure Bcrypt (host : AuthHost) : Prop where
  compare_hash : ∀ salt x y,
    host.compare x (host.hash salt y) = true ↔ (utf8 x).take 72 = (utf8 y).take 72
  hash_ne_empty : ∀ salt x, host.hash salt x ≠ ""

/-! ## What a call leaves -/

/-- The hash of a user. -/
def stored (db : Db) (userId : Uuid) : Option String :=
  (db.users.find? userId).bind User.refreshTokenHash

/-- Every user is still there, with the same email and role. -/
def Keeps (db db' : Db) : Prop :=
  ∀ id u, db.users.find? id = some u →
    ∃ v, db'.users.find? id = some v ∧ v.email = u.email ∧ v.role = u.role

/-- The hash of no other user has changed. -/
structure Touches (userId : Option Uuid) (db db' : Db) : Prop where
  keeps : Keeps db db'
  stored : ∀ id, some id ≠ userId → stored db' id = stored db id

/-- A session is begun. -/
structure Opens (host : AuthHost) (ctx : AuthCtx) (db db' : Db) (s : Session) : Prop where
  touches : Touches (some s.user.id) db db'
  token : ∃ u, db'.users.find? s.user.id = some u ∧
    s.refreshToken = host.signAsync ctx.now host.refreshSecret host.refreshExpiresIn u
  stored : stored db' s.user.id = some (host.hash ctx.tokenSalt s.refreshToken)

def Outcome (host : AuthHost) (ctx : AuthCtx) (db : Db) : Except Exn Session → Db → Prop
  | .ok s, db' => Opens host ctx db db' s
  | .error _, db' => Touches none db db'

section
variable {host : AuthHost} {ctx : AuthCtx} {db db₁ db₂ : Db} {userId : Option Uuid}

theorem Keeps.refl : Keeps db db := fun _ u hu => ⟨u, hu, rfl, rfl⟩

theorem Keeps.trans (h : Keeps db db₁) (h' : Keeps db₁ db₂) : Keeps db db₂ := by
  intro id u hu
  obtain ⟨v, hv, hemail, hrole⟩ := h id u hu
  obtain ⟨x, hx, hemail', hrole'⟩ := h' id v hv
  exact ⟨x, hx, hemail'.trans hemail, hrole'.trans hrole⟩

theorem Touches.refl : Touches userId db db := ⟨.refl, fun _ _ => rfl⟩

theorem Touches.trans (h : Touches none db db₁) (h' : Touches userId db₁ db₂) :
    Touches userId db db₂ :=
  ⟨h.keeps.trans h'.keeps, fun id hid => (h'.stored id hid).trans (h.stored id (Option.some_ne_none id))⟩

theorem Outcome.trans {r : Except Exn Session} (h : Touches none db db₁)
    (h' : Outcome host ctx db₁ r db₂) : Outcome host ctx db r db₂ := by
  cases r with
  | error e => exact h.trans h'
  | ok s => exact ⟨h.trans h'.touches, h'.token, h'.stored⟩

/-! ### Statements -/

section Rules
variable {α : Type} {Q : Except Exn α → Db → Prop}

theorem post_query_bind {s : Stmt} {f : Ans s → Query α}
    (hok : ∀ a, db.exec s = .ok a → (f a).Post answer (puts db (s.written a)) Q)
    (herr : ∀ e, db.exec s = .error e → Q (.error e) db) : (query s >>= f).Post answer db Q := by
  refine post_bind.mpr (post_perform.mpr ?_)
  unfold answer
  cases hs : db.exec s with
  | ok a => exact hok a hs
  | error e => exact herr e hs

theorem post_findById_bind {id : Uuid} {f : Option User → Query α}
    (h : (f (db.users.find? id)).Post answer db Q) :
    (AuthRepository.findById id >>= f).Post answer db Q := by
  refine post_query_bind (fun a ha => ?_) fun e he => ?_
  · obtain rfl := Except.ok.inj ha
    exact h
  · cases he

theorem post_findByEmail_bind {email : String} {f : Option User → Query α}
    (h : ∀ found, (∀ u, found = some u → u ∈ db.users.rows) → (f found).Post answer db Q) :
    (AuthRepository.findByEmail email >>= f).Post answer db Q := by
  refine post_query_bind (fun a ha => ?_) fun e he => ?_
  · obtain rfl := Except.ok.inj ha
    exact h _ fun u hu => List.mem_of_find?_eq_some hu
  · cases he

theorem post_findByPhone_bind {phone : String} {f : Option User → Query α}
    (h : ∀ found, (f found).Post answer db Q) :
    (AuthRepository.findByPhone phone >>= f).Post answer db Q := by
  refine post_query_bind (fun found _ => h found) fun e he => ?_
  cases he

theorem post_create_bind {u : User} {f : User → Query α}
    (hok : db.users.find? u.id = none → (f u).Post answer (db.put (.user u)) Q)
    (herr : ∀ e, Q (.error e) db) : (AuthRepository.create u >>= f).Post answer db Q := by
  refine post_query_bind (fun a ha => ?_) fun e _ => herr e
  obtain ⟨hsame, hnew⟩ := Db.insert_ok ha
  rw [show a = u from hsame]
  exact hok (Option.map_eq_none_iff.mp hnew)

theorem post_update_bind {id : Uuid} {data : UserUpdate} {f : User → Query α}
    (hok : ∀ u, db.users.find? id = some u →
      (f (data.on u)).Post answer (db.put (.user (data.on u))) Q)
    (herr : db.users.find? id = none → ∀ e, Q (.error e) db) :
    (AuthRepository.update id data >>= f).Post answer db Q := by
  refine post_query_bind (fun a ha => ?_) fun e he => ?_
  · obtain ⟨u, hu, rfl⟩ := Db.updateUser_ok ha
    exact hok u hu
  · cases hu : db.users.find? id with
    | none => exact herr hu e
    | some u => simp [Db.exec, hu] at he

theorem post_throwIf_bind {c : Prop} [Decidable c] {e : Exn} {f : Unit → Query α}
    (hok : ¬ c → (f ()).Post answer db Q) (herr : c → Q (.error e) db) :
    (Prog.throwIf c e >>= f).Post answer db Q :=
  post_bind.mpr (post_throwIf.mpr ⟨herr, hok⟩)

theorem post_orThrow_bind {β : Type} {o : Option β} {e : Exn} {f : β → Query α}
    (hok : ∀ b, o = some b → (f b).Post answer db Q) (herr : o = none → Q (.error e) db) :
    (Prog.orThrow o e >>= f).Post answer db Q :=
  post_bind.mpr (post_orThrow.mpr ⟨herr, hok⟩)

end Rules

/-! ### One statement -/

/-- A user who was not there has no hash. -/
theorem touches_create {u : User} (hnew : db.users.find? u.id = none)
    (hnone : u.refreshTokenHash = none) : Touches none db (db.put (.user u)) := by
  refine ⟨fun id v hv => ?_, fun id _ => ?_⟩
  · have hne : u.id ≠ id := by
      rintro rfl
      rw [hnew] at hv
      cases hv
    exact ⟨v, by rw [Db.put, Table.find?_put, if_neg hne, hv], rfl, rfl⟩
  · unfold stored
    rw [Db.put, Table.find?_put]
    split
    · rename_i heq
      rw [← heq, hnew]
      exact hnone
    · rfl

theorem find?_update {id : Uuid} (data : UserUpdate) {u : User} (hu : db.users.find? id = some u) :
    (db.put (.user (data.on u))).users.find? id = some (data.on u) := by
  rw [Db.put, Table.find?_put, UserUpdate.id_on, if_pos (Table.key_of_find? hu)]

theorem touches_update {id : Uuid} (data : UserUpdate) {u : User}
    (hu : db.users.find? id = some u) :
    Touches (data.refreshTokenHash.map fun _ => id) db (db.put (.user (data.on u))) := by
  obtain rfl := Table.key_of_find? hu
  refine ⟨fun id v hv => ?_, fun id hid => ?_⟩
  · rw [Db.put, Table.find?_put]
    split
    · rename_i heq
      rw [UserUpdate.id_on] at heq
      obtain rfl := Option.some.inj (hu.symm.trans (heq ▸ hv))
      exact ⟨_, rfl, rfl, rfl⟩
    · exact ⟨v, hv, rfl, rfl⟩
  · unfold stored
    rw [Db.put, Table.find?_put]
    split
    · rename_i heq
      rw [UserUpdate.id_on] at heq
      subst heq
      rw [hu]
      cases hdata : data.refreshTokenHash with
      | none => simp [UserUpdate.on, hdata]
      | some h => exact absurd (by rw [hdata]; rfl) hid
    · rfl

/-! ### The service -/

theorem signAsync_congr {now : Time} {secret : String} {expiresIn : Int} {u v : User}
    (hid : v.id = u.id) (hemail : v.email = u.email) (hrole : v.role = u.role) :
    host.signAsync now secret expiresIn v = host.signAsync now secret expiresIn u := by
  simp only [AuthHost.signAsync, Jwt.payload, Jwt.subject, hid, hemail, hrole]

/-- A session can be begun for any user who is there. -/
theorem generateTokens_post {user u : User} (hu : db.users.find? user.id = some u)
    (hemail : u.email = user.email) (hrole : u.role = user.role) :
    (AuthService.generateTokens host ctx user).Post answer db fun r db' =>
      ∃ s, r = .ok s ∧ s.user.id = user.id ∧ Opens host ctx db db' s := by
  refine post_update_bind (fun v hv => ?_) fun hnone => ?_
  · obtain rfl := Option.some.inj (hu.symm.trans hv)
    let data : UserUpdate := { refreshTokenHash := some (some (host.hash ctx.tokenSalt
      (host.signAsync ctx.now host.refreshSecret host.refreshExpiresIn user))) }
    have hfind := find?_update data hu
    refine post_pure.mpr ⟨_, rfl, rfl, touches_update data hu, ⟨_, hfind, ?_⟩, ?_⟩
    · exact signAsync_congr (Table.key_of_find? hu).symm hemail.symm hrole.symm
    · exact congrArg (Option.bind · User.refreshTokenHash) hfind
  · rw [hu] at hnone
    cases hnone

theorem generateTokens_outcome {user u : User} (hu : db.users.find? user.id = some u)
    (hemail : u.email = user.email) (hrole : u.role = user.role) :
    (AuthService.generateTokens host ctx user).Post answer db (Outcome host ctx db) := by
  refine (generateTokens_post hu hemail hrole).mono ?_
  rintro _ db' ⟨s, rfl, -, hs⟩
  exact hs

theorem register_outcome (dto : RegisterDto) :
    (AuthService.register host ctx dto).Post answer db (Outcome host ctx db) := by
  unfold AuthService.register
  refine post_findByEmail_bind fun emailExists _ => ?_
  refine post_throwIf_bind (fun _ => ?_) fun _ => .refl
  refine post_findByPhone_bind fun phoneExists => ?_
  refine post_throwIf_bind (fun _ => ?_) fun _ => .refl
  refine post_create_bind (fun hnew => ?_) fun _ => .refl
  refine (generateTokens_outcome ?_ rfl rfl).mono fun _ _ h => .trans (touches_create hnew rfl) h
  rw [Db.put, Table.find?_put, if_pos rfl]

theorem login_outcome (dto : LoginDto) :
    (AuthService.login host ctx dto).Post answer db (Outcome host ctx db) := by
  unfold AuthService.login
  refine post_findByEmail_bind fun found hfound => ?_
  refine post_orThrow_bind (fun user huser => ?_) fun _ => .refl
  refine post_throwIf_bind (fun _ => ?_) fun _ => .refl
  have hu := Table.find?_of_mem (hfound user huser)
  refine post_update_bind (fun u hu' => ?_) fun _ _ => .refl
  obtain rfl := Option.some.inj (hu.symm.trans hu')
  exact (generateTokens_outcome (find?_update _ hu) rfl rfl).mono
    fun _ _ h => .trans (touches_update { lastLoginAt := some ctx.now } hu) h

/-- `refresh` accepts a token that verifies, and is taken for the one whose hash
is stored. -/
def Accepts (host : AuthHost) (verifyAsync : String → Option Uuid) (db : Db)
    (refreshToken : Option String) (userId : Uuid) : Prop :=
  ∃ token, truthy refreshToken = some token ∧ verifyAsync token = some userId ∧
    ∃ hash, truthy (stored db userId) = some hash ∧ host.compare token hash = true

/-- A session is begun exactly if the token is accepted, and then for its user. -/
theorem refresh_outcome (verifyAsync : String → Option Uuid) (refreshToken : Option String) :
    (AuthService.refresh host ctx verifyAsync refreshToken).Post answer db fun r db' =>
      Outcome host ctx db r db' ∧ ∀ userId,
        (∃ s, r = .ok s ∧ s.user.id = userId) ↔ Accepts host verifyAsync db refreshToken userId := by
  have hrefused : ∀ e : Exn, (∀ userId, ¬ Accepts host verifyAsync db refreshToken userId) →
      Outcome host ctx db (.error e) db ∧ ∀ userId,
        (∃ s, (.error e : Except Exn Session) = .ok s ∧ s.user.id = userId) ↔
          Accepts host verifyAsync db refreshToken userId :=
    fun e hno => ⟨.refl, fun userId => iff_of_false (by simp) (hno userId)⟩
  unfold AuthService.refresh
  refine post_orThrow_bind (fun token htoken => ?_) fun hnone => hrefused _ ?_
  swap
  · simp [Accepts, hnone]
  refine post_orThrow_bind (fun sub hsub => ?_) fun hnone => hrefused _ ?_
  swap
  · simp [Accepts, htoken, hnone]
  refine post_findById_bind (post_orThrow_bind (fun dbUser huser => ?_) fun hnone => hrefused _ ?_)
  swap
  · simp [Accepts, htoken, hsub, stored, hnone]
  have hstored : stored db sub = dbUser.refreshTokenHash := by rw [stored, huser]; rfl
  refine post_orThrow_bind (fun hash hhash => ?_) fun hnone => hrefused _ ?_
  swap
  · simp [Accepts, htoken, hsub, hstored, hnone]
  refine post_throwIf_bind (fun hmatch => ?_) fun hno => hrefused _ ?_
  swap
  · simp [Accepts, htoken, hsub, hstored, hhash, hno]
  obtain rfl := Table.key_of_find? huser
  refine (generateTokens_post huser rfl rfl).mono ?_
  rintro _ db' ⟨s, rfl, hid, hopens⟩
  have haccepts : ∀ userId, Accepts host verifyAsync db refreshToken userId ↔
      dbUser.id = userId := by
    intro userId
    constructor
    · rintro ⟨token', htoken', hsub', -⟩
      obtain rfl := Option.some.inj (htoken.symm.trans htoken')
      exact Option.some.inj (hsub.symm.trans hsub')
    · rintro rfl
      exact ⟨token, htoken, hsub, hash, (congrArg truthy hstored).trans hhash,
        Bool.not_eq_false _ ▸ hmatch⟩
  exact ⟨hopens, fun userId => by simp [haccepts, hid]⟩

/-- A user has no session any more. -/
def Closes (userId : Uuid) (db : Db) : Except Exn String → Db → Prop
  | .ok _, db' => Touches (some userId) db db' ∧ stored db' userId = none
  | .error _, db' => Touches none db db'

theorem logout_outcome (userId : Uuid) :
    (AuthService.logout userId).Post answer db (Closes userId db) := by
  unfold AuthService.logout
  refine post_throwIf_bind (fun _ => ?_) fun _ => .refl
  refine post_update_bind (fun u hu => ?_) fun _ _ => .refl
  exact post_pure.mpr ⟨touches_update { refreshTokenHash := some none } hu,
    congrArg (Option.bind · User.refreshTokenHash) (find?_update _ hu)⟩

end

/-! ## Runs -/

namespace World

variable {w : World} {db : Db} {userId : Uuid} {token : String}

theorem last_cons (a : Act) : (⟨db, a :: w.acts⟩ : World).last userId =
    if a.userId = userId then some a else w.last userId := by
  rw [last, List.find?_cons]
  by_cases ha : a.userId = userId
  · rw [if_pos ha, decide_eq_true ha]
  · rw [if_neg ha, decide_eq_false ha]
    rfl

theorem newest_issued {id : Uuid} {t : String} {exp : Int} :
    (⟨db, .issued id t exp :: w.acts⟩ : World).Newest userId token ↔
      if id = userId then t = token else w.Newest userId token := by
  unfold Newest
  rw [last_cons]
  by_cases hid : id = userId
  · subst hid
    simp [Act.userId]
  · simp [Act.userId, hid]

theorem newest_loggedOut {id : Uuid} :
    (⟨db, .loggedOut id :: w.acts⟩ : World).Newest userId token ↔
      id ≠ userId ∧ w.Newest userId token := by
  unfold Newest
  rw [last_cons]
  by_cases hid : id = userId
  · simp [Act.userId, hid]
  · simp [Act.userId, hid]

theorem newest_of_last {a : Act} (hlast : w.last userId = some a) (htoken : a.token = some token) :
    w.Newest userId token := by
  cases a with
  | loggedOut id => cases htoken
  | issued id t exp =>
      obtain rfl := Option.some.inj htoken
      have hid : id = userId := of_decide_eq_true (List.find?_some hlast :)
      exact ⟨exp, hid ▸ hlast⟩

theorem Newest.unique {other : String} (h : w.Newest userId token) (h' : w.Newest userId other) :
    token = other := by
  obtain ⟨exp, hlast⟩ := h
  obtain ⟨exp', hlast'⟩ := h'
  obtain ⟨-, rfl, -⟩ := Act.issued.inj (Option.some.inj (hlast.symm.trans hlast'))
  rfl

theorem issued_of_newest (h : w.Newest userId token) : ∃ exp, .issued userId token exp ∈ w.acts := by
  obtain ⟨exp, hlast⟩ := h
  exact ⟨exp, List.mem_of_find?_eq_some hlast⟩

theorem issued_of_verifyAsync {now : Time} (h : w.verifyAsync now token = some userId) :
    ∃ exp, .issued userId token exp ∈ w.acts := by
  obtain ⟨a, ha, hverifies⟩ := List.exists_of_findSome?_eq_some h
  obtain ⟨exp, rfl⟩ := Act.verifies_eq_some hverifies
  exact ⟨exp, ha⟩

end World

/-- Every token is one of a user who is there, and the hash of a user is that of
the newest one, if there is one. -/
structure Consistent (host : AuthHost) (w : World) : Prop where
  token : ∀ userId t exp, .issued userId t exp ∈ w.acts → ∃ now u,
    w.db.users.find? userId = some u ∧
      t = host.signAsync now host.refreshSecret host.refreshExpiresIn u
  signedIn : ∀ userId t, w.Newest userId t → ∃ salt, stored w.db userId = some (host.hash salt t)
  signedOut : ∀ userId, (∀ t, ¬ w.Newest userId t) → stored w.db userId = none

section
variable {host : AuthHost} {ctx : AuthCtx} {w : World}

theorem token_of_keeps {db db' : Db} (hkeeps : Keeps db db') {userId : Uuid} {t : String}
    (h : ∃ now u, db.users.find? userId = some u ∧
      t = host.signAsync now host.refreshSecret host.refreshExpiresIn u) :
    ∃ now u, db'.users.find? userId = some u ∧
      t = host.signAsync now host.refreshSecret host.refreshExpiresIn u := by
  obtain ⟨now, u, hu, rfl⟩ := h
  obtain ⟨v, hv, hemail, hrole⟩ := hkeeps userId u hu
  have hid : v.id = u.id := (Table.key_of_find? hv).trans (Table.key_of_find? hu).symm
  exact ⟨now, v, hv, (signAsync_congr hid hemail hrole).symm⟩

/-- A call that throws leaves everything as it was. -/
theorem Consistent.untouched (h : Consistent host w) {db : Db} (ht : Touches none w.db db) :
    Consistent host ⟨db, w.acts⟩ where
  token := fun userId t exp ha => token_of_keeps ht.keeps (h.token userId t exp ha)
  signedIn := fun userId t hnewest => by
    obtain ⟨salt, hstored⟩ := h.signedIn userId t hnewest
    exact ⟨salt, (ht.stored userId (Option.some_ne_none userId)).trans hstored⟩
  signedOut := fun userId hnone => (ht.stored userId (Option.some_ne_none userId)).trans (h.signedOut userId hnone)

theorem Consistent.opened (h : Consistent host w) {r : Except Exn Session} {db : Db}
    (ho : Outcome host ctx w.db r db) : Consistent host (w.opened host ctx (r, db)) := by
  cases r with
  | error e => exact h.untouched ho
  | ok s =>
      refine ⟨fun userId t exp ha => ?_, fun userId t hnewest => ?_, fun userId hnone => ?_⟩
      · rcases List.mem_cons.mp ha with hnew | hold
        · obtain ⟨rfl, rfl, -⟩ := Act.issued.inj hnew
          exact ⟨ctx.now, ho.token⟩
        · exact token_of_keeps ho.touches.keeps (h.token userId t exp hold)
      · replace hnewest := World.newest_issued.mp hnewest
        by_cases hid : s.user.id = userId
        · rw [if_pos hid] at hnewest
          subst hid hnewest
          exact ⟨ctx.tokenSalt, ho.stored⟩
        · rw [if_neg hid] at hnewest
          obtain ⟨salt, hstored⟩ := h.signedIn userId t hnewest
          exact ⟨salt, (ho.touches.stored userId fun heq => hid (Option.some.inj heq).symm).trans
            hstored⟩
      · have hne : s.user.id ≠ userId := by
          rintro rfl
          exact hnone s.refreshToken (World.newest_issued.mpr (if_pos rfl ▸ rfl))
        refine (ho.touches.stored userId fun heq => hne (Option.some.inj heq).symm).trans ?_
        refine h.signedOut userId fun t hnewest => hnone t ?_
        exact World.newest_issued.mpr ((if_neg hne).symm ▸ hnewest)

theorem Consistent.closed (h : Consistent host w) {id : Uuid} {r : Except Exn String} {db : Db}
    (ho : Closes id w.db r db) : Consistent host (w.closed id (r, db)) := by
  cases r with
  | error e => exact h.untouched ho
  | ok message =>
      obtain ⟨ht, hnone⟩ := ho
      refine ⟨fun userId t exp ha => ?_, fun userId t hnewest => ?_, fun userId hnever => ?_⟩
      · rcases List.mem_cons.mp ha with hnew | hold
        · cases hnew
        · exact token_of_keeps ht.keeps (h.token userId t exp hold)
      · obtain ⟨hne, hnewest⟩ := World.newest_loggedOut.mp hnewest
        obtain ⟨salt, hstored⟩ := h.signedIn userId t hnewest
        exact ⟨salt, (ht.stored userId fun heq => hne (Option.some.inj heq).symm).trans hstored⟩
      · by_cases hid : id = userId
        · exact hid ▸ hnone
        · refine (ht.stored userId fun heq => hid (Option.some.inj heq).symm).trans ?_
          refine h.signedOut userId fun t hnewest => hnever t ?_
          exact World.newest_loggedOut.mpr ⟨hid, hnewest⟩

theorem Consistent.step (h : Consistent host w) (op : AuthCtx × SessionOp) :
    Consistent host (w.step host op) := by
  obtain ⟨ctx, op⟩ := op
  cases op with
  | register dto => exact h.opened (register_outcome dto)
  | login dto => exact h.opened (login_outcome dto)
  | refresh refreshToken => exact h.opened (refresh_outcome _ refreshToken).1
  | logout userId => exact h.closed (logout_outcome userId)

/-- Where no user has a session at first, whatever calls are made. -/
theorem consistent_run {db : Db} (hnone : ∀ u ∈ db.users.rows, u.refreshTokenHash = none)
    (ops : List (AuthCtx × SessionOp)) : Consistent host (World.run host ⟨db, []⟩ ops) := by
  have hstart : Consistent host ⟨db, []⟩ := by
    refine ⟨fun _ _ _ ha => ?_, fun userId t hnewest => ?_, fun userId _ => ?_⟩
    · cases ha
    · obtain ⟨exp, hexp⟩ := World.issued_of_newest hnewest
      cases hexp
    · unfold stored
      cases hu : db.users.find? userId with
      | none => rfl
      | some u => exact hnone u (Table.mem_of_find? hu)
  unfold World.run
  induction ops using List.reverseRecOn with
  | nil => exact hstart
  | append_singleton ops op ih =>
      rw [List.foldl_append]
      exact ih.step op

/-! ## Which tokens are good -/

/-- Every token of a user is taken for the newest one. -/
theorem compare_token (hbcrypt : Bcrypt host) (h : Consistent host w) {userId : Uuid}
    {token newest salt : String} {exp : Int} (htoken : .issued userId token exp ∈ w.acts)
    (hnewest : w.Newest userId newest) : host.compare token (host.hash salt newest) = true := by
  obtain ⟨exp', hissued⟩ := World.issued_of_newest hnewest
  obtain ⟨now, u, hu, rfl⟩ := h.token userId token exp htoken
  obtain ⟨now', v, hv, rfl⟩ := h.token userId newest exp' hissued
  obtain rfl := Option.some.inj (hu.symm.trans hv)
  rw [hbcrypt.compare_hash, take_signAsync, take_signAsync]

/-- **A token is good** if it verifies, and its user has a session. -/
theorem refresh_ok_iff (hbcrypt : Bcrypt host) (h : Consistent host w) {token : String}
    {userId : Uuid} : (∃ s, (w.refresh host ctx (some token)).1 = .ok s ∧ s.user.id = userId) ↔
      w.verifyAsync ctx.now token = some userId ∧ ∃ newest, w.Newest userId newest := by
  have haccepts : (∃ s, (w.refresh host ctx (some token)).1 = .ok s ∧ s.user.id = userId) ↔
      Accepts host (w.verifyAsync ctx.now) w.db (some token) userId :=
    (refresh_outcome (w.verifyAsync ctx.now) (some token)).2 userId
  rw [haccepts]
  constructor
  · rintro ⟨t, htoken, hverify, hash, hhash, -⟩
    obtain ⟨hsame, -⟩ := Option.filter_eq_some_iff.mp htoken
    obtain rfl := Option.some.inj hsame
    refine ⟨hverify, ?_⟩
    by_contra hnone
    rw [h.signedOut userId fun t hnewest => hnone ⟨t, hnewest⟩] at hhash
    cases hhash
  · rintro ⟨hverify, newest, hnewest⟩
    obtain ⟨exp, hissued⟩ := World.issued_of_verifyAsync hverify
    obtain ⟨now, u, hu, htoken⟩ := h.token userId token exp hissued
    obtain ⟨salt, hstored⟩ := h.signedIn userId newest hnewest
    refine ⟨token, truthy_some ?_, hverify, host.hash salt newest, ?_, ?_⟩
    · exact htoken ▸ signAsync_ne_empty host now host.refreshSecret host.refreshExpiresIn u
    · rw [hstored, truthy_some (hbcrypt.hash_ne_empty salt newest)]
    · exact compare_token hbcrypt h hissued hnewest

/-- Only the newest token is good, but for one that it has superseded. -/
theorem newest_of_refresh_iff (hbcrypt : Bcrypt host) (h : Consistent host w) {token : String} :
    (∀ s, (w.refresh host ctx (some token)).1 = .ok s → w.Newest s.user.id token) ↔
      ¬ w.Superseded ctx.now token := by
  constructor
  · rintro hall ⟨userId, other, hverify, hother, hne⟩
    obtain ⟨s, hs, rfl⟩ := (refresh_ok_iff hbcrypt h).mpr ⟨hverify, other, hother⟩
    exact hne (hother.unique (hall s hs))
  · intro hnot s hs
    obtain ⟨hverify, newest, hnewest⟩ := (refresh_ok_iff hbcrypt h).mp ⟨s, hs, rfl⟩
    by_contra hold
    refine hnot ⟨s.user.id, newest, hverify, hnewest, ?_⟩
    rintro rfl
    exact hold hnewest

end

/-- **In every run**, `refresh` begins a session exactly with a token that
verifies and is of a user who has a session: one who was issued a token and has
not logged out since.  It need not be that token. -/
theorem refresh_iff_signed_in (host : AuthHost) (hbcrypt : Bcrypt host) (db : Db)
    (hnone : ∀ u ∈ db.users.rows, u.refreshTokenHash = none) (ops : List (AuthCtx × SessionOp))
    (ctx : AuthCtx) (token : String) (userId : Uuid) :
    (∃ s, ((World.run host ⟨db, []⟩ ops).refresh host ctx (some token)).1 = .ok s ∧
        s.user.id = userId) ↔
      (World.run host ⟨db, []⟩ ops).verifyAsync ctx.now token = some userId ∧
        ∃ newest, (World.run host ⟨db, []⟩ ops).Newest userId newest :=
  refresh_ok_iff hbcrypt (consistent_run hnone ops)

/-- **In every run**, `refresh` begins a session with the newest token of its user
only, and with none after a logout, exactly if the token is not one that was
superseded. -/
theorem refresh_newest_iff (host : AuthHost) (hbcrypt : Bcrypt host) (db : Db)
    (hnone : ∀ u ∈ db.users.rows, u.refreshTokenHash = none) (ops : List (AuthCtx × SessionOp))
    (ctx : AuthCtx) (token : String) :
    (∀ s, ((World.run host ⟨db, []⟩ ops).refresh host ctx (some token)).1 = .ok s →
        (World.run host ⟨db, []⟩ ops).Newest s.user.id token) ↔
      ¬ (World.run host ⟨db, []⟩ ops).Superseded ctx.now token :=
  newest_of_refresh_iff hbcrypt (consistent_run hnone ops)

/-! ## A token that was replaced -/

namespace Sample

def asha : User :=
  { id := "7c9e6679-7425-40de-944b-e07fc1f90ae7", email := "asha@example.com", passwordHash := ""
    firstName := "Asha", lastName := "Rao", phone := "+919876543210", role := .user
    refreshTokenHash := none, status := .active, lastLoginAt := none, createdAt := 1767225600000 }

/-- What is signed at a second, for a token that is good for some time. -/
def signed (iat expiresIn : Int) : String :=
  Jwt.base64url Jwt.header ++ "." ++ Jwt.base64url (Jwt.payload asha iat (iat + expiresIn))

/-- The signatures of the access tokens and of the refresh tokens that are issued here. -/
def signatures : List (String × String) :=
  [(signed 1767225600 900, "D_Y8OUWw-bJDimfap0HKlEfjTWZkudj6asKnQMwshPo"),
    (signed 1767225600 604800, "yoI-sVhNlSoAa5uqd1gcUsAGYAthyE40yD19Gq_Q-0M"),
    (signed 1767225660 900, "yq8glrixnl7QbMyrxawyJjvoqrgkt1v9LTVbr9Ow2_Y"),
    (signed 1767225660 604800, "aW9IoFfOQo7I5AWdyQb3ScEZqdNBXyISTtYINGCCUV0"),
    (signed 1767225720 900, "KoUfQd6co3jQTv7rfRPMf8LpnTLdyBIfGxjYT8PsMTE"),
    (signed 1767225720 604800, "YwMRG9SDOdX3zURQ-ohmM8RzT0tVi3Fb8KLN5vXgtys")]

/-- What `bcrypt` reads, for its hash. -/
def hash (text : String) : String :=
  String.ofList ('$' :: ((utf8 text).take 72).map fun b => Char.ofNat b.toNat)

def host : AuthHost where
  hash _ text := hash text
  compare text hashed := hash text == hashed
  hs256 _ text := (signatures.lookup text).getD ""
  secret := "access-secret"
  refreshSecret := "refresh-secret"
  expiresIn := 900
  refreshExpiresIn := 604800

theorem toNat_ofNat (b : UInt8) : (Char.ofNat b.toNat).toNat = b.toNat := by
  have hvalid : b.toNat.isValidChar := Or.inl (b.toNat_lt.trans (by decide))
  rw [Char.ofNat, dif_pos hvalid]
  rfl

theorem ofNat_injective : Function.Injective fun b : UInt8 => Char.ofNat b.toNat := by
  intro a b hab
  have htoNat := congrArg Char.toNat hab
  rw [toNat_ofNat, toNat_ofNat] at htoNat
  exact UInt8.toNat_inj.mp htoNat

theorem bcrypt : Bcrypt host where
  compare_hash := fun _ x y => by
    rw [show host.compare x (host.hash _ y) = (hash x == hash y) from rfl, beq_iff_eq, hash, hash,
      String.ofList_inj, List.cons_inj_right, List.map_inj_right ofNat_injective]
  hash_ne_empty := fun _ x h => by
    have hlist := congrArg String.toList h
    simp [host, hash] at hlist

def first : String := host.signAsync 1767225600000 host.refreshSecret host.refreshExpiresIn asha

/-- She registers, and refreshes a minute later. -/
def ops : List (AuthCtx × SessionOp) :=
  [(⟨1767225600000, asha.id, "", ""⟩,
      .register ⟨asha.email, "MyPassword123!", "Asha", "Rao", asha.phone⟩),
    (⟨1767225660000, "", "", ""⟩, .refresh (some first))]

def world : World := World.run host ⟨⟨.empty, .empty⟩, []⟩ ops

def ctx : AuthCtx := ⟨1767225720000, "", "", ""⟩

def second : String := host.signAsync 1767225660000 host.refreshSecret host.refreshExpiresIn asha

/-- Both tokens verify a minute later, and the second one is the newest. -/
theorem both_verify : world.verifyAsync ctx.now first = some asha.id ∧
    world.verifyAsync ctx.now second = some asha.id ∧
    ((world.last asha.id).any fun a => a.token == some second) = true ∧
    (second != first) = true := by
  decide +kernel

theorem second_newest : world.Newest asha.id second := by
  obtain ⟨a, hlast, htoken⟩ := (Option.any_eq_true _ _).mp both_verify.2.2.1
  exact World.newest_of_last hlast (eq_of_beq htoken)

theorem consistent : Consistent host world :=
  consistent_run (fun _ hu => absurd hu List.not_mem_nil) ops

end Sample

/-- A token that was replaced is good. -/
theorem refresh_iff_signed_in_sample : ∃ s,
    (Sample.world.refresh Sample.host Sample.ctx (some Sample.first)).1 = .ok s ∧
      s.user.id = Sample.asha.id ∧ ¬ Sample.world.Newest Sample.asha.id Sample.first := by
  obtain ⟨s, hs, hid⟩ := (refresh_iff_signed_in Sample.host Sample.bcrypt ⟨.empty, .empty⟩
    (fun u hu => absurd hu List.not_mem_nil) Sample.ops Sample.ctx Sample.first Sample.asha.id).mpr
      ⟨Sample.both_verify.1, Sample.second, Sample.second_newest⟩
  refine ⟨s, hs, hid, fun hfirst => ?_⟩
  exact bne_iff_ne.mp Sample.both_verify.2.2.2 (Sample.second_newest.unique hfirst)

/-- The second token is good, and the newest. -/
theorem refresh_newest_iff_sample : ∃ s,
    (Sample.world.refresh Sample.host Sample.ctx (some Sample.second)).1 = .ok s ∧
      Sample.world.Newest s.user.id Sample.second := by
  obtain ⟨-, hverify, -, -⟩ := Sample.both_verify
  obtain ⟨s, hs, -⟩ := (refresh_ok_iff Sample.bcrypt Sample.consistent).mpr
    ⟨hverify, Sample.second, Sample.second_newest⟩
  refine ⟨s, hs, (refresh_newest_iff Sample.host Sample.bcrypt ⟨.empty, .empty⟩
    (fun u hu => absurd hu List.not_mem_nil) Sample.ops Sample.ctx Sample.second).mpr ?_ s hs⟩
  rintro ⟨userId, other, hverify', hother, hne⟩
  obtain rfl := Option.some.inj (hverify.symm.trans hverify')
  exact hne (hother.unique Sample.second_newest)

/-- The first one is good too. -/
theorem not_refresh_newest : ∃ s,
    (Sample.world.refresh Sample.host Sample.ctx (some Sample.first)).1 = .ok s ∧
      ¬ Sample.world.Newest s.user.id Sample.first := by
  obtain ⟨hverify, -, -, hne⟩ := Sample.both_verify
  obtain ⟨s, hs, hid⟩ := (refresh_ok_iff Sample.bcrypt Sample.consistent).mpr
    ⟨hverify, Sample.second, Sample.second_newest⟩
  refine ⟨s, hs, fun hfirst => ?_⟩
  rw [hid] at hfirst
  exact bne_iff_ne.mp hne (Sample.second_newest.unique hfirst)

end ServiceHub.Accounts
