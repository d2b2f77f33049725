/-
# `Accounts.Credentials` — who may change a user

    status              an administrator, other than the user
    last login          a login with the password
    session             the registration, a login with the password, or a refresh with a
                        token that verifies and matches a hash of the user
    end of a session    the user

A call has checked these of a state that may be past when it writes.  The
password, the email and the role it has checked are the same still.
-/
import ServiceHub.Accounts.Users

namespace ServiceHub.Accounts

open Data Txn

/-- The user was there, in a state of the past, with the property. -/
def Was (past : Db → Prop) (id : Uuid) (p : User → Prop) : Prop :=
  ∃ db u, past db ∧ db.users.find? id = some u ∧ p u

/-- What it takes to begin a session of the user. -/
inductive Credentials (host : AuthHost) (past : Db → Prop) (op : AuthOp) (u : User) : Prop where
  | registered {dto : RegisterDto} : op.request = .register dto →
      u = User.revised (AuthService.newUser host op.ctx dto) u → Credentials host past op u
  | password {dto : LoginDto} : op.request = .login dto → dto.email = u.email →
      host.compare dto.password u.passwordHash = true → Credentials host past op u
  | token {refreshToken hash : String} : op.request = .refresh (some u.id) (some refreshToken) →
      Was past u.id (fun v => v.refreshTokenHash = some hash) →
      host.compare refreshToken hash = true → Credentials host past op u

/-- What it takes to change the user, and into what. -/
inductive UserAuthority (host : AuthHost) (past : Db → Prop) (op : AuthOp) (u : User) : User → Prop where
  | status {r : StatusRequest} : op.request = .updateStatus r → r.id = u.id → r.sub ≠ u.id →
      Was past r.sub (fun admin => admin.role = .admin ∧ admin.status = .active) →
      UserAuthority host past op u { u with status := r.status }
  | loggedIn {dto : LoginDto} : op.request = .login dto → dto.email = u.email →
      host.compare dto.password u.passwordHash = true →
      UserAuthority host past op u { u with lastLoginAt := some op.ctx.now }
  | session : Credentials host past op u →
      UserAuthority host past op u { u with
        refreshTokenHash := some (host.hash op.ctx.tokenSalt
          (host.signAsync op.ctx.now host.refreshSecret host.refreshExpiresIn u)) }
  | loggedOut : op.request = .logout u.id → Was past u.id (fun v => v.status = .active) →
      UserAuthority host past op u { u with refreshTokenHash := none }

section
variable {host : AuthHost} {db : Db} {Ok : AuthSystem → Event AuthOp Exn → Prop} {c : AuthSystem}
  {P : AuthCaller}

/-- The state was committed at some time before `c`. -/
def Past (host : AuthHost) (Ok : AuthSystem → Event AuthOp Exn → Prop) (db : Db) (c : AuthSystem)
    (db₁ : Db) : Prop :=
  ∃ c₁, Run (authProgram host) Ok ⟨db, []⟩ c₁ ∧ Run (authProgram host) Ok c₁ c ∧ c₁.db = db₁

theorem signAsync_revised {now : Time} {secret : String} {expiresIn : Int} {u v : User}
    (h : v = User.revised u v) :
    host.signAsync now secret expiresIn u = host.signAsync now secret expiresIn v := by
  rw [h]
  rfl

/-- The user that was found by its id is there still. -/
theorem found_of_run (hrun : Run (authProgram host) Ok ⟨db, []⟩ c) (hP : P ∈ c.procs) {id : Uuid}
    {u : User} (hmem : ⟨.stmt (.findUser id), .ok (some u)⟩ ∈ P.hist) :
    u.id = id ∧ (∃ v, c.db.users.find? id = some v ∧ v = User.revised u v) ∧
      ∃ db₁, Past host Ok db c db₁ ∧ db₁.users.find? id = some u := by
  obtain ⟨c₁, hrun₁, hrun₂, hexec⟩ := seen_of_run hrun hP hmem
  have hu : c₁.db.users.find? id = some u := Except.ok.inj hexec
  exact ⟨Table.key_of_find? hu, revised_of_run hrun₁ hrun₂ hu, c₁.db, ⟨c₁, hrun₁, hrun₂, rfl⟩, hu⟩

/-- The user that was found by its email has it still. -/
theorem emailed_of_run (hrun : Run (authProgram host) Ok ⟨db, []⟩ c) (hP : P ∈ c.procs)
    {email : String} {u : User} (hmem : ⟨.stmt (.findUserByEmail email), .ok (some u)⟩ ∈ P.hist) :
    u.email = email ∧ ∃ v, c.db.users.find? u.id = some v ∧ v = User.revised u v := by
  obtain ⟨c₁, hrun₁, hrun₂, hexec⟩ := seen_of_run hrun hP hmem
  have hfind : c₁.db.users.rows.find? (·.email == email) = some u := Except.ok.inj hexec
  exact ⟨eq_of_beq (List.find?_some hfind :),
    revised_of_run hrun₁ hrun₂ (Table.find?_of_mem (List.mem_of_find?_eq_some hfind))⟩

/-- The user that was created is there still. -/
theorem created_of_run (hrun : Run (authProgram host) Ok ⟨db, []⟩ c) (hP : P ∈ c.procs)
    {row u : User} (hmem : ⟨.stmt (.createUser row), .ok u⟩ ∈ P.hist) :
    u = row ∧ ∃ v, c.db.users.find? u.id = some v ∧ v = User.revised u v := by
  obtain ⟨db', hexec⟩ := hrun.executed rfl hP hmem
  have hobeyed := hrun.obeyed (R := fun _ _ _ => True) (fun _ o _ => authProgram_minds o) rfl P hP
  obtain ⟨h, hsuffix, _⟩ := hobeyed.of_mem hmem
  have hkept := mem_kept_of_outside hsuffix
    (outside_of_suffix hobeyed ((List.suffix_cons _ _).trans hsuffix))
  exact ⟨(Db.insert_ok (show db'.insert (.user row) row = .ok u from hexec)).1,
    revised_of_kept hrun hP (mem_rowsOf.mpr ⟨_, hkept, List.mem_singleton_self _⟩)⟩

/-- Whom the call knows, it has the credentials of. -/
theorem credentials_of_knows (hrun : Run (authProgram host) Ok ⟨db, []⟩ c) (hP : P ∈ c.procs)
    {h : StatusHist} (hsuffix : h <:+ P.hist) {u₀ u : User} (hknows : Knows host P.op h u₀)
    (hu : c.db.users.find? u₀.id = some u) :
    Credentials host (Past host Ok db c) P.op u ∧ u = User.revised u₀ u := by
  have hsame : ∀ {v}, c.db.users.find? u₀.id = some v → v = User.revised u₀ v →
      u = User.revised u₀ u := by
    intro v hv hrevised
    obtain rfl := Option.some.inj (hu.symm.trans hv)
    exact hrevised
  cases hknows with
  | registered hrequest hmem =>
      obtain ⟨hrow, v, hv, hrevised⟩ := created_of_run hrun hP (hsuffix.subset hmem)
      have hrevised := hsame hv hrevised
      exact ⟨.registered hrequest (hrow ▸ hrevised), hrevised⟩
  | @password dto hrequest hmem hcompare =>
      obtain ⟨hemail, v, hv, hrevised⟩ := emailed_of_run hrun hP (hsuffix.subset hmem)
      have hrevised := hsame hv hrevised
      refine ⟨.password hrequest ?_ ?_, hrevised⟩
      · rw [hrevised]
        exact hemail.symm
      · rw [hrevised]
        exact hcompare
  | @token sub refreshToken hash hrequest hmem hhash hcompare =>
      obtain ⟨rfl, ⟨v, hv, hrevised⟩, db₁, hpast, hu₁⟩ := found_of_run hrun hP (hsuffix.subset hmem)
      have hrevised := hsame hv hrevised
      have hid : u.id = u₀.id := Table.key_of_find? hu
      refine ⟨.token (hid ▸ hrequest) ⟨db₁, u₀, hpast, hid ▸ hu₁, hhash⟩ hcompare, hrevised⟩

/-- What a call sets of a user, it may set. -/
theorem userAuthority_of_sets (hrun : Run (authProgram host) Ok ⟨db, []⟩ c) (hP : P ∈ c.procs)
    {h : StatusHist} (hsuffix : h <:+ P.hist) {id : Uuid} {data : UserUpdate}
    (hsets : Sets host P.op h id data) {u : User} (hu : c.db.users.find? id = some u) :
    UserAuthority host (Past host Ok db c) P.op u (data.on u) := by
  cases hsets with
  | session hknows =>
      obtain ⟨hcredentials, hrevised⟩ := credentials_of_knows hrun hP hsuffix hknows hu
      rw [signAsync_revised hrevised]
      exact .session hcredentials
  | loggedIn hrequest hmem hcompare =>
      obtain ⟨hemail, v, hv, hrevised⟩ := emailed_of_run hrun hP (hsuffix.subset hmem)
      obtain rfl := Option.some.inj (hu.symm.trans hv)
      refine .loggedIn hrequest ?_ ?_
      · rw [hrevised]
        exact hemail.symm
      · rw [hrevised]
        exact hcompare
  | loggedOut hrequest hvalid =>
      obtain ⟨rfl, _, db₁, hpast, hu₁⟩ := found_of_run hrun hP (hsuffix.subset hvalid.1)
      have hid := Table.key_of_find? hu
      exact .loggedOut (hid ▸ hrequest) ⟨db₁, _, hpast, hid ▸ hu₁, hvalid.2⟩
  | status hrequest hvalid hrole hmem hother =>
      obtain ⟨hid, _⟩ := found_of_run hrun hP (hsuffix.subset hmem)
      obtain ⟨hsub, _, db₁, hpast, hadmin⟩ := found_of_run hrun hP (hsuffix.subset hvalid.1)
      have hsame := Table.key_of_find? hu
      refine .status hrequest hsame.symm ?_ ⟨db₁, _, hpast, hadmin, hrole, hvalid.2⟩
      rw [hsame, ← hid, ← hsub]
      exact Ne.symm hother

end

/-- **Whoever changes a user may do so**: in every step of every interleaving that
changes a user, an administrator sets the status of somebody else, or a call with
the credentials of the user begins a session or notes a login, or the user logs
out; and nothing else of the user changes. -/
theorem user_by_authority (host : AuthHost) (db : Db) (c c' : AuthSystem) (e : Event AuthOp Exn)
    (id : Uuid) (u u' : User) (hrun : Run (authProgram host) (fun _ _ => True) ⟨db, []⟩ c)
    (hn : next (authProgram host) c e = some c') (hu : c.db.users.find? id = some u)
    (hu' : c'.db.users.find? id = some u') (hchange : u' ≠ u) :
    ∃ (p : Nat) (P : AuthCaller), e = .exec p ∧ c.procs[p]? = some P ∧
      UserAuthority host (Past host (fun _ _ => True) db c) P.op u u' := by
  obtain rfl : u.id = id := Table.key_of_find? hu
  have hid : u'.id = u.id := Table.key_of_find? hu'
  have hget' : Txn.Database.get c'.db (Key.user u.id) = some (Row.user u') :=
    Option.map_eq_some_iff.mpr ⟨u', hu', rfl⟩
  have hnew : Txn.Database.get c.db (Key.user u.id) ≠ some (Row.user u') := by
    intro hsame
    obtain ⟨v, hv, heq⟩ := Option.map_eq_some_iff.mp hsame
    cases heq
    exact hchange (Option.some.inj (hv.symm.trans hu))
  obtain ⟨p, P, s, a, rfl, hp, hcommits, hw, _, h, hsuffix, hminds⟩ :=
    hrun.changed (fun o => authProgram_minds o) rfl hn hget' hnew
  have hP := List.mem_of_getElem? hp
  refine ⟨p, P, rfl, hp, ?_⟩
  rcases hcommits with hopen | ⟨_, _, hexec⟩
  · rw [outside_of_run hrun hP] at hopen
    exact absurd hopen List.not_mem_nil
  · rcases written_user hexec hw with ⟨_, hnone, _⟩ | ⟨u₀, data, rfl, hu₀, rfl⟩
    · rw [hid, hu] at hnone
      cases hnone
    · obtain rfl := Option.some.inj (hu.symm.trans (hid ▸ hu₀))
      exact userAuthority_of_sets hrun hP hsuffix hminds hu

/-! ## A login -/

namespace Sample

def login : AuthOp :=
  ⟨⟨1767225660000, "", "", ""⟩, .login ⟨"iyer@example.com", "secret"⟩⟩

/-- Meera logs in; her new session is about to be stored. -/
def loggingIn : List (Event AuthOp Exn) :=
  .spawn (registers "m2" "iyer@example.com") :: List.replicate 4 (.exec 0) ++
    .spawn login :: List.replicate 2 (.exec 1)

end Sample

/-- The statement that stores the session. -/
theorem user_by_authority_sample : ∃ (c c' : AuthSystem) (u u' : User),
    runChecked (authProgram Sample.plain) (fun _ _ => True) ⟨Sample.nobody, []⟩
      Sample.loggingIn = some c ∧
    next (authProgram Sample.plain) c (.exec 1) = some c' ∧ u' ≠ u ∧
    ∃ (p : Nat) (P : AuthCaller), (Event.exec 1 : Event AuthOp Exn) = .exec p ∧
      c.procs[p]? = some P ∧
      UserAuthority Sample.plain (Past Sample.plain (fun _ _ => True) Sample.nobody c) P.op u u' := by
  have hbefore : ∀ c ∈ runChecked (authProgram Sample.plain) (fun _ _ => True)
      ⟨Sample.nobody, []⟩ Sample.loggingIn,
      ((next (authProgram Sample.plain) c (.exec 1)).any fun c' =>
        (c.db.users.find? "m2").any fun u => (c'.db.users.find? "m2").any fun u' =>
          u'.refreshTokenHash != u.refreshTokenHash) = true := by decide +kernel
  obtain ⟨c, hc⟩ := Option.isSome_iff_exists.mp
    (show (runChecked (authProgram Sample.plain) (fun _ _ => True) ⟨Sample.nobody, []⟩
      Sample.loggingIn).isSome by decide +kernel)
  obtain ⟨c', hn, hstep⟩ := (Option.any_eq_true _ _).mp (hbefore c hc)
  obtain ⟨u, hu, hstep⟩ := (Option.any_eq_true _ _).mp hstep
  obtain ⟨u', hu', hnew⟩ := (Option.any_eq_true _ _).mp hstep
  have hchange : u' ≠ u := by
    rintro rfl
    rw [bne_self_eq_false] at hnew
    cases hnew
  exact ⟨c, c', u, u', hc, hn, hchange, user_by_authority Sample.plain _ c c' (.exec 1) "m2" u u'
    (Run.of_runChecked _ _ hc) hn hu hu' hchange⟩

end ServiceHub.Accounts
