/-
# `Accounts.Requests` — calls about users, all at once

The calls of `AuthController` and the status change of `AdminUserController`, in
any interleaving of their statements.  None opens a transaction: each statement
reads the committed state, and commits what it writes.

What a call has checked may be out of date when it writes, but not the email, the
password, the role or the id of a user: no statement writes these a second time
(`accounts_kept`).  So a call that changes a user is one that may
(`user_by_authority`).
-/
import ServiceHub.Accounts.AdminUsers
import ServiceHub.Accounts.AuthService
import ServiceHub.Txn.Origins
import ServiceHub.Txn.Views

namespace ServiceHub.Accounts

open Data Txn

/-- A request.  Of a refresh token that verifies `sub` is the subject, as it is of
the access token where one is asked for. -/
inductive AuthRequest where
  | register (dto : RegisterDto)
  | login (dto : LoginDto)
  | refresh (sub : Option Uuid) (refreshToken : Option String)
  | logout (sub : Uuid)
  | updateStatus (o : StatusRequest)

structure AuthOp where
  ctx : AuthCtx
  request : AuthRequest

inductive AuthReply where
  | session (s : Session)
  | message (text : String)
  | user (u : User)

def AuthController.logout (sub : Uuid) : Query String := do
  let user ← JwtStrategy.validate sub
  AuthService.logout user.userId

def authCall (host : AuthHost) (o : AuthOp) : Query AuthReply :=
  match o.request with
  | .register dto => (AuthService.register host o.ctx dto).map .session
  | .login dto => (AuthService.login host o.ctx dto).map .session
  | .refresh sub refreshToken =>
      (AuthService.refresh host o.ctx (fun _ => sub) refreshToken).map .session
  | .logout sub => (AuthController.logout sub).map .message
  | .updateStatus r => (AdminUserController.updateStatus r).map .user

def authProgram (host : AuthHost) (o : AuthOp) : Prog (Instr Stmt Empty) (Instr.Ans Ans) Exn AuthReply :=
  autocommit Empty (authCall host o)

abbrev AuthCaller : Type := Proc AuthOp Row Stmt Empty Ans Exn AuthReply

abbrev AuthSystem : Type := Config AuthOp Db Row Stmt Empty Ans Exn AuthReply

/-! ## What a call writes -/

/-- The call knows the user, by the credentials that it was given. -/
inductive Knows (host : AuthHost) (o : AuthOp) (h : StatusHist) (u : User) : Prop where
  | registered {dto : RegisterDto} : o.request = .register dto →
      ⟨.stmt (.createUser (AuthService.newUser host o.ctx dto)), .ok u⟩ ∈ h → Knows host o h u
  | password {dto : LoginDto} : o.request = .login dto →
      ⟨.stmt (.findUserByEmail dto.email), .ok (some u)⟩ ∈ h →
      host.compare dto.password u.passwordHash = true → Knows host o h u
  | token {sub : Uuid} {refreshToken hash : String} :
      o.request = .refresh (some sub) (some refreshToken) →
      ⟨.stmt (.findUser sub), .ok (some u)⟩ ∈ h → u.refreshTokenHash = some hash →
      host.compare refreshToken hash = true → Knows host o h u

/-- The call was answered that the user is active. -/
def Validated (h : StatusHist) (sub : Uuid) (u : User) : Prop :=
  ⟨.stmt (.findUser sub), .ok (some u)⟩ ∈ h ∧ u.status = .active

/-- What a call may set of which user. -/
inductive Sets (host : AuthHost) (o : AuthOp) (h : StatusHist) : Uuid → UserUpdate → Prop where
  | session {u : User} : Knows host o h u →
      Sets host o h u.id { refreshTokenHash := some (some (host.hash o.ctx.tokenSalt
        (host.signAsync o.ctx.now host.refreshSecret host.refreshExpiresIn u))) }
  | loggedIn {dto : LoginDto} {u : User} : o.request = .login dto →
      ⟨.stmt (.findUserByEmail dto.email), .ok (some u)⟩ ∈ h →
      host.compare dto.password u.passwordHash = true →
      Sets host o h u.id { lastLoginAt := some o.ctx.now }
  | loggedOut {sub : Uuid} {u : User} : o.request = .logout sub → Validated h sub u →
      Sets host o h u.id { refreshTokenHash := some none }
  | status {r : StatusRequest} {admin existing : User} : o.request = .updateStatus r →
      Validated h r.sub admin → admin.role = .admin →
      ⟨.stmt (.findUser r.id), .ok (some existing)⟩ ∈ h → existing.id ≠ admin.id →
      Sets host o h r.id { status := some r.status }

/-- Statements only, and those that write are the call's own. -/
def Minds (host : AuthHost) (o : AuthOp) (h : StatusHist) : Instr Stmt Empty → Prop
  | .stmt (.createUser u) => ∃ dto, o.request = .register dto ∧ u = AuthService.newUser host o.ctx dto
  | .stmt (.updateUser id data) => Sets host o h id data
  | .stmt _ => True
  | _ => False

section
variable {host : AuthHost} {o : AuthOp} {h : StatusHist}

/-- The program minds what it writes, whatever it is answered. -/
def Minding {α : Type} (host : AuthHost) (o : AuthOp) (h : StatusHist) (p : Query α) : Prop :=
  Obeys (Minds host o) (fun _ _ => True) h (autocommit Empty p)

theorem Minding.map {α β : Type} {p : Query α} {f : α → β} (hp : Minding host o h p) :
    Minding host o h (p.map f) := by
  show Obeys _ _ _ (autocommit Empty (p >>= fun a => pure (f a)))
  rw [autocommit_bind]
  exact Obeys.bind hp (fun _ _ => trivial) fun _ _ => trivial

theorem Minding.assoc {α β γ : Type} {p : Query α} {g : α → Query β} {f : β → Query γ}
    (hp : Minding host o h (p >>= fun a => g a >>= f)) : Minding host o h (p >>= g >>= f) := by
  have hassoc : (p >>= g >>= f) = p >>= fun a => g a >>= f := Prog.cont_cont _ _ _ _ p
  exact hassoc ▸ hp

theorem Minding.query_bind {α : Type} {s : Stmt} {f : Ans s → Query α} (hs : Minds host o h (.stmt s))
    (hf : ∀ a, Minding host o (⟨.stmt s, .ok a⟩ :: h) (f a)) : Minding host o h (query s >>= f) := by
  unfold Minding
  rw [autocommit_bind]
  exact obeys_bind.mpr (obeys_stmt.mpr ⟨hs, hf, fun _ => trivial⟩)

theorem Minding.query {s : Stmt} (hs : Minds host o h (.stmt s)) : Minding host o h (query s) :=
  obeys_stmt.mpr ⟨hs, fun _ => trivial, fun _ => trivial⟩

theorem Minding.throwIf_bind {α : Type} {c : Prop} [Decidable c] {e : Exn} {f : Unit → Query α}
    (hf : ¬ c → Minding host o h (f ())) : Minding host o h (Prog.throwIf c e >>= f) := by
  by_cases hc : c
  · simp only [Prog.throwIf, hc, if_true]
    exact trivial
  · simp only [Prog.throwIf, hc, if_false]
    exact hf hc

theorem Minding.orThrow_bind {α β : Type} {a : Option β} {e : Exn} {f : β → Query α}
    (hf : ∀ b, a = some b → Minding host o h (f b)) : Minding host o h (Prog.orThrow a e >>= f) := by
  cases a with
  | none => exact trivial
  | some b => exact hf b rfl

theorem generateTokens_minds {u : User} (hu : Knows host o h u) :
    Minding host o h (AuthService.generateTokens host o.ctx u) :=
  .query_bind (.session hu) fun _ => trivial

theorem register_minds {dto : RegisterDto} (ho : o.request = .register dto) :
    Minding host o h (AuthService.register host o.ctx dto) := by
  unfold AuthService.register
  refine .query_bind trivial fun emailExists => .throwIf_bind fun _ => ?_
  refine .query_bind trivial fun phoneExists => .throwIf_bind fun _ => ?_
  refine .query_bind ⟨dto, ho, rfl⟩ fun u => generateTokens_minds ?_
  exact .registered ho (List.mem_cons_self ..)

theorem login_minds {dto : LoginDto} (ho : o.request = .login dto) :
    Minding host o h (AuthService.login host o.ctx dto) := by
  unfold AuthService.login
  refine .query_bind trivial fun found => .orThrow_bind fun u hfound => .throwIf_bind fun hcompare => ?_
  have hcompare : host.compare dto.password u.passwordHash = true := Bool.not_eq_false _ ▸ hcompare
  refine .query_bind (.loggedIn ho (hfound ▸ List.mem_cons_self ..) hcompare) fun _ => ?_
  refine generateTokens_minds (.password ho (List.mem_cons_of_mem _ ?_) hcompare)
  exact hfound ▸ List.mem_cons_self ..

theorem truthy_eq_some {t : Option String} {text : String} (ht : truthy t = some text) :
    t = some text := (Option.filter_eq_some_iff.mp ht).1

theorem refresh_minds {sub : Option Uuid} {refreshToken : Option String}
    (ho : o.request = .refresh sub refreshToken) :
    Minding host o h (AuthService.refresh host o.ctx (fun _ => sub) refreshToken) := by
  unfold AuthService.refresh
  refine .orThrow_bind fun token htoken => .orThrow_bind fun id hid => ?_
  obtain rfl := truthy_eq_some htoken
  obtain rfl := hid
  refine .query_bind trivial fun found => .orThrow_bind fun u hfound => ?_
  refine .orThrow_bind fun hash hhash => .throwIf_bind fun hcompare => generateTokens_minds ?_
  exact .token ho (hfound ▸ List.mem_cons_self ..) (truthy_eq_some hhash)
    (Bool.not_eq_false _ ▸ hcompare)

/-- A call by a user who is active. -/
theorem validate_minds {α : Type} {sub : Uuid} {f : CurrentUser → Query α}
    (hf : ∀ u found, Validated (⟨.stmt (.findUser sub), .ok found⟩ :: h) sub u →
      Minding host o (⟨.stmt (.findUser sub), .ok found⟩ :: h) (f ⟨u.id, u.email, u.role⟩)) :
    Minding host o h (JwtStrategy.validate sub >>= f) := by
  refine .assoc (.query_bind trivial fun found => .assoc (.orThrow_bind fun u hfound => ?_))
  obtain ⟨rfl, hactive⟩ := Option.filter_eq_some_iff.mp hfound
  exact hf u _ ⟨List.mem_cons_self .., eq_of_beq hactive⟩

theorem logout_minds {sub : Uuid} (ho : o.request = .logout sub) :
    Minding host o h (AuthController.logout sub) := by
  refine validate_minds fun u found hvalid => .throwIf_bind fun _ => ?_
  exact .query_bind (.loggedOut ho hvalid) fun _ => trivial

theorem checkFinalAdmin_minds {existing : User} {status : UserStatus} {α : Type}
    {f : Unit → Query α} (hf : ∀ h', h <:+ h' → Minding host o h' (f ())) :
    Minding host o h (AdminUserService.checkFinalAdmin existing status >>= f) := by
  unfold AdminUserService.checkFinalAdmin
  split
  · exact .assoc (.query_bind trivial fun _ => .throwIf_bind fun _ => hf _ (List.suffix_cons _ _))
  · exact hf h List.suffix_rfl

theorem recordStatus_minds {auditId : Uuid} {now : Time} {id : Uuid} {existing : User}
    {status : UserStatus} {adminUserId : Option Uuid} {α : Type} {f : Unit → Query α}
    (hf : ∀ h', h <:+ h' → Minding host o h' (f ())) :
    Minding host o h
      (AdminUserService.recordStatus auditId now id existing status adminUserId >>= f) := by
  cases adminUserId with
  | none => exact hf h List.suffix_rfl
  | some adminUserId =>
      simp only [AdminUserService.recordStatus]
      split
      · exact hf h List.suffix_rfl
      · exact .assoc (.query_bind trivial fun _ => hf _ (List.suffix_cons _ _))

theorem updateStatus_minds {r : StatusRequest} (ho : o.request = .updateStatus r) :
    Minding host o h (AdminUserController.updateStatus r) := by
  refine validate_minds fun admin found hvalid => .throwIf_bind fun hrole => ?_
  have hrole : admin.role = .admin := by simpa using hrole
  refine .assoc (.query_bind trivial fun existing => .orThrow_bind fun u hfound =>
    .throwIf_bind fun hself => ?_)
  subst hfound
  refine checkFinalAdmin_minds fun h₁ hsuffix => recordStatus_minds fun h₂ hsuffix' => .query ?_
  have hsub := (hsuffix.trans hsuffix').subset
  refine .status ho ⟨hsub (List.mem_cons_of_mem _ hvalid.1), hvalid.2⟩ hrole
    (hsub (List.mem_cons_self ..)) fun hid => hself (congrArg some hid)

theorem authProgram_minds (o : AuthOp) :
    Obeys (Minds host o) (fun _ _ => True) [] (authProgram host o) := by
  show Minding host o [] (authCall host o)
  unfold authCall
  cases ho : o.request with
  | register dto => exact (register_minds ho).map
  | login dto => exact (login_minds ho).map
  | refresh sub refreshToken => exact (refresh_minds ho).map
  | logout sub => exact (logout_minds ho).map
  | updateStatus r => exact (updateStatus_minds ho).map

end

end ServiceHub.Accounts
