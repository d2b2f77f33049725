/-
# `Accounts.Users` — the users, whatever calls are made

No statement writes the email, the phone, the name, the password or the role of a
user again, and no two users share an email or a phone.  Whoever registers is a
USER, so that nobody becomes an administrator (`accounts_kept`).

A call that changes a row has checked something of it before, in a state that may
be past by then.  The columns it has checked are not written again; but a status,
or a hash, it has only seen (`user_by_authority`).
-/
import ServiceHub.Accounts.Requests

namespace ServiceHub.Accounts

open Data Txn

/-- The user with another status, session and last login. -/
def User.revised (u v : User) : User :=
  { u with status := v.status, refreshTokenHash := v.refreshTokenHash, lastLoginAt := v.lastLoginAt }

/-- No two users share an email or a phone. -/
def Db.Unique (db : Db) : Prop :=
  ∀ u ∈ db.users.rows, ∀ v ∈ db.users.rows, u.email = v.email ∨ u.phone = v.phone → u.id = v.id

/-! ## What a statement writes -/

theorem written_user {s : Stmt} {db : Db} {a : Ans s} (hexec : Db.exec s db = .ok a) {v : User}
    (hw : Row.user v ∈ s.written a) :
    (s = .createUser v ∧ db.users.find? v.id = none ∧
      ∀ u ∈ db.users.rows, u.email ≠ v.email ∧ u.phone ≠ v.phone) ∨
    ∃ u data, s = .updateUser v.id data ∧ db.users.find? v.id = some u ∧ v = data.on u := by
  cases s with
  | createUser row =>
      simp only [Db.exec, Db.insert] at hexec
      split at hexec
      · cases hexec
      rename_i hfree
      split at hexec
      · cases hexec
      split at hexec
      · cases hexec
      split at hexec
      · cases hexec
      rename_i hunique
      cases hexec
      obtain rfl := Row.user.inj (List.mem_singleton.mp hw)
      have hnone : db.users.find? v.id = none := by simpa [Db.get, Row.key] using hfree
      refine Or.inl ⟨rfl, hnone, fun u hu => ?_⟩
      have hclash := List.any_eq_false.mp (Bool.not_eq_true _ ▸ hunique) (.user u)
        (List.mem_map_of_mem hu)
      simp only [clash, Bool.or_eq_true, beq_iff_eq, not_or] at hclash
      exact ⟨fun h => hclash.1 h.symm, fun h => hclash.2 h.symm⟩
  | updateUser id data =>
      obtain ⟨u, hu, rfl⟩ := Db.updateUser_ok hexec
      obtain rfl := Row.user.inj (List.mem_singleton.mp hw)
      obtain rfl : u.id = id := Table.key_of_find? hu
      exact Or.inr ⟨u, data, rfl, hu, rfl⟩
  | createAudit _ => cases List.mem_singleton.mp hw
  | _ => exact absurd hw List.not_mem_nil

/-- A row that is written over another one. -/
def Continues : Row → Row → Prop
  | .user u, .user v => v = User.revised u v
  | .audit _, .audit _ => True
  | _, _ => False

theorem continues_refl (r : Row) : Continues r r := by
  cases r with
  | user u => rfl
  | audit a => trivial

theorem continues_trans (r r' r'' : Row) (h : Continues r r') (h' : Continues r' r'') :
    Continues r r'' := by
  cases r with
  | user u =>
      cases r' with
      | audit a => exact h.elim
      | user u' =>
          cases r'' with
          | audit a => exact h'.elim
          | user u'' =>
              have h : u' = User.revised u u' := h
              have h' : u'' = User.revised u' u'' := h'
              show u'' = User.revised u u''
              rw [h', h]
              rfl
  | audit a =>
      cases r' with
      | user u => exact h.elim
      | audit b =>
          cases r'' with
          | user u => exact h'.elim
          | audit b' => trivial

theorem written_continues {s : Stmt} {db : Db} {a : Ans s} (hexec : Db.exec s db = .ok a) {w : Row}
    (hw : w ∈ s.written a) : db.get w.key = none ∨ ∃ r, db.get w.key = some r ∧ Continues r w := by
  cases w with
  | user v =>
      rcases written_user hexec hw with ⟨_, hnone, _⟩ | ⟨u, data, _, hu, rfl⟩
      · exact Or.inl (Option.map_eq_none_iff.mpr hnone)
      · exact Or.inr ⟨.user u, Option.map_eq_some_iff.mpr ⟨u, hu, rfl⟩, rfl⟩
  | audit b =>
      cases s with
      | createAudit row =>
          obtain ⟨ha, hnone⟩ := Db.insert_ok (show db.insert (.audit row) row = .ok a from hexec)
          rw [List.mem_singleton.mp hw, ha]
          exact Or.inl hnone
      | createUser _ => cases List.mem_singleton.mp hw
      | updateUser _ _ => cases List.mem_singleton.mp hw
      | _ => exact absurd hw List.not_mem_nil

theorem eq_of_written {s : Stmt} {db : Db} {a : Ans s} (_ : Db.exec s db = .ok a) {w : Row}
    (hw : w ∈ s.written a) {w' : Row} (hw' : w' ∈ s.written a) : w' = w := by
  cases s with
  | createUser _ | updateUser _ _ | createAudit _ =>
      rw [List.mem_singleton.mp hw, List.mem_singleton.mp hw']
  | _ => exact absurd hw List.not_mem_nil

/-! ## Runs -/

section
variable {host : AuthHost} {db : Db} {Ok : AuthSystem → Event AuthOp Exn → Prop} {c c' : AuthSystem}
  {P : AuthCaller}

/-- No call has begun a transaction at any time. -/
theorem outside_of_suffix {o : AuthOp} {h h' : StatusHist} (hobeyed : Obeyed (Minds host o) h)
    (hsuffix : h' <:+ h) : sinceBegin h' = none :=
  outside_of_obeyed (fun _ hbegin => hbegin) hobeyed hsuffix

/-- No call has a transaction open. -/
theorem outside_of_run (hrun : Run (authProgram host) Ok ⟨db, []⟩ c) (hP : P ∈ c.procs) :
    sinceBegin P.hist = none :=
  outside_of_suffix (hrun.obeyed (R := fun _ _ _ => True) (fun _ o _ => authProgram_minds o) rfl P hP)
    List.suffix_rfl

theorem pending_of_run (hrun : Run (authProgram host) Ok ⟨db, []⟩ c) (hP : P ∈ c.procs) :
    P.pending = [] := by
  rw [Proc.pending, hrun.tx_eq rfl P hP, outside_of_run hrun hP]
  rfl

theorem view_of_run (hrun : Run (authProgram host) Ok ⟨db, []⟩ c) (hP : P ∈ c.procs) :
    view c.db P = c.db := by
  rw [view, pending_of_run hrun hP]
  rfl

/-- A user stays, and is revised only. -/
theorem revised_of_run (hrun : Run (authProgram host) Ok ⟨db, []⟩ c)
    (hrun' : Run (authProgram host) Ok c c') {id : Uuid} {u : User}
    (hu : c.db.users.find? id = some u) : 
      ∃ v, c'.db.users.find? id = some v ∧ v = User.revised u v := by
  have hget : Txn.Database.get c.db (Key.user id) = some (Row.user u) :=
    Option.map_eq_some_iff.mpr ⟨u, hu, rfl⟩
  obtain ⟨w, hw, hcontinues⟩ := Run.related continues_refl continues_trans rfl
    (fun _ _ _ hver _ => hver.writesIn continues_trans fun _ _ _ hexec _ hw =>
      written_continues hexec hw) hrun hrun' hget
  obtain ⟨v, hv, rfl⟩ := Option.map_eq_some_iff.mp hw
  exact ⟨v, hv, hcontinues⟩

/-- What was answered was so in a state that was committed before. -/
theorem seen_of_run (hrun : Run (authProgram host) Ok ⟨db, []⟩ c) (hP : P ∈ c.procs) {s : Stmt}
    {a : Ans s} (hmem : ⟨.stmt s, .ok a⟩ ∈ P.hist) :
    ∃ c₁, Run (authProgram host) Ok ⟨db, []⟩ c₁ ∧ Run (authProgram host) Ok c₁ c ∧
      Db.exec s c₁.db = .ok a := by
  have hobeyed := hrun.obeyed (R := fun _ _ _ => True) (fun _ o _ => authProgram_minds o) rfl P hP
  obtain ⟨h, hsuffix, _⟩ := hobeyed.of_mem hmem
  exact hrun.seen rfl hP hsuffix (outside_of_suffix hobeyed ((List.suffix_cons _ _).trans hsuffix))

/-- Two users who share an email or a phone. -/
def Shares : Row → Row → Prop
  | .user u, .user v => u.id ≠ v.id ∧ (u.email = v.email ∨ u.phone = v.phone)
  | _, _ => False

theorem shares_comm (r r' : Row) (h : Shares r r') : Shares r' r := by
  cases r <;> cases r' <;> try exact h.elim
  exact ⟨Ne.symm h.1, h.2.imp Eq.symm Eq.symm⟩

/-- The user of a committed row is in the table. -/
theorem mem_of_get {db : Db} {k : Key} {u : User} (h : db.get k = some (.user u)) :
    u ∈ db.users.rows := by
  cases k with
  | user id =>
      obtain ⟨v, hv, heq⟩ := Option.map_eq_some_iff.mp h
      cases heq
      exact Table.mem_of_find? hv
  | audit id =>
      obtain ⟨_, _, heq⟩ := Option.map_eq_some_iff.mp h
      cases heq

/-- What is present is committed. -/
theorem mem_of_present (hrun : Run (authProgram host) Ok ⟨db, []⟩ c) {u : User}
    (hu : Present c (.user u)) : u ∈ c.db.users.rows := by
  rcases hu with ⟨k, hk⟩ | ⟨P, hP, hpending⟩
  · exact mem_of_get hk
  · rw [pending_of_run hrun hP] at hpending
    exact absurd hpending List.not_mem_nil

/-- What is written shares nothing with what is present. -/
theorem apart_of_written (hrun : Run (authProgram host) Ok ⟨db, []⟩ c)
    (hnone : ∀ r r', Present c r → Present c r' → ¬ Shares r r') {s : Stmt} {a : Ans s}
    (hexec : Db.exec s c.db = .ok a) {v : User} (hw : Row.user v ∈ s.written a) {r : Row}
    (hr : Present c r) : ¬ Shares (.user v) r := by
  cases r with
  | audit b => exact fun hshares => hshares
  | user u =>
      rcases written_user hexec hw with ⟨_, _, hfree⟩ | ⟨u₀, data, _, hu₀, rfl⟩
      · rintro ⟨_, hemail | hphone⟩
        · exact (hfree u (mem_of_present hrun hr)).1 hemail.symm
        · exact (hfree u (mem_of_present hrun hr)).2 hphone.symm
      · -- the columns that are compared are those of the row before
        have hold : Present c (.user u₀) := Or.inl ⟨.user _, Option.map_eq_some_iff.mpr ⟨u₀, hu₀, rfl⟩⟩
        have hapart := hnone _ _ hold hr
        exact hapart

theorem unique_of_run (hunique : db.Unique) (hrun : Run (authProgram host) Ok ⟨db, []⟩ c) :
    c.db.Unique := by
  have hnone : ∀ r r', Present c r → Present c r' → ¬ Shares r r' := by
    refine hrun.pairwise shares_comm ?_ rfl ?_
    · intro k k' r r' hr hr' hshares
      cases r with
      | audit a => exact hshares
      | user u =>
          cases r' with
          | audit a => exact hshares
          | user v => exact hshares.1 (hunique u (mem_of_get hr) v (mem_of_get hr') hshares.2)
    · intro c p P s k a hrun _ hP _ hexec hnone w hw
      rw [view_of_run hrun (List.mem_of_getElem? hP)] at hexec
      cases w with
      | audit b => exact ⟨fun _ _ hshares => hshares, fun _ _ hshares => hshares⟩
      | user v =>
          refine ⟨fun r hr => apart_of_written hrun hnone hexec hw hr, fun w' hw' hshares => ?_⟩
          cases w' with
          | audit b => exact hshares
          | user v' =>
              have hsame := Row.user.inj (eq_of_written hexec hw hw')
              exact hshares.1 (congrArg User.id hsame).symm
  intro u hu v hv hshared
  by_contra hne
  exact hnone (.user u) (.user v)
    (Or.inl ⟨.user u.id, Option.map_eq_some_iff.mpr ⟨u, Table.find?_of_mem hu, rfl⟩⟩)
    (Or.inl ⟨.user v.id, Option.map_eq_some_iff.mpr ⟨v, Table.find?_of_mem hv, rfl⟩⟩) ⟨hne, hshared⟩

/-! ### Who is new -/

/-- The insert of the user `id`. -/
def Registers (id : Uuid) : (s : Stmt) → Ans s → Prop
  | .createUser _, u => u.id = id
  | _, _ => False

theorem registers_of_written {id : Uuid} {s : Stmt} {db : Db} {a : Ans s}
    (hexec : Db.exec s db = .ok a) {w : Row} (hw : w ∈ s.written a) (hkey : w.key = .user id) :
    Registers id s a ∨ (db.get (.user id)).isSome := by
  cases w with
  | audit b => cases hkey
  | user v =>
      obtain rfl : v.id = id := Key.user.inj hkey
      rcases written_user hexec hw with ⟨rfl, _⟩ | ⟨u, _, _, hu, _⟩
      · have ha := Row.user.inj (List.mem_singleton.mp hw)
        exact Or.inl (congrArg User.id ha).symm
      · exact Or.inr (by simp [Db.get, hu])

/-- What a call has committed is only revised. -/
theorem revised_of_kept (hrun : Run (authProgram host) Ok ⟨db, []⟩ c) (hP : P ∈ c.procs) {u : User}
    (hu : Row.user u ∈ rowsOf Db (kept P.hist)) :
    ∃ v, c.db.users.find? u.id = some v ∧ v = User.revised u v := by
  obtain ⟨r, hr, hcontinues⟩ := Run.related_of_kept continues_refl continues_trans
    (fun _ _ _ hexec _ hw => written_continues hexec hw)
    (fun _ _ _ hexec _ hw _ hw' _ => eq_of_written hexec hw hw') rfl hrun hP hu
  obtain ⟨v, hv, rfl⟩ := Option.map_eq_some_iff.mp hr
  exact ⟨v, hv, hcontinues⟩

/-- A user who was not there has registered. -/
theorem registered_of_run (hrun : Run (authProgram host) Ok ⟨db, []⟩ c) {u : User}
    (hu : c.db.users.find? u.id = some u) (hnew : db.users.find? u.id = none) :
    ∃ P ∈ c.procs, ∃ dto, P.op.request = .register dto ∧
      u = User.revised (AuthService.newUser host P.op.ctx dto) u := by
  have hmade : Made db (Registers u.id) (Key.user u.id) c :=
    Run.made (fun _ _ _ hexec _ hw hkey => registers_of_written hexec hw hkey) rfl hrun
  have hsome : (c.db.get (.user u.id)).isSome := by simp [Db.get, hu]
  rcases hmade.committed hsome with hold | ⟨P, hP, ⟨s, a⟩, hx, hdid⟩
  · have hold : (db.get (.user u.id)).isSome := hold
    simp [Db.get, hnew] at hold
  · have hmem := mem_of_kept hx
    obtain ⟨db', hexec⟩ := hrun.executed rfl hP hmem
    obtain ⟨_, _, hminds⟩ := (hrun.obeyed (R := fun _ _ _ => True)
      (fun _ o _ => authProgram_minds o) rfl P hP).of_mem hmem
    cases s with
    | createUser row =>
        obtain ⟨dto, hrequest, hrow⟩ := hminds
        have ha : a = row := (Db.insert_ok (show db'.insert (.user row) row = .ok a from hexec)).1
        obtain ⟨v, hv, hrevised⟩ := revised_of_kept hrun hP
          (mem_rowsOf.mpr ⟨_, hx, List.mem_singleton_self _⟩)
        rw [show a.id = u.id from hdid] at hv
        obtain rfl := Option.some.inj (hu.symm.trans hv)
        exact ⟨P, hP, dto, hrequest, hrow ▸ ha ▸ hrevised⟩
    | _ => exact hdid.elim

end

/-- **Accounts are kept**: at any later time a user is there with the same email,
phone, name, password and role, no two users share an email or a phone, and who
is new has registered, as a USER. -/
theorem accounts_kept (host : AuthHost) (db : Db) (c c' : AuthSystem) (hunique : db.Unique)
    (hrun : Run (authProgram host) (fun _ _ => True) ⟨db, []⟩ c)
    (hrun' : Run (authProgram host) (fun _ _ => True) c c') :
    c'.db.Unique ∧
    (∀ id u, c.db.users.find? id = some u →
      ∃ v, c'.db.users.find? id = some v ∧ v = User.revised u v) ∧
    ∀ id v, c'.db.users.find? id = some v → c.db.users.find? id = none → v.role = .user ∧
      ∃ P ∈ c'.procs, ∃ dto, P.op.request = .register dto ∧
        v = User.revised (AuthService.newUser host P.op.ctx dto) v := by
  have hboth := hrun.trans hrun'
  refine ⟨unique_of_run hunique hboth, fun id u hu => revised_of_run hrun hrun' hu,
    fun id v hv hnone => ?_⟩
  obtain rfl : v.id = id := Table.key_of_find? hv
  have hnew : db.users.find? v.id = none := by
    cases hdb : db.users.find? v.id with
    | none => rfl
    | some u =>
        obtain ⟨u', hu', _⟩ := revised_of_run .start hrun hdb
        rw [hnone] at hu'
        cases hu'
  obtain ⟨P, hP, dto, hrequest, hrevised⟩ := registered_of_run hboth hv hnew
  exact ⟨by rw [hrevised]; rfl, P, hP, dto, hrequest, hrevised⟩

/-! ## Two registrations -/

namespace Sample

/-- A hash is the text behind a mark. -/
def plain : AuthHost where
  hash _ text := "#" ++ text
  compare text hashed := "#" ++ text == hashed
  hs256 secret _ := secret
  secret := "access"
  refreshSecret := "refresh"
  expiresIn := 900
  refreshExpiresIn := 604800

def nobody : Db := ⟨.empty, .empty⟩

/-- Somebody registers with the phone of Meera. -/
def registers (id email : String) : AuthOp :=
  ⟨⟨1767225600000, id, "", ""⟩, .register ⟨email, "secret", "Meera", "Iyer", "+919812345678"⟩⟩

/-- Two registrations with one phone; both find it free. -/
def atOnce : List (Event AuthOp Exn) :=
  [.spawn (registers "m1" "meera@example.com"), .spawn (registers "m2" "iyer@example.com")] ++
    List.replicate 2 (.exec 0) ++ List.replicate 3 (.exec 1) ++ [.exec 0, .exec 1]

end Sample

/-- One of two registrations is refused by the index. -/
theorem accounts_kept_sample : ∃ c : AuthSystem,
    runChecked (authProgram Sample.plain) (fun _ _ => True) ⟨Sample.nobody, []⟩ Sample.atOnce =
      some c ∧
    (∀ P ∈ c.procs, P.prog.head.isNone) ∧ c.db.users.rows.map (·.id) = ["m2"] ∧ c.db.Unique := by
  obtain ⟨c, hc⟩ := Option.isSome_iff_exists.mp
    (show (runChecked (authProgram Sample.plain) (fun _ _ => True) ⟨Sample.nobody, []⟩
      Sample.atOnce).isSome by decide +kernel)
  have hends : ∀ c ∈ runChecked (authProgram Sample.plain) (fun _ _ => True)
      ⟨Sample.nobody, []⟩ Sample.atOnce,
      (∀ P ∈ c.procs, P.prog.head.isNone) ∧ c.db.users.rows.map (·.id) = ["m2"] := by
    decide +kernel
  have hunique : Sample.nobody.Unique := by
    intro u hu
    exact absurd hu List.not_mem_nil
  exact ⟨c, hc, (hends c hc).1, (hends c hc).2, (accounts_kept Sample.plain _ _ c hunique .start
    (Run.of_runChecked _ _ hc)).1⟩

end ServiceHub.Accounts
