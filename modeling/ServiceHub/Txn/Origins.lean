/-
# `Txn.Origins` — where a row comes from

A row that is committed under a key was there from the start, or some call has
made it by a statement that counts.  `did` says which statements make a row
under the key `k`: every other statement writes under `k` only where it finds a
row (`hstmt`).

Of an open transaction the same holds with what the call has done since it began
(`Made.pending`); a commit then turns the second into the first.

A row that a step changes is the work of one call, by a statement that the call
was to issue (`Run.changed`).
-/
import ServiceHub.Txn.Later

namespace Txn

open Database

section
variable {Op Db Row Key Stmt Ext ε Res : Type} {A : Stmt → Type} [Database Db Row Key Stmt ε A]
  [DecidableEq Key] [Lawful Db] {program : Op → Prog (Instr Stmt Ext) (Instr.Ans A) ε Res}
  {Ok : Config Op Db Row Stmt Ext A ε Res → Event Op ε → Prop}
  {c₀ c : Config Op Db Row Stmt Ext A ε Res} {did : (s : Stmt) → A s → Prop} {k : Key}

/-- What is stored under `k` was stored in `db₀`, or made by a call. -/
structure Made (db₀ : Db) (did : (s : Stmt) → A s → Prop) (k : Key)
    (c : Config Op Db Row Stmt Ext A ε Res) : Prop where
  committed : (get c.db k).isSome →
    (get db₀ k).isSome ∨ ∃ P ∈ c.procs, Did did (kept P.hist)
  pending : ∀ P ∈ c.procs, ∀ x ∈ (sinceBegin P.hist).getD [], (∃ w ∈ written Db x.1 x.2, key Db w = k) →
    (get c.db k).isSome ∨ Did did ((sinceBegin P.hist).getD [])

/-- **A row comes from the start of the run or from a call that made it.** -/
theorem Run.made
    (hstmt : ∀ (s : Stmt) (db : Db) (a : A s), exec s db = .ok a → ∀ w ∈ written Db s a,
      key Db w = k → did s a ∨ (get db k).isSome)
    (hc₀ : c₀.procs = []) (hrun : Run program Ok c₀ c) : Made c₀.db did k c := by
  induction hrun with
  | start => exact ⟨Or.inl, by simp [hc₀]⟩
  | @step c c' e hrun hok hn ih =>
      have hstay : (get c.db k).isSome → (get c'.db k).isSome := by
        intro hk
        rcases hrun.kept_next hc₀ hn with ⟨_, _, hdb⟩ | ⟨_, _, _, new, _, _, _, _, hdb⟩
        · rwa [hdb]
        · rw [hdb]
          exact isSome_get_puts _ hk
      -- a call sees a row under `k` only if it is committed or made by itself
      have hview : ∀ P ∈ c.procs, (get (view c.db P) k).isSome →
          (get c.db k).isSome ∨ Did did ((sinceBegin P.hist).getD []) := by
        intro P hP hk
        rcases get_puts k P.pending c.db with ⟨w, hw, hkey, _⟩ | ⟨_, hget⟩
        · obtain ⟨x, hx, hwx⟩ := hrun.written_of_pending hc₀ hP hw
          exact ih.pending P hP x hx ⟨w, hwx, hkey⟩
        · exact Or.inl (by rwa [← hget])
      have hkept : (∃ P ∈ c.procs, Did did (kept P.hist)) → ∃ P ∈ c'.procs, Did did (kept P.hist) := by
        rintro ⟨P, hP, x, hx, hdid⟩
        obtain ⟨P', hP', _, hsuffix⟩ := hist_of_next hn hP
        exact ⟨P', hP', x, kept_subset hsuffix hx, hdid⟩
      have hold : (get c.db k).isSome →
          (get c₀.db k).isSome ∨ ∃ P ∈ c'.procs, Did did (kept P.hist) :=
        fun hk => (ih.committed hk).imp_right hkept
      refine ⟨fun hk => ?_, fun Q hQ x hx hwritten => ?_⟩
      · rcases next_cases program hn with ⟨_, _, rfl⟩ | ⟨p, P, i, n, r, tx, db, hP, _, heff, rfl⟩
        · exact hold hk
        · have hmem := List.mem_of_getElem? hP
          have hadvance := List.mem_of_getElem? (List.getElem?_set_self
            (a := P.advance i n r tx) (List.getElem?_eq_some_iff.mp hP).1)
          rw [hrun.tx_eq hc₀ P hmem] at heff
          obtain ⟨new, hnew, hdb⟩ := heff.kept
          have hmade : Did did new →
              (get c₀.db k).isSome ∨ ∃ P' ∈ c.procs.set p (P.advance i n r tx), Did did (kept P'.hist) := by
            rintro ⟨y, hy, hdid⟩
            refine Or.inr ⟨_, hadvance, y, ?_, hdid⟩
            show y ∈ kept (⟨i, r⟩ :: P.hist)
            exact hnew ▸ List.mem_append_left _ hy
          rcases get_puts k (rowsOf Db new) c.db with ⟨w, hw, hkey, _⟩ | ⟨_, hget⟩
          · obtain ⟨x, hx, hwx⟩ := mem_rowsOf.mp hw
            rcases kept_cons_cases hnew with rfl | ⟨_, rfl⟩ | ⟨s, a, hentry, hout, rfl⟩
            · exact absurd hx List.not_mem_nil
            · exact (ih.pending P hmem x hx ⟨w, hwx, hkey⟩).elim hold hmade
            · obtain rfl := List.mem_singleton.mp hx
              cases hentry
              have hex := heff.exec_of_ok.2
              rw [hout] at hex
              exact (hstmt s c.db a hex w hwx hkey).elim
                (fun hdid => hmade ⟨_, List.mem_singleton_self _, hdid⟩) hold
          · exact hold (by rwa [← hget, ← hdb])
      · obtain ⟨q, hq⟩ := List.mem_iff_getElem?.mp hQ
        rcases proc_of_next hn hq with hQ' | ⟨o, _, _, rfl⟩ | ⟨P, i, _, r, tx, hP, _, heff, rfl⟩
        · exact (ih.pending Q (List.mem_of_getElem? hQ') x hx hwritten).imp_left hstay
        · exact absurd hx List.not_mem_nil
        · have hmem := List.mem_of_getElem? hP
          have hx : x ∈ (sinceBegin (⟨i, r⟩ :: P.hist)).getD [] := hx
          have hgoes : (get c.db k).isSome ∨ Did did ((sinceBegin P.hist).getD []) →
              (get c'.db k).isSome ∨ Did did ((sinceBegin (⟨i, r⟩ :: P.hist)).getD []) := by
            rintro (hk | ⟨y, hy, hdid⟩)
            · exact Or.inl (hstay hk)
            · exact Or.inr ⟨y, sinceBegin_subset hx hy, hdid⟩
          rcases mem_sinceBegin_cons hx with hbefore | hentry
          · exact hgoes (ih.pending P hmem x hbefore hwritten)
          · cases hentry
            obtain ⟨w, hw, hkey⟩ := hwritten
            exact (hstmt x.1 _ x.2 heff.exec_of_ok.2 w hw hkey).elim
              (fun hdid => Or.inr ⟨x, hx, hdid⟩) fun hk => hgoes (hview P hmem hk)

/-! ## Changes -/

omit [DecidableEq Key] [Lawful Db] in
/-- The call is about to commit the statement: in its transaction, or outside
one. -/
def Committing (db : Db) (P : Proc Op Row Stmt Ext A ε Res) (s : Stmt) (a : A s) : Prop :=
  (⟨s, a⟩ : (s : Stmt) × A s) ∈ (sinceBegin P.hist).getD [] ∨
    (∃ k, P.prog = .ask (.stmt s) k) ∧ sinceBegin P.hist = none ∧ exec s db = .ok a

/-- **A row that a step changes** is committed by a call, which was to issue the
statement that wrote it. -/
theorem Run.changed {Q : Op → Hist (Instr Stmt Ext) (Instr.Ans A) ε → Instr Stmt Ext → Prop}
    (hprog : ∀ o, Obeys (Q o) (fun _ _ => True) [] (program o)) (hc₀ : c₀.procs = [])
    (hrun : Run program Ok c₀ c) {c' : Config Op Db Row Stmt Ext A ε Res} {e : Event Op ε}
    (hn : next program c e = some c') {r : Row} (hr : get c'.db k = some r)
    (hnew : get c.db k ≠ some r) :
    ∃ (p : Nat) (P : Proc Op Row Stmt Ext A ε Res) (s : Stmt) (a : A s), e = .exec p ∧
      c.procs[p]? = some P ∧ Committing c.db P s a ∧ r ∈ written Db s a ∧
      (∃ db : Db, exec s db = .ok a) ∧ ∃ h, h <:+ P.hist ∧ Q P.op h (.stmt s) := by
  have hwritten : ∀ rows, c'.db = puts c.db rows → r ∈ rows := by
    intro rows hdb
    rw [hdb] at hr
    rcases get_puts k rows c.db with ⟨w, hw, _, hget⟩ | ⟨_, hget⟩
    · obtain rfl : w = r := Option.some.inj (hget.symm.trans hr)
      exact hw
    · exact absurd (hget.symm.trans hr) hnew
  rcases hrun.db_next hc₀ hn with hdb | ⟨p, P, hP, rfl, ⟨_, l, _, hl, hdb⟩ | ⟨s, k', a, hk, hout, hexec, hdb⟩⟩
  · exact absurd (hdb ▸ hr) hnew
  · obtain ⟨⟨s, a⟩, hx, hw⟩ := mem_rowsOf.mp (hwritten _ hdb)
    have hopen : (⟨s, a⟩ : (s : Stmt) × A s) ∈ (sinceBegin P.hist).getD [] := by rwa [hl]
    have hmem := mem_of_sinceBegin hopen
    have hP' := List.mem_of_getElem? hP
    have hobeyed := hrun.obeyed (R := fun _ _ _ => True) (fun _ o _ => hprog o) hc₀ P hP'
    obtain ⟨h, hsuffix, hq⟩ := hobeyed.of_mem hmem
    exact ⟨p, P, s, a, rfl, hP, Or.inl hopen, hw, hrun.executed hc₀ hP' hmem, h,
      (List.suffix_cons _ _).trans hsuffix, hq⟩
  · have hobeys := hrun.obeys (R := fun _ _ _ => True) (fun _ o _ => hprog o) hc₀ P
      (List.mem_of_getElem? hP)
    rw [hk] at hobeys
    exact ⟨p, P, s, a, rfl, hP, Or.inr ⟨⟨k', hk⟩, hout, hexec⟩, hwritten _ hdb, ⟨_, hexec⟩, P.hist,
      List.suffix_rfl, hobeys.1⟩

/-- What a call is about to commit of an insert is not stored yet. -/
theorem Run.new_of_committing (inserts : Stmt → Prop)
    (hnew : ∀ (s : Stmt) (db : Db) (a : A s), inserts s → exec s db = .ok a →
      ∀ w ∈ written Db s a, get db (key Db w) = none)
    (hc₀ : c₀.procs = []) (hrun : Run program Ok c₀ c) {P : Proc Op Row Stmt Ext A ε Res}
    (hP : P ∈ c.procs) {s : Stmt} {a : A s} (hs : inserts s) (hcommits : Committing c.db P s a)
    {w : Row} (hw : w ∈ written Db s a) : get c.db (key Db w) = none := by
  rcases hcommits with hopen | ⟨_, _, hexec⟩
  · refine hrun.locked (L := fun s _ _ o => inserts s → o = none) hc₀ ?_ P hP _ hopen w hw hs
    intro c p P s k a _ _ _ _ hexec w hw hs
    have hview := hnew s _ a hs hexec w hw
    rcases get_puts (key Db w) P.pending c.db with ⟨_, _, _, hget⟩ | ⟨_, hget⟩
    · exact absurd (hget.symm.trans hview) (Option.some_ne_none _)
    · exact hget.symm.trans hview
  · exact hnew s _ a hs hexec w hw

end

end Txn
