/-
# `Txn.Refusals` — what a call has been told

The errors that a program ends with are thrown by the program itself, or are
answers to its instructions.  `Relays E p` says that the program throws none
of the kind `E` itself, so whoever catches one knows that an instruction was
refused with it.

What an answer tells about the committed state need not stay true.  Where it
does, it is true of every answer in the history of a call (`Run.noted`).
-/
import ServiceHub.Txn.History

namespace Txn

open Database Prog

section
variable {I : Type} {A : I → Type} {ε α β : Type} {E : ε → Prop}

/-- An error of the kind is the answer to an instruction. -/
def Relayed (E : ε → Prop) (h : Hist I A ε) (r : Except ε α) : Prop :=
  ∀ e, r = .error e → E e → ∃ i, (⟨i, .error e⟩ : (i : I) × Except ε (A i)) ∈ h

/-- The program throws no error of the kind itself. -/
def Relays (E : ε → Prop) (p : Prog I A ε α) : Prop :=
  ∀ h, Obeys (fun _ _ => True) (Relayed E) h p

theorem Relays.pure {a : α} : Relays E (Pure.pure a : Prog I A ε α) :=
  fun _ _ he => nomatch he

theorem Relays.throw {e : ε} (h : ¬ E e) : Relays E (Prog.throw e : Prog I A ε α) := by
  intro _ e' he hE
  cases he
  exact absurd hE h

theorem Relays.perform {i : I} : Relays E (Prog.perform i : Prog I A ε (A i)) := by
  intro h
  refine obeys_perform.mpr ⟨trivial, fun _ _ he => (nomatch he), fun e e' he _ => ?_⟩
  cases he
  exact ⟨i, List.mem_cons_self⟩

theorem Relays.bind {p : Prog I A ε α} {f : α → Prog I A ε β} (hp : Relays E p)
    (hf : ∀ a, Relays E (f a)) : Relays E (p >>= f) := by
  intro h
  refine obeys_bind.mpr ((hp h).mono (fun _ _ hq => hq) ?_)
  rintro h' (e | a) hr
  · intro e' he hE
    cases he
    exact hr e rfl hE
  · exact hf a h'

theorem Relays.ite {c : Prop} [Decidable c] {p q : Prog I A ε α} (hp : Relays E p)
    (hq : Relays E q) : Relays E (if c then p else q) := by
  split
  · exact hp
  · exact hq

theorem Relays.throwIf {c : Prop} [Decidable c] {e : ε} (h : ¬ E e) :
    Relays E (Prog.throwIf c e : Prog I A ε Unit) :=
  Relays.ite (Relays.throw h) Relays.pure

theorem Relays.orThrow {o : Option α} {e : ε} (h : ¬ E e) :
    Relays E (Prog.orThrow o e : Prog I A ε α) := by
  cases o with
  | none => exact Relays.throw h
  | some a => exact Relays.pure

end

section
variable {Op Db Row Key Stmt Ext ε Res : Type} {A : Stmt → Type} [Database Db Row Key Stmt ε A]
  {program : Op → Prog (Instr Stmt Ext) (Instr.Ans A) ε Res}
  {Ok : Config Op Db Row Stmt Ext A ε Res → Event Op ε → Prop}
  {c₀ c : Config Op Db Row Stmt Ext A ε Res}

/-- One statement. -/
theorem Relays.stmt {E : ε → Prop} {s : Stmt} :
    Relays E (autocommit Ext (Prog.perform s : Prog Stmt A ε (A s))) := by
  intro h
  refine obeys_stmt.mpr ⟨trivial, fun _ _ he => (nomatch he), fun e e' he _ => ?_⟩
  cases he
  exact ⟨.stmt s, List.mem_cons_self⟩

/-- An instruction fails on its way, or it is a statement that is refused. -/
theorem Effect.refused {db db' : Db} {wf : List Row} {tx tx' : Option (List Row)} {p : Nat}
    {i : Instr Stmt Ext} {e : Event Op ε} {x : ε} (h : Effect db wf tx p i e (.error x) tx' db') :
    e = .fail p x ∨ ∃ s, e = .exec p ∧ i = .stmt s ∧ exec s (puts db (tx.getD [])) = .error x := by
  cases h with
  | failed _ => exact Or.inl rfl
  | answered he =>
      cases i with
      | stmt s =>
          simp only [effect] at he
          split at he
          · exact absurd he (by simp)
          · split at he <;> cases he
            rename_i hex
            exact Or.inr ⟨s, rfl, rfl, hex⟩
      | _ => cases he

/-- **What an answer tells, and stays true,** holds for every answer in the
history of a call. -/
theorem Run.noted
    {K : Config Op Db Row Stmt Ext A ε Res → Op → (i : Instr Stmt Ext) → Except ε (i.Ans A) → Prop}
    (hpersist : ∀ c c' e op i r, Run program Ok c₀ c → Ok c e → next program c e = some c' →
      K c op i r → K c' op i r)
    (hnew : ∀ c e p P i k r tx db, Run program Ok c₀ c → Ok c e → c.procs[p]? = some P →
      P.prog = .ask i k → Effect c.db (others c.procs p) P.tx p i e r tx db → K c P.op i r)
    (hc₀ : c₀.procs = []) (hrun : Run program Ok c₀ c) :
    ∀ P ∈ c.procs, ∀ x ∈ P.hist, K c P.op x.1 x.2 := by
  induction hrun with
  | start => simp [hc₀]
  | step hrun hok hn ih =>
      intro Q hQ x hx
      obtain ⟨q, hq⟩ := List.mem_iff_getElem?.mp hQ
      rcases proc_of_next hn hq with hold | ⟨o, _, _, rfl⟩ | ⟨P, i, k, r, tx, hP, hk, heff, rfl⟩
      · exact hpersist _ _ _ _ _ _ hrun hok hn (ih Q (List.mem_of_getElem? hold) x hx)
      · exact absurd hx List.not_mem_nil
      · refine hpersist _ _ _ _ _ _ hrun hok hn ?_
        rcases List.mem_cons.mp hx with rfl | hx
        · exact hnew _ _ q P i k r tx _ hrun hok hP hk heff
        · exact ih P (List.mem_of_getElem? hP) x hx

end

end Txn
