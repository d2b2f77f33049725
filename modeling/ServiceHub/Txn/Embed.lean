/-
# `Txn.Embed` — a program over the instructions of a larger system

A component is modelled over the statements of its own database.  Where a larger
database holds its tables too, the component's programs run there by
translation: an `Embedding` says which statement stands for each statement of
the component, and how its answer is read.  A call to the outside may become a
statement, one whose failure the caller does not see.
-/
import ServiceHub.Txn.Prog

namespace Txn

/-- Statements as statements of another system. -/
structure Embedding (S T : Type) (A : S → Type) (B : T → Type) where
  stmt : S → T
  back : (s : S) → B (stmt s) → A s

namespace Prog

variable {S T Ext E : Type} {A : S → Type} {B : T → Type} {ε α β : Type}
  (φ : Embedding S T A B)

/-- A body, statement by statement. -/
def embed : Prog S A ε α → Prog T B ε α
  | ret a => ret a
  | throw e => throw e
  | ask s k => ask (φ.stmt s) fun r => embed (k (r.map (φ.back s)))

/-- A whole call; `call` is the statement that stands for a call to the
outside. -/
def embedCall (call : Ext → T) :
    Prog (Instr S Ext) (Instr.Ans A) ε α → Prog (Instr T E) (Instr.Ans B) ε α
  | ret a => ret a
  | throw e => throw e
  | ask .begin k => ask .begin fun r => embedCall call (k r)
  | ask .commit k => ask .commit fun r => embedCall call (k r)
  | ask .rollback k => ask .rollback fun r => embedCall call (k r)
  | ask (.stmt s) k => ask (.stmt (φ.stmt s)) fun r => embedCall call (k (r.map (φ.back s)))
  | ask (.call c) k => ask (.stmt (call c)) fun _ => embedCall call (k (.ok ()))

variable {φ}

@[simp] theorem embed_pure (a : α) : embed φ (pure a : Prog S A ε α) = pure a := rfl

@[simp] theorem embed_throw (e : ε) : embed φ (throw e : Prog S A ε α) = throw e := rfl

theorem embed_bind (f : α → Prog S A ε β) : ∀ p : Prog S A ε α,
    embed φ (p >>= f) = embed φ p >>= fun a => embed φ (f a)
  | .ret _ => rfl
  | .throw _ => rfl
  | .ask _ _ => congrArg (Prog.ask _) (funext fun _ => embed_bind f _)

theorem embed_perform_bind {s : S} (f : A s → Prog S A ε β) :
    embed φ (perform s >>= f) = perform (φ.stmt s) >>= fun a => embed φ (f (φ.back s a)) := by
  refine congrArg (Prog.ask _) (funext fun r => ?_)
  cases r with
  | ok a => rfl
  | error e => rfl

variable {call : Ext → T}

@[simp] theorem embedCall_pure (a : α) :
    embedCall (E := E) φ call (pure a : Prog (Instr S Ext) (Instr.Ans A) ε α) = pure a := rfl

@[simp] theorem embedCall_throw (e : ε) :
    embedCall (E := E) φ call (throw e : Prog (Instr S Ext) (Instr.Ans A) ε α) = throw e := rfl

theorem embedCall_bind (f : α → Prog (Instr S Ext) (Instr.Ans A) ε β) :
    ∀ p : Prog (Instr S Ext) (Instr.Ans A) ε α,
      embedCall (E := E) φ call (p >>= f) =
        embedCall φ call p >>= fun a => embedCall φ call (f a)
  | .ret _ => rfl
  | .throw _ => rfl
  | .ask .begin _ => congrArg (Prog.ask _) (funext fun _ => embedCall_bind f _)
  | .ask .commit _ => congrArg (Prog.ask _) (funext fun _ => embedCall_bind f _)
  | .ask .rollback _ => congrArg (Prog.ask _) (funext fun _ => embedCall_bind f _)
  | .ask (.stmt _) _ => congrArg (Prog.ask _) (funext fun _ => embedCall_bind f _)
  | .ask (.call _) _ => congrArg (Prog.ask _) (funext fun _ => embedCall_bind f _)

theorem embedCall_ite {c : Prop} [Decidable c] (p q : Prog (Instr S Ext) (Instr.Ans A) ε α) :
    embedCall (E := E) φ call (if c then p else q) =
      if c then embedCall φ call p else embedCall φ call q := by
  split <;> rfl

theorem embedCall_orThrow (o : Option α) (e : ε) :
    embedCall (E := E) φ call (orThrow o e : Prog (Instr S Ext) (Instr.Ans A) ε α) =
      orThrow o e := by
  cases o <;> rfl

theorem embedCall_throwIf {c : Prop} [Decidable c] (e : ε) :
    embedCall (E := E) φ call (throwIf c e : Prog (Instr S Ext) (Instr.Ans A) ε Unit) =
      throwIf c e := by
  unfold throwIf
  split <;> rfl

/-- One statement, and what comes after it. -/
theorem embedCall_stmt_bind {s : S} (f : A s → Prog (Instr S Ext) (Instr.Ans A) ε β) :
    embedCall (E := E) φ call (autocommit Ext (perform s) >>= f) =
      autocommit E (perform (φ.stmt s)) >>= fun a => embedCall φ call (f (φ.back s a)) := by
  refine congrArg (Prog.ask _) (funext fun r => ?_)
  cases r with
  | ok a => rfl
  | error e => rfl

theorem embedCall_inTransaction : ∀ p : Prog S A ε α,
    embedCall (E := E) φ call (inTransaction Ext p) = inTransaction E (embed φ p)
  | .ret _ => congrArg (Prog.ask _) (funext fun r => by cases r <;> rfl)
  | .throw _ => congrArg (Prog.ask _) (funext fun _ => rfl)
  | .ask _ _ => congrArg (Prog.ask _) (funext fun _ => embedCall_inTransaction _)

theorem embedCall_transaction (p : Prog S A ε α) :
    embedCall (E := E) φ call (transaction Ext p) = transaction E (embed φ p) := by
  refine congrArg (Prog.ask _) (funext fun r => ?_)
  cases r with
  | ok _ => exact embedCall_inTransaction p
  | error e => rfl

/-- What a translated call asks are translated statements, and those that stand
for a call to the outside. -/
theorem obeys_embedCall {Q : Instr T E → Prop} (hstmt : ∀ s, Q (.stmt (φ.stmt s)))
    (hcall : ∀ c, Q (.stmt (call c))) (hbegin : Q .begin) (hcommit : Q .commit)
    (hrollback : Q .rollback) : ∀ (p : Prog (Instr S Ext) (Instr.Ans A) ε α)
      (h : Hist (Instr T E) (Instr.Ans B) ε),
      Obeys (fun _ i => Q i) (fun _ _ => True) h (embedCall φ call p)
  | .ret _, _ => trivial
  | .throw _, _ => trivial
  | .ask .begin _, _ =>
      ⟨hbegin, fun _ => obeys_embedCall hstmt hcall hbegin hcommit hrollback _ _⟩
  | .ask .commit _, _ =>
      ⟨hcommit, fun _ => obeys_embedCall hstmt hcall hbegin hcommit hrollback _ _⟩
  | .ask .rollback _, _ =>
      ⟨hrollback, fun _ => obeys_embedCall hstmt hcall hbegin hcommit hrollback _ _⟩
  | .ask (.stmt s) _, _ =>
      ⟨hstmt s, fun _ => obeys_embedCall hstmt hcall hbegin hcommit hrollback _ _⟩
  | .ask (.call c) _, _ =>
      ⟨hcall c, fun _ => obeys_embedCall hstmt hcall hbegin hcommit hrollback _ _⟩

end Prog

end Txn
