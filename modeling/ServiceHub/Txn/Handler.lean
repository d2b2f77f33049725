/-
# `Txn.Handler` — a program run alone, on a state of any kind

`handle f p s` runs `p` from the state `s`, each instruction by `f`.  `Post` is
the judgment about such a run, with one equation for each way of building a
program.
-/
import ServiceHub.Txn.Prog

namespace Txn

namespace Prog

section
variable {I : Type} {A : I → Type} {ε α β S : Type} (f : (i : I) → S → Except ε (A i) × S)

def handle : Prog I A ε α → S → Except ε α × S
  | .ret a, s => (.ok a, s)
  | .throw e, s => (.error e, s)
  | .ask i k, s => handle (k (f i s).1) (f i s).2

/-- `Q` holds of how `p` ends. -/
def Post (p : Prog I A ε α) (s : S) (Q : Except ε α → S → Prop) : Prop :=
  Q (p.handle f s).1 (p.handle f s).2

variable {f} {s : S} {Q : Except ε β → S → Prop}

theorem Post.mono {p : Prog I A ε β} {Q' : Except ε β → S → Prop} (h : p.Post f s Q)
    (hQ : ∀ r s', Q r s' → Q' r s') : p.Post f s Q' :=
  hQ _ _ h

@[simp] theorem post_pure {b : β} : (pure b : Prog I A ε β).Post f s Q ↔ Q (.ok b) s := Iff.rfl

@[simp] theorem post_throw {e : ε} : (throw e : Prog I A ε β).Post f s Q ↔ Q (.error e) s :=
  Iff.rfl

theorem handle_cont (g : α → Prog I A ε β) (g' : ε → Prog I A ε β) :
    ∀ (p : Prog I A ε α) (s : S), (p.cont g g').handle f s =
      match (p.handle f s).1 with
      | .ok a => (g a).handle f (p.handle f s).2
      | .error e => (g' e).handle f (p.handle f s).2
  | .ret _, _ => rfl
  | .throw _, _ => rfl
  | .ask _ k, _ => handle_cont g g' (k _) _

theorem post_bind {p : Prog I A ε α} {g : α → Prog I A ε β} : (p >>= g).Post f s Q ↔
    p.Post f s fun r s' =>
      match r with
      | .ok a => (g a).Post f s' Q
      | .error e => Q (.error e) s' := by
  unfold Post
  rw [bind_def, handle_cont]
  cases (p.handle f s).1 with
  | ok a => rfl
  | error e => rfl

theorem handle_map (p : Prog I A ε α) (g : α → β) (s : S) :
    (p.map g).handle f s = ((p.handle f s).1.map g, (p.handle f s).2) := by
  rw [map, handle_cont]
  cases (p.handle f s).1 with
  | ok a => rfl
  | error e => rfl

theorem post_map {p : Prog I A ε α} {g : α → β} : (p.map g).Post f s Q ↔
    p.Post f s fun r s' => Q (r.map g) s' := by
  rw [Post, handle_map]
  exact Iff.rfl

theorem handle_perform (i : I) : (perform i : Prog I A ε (A i)).handle f s = f i s := by
  unfold perform handle
  obtain ⟨r, s'⟩ := f i s
  cases r with
  | ok a => rfl
  | error e => rfl

theorem post_perform {i : I} {Q : Except ε (A i) → S → Prop} :
    (perform i : Prog I A ε (A i)).Post f s Q ↔ Q (f i s).1 (f i s).2 := by
  rw [Post, handle_perform]

theorem post_orThrow {o : Option β} {e : ε} : (orThrow o e : Prog I A ε β).Post f s Q ↔
    (o = none → Q (.error e) s) ∧ ∀ b, o = some b → Q (.ok b) s := by
  cases o with
  | none => simp [orThrow]
  | some b =>
      constructor
      · intro h
        refine ⟨fun hnone => absurd hnone (Option.some_ne_none b), ?_⟩
        intro b' hb
        exact Option.some.inj hb ▸ h
      · intro h
        exact h.2 b rfl

theorem post_throwIf {c : Prop} [Decidable c] {e : ε} {Q : Except ε Unit → S → Prop} :
    (throwIf c e : Prog I A ε Unit).Post f s Q ↔
      (c → Q (.error e) s) ∧ (¬ c → Q (.ok ()) s) := by
  by_cases hc : c
  · simp [throwIf, hc]
  · simp only [throwIf, hc, if_false, false_imp_iff, true_and, not_false_eq_true, true_imp_iff]
    exact Iff.rfl

theorem post_ite {c : Prop} [Decidable c] {p q : Prog I A ε β} :
    (if c then p else q).Post f s Q ↔ (c → p.Post f s Q) ∧ (¬ c → q.Post f s Q) := by
  by_cases hc : c <;> simp [hc]

end

end Prog

end Txn
