/-!
# Dialogues

What a client does is a dialogue: it asks its surroundings a question, goes on according to the
answer, and ends with a result. A dialogue is a tree without any effect of its own. `Dialogue.run`
holds it with surroundings that answer in some monad: a node kept in memory, a server at the end of
a line, or one dialogue in terms of another.
-/

namespace Mintage

/-- A dialogue that asks questions `q : Q`, gets answers of type `A q`, and ends with an `α`. -/
inductive Dialogue (Q : Type) (A : Q → Type) (α : Type) where
  /-- Ends with a result. -/
  | done (result : α)
  /-- Asks a question and goes on with the answer. -/
  | ask (question : Q) (next : A question → Dialogue Q A α)

namespace Dialogue

variable {Q : Type} {A : Q → Type} {α β γ : Type}

/-- Goes on with the result of a dialogue. -/
def bind : Dialogue Q A α → (α → Dialogue Q A β) → Dialogue Q A β
  | done a, f => f a
  | ask q next, f => ask q fun answer => (next answer).bind f

instance : Monad (Dialogue Q A) where
  pure := done
  bind := bind

/-- The dialogue of a single question. -/
def question (q : Q) : Dialogue Q A (A q) := ask q done

@[simp] theorem pure_eq (a : α) : (pure a : Dialogue Q A α) = done a := rfl

@[simp] theorem done_bind (a : α) (f : α → Dialogue Q A β) : done a >>= f = f a := rfl

@[simp] theorem ask_bind (q : Q) (next : A q → Dialogue Q A α) (f : α → Dialogue Q A β) :
    ask q next >>= f = ask q fun answer => next answer >>= f := rfl

theorem bind_done (d : Dialogue Q A α) : d >>= done = d := by
  induction d with
  | done a => rfl
  | ask q next ih => simp [ih]

theorem bind_assoc (d : Dialogue Q A α) (f : α → Dialogue Q A β) (g : β → Dialogue Q A γ) :
    d >>= f >>= g = d >>= fun a => f a >>= g := by
  induction d with
  | done a => rfl
  | ask q next ih => simp [ih]

instance : LawfulMonad (Dialogue Q A) :=
  .mk' (Dialogue Q A) (fun d => bind_done d) (fun _ _ => rfl) bind_assoc

/-- Holds a dialogue with surroundings that answer each question. -/
def run {m : Type → Type} [Monad m] (answer : (q : Q) → m (A q)) : Dialogue Q A α → m α
  | done a => pure a
  | ask q next => do
    let a ← answer q
    run answer (next a)

@[simp] theorem run_done {m : Type → Type} [Monad m] (answer : (q : Q) → m (A q)) (a : α) :
    run answer (done a : Dialogue Q A α) = pure a := rfl

@[simp] theorem run_ask {m : Type → Type} [Monad m] (answer : (q : Q) → m (A q)) (q : Q)
    (next : A q → Dialogue Q A α) :
    run answer (ask q next) = answer q >>= fun a => run answer (next a) := rfl

theorem run_bind {m : Type → Type} [Monad m] [LawfulMonad m] (answer : (q : Q) → m (A q))
    (d : Dialogue Q A α) (f : α → Dialogue Q A β) :
    run answer (d >>= f) = run answer d >>= fun a => run answer (f a) := by
  induction d with
  | done a => simp
  | ask q next ih => simp [ih]

end Dialogue

end Mintage
