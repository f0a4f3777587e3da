import Mintage.Dialogue

/-!
# Proofs: dialogues with surroundings that change

Surroundings may change with each question, so what becomes of a dialogue depends on the state in
which it begins. Steps of a dialogue follow each other in three respects: the result and the state
behind the first step are where the second one begins; a step that fails ends the dialogue; and what
is asked in both steps is what is asked in the first one, then what is asked in the second one.
-/

namespace Mintage.Dialogue

variable {Q : Type} {A : Q → Type} {σ ε α β : Type} {answer : (q : Q) → StateM σ (A q)}

/-! ## Results -/

/-- The second step begins where the first one ends. -/
theorem run_bind_state (d : Dialogue Q A α) (f : α → Dialogue Q A β) (s : σ) :
    run answer (d >>= f) s = run answer (f (run answer d s).1) (run answer d s).2 :=
  congrFun (run_bind answer d f) s

section Failing

variable {a : ExceptT ε (Dialogue Q A) α} {f : α → ExceptT ε (Dialogue Q A) β} {s s' : σ}

theorem run_step (a : ExceptT ε (Dialogue Q A) α) (f : α → ExceptT ε (Dialogue Q A) β) (s : σ) :
    run answer (a >>= f).run s =
      run answer (ExceptT.bindCont f (run answer a.run s).1) (run answer a.run s).2 :=
  run_bind_state a.run (ExceptT.bindCont f) s

theorem run_step_of_ok {x : α} (h : run answer a.run s = (.ok x, s')) :
    run answer (a >>= f).run s = run answer (f x).run s' := by
  rw [run_step, h]
  rfl

theorem run_step_of_error {e : ε} (h : run answer a.run s = (.error e, s')) :
    run answer (a >>= f).run s = (.error e, s') := by
  rw [run_step, h]
  rfl

/-- Two steps succeed if the first one does, and the second one where the first one ended. -/
theorem run_step_eq_ok_iff {y : β} {s'' : σ} : run answer (a >>= f).run s = (.ok y, s'') ↔
    ∃ x s', run answer a.run s = (.ok x, s') ∧ run answer (f x).run s' = (.ok y, s'') := by
  cases hRun : run answer a.run s with
  | mk result s' =>
    cases result with
    | error e =>
      rw [run_step_of_error hRun]
      constructor
      · nofun
      · rintro ⟨x, s₁, hFirst, -⟩
        cases hFirst
    | ok x =>
      rw [run_step_of_ok hRun]
      constructor
      · intro hSecond
        exact ⟨x, s', rfl, hSecond⟩
      · rintro ⟨x, s₁, hFirst, hSecond⟩
        cases hFirst
        exact hSecond

end Failing

/-! ## Questions -/

/-- What is asked in a dialogue, in order. -/
def questions (answer : (q : Q) → StateM σ (A q)) : Dialogue Q A α → σ → List Q
  | done _, _ => []
  | ask q next, s => q :: (next (answer q s).1).questions answer (answer q s).2

theorem questions_bind (d : Dialogue Q A α) (f : α → Dialogue Q A β) (s : σ) :
    (d >>= f).questions answer s =
      d.questions answer s ++ (f (run answer d s).1).questions answer (run answer d s).2 := by
  induction d generalizing s with
  | done a => rfl
  | ask q next ih =>
    rw [ask_bind, questions, ih, questions, run_ask, List.cons_append]
    rfl

section Failing

variable {a : ExceptT ε (Dialogue Q A) α} {f : α → ExceptT ε (Dialogue Q A) β} {s s' : σ}

theorem questions_step_of_ok {x : α} (h : run answer a.run s = (.ok x, s')) :
    (a >>= f).run.questions answer s =
      a.run.questions answer s ++ (f x).run.questions answer s' := by
  have hBind : (a >>= f).run = a.run >>= ExceptT.bindCont f := rfl
  rw [hBind, questions_bind, h]
  rfl

/-- Behind a step that fails nothing is asked. -/
theorem questions_step_of_error {e : ε} (h : run answer a.run s = (.error e, s')) :
    (a >>= f).run.questions answer s = a.run.questions answer s := by
  have hBind : (a >>= f).run = a.run >>= ExceptT.bindCont f := rfl
  rw [hBind, questions_bind, h]
  exact List.append_nil _

end Failing

end Mintage.Dialogue
