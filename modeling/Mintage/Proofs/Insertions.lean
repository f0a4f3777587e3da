import Mintage.Proofs.RuntimeArgs

/-!
# Proofs: insertions one after the other

Arguments are filled by insertions, each of which may fail. What is there in the end is the first
argument of each name that was to be inserted, in that order: an insertion that fails changes
nothing, so the ones behind it do not notice it. The invariant over a run is that the arguments are
the first ones of what was to be inserted until then.
-/

namespace Mintage.RuntimeArgs

/-! ## The first argument of each name -/

/-- The first argument of each name, in order. -/
def firsts (args : List NamedArg) : List NamedArg := args.eraseDupsBy fun x y => x.name = y.name

theorem firsts_cons (arg : NamedArg) (args : List NamedArg) :
    firsts (arg :: args) = arg :: firsts (args.filter fun x => x.name ≠ arg.name) := by
  rw [firsts, List.eraseDupsBy_cons, firsts]
  simp

/-- Induction that passes from a list to what is left of it without the name in front. -/
theorem firsts_induct {motive : List NamedArg → Prop} (nil : motive [])
    (cons : ∀ arg args, motive (args.filter fun x => x.name ≠ arg.name) → motive (arg :: args))
    (args : List NamedArg) : motive args := by
  induction hLength : args.length using Nat.strongRecOn generalizing args with
  | ind n ih =>
    cases args with
    | nil => exact nil
    | cons arg args =>
      refine cons arg args (ih _ ?_ _ rfl)
      rw [← hLength, List.length_cons]
      exact Nat.lt_succ_of_le (List.length_filter_le _ _)

theorem firsts_append_singleton (args : List NamedArg) (arg : NamedArg) :
    firsts (args ++ [arg]) =
      if ∃ x ∈ args, x.name = arg.name then firsts args else firsts args ++ [arg] := by
  induction args using firsts_induct with
  | nil => rw [List.nil_append, firsts_cons]; simp [firsts]
  | cons first args ih =>
    rw [List.cons_append, firsts_cons, firsts_cons, List.filter_append]
    by_cases hName : first.name = arg.name
    · simp [hName]
    · have hFilter : [arg].filter (fun x => x.name ≠ first.name) = [arg] := by
        simp [Ne.symm hName]
      have hOthers : (∃ x ∈ args.filter (fun x => x.name ≠ first.name), x.name = arg.name) ↔
          ∃ x ∈ first :: args, x.name = arg.name := by
        simp only [List.mem_filter, List.mem_cons, decide_eq_true_eq]
        constructor
        · rintro ⟨x, ⟨hx, -⟩, h⟩
          exact ⟨x, .inr hx, h⟩
        · rintro ⟨x, rfl | hx, h⟩
          · exact absurd h hName
          · exact ⟨x, ⟨hx, fun hFirst => hName (hFirst.symm.trans h)⟩, h⟩
      rw [hFilter, ih]
      simp only [hOthers]
      split
      · rfl
      · rfl

theorem find?_firsts (args : List NamedArg) (name : String) :
    (firsts args).find? (fun arg => arg.name = name) = args.find? fun arg => arg.name = name := by
  induction args using firsts_induct with
  | nil => rfl
  | cons first args ih =>
    rw [firsts_cons, List.find?_cons, List.find?_cons, ih, List.find?_filter]
    by_cases hName : first.name = name
    · simp [hName]
    · simp only [hName, decide_false]
      congr 1
      funext x
      by_cases hx : x.name = name
      · simp [hx, Ne.symm hName]
      · simp [hx]

theorem map_name_firsts (args : List NamedArg) :
    (firsts args).map (·.name) = (args.map (·.name)).eraseDups := by
  induction args using firsts_induct with
  | nil => rfl
  | cons first args ih =>
    have hFilter : (args.map (·.name)).filter (fun n => !n == first.name) =
        (args.filter fun x => x.name ≠ first.name).map (·.name) := by
      rw [List.filter_map]
      refine congrArg _ (List.filter_congr fun x _ => ?_)
      by_cases h : x.name = first.name
      · simp [h]
      · simp [h]
    rw [firsts_cons, List.map_cons, List.map_cons, ih, List.eraseDups_cons, hFilter]

/-! ## What the arguments tell -/

/-- The arguments hold the first argument of each name among those that were to be inserted, and
all ways to look at them tell so. -/
structure Records (a : RuntimeArgs) (attempts : List NamedArg) : Prop where
  args : a.args = firsts attempts
  get : ∀ name, a.get? name = (attempts.find? fun arg => arg.name = name).map (·.value)
  contains : ∀ name, a.contains name = true ↔ ∃ arg ∈ attempts, arg.name = name
  names : a.names = (attempts.map (·.name)).eraseDups
  size : a.size = (attempts.map (·.name)).eraseDups.length

theorem records_of_args {a : RuntimeArgs} {attempts : List NamedArg}
    (h : a.args = firsts attempts) : a.Records attempts := by
  have hGet : ∀ name,
      a.get? name = (attempts.find? fun arg => arg.name = name).map (·.value) := by
    intro name
    rw [get?, h, find?_firsts]
  have hNames : a.names = (attempts.map (·.name)).eraseDups := by
    rw [names, h, map_name_firsts]
  refine ⟨h, hGet, fun name => ?_, hNames, ?_⟩
  · rw [contains, hGet]
    simp
  · rw [← hNames, size, names, List.length_map]

/-! ## Steps -/

/-- An insertion, in one of the three ways. -/
inductive Insertion where
  | insert (name : String) (s : Shape) (x : s.Value)
  | insertValue (name : String) (value : CLValue)
  | insertIfSome (name : String) (s : Shape) (x : Option s.Value)

namespace Insertion

/-- The change that an insertion makes. -/
def change : Insertion → Change Unit
  | insert name s x => .insert name s x
  | insertValue name value => .insertValue name value
  | insertIfSome name s x => .insertIfSome name s x

/-- The argument that is to be inserted, if there is one. -/
def argument? : Insertion → Option NamedArg
  | insert name s x => some (.of name s x)
  | insertValue name value => some ⟨name, value⟩
  | insertIfSome name s x => x.map (.of name s)

/-- An insertion fails or appends its argument. -/
theorem run_change (step : Insertion) (a : RuntimeArgs) :
    step.change.run.run a =
      match step.argument? with
      | none => (.ok (), a)
      | some arg =>
        if a.contains arg.name then (.error ⟨arg.name⟩, a) else (.ok (), ⟨a.args ++ [arg]⟩) := by
  cases step with
  | insert name s x => exact Change.run_insertValue _ _ _
  | insertValue name value => exact Change.run_insertValue _ _ _
  | insertIfSome name s x =>
    cases x with
    | none => rfl
    | some x => exact Change.run_insertValue _ _ _

/-- The arguments that were to be inserted, in order. -/
def attempted (steps : List Insertion) : List NamedArg := steps.filterMap argument?

/-- The insertions one after the other, whether or not some of them fail, with the outcome of
each. -/
def run (steps : List Insertion) : StateM RuntimeArgs (List (Except DuplicateArgument Unit)) :=
  steps.mapM fun step => step.change.run

/-- The arguments after insertions into none. -/
def filled (steps : List Insertion) : RuntimeArgs := ((run steps).run empty).2

/-- The outcomes of insertions into none. -/
def outcomes (steps : List Insertion) : List (Except DuplicateArgument Unit) :=
  ((run steps).run empty).1

/-- What one insertion preserves. -/
theorem records_step {a : RuntimeArgs} {attempts : List NamedArg} (h : a.Records attempts)
    (step : Insertion) :
    Records (step.change.run.run a).2 (attempts ++ step.argument?.toList) := by
  rw [run_change]
  cases step.argument? with
  | none => simpa using h
  | some arg =>
    apply records_of_args
    rw [Option.toList_some, firsts_append_singleton]
    have hContains := h.contains arg.name
    by_cases hKnown : ∃ x ∈ attempts, x.name = arg.name
    · simp only [hContains.mpr hKnown, if_true, if_pos hKnown]
      exact h.args
    · simp only [mt hContains.mp hKnown, if_neg hKnown, h.args]
      simp

theorem run_cons (step : Insertion) (steps : List Insertion) (a : RuntimeArgs) :
    (run (step :: steps)).run a =
      ((step.change.run.run a).1 :: ((run steps).run (step.change.run.run a).2).1,
        ((run steps).run (step.change.run.run a).2).2) := by
  rw [run, List.mapM_cons]
  rfl

theorem run_append (before rest : List Insertion) (a : RuntimeArgs) :
    (run (before ++ rest)).run a =
      (((run before).run a).1 ++ ((run rest).run ((run before).run a).2).1,
        ((run rest).run ((run before).run a).2).2) := by
  induction before generalizing a with
  | nil => rfl
  | cons step before ih => rw [List.cons_append, run_cons, ih, run_cons, List.cons_append]

theorem length_run (steps : List Insertion) (a : RuntimeArgs) :
    ((run steps).run a).1.length = steps.length := by
  induction steps generalizing a with
  | nil => rfl
  | cons step steps ih => rw [run_cons, List.length_cons, ih, List.length_cons]

/-- What a run preserves. -/
theorem records_run {a : RuntimeArgs} {attempts : List NamedArg} (h : a.Records attempts)
    (steps : List Insertion) : Records ((run steps).run a).2 (attempts ++ attempted steps) := by
  induction steps generalizing a attempts with
  | nil =>
    rw [attempted, List.filterMap_nil, List.append_nil]
    exact h
  | cons step steps ih =>
    have hAttempted : attempted (step :: steps) = step.argument?.toList ++ attempted steps := by
      cases hStep : step.argument? with
      | none => simp [attempted, hStep]
      | some arg => simp [attempted, hStep]
    rw [run_cons, hAttempted, ← List.append_assoc]
    exact ih (records_step h step)

theorem records_filled (steps : List Insertion) : (filled steps).Records (attempted steps) := by
  have hEmpty : empty.Records [] := records_of_args rfl
  exact records_run hEmpty steps

theorem filled_append_singleton (before : List Insertion) (step : Insertion) :
    filled (before ++ [step]) = (step.change.run.run (filled before)).2 := by
  rw [filled, run_append, run_cons]
  rfl

theorem getElem?_outcomes (before : List Insertion) (step : Insertion) (rest : List Insertion) :
    (outcomes (before ++ step :: rest))[before.length]? =
      some (step.change.run.run (filled before)).1 := by
  rw [outcomes, run_append, run_cons, List.getElem?_append_right (Nat.le_of_eq (length_run ..)),
    length_run, Nat.sub_self]
  rfl

/-- The first insertion of each name is the one that counts, over all sequences of insertions into
no arguments. What is there are the first arguments of each name, and all that can be asked tells
so. An insertion fails, with its name, exactly if one before it had that name, and then changes
nothing, like one of no value. -/
theorem first_insertion_counts (steps : List Insertion) :
    (filled steps).Records (attempted steps) ∧ (outcomes steps).length = steps.length ∧
    ∀ before step rest, steps = before ++ step :: rest → ∃ outcome,
      (outcomes steps)[before.length]? = some outcome ∧
      (∀ e, outcome = .error e ↔ ∃ arg, step.argument? = some arg ∧
        (∃ earlier ∈ attempted before, earlier.name = arg.name) ∧ e = ⟨arg.name⟩) ∧
      (step.argument? = none ∨ outcome ≠ .ok () → filled (before ++ [step]) = filled before) := by
  refine ⟨records_filled steps, length_run steps empty, ?_⟩
  rintro before step rest rfl
  refine ⟨_, getElem?_outcomes before step rest, ?_⟩
  have hContains := (records_filled before).contains
  rw [filled_append_singleton, run_change]
  cases step.argument? with
  | none => simp
  | some arg =>
    simp only [← hContains, Option.some.injEq, exists_eq_left']
    cases (filled before).contains arg.name with
    | true => simp [eq_comm]
    | false => simp

example : (filled [.insert "b" .u8 1, .insertValue "a" ⟨.u8, [2]⟩,
    .insertIfSome "skipped" .bool none,
    .insert "b" .bool true, .insertIfSome "c" .bool (some false)]).names = ["b", "a", "c"] := rfl

end Insertion

end Mintage.RuntimeArgs
