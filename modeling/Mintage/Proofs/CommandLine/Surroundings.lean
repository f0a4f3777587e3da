import Mintage.CommandLine.Run
import Mintage.Proofs.Dialogue
import Mintage.Proofs.Node.Lookups

/-!
# Proofs: what surrounds a run

A run reads files, environment variables and the clock, which stand still, and asks nodes, which may
change with each request. Each step that does not ask a node has one outcome, whatever the state of
the nodes is, and leaves that state alone; this is said once for each of them, so that runs of whole
commands are put together from what their steps come to.

A step is quiet if it submits nothing, whatever the answers are. All steps are, up to the one that
submits.
-/

namespace Mintage.CommandLine

variable {σ α β : Type}

/-! ## Quiet steps -/

/-- The deploy that is submitted with a question, and the address of the node. -/
def Question.submitted? : Question → Option (String × SignedDeploy)
  | .node address (.submit d) => some (address, d)
  | _ => none

/-- A step that submits nothing. -/
structure Action.IsQuiet (a : Action α) : Prop where
  within : a.run.Within fun q => q.submitted? = none

namespace Action

theorem isQuiet_pure (x : α) : (pure x : Action α).IsQuiet := ⟨trivial⟩

theorem isQuiet_throw (e : CommandError) : (throw e : Action α).IsQuiet := ⟨trivial⟩

theorem isQuiet_ofExcept {ε : Type} (wrap : ε → CommandError) (e : Except ε α) :
    (ofExcept wrap e).IsQuiet := ⟨trivial⟩

theorem isQuiet_question {q : Question} (h : q.submitted? = none) : (question q).IsQuiet :=
  ⟨h, fun _ => trivial⟩

theorem IsQuiet.bind {a : Action α} {f : α → Action β} (h : a.IsQuiet)
    (hf : ∀ x, (f x).IsQuiet) : (a >>= f).IsQuiet := by
  refine ⟨h.within.bind fun result => ?_⟩
  cases result with
  | ok x => exact (hf x).within
  | error e => trivial

/-- Queries stay queries when they are asked of the node at an address. -/
theorem within_askNode {d : NodeDialogue α} (h : d.Within NodeRequest.IsQuery) (address : String) :
    (Dialogue.run (askNode address) d).Within fun q => q.submitted? = none := by
  induction d with
  | done result => trivial
  | ask q next ih =>
    refine ⟨?_, fun answer => ih answer (h.2 answer)⟩
    cases q with
    | submit d => exact h.1.elim
    | namedValue contract path => rfl
    | dictionaryItem contract dictionary itemKey => rfl

/-- Reads of clients are quiet. -/
theorem isQuiet_ofNode {a : NodeAction α} (h : a.IsRead) (address : String) :
    (ofNode address a).IsQuiet := ⟨(within_askNode h.within address).bind fun _ => trivial⟩

end Action

open CommandLine.Action

theorem isQuiet_loadConfig (i : Invocation) : (loadConfig i).IsQuiet := by
  rw [loadConfig]
  cases i.config with
  | some path => exact (isQuiet_question rfl).bind fun file => isQuiet_ofExcept _ _
  | none =>
    cases i.network.apiKeyVariable? with
    | none => exact (isQuiet_pure _).bind fun apiKey => isQuiet_ofExcept _ _
    | some name =>
      refine (isQuiet_question rfl).bind fun apiKey? => ?_
      split
      · exact (isQuiet_pure _).bind fun apiKey => isQuiet_ofExcept _ _
      · exact (isQuiet_throw _).bind fun apiKey => isQuiet_ofExcept _ _

theorem isQuiet_loadKey (i : Invocation) : (loadKey i).IsQuiet := by
  rw [loadKey]
  cases i.key with
  | none => exact isQuiet_throw _
  | some path => exact (isQuiet_question rfl).bind fun file => isQuiet_ofExcept _ _

theorem isQuiet_loadJson [FromJson α] (path : String) : (loadJson path : Action α).IsQuiet :=
  (isQuiet_question rfl).bind fun _ => (isQuiet_ofExcept _ _).bind fun _ => isQuiet_ofExcept _ _

theorem isQuiet_loadWasm (path : String) : (loadWasm path).IsQuiet :=
  (isQuiet_question rfl).bind fun _ => isQuiet_ofExcept _ _

theorem isQuiet_build (write : Timestamp → Except ClientError SignedDeploy)
    (warnings : List Warning) : (build write warnings).IsQuiet :=
  (isQuiet_question rfl).bind fun _ => (isQuiet_ofExcept _ _).bind fun _ => isQuiet_pure _

/-! ## Surroundings -/

/-- What surrounds a run. -/
structure Surroundings (σ : Type) where
  file : String → File
  environment : String → Option String
  time : Timestamp
  /-- The node at an address. -/
  node : String → Gateway σ

namespace Surroundings

variable {w : Surroundings σ} {s s' : σ}

/-- How a question is answered. -/
def answer (w : Surroundings σ) : (q : Question) → StateM σ q.Answer
  | .file path => pure (w.file path)
  | .environment name => pure (w.environment name)
  | .time => pure w.time
  | .node address request => w.node address request

/-- What is submitted in a session, in order. -/
def submissions (w : Surroundings σ) (session : Session α) (s : σ) : List (String × SignedDeploy) :=
  (session.questions w.answer s).filterMap Question.submitted?

/-- The outcome of a part of a run, and the state of the nodes behind it. -/
def hold (w : Surroundings σ) (a : Action α) (s : σ) : Except CommandError α × σ :=
  Dialogue.run w.answer a.run s

/-! ## Steps one after the other -/

variable {a : Action α} {f : α → Action β}

theorem hold_bind_eq_ok_iff {y : β} {s'' : σ} : w.hold (a >>= f) s = (.ok y, s'') ↔
    ∃ x s', w.hold a s = (.ok x, s') ∧ w.hold (f x) s' = (.ok y, s'') :=
  Dialogue.run_step_eq_ok_iff

theorem hold_bind_of_ok {x : α} (h : w.hold a s = (.ok x, s')) :
    w.hold (a >>= f) s = w.hold (f x) s' := Dialogue.run_step_of_ok h

theorem hold_bind_of_error {e : CommandError} (h : w.hold a s = (.error e, s')) :
    w.hold (a >>= f) s = (.error e, s') := Dialogue.run_step_of_error h

theorem submissions_bind_of_ok {x : α} (h : w.hold a s = (.ok x, s')) :
    w.submissions (a >>= f).run s = w.submissions a.run s ++ w.submissions (f x).run s' := by
  rw [submissions, Dialogue.questions_step_of_ok h, List.filterMap_append]
  rfl

theorem submissions_bind_of_error {e : CommandError} (h : w.hold a s = (.error e, s')) :
    w.submissions (a >>= f).run s = w.submissions a.run s := by
  rw [submissions, Dialogue.questions_step_of_error h]
  rfl

theorem submissions_of_within {session : Session α}
    (h : session.Within fun q => q.submitted? = none) : w.submissions session s = [] := by
  induction session generalizing s with
  | done a => rfl
  | ask q next ih =>
    rw [submissions, Dialogue.questions, List.filterMap_cons, h.1]
    exact ih _ (h.2 _)

theorem submissions_of_isQuiet (h : a.IsQuiet) : w.submissions a.run s = [] :=
  submissions_of_within h.within

/-! ## Single steps -/

theorem hold_pure (x : α) : w.hold (pure x) s = (.ok x, s) := rfl

theorem hold_throw (e : CommandError) : w.hold (throw e : Action α) s = (.error e, s) := rfl

theorem hold_ofExcept {ε : Type} (wrap : ε → CommandError) (e : Except ε α) :
    w.hold (.ofExcept wrap e) s = (e.mapError wrap, s) := rfl

/-- A dialogue with the node at an address is answered by that node. -/
theorem run_askNode (address : String) (d : NodeDialogue α) (s : σ) :
    Dialogue.run w.answer (Dialogue.run (Action.askNode address) d) s =
      Dialogue.run (w.node address) d s := by
  induction d generalizing s with
  | done result => rfl
  | ask q next ih => exact ih _ _

theorem hold_ofNode (address : String) (a : NodeAction α) : w.hold (.ofNode address a) s =
    ((Dialogue.run (w.node address) a.run s).1.mapError .client,
      (Dialogue.run (w.node address) a.run s).2) := by
  rw [← run_askNode address a.run s]
  exact Dialogue.run_bind_state _ _ s

/-- An action that asks nothing succeeds with what it is made of. -/
theorem hold_ofExcept_eq_ok_iff {ε : Type} {wrap : ε → CommandError} {e : Except ε α} {x : α} :
    w.hold (.ofExcept wrap e) s = (.ok x, s') ↔ e = .ok x ∧ s' = s := by
  rw [hold_ofExcept, Prod.mk.injEq, Outcome.mapError_eq_ok_iff, eq_comm (a := s)]

theorem hold_file (path : String) :
    w.hold (.question (.file path)) s = (.ok (w.file path), s) := rfl

theorem hold_environment (name : String) :
    w.hold (.question (.environment name)) s = (.ok (w.environment name), s) := rfl

theorem hold_time : w.hold (.question .time) s = (.ok w.time, s) := rfl

/-! ## Files -/

/-- The JSON in a file is the form of a value. -/
def Reads [FromJson α] (w : Surroundings σ) (path : String) (x : α) : Prop :=
  ∃ bytes, w.file path = .ok bytes ∧ Json.readBytes FromJson.readJson bytes = .ok x

/-- The key file that is given holds a key. -/
def Unlocks (w : Surroundings σ) (i : Invocation) (key : SecretKey) : Prop :=
  ∃ path, i.key = some path ∧ SecretKey.ofPemFile (w.file path) = .ok key

/-- A run has a configuration: that of the file that is given, or else what is known of the network
with the key of its node. -/
def Configures (w : Surroundings σ) (i : Invocation) (c : NetworkConfig) : Prop :=
  match i.config, i.network.apiKeyVariable? with
  | some path, _ => NetworkConfig.ofFile (w.file path) = .ok c
  | none, none => NetworkConfig.forNetwork i.network none = .ok c
  | none, some name => ∃ apiKey, w.environment name = some apiKey ∧
      NetworkConfig.forNetwork i.network (some apiKey) = .ok c

theorem hold_loadJson_eq_ok_iff [FromJson α] {path : String} {x : α} :
    w.hold (loadJson path) s = (.ok x, s') ↔ w.Reads path x ∧ s' = s := by
  rw [loadJson, hold_bind_of_ok (hold_file path)]
  simp only [hold_bind_eq_ok_iff, hold_ofExcept_eq_ok_iff]
  constructor
  · rintro ⟨bytes, _, ⟨hFile, rfl⟩, hRead, rfl⟩
    exact ⟨⟨bytes, hFile, hRead⟩, rfl⟩
  · rintro ⟨⟨bytes, hFile, hRead⟩, rfl⟩
    exact ⟨bytes, _, ⟨hFile, rfl⟩, hRead, rfl⟩

theorem hold_loadWasm_eq_ok_iff {path : String} {code : Bytes} :
    w.hold (loadWasm path) s = (.ok code, s') ↔ w.file path = .ok code ∧ s' = s := by
  rw [loadWasm, hold_bind_of_ok (hold_file path)]
  exact hold_ofExcept_eq_ok_iff

theorem hold_loadKey_eq_ok_iff {i : Invocation} {key : SecretKey} :
    w.hold (loadKey i) s = (.ok key, s') ↔ w.Unlocks i key ∧ s' = s := by
  rw [loadKey, Unlocks]
  cases i.key with
  | none => simp [hold_throw]
  | some path =>
    rw [hold_bind_of_ok (hold_file path), hold_ofExcept_eq_ok_iff]
    simp

theorem hold_loadConfig_eq_ok_iff {i : Invocation} {c : NetworkConfig} :
    w.hold (loadConfig i) s = (.ok c, s') ↔ w.Configures i c ∧ s' = s := by
  rw [loadConfig, Configures]
  cases i.config with
  | some path =>
    dsimp only
    rw [hold_bind_of_ok (hold_file path), hold_ofExcept_eq_ok_iff]
  | none =>
    cases i.network.apiKeyVariable? with
    | none =>
      dsimp only
      rw [hold_bind_of_ok (hold_pure _), hold_ofExcept_eq_ok_iff]
    | some name =>
      dsimp only
      rw [hold_bind_of_ok (hold_environment name)]
      cases w.environment name with
      | none =>
        dsimp only
        rw [hold_bind_of_error (hold_throw _)]
        simp
      | some apiKey =>
        dsimp only
        rw [hold_bind_of_ok (hold_pure _), hold_ofExcept_eq_ok_iff]
        simp

/-! ## Deploys -/

/-- A deploy is built at the time that the clock shows. -/
theorem hold_build_eq_ok_iff {write : Timestamp → Except ClientError SignedDeploy}
    {warnings : List Warning} {o : Outcome} : w.hold (build write warnings) s = (.ok o, s') ↔
      ∃ d, write w.time = .ok d ∧ o = .deploy d warnings ∧ s' = s := by
  rw [build, hold_bind_of_ok hold_time]
  simp only [hold_bind_eq_ok_iff, hold_ofExcept_eq_ok_iff, hold_pure]
  constructor
  · rintro ⟨d, _, ⟨hBuilt, rfl⟩, hOutcome⟩
    cases hOutcome
    exact ⟨d, hBuilt, rfl, rfl⟩
  · rintro ⟨d, hBuilt, rfl, rfl⟩
    exact ⟨d, _, ⟨hBuilt, rfl⟩, rfl⟩

end Surroundings

end Mintage.CommandLine
