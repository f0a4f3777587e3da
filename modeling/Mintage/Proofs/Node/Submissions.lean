import Mintage.Proofs.Node.Run
import Mintage.Proofs.Signing

/-!
# Proofs: the deploys that a node in memory records

The deploys that a node has recorded after a run are those whose submission succeeded in it, in
their order, each as often as it was submitted. A submission succeeds exactly if the node is
available and the deploy is verified, and one that fails leaves the node as it was. Clients add
nothing of their own to a submission but the error that they wrap; without a signer they do not ask
the node at all.
-/

namespace Mintage

theorem Exchange.taken?_eq_some_iff {e : Exchange} {d : SignedDeploy} :
    e.taken? = some d ↔ ∃ hash, e = ⟨.submit d, .ok hash⟩ := by
  obtain ⟨request, answer⟩ := e
  cases request with
  | submit d' =>
    cases answer with
    | ok hash => simp [taken?, eq_comm]
    | error e => simp [taken?]
  | namedValue contract path => simp [taken?]
  | dictionaryItem contract dictionary itemKey => simp [taken?]

namespace MemoryNode

variable {α : Type} {n : MemoryNode} {d : SignedDeploy}

/-! ## A submission -/

theorem answer_submit_of_unavailable (h : n.isUnavailable = true) :
    answer (.submit d) n = (.error switchedOff, n) := by
  simp [answer, submit, h]

theorem answer_submit_of_verify (hAvailable : n.isUnavailable = false) (h : d.verify = .ok ()) :
    answer (.submit d) n = (.ok d.hash, { n with submitted := n.submitted ++ [d] }) := by
  simp [answer, submit, hAvailable, h]

theorem answer_submit_of_verify_error {cause : DeployError} (hAvailable : n.isUnavailable = false)
    (h : d.verify = .error cause) : answer (.submit d) n =
      (.error (.reported NodeError.invalidDeployCode ("invalid deploy: " ++ cause.message) none),
        n) := by
  simp [answer, submit, hAvailable, h]

/-- A deploy is taken by an available node that verifies it, under its own hash. -/
theorem answer_submit_eq_ok_iff {hash : Digest} : (answer (.submit d) n).1 = .ok hash ↔
    n.isUnavailable = false ∧ d.verify = .ok () ∧ hash = d.hash := by
  cases hSwitch : n.isUnavailable with
  | true => simp [answer_submit_of_unavailable hSwitch]
  | false =>
    cases hVerify : d.verify with
    | ok u => simp [answer_submit_of_verify hSwitch hVerify, eq_comm]
    | error cause => simp [answer_submit_of_verify_error hSwitch hVerify]

/-- A deploy is refused by a node that is not available, or that does not verify it. -/
theorem answer_submit_eq_error_iff {e : NodeError} : (answer (.submit d) n).1 = .error e ↔
    n.isUnavailable = true ∧ e = switchedOff ∨
    n.isUnavailable = false ∧ ∃ cause, d.verify = .error cause ∧
      e = .reported NodeError.invalidDeployCode ("invalid deploy: " ++ cause.message) none := by
  cases hSwitch : n.isUnavailable with
  | true => simp [answer_submit_of_unavailable hSwitch, eq_comm]
  | false =>
    cases hVerify : d.verify with
    | ok u => simp [answer_submit_of_verify hSwitch hVerify]
    | error cause => simp [answer_submit_of_verify_error hSwitch hVerify, eq_comm]

/-- A submission that fails leaves the node as it was. -/
theorem node_of_answer_submit_error {e : NodeError} (h : (answer (.submit d) n).1 = .error e) :
    (answer (.submit d) n).2 = n := by
  rw [answer_node, h]
  simp [Exchange.taken?]

/-! ## Runs -/

theorem submitted_step (n : MemoryNode) (op : NodeOperation) :
    (n.step op).submitted = n.submitted ++ (n.stepExchanges op).filterMap Exchange.taken? := by
  cases op with
  | converse dialogue => rw [step, hold_node, stepExchanges]
  | _ => exact (List.append_nil _).symm

theorem submitted_run (n : MemoryNode) (ops : List NodeOperation) :
    (n.run ops).submitted = n.submitted ++ (n.record ops).filterMap Exchange.taken? := by
  induction ops generalizing n with
  | nil => exact (List.append_nil _).symm
  | cons op ops ih =>
    rw [run, ih, submitted_step, record, List.filterMap_append, List.append_assoc]

/-- What is recorded of a dialogue are answers of the node. -/
theorem answer_of_mem_exchanges {e : Exchange} {dialogue : NodeDialogue α}
    (h : e ∈ n.exchanges dialogue) : ∃ m : MemoryNode, e.answer = (answer e.request m).1 := by
  induction dialogue generalizing n with
  | done a => simp [exchanges] at h
  | ask q next ih =>
    rcases List.mem_cons.mp h with rfl | h
    · exact ⟨n, rfl⟩
    · exact ih _ h

theorem answer_of_mem_record {e : Exchange} {ops : List NodeOperation} (h : e ∈ n.record ops) :
    ∃ m : MemoryNode, e.answer = (answer e.request m).1 := by
  induction ops generalizing n with
  | nil => simp [record] at h
  | cons op ops ih =>
    rcases List.mem_append.mp h with h | h
    · cases op with
      | converse dialogue => exact answer_of_mem_exchanges h
      | _ => simp [stepExchanges] at h
    · exact ih h

theorem verify_of_mem_submitted {ops : List NodeOperation} (h : d ∈ (run {} ops).submitted) :
    d.verify = .ok () := by
  rw [submitted_run, List.nil_append] at h
  obtain ⟨e, hRecord, hTaken⟩ := List.mem_filterMap.mp h
  obtain ⟨hash, rfl⟩ := Exchange.taken?_eq_some_iff.mp hTaken
  obtain ⟨m, hAnswer⟩ := answer_of_mem_record hRecord
  exact (answer_submit_eq_ok_iff.mp hAnswer.symm).2.1

/-! ## Clients -/

/-- A client wraps the error of the node, and nothing else. -/
theorem hold_submit (n : MemoryNode) (d : SignedDeploy) :
    n.hold (ContractClient.submit d).run =
      ((answer (.submit d) n).1.mapError .network, (answer (.submit d) n).2) := rfl

theorem exchanges_submit (n : MemoryNode) (d : SignedDeploy) :
    n.exchanges (ContractClient.submit d).run = [⟨.submit d, (answer (.submit d) n).1⟩] := rfl

/-- After whatever has happened to a node, it has recorded the deploys whose submission succeeded,
in their order and as often as they were submitted, and all of them are verified. A submission
succeeds with the hash of the deploy if the node is available and verifies it, and fails for one of
the two otherwise; then the node is left as it was. A client that submits a deploy asks nothing else
and gets no other answer; one that also signs it submits it with all approvals, but without a signer
asks nothing. -/
theorem records_what_was_taken :
    (∀ (n : MemoryNode) (ops : List NodeOperation),
      (n.run ops).submitted = n.submitted ++ (n.record ops).filterMap Exchange.taken?) ∧
    (∀ (ops : List NodeOperation), ∀ d ∈ (run {} ops).submitted, d.verify = .ok ()) ∧
    (∀ (n : MemoryNode) (d : SignedDeploy) (hash : Digest),
      (answer (.submit d) n).1 = .ok hash ↔
        n.isUnavailable = false ∧ d.verify = .ok () ∧ hash = d.hash) ∧
    (∀ (n : MemoryNode) (d : SignedDeploy) (e : NodeError),
      (answer (.submit d) n).1 = .error e ↔
        n.isUnavailable = true ∧ e = switchedOff ∨
        n.isUnavailable = false ∧ ∃ cause, d.verify = .error cause ∧
          e = .reported NodeError.invalidDeployCode ("invalid deploy: " ++ cause.message) none) ∧
    (∀ (n : MemoryNode) (d : SignedDeploy) (e : NodeError),
      (answer (.submit d) n).1 = .error e → (answer (.submit d) n).2 = n) ∧
    (∀ (n : MemoryNode) (d : SignedDeploy),
      n.exchanges (ContractClient.submit d).run = [⟨.submit d, (answer (.submit d) n).1⟩] ∧
      n.hold (ContractClient.submit d).run =
        ((answer (.submit d) n).1.mapError .network, (answer (.submit d) n).2)) ∧
    (∀ (d : Deploy) (first : Signer) (others : List Signer),
      ContractClient.signAndSubmit d (first :: others) =
        ContractClient.submit (d.signedBy (first :: others))) ∧
    ∀ (n : MemoryNode) (d : Deploy),
      n.exchanges (ContractClient.signAndSubmit d []).run = [] ∧
      n.hold (ContractClient.signAndSubmit d []).run = (.error (.sign .missingSignature), n) := by
  refine ⟨submitted_run, ?_, ?_, ?_, ?_, ?_, ?_, ?_⟩
  · intro ops d hSubmitted
    exact verify_of_mem_submitted hSubmitted
  · intro n d hash
    exact answer_submit_eq_ok_iff
  · intro n d e
    exact answer_submit_eq_error_iff
  · intro n d e hError
    exact node_of_answer_submit_error hError
  · intro n d
    exact ⟨exchanges_submit n d, hold_submit n d⟩
  · intro d first others
    rw [ContractClient.signAndSubmit, Deploy.sign_cons]
  · intro n d
    exact ⟨rfl, rfl⟩

end MemoryNode

end Mintage
