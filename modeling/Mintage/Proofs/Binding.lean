import Mintage.Proofs.Dialogue
import Mintage.Proofs.Node.Lookups
import Mintage.Proofs.Writes

/-!
# Proofs: clients stay with their contract

What is done with a client is a sequence of steps: it is bound, calls entry points and reads. Each
step is held with a gateway, which may change with each request. A step leaves a client that is
bound as it is, also if it fails, and one that is not is bound by the first step that asks for it.
So the contract of a client can be told from what it was made with and the steps, whatever the
gateway answers, and it is the contract of each call and each request behind it.
-/

namespace Mintage.ContractClient

/-! ## Steps -/

/-- What a client is asked to read. -/
inductive Query : Type → Type 1 where
  | namedValue {α : Type} (path : List String) (decode : CLValue → Except CLValue.Error α) : Query α
  | item {α : Type} (dictionary itemKey : String) (decode : CLValue → Except CLValue.Error α) :
      Query (Lookup α)
  | itemOf {α : Type} (dictionary : String) (i : Identity)
      (decode : CLValue → Except CLValue.Error α) : Query (Lookup α)

namespace Query

variable {α : Type}

/-- How a client reads. -/
def action (c : ContractClient) : {α : Type} → Query α → NodeAction α
  | _, namedValue path decode => c.queryNamedValue path decode
  | _, item dictionary itemKey decode => c.queryItem dictionary itemKey decode
  | _, itemOf dictionary i decode => c.queryDictionary dictionary i decode

/-- What a gateway is asked about a contract. -/
def request (contract : Identity) : {α : Type} → Query α → NodeRequest
  | _, namedValue path _ => .namedValue contract path
  | _, item dictionary itemKey _ => .dictionaryItem contract dictionary itemKey
  | _, itemOf dictionary i _ => .dictionaryItem contract dictionary i.itemKey

end Query

/-- What is done with a client. -/
inductive Step : Type 1 where
  | bind (requested : ContractAddress)
  | call (now : Timestamp) (entryPoint : String) (args : RuntimeArgs) (payment : U512)
      (signers : List Signer)
  | read {α : Type} (q : Query α)

namespace Step

/-- What comes of a step. -/
abbrev Result : Step → Type
  | bind _ => Except ClientError Unit
  | call .. => Except ClientError SignedDeploy
  | @read α _ => Except ClientError α

/-- The contract that a client is asked to be bound to. -/
def requested? : Step → Option ContractAddress
  | bind requested => some requested
  | call .. | read _ => none

/-- The dialogue of a step, which ends with the result and the client behind it. -/
def dialogue (c : ContractClient) : (step : Step) → NodeDialogue (step.Result × ContractClient)
  | bind requested => .done ((Change.bindTo requested).run.run c)
  | call now entryPoint args payment signers =>
    .done (c.callEntryPoint now entryPoint args payment signers, c)
  | read q => do return (← (q.action c).run, c)

end Step

/-- A step that was held with a gateway. -/
structure Held (σ : Type) (step : Step) where
  result : step.Result
  client : ContractClient
  gateway : σ
  asked : List NodeRequest

variable {σ α : Type} (g : Gateway σ) (c : ContractClient) (s : σ)

/-- Holds a step. -/
def Step.hold (step : Step) : Held σ step where
  result := (Dialogue.run g (step.dialogue c) s).1.1
  client := (Dialogue.run g (step.dialogue c) s).1.2
  gateway := (Dialogue.run g (step.dialogue c) s).2
  asked := (step.dialogue c).questions g s

/-- What has become of a client and a gateway after steps. -/
def after : List Step → ContractClient → σ → ContractClient × σ
  | [], c, s => (c, s)
  | step :: steps, c, s => after steps (step.hold g c s).client (step.hold g c s).gateway

/-- The contract that a client is made with, or else the first one that it is asked to be bound
to. -/
def settled (steps : List Step) : Option ContractAddress :=
  c.bound.or (steps.findSome? Step.requested?)

/-! ## One step -/

section Hold

variable {c}

theorem hold_bind_of_none (h : c.bound = none) (requested : ContractAddress) :
    (Step.bind requested).hold g c s = ⟨.ok (), { c with bound := some requested }, s, []⟩ := by
  obtain ⟨assembler, bound?⟩ := c
  cases h
  rfl

/-- A client that is bound stays as it is, whether or not it is bound to what is asked for. -/
theorem hold_bind_of_some {bound : ContractAddress} (h : c.bound = some bound)
    (requested : ContractAddress) : (Step.bind requested).hold g c s =
      ⟨if bound = requested then .ok () else .error (.alreadyBound bound requested), c, s, []⟩ := by
  obtain ⟨assembler, bound?⟩ := c
  cases h
  have hHold : (Step.bind requested).hold g ⟨assembler, some bound⟩ s =
      let run := (if bound ≠ requested then throw (.alreadyBound bound requested)
        else pure () : Change Unit).run.run ⟨assembler, some bound⟩
      ⟨run.1, run.2, s, []⟩ := rfl
  rw [hHold]
  by_cases hSame : bound = requested
  · rw [if_neg (not_not_intro hSame), if_pos hSame]
    rfl
  · rw [if_pos hSame, if_neg hSame]
    rfl

theorem hold_call_of_none (h : c.bound = none) (now : Timestamp) (entryPoint : String)
    (args : RuntimeArgs) (payment : U512) (signers : List Signer) :
    (Step.call now entryPoint args payment signers).hold g c s =
      ⟨.error .unbound, c, s, []⟩ := by
  have hItem : c.item? (.call entryPoint args) = none := by
    rw [item?, h]
    rfl
  have hCall := build_of_none hItem now payment signers
  rw [build] at hCall
  rw [Step.hold, Step.dialogue, hCall]
  rfl

theorem hold_call_of_some {contract : ContractAddress} (h : c.bound = some contract)
    (now : Timestamp) (entryPoint : String) (args : RuntimeArgs) (payment : U512)
    (signers : List Signer) : (Step.call now entryPoint args payment signers).hold g c s =
      ⟨c.signed now (.storedContract contract.contractHash.hash entryPoint args) payment signers,
        c, s, []⟩ := by
  have hItem : c.item? (.call entryPoint args) =
      some (.storedContract contract.contractHash.hash entryPoint args) := by
    rw [item?, h]
    rfl
  have hCall := build_eq_signed hItem now payment signers
  rw [build] at hCall
  rw [Step.hold, Step.dialogue, hCall]
  rfl

theorem hold_read_of_none (h : c.bound = none) (q : Query α) :
    (Step.read q).hold g c s = ⟨.error .unbound, c, s, []⟩ := by
  have hAddress : c.address = .error .unbound := by rw [address, h]
  have hAction : (q.action c).run = .done (.error .unbound) := by
    cases q with
    | namedValue path decode =>
      rw [Query.action, queryNamedValue, hAddress]
      rfl
    | item dictionary itemKey decode =>
      rw [Query.action, queryItem, hAddress]
      rfl
    | itemOf dictionary i decode =>
      rw [Query.action, queryDictionary, queryItem, hAddress]
      rfl
  rw [Step.hold, Step.dialogue, hAction]
  rfl

/-- A client that is bound reads by a single request, which is about its contract. -/
theorem exists_action_eq {contract : ContractAddress} (h : c.bound = some contract)
    (q : Query α) :
    ∃ outcome : (q.request contract.contractHash).Answer → Except ClientError α,
      (q.action c).run =
        .ask (q.request contract.contractHash) fun answer => .done (outcome answer) := by
  have hAddress : c.address = .ok contract := by rw [address, h]
  cases q with
  | namedValue path decode =>
    rw [Query.action, queryNamedValue, hAddress]
    exact ⟨_, rfl⟩
  | item dictionary itemKey decode =>
    rw [Query.action, queryItem, hAddress]
    exact ⟨_, rfl⟩
  | itemOf dictionary i decode =>
    rw [Query.action, queryDictionary, queryItem, hAddress]
    exact ⟨_, rfl⟩

theorem hold_read_of_some {contract : ContractAddress} (h : c.bound = some contract)
    (q : Query α) : ∃ result, (Step.read q).hold g c s =
      ⟨result, c, (g (q.request contract.contractHash) s).2,
        [q.request contract.contractHash]⟩ := by
  obtain ⟨outcome, hAction⟩ := exists_action_eq h q
  rw [Step.hold, Step.dialogue, hAction]
  exact ⟨_, rfl⟩

/-- No step but to be bound for the first time changes a client. -/
theorem client_hold (step : Step) :
    (step.hold g c s).client = { c with bound := c.bound.or step.requested? } := by
  cases hBound : c.bound with
  | none =>
    have hSame : { c with bound := none } = c := by rw [← hBound]
    cases step with
    | bind requested =>
      rw [hold_bind_of_none g s hBound]
      rfl
    | call now entryPoint args payment signers =>
      rw [hold_call_of_none g s hBound]
      exact hSame.symm
    | read q =>
      rw [hold_read_of_none g s hBound]
      exact hSame.symm
  | some contract =>
    have hSame : { c with bound := some contract } = c := by rw [← hBound]
    rw [Option.some_or, hSame]
    cases step with
    | bind requested => rw [hold_bind_of_some g s hBound]
    | call now entryPoint args payment signers => rw [hold_call_of_some g s hBound]
    | read q =>
      obtain ⟨result, hHeld⟩ := hold_read_of_some g s hBound q
      rw [hHeld]

end Hold

/-! ## Sequences of steps -/

/-- The contract of a client after steps is settled by what it was made with and the steps. The
gateway has no part in it. -/
theorem client_after (steps : List Step) :
    (after g steps c s).1 = { c with bound := settled c steps } := by
  induction steps generalizing c s with
  | nil => rw [after, settled, List.findSome?_nil, Option.or_none]
  | cons step steps ih =>
    rw [after, ih, client_hold, settled, settled, Option.or_assoc, List.findSome?_cons]
    cases step.requested? with
    | none => rfl
    | some requested => rfl

theorem address_eq_ok_iff {contract : ContractAddress} :
    c.address = .ok contract ↔ c.bound = some contract := by
  rw [address]
  cases c.bound with
  | none => simp
  | some bound => simp

theorem settled_append {steps : List Step} {contract : ContractAddress}
    (h : settled c steps = some contract) (later : List Step) :
    settled c (steps ++ later) = some contract := by
  rw [settled, List.findSome?_append, ← Option.or_assoc, ← settled, h, Option.some_or]

theorem settled_bind_of_none {steps : List Step} (h : settled c steps = none)
    (requested : ContractAddress) (later : List Step) :
    settled c (steps ++ .bind requested :: later) = some requested := by
  rw [settled, List.findSome?_append, ← Option.or_assoc, ← settled, h, Option.none_or]
  rfl

/-- A client stays with its contract, whatever its gateway answers: the one it was made with, or
else the first one that it is asked to be bound to. Let some steps have been taken.

- To be bound succeeds exactly if that contract is asked for. Otherwise the error names it and what
  was asked for, and the client and the gateway are left as they are.
- To call an entry point asks the gateway nothing. It fails as long as there is no contract, and
  then only without signers; the session of the deploy calls the contract.
- To read fails without any request as long as there is no contract, and then asks for one thing of
  the contract. -/
theorem stays_with_its_contract {σ : Type} (g : Gateway σ) (c : ContractClient) (s : σ)
    (steps : List Step) :
    let reached := after g steps c s
    reached.1 = { c with bound := settled c steps } ∧
    (∀ contract, reached.1.address = .ok contract ↔ settled c steps = some contract) ∧
    (∀ contract later, settled c steps = some contract →
      settled c (steps ++ later) = some contract) ∧
    (∀ requested later,
      let held := (Step.bind requested).hold g reached.1 reached.2
      let contract := settled c (steps ++ .bind requested :: later)
      (held.result = .ok () ↔ contract = some requested) ∧
      (contract ≠ some requested → held.client = reached.1 ∧
        ∃ bound, contract = some bound ∧ held.result = .error (.alreadyBound bound requested)) ∧
      held.gateway = reached.2 ∧ held.asked = []) ∧
    (∀ now entryPoint args payment signers,
      let held := (Step.call now entryPoint args payment signers).hold g reached.1 reached.2
      held.client = reached.1 ∧ held.gateway = reached.2 ∧ held.asked = [] ∧
      (settled c steps = none → held.result = .error .unbound) ∧
      ∀ contract, settled c steps = some contract →
        (signers = [] → held.result = .error (.sign .missingSignature)) ∧
        (signers ≠ [] → ∃ d, held.result = .ok d ∧
          d.session = .storedContract contract.contractHash.hash entryPoint args)) ∧
    ∀ (α : Type) (q : Query α),
      let held := (Step.read q).hold g reached.1 reached.2
      held.client = reached.1 ∧
      (settled c steps = none → held.result = .error .unbound ∧ held.gateway = reached.2 ∧
        held.asked = []) ∧
      ∀ contract, settled c steps = some contract →
        held.asked = [q.request contract.contractHash] ∧
        held.gateway = (g (q.request contract.contractHash) reached.2).2 := by
  intro reached
  have hClient : reached.1 = { c with bound := settled c steps } := client_after g c s steps
  have hBound : reached.1.bound = settled c steps := congrArg bound hClient
  refine ⟨hClient, ?_, fun contract later h => settled_append c h later, ?_, ?_, ?_⟩
  · intro contract
    rw [address_eq_ok_iff, hBound]
  · intro requested later held contract
    cases hSettled : settled c steps with
    | none =>
      have hContract : contract = some requested := settled_bind_of_none c hSettled requested later
      have hHeld : held = _ := hold_bind_of_none g reached.2 (hBound.trans hSettled) requested
      rw [hHeld]
      exact ⟨iff_of_true rfl hContract, fun hOther => absurd hContract hOther, rfl, rfl⟩
    | some bound =>
      have hContract : contract = some bound := settled_append c hSettled _
      have hHeld : held = _ := hold_bind_of_some g reached.2 (hBound.trans hSettled) requested
      rw [hHeld, hContract]
      by_cases hSame : bound = requested
      · rw [if_pos hSame, hSame]
        exact ⟨iff_of_true rfl rfl, fun hOther => absurd rfl hOther, rfl, rfl⟩
      · rw [if_neg hSame]
        refine ⟨?_, fun _ => ⟨rfl, bound, rfl, rfl⟩, rfl, rfl⟩
        exact iff_of_false nofun fun h => hSame (Option.some.inj h)
  · intro now entryPoint args payment signers held
    cases hSettled : settled c steps with
    | none =>
      have hHeld : held = _ := hold_call_of_none g reached.2 (hBound.trans hSettled) now entryPoint
        args payment signers
      rw [hHeld]
      exact ⟨rfl, rfl, rfl, fun _ => rfl, nofun⟩
    | some contract =>
      have hHeld : held = _ := hold_call_of_some g reached.2 (hBound.trans hSettled) now entryPoint
        args payment signers
      rw [hHeld]
      refine ⟨rfl, rfl, rfl, nofun, ?_⟩
      rintro _ ⟨⟩
      cases signers with
      | nil => exact ⟨fun _ => rfl, fun hSigners => absurd rfl hSigners⟩
      | cons first others => exact ⟨nofun, fun _ => ⟨_, rfl, rfl⟩⟩
  · intro α q held
    cases hSettled : settled c steps with
    | none =>
      have hHeld : held = _ := hold_read_of_none g reached.2 (hBound.trans hSettled) q
      rw [hHeld]
      exact ⟨rfl, fun _ => ⟨rfl, rfl, rfl⟩, nofun⟩
    | some contract =>
      obtain ⟨result, hHeld⟩ := hold_read_of_some g reached.2 (hBound.trans hSettled) q
      have hHeld : held = _ := hHeld
      rw [hHeld]
      refine ⟨rfl, nofun, ?_⟩
      rintro _ ⟨⟩
      exact ⟨rfl, rfl⟩

/-- A client that tries to call and read before it is bound, and to be bound anew after. -/
theorem stays_with_its_contract_of_new :
    let first : ContractAddress := ⟨⟨.contract, default⟩, ⟨.contract, default⟩⟩
    let other : ContractAddress := ⟨⟨.account, default⟩, ⟨.contract, default⟩⟩
    let c : ContractClient := ⟨⟨"casper", ⟨60000⟩, 1, none⟩, none⟩
    let admin : Step := .read (.namedValue ["admin"] CLValue.asIdentity)
    let steps : List Step :=
      [.call ⟨0⟩ "mint" .empty default [], admin, .bind first, .bind first, .bind other]
    let reached := after MemoryNode.answer steps c {}
    reached.1.address = .ok first ∧
      ((Step.bind other).hold MemoryNode.answer reached.1 reached.2).result =
        .error (.alreadyBound first other) ∧
      (admin.hold MemoryNode.answer c {}).asked = [] ∧
      (admin.hold MemoryNode.answer reached.1 reached.2).asked =
        [.namedValue first.contractHash ["admin"]] := by
  intro first other c admin steps reached
  have hSettled : settled c steps = some first := rfl
  have hUnbound : settled c [] = none := rfl
  obtain ⟨-, hAddress, -, hBind, -, hRead⟩ := stays_with_its_contract MemoryNode.answer c {} steps
  obtain ⟨-, -, -, -, -, hReadFirst⟩ := stays_with_its_contract MemoryNode.answer c {} []
  obtain ⟨-, hOther, -, -⟩ := hBind other []
  obtain ⟨-, bound, hBound, hResult⟩ := hOther (by decide)
  cases hBound
  refine ⟨(hAddress first).mpr hSettled, hResult, ?_, ?_⟩
  · exact ((hReadFirst _ _).2.1 hUnbound).2.2
  · exact ((hRead _ _).2.2 first hSettled).1

end Mintage.ContractClient
