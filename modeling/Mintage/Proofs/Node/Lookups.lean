import Mintage.Proofs.Node.Classification
import Mintage.Proofs.TypedValues

/-!
# Proofs: what lookups make of an answer

A lookup asks for an item once, and the answer alone decides its result: the item that was found,
that there is none, a failure of the query, or that the item cannot be read. Each of the four comes
of one kind of answer, so no failure is ever taken for a missing item, whatever the wording of the
failure.

Some reads of clients answer for a missing item as if it held a default. All of them are one lookup,
and what is shown of it holds for each: the default is the answer only if the item is missing or
holds the default.
-/

namespace Mintage

/-- Whatever answers the requests of clients. It may change with each request. -/
abbrev Gateway (σ : Type) := (q : NodeRequest) → StateM σ q.Answer

variable {σ α : Type}

/-! ## Lookups -/

namespace Dictionary

variable {decode : CLValue → Except CLValue.Error α} {answer : Except QueryError CLValue}

/-- What a lookup makes of the four kinds of answers. -/
theorem outcome_eq_iff {result : Except DictionaryError (Lookup α)} :
    outcome decode answer = result ↔
      (answer = .error .notFound ∧ result = .ok .notFound) ∨
      (∃ v x, answer = .ok v ∧ decode v = .ok x ∧ result = .ok (.found x)) ∨
      (∃ reason, answer = .error (.failed reason) ∧ result = .error (.queryFailed reason)) ∨
      ∃ v reason, answer = .ok v ∧ decode v = .error reason ∧
        result = .error (.decodeMismatch reason) := by
  cases answer with
  | ok v =>
    cases hDecode : decode v with
    | ok x => simp [outcome, hDecode, eq_comm]
    | error reason => simp [outcome, hDecode, eq_comm]
  | error e =>
    cases e with
    | failed reason => simp [outcome, eq_comm]
    | notFound => simp [outcome, eq_comm]

theorem outcome_eq_notFound_iff :
    outcome decode answer = .ok .notFound ↔ answer = .error .notFound := by
  rw [outcome_eq_iff]
  simp

theorem outcome_eq_found_iff {x : α} :
    outcome decode answer = .ok (.found x) ↔ ∃ v, answer = .ok v ∧ decode v = .ok x := by
  rw [outcome_eq_iff]
  simp

theorem outcome_eq_queryFailed_iff {reason : NodeError} :
    outcome decode answer = .error (.queryFailed reason) ↔ answer = .error (.failed reason) := by
  rw [outcome_eq_iff]
  simp

theorem outcome_eq_decodeMismatch_iff {reason : CLValue.Error} :
    outcome decode answer = .error (.decodeMismatch reason) ↔
      ∃ v, answer = .ok v ∧ decode v = .error reason := by
  rw [outcome_eq_iff]
  simp

theorem run_lookup (g : Gateway σ) (s : σ) (contract : Identity) (dictionary itemKey : String) :
    Dialogue.run g (lookup contract dictionary itemKey decode) s =
      (outcome decode (g (.dictionaryItem contract dictionary itemKey) s).1,
        (g (.dictionaryItem contract dictionary itemKey) s).2) := rfl

end Dictionary

/-! ## Lookups over JSON-RPC -/

namespace JsonRpc

variable {serve : Json → StateM σ (Except String HttpReply)} {id : Nat} {s : σ}

/-- The calls for a request end with the answer that the client makes of the replies. -/
theorem Answers.run_eq {q : NodeRequest} {bodies : List Json} {a : q.Answer}
    (h : Answers serve q id s bodies (.ok a)) :
    ∃ id' s', Dialogue.run serve (answer q id).run s = (.ok (a, id'), s') := by
  have hAnswer := h.answer_eq
  cases hRun : Dialogue.run serve (answer q id).run s with
  | mk result s' =>
    rw [hRun] at hAnswer
    cases result with
    | error fault => cases hAnswer
    | ok found =>
      cases hAnswer
      exact ⟨found.2, s', rfl⟩

/-- Once a request has been answered, the dialogue goes on from that answer. -/
theorem hold_ask_of_answers {q : NodeRequest} {bodies : List Json} {a : q.Answer}
    (h : Answers serve q id s bodies (.ok a)) (next : q.Answer → NodeDialogue α) :
    ∃ id' s', hold serve (.ask q next) id s = hold serve (next a) id' s' := by
  obtain ⟨id', s', hRun⟩ := h.run_eq
  refine ⟨id', s', ?_⟩
  rw [hold, Dialogue.run_ask, run_bind_of_ok hRun]
  rfl

/-- If the present state is not told, the lookup of an item passes the failure on. -/
theorem answers_error_of_toldRoot {contract : Identity} {dictionary itemKey : String}
    {reason : NodeError} (hTold : toldRoot serve id s = .error reason) :
    Answers serve (.dictionaryItem contract dictionary itemKey) id s [stateRootCall id]
      (.ok (.error (.failed reason))) :=
  answers_dictionaryItem hTold

end JsonRpc

/-! ## Reads with a default -/

/-- A read asks for one item and takes a default for an item that is missing. Nothing but a missing
item, or one that holds the default, makes it answer by the default; everything else is an error. -/
structure TakesDefault (c : ContractClient) (dictionary itemKey : String)
    (decode : CLValue → Except CLValue.Error α) (default : α) (read : NodeAction α) : Prop where
  unbound : c.bound = none → ∀ {σ : Type} (g : Gateway σ) (s : σ),
    Dialogue.run g read.run s = (.error .unbound, s)
  bound : ∀ {contract}, c.bound = some contract → ∀ {σ : Type} (g : Gateway σ) (s : σ),
    let answer := (g (.dictionaryItem contract.contractHash dictionary itemKey) s).1
    let result := (Dialogue.run g read.run s).1
    (∀ x, result = .ok x ↔
      (answer = .error .notFound ∧ x = default) ∨ ∃ v, answer = .ok v ∧ decode v = .ok x) ∧
    ∀ e, result = .error e ↔
      (∃ reason, answer = .error (.failed reason) ∧ e = .network reason) ∨
      ∃ v reason, answer = .ok v ∧ decode v = .error reason ∧ e = .decodeMismatch reason

namespace ContractClient

variable {c : ContractClient} {dictionary itemKey : String}
  {decode : CLValue → Except CLValue.Error α}

/-- The result of a read with a default, from what the lookup makes of the answer. -/
def withDefault (default : α) : Except DictionaryError (Lookup α) → Except ClientError α
  | .ok l => .ok (l.getD default)
  | .error e => .error (lookupError e)

theorem withDefault_eq_ok_iff {answer : Except QueryError CLValue} {default x : α} :
    withDefault default (Dictionary.outcome decode answer) = .ok x ↔
      (answer = .error .notFound ∧ x = default) ∨ ∃ v, answer = .ok v ∧ decode v = .ok x := by
  rcases Dictionary.outcome_eq_iff.mp (Eq.refl (Dictionary.outcome decode answer)) with
    ⟨rfl, hResult⟩ | ⟨v, y, rfl, hDecode, hResult⟩ | ⟨reason, rfl, hResult⟩ |
    ⟨v, reason, rfl, hDecode, hResult⟩
  · simp [hResult, withDefault, Lookup.getD, Lookup.found?, eq_comm]
  · simp [hResult, withDefault, Lookup.getD, Lookup.found?, hDecode]
  · simp [hResult, withDefault]
  · simp [hResult, withDefault, hDecode]

theorem withDefault_eq_error_iff {answer : Except QueryError CLValue} {default : α}
    {e : ClientError} :
    withDefault default (Dictionary.outcome decode answer) = .error e ↔
      (∃ reason, answer = .error (.failed reason) ∧ e = .network reason) ∨
      ∃ v reason, answer = .ok v ∧ decode v = .error reason ∧ e = .decodeMismatch reason := by
  rcases Dictionary.outcome_eq_iff.mp (Eq.refl (Dictionary.outcome decode answer)) with
    ⟨rfl, hResult⟩ | ⟨v, y, rfl, hDecode, hResult⟩ | ⟨reason, rfl, hResult⟩ |
    ⟨v, reason, rfl, hDecode, hResult⟩
  · simp [hResult, withDefault]
  · simp [hResult, withDefault, hDecode]
  · simp [hResult, withDefault, lookupError, eq_comm]
  · simp [hResult, withDefault, lookupError, hDecode, eq_comm]

theorem run_withDefault {contract : ContractAddress} (hBound : c.bound = some contract)
    (default : α) (g : Gateway σ) (s : σ) :
    Dialogue.run g (do return (← c.queryItem dictionary itemKey decode).getD default :
        NodeAction α).run s =
      (withDefault default (Dictionary.outcome decode
          (g (.dictionaryItem contract.contractHash dictionary itemKey) s).1),
        (g (.dictionaryItem contract.contractHash dictionary itemKey) s).2) := by
  have hAddress : c.address = .ok contract := by rw [address, hBound]
  rw [queryItem, hAddress]
  have hRun (answer : Except QueryError CLValue) (s : σ) :
      Dialogue.run g (ExceptT.bindCont (fun l : Lookup α => (pure (l.getD default) : NodeAction α))
        ((Dictionary.outcome decode answer).mapError lookupError)) s =
      (withDefault default (Dictionary.outcome decode answer), s) := by
    cases Dictionary.outcome decode answer with
    | ok l => rfl
    | error e => rfl
  exact hRun _ _

theorem takesDefault_queryItem (default : α) :
    TakesDefault c dictionary itemKey decode default
      (return (← c.queryItem dictionary itemKey decode).getD default) where
  unbound := by
    intro hUnbound σ g s
    have hAddress : c.address = .error .unbound := by rw [address, hUnbound]
    rw [queryItem, hAddress]
    rfl
  bound := by
    intro contract hBound σ g s answer result
    have hResult : result = withDefault default (Dictionary.outcome decode answer) :=
      congrArg Prod.fst (run_withDefault hBound default g s)
    rw [hResult]
    exact ⟨fun x => withDefault_eq_ok_iff, fun e => withDefault_eq_error_iff⟩

end ContractClient

theorem CLValue.as_bool_eq_ok_iff {v : CLValue} {b : Bool} : v.as .bool = .ok b ↔ v = of .bool b :=
  (as_eq_ok_iff_of_exact rfl rfl).trans (and_iff_right trivial)

theorem CLValue.as_u64_eq_ok_iff {v : CLValue} {n : UInt64} : v.as .u64 = .ok n ↔ v = of .u64 n :=
  (as_eq_ok_iff_of_exact rfl rfl).trans (and_iff_right trivial)

/-- A missing item is never confused with a failure.

- Whatever the answer of the node: a lookup finds nothing exactly if the answer is that nothing was
  found, it finds a value exactly if there is one that can be read as it, it passes on every failure
  of the query, and it complains of every value that cannot be read.
- Over JSON-RPC a failure to tell the present state is passed on, also if its wording is that of a
  missing item.
- The whitelist of a minter, the list of a collection, and the balances of a collection and of a
  token answer by `false` or zero only if the item is missing, or if `false` or zero is stored. Any
  other outcome is an error of the network or of decoding. -/
theorem Dictionary.missing_is_no_failure :
    (∀ {σ α : Type} (g : Gateway σ) (s : σ) (contract : Identity) (dictionary itemKey : String)
        (decode : CLValue → Except CLValue.Error α),
      let answer := (g (.dictionaryItem contract dictionary itemKey) s).1
      let result := (Dialogue.run g (lookup contract dictionary itemKey decode) s).1
      (result = .ok .notFound ↔ answer = .error .notFound) ∧
      (∀ x, result = .ok (.found x) ↔ ∃ v, answer = .ok v ∧ decode v = .ok x) ∧
      (∀ reason, result = .error (.queryFailed reason) ↔ answer = .error (.failed reason)) ∧
      ∀ reason, result = .error (.decodeMismatch reason) ↔
        ∃ v, answer = .ok v ∧ decode v = .error reason) ∧
    (∀ {σ α : Type} (serve : Json → StateM σ (Except String HttpReply)) (id : Nat) (s : σ)
        (contract : Identity) (dictionary itemKey : String)
        (decode : CLValue → Except CLValue.Error α) (reason : NodeError),
      JsonRpc.toldRoot serve id s = .error reason →
      JsonRpc.hold serve (lookup contract dictionary itemKey decode) id s =
        .ok (.error (.queryFailed reason))) ∧
    (∀ (m : Minter) (account : Identity), TakesDefault m.client "whitelist_dict" account.itemKey
      (CLValue.as .bool) false (m.isWhitelisted account)) ∧
    (∀ (c : Cep78.Collection) (i : Identity), TakesDefault c.client "acl_whitelist" i.itemKey
      (CLValue.as .bool) false (c.isContractWhitelisted i)) ∧
    (∀ (c : Cep78.Collection) (account : PublicKey), TakesDefault c.client "acl_whitelist"
      account.identity.itemKey (CLValue.as .bool) false (c.isAccountWhitelisted account)) ∧
    (∀ (c : Cep78.Collection) (owner : Identity), TakesDefault c.client "balances" owner.itemKey
      (CLValue.as .u64) 0 (c.balanceOf owner)) ∧
    (∀ (t : Cep18.Token) (owner : Identity), TakesDefault t.client "balances" owner.balanceKey
      (CLValue.as .u256) .zero (t.balanceOf owner)) ∧
    (∀ v : CLValue, v.as .bool = .ok false ↔ v = .of .bool false) ∧
    ∀ v : CLValue, v.as .u64 = .ok 0 ↔ v = .of .u64 0 := by
  refine ⟨?_, ?_, ?_, ?_, ?_, ?_, ?_, ?_, ?_⟩
  · intro σ α g s contract dictionary itemKey decode answer result
    have hResult : result = outcome decode answer :=
      congrArg Prod.fst (run_lookup g s contract dictionary itemKey)
    rw [hResult]
    exact ⟨outcome_eq_notFound_iff, fun x => outcome_eq_found_iff,
      fun reason => outcome_eq_queryFailed_iff, fun reason => outcome_eq_decodeMismatch_iff⟩
  · intro σ α serve id s contract dictionary itemKey decode reason hTold
    obtain ⟨id', s', hHeld⟩ := JsonRpc.hold_ask_of_answers (JsonRpc.answers_error_of_toldRoot hTold)
      fun found => .done (outcome decode found)
    exact hHeld
  · intro m account
    exact ContractClient.takesDefault_queryItem false
  · intro c i
    exact ContractClient.takesDefault_queryItem false
  · intro c account
    exact ContractClient.takesDefault_queryItem false
  · intro c owner
    exact ContractClient.takesDefault_queryItem 0
  · intro t owner
    exact ContractClient.takesDefault_queryItem _
  · intro v
    exact CLValue.as_bool_eq_ok_iff
  · intro v
    exact CLValue.as_u64_eq_ok_iff

/-- The whitelist of a minter at a server whose reply about the present state says that a value is
missing. -/
theorem Dictionary.missing_is_no_failure_of_contrary_reply :
    let account : Identity := ⟨.account, default⟩
    let minter : Identity := ⟨.contract, default⟩
    let m : Minter := ⟨⟨⟨"casper", ⟨60000⟩, 1, none⟩, some ⟨minter, minter⟩⟩, {}⟩
    let serve : Json → StateM Unit (Except String HttpReply) :=
      fun _ => pure (.ok JsonRpc.contraryReply)
    let reason : NodeError := .reported (-32003) "Value Not Found" none
    JsonRpc.toldRoot serve JsonRpc.firstId () = .error reason ∧
      JsonRpc.hold serve (lookup minter "whitelist_dict" account.itemKey (CLValue.as .bool))
        JsonRpc.firstId () = .ok (.error (.queryFailed reason)) ∧
      JsonRpc.hold serve (m.isWhitelisted account).run JsonRpc.firstId () =
        .ok (.error (.network reason)) := by
  intro account minter m serve reason
  obtain ⟨-, hOverJsonRpc, hWhitelist, -⟩ := missing_is_no_failure
  have hTold : JsonRpc.toldRoot serve JsonRpc.firstId () = .error reason :=
    JsonRpc.outcome_of_readBytes (by decide) JsonRpc.readBytes_contraryReply
  refine ⟨hTold, hOverJsonRpc serve _ () _ _ _ _ reason hTold, ?_⟩
  -- The read goes on as if a node had answered by the failure.
  let failing : Gateway Unit := fun q => by
    cases q with
    | submit _ => exact pure (.error reason)
    | namedValue _ _ | dictionaryItem _ _ _ => exact pure (.error (.failed reason))
  have hRead : (Dialogue.run failing (m.isWhitelisted account).run ()).1 =
      .error (.network reason) :=
    (((hWhitelist m account).bound rfl failing ()).2 _).mpr (.inl ⟨reason, rfl, rfl⟩)
  obtain ⟨id', s', hHeld⟩ := JsonRpc.hold_ask_of_answers (JsonRpc.answers_error_of_toldRoot hTold)
    fun found => (ExceptT.bindCont (fun l : Lookup Bool => (pure (l.getD false) : NodeAction Bool))
      ((outcome (CLValue.as .bool) found).mapError ContractClient.lookupError))
  exact hHeld.trans (congrArg Except.ok hRead)

end Mintage
