import Mintage.Cep18.Token
import Mintage.Cep78.Collection
import Mintage.Minter
import Mintage.Proofs.ArgumentRecords
import Mintage.Proofs.Signing

/-!
# Proofs: the deploys of the façades

Each write of a façade is a payment and a request: code to install or an entry point to call, with
the arguments of the operation. No operation gives a name twice, so its arguments can always be
made, and lists of accounts and values that come from one list of entries have equal lengths. What
is left to go wrong is looked at in one order for all of them: the payment, then the contract that
is called, then the signers.
-/

namespace Mintage

open RuntimeArgs

/-! ## Arguments have different names -/

theorem NamedArg.names_ofOption (name : String) (s : Shape) (x : Option s.Value) :
    ((ofOption name s x).map (·.name)).Sublist [name] := by
  cases x with
  | none => exact List.nil_sublist [name]
  | some x => exact List.Sublist.refl [name]

theorem NamedArg.names_append {before after : List NamedArg} {names names' : List String}
    (h : (before.map (·.name)).Sublist names) (h' : (after.map (·.name)).Sublist names') :
    ((before ++ after).map (·.name)).Sublist (names ++ names') := by
  rw [List.map_append]
  exact h.append h'

/-- The accounts of the entries of an update. -/
def Minter.accountsArgument (entries : List WhitelistEntry) : NamedArg :=
  .of "whitelist_accounts" (.list .key) (entries.map (·.account.toKey))

/-- The values of the entries of an update. -/
def Minter.valuesArgument (entries : List WhitelistEntry) : NamedArg :=
  .of "whitelist_values" (.list .bool) (entries.map (·.value))

/-- The arguments of an update of the whitelist. -/
def Minter.whitelistArguments (entries : List WhitelistEntry) : List NamedArg :=
  [accountsArgument entries, valuesArgument entries]

theorem Minter.whitelistArgs_eq (entries : List WhitelistEntry) :
    whitelistArgs entries = .ok ⟨whitelistArguments entries⟩ := by
  -- Both lists have an item for each entry.
  have hLengths : ¬ (entries.map (·.account.toKey)).length ≠ (entries.map (·.value)).length := by
    simp
  have hNames : (whitelistArguments entries).map (·.name) =
    ["whitelist_accounts", "whitelist_values"] := rfl
  have hArgs : ofList (whitelistArguments entries) = .ok ⟨whitelistArguments entries⟩ :=
    ofList_of_nodup (hNames ▸ by decide)
  rw [whitelistArgs, whitelistListArgs, if_neg hLengths]
  change (ofList (whitelistArguments entries)).mapError _ = _
  rw [hArgs]
  rfl

theorem Cep78.VariablesUpdate.toRuntimeArgs_eq (u : Cep78.VariablesUpdate) :
    u.toRuntimeArgs = .ok ⟨u.arguments⟩ := by
  cases u with
  | standard allowMinting contractWhitelist =>
    have hNames := NamedArg.names_append
      (NamedArg.names_ofOption "allow_minting" .bool allowMinting)
      (NamedArg.names_ofOption "contract_whitelist" (.list (.bytes 32))
        (contractWhitelist.map fun contracts => contracts.map (·.hash)))
    exact ofList_of_nodup (hNames.nodup (by decide))
  | aclWhitelist identities =>
    have hNames : (VariablesUpdate.aclWhitelist identities).arguments.map (·.name) =
      ["acl_whitelist"] := rfl
    exact ofList_of_nodup (hNames ▸ by decide)

/-! ## Requests -/

/-- Whether an entry point of a contract is called. -/
def DeployRequest.IsCall : DeployRequest → Prop
  | install _ _ => False
  | call _ _ => True

namespace ContractClient

variable {c : ContractClient} {r : DeployRequest}

theorem item?_eq_none_iff : c.item? r = none ↔ r.IsCall ∧ c.bound = none := by
  cases r with
  | install wasm args => simp [item?, DeployRequest.IsCall]
  | call entryPoint args => simp [item?, DeployRequest.IsCall]

theorem build_of_none (hItem : c.item? r = none) (now : Timestamp) (payment : U512)
    (signers : List Signer) : c.build r now payment signers = .error .unbound := by
  obtain ⟨hCall, hUnbound⟩ := item?_eq_none_iff.mp hItem
  cases r with
  | install wasm args => exact hCall.elim
  | call entryPoint args =>
    have hAddress : c.address = .error .unbound := by rw [address, hUnbound]
    rw [build, callEntryPoint, hAddress]
    rfl

/-- The deploy for a request, for a payment that is configured. -/
def buildFor (c : ContractClient) (payment : Decimal) (r : DeployRequest) (now : Timestamp)
    (signers : List Signer) : Except ClientError SignedDeploy := do
  let motes ← payment.toMotes.mapError .config
  c.build r now motes signers

section BuildFor

variable {payment : Decimal} {now : Timestamp} {motes : U512} {signers : List Signer}

theorem buildFor_of_error {e : ConfigError} (hMotes : payment.toMotes = .error e) :
    c.buildFor payment r now signers = .error (.config e) := by
  rw [buildFor, hMotes]
  rfl

theorem buildFor_of_motes (hMotes : payment.toMotes = .ok motes) :
    c.buildFor payment r now signers = c.build r now motes signers := by
  rw [buildFor, hMotes]
  rfl

theorem buildFor_of_unbound (hMotes : payment.toMotes = .ok motes) (hItem : c.item? r = none) :
    c.buildFor payment r now signers = .error .unbound := by
  rw [buildFor_of_motes hMotes, build_of_none hItem]

theorem buildFor_nil {session : DeployItem} (hMotes : payment.toMotes = .ok motes)
    (hItem : c.item? r = some session) :
    c.buildFor payment r now [] = .error (.sign .missingSignature) := by
  rw [buildFor_of_motes hMotes, build_eq_signed hItem]
  rfl

theorem buildFor_cons {session : DeployItem} (hMotes : payment.toMotes = .ok motes)
    (hItem : c.item? r = some session) (first : Signer) (others : List Signer) :
    c.buildFor payment r now (first :: others) =
      .ok ((c.assembler.build now session motes first.publicKey).signedBy (first :: others)) := by
  rw [buildFor_of_motes hMotes, build_eq_signed hItem]
  rfl

theorem buildFor_eq_ok_iff {d : SignedDeploy} : c.buildFor payment r now signers = .ok d ↔
    ∃ motes session first others, payment.toMotes = .ok motes ∧ c.item? r = some session ∧
      signers = first :: others ∧
      d = (c.assembler.build now session motes first.publicKey).signedBy signers := by
  constructor
  · intro h
    obtain ⟨motes, hMotes⟩ : ∃ motes, payment.toMotes = .ok motes := by
      cases hMotes : payment.toMotes with
      | ok motes => exact ⟨motes, rfl⟩
      | error e =>
        rw [buildFor_of_error hMotes] at h
        cases h
    obtain ⟨session, hItem⟩ : ∃ session, c.item? r = some session := by
      cases hItem : c.item? r with
      | some session => exact ⟨session, rfl⟩
      | none =>
        rw [buildFor_of_unbound hMotes hItem] at h
        cases h
    cases signers with
    | nil =>
      rw [buildFor_nil hMotes hItem] at h
      cases h
    | cons first others =>
      rw [buildFor_cons hMotes hItem] at h
      cases h
      exact ⟨motes, session, first, others, hMotes, hItem, rfl, rfl⟩
  · rintro ⟨motes, session, first, others, hMotes, hItem, rfl, rfl⟩
    exact buildFor_cons hMotes hItem first others

end BuildFor

end ContractClient

theorem Minter.installCode_of_ok (m : Minter) (now : Timestamp) (wasm : Bytes) (args : RuntimeArgs)
    (payment : Decimal) (signers : List Signer) :
    m.installCode now wasm (.ok args) payment signers =
      m.client.buildFor payment (.install wasm args) now signers := rfl

theorem Minter.call_of_ok (m : Minter) (now : Timestamp) (entryPoint : String) (args : RuntimeArgs)
    (payment : Decimal) (signers : List Signer) :
    m.call now entryPoint (.ok args) payment signers =
      m.client.buildFor payment (.call entryPoint args) now signers := Outcome.bind_of_ok args _

/-- The arguments of a call about an amount for an identity. -/
def Cep18.amountArguments (targetName : String) (target : Identity) (amount : U256) :
    List NamedArg :=
  [.of targetName .key target.toKey, .of "amount" .u256 amount]

theorem Cep18.Token.callWithAmount_eq (t : Token) (now : Timestamp) (entryPoint targetName : String)
    (target : Identity) (amount : U256) (signers : List Signer) (hNames : targetName ≠ "amount") :
    t.callWithAmount now entryPoint targetName target amount signers =
      t.client.buildFor t.payments.cep18Call
        (.call entryPoint ⟨amountArguments targetName target amount⟩) now signers := by
  have hArgs : ofList (amountArguments targetName target amount) =
      .ok ⟨amountArguments targetName target amount⟩ :=
    ofList_of_nodup (by simpa [amountArguments, NamedArg.of] using hNames)
  have hMade : (ofList (amountArguments targetName target amount)).mapError
      ClientError.argument = .ok ⟨amountArguments targetName target amount⟩ := by
    rw [hArgs]
    rfl
  exact (congrArg (· >>= _) hMade).trans (Outcome.bind_of_ok _ _)

/-! ## Writes -/

/-- The writes of the façades. -/
inductive FacadeWrite where
  | minterInstall (m : Minter) (wasm : Bytes) (args : Minter.InstallArgs)
  | minterUpgrade (m : Minter) (wasm : Bytes) (args : Minter.UpgradeArgs)
  | minterSetConfig (m : Minter) (update : Minter.ConfigUpdate)
  | minterFreeMint (m : Minter) (args : Minter.FreeMintArgs)
  | minterNativeMint (m : Minter) (wasm : Bytes) (args : Minter.NativeMintArgs)
  | minterSetWhitelist (m : Minter) (entries : List Minter.WhitelistEntry)
  | minterResetWhitelist (m : Minter) (entries : List Minter.WhitelistEntry)
  | collectionInstall (c : Cep78.Collection) (wasm : Bytes) (args : Cep78.InstallArgs)
  | collectionSetVariables (c : Cep78.Collection) (v : Cep78.Variables)
  | tokenInstall (t : Cep18.Token) (wasm : Bytes) (args : Cep18.InstallArgs)
  | tokenMint (t : Cep18.Token) (owner : Identity) (amount : U256)
  | tokenApprove (t : Cep18.Token) (spender : Identity) (amount : U256)

namespace FacadeWrite

/-- What the façade makes of a write. -/
def deploy (now : Timestamp) (signers : List Signer) :
    FacadeWrite → Except ClientError SignedDeploy
  | minterInstall m wasm args => m.install now wasm args signers
  | minterUpgrade m wasm args => m.upgrade now wasm args signers
  | minterSetConfig m update => m.setConfig now update signers
  | minterFreeMint m args => m.freeMint now args signers
  | minterNativeMint m wasm args => m.nativeMint now wasm args signers
  | minterSetWhitelist m entries => m.setWhitelist now entries signers
  | minterResetWhitelist m entries => m.resetWhitelist now entries signers
  | collectionInstall c wasm args => c.install now wasm args signers
  | collectionSetVariables c v => c.setVariables now v signers
  | tokenInstall t wasm args => t.install now wasm args signers
  | tokenMint t owner amount => t.mint now owner amount signers
  | tokenApprove t spender amount => t.approve now spender amount signers

/-- The client that builds the deploy. -/
def client : FacadeWrite → ContractClient
  | minterInstall m _ _ | minterUpgrade m _ _ | minterSetConfig m _ | minterFreeMint m _
  | minterNativeMint m _ _ | minterSetWhitelist m _ | minterResetWhitelist m _ => m.client
  | collectionInstall c _ _ | collectionSetVariables c _ => c.client
  | tokenInstall t _ _ | tokenMint t _ _ | tokenApprove t _ _ => t.client

/-- The amount that is paid, in the unit of the chain. -/
def payment : FacadeWrite → Decimal
  | minterInstall m _ _ | minterUpgrade m _ _ => m.payments.minterInstall
  | minterSetConfig m _ => m.payments.minterSetConfig
  | minterFreeMint m _ => m.payments.minterFreeMint
  | minterNativeMint m _ _ => m.payments.minterNativeMint
  | minterSetWhitelist m _ | minterResetWhitelist m _ => m.payments.minterSetWhitelist
  | collectionInstall c _ _ => c.payments.cep78Install
  | collectionSetVariables c _ => c.payments.cep78SetVariables
  | tokenInstall t _ _ => t.payments.cep18Install
  | tokenMint t _ _ | tokenApprove t _ _ => t.payments.cep18Call

/-- The code that the deploy runs, with the arguments of the operation. -/
def request : FacadeWrite → DeployRequest
  | minterInstall _ wasm args => .install wasm ⟨args.arguments⟩
  | minterUpgrade _ wasm args => .install wasm ⟨args.arguments⟩
  | minterSetConfig _ update => .call "set_config" ⟨update.arguments⟩
  | minterFreeMint _ args => .call "free_mint" ⟨args.arguments⟩
  | minterNativeMint _ wasm args => .install wasm ⟨args.arguments⟩
  | minterSetWhitelist _ entries => .call "set_whitelist" ⟨Minter.whitelistArguments entries⟩
  | minterResetWhitelist _ entries => .call "reset_whitelist" ⟨Minter.whitelistArguments entries⟩
  | collectionInstall _ wasm args => .install wasm ⟨args.arguments⟩
  | collectionSetVariables _ v => .call "set_variables" ⟨v.update.arguments⟩
  | tokenInstall _ wasm args => .install wasm ⟨args.arguments⟩
  | tokenMint _ owner amount => .call "mint" ⟨Cep18.amountArguments "owner" owner amount⟩
  | tokenApprove _ spender amount =>
    .call "approve" ⟨Cep18.amountArguments "spender" spender amount⟩

variable {w : FacadeWrite} {now : Timestamp} {signers : List Signer}

/-- The arguments can always be made, so it is the payment that is looked at first. -/
theorem deploy_eq (w : FacadeWrite) (now : Timestamp) (signers : List Signer) :
    w.deploy now signers = w.client.buildFor w.payment w.request now signers := by
  cases w with
  | minterInstall m wasm args =>
    rw [deploy, Minter.install, args.toRuntimeArgs_eq]
    exact m.installCode_of_ok now wasm _ _ signers
  | minterUpgrade m wasm args =>
    rw [deploy, Minter.upgrade, args.toRuntimeArgs_eq]
    exact m.installCode_of_ok now wasm _ _ signers
  | minterSetConfig m update =>
    rw [deploy, Minter.setConfig, update.toRuntimeArgs_eq]
    exact m.call_of_ok now "set_config" _ _ signers
  | minterFreeMint m args =>
    rw [deploy, Minter.freeMint, args.toRuntimeArgs_eq]
    exact m.call_of_ok now "free_mint" _ _ signers
  | minterNativeMint m wasm args =>
    rw [deploy, Minter.nativeMint, args.toRuntimeArgs_eq]
    exact m.installCode_of_ok now wasm _ _ signers
  | minterSetWhitelist m entries =>
    rw [deploy, Minter.setWhitelist, Minter.whitelistArgs_eq]
    exact m.call_of_ok now "set_whitelist" _ _ signers
  | minterResetWhitelist m entries =>
    rw [deploy, Minter.resetWhitelist, Minter.whitelistArgs_eq]
    exact m.call_of_ok now "reset_whitelist" _ _ signers
  | collectionInstall c wasm args =>
    rw [deploy, Cep78.Collection.install, args.toRuntimeArgs_eq]
    rfl
  | collectionSetVariables c v =>
    rw [deploy, Cep78.Collection.setVariables, v.update.toRuntimeArgs_eq]
    rfl
  | tokenInstall t wasm args =>
    rw [deploy, Cep18.Token.install, args.toRuntimeArgs_eq]
    rfl
  | tokenMint t owner amount =>
    rw [deploy, Cep18.Token.mint]
    exact t.callWithAmount_eq now "mint" "owner" owner amount signers (by decide)
  | tokenApprove t spender amount =>
    rw [deploy, Cep18.Token.approve]
    exact t.callWithAmount_eq now "approve" "spender" spender amount signers (by decide)

end FacadeWrite

end Mintage
