import Mintage.Proofs.Whitelist

/-!
# Proofs: updates of the variables of a collection

Which update is sent depends on which variables are set, not on their values: a list that is set may
be empty. The list of those who may mint is sent alone, and only if nothing else is set. Either way
each variable that belongs to the update is one argument. The arguments hold the lists item for
item, also where their length does not fit behind the four bytes of it; what fits is read back.
-/

namespace Mintage

open Wire

/-! ## Lists as arguments -/

section GetArgument

variable (before after : List NamedArg) (name other : String) (s : Shape) (x : Option s.Value)

theorem RuntimeArgs.get?_append :
    get? ⟨before ++ after⟩ name = (get? ⟨before⟩ name).or (get? ⟨after⟩ name) := by
  rw [get?, get?, get?, List.find?_append]
  cases before.find? fun arg => arg.name = name with
  | none => rfl
  | some arg => rfl

theorem RuntimeArgs.get?_ofOption :
    get? ⟨NamedArg.ofOption name s x⟩ other = if name = other then x.map (.of s) else none := by
  cases x with
  | none => simp [get?, NamedArg.ofOption]
  | some x => by_cases hName : name = other <;> simp [get?, NamedArg.ofOption, NamedArg.of, hName]

end GetArgument

/-- The argument of a name is a list of items, if there is one, and no other list. It is read back
exactly if its length fits. -/
structure RuntimeArgs.Lists (a : RuntimeArgs) (name : String) (item : Shape)
    (xs? : Option (List item.Value)) : Prop where
  contains : a.contains name = xs?.isSome
  get : ∀ xs, a.get? name = some (.of (.list item) xs) ↔ xs? = some xs
  read : ∀ xs, a.read? name (.list item) = some xs ↔ LengthFits xs.length ∧ xs? = some xs

theorem RuntimeArgs.lists_of_get? {a : RuntimeArgs} {name : String} {item : Shape}
    {xs? : Option (List item.Value)} (hGet : a.get? name = xs?.map (.of (.list item)))
    (hExact : Exact (fun _ => True) item.encode item.decode) (hEmpty : item.isEmpty = false)
    (hNonempty : ∀ x, item.encode x ≠ []) : Lists a name item xs? := by
  have hInjective : ∀ xs ys, CLValue.of (.list item) xs = .of (.list item) ys → xs = ys := by
    intro xs ys hSame
    exact hExact.prefixFree.encodeList_injective hNonempty (congrArg CLValue.bytes hSame)
  refine ⟨?_, ?_, ?_⟩
  · rw [RuntimeArgs.contains, hGet, Option.isSome_map]
  · intro xs
    rw [hGet, Option.map_eq_some_iff]
    constructor
    · rintro ⟨ys, hys, hSame⟩
      rw [hys, hInjective ys xs hSame]
    · intro hxs
      exact ⟨xs, hxs, rfl⟩
  · intro xs
    rw [read?, hGet]
    cases xs? with
    | none => simp
    | some ys =>
      have hRead := CLValue.as_list_of_eq_ok_iff item ys xs hExact hEmpty hNonempty
      rw [Option.map_some, Option.bind_some, Outcome.toOption_eq_some_iff, hRead, Option.some_inj]
      constructor
      · rintro ⟨hLength, rfl⟩
        exact ⟨hLength, rfl⟩
      · rintro ⟨hLength, rfl⟩
        exact ⟨hLength, rfl⟩

namespace Cep78

/-! ## The choice of the update -/

namespace Variables

/-- Something apart from the list of those who may mint is set. -/
def SetsStandard (v : Variables) : Prop :=
  v.allowMinting.isSome ∨ v.contractWhitelist.isSome

variable {v : Variables}

theorem update_of_standard (h : v.SetsStandard) :
    v.update = .standard v.allowMinting v.contractWhitelist := by
  have hOther : (v.allowMinting.isSome || v.contractWhitelist.isSome) = true := by
    rwa [Bool.or_eq_true]
  rw [update, dropsAcl, hOther]
  cases v.aclWhitelist with
  | none => rfl
  | some identities => rfl

theorem update_of_acl {identities : List Identity} (h : ¬ v.SetsStandard)
    (hAcl : v.aclWhitelist = some identities) : v.update = .aclWhitelist identities := by
  have hOther : (v.allowMinting.isSome || v.contractWhitelist.isSome) = false := by
    rwa [SetsStandard, ← Bool.or_eq_true, Bool.not_eq_true] at h
  rw [update, dropsAcl, hOther, hAcl]
  rfl

theorem update_of_none (h : ¬ v.SetsStandard) (hAcl : v.aclWhitelist = none) :
    v.update = .standard none none := by
  rw [SetsStandard, not_or, Option.not_isSome_iff_eq_none, Option.not_isSome_iff_eq_none] at h
  rw [update, hAcl, h.1, h.2]

end Variables

/-! ## What the updates say -/

/-- The arguments of an update that leaves the list of those who may mint alone. -/
structure SendsStandard (allowMinting : Option Bool) (contracts : Option (List Identity))
    (a : RuntimeArgs) : Prop where
  /-- One argument for each of the two that is set. -/
  names : a.names = (allowMinting.map fun _ => "allow_minting").toList ++
    (contracts.map fun _ => "contract_whitelist").toList
  allowMinting : ∀ b, a.read? "allow_minting" .bool = some b ↔ allowMinting = some b
  contractWhitelist : a.Lists "contract_whitelist" (.bytes 32)
    (contracts.map fun is => is.map (·.hash))
  aclWhitelist : a.contains "acl_whitelist" = false

/-- The arguments of an update of nothing but the list of those who may mint. -/
structure SendsAcl (identities : List Identity) (a : RuntimeArgs) : Prop where
  names : a.names = ["acl_whitelist"]
  keys : a.Lists "acl_whitelist" .key (some (keysOf identities))
  /-- The keys are read as those of the identities, with their kinds. -/
  identities : ∀ listed,
    (a.read? "acl_whitelist" (.list .key)).bind (·.mapM Key.identity?) = some listed ↔
      LengthFits identities.length ∧ listed = identities

theorem sendsStandard_arguments (allowMinting : Option Bool)
    (contracts : Option (List Identity)) :
    SendsStandard allowMinting contracts
      ⟨(VariablesUpdate.standard allowMinting contracts).arguments⟩ := by
  have hBlocks : ∀ b : Block 32, b.bytes ≠ [] := by
    intro b hNil
    have hLength := b.length_bytes
    rw [hNil] at hLength
    cases hLength
  refine ⟨?_, ?_, RuntimeArgs.lists_of_get? ?_ (exact_decodeBlock 32) rfl hBlocks, ?_⟩
  · cases allowMinting with
    | none => cases contracts <;> rfl
    | some b => cases contracts <;> rfl
  · intro b
    rw [RuntimeArgs.read?, VariablesUpdate.arguments, RuntimeArgs.get?_append,
      RuntimeArgs.get?_ofOption, RuntimeArgs.get?_ofOption, if_pos rfl, if_neg (by decide),
      Option.or_none]
    cases allowMinting with
    | none => simp
    | some given =>
      have hRead : (CLValue.of .bool given).as .bool = .ok given := CLValue.as_of rfl trivial
      rw [Option.map_some, Option.bind_some, hRead]
      rfl
  · rw [VariablesUpdate.arguments, RuntimeArgs.get?_append, RuntimeArgs.get?_ofOption,
      RuntimeArgs.get?_ofOption, if_neg (by decide), if_pos rfl, Option.none_or]
  · rw [RuntimeArgs.contains, VariablesUpdate.arguments, RuntimeArgs.get?_append,
      RuntimeArgs.get?_ofOption, RuntimeArgs.get?_ofOption, if_neg (by decide), if_neg (by decide)]
    rfl

theorem sendsAcl_arguments (identities : List Identity) :
    SendsAcl identities ⟨(VariablesUpdate.aclWhitelist identities).arguments⟩ := by
  have hKeys : RuntimeArgs.Lists ⟨(VariablesUpdate.aclWhitelist identities).arguments⟩
      "acl_whitelist" .key (some (keysOf identities)) :=
    RuntimeArgs.lists_of_get? rfl Key.exact_decode rfl Key.encode_ne_nil
  have hLength : (keysOf identities).length = identities.length := List.length_map _
  refine ⟨rfl, hKeys, fun listed => ?_⟩
  constructor
  · intro h
    obtain ⟨keys, hRead, hListed⟩ := Option.bind_eq_some_iff.mp h
    obtain ⟨hFits, hSame⟩ := (hKeys.read keys).mp hRead
    cases hSame
    rw [Passing.mapM_identity?_keysOf, Option.some_inj] at hListed
    exact ⟨hLength ▸ hFits, hListed.symm⟩
  · rintro ⟨hFits, rfl⟩
    have hRead := (hKeys.read _).mpr ⟨hLength.symm ▸ hFits, rfl⟩
    rw [hRead, Option.bind_some, Passing.mapM_identity?_keysOf]

/-! ## The deploy -/

section SetVariables

variable {c : Collection} {v : Variables} {now : Timestamp} {signers : List Signer}

theorem setVariables_eq : c.setVariables now v signers =
    c.client.buildFor c.payments.cep78SetVariables (.call "set_variables" ⟨v.update.arguments⟩) now
      signers :=
  FacadeWrite.deploy_eq (.collectionSetVariables c v) now signers

theorem session_of_setVariables {d : SignedDeploy} (h : c.setVariables now v signers = .ok d) :
    ∃ contract, c.client.bound = some contract ∧
      d.session = .storedContract contract.contractHash.hash "set_variables"
        ⟨v.update.arguments⟩ := by
  rw [setVariables_eq] at h
  obtain ⟨motes, session, first, others, -, hItem, -, rfl⟩ :=
    ContractClient.buildFor_eq_ok_iff.mp h
  obtain ⟨contract, hBound, rfl⟩ := Option.map_eq_some_iff.mp hItem
  exact ⟨contract, hBound, rfl⟩

theorem exists_setVariables_iff : (∃ d, c.setVariables now v signers = .ok d) ↔
    (∃ motes, c.payments.cep78SetVariables.toMotes = .ok motes) ∧ signers ≠ [] ∧
      c.client.bound ≠ none := by
  constructor
  · rintro ⟨d, h⟩
    obtain ⟨contract, hBound, -⟩ := session_of_setVariables h
    rw [setVariables_eq] at h
    obtain ⟨motes, session, first, others, hMotes, -, rfl, -⟩ :=
      ContractClient.buildFor_eq_ok_iff.mp h
    refine ⟨⟨motes, hMotes⟩, List.cons_ne_nil first others, ?_⟩
    rw [hBound]
    exact Option.some_ne_none contract
  · rintro ⟨⟨motes, hMotes⟩, hSigners, hBound⟩
    obtain ⟨contract, hContract⟩ := Option.ne_none_iff_exists'.mp hBound
    obtain ⟨first, others, rfl⟩ := List.exists_cons_of_ne_nil hSigners
    have hItem : c.client.item? (.call "set_variables" ⟨v.update.arguments⟩) =
        some (DeployAssembler.call contract.contractHash "set_variables" ⟨v.update.arguments⟩) := by
      rw [ContractClient.item?, hContract, Option.map_some]
    rw [setVariables_eq]
    exact ⟨_, ContractClient.buildFor_cons hMotes hItem first others⟩

end SetVariables

/-- The variables that are set are sent, and the two sorts of updates never mix.

- If it is set whether minting is allowed, or which contracts may mint, there is one argument for
  each of the two that is set: the value, and the hashes of the contracts in their order. The list
  of those who may mint is not sent.
- Otherwise that list, if it is set, is the only argument: the keys of the identities in order.
- If nothing is set there are no arguments.
- The arguments can always be made, so an update is built exactly if its payment is a number of
  motes, somebody signs and the collection is known. The deploy has just these arguments. -/
theorem variables_are_sent_apart (v : Variables) :
    ∃ args, v.update.toRuntimeArgs = .ok args ∧
      (v.allowMinting.isSome ∨ v.contractWhitelist.isSome →
        SendsStandard v.allowMinting v.contractWhitelist args) ∧
      (∀ identities, v.allowMinting = none → v.contractWhitelist = none →
        v.aclWhitelist = some identities → SendsAcl identities args) ∧
      (v.allowMinting = none → v.contractWhitelist = none → v.aclWhitelist = none →
        args = .empty) ∧
      ∀ (c : Collection) (now : Timestamp) (signers : List Signer),
        ((∃ d, c.setVariables now v signers = .ok d) ↔
          (∃ motes, c.payments.cep78SetVariables.toMotes = .ok motes) ∧ signers ≠ [] ∧
            c.client.bound ≠ none) ∧
        ∀ d, c.setVariables now v signers = .ok d → ∃ contract, c.client.bound = some contract ∧
          d.session = .storedContract contract.contractHash.hash "set_variables" args := by
  refine ⟨_, v.update.toRuntimeArgs_eq, ?_, ?_, ?_, ?_⟩
  · intro hStandard
    rw [Variables.update_of_standard hStandard]
    exact sendsStandard_arguments v.allowMinting v.contractWhitelist
  · intro identities hMinting hContracts hAcl
    have hOther : ¬ v.SetsStandard := by simp [Variables.SetsStandard, hMinting, hContracts]
    rw [Variables.update_of_acl hOther hAcl]
    exact sendsAcl_arguments identities
  · intro hMinting hContracts hAcl
    have hOther : ¬ v.SetsStandard := by simp [Variables.SetsStandard, hMinting, hContracts]
    rw [Variables.update_of_none hOther hAcl]
    rfl
  · intro c now signers
    exact ⟨exists_setVariables_iff, fun d hBuilt => session_of_setVariables hBuilt⟩

/-- To forbid minting is sent without the list of those who may mint. The empty list is sent if
nothing else is set. -/
theorem variables_are_sent_apart_of_empty_list :
    let owner : Identity := ⟨.contract, default⟩
    let c : Collection := ⟨⟨⟨"casper", ⟨60000⟩, 1, none⟩, some ⟨owner, owner⟩⟩, {}⟩
    (∃ d, c.setVariables ⟨0⟩ { allowMinting := some false, aclWhitelist := some [owner] }
        [neutralSigner] = .ok d ∧
      d.session.args.names = ["allow_minting"] ∧
      d.session.args.read? "allow_minting" .bool = some false) ∧
    ∃ d, c.setVariables ⟨0⟩ { aclWhitelist := some [] } [neutralSigner] = .ok d ∧
      d.session.args.names = ["acl_whitelist"] ∧
      d.session.args.read? "acl_whitelist" (.list .key) = some [] := by
  intro owner c
  have hMotes : c.payments.cep78SetVariables.toMotes = .ok (.ofUInt64 6000000000) :=
    Outcome.eq_ok_of_toOption (by decide)
  have hBuilds : (∃ motes, c.payments.cep78SetVariables.toMotes = .ok motes) ∧
      [neutralSigner] ≠ [] ∧ c.client.bound ≠ none :=
    ⟨⟨_, hMotes⟩, List.cons_ne_nil _ _, nofun⟩
  constructor
  · obtain ⟨args, -, hStandard, -, -, hDeploys⟩ :=
      variables_are_sent_apart { allowMinting := some false, aclWhitelist := some [owner] }
    obtain ⟨hBuilt, hSession⟩ := hDeploys c ⟨0⟩ [neutralSigner]
    obtain ⟨d, hDeploy⟩ := hBuilt.mpr hBuilds
    obtain ⟨contract, -, hArgs⟩ := hSession d hDeploy
    have hSent := hStandard (.inl rfl)
    refine ⟨d, hDeploy, ?_, ?_⟩
    · rw [hArgs]
      exact hSent.names
    · rw [hArgs]
      exact (hSent.allowMinting false).mpr rfl
  · obtain ⟨args, -, -, hAcl, -, hDeploys⟩ := variables_are_sent_apart { aclWhitelist := some [] }
    obtain ⟨hBuilt, hSession⟩ := hDeploys c ⟨0⟩ [neutralSigner]
    obtain ⟨d, hDeploy⟩ := hBuilt.mpr hBuilds
    obtain ⟨contract, -, hArgs⟩ := hSession d hDeploy
    have hSent := hAcl [] rfl rfl rfl
    refine ⟨d, hDeploy, ?_, ?_⟩
    · rw [hArgs]
      exact hSent.names
    · rw [hArgs]
      exact (hSent.keys.read []).mpr ⟨by decide, rfl⟩

end Cep78

end Mintage
