import Mathlib.Tactic.Simproc.ExistsAndEq
import Mintage.Cep78.Collection
import Mintage.Minter
import Mintage.Proofs.Dialogue
import Mintage.Proofs.Node.Run
import Mintage.Proofs.Outcome

/-!
# Proofs: records that are read at once

The state of a minter and the description of a collection are read field by field, one after the
other, and all fields are read even if one of them fails. A node in memory stays what it is
meanwhile. So what comes of the whole is what comes of the single reads: the error of the first one
that fails, or a record of all values, each in the field of its own read.
-/

namespace Mintage

/-! ## Failures -/

namespace Outcome

variable {ε α β : Type}

/-- The error, if there is one. -/
def error? : Except ε α → Option ε
  | .ok _ => none
  | .error e => some e

theorem error?_eq_some_iff {x : Except ε α} {e : ε} : error? x = some e ↔ x = .error e := by
  cases x with
  | ok a => simp [error?]
  | error e' => simp [error?]

theorem error?_eq_none_iff {x : Except ε α} : error? x = none ↔ ∃ a, x = .ok a := by
  cases x with
  | ok a => simp [error?]
  | error e => simp [error?]

theorem error?_map (f : α → β) (x : Except ε α) : error? (f <$> x) = error? x := by
  cases x with
  | ok a => rfl
  | error e => rfl

/-- The first error counts. -/
theorem error?_seq (f : Except ε (α → β)) (x : Except ε α) :
    error? (f <*> x) = (error? f).or (error? x) := by
  cases f with
  | ok f => exact error?_map f x
  | error e => rfl

theorem seq_eq_ok_iff {f : Except ε (α → β)} {x : Except ε α} {b : β} :
    f <*> x = .ok b ↔ ∃ g, f = .ok g ∧ ∃ a, x = .ok a ∧ g a = b := by
  cases f with
  | error e => simp [Seq.seq, Except.bind]
  | ok g =>
    have hSeq : Except.ok g <*> x = g <$> x := rfl
    simp [hSeq, map_eq_ok_iff]

/-- A value of two steps is made of those of the steps, whatever is asked of it. -/
theorem exists_seq_iff {f : Except ε (α → β)} {x : Except ε α} {Q : β → Prop} :
    (∃ b, f <*> x = .ok b ∧ Q b) ↔ ∃ g, f = .ok g ∧ ∃ a, x = .ok a ∧ Q (g a) := by
  constructor
  · rintro ⟨b, hSeq, hQ⟩
    obtain ⟨g, hg, a, ha, rfl⟩ := seq_eq_ok_iff.mp hSeq
    exact ⟨g, hg, a, ha, hQ⟩
  · rintro ⟨g, hg, a, ha, hQ⟩
    exact ⟨g a, seq_eq_ok_iff.mpr ⟨g, hg, a, ha, rfl⟩, hQ⟩

theorem exists_map_iff {f : α → β} {x : Except ε α} {Q : β → Prop} :
    (∃ b, f <$> x = .ok b ∧ Q b) ↔ ∃ a, x = .ok a ∧ Q (f a) := by
  constructor
  · rintro ⟨b, hMap, hQ⟩
    obtain ⟨a, ha, rfl⟩ := map_eq_ok_iff.mp hMap
    exact ⟨a, ha, hQ⟩
  · rintro ⟨a, ha, hQ⟩
    exact ⟨f a, map_eq_ok_iff.mpr ⟨a, ha, rfl⟩, hQ⟩

end Outcome

/-! ## Snapshots of a node in memory -/

theorem MemoryNode.hold_bind {α β : Type} (n : MemoryNode) (d : NodeDialogue α)
    (f : α → NodeDialogue β) : n.hold (d >>= f) = (n.hold d).2.hold (f (n.hold d).1) :=
  Dialogue.run_bind_state d f n

/-- What comes of actions that leave a node in memory as it is. -/
structure Snapshot.Leaves {α : Type} (x : Snapshot α) (n : MemoryNode)
    (outcome : Except ClientError α) : Prop where
  hold : n.hold x.action.run = (outcome, n)

namespace Snapshot.Leaves

variable {n : MemoryNode} {α β : Type}

theorem map {x : Snapshot α} {outcome : Except ClientError α} (h : x.Leaves n outcome)
    (f : α → β) : (f <$> x).Leaves n (f <$> outcome) := by
  have hRun : (f <$> x).action.run = do return f <$> (← x.action.run) := ExceptT.run_map f x.action
  constructor
  rw [hRun, MemoryNode.hold_bind, h.hold]
  rfl

/-- The second action is held with the node that the first one leaves, whatever comes of it. -/
theorem seq {f : Snapshot (α → β)} {x : Snapshot α} {outcome : Except ClientError (α → β)}
    {outcome' : Except ClientError α} (hf : f.Leaves n outcome) (hx : x.Leaves n outcome') :
    (f <*> x).Leaves n (outcome <*> outcome') := by
  have hRun : (f <*> x).action.run = do
      let g ← f.action.run
      let a ← x.action.run
      return g <*> a := rfl
  constructor
  rw [hRun, MemoryNode.hold_bind, hf.hold, MemoryNode.hold_bind, hx.hold]
  rfl

theorem query (c : ContractClient) (path : List String)
    (decode : CLValue → Except CLValue.Error α) :
    Leaves ⟨c.queryNamedValue path decode⟩ n (n.hold (c.queryNamedValue path decode).run).1 := by
  have hNode : (n.hold (c.queryNamedValue path decode).run).2 = n := by
    obtain ⟨assembler, bound⟩ := c
    cases bound with
    | none => rfl
    | some contract => rfl
  exact ⟨Prod.ext rfl hNode⟩

end Snapshot.Leaves

/-! ## Fields -/

/-- A field of a record that is read from a contract, with the single read of it and the name of the
key under which the contract keeps it. -/
structure Reading (τ ρ : Type) where
  name : String
  {α : Type}
  decode : CLValue → Except CLValue.Error α
  read : τ → NodeAction α
  value : ρ → α

namespace Reading

variable {τ ρ : Type}

/-- What comes of the single read. -/
def outcome (n : MemoryNode) (t : τ) (f : Reading τ ρ) : Except ClientError f.α :=
  (n.hold (f.read t).run).1

/-- The error of the first single read that fails. -/
def firstError? (n : MemoryNode) (t : τ) (readings : List (Reading τ ρ)) : Option ClientError :=
  readings.findSome? fun f => Outcome.error? (f.outcome n t)

variable {readings : List (Reading τ ρ)} {n : MemoryNode} {t : τ}

theorem firstError?_nil : firstError? n t ([] : List (Reading τ ρ)) = none := rfl

theorem firstError?_cons (f : Reading τ ρ) :
    firstError? n t (f :: readings) =
      (Outcome.error? (f.outcome n t)).or (firstError? n t readings) := by
  rw [firstError?, List.findSome?_cons]
  cases Outcome.error? (f.outcome n t) with
  | none => rfl
  | some e => rfl

/-- A record is read as a whole as it is read field by field. -/
structure Gathers (readings : List (Reading τ ρ)) (client : τ → ContractClient)
    (whole : τ → NodeAction ρ) : Prop where
  names : (readings.map (·.name)).Nodup
  /-- The single reads are those of the named keys. -/
  named : ∀ f ∈ readings, ∀ t, f.read t = (client t).queryNamedValue [f.name] f.decode
  /-- Each field is what the single read of it yields. -/
  ok : ∀ n t r, (n.hold (whole t).run).1 = .ok r ↔
    ∀ f ∈ readings, f.outcome n t = .ok (f.value r)
  /-- There is a record whenever there is a value for each field. -/
  succeeds : ∀ n t, (∃ r, (n.hold (whole t).run).1 = .ok r) ↔
    ∀ f ∈ readings, ∃ x, f.outcome n t = .ok x
  /-- The first single read that fails tells the error. -/
  fails : ∀ n t e, (n.hold (whole t).run).1 = .error e ↔
    ∃ before f behind, readings = before ++ f :: behind ∧ f.outcome n t = .error e ∧
      ∀ f' ∈ before, ∃ x, f'.outcome n t = .ok x

theorem gathers_of {client : τ → ContractClient} {whole : τ → NodeAction ρ}
    (hNames : (readings.map (·.name)).Nodup)
    (hNamed : ∀ f ∈ readings, ∀ t, f.read t = (client t).queryNamedValue [f.name] f.decode)
    (hOk : ∀ n t r, (n.hold (whole t).run).1 = .ok r ↔
      ∀ f ∈ readings, f.outcome n t = .ok (f.value r))
    (hError : ∀ n t, Outcome.error? (n.hold (whole t).run).1 = firstError? n t readings) :
    Gathers readings client whole where
  names := hNames
  named := hNamed
  ok := hOk
  succeeds := by
    intro n t
    rw [← Outcome.error?_eq_none_iff, hError, firstError?, List.findSome?_eq_none_iff]
    exact forall₂_congr fun f _ => Outcome.error?_eq_none_iff
  fails := by
    intro n t e
    rw [← Outcome.error?_eq_some_iff, hError, firstError?, List.findSome?_eq_some_iff]
    simp only [Outcome.error?_eq_some_iff, Outcome.error?_eq_none_iff]

end Reading

/-! ## The state of a minter -/

namespace Minter

/-- The fields of the state, in the order in which they are read. -/
def State.readings : List (Reading Minter State) :=
  [⟨"admin", CLValue.asIdentity, (·.admin), (·.admin)⟩,
    ⟨"fund_manager", CLValue.asIdentity, (·.fundManager), (·.fundManager)⟩,
    ⟨"cep78_package_hash", CLValue.asIdentity, (·.cep78PackageHash), (·.cep78PackageHash)⟩,
    ⟨"mint_fee", CLValue.as .u256, (·.mintFee), (·.mintFee)⟩,
    ⟨"mint_count", CLValue.as .u64, (·.mintCount), (·.mintCount)⟩,
    ⟨"max_mint", CLValue.as .u64, (·.maxMint), (·.maxMint)⟩,
    ⟨"only_whitelist", CLValue.as .bool, (·.onlyWhitelist), (·.onlyWhitelist)⟩,
    ⟨"allow_mint", CLValue.as .bool, (·.allowMint), (·.allowMint)⟩]

theorem hold_state (n : MemoryNode) (m : Minter) : (n.hold m.state.run).1 =
    State.mk <$> (n.hold m.admin.run).1 <*> (n.hold m.fundManager.run).1
      <*> (n.hold m.cep78PackageHash.run).1 <*> (n.hold m.mintFee.run).1
      <*> (n.hold m.mintCount.run).1 <*> (n.hold m.maxMint.run).1
      <*> (n.hold m.onlyWhitelist.run).1 <*> (n.hold m.allowMint.run).1 := by
  have hQuery {α : Type} (name : String) (decode : CLValue → Except CLValue.Error α) :=
    Snapshot.Leaves.query (n := n) m.client [name] decode
  refine congrArg Prod.fst (Snapshot.Leaves.hold ?_)
  iterate 7 refine .seq ?_ (hQuery _ _)
  exact (hQuery _ _).map _

theorem gathers_state : Reading.Gathers State.readings client state := by
  refine Reading.gathers_of (by decide) ?_ ?_ ?_
  · simp only [State.readings, List.forall_mem_cons]
    exact ⟨fun _ => rfl, fun _ => rfl, fun _ => rfl, fun _ => rfl, fun _ => rfl, fun _ => rfl,
      fun _ => rfl, fun _ => rfl, nofun⟩
  · rintro n m ⟨⟩
    rw [hold_state, Outcome.seq_eq_ok_iff]
    simp only [Outcome.exists_seq_iff, Outcome.exists_map_iff, State.mk.injEq, existsAndEq,
      State.readings, List.forall_mem_cons, List.not_mem_nil, false_imp_iff, implies_true, and_true,
      Reading.outcome]
  · intro n m
    rw [hold_state]
    simp only [State.readings, Reading.firstError?_cons, Outcome.error?_seq, Outcome.error?_map,
      Option.or_assoc, Reading.firstError?_nil, Option.or_none, Reading.outcome]

end Minter

/-! ## The description of a collection -/

namespace Cep78

/-- The fields of the description, in the order in which they are read. -/
def CollectionInfo.readings : List (Reading Collection CollectionInfo) :=
  [⟨"collection_name", CLValue.as .string, (·.collectionName), (·.collectionName)⟩,
    ⟨"collection_symbol", CLValue.as .string, (·.collectionSymbol), (·.collectionSymbol)⟩,
    ⟨"total_token_supply", CLValue.as .u64, (·.totalTokenSupply), (·.totalTokenSupply)⟩,
    ⟨"number_of_minted_tokens", CLValue.as .u64, (·.numberOfMintedTokens),
      (·.numberOfMintedTokens)⟩,
    ⟨"allow_minting", CLValue.as .bool, (·.allowMinting), (·.allowMinting)⟩,
    ⟨"ownership_mode", CLValue.as (.mode .ownership), (·.mode .ownership "ownership_mode"),
      (·.ownershipMode)⟩,
    ⟨"nft_kind", CLValue.as (.mode .nftKind), (·.mode .nftKind "nft_kind"), (·.nftKind)⟩,
    ⟨"holder_mode", CLValue.as (.mode .holder), (·.mode .holder "holder_mode"), (·.holderMode)⟩,
    ⟨"whitelist_mode", CLValue.as (.mode .whitelist), (·.mode .whitelist "whitelist_mode"),
      (·.whitelistMode)⟩,
    ⟨"minting_mode", CLValue.as (.mode .minting), (·.mode .minting "minting_mode"),
      (·.mintingMode)⟩,
    ⟨"nft_metadata_kind", CLValue.as (.mode .metadataKind), (·.nftMetadataKind),
      (·.nftMetadataKind)⟩,
    ⟨"identifier_mode", CLValue.as (.mode .identifier), (·.mode .identifier "identifier_mode"),
      (·.identifierMode)⟩,
    ⟨"metadata_mutability", CLValue.as (.mode .metadataMutability),
      (·.mode .metadataMutability "metadata_mutability"), (·.metadataMutability)⟩,
    ⟨"burn_mode", CLValue.as (.mode .burn), (·.mode .burn "burn_mode"), (·.burnMode)⟩,
    ⟨"reporting_mode", CLValue.as (.mode .ownerReverseLookup),
      (·.mode .ownerReverseLookup "reporting_mode"), (·.reportingMode)⟩]

theorem hold_info (n : MemoryNode) (c : Collection) : (n.hold c.info.run).1 =
    CollectionInfo.mk <$> (n.hold c.collectionName.run).1
      <*> (n.hold c.collectionSymbol.run).1
      <*> (n.hold c.totalTokenSupply.run).1
      <*> (n.hold c.numberOfMintedTokens.run).1
      <*> (n.hold c.allowMinting.run).1
      <*> (n.hold (c.mode .ownership "ownership_mode").run).1
      <*> (n.hold (c.mode .nftKind "nft_kind").run).1
      <*> (n.hold (c.mode .holder "holder_mode").run).1
      <*> (n.hold (c.mode .whitelist "whitelist_mode").run).1
      <*> (n.hold (c.mode .minting "minting_mode").run).1
      <*> (n.hold c.nftMetadataKind.run).1
      <*> (n.hold (c.mode .identifier "identifier_mode").run).1
      <*> (n.hold (c.mode .metadataMutability "metadata_mutability").run).1
      <*> (n.hold (c.mode .burn "burn_mode").run).1
      <*> (n.hold (c.mode .ownerReverseLookup "reporting_mode").run).1 := by
  have hQuery {α : Type} (name : String) (decode : CLValue → Except CLValue.Error α) :=
    Snapshot.Leaves.query (n := n) c.client [name] decode
  refine congrArg Prod.fst (Snapshot.Leaves.hold ?_)
  iterate 14 refine .seq ?_ (hQuery _ _)
  exact (hQuery _ _).map _

theorem gathers_info :
    Reading.Gathers CollectionInfo.readings Collection.client Collection.info := by
  refine Reading.gathers_of (by decide) ?_ ?_ ?_
  · simp only [CollectionInfo.readings, List.forall_mem_cons]
    exact ⟨fun _ => rfl, fun _ => rfl, fun _ => rfl, fun _ => rfl, fun _ => rfl, fun _ => rfl,
      fun _ => rfl, fun _ => rfl, fun _ => rfl, fun _ => rfl, fun _ => rfl, fun _ => rfl,
      fun _ => rfl, fun _ => rfl, fun _ => rfl, nofun⟩
  · rintro n c ⟨⟩
    rw [hold_info, Outcome.seq_eq_ok_iff]
    simp only [Outcome.exists_seq_iff, Outcome.exists_map_iff, CollectionInfo.mk.injEq, existsAndEq,
      CollectionInfo.readings, List.forall_mem_cons, List.not_mem_nil, false_imp_iff, implies_true,
      and_true, Reading.outcome]
  · intro n c
    rw [hold_info]
    simp only [CollectionInfo.readings, Reading.firstError?_cons, Outcome.error?_seq,
      Outcome.error?_map, Option.or_assoc, Reading.firstError?_nil, Option.or_none,
      Reading.outcome]

end Cep78

/-- The state of a minter and the description of a collection are read as their fields are, from any
node in memory and by any client, bound or not. Each field is read from the named key of its own.
There is a record exactly if all single reads succeed, and each field of it is what its own single
read yields; else the error is that of the first single read that fails. -/
theorem snapshots_equal_single_reads :
    Reading.Gathers Minter.State.readings Minter.client Minter.state ∧
    Reading.Gathers Cep78.CollectionInfo.readings Cep78.Collection.client Cep78.Collection.info :=
  ⟨Minter.gathers_state, Cep78.gathers_info⟩

end Mintage
