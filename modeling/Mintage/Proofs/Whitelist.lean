import Mintage.Proofs.Hex
import Mintage.Proofs.Node.Lookups
import Mintage.Proofs.Node.StoredValues
import Mintage.Proofs.Writes

/-!
# Proofs: what becomes of the whitelist

An update of the whitelist is sent as a list of accounts and a list of values. Each list has an item
for each entry, in the order of the entries, so the two are put together again place by place. The
bytes of the lists determine the entries, however many there are, since each item has a fixed width.

The contract keeps the value of an account under an item key that is made of the bytes of its hash.
Entries for one hash, be it of an account or of a contract, are thus written to one item, where the
last one stays, and to no other item, unless byte strings that are hashed for the items collide.
-/

namespace Mintage

open Wire

/-! ## Accounts -/

theorem Identity.length_encode_toKey (i : Identity) : i.toKey.encode.length = 33 := by
  obtain ⟨kind, hash⟩ := i
  cases kind with
  | account => exact congrArg (· + 1) hash.length_bytes
  | contract => exact congrArg (· + 1) hash.length_bytes

/-! ## Lists as arguments -/

theorem NamedArg.length_encode (a : NamedArg) : a.encode.length =
    (encodeString a.name).length + (4 + a.value.bytes.length + a.value.clType.encode.length) := by
  simp only [encode, CLValue.encode, encodeBlob, List.length_append, length_encodeLength]

theorem NamedArg.length_encode_list (name : String) (item : Shape) (xs : List item.Value)
    {width : Nat} (hWidth : ∀ x ∈ xs, (item.encode x).length = width) :
    (of name (.list item) xs).encode.length =
      (of name (.list item) []).encode.length + xs.length * width := by
  have hBytes : (Shape.encode (.list item) xs).length = 4 + xs.length * width :=
    length_encodeList hWidth
  have hNone : (Shape.encode (.list item) []).length = 4 := rfl
  rw [length_encode, length_encode]
  simp only [of, CLValue.of, hBytes, hNone]
  omega

/-- Arguments of one length are told apart, be their bytes too many for a length or not. -/
theorem NamedArg.encode_append_inj {name : String} {s : Shape} {x y : s.Value} {r t : Bytes}
    (hLength : (of name s x).encode.length = (of name s y).encode.length)
    (h : (of name s x).encode ++ r = (of name s y).encode ++ t) :
    s.encode x = s.encode y ∧ r = t := by
  obtain ⟨hArg, hRest⟩ := List.append_inj h hLength
  have hBlob : encodeBlob (s.encode x) = encodeBlob (s.encode y) :=
    List.append_cancel_right (List.append_cancel_left hArg)
  have hCount : (encodeLength (s.encode x).length).length =
      (encodeLength (s.encode y).length).length := by
    rw [length_encodeLength, length_encodeLength]
  exact ⟨(List.append_inj hBlob hCount).2, hRest⟩

/-- The value of an argument, read as a shape. -/
def RuntimeArgs.read? (a : RuntimeArgs) (name : String) (s : Shape) : Option s.Value :=
  (a.get? name).bind fun v => (v.as s).toOption

namespace Minter

/-! ## Entries -/

namespace WhitelistEntry

/-- The entry of an account and the value at its place. -/
def ofPair? : Key × Bool → Option WhitelistEntry
  | (key, value) => key.identity?.map fun account => ⟨account, value⟩

/-- The entries of a list of accounts and a list of values, place by place. -/
def ofLists? (accounts : List Key) (values : List Bool) : Option (List WhitelistEntry) :=
  (accounts.zip values).mapM ofPair?

theorem ofLists?_map (entries : List WhitelistEntry) :
    ofLists? (entries.map (·.account.toKey)) (entries.map (·.value)) = some entries := by
  rw [ofLists?, List.zip_map']
  induction entries with
  | nil => rfl
  | cons e entries ih =>
    have hEntry : ofPair? (e.account.toKey, e.value) = some e := by
      rw [ofPair?, Key.identity?_eq_some_iff.mpr rfl, Option.map_some]
    rw [List.map_cons, List.mapM_cons, hEntry, ih]
    rfl

theorem eq_of_lists {entries others : List WhitelistEntry}
    (hAccounts : entries.map (·.account.toKey) = others.map (·.account.toKey))
    (hValues : entries.map (·.value) = others.map (·.value)) : entries = others := by
  have hEntries := ofLists?_map entries
  rw [hAccounts, hValues, ofLists?_map] at hEntries
  exact (Option.some.inj hEntries).symm

end WhitelistEntry

/-- The entries that the arguments of an update list. -/
def listedEntries? (args : RuntimeArgs) : Option (List WhitelistEntry) := do
  let accounts ← args.read? "whitelist_accounts" (.list .key)
  let values ← args.read? "whitelist_values" (.list .bool)
  WhitelistEntry.ofLists? accounts values

section Arguments

variable {entries others listed : List WhitelistEntry}

theorem read?_accounts_eq_some_iff {accounts : List Key} :
    RuntimeArgs.read? ⟨whitelistArguments entries⟩ "whitelist_accounts" (.list .key) =
      some accounts ↔ LengthFits entries.length ∧ accounts = entries.map (·.account.toKey) := by
  have hList := CLValue.as_list_of_eq_ok_iff .key (entries.map (·.account.toKey)) accounts
    Key.exact_decode rfl Key.encode_ne_nil
  rw [List.length_map] at hList
  exact Outcome.toOption_eq_some_iff.trans hList

theorem read?_values_eq_some_iff {values : List Bool} :
    RuntimeArgs.read? ⟨whitelistArguments entries⟩ "whitelist_values" (.list .bool) =
      some values ↔ LengthFits entries.length ∧ values = entries.map (·.value) := by
  have hList := CLValue.as_list_of_eq_ok_iff .bool (entries.map (·.value)) values
    exact_decodeBool rfl fun _ => List.cons_ne_nil _ _
  rw [List.length_map] at hList
  exact Outcome.toOption_eq_some_iff.trans hList

theorem listedEntries?_eq_some_iff :
    listedEntries? ⟨whitelistArguments entries⟩ = some listed ↔
      LengthFits entries.length ∧ listed = entries := by
  constructor
  · intro h
    obtain ⟨accounts, hAccounts, hMore⟩ := Option.bind_eq_some_iff.mp h
    obtain ⟨values, hValues, hListed⟩ := Option.bind_eq_some_iff.mp hMore
    obtain ⟨hLength, rfl⟩ := read?_accounts_eq_some_iff.mp hAccounts
    obtain ⟨-, rfl⟩ := read?_values_eq_some_iff.mp hValues
    rw [WhitelistEntry.ofLists?_map] at hListed
    exact ⟨hLength, (Option.some.inj hListed).symm⟩
  · rintro ⟨hLength, rfl⟩
    rw [listedEntries?, read?_accounts_eq_some_iff.mpr ⟨hLength, rfl⟩,
      read?_values_eq_some_iff.mpr ⟨hLength, rfl⟩]
    exact WhitelistEntry.ofLists?_map listed

theorem length_encode_accountsArgument (entries : List WhitelistEntry) :
    (accountsArgument entries).encode.length =
      (accountsArgument []).encode.length + entries.length * 33 := by
  have hWidth : ∀ k ∈ entries.map (·.account.toKey), k.encode.length = 33 := by
    intro k hk
    obtain ⟨e, -, rfl⟩ := List.mem_map.mp hk
    exact e.account.length_encode_toKey
  have hLength := NamedArg.length_encode_list "whitelist_accounts" .key _ hWidth
  rwa [List.length_map] at hLength

theorem length_encode_valuesArgument (entries : List WhitelistEntry) :
    (valuesArgument entries).encode.length =
      (valuesArgument []).encode.length + entries.length * 1 := by
  have hWidth : ∀ b ∈ entries.map (·.value), (encodeBool b).length = 1 := fun _ _ => rfl
  have hLength := NamedArg.length_encode_list "whitelist_values" .bool _ hWidth
  rwa [List.length_map] at hLength

/-- The bytes of an update determine its entries. They tell how many there are, since all have the
same width. -/
theorem encode_whitelistArguments_injective
    (h : RuntimeArgs.encode ⟨whitelistArguments entries⟩ =
      RuntimeArgs.encode ⟨whitelistArguments others⟩) : entries = others := by
  have hArgs : (accountsArgument entries).encode ++ ((valuesArgument entries).encode ++ []) =
      (accountsArgument others).encode ++ ((valuesArgument others).encode ++ []) :=
    List.append_cancel_left h
  -- The four bytes in front of a list do not tell its length if it does not fit; all bytes do.
  have hLength : entries.length = others.length := by
    have hWhole := congrArg List.length hArgs
    rw [List.length_append, List.length_append, List.length_append, List.length_append,
      length_encode_accountsArgument entries, length_encode_accountsArgument others,
      length_encode_valuesArgument entries, length_encode_valuesArgument others] at hWhole
    omega
  have hAccounts : (accountsArgument entries).encode.length =
      (accountsArgument others).encode.length := by
    rw [length_encode_accountsArgument entries, length_encode_accountsArgument others, hLength]
  have hValues : (valuesArgument entries).encode.length =
      (valuesArgument others).encode.length := by
    rw [length_encode_valuesArgument entries, length_encode_valuesArgument others, hLength]
  obtain ⟨hKeys, hMore⟩ := NamedArg.encode_append_inj hAccounts hArgs
  obtain ⟨hBools, -⟩ := NamedArg.encode_append_inj hValues hMore
  refine WhitelistEntry.eq_of_lists ?_ ?_
  · exact Key.exact_decode.prefixFree.encodeList_injective Key.encode_ne_nil hKeys
  · exact exact_decodeBool.prefixFree.encodeList_injective (fun _ => List.cons_ne_nil _ _) hBools

end Arguments

theorem args_of_setWhitelist {m : Minter} {now : Timestamp} {entries : List WhitelistEntry}
    {signers : List Signer} {d : SignedDeploy} (h : m.setWhitelist now entries signers = .ok d) :
    ∃ contract, m.client.bound = some contract ∧
      d.session.args = ⟨whitelistArguments entries⟩ := by
  have hBuilt := (FacadeWrite.deploy_eq (.minterSetWhitelist m entries) now signers).symm.trans h
  obtain ⟨motes, session, first, others, -, hItem, -, rfl⟩ :=
    ContractClient.buildFor_eq_ok_iff.mp hBuilt
  obtain ⟨contract, hBound, rfl⟩ := Option.map_eq_some_iff.mp hItem
  exact ⟨contract, hBound, rfl⟩

/-! ## The dictionary -/

/-- The place of the item for an account in the whitelist of a minter. -/
def whitelistPlace (contract account : Identity) : ItemPlace :=
  contract.place "whitelist_dict" account.itemKey

/-- What a minter writes for an entry. -/
def whitelistWrite (contract : Identity) (e : WhitelistEntry) : NodeOperation :=
  .putItem contract "whitelist_dict" e.account.itemKey (.of .bool e.value)

theorem itemWrite?_whitelistWrite (contract : Identity) (e : WhitelistEntry) :
    (whitelistWrite contract e).itemWrite? =
      some (whitelistPlace contract e.account, some (.of .bool e.value)) := rfl

/-- What a minter writes for entries, one after the other. -/
def whitelistWrites (contract : Identity) (entries : List WhitelistEntry) : List NodeOperation :=
  entries.map (whitelistWrite contract)

/-- All that is hashed to write entries and to read the item for an account. -/
def whitelistHashed (contract : Identity) (entries : List WhitelistEntry) (account : Identity) :
    List Bytes :=
  ItemPlace.hashed
    (whitelistPlace contract account :: NodeOperation.places (whitelistWrites contract entries))

section Dictionary

variable {contract account : Identity} {entries : List WhitelistEntry} {e : WhitelistEntry}

theorem whitelistPlace_eq_of_hash {i j : Identity} (h : i.hash = j.hash) :
    whitelistPlace contract i = whitelistPlace contract j := by
  rw [whitelistPlace, Identity.itemKey_eq_iff.mpr h, whitelistPlace]

/-- Without a collision an entry is written under the address of an account only if it has the bytes
of that account. -/
theorem hash_eq_of_address
    (hFree : ¬ Blake2b.CollisionAmong (whitelistHashed contract entries account))
    (he : e ∈ entries)
    (hAddress : (whitelistPlace contract e.account).address =
      (whitelistPlace contract account).address) : e.account.hash = account.hash := by
  have hWritten : whitelistPlace contract e.account ∈
      NodeOperation.places (whitelistWrites contract entries) :=
    NodeOperation.mem_places (List.mem_map_of_mem he) (itemWrite?_whitelistWrite contract e)
  have hPlace := (ItemPlace.eq_or_collision (List.mem_cons_of_mem _ hWritten) List.mem_cons_self
    hAddress).resolve_right hFree
  exact Identity.itemKey_eq_iff.mp (congrArg ItemPlace.itemKey hPlace)

theorem write_ne_of_other
    (hFree : ¬ Blake2b.CollisionAmong (whitelistHashed contract entries account))
    (he : e ∈ entries) (hOther : e.account.hash ≠ account.hash) (value : Option CLValue) :
    some ((whitelistPlace contract e.account).address, some (CLValue.of .bool e.value)) ≠
      some ((whitelistPlace contract account).address, value) := by
  intro hWrite
  exact hOther (hash_eq_of_address hFree he (Prod.mk.inj (Option.some.inj hWrite)).1)

variable (n : MemoryNode)

theorem found_whitelistWrites (value : Option CLValue) :
    (n.run (whitelistWrites contract entries)).found value = n.found value := by
  have hSwitch : (whitelistWrites contract entries).filterMap NodeOperation.switch? = [] := by
    refine List.filterMap_eq_nil_iff.mpr ?_
    intro op hOp
    obtain ⟨e, -, rfl⟩ := List.mem_map.mp hOp
    rfl
  have hUnavailable : (n.run (whitelistWrites contract entries)).isUnavailable =
      n.isUnavailable := by
    rw [MemoryNode.isUnavailable_run, hSwitch]
    rfl
  simp only [MemoryNode.found, hUnavailable]

/-- The last entry for the bytes of an account stays. -/
theorem get?_whitelistWrites_of_last
    (hFree : ¬ Blake2b.CollisionAmong (whitelistHashed contract entries account))
    {before later : List WhitelistEntry} (hSplit : entries = before ++ e :: later)
    (hHash : e.account.hash = account.hash)
    (hLater : ∀ o ∈ later, o.account.hash ≠ account.hash) :
    (n.run (whitelistWrites contract entries)).items.get?
      (whitelistPlace contract account).address = some (.of .bool e.value) := by
  rw [MemoryNode.get?_run_items, PlainMap.after_eq_some_iff]
  -- It was put, and what is written later has other addresses.
  refine .inl ⟨_, _, _, by rw [hSplit, whitelistWrites, List.map_append, List.map_cons], ?_, ?_⟩
  · exact congrArg (fun place : ItemPlace => some (place.address, _))
      (whitelistPlace_eq_of_hash hHash)
  · intro op hOp value
    obtain ⟨o, ho, rfl⟩ := List.mem_map.mp hOp
    have hMem : o ∈ entries := hSplit ▸ List.mem_append_right _ (List.mem_cons_of_mem e ho)
    exact write_ne_of_other hFree hMem (hLater o ho) value

theorem get?_whitelistWrites_of_other
    (hFree : ¬ Blake2b.CollisionAmong (whitelistHashed contract entries account))
    (hOther : ∀ e ∈ entries, e.account.hash ≠ account.hash) :
    (n.run (whitelistWrites contract entries)).items.get?
      (whitelistPlace contract account).address =
        n.items.get? (whitelistPlace contract account).address := by
  rw [MemoryNode.get?_run_items]
  refine PlainMap.after_of_apart ?_
  intro op hOp value
  obtain ⟨e, he, rfl⟩ := List.mem_map.mp hOp
  exact write_ne_of_other hFree he (hOther e he) value

theorem hold_isWhitelisted {m : Minter} {address : ContractAddress}
    (hBound : m.client.bound = some address) (account : Identity) :
    (n.hold (m.isWhitelisted account).run).1 =
      ContractClient.withDefault false (Dictionary.outcome (CLValue.as .bool)
        (n.found (n.items.get? (whitelistPlace address.contractHash account).address))) :=
  congrArg Prod.fst (ContractClient.run_withDefault hBound false MemoryNode.answer n)

end Dictionary

/-- An update of the whitelist reaches just the accounts that are meant.

- The arguments can be made of any entries. The accounts and the values are read back in the order
  of the entries, one for each, exactly if their number fits into the four bytes of a length.
- The bytes of the arguments determine the entries.
- Once the entries that a deploy lists have been written to a node in memory, one after the other,
  an account is on the whitelist as the last entry for the bytes of its hash says. An account
  without an entry is what it was. This holds unless byte strings that were hashed for the items
  collide. -/
theorem whitelist_reaches_accounts :
    (∀ entries : List WhitelistEntry, ∃ args, whitelistArgs entries = .ok args ∧
      (∀ accounts : List Key, args.read? "whitelist_accounts" (.list .key) = some accounts ↔
        LengthFits entries.length ∧ accounts = entries.map (·.account.toKey)) ∧
      (∀ values : List Bool, args.read? "whitelist_values" (.list .bool) = some values ↔
        LengthFits entries.length ∧ values = entries.map (·.value)) ∧
      ∀ listed, listedEntries? args = some listed ↔
        LengthFits entries.length ∧ listed = entries) ∧
    (∀ (entries others : List WhitelistEntry) (args otherArgs : RuntimeArgs),
      whitelistArgs entries = .ok args → whitelistArgs others = .ok otherArgs →
        args.encode = otherArgs.encode → entries = others) ∧
    ∀ (m : Minter) (now : Timestamp) (entries : List WhitelistEntry) (signers : List Signer)
        (d : SignedDeploy), m.setWhitelist now entries signers = .ok d →
      ∃ contract, m.client.bound = some contract ∧
        (LengthFits entries.length → listedEntries? d.session.args = some entries) ∧
        ∀ listed, listedEntries? d.session.args = some listed →
          ∀ (n : MemoryNode) (account : Identity),
            let written := n.run (whitelistWrites contract.contractHash listed)
            let status := (written.hold (m.isWhitelisted account).run).1
            ¬ Blake2b.CollisionAmong (whitelistHashed contract.contractHash listed account) →
              (∀ before e later, entries = before ++ e :: later →
                e.account.hash = account.hash → (∀ o ∈ later, o.account.hash ≠ account.hash) →
                n.isUnavailable = false → status = .ok e.value) ∧
              ((∀ e ∈ entries, e.account.hash ≠ account.hash) →
                status = (n.hold (m.isWhitelisted account).run).1) := by
  refine ⟨?_, ?_, ?_⟩
  · intro entries
    refine ⟨_, whitelistArgs_eq entries, ?_, ?_, ?_⟩
    · intro accounts
      exact read?_accounts_eq_some_iff
    · intro values
      exact read?_values_eq_some_iff
    · intro listed
      exact listedEntries?_eq_some_iff
  · intro entries others args otherArgs hArgs hOtherArgs hBytes
    rw [whitelistArgs_eq] at hArgs hOtherArgs
    cases hArgs
    cases hOtherArgs
    exact encode_whitelistArguments_injective hBytes
  · intro m now entries signers d hDeploy
    obtain ⟨contract, hBound, hArgs⟩ := args_of_setWhitelist hDeploy
    rw [hArgs]
    refine ⟨contract, hBound, ?_, ?_⟩
    · intro hLength
      exact listedEntries?_eq_some_iff.mpr ⟨hLength, rfl⟩
    · intro listed hListed n account written status hFree
      obtain ⟨-, rfl⟩ := listedEntries?_eq_some_iff.mp hListed
      have hStatus : status = _ := hold_isWhitelisted written hBound account
      refine ⟨?_, ?_⟩
      · intro before e later hSplit hHash hLater hAvailable
        rw [hStatus, found_whitelistWrites,
          get?_whitelistWrites_of_last n hFree hSplit hHash hLater,
          MemoryNode.found_of_available hAvailable, ContractClient.withDefault_eq_ok_iff]
        exact .inr ⟨_, rfl, CLValue.as_bool_eq_ok_iff.mpr rfl⟩
      · intro hOther
        rw [hStatus, found_whitelistWrites, get?_whitelistWrites_of_other n hFree hOther,
          hold_isWhitelisted n hBound]

/-- An account and a contract under one hash share an item, where the later entry stays. -/
theorem whitelist_reaches_accounts_of_shared_hash :
    let contract : Identity := ⟨.contract, default⟩
    let account : Identity := ⟨.account, default⟩
    let m : Minter := ⟨⟨⟨"casper", ⟨60000⟩, 1, none⟩, some ⟨contract, contract⟩⟩, {}⟩
    let entries : List WhitelistEntry := [⟨account, false⟩, ⟨contract, true⟩]
    let written := MemoryNode.run {} (whitelistWrites contract entries)
    ∃ d, m.setWhitelist ⟨0⟩ entries [neutralSigner] = .ok d ∧
      listedEntries? d.session.args = some entries ∧
      (written.hold (m.isWhitelisted account).run).1 = .ok true := by
  intro contract account m entries written
  let place := whitelistPlace contract account
  have hMotes : m.payments.minterSetWhitelist.toMotes = .ok (.ofUInt64 2000000000) :=
    Outcome.eq_ok_of_toOption (by decide)
  have hDeploy := (FacadeWrite.deploy_eq (.minterSetWhitelist m entries) ⟨0⟩ [neutralSigner]).trans
    (ContractClient.buildFor_cons hMotes rfl neutralSigner [])
  have hDigests : Blake2b.digest place.seedBytes ≠ Blake2b.digest place.itemBytes := by
    decide +kernel
  have hPlaces : whitelistHashed contract entries account =
      ItemPlace.hashed [place, place, place] := rfl
  have hHashed : ∀ bs ∈ whitelistHashed contract entries account,
      bs = place.seedBytes ∨ bs = place.itemBytes := by
    rw [hPlaces]
    intro bs hbs
    simpa [ItemPlace.hashed] using hbs
  have hFree : ¬ Blake2b.CollisionAmong (whitelistHashed contract entries account) := by
    rintro ⟨bs, hbs, cs, hcs, hDistinct, hDigest⟩
    rcases hHashed bs hbs with rfl | rfl
    · rcases hHashed cs hcs with rfl | rfl
      · exact hDistinct rfl
      · exact hDigests hDigest
    · rcases hHashed cs hcs with rfl | rfl
      · exact hDigests hDigest.symm
      · exact hDistinct rfl
  obtain ⟨-, -, hUpdates⟩ := whitelist_reaches_accounts
  obtain ⟨_, hBound, hListed, hReached⟩ := hUpdates m ⟨0⟩ entries [neutralSigner] _ hDeploy
  cases hBound
  have hEntries := hListed (by decide)
  refine ⟨_, hDeploy, hEntries, ?_⟩
  exact (hReached entries hEntries {} account hFree).1 [⟨account, false⟩] ⟨contract, true⟩ []
    rfl rfl (by simp) rfl

end Minter

end Mintage
