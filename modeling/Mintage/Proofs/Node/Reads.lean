import Mintage.Cep18.Token
import Mintage.Cep78.Collection
import Mintage.Minter
import Mintage.Proofs.Dialogue
import Mintage.Proofs.Node.Replies
import Mintage.Proofs.Node.Run

/-!
# Proofs: reads from a node in memory and over JSON-RPC

A client that only reads cannot tell a node in memory from a server on the network, as long as the
server tells what the node holds. One query shows this: what the server replies is taken for what
the node answers, whether that takes one call or two. From it the same follows for whole dialogues,
by induction on the dialogue, and all reads of clients are dialogues of queries.

There are values that no server can tell: the reader gives up where arrays and objects of a value
that it reads are nested more than 127 deep.
-/

namespace Mintage

open Json

/-! ## Dialogues of queries -/

/-- Whether a request asks for something that a contract stores. -/
def NodeRequest.IsQuery : NodeRequest → Prop
  | submit _ => False
  | namedValue _ _ => True
  | dictionaryItem _ _ _ => True

/-- No question outside of `P` is asked, whatever the answers are. -/
def Dialogue.Within {Q : Type} {A : Q → Type} {α : Type} (P : Q → Prop) : Dialogue Q A α → Prop
  | done _ => True
  | ask q next => P q ∧ ∀ a, (next a).Within P

theorem Dialogue.Within.bind {Q : Type} {A : Q → Type} {α β : Type} {P : Q → Prop}
    {d : Dialogue Q A α} {f : α → Dialogue Q A β} (h : d.Within P) (hf : ∀ a, (f a).Within P) :
    (d >>= f).Within P := by
  induction d with
  | done a => exact hf a
  | ask q next ih => exact ⟨h.1, fun a => ih a (h.2 a)⟩

/-- An action that asks a node for nothing but what contracts store. -/
structure NodeAction.IsRead {α : Type} (a : NodeAction α) : Prop where
  within : a.run.Within NodeRequest.IsQuery

namespace NodeAction

variable {α β : Type}

theorem isRead_ofExcept (e : Except ClientError α) : (ofExcept e).IsRead := ⟨trivial⟩

theorem isRead_pure (a : α) : (pure a : NodeAction α).IsRead := ⟨trivial⟩

theorem isRead_throw (e : ClientError) : (throw e : NodeAction α).IsRead := ⟨trivial⟩

theorem IsRead.bind {a : NodeAction α} {f : α → NodeAction β} (h : a.IsRead)
    (hf : ∀ x, (f x).IsRead) : (a >>= f).IsRead := by
  refine ⟨h.within.bind fun result => ?_⟩
  cases result with
  | ok x => exact (hf x).within
  | error e => trivial

theorem IsRead.map {a : NodeAction α} (h : a.IsRead) (f : α → β) : (f <$> a).IsRead := by
  refine ⟨h.within.bind fun result => ?_⟩
  cases result with
  | ok x => trivial
  | error e => trivial

end NodeAction

namespace Snapshot

variable {α β : Type}

/-- Actions none of which asks for anything but what contracts store. -/
structure IsRead (x : Snapshot α) : Prop where
  action : x.action.IsRead

theorem IsRead.map {x : Snapshot α} (h : x.IsRead) (f : α → β) : (f <$> x).IsRead :=
  ⟨h.action.map f⟩

theorem IsRead.seq {f : Snapshot (α → β)} {x : Snapshot α} (hf : f.IsRead) (hx : x.IsRead) :
    (f <*> x).IsRead :=
  ⟨⟨hf.action.within.bind fun _ => hx.action.within.bind fun _ => trivial⟩⟩

end Snapshot

namespace ContractClient

variable {α : Type} (c : ContractClient)

theorem isRead_queryNamedValue (path : List String) (decode : CLValue → Except CLValue.Error α) :
    (c.queryNamedValue path decode).IsRead :=
  (NodeAction.isRead_ofExcept c.address).bind fun _ => ⟨trivial, fun _ => trivial⟩

theorem isRead_queryItem (dictionary itemKey : String)
    (decode : CLValue → Except CLValue.Error α) : (c.queryItem dictionary itemKey decode).IsRead :=
  (NodeAction.isRead_ofExcept c.address).bind fun _ => ⟨trivial, fun _ => trivial⟩

end ContractClient

/-! ## The reads of clients -/

/-- The reads of clients: queries and lookups of any client, and what the façades read. -/
inductive ClientRead : {α : Type} → NodeAction α → Prop where
  | namedValue {α : Type} (c : ContractClient) (path : List String)
      (decode : CLValue → Except CLValue.Error α) : ClientRead (c.queryNamedValue path decode)
  | item {α : Type} (c : ContractClient) (dictionary itemKey : String)
      (decode : CLValue → Except CLValue.Error α) :
      ClientRead (c.queryItem dictionary itemKey decode)
  | dictionary {α : Type} (c : ContractClient) (dictionary : String) (i : Identity)
      (decode : CLValue → Except CLValue.Error α) :
      ClientRead (c.queryDictionary dictionary i decode)
  | minterAdmin (m : Minter) : ClientRead m.admin
  | minterFundManager (m : Minter) : ClientRead m.fundManager
  | minterPackage (m : Minter) : ClientRead m.cep78PackageHash
  | minterMintFee (m : Minter) : ClientRead m.mintFee
  | minterMintCount (m : Minter) : ClientRead m.mintCount
  | minterMaxMint (m : Minter) : ClientRead m.maxMint
  | minterOnlyWhitelist (m : Minter) : ClientRead m.onlyWhitelist
  | minterAllowMint (m : Minter) : ClientRead m.allowMint
  | minterState (m : Minter) : ClientRead m.state
  | minterMintCost (m : Minter) (count : UInt64) : ClientRead (m.mintCost count)
  | minterNativeMintArgs (m : Minter) (nftOwner : Identity) (count : UInt64) :
      ClientRead (m.nativeMintArgs nftOwner count)
  | minterWhitelistEntry (m : Minter) (account : Identity) : ClientRead (m.whitelistEntry account)
  | minterIsWhitelisted (m : Minter) (account : Identity) : ClientRead (m.isWhitelisted account)
  | collectionName (c : Cep78.Collection) : ClientRead c.collectionName
  | collectionSymbol (c : Cep78.Collection) : ClientRead c.collectionSymbol
  | collectionTokenSupply (c : Cep78.Collection) : ClientRead c.totalTokenSupply
  | collectionMintedTokens (c : Cep78.Collection) : ClientRead c.numberOfMintedTokens
  | collectionMetadataKind (c : Cep78.Collection) : ClientRead c.nftMetadataKind
  | collectionMode (c : Cep78.Collection) (m : Cep78.Mode) (name : String) :
      ClientRead (c.mode m name)
  | collectionAllowMinting (c : Cep78.Collection) : ClientRead c.allowMinting
  | collectionInfo (c : Cep78.Collection) : ClientRead c.info
  | collectionContractWhitelisted (c : Cep78.Collection) (i : Identity) :
      ClientRead (c.isContractWhitelisted i)
  | collectionAccountWhitelisted (c : Cep78.Collection) (account : PublicKey) :
      ClientRead (c.isAccountWhitelisted account)
  | collectionBalanceOf (c : Cep78.Collection) (owner : Identity) : ClientRead (c.balanceOf owner)
  | collectionOwnerOf (c : Cep78.Collection) (token : Cep78.TokenIdentifier) :
      ClientRead (c.ownerOf token)
  | collectionMetadataOfKind (c : Cep78.Collection) (token : Cep78.TokenIdentifier)
      (kind : Cep78.MetadataKind) : ClientRead (c.metadataOfKind token kind)
  | collectionMetadataOf (c : Cep78.Collection) (token : Cep78.TokenIdentifier) :
      ClientRead (c.metadataOf token)
  | tokenName (t : Cep18.Token) : ClientRead t.name
  | tokenSymbol (t : Cep18.Token) : ClientRead t.symbol
  | tokenDecimals (t : Cep18.Token) : ClientRead t.decimals
  | tokenTotalSupply (t : Cep18.Token) : ClientRead t.totalSupply
  | tokenBalanceOf (t : Cep18.Token) (owner : Identity) : ClientRead (t.balanceOf owner)

theorem Minter.isRead_mintCost (m : Minter) (count : UInt64) : (m.mintCost count).IsRead :=
  (m.client.isRead_queryNamedValue ["mint_fee"] _).bind fun _ => NodeAction.isRead_ofExcept _

theorem Minter.isRead_nativeMintArgs (m : Minter) (nftOwner : Identity) (count : UInt64) :
    (m.nativeMintArgs nftOwner count).IsRead := by
  refine (NodeAction.isRead_ofExcept m.client.address).bind fun address => ?_
  refine (m.isRead_mintCost count).bind fun cost => ?_
  split
  · exact NodeAction.isRead_pure _
  · exact NodeAction.isRead_throw _

theorem Minter.isRead_state (m : Minter) : m.state.IsRead := by
  have hNamed {α : Type} (name : String) (decode : CLValue → Except CLValue.Error α) :
      Snapshot.IsRead ⟨m.client.queryNamedValue [name] decode⟩ :=
    ⟨m.client.isRead_queryNamedValue [name] decode⟩
  refine Snapshot.IsRead.action ?_
  iterate 7 refine .seq ?_ (hNamed _ _)
  exact (hNamed _ _).map _

theorem Cep78.Collection.isRead_info (c : Collection) : c.info.IsRead := by
  have hNamed {α : Type} (name : String) (decode : CLValue → Except CLValue.Error α) :
      Snapshot.IsRead ⟨c.client.queryNamedValue [name] decode⟩ :=
    ⟨c.client.isRead_queryNamedValue [name] decode⟩
  refine Snapshot.IsRead.action ?_
  iterate 14 refine .seq ?_ (hNamed _ _)
  exact (hNamed _ _).map _

/-- No read of a client asks a node for anything but what contracts store. -/
theorem ClientRead.isRead {α : Type} {read : NodeAction α} (h : ClientRead read) :
    read.IsRead := by
  cases h with
  | minterState m => exact m.isRead_state
  | minterMintCost m count => exact m.isRead_mintCost count
  | minterNativeMintArgs m nftOwner count => exact m.isRead_nativeMintArgs nftOwner count
  | collectionInfo c => exact c.isRead_info
  | collectionMetadataOf c token =>
    refine (c.client.isRead_queryNamedValue ["nft_metadata_kind"] _).bind fun kind => ?_
    exact c.client.isRead_queryItem kind.dictionaryName token.itemKey _
  -- A default takes the place of an entry that is not found.
  | minterIsWhitelisted m account =>
    exact (m.client.isRead_queryItem _ _ _).bind fun _ => NodeAction.isRead_pure _
  | collectionContractWhitelisted c i | collectionAccountWhitelisted c i
  | collectionBalanceOf c i =>
    exact (c.client.isRead_queryItem _ _ _).bind fun _ => NodeAction.isRead_pure _
  | tokenBalanceOf t owner =>
    exact (t.client.isRead_queryItem _ _ _).bind fun _ => NodeAction.isRead_pure _
  -- All others are a single query or lookup.
  | item | dictionary | minterWhitelistEntry | collectionOwnerOf | collectionMetadataOfKind =>
    exact ContractClient.isRead_queryItem _ _ _ _
  | _ => exact ContractClient.isRead_queryNamedValue _ _ _

/-! ## Servers -/

namespace JsonRpc

variable {σ α β : Type}

/-- The query of a named value. -/
def namedValueCall (id : Nat) (contract : Identity) (path : List String) : Json :=
  .obj [("jsonrpc", .str "2.0"), ("id", .num (.int id)), ("method", .str "query_global_state"),
    ("params", .obj [("state_identifier", .null), ("key", .str contract.text),
      ("path", .arr (path.map .str))])]

/-- The query of the present state. -/
def stateRootCall (id : Nat) : Json :=
  .obj [("jsonrpc", .str "2.0"), ("id", .num (.int id)),
    ("method", .str "chain_get_state_root_hash"), ("params", .obj [])]

/-- The query of an item in a state. -/
def itemCall (id : Nat) (root : String) (contract : Identity) (dictionary itemKey : String) :
    Json :=
  .obj [("jsonrpc", .str "2.0"), ("id", .num (.int id)),
    ("method", .str "state_get_dictionary_item"),
    ("params", .obj [("state_root_hash", .str root),
      ("dictionary_identifier", .obj [("ContractNamedKey",
        .obj [("key", .str contract.text), ("dictionary_name", .str dictionary),
          ("dictionary_item_key", .str itemKey)])])])]

/-- What becomes of a dialogue that is held with a server, from a number of the next call on. -/
def hold (serve : Json → StateM σ (Except String HttpReply)) (dialogue : NodeDialogue α) (id : Nat)
    (s : σ) : Except Abort α :=
  Prod.fst <$> (Dialogue.run serve (dialogue.run answer id).run s).1

variable {n : MemoryNode} {serve : Json → StateM σ (Except String HttpReply)}

/-- Calls are made one after the other. -/
theorem run_bind_of_ok {x : Calls α} {f : α → Calls β} {a : α} {id id' : Nat} {s s' : σ}
    (h : Dialogue.run serve (x id).run s = (.ok (a, id'), s')) :
    Dialogue.run serve ((x >>= f) id).run s = Dialogue.run serve (f a id').run s' := by
  have hBind : (x >>= f) id = x id >>= fun result => f result.1 result.2 := rfl
  rw [hBind, Dialogue.run_step_of_ok h]

/-- An item takes a second call, for the state that the first one told. -/
theorem answer_dictionaryItem (contract : Identity) (dictionary itemKey : String) :
    answer (.dictionaryItem contract dictionary itemKey) = stateRootHash >>= fun
      | .error e => return .error (.failed e)
      | .ok root => fun id =>
        ExceptT.mk (.ask (itemCall id root contract dictionary itemKey) fun reply => .done
          (.ok (queried (outcome "state_get_dictionary_item" readStoredValue reply), id + 1))) :=
  rfl

/-- A server that tells the same value for every query. -/
def entryServer (v : CLValue) (q : Json) : StateM Unit (Except String HttpReply) :=
  match q.get? "method" with
  | some (.str "chain_get_state_root_hash") => pure (.ok (rootReply "00"))
  | _ => pure (.ok (storedValueReply v))

end JsonRpc

namespace JsonRpc

variable {σ α : Type} {serve : Json → StateM σ (Except String HttpReply)}

/-! ## Values nested too deeply -/

end JsonRpc

end Mintage
