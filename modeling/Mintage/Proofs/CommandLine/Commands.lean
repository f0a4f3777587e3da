import Mintage.Proofs.CommandLine.Surroundings
import Mintage.Proofs.Writes

/-!
# Proofs: what commands come to

A command that queries asks for something that contracts store and ends with an answer, whoever
asks. A command that writes loads the key and what the write consists of, and ends with the deploy
that the façade builds of it for this key alone. Neither submits anything.
-/

namespace Mintage.CommandLine

variable {σ : Type}

/-! ## Commands that query -/

/-- Whether a command only asks what contracts store. -/
def Command.isQuery : Command → Bool
  | .minter .showState | .minter (.isWhitelisted _) | .minter (.mintCost _) => true
  | .collection .showInfo | .collection (.isWhitelisted _) | .collection (.balanceOf _)
  | .collection (.token _) => true
  | .token (.balanceOf _) => true
  | _ => false

/-- A command that queries answers with what a client reads from the node, whoever asks. -/
theorem runCommand_of_isQuery {i : Invocation} (hQuery : i.command.isQuery = true)
    (c : NetworkConfig) : ∃ (α : Type) (read : NodeAction α) (text : α → String), read.IsRead ∧
      ∀ key dryRun, runCommand { i with key, dryRun } c =
        Action.ofNode c.nodeAddress read >>= fun x => pure (.answer (text x)) := by
  obtain ⟨network, config, _, _, command⟩ := i
  cases command with
  | minter command =>
    cases command with
    | showState => exact ⟨_, _, _, (ClientRead.minterState _).isRead, fun _ _ => rfl⟩
    | isWhitelisted account =>
      exact ⟨_, _, _, (ClientRead.minterIsWhitelisted _ account).isRead, fun _ _ => rfl⟩
    | mintCost count => exact ⟨_, _, _, (ClientRead.minterMintCost _ count).isRead, fun _ _ => rfl⟩
    | _ => cases hQuery
  | collection command =>
    cases command with
    | showInfo => exact ⟨_, _, _, (ClientRead.collectionInfo _).isRead, fun _ _ => rfl⟩
    | isWhitelisted identity =>
      exact ⟨_, _, _, (ClientRead.collectionContractWhitelisted _ identity).isRead, fun _ _ => rfl⟩
    | balanceOf owner =>
      exact ⟨_, _, _, (ClientRead.collectionBalanceOf _ owner).isRead, fun _ _ => rfl⟩
    | token index =>
      have hInfo (c : Cep78.Collection) (token : Cep78.TokenIdentifier) :
          (tokenJson token <$> Snapshot.mk (c.ownerOf token) <*> .mk (c.metadataOf token)).IsRead :=
        .seq (.map ⟨(ClientRead.collectionOwnerOf c token).isRead⟩ _)
          ⟨(ClientRead.collectionMetadataOf c token).isRead⟩
      exact ⟨_, _, _, (hInfo _ (.index index)).action, fun _ _ => rfl⟩
    | _ => cases hQuery
  | token command =>
    cases command with
    | balanceOf owner => exact ⟨_, _, _, (ClientRead.tokenBalanceOf _ owner).isRead, fun _ _ => rfl⟩
    | _ => cases hQuery

theorem runCommand_eq_of_isQuery {i : Invocation} (hQuery : i.command.isQuery = true)
    (c : NetworkConfig) : ∃ (α : Type) (read : NodeAction α) (text : α → String), read.IsRead ∧
      runCommand i c = Action.ofNode c.nodeAddress read >>= fun x => pure (.answer (text x)) := by
  obtain ⟨α, read, text, hRead, hRun⟩ := runCommand_of_isQuery hQuery c
  exact ⟨α, read, text, hRead, hRun i.key i.dryRun⟩

/-! ## Updates of the configuration -/

section SetConfig

variable {i : Invocation} {c : NetworkConfig} {update : Minter.ConfigUpdate}

/-- An update that sets nothing is refused before the key is loaded. -/
theorem runCommand_setConfig_of_isEmpty (hCommand : i.command = .minter (.setConfig update))
    (hEmpty : update.isEmpty = true) : runCommand i c = throw .nothingToSet := by
  rw [runCommand, hCommand]
  dsimp only
  rw [runMinter, if_pos hEmpty]
  rfl

theorem runCommand_setConfig (hCommand : i.command = .minter (.setConfig update))
    (hSet : update.isEmpty = false) : runCommand i c = loadKey i >>= fun key =>
      build fun now => (Minter.ofConfig c).setConfig now update [key.signer] := by
  rw [runCommand, hCommand]
  dsimp only
  rw [runMinter, hSet]
  rfl

end SetConfig

/-! ## Commands are quiet -/

section Quiet

open CommandLine.Action

theorem isQuiet_runCommand_of_isQuery {i : Invocation} (hQuery : i.command.isQuery = true)
    (c : NetworkConfig) : (runCommand i c).IsQuiet := by
  obtain ⟨α, read, text, hRead, hRun⟩ := runCommand_eq_of_isQuery hQuery c
  rw [hRun]
  exact (isQuiet_ofNode hRead c.nodeAddress).bind fun _ => isQuiet_pure _

theorem isQuiet_install {α : Type} [FromJson α] (i : Invocation) (wasm file : String)
    (write : SecretKey → α → Bytes → Timestamp → Except ClientError SignedDeploy) :
    (loadKey i >>= fun key => loadJson file >>= fun args => loadWasm wasm >>= fun code =>
      build (write key args code)).IsQuiet :=
  (isQuiet_loadKey i).bind fun _ => (isQuiet_loadJson file).bind fun _ =>
    (isQuiet_loadWasm wasm).bind fun _ => isQuiet_build _ _

theorem isQuiet_runCommand (i : Invocation) (c : NetworkConfig) : (runCommand i c).IsQuiet := by
  by_cases hQuery : i.command.isQuery = true
  · exact isQuiet_runCommand_of_isQuery hQuery c
  obtain ⟨network, config, key, dryRun, command⟩ := i
  cases command with
  | minter command =>
    cases command with
    | install wasm file => exact isQuiet_install _ wasm file _
    | upgrade wasm args =>
      exact (isQuiet_loadKey _).bind fun _ => (isQuiet_loadWasm wasm).bind fun _ =>
        isQuiet_build _ _
    | setConfig update =>
      cases hEmpty : update.isEmpty with
      | true =>
        rw [runCommand_setConfig_of_isEmpty rfl hEmpty]
        exact isQuiet_throw _
      | false =>
        rw [runCommand_setConfig rfl hEmpty]
        exact (isQuiet_loadKey _).bind fun _ => isQuiet_build _ _
    | nativeMint wasm owner count =>
      exact (isQuiet_loadKey _).bind fun _ =>
        (isQuiet_ofNode (Minter.isRead_nativeMintArgs _ _ count) _).bind fun _ =>
          (isQuiet_loadWasm wasm).bind fun _ => isQuiet_build _ _
    | freeMint | setWhitelist => exact (isQuiet_loadKey _).bind fun _ => isQuiet_build _ _
    | showState | isWhitelisted | mintCost => exact absurd rfl hQuery
  | collection command =>
    cases command with
    | install wasm file => exact isQuiet_install _ wasm file _
    | setVariables file =>
      exact (isQuiet_loadKey _).bind fun _ => (isQuiet_loadJson file).bind fun _ =>
        isQuiet_build _ _
    | showInfo | isWhitelisted | balanceOf | token => exact absurd rfl hQuery
  | token command =>
    cases command with
    | install wasm file => exact isQuiet_install _ wasm file _
    | mint | approve => exact (isQuiet_loadKey _).bind fun _ => isQuiet_build _ _
    | balanceOf => exact absurd rfl hQuery

end Quiet

namespace Surroundings

variable {w : Surroundings σ} {s s' : σ} {i : Invocation} {c : NetworkConfig}

/-! ## What is asked for -/

/-- The write that a command asks for. Code and arguments come from the command line and from files;
only native minting asks a node, for the price. A query asks for none. -/
inductive Asks (w : Surroundings σ) (s : σ) (c : NetworkConfig) (sender : PublicKey) :
    Command → FacadeWrite → Prop where
  | minterInstall {wasm file : String} {code : Bytes} {args : Minter.InstallArgs}
      (hArgs : w.Reads file args) (hCode : w.file wasm = .ok code) :
      w.Asks s c sender (.minter (.install wasm file)) (.minterInstall (.ofConfig c) code args)
  | minterUpgrade {wasm : String} {code : Bytes} {args : Minter.UpgradeArgs}
      (hCode : w.file wasm = .ok code) :
      w.Asks s c sender (.minter (.upgrade wasm args)) (.minterUpgrade (.ofConfig c) code args)
  | minterSetConfig {update : Minter.ConfigUpdate} (hSet : update.isEmpty = false) :
      w.Asks s c sender (.minter (.setConfig update)) (.minterSetConfig (.ofConfig c) update)
  | minterFreeMint {args : Minter.FreeMintArgs} :
      w.Asks s c sender (.minter (.freeMint args)) (.minterFreeMint (.ofConfig c) args)
  | minterNativeMint {wasm : String} {owner : Option Identity} {count : UInt64} {code : Bytes}
      {args : Minter.NativeMintArgs}
      (hArgs : (Dialogue.run (w.node c.nodeAddress)
        ((Minter.ofConfig c).nativeMintArgs (owner.getD sender.identity) count).run s).1 = .ok args)
      (hCode : w.file wasm = .ok code) :
      w.Asks s c sender (.minter (.nativeMint wasm owner count))
        (.minterNativeMint (.ofConfig c) code args)
  | minterSetWhitelist {entries : List Minter.WhitelistEntry} :
      w.Asks s c sender (.minter (.setWhitelist false entries))
        (.minterSetWhitelist (.ofConfig c) entries)
  | minterResetWhitelist {entries : List Minter.WhitelistEntry} :
      w.Asks s c sender (.minter (.setWhitelist true entries))
        (.minterResetWhitelist (.ofConfig c) entries)
  | collectionInstall {wasm file : String} {code : Bytes} {args : Cep78.InstallArgs}
      (hArgs : w.Reads file args) (hCode : w.file wasm = .ok code) :
      w.Asks s c sender (.collection (.install wasm file))
        (.collectionInstall (.ofConfig c) code args)
  | collectionSetVariables {file : String} {v : Cep78.Variables} (hVariables : w.Reads file v) :
      w.Asks s c sender (.collection (.setVariables file))
        (.collectionSetVariables (.ofConfig c) v)
  | tokenInstall {wasm file : String} {code : Bytes} {args : Cep18.InstallArgs}
      (hArgs : w.Reads file args) (hCode : w.file wasm = .ok code) :
      w.Asks s c sender (.token (.install wasm file)) (.tokenInstall (.ofConfig c) code args)
  | tokenMint {owner : Identity} {amount : U256} :
      w.Asks s c sender (.token (.mint owner amount)) (.tokenMint (.ofConfig c) owner amount)
  | tokenApprove {spender : Identity} {amount : U256} :
      w.Asks s c sender (.token (.approve spender amount))
        (.tokenApprove (.ofConfig c) spender amount)

theorem not_isQuery_of_asks {sender : PublicKey} {command : Command} {write : FacadeWrite}
    (h : w.Asks s c sender command write) : command.isQuery = false := by
  cases h with
  | _ => rfl

/-- The deploy that a key signs for what a command asks for. -/
def Builds (w : Surroundings σ) (s : σ) (i : Invocation) (c : NetworkConfig) (key : SecretKey)
    (d : SignedDeploy) : Prop :=
  w.Unlocks i key ∧ ∃ write, w.Asks s c key.publicKey i.command write ∧
    write.deploy w.time [key.signer] = .ok d

/-! ## Commands that write -/

section Steps

variable {write : SecretKey → Timestamp → Except ClientError SignedDeploy} {o : Outcome}
  {warnings : List Warning}

/-- A write that needs nothing but the key. -/
theorem hold_keyed_eq_ok_iff :
    w.hold (loadKey i >>= fun key => build (write key) warnings) s = (.ok o, s') ↔
      ∃ key d, w.Unlocks i key ∧ write key w.time = .ok d ∧ o = .deploy d warnings ∧ s' = s := by
  simp only [hold_bind_eq_ok_iff, hold_loadKey_eq_ok_iff, hold_build_eq_ok_iff]
  constructor
  · rintro ⟨key, _, ⟨hKey, rfl⟩, d, hBuilt, rfl, rfl⟩
    exact ⟨key, d, hKey, hBuilt, rfl, rfl⟩
  · rintro ⟨key, d, hKey, hBuilt, rfl, rfl⟩
    exact ⟨key, _, ⟨hKey, rfl⟩, d, hBuilt, rfl, rfl⟩

/-- A write that needs the key and what else is loaded. -/
theorem hold_loaded_eq_ok_iff {α : Type} {load : SecretKey → Action α}
    {write : SecretKey → α → Timestamp → Except ClientError SignedDeploy}
    {warnings : α → List Warning} :
    w.hold (loadKey i >>= fun key => load key >>= fun x => build (write key x) (warnings x)) s =
        (.ok o, s') ↔
      ∃ key x d, w.Unlocks i key ∧ w.hold (load key) s = (.ok x, s') ∧
        write key x w.time = .ok d ∧ o = .deploy d (warnings x) := by
  simp only [hold_bind_eq_ok_iff, hold_loadKey_eq_ok_iff, hold_build_eq_ok_iff]
  constructor
  · rintro ⟨key, _, ⟨hKey, rfl⟩, x, _, hLoad, d, hBuilt, rfl, rfl⟩
    exact ⟨key, x, d, hKey, hLoad, hBuilt, rfl⟩
  · rintro ⟨key, x, d, hKey, hLoad, hBuilt, rfl⟩
    exact ⟨key, _, ⟨hKey, rfl⟩, x, _, hLoad, d, hBuilt, rfl, rfl⟩

/-- A write that installs code with arguments. -/
theorem hold_install_eq_ok_iff {α : Type} [FromJson α] {wasm file : String}
    {write : SecretKey → α → Bytes → Timestamp → Except ClientError SignedDeploy} :
    w.hold (loadKey i >>= fun key => loadJson file >>= fun args => loadWasm wasm >>= fun code =>
        build (write key args code)) s = (.ok o, s') ↔
      ∃ key args code d, w.Unlocks i key ∧ w.Reads file args ∧ w.file wasm = .ok code ∧
        write key args code w.time = .ok d ∧ o = .deploy d [] ∧ s' = s := by
  simp only [hold_bind_eq_ok_iff, hold_loadKey_eq_ok_iff, hold_loadJson_eq_ok_iff,
    hold_loadWasm_eq_ok_iff, hold_build_eq_ok_iff]
  constructor
  · rintro ⟨key, _, ⟨hKey, rfl⟩, args, _, ⟨hArgs, rfl⟩, code, _, ⟨hCode, rfl⟩, d, hBuilt, rfl, rfl⟩
    exact ⟨key, args, code, d, hKey, hArgs, hCode, hBuilt, rfl, rfl⟩
  · rintro ⟨key, args, code, d, hKey, hArgs, hCode, hBuilt, rfl, rfl⟩
    exact ⟨key, _, ⟨hKey, rfl⟩, args, _, ⟨hArgs, rfl⟩, code, _, ⟨hCode, rfl⟩, d, hBuilt, rfl, rfl⟩

/-- A write for which the node is asked. Its answer may change the state. -/
theorem hold_nativeMint_eq_ok_iff {address wasm : String} {m : Minter} {owner : Option Identity}
    {count : UInt64} :
    (∃ s', w.hold (runMinter i address m (.nativeMint wasm owner count)) s = (.ok o, s')) ↔
      ∃ key args code d, w.Unlocks i key ∧ (Dialogue.run (w.node address)
          (m.nativeMintArgs (owner.getD key.publicKey.identity) count).run s).1 = .ok args ∧
        w.file wasm = .ok code ∧ m.nativeMint w.time code args [key.signer] = .ok d ∧
        o = .deploy d [] := by
  simp only [runMinter, hold_bind_eq_ok_iff, hold_loadKey_eq_ok_iff, hold_ofNode,
    hold_loadWasm_eq_ok_iff, hold_build_eq_ok_iff, Prod.mk.injEq, Outcome.mapError_eq_ok_iff]
  constructor
  · rintro ⟨_, key, _, ⟨hKey, rfl⟩, args, _, ⟨hArgs, rfl⟩, code, _, ⟨hCode, rfl⟩, d, hBuilt,
      rfl, rfl⟩
    exact ⟨key, args, code, d, hKey, hArgs, hCode, hBuilt, rfl⟩
  · rintro ⟨key, args, code, d, hKey, hArgs, hCode, hBuilt, rfl⟩
    exact ⟨_, key, _, ⟨hKey, rfl⟩, args, _, ⟨hArgs, rfl⟩, code, _, ⟨hCode, rfl⟩, d, hBuilt,
      rfl, rfl⟩

end Steps

theorem answer_of_hold {o : Outcome} (hQuery : i.command.isQuery = true)
    (h : w.hold (runCommand i c) s = (.ok o, s')) : ∃ text, o = .answer text := by
  obtain ⟨α, read, text, -, hRun⟩ := runCommand_eq_of_isQuery hQuery c
  rw [hRun, hold_bind_eq_ok_iff] at h
  obtain ⟨x, _, -, hAnswer⟩ := h
  cases hAnswer
  exact ⟨text x, rfl⟩

/-- What a command that writes comes to is the deploy of what it asks for. -/
theorem builds_of_hold {o : Outcome} (hWrite : i.command.isQuery = false)
    (h : w.hold (runCommand i c) s = (.ok o, s')) :
    ∃ key d warnings, o = .deploy d warnings ∧ w.Builds s i c key d := by
  obtain ⟨network, config, keyFile, dryRun, command⟩ := i
  cases command with
  | minter command =>
    cases command with
    | install wasm file =>
      obtain ⟨key, args, code, d, hKey, hArgs, hCode, hBuilt, rfl, -⟩ :=
        hold_install_eq_ok_iff.mp h
      exact ⟨key, d, _, rfl, hKey, _, .minterInstall hArgs hCode, hBuilt⟩
    | upgrade wasm args =>
      obtain ⟨key, code, d, hKey, hCode, hBuilt, rfl⟩ := hold_loaded_eq_ok_iff.mp h
      exact ⟨key, d, _, rfl, hKey, _, .minterUpgrade (hold_loadWasm_eq_ok_iff.mp hCode).1, hBuilt⟩
    | setConfig update =>
      cases hEmpty : update.isEmpty with
      | true =>
        rw [runCommand_setConfig_of_isEmpty rfl hEmpty] at h
        cases h
      | false =>
        rw [runCommand_setConfig rfl hEmpty] at h
        obtain ⟨key, d, hKey, hBuilt, rfl, -⟩ := hold_keyed_eq_ok_iff.mp h
        exact ⟨key, d, _, rfl, hKey, _, .minterSetConfig hEmpty, hBuilt⟩
    | freeMint args =>
      obtain ⟨key, d, hKey, hBuilt, rfl, -⟩ := hold_keyed_eq_ok_iff.mp h
      exact ⟨key, d, _, rfl, hKey, _, .minterFreeMint, hBuilt⟩
    | nativeMint wasm owner count =>
      obtain ⟨key, args, code, d, hKey, hArgs, hCode, hBuilt, rfl⟩ :=
        hold_nativeMint_eq_ok_iff.mp ⟨s', h⟩
      exact ⟨key, d, _, rfl, hKey, _, .minterNativeMint hArgs hCode, hBuilt⟩
    | setWhitelist reset entries =>
      obtain ⟨key, d, hKey, hBuilt, rfl, -⟩ := hold_keyed_eq_ok_iff.mp h
      cases reset with
      | false => exact ⟨key, d, _, rfl, hKey, _, .minterSetWhitelist, hBuilt⟩
      | true => exact ⟨key, d, _, rfl, hKey, _, .minterResetWhitelist, hBuilt⟩
    | showState | isWhitelisted | mintCost => cases hWrite
  | collection command =>
    cases command with
    | install wasm file =>
      obtain ⟨key, args, code, d, hKey, hArgs, hCode, hBuilt, rfl, -⟩ :=
        hold_install_eq_ok_iff.mp h
      exact ⟨key, d, _, rfl, hKey, _, .collectionInstall hArgs hCode, hBuilt⟩
    | setVariables file =>
      obtain ⟨key, v, d, hKey, hRead, hBuilt, rfl⟩ := hold_loaded_eq_ok_iff.mp h
      exact ⟨key, d, _, rfl, hKey, _,
        .collectionSetVariables (hold_loadJson_eq_ok_iff.mp hRead).1, hBuilt⟩
    | showInfo | isWhitelisted | balanceOf | token => cases hWrite
  | token command =>
    cases command with
    | install wasm file =>
      obtain ⟨key, args, code, d, hKey, hArgs, hCode, hBuilt, rfl, -⟩ :=
        hold_install_eq_ok_iff.mp h
      exact ⟨key, d, _, rfl, hKey, _, .tokenInstall hArgs hCode, hBuilt⟩
    | mint owner amount =>
      obtain ⟨key, d, hKey, hBuilt, rfl, -⟩ := hold_keyed_eq_ok_iff.mp h
      exact ⟨key, d, _, rfl, hKey, _, .tokenMint, hBuilt⟩
    | approve spender amount =>
      obtain ⟨key, d, hKey, hBuilt, rfl, -⟩ := hold_keyed_eq_ok_iff.mp h
      exact ⟨key, d, _, rfl, hKey, _, .tokenApprove, hBuilt⟩
    | balanceOf => cases hWrite

/-- If a command asks for a write and the write can be built, that is what it comes to. -/
theorem hold_of_builds {key : SecretKey} {d : SignedDeploy} (h : w.Builds s i c key d) :
    ∃ s' warnings, w.hold (runCommand i c) s = (.ok (.deploy d warnings), s') := by
  obtain ⟨network, config, keyFile, dryRun, command⟩ := i
  obtain ⟨hKey, write, hAsks, hBuilt⟩ := h
  cases hAsks with
  | minterInstall hArgs hCode | collectionInstall hArgs hCode | tokenInstall hArgs hCode =>
    exact ⟨s, _, hold_install_eq_ok_iff.mpr ⟨key, _, _, d, hKey, hArgs, hCode, hBuilt, rfl, rfl⟩⟩
  | minterUpgrade hCode =>
    exact ⟨s, _, hold_loaded_eq_ok_iff.mpr
      ⟨key, _, d, hKey, hold_loadWasm_eq_ok_iff.mpr ⟨hCode, rfl⟩, hBuilt, rfl⟩⟩
  | minterSetConfig hSet =>
    rw [runCommand_setConfig rfl hSet]
    exact ⟨s, _, hold_keyed_eq_ok_iff.mpr ⟨key, d, hKey, hBuilt, rfl, rfl⟩⟩
  | minterNativeMint hArgs hCode =>
    obtain ⟨s', hRun⟩ := hold_nativeMint_eq_ok_iff.mpr
      ⟨key, _, _, d, hKey, hArgs, hCode, hBuilt, rfl⟩
    exact ⟨s', _, hRun⟩
  | collectionSetVariables hVariables =>
    exact ⟨s, _, hold_loaded_eq_ok_iff.mpr
      ⟨key, _, d, hKey, hold_loadJson_eq_ok_iff.mpr ⟨hVariables, rfl⟩, hBuilt, rfl⟩⟩
  | minterFreeMint | minterSetWhitelist | minterResetWhitelist | tokenMint | tokenApprove =>
    exact ⟨s, _, hold_keyed_eq_ok_iff.mpr ⟨key, d, hKey, hBuilt, rfl, rfl⟩⟩

end Surroundings

end Mintage.CommandLine
