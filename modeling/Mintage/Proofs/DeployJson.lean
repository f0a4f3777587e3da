import Mintage.Proofs.Consistency
import Mintage.Proofs.Duration
import Mintage.Proofs.Hex
import Mintage.Proofs.Json.RoundTrip
import Mintage.Proofs.TaggedForms
import Mintage.Proofs.Timestamp

/-!
# Proofs: deploys that are read back

A consistent deploy is read back from what is written of it, with its members in any order. Each
part has its own form, text in hexadecimal, a time, a duration, a type, named arguments, an item
under the name of its sort, and each form is read back for itself. The structures are then read back
field by field, and the hashes of the whole are right because those of the deploy were.
-/

namespace Mintage

open Json

/-! ## Text -/

namespace Digest

theorem reads (d : Digest) : Reads readJson d.toJson d := reads_parsed (parse_text d) _

end Digest

namespace PublicKey

theorem reads (k : PublicKey) : Reads readJson k.toJson k := reads_parsed (parse_text k) _

end PublicKey

namespace Signature

theorem reads (s : Signature) : Reads readJson s.toJson s := reads_parsed (parse_text s) _

end Signature

namespace Duration

theorem reads (d : Duration) : Reads readJson d.toJson d := reads_parsed (parse_text d) _

end Duration

namespace Timestamp

/-- A time before the year 10000 is written and read back. -/
theorem reads {t : Timestamp} (h : t.millis.toNat < fiveDigitYears) :
    ∃ j, t.toJson? = some j ∧ Reads readJson j t := by
  have hWritten : t.millis.toNat < endOfText := Nat.lt_trans h (by decide)
  exact ⟨_, toJson?_eq_some_iff.mpr ⟨hWritten, rfl⟩, .of_str (readJson_writtenText h)⟩

end Timestamp

/-! ## Typed values -/

namespace CLType

/-- A type that is written as its name. -/
theorem reads_plain {t : CLType} (hName : t.text ∈ names) (hPlain : plain.lookup t.text = some t) :
    Reads readJson (.str t.text) t := by
  refine .of_str ?_
  have hVariant : (Draft.str (.of t.text)).variant = .ok (t.text, none, .ok ()) := rfl
  rw [readJson]
  · simp only [hVariant, bind, Except.bind, hName, not_true_eq_false, if_false, hPlain]
    rfl
  all_goals
    intro passing content more ending hDraft
    cases hDraft

/-- A type is read back, however deeply it is nested. -/
theorem reads (t : CLType) : Reads readJson t.toJson t := by
  induction t with
  | option inner ih =>
    intro j' hj
    obtain ⟨j, hInner, rfl⟩ := hj.of_single
    have hContent := ih j hInner
    simp only [toDraft, toDraftMembers, Token.of]
    rw [readJson, hContent]
    rfl
  | list item ih =>
    intro j' hj
    obtain ⟨j, hItem, rfl⟩ := hj.of_single
    have hContent := ih j hItem
    simp only [toDraft, toDraftMembers, Token.of]
    rw [readJson, hContent]
    rfl
  | byteArray length =>
    intro j' hj
    obtain ⟨j, hLength, rfl⟩ := hj.of_single
    have hContent := reads_nat length.toNat_lt j hLength
    simp only [toDraft, toDraftMembers, Token.of]
    rw [readJson, hContent]
    simp only [bind, Except.bind, Draft.needAlone, Draft.needSingle, UInt32.ofNat_toNat]
    rfl
  | _ => exact reads_plain (by decide) (by decide)

end CLType

namespace CLValue

theorem reads_hex (bs : Bytes) : Reads readHex (hexToJson bs) bs := by
  refine .of_str ?_
  have hText : (Draft.str (.of (Hex.encode bs))).readText "A hex string." = .ok (Hex.encode bs) :=
    rfl
  simp only [readHex, hText, bind, Except.bind, Hex.decode_encode]
  rfl

theorem reads (v : CLValue) : Reads readJson v.toJson v := by
  refine Record.Makes.reads ["cl_type", "bytes"] ?_ _
  exact Record.makes_required "cl_type" rfl v.clType.reads
    |>.map mk
    |>.field "bytes" (by decide) rfl (reads_hex v.bytes)

end CLValue

namespace NamedArg

theorem reads (a : NamedArg) : Reads readJson a.toJson a := by
  intro j' hj
  have hPair := reads_pair (reads_string a.name) a.value.reads j' hj
  simp only [readJson, hPair, bind, Except.bind]
  rfl

end NamedArg

namespace RuntimeArgs

theorem reads (a : RuntimeArgs) : Reads readJson a.toJson a :=
  (reads_list fun arg _ => arg.reads).map mk

end RuntimeArgs

/-! ## Deploys -/

namespace DeployItem

theorem reads_hash (hash : Block 32) : Reads readHash (CLValue.hexToJson hash.bytes) hash := by
  intro j' hj
  have hHex := CLValue.reads_hex hash.bytes j' hj
  simp only [readHash, hHex, bind, Except.bind, Block.ofBytes?_bytes]
  rfl

theorem reads_moduleBytes (wasm : Bytes) (args : RuntimeArgs) :
    Reads (moduleBytesRecord.read "struct variant ExecutableDeployItem::ModuleBytes")
      (.obj [("module_bytes", CLValue.hexToJson wasm), ("args", args.toJson)])
      (moduleBytes wasm args) := by
  refine Record.Makes.reads ["module_bytes", "args"] ?_ _
  exact Record.makes_required "module_bytes" rfl (CLValue.reads_hex wasm)
    |>.map moduleBytes
    |>.field "args" (by decide) rfl args.reads

theorem reads_storedContract (hash : Block 32) (entryPoint : String) (args : RuntimeArgs) :
    Reads (storedContractRecord.read "struct variant ExecutableDeployItem::StoredContractByHash")
      (.obj [("hash", CLValue.hexToJson hash.bytes), ("entry_point", .str entryPoint),
        ("args", args.toJson)])
      (storedContract hash entryPoint args) := by
  refine Record.Makes.reads ["hash", "entry_point", "args"] ?_ _
  exact Record.makes_required "hash" rfl (reads_hash hash)
    |>.map storedContract
    |>.field "entry_point" (by decide) rfl (reads_string entryPoint)
    |>.field "args" (by decide) rfl args.reads

/-- An item is read back under the name of its sort. -/
theorem reads (item : DeployItem) : Reads readJson item.toJson item := by
  intro j' hj
  cases item with
  | moduleBytes wasm args =>
    obtain ⟨j, hContent, rfl⟩ := hj.of_single
    have hRead := reads_moduleBytes wasm args j hContent
    change (moduleBytesRecord.read _ j.toDraft >>= fun item => Except.ok item) = _
    rw [hRead]
    rfl
  | storedContract hash entryPoint args =>
    obtain ⟨j, hContent, rfl⟩ := hj.of_single
    have hRead := reads_storedContract hash entryPoint args j hContent
    change (storedContractRecord.read _ j.toDraft >>= fun item => Except.ok item) = _
    rw [hRead]
    rfl

end DeployItem

namespace DeployHeader

/-- A header with a time before the year 10000 is written and read back. -/
theorem reads {h : DeployHeader} (hTime : h.timestamp.millis.toNat < Timestamp.fiveDigitYears) :
    ∃ j, h.toJson? = some j ∧ Reads readJson j h := by
  obtain ⟨time, hWritten, hRead⟩ := Timestamp.reads hTime
  refine ⟨_, by rw [toJson?, hWritten]; rfl, ?_⟩
  refine Record.Makes.reads ["account", "timestamp", "ttl", "gas_price", "body_hash",
    "dependencies", "chain_name"] ?_ _
  exact Record.makes_required "account" rfl h.account.reads
    |>.map mk
    |>.field "timestamp" (by decide) rfl hRead
    |>.field "ttl" (by decide) rfl h.ttl.reads
    |>.field "gas_price" (by decide) rfl (reads_u64 h.gasPrice)
    |>.field "body_hash" (by decide) rfl h.bodyHash.reads
    |>.field "dependencies" (by decide) rfl (reads_list fun dependency _ => dependency.reads)
    |>.field "chain_name" (by decide) rfl (reads_string h.chainName)

end DeployHeader

namespace Approval

theorem reads (a : Approval) : Reads readJson a.toJson a := by
  refine Record.Makes.reads ["signer", "signature"] ?_ _
  exact Record.makes_required "signer" rfl a.signer.reads
    |>.map mk
    |>.field "signature" (by decide) rfl a.signature.reads

end Approval

namespace SignedDeploy

/-- The fields of a deploy with a time before the year 10000 are written and read back. -/
theorem reads_record {d : SignedDeploy}
    (hTime : d.header.timestamp.millis.toNat < Timestamp.fiveDigitYears) :
    ∃ j, d.toJson? = some j ∧ Reads (record.read "struct DeployJson") j d := by
  obtain ⟨header, hWritten, hRead⟩ := DeployHeader.reads hTime
  refine ⟨_, by rw [toJson?, hWritten]; rfl, ?_⟩
  refine Record.Makes.reads ["hash", "header", "payment", "session", "approvals"] ?_ _
  exact Record.makes_required "hash" rfl d.hash.reads
    |>.map (fun hash header payment session approvals =>
      (⟨⟨hash, header, payment, session⟩, approvals⟩ : SignedDeploy))
    |>.field "header" (by decide) rfl hRead
    |>.field "payment" (by decide) rfl d.payment.reads
    |>.field "session" (by decide) rfl d.session.reads
    |>.field "approvals" (by decide) rfl (reads_list fun approval _ => approval.reads)

theorem reads {d : SignedDeploy} (hConsistent : d.Consistent)
    (hTime : d.header.timestamp.millis.toNat < Timestamp.fiveDigitYears) :
    ∃ j, d.toJson? = some j ∧ Reads readJson j d := by
  obtain ⟨j, hWritten, hRecord⟩ := reads_record hTime
  refine ⟨j, hWritten, ?_⟩
  intro j' hj
  rw [readJson_of_read (hRecord j' hj), hConsistent.checkHashes]

/-- A consistent deploy with a time before the year 10000 is written, and read back from what is
written, in whatever order the members of its objects stand. -/
theorem read_back {d : SignedDeploy} (hConsistent : d.Consistent)
    (hTime : d.header.timestamp.millis.toNat < 253402300800000) :
    ∃ j, d.toJson? = some j ∧ readJson j.toDraft = .ok d ∧
      ∀ j', j.Reordered j' → readJson j'.toDraft = .ok d := by
  obtain ⟨j, hWritten, hReads⟩ := reads hConsistent hTime
  exact ⟨j, hWritten, hReads.of_refl, hReads⟩

theorem read_back_of_two_approvals :
    ∃ d : SignedDeploy, d.approvals.length = 2 ∧ d.Consistent ∧
      d.header.timestamp.millis.toNat < 253402300800000 ∧
      ∃ j, d.toJson? = some j ∧ readJson j.toDraft = .ok d ∧
        ∀ j', j.Reordered j' → readJson j'.toDraft = .ok d := by
  have hHashes := Deploy.rightHashes_new (.ed25519 default) "casper" ⟨253402300799999⟩ ⟨1800000⟩
    18446744073709551615 (.moduleBytes [] .empty)
    (.storedContract default "mint" ⟨[⟨"tokens", .option (.list .u64), [0]⟩]⟩)
  have hConsistent : Consistent ⟨_, [⟨.ed25519 default, .ed25519, default⟩,
      ⟨.secp256k1 default, .secp256k1, default⟩]⟩ := ⟨hHashes, by simp⟩
  have hTime : (253402300799999 : UInt64).toNat < 253402300800000 := by decide
  exact ⟨_, rfl, hConsistent, hTime, read_back hConsistent hTime⟩

end SignedDeploy

end Mintage
