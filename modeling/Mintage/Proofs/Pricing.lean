import Mintage.Proofs.Arithmetic
import Mintage.Proofs.Dialogue
import Mintage.Proofs.NeutralKey
import Mintage.Proofs.Node.Lookups
import Mintage.Proofs.Writes

/-!
# Proofs: the price of minting

The price is the product of the fee that the minter stores and the number of tokens, and there is no
price where that is no amount. An amount of 256 bits is also one of 512 bits, so what the price says
is carried unchanged into the arguments of native minting, and from there into every deploy that is
made of them.
-/

namespace Mintage

variable {σ α : Type}

/-! ## Wider numbers -/

/-- A number fits into every type that is at least as wide. -/
theorem Bounded.ofNat?_val_of_le {bits wider : Nat} (hWider : bits ≤ wider) (x : Bounded bits) :
    ∃ y : Bounded wider, ofNat? x.val = some y ∧ y.val = x.val :=
  have hFits := Nat.lt_of_lt_of_le x.isLt (Nat.pow_le_pow_right (by decide) hWider)
  ⟨⟨x.val, hFits⟩, ofNat?_eq_some_iff.mpr rfl, rfl⟩

/-- Every fee and every price is also an amount of motes. -/
theorem Bounded.ofNat?_val (x : U256) : ∃ y : U512, ofNat? x.val = some y ∧ y.val = x.val :=
  ofNat?_val_of_le (by omega) x

/-! ## Named values and arguments -/

/-- A query of a named value asks one question, and the answer to it decides the result. -/
theorem ContractClient.run_queryNamedValue {c : ContractClient} {contract : ContractAddress}
    (hBound : c.bound = some contract) (path : List String)
    (decode : CLValue → Except CLValue.Error α) (g : Gateway σ) (s : σ) :
    Dialogue.run g (c.queryNamedValue path decode).run s =
      (namedValueOutcome path decode (g (.namedValue contract.contractHash path) s).1,
        (g (.namedValue contract.contractHash path) s).2) := by
  have hAddress : c.address = .ok contract := by rw [address, hBound]
  rw [queryNamedValue, hAddress]
  rfl

/-- There is a value of a shape under a name. -/
def RuntimeArgs.Holds (a : RuntimeArgs) (name : String) (s : Shape) (x : s.Value) : Prop :=
  ∃ v, a.get? name = some v ∧ v.as s = .ok x

namespace Minter

/-! ## Prices -/

section Prices

variable {fee cost : U256} {count : UInt64} {e : ClientError}

theorem costOf_eq_ok_iff : costOf fee count = .ok cost ↔ cost.val = fee.val * count.toNat := by
  have hMul : fee.checkedMul (.ofUInt64 count) = some cost ↔ fee.val * count.toNat = cost.val :=
    Bounded.checkedMul_eq_some_iff
  rw [costOf, eq_comm (a := cost.val), ← hMul]
  cases fee.checkedMul (.ofUInt64 count) with
  | none => simp
  | some product => simp

theorem costOf_eq_error_iff :
    costOf fee count = .error e ↔ 2 ^ 256 ≤ fee.val * count.toNat ∧ e = .costOverflow count := by
  have hMul : fee.checkedMul (.ofUInt64 count) = none ↔ 2 ^ 256 ≤ fee.val * count.toNat :=
    Bounded.checkedMul_eq_none_iff
  rw [costOf, ← hMul]
  cases fee.checkedMul (.ofUInt64 count) with
  | none => simp [eq_comm]
  | some product => simp

end Prices

/-! ## What a client reads -/

section Reads

variable {m : Minter} {contract : ContractAddress} {fee : U256} {v : CLValue}

/-- What a bound client makes of the answer that tells the fee. -/
theorem run_mintCost (hBound : m.client.bound = some contract) {g : Gateway σ} {s : σ}
    (hAnswer : (g (.namedValue contract.contractHash ["mint_fee"]) s).1 = .ok v)
    (hFee : v.as .u256 = .ok fee) (count : UInt64) :
    Dialogue.run g (m.mintCost count).run s =
      (costOf fee count, (g (.namedValue contract.contractHash ["mint_fee"]) s).2) := by
  have hRead : Dialogue.run g m.mintFee.run s =
      (.ok fee, (g (.namedValue contract.contractHash ["mint_fee"]) s).2) := by
    rw [mintFee, ContractClient.run_queryNamedValue hBound, hAnswer]
    exact congrArg (·, _) (Outcome.mapError_eq_ok_iff.mpr hFee)
  rw [mintCost, Dialogue.run_step_of_ok hRead]
  rfl

theorem run_address (hBound : m.client.bound = some contract) {g : Gateway σ} {s : σ} :
    Dialogue.run g (NodeAction.ofExcept m.client.address).run s = (.ok contract, s) := by
  rw [ContractClient.address, hBound]
  rfl

theorem run_nativeMintArgs_of_ok (hBound : m.client.bound = some contract) {g : Gateway σ}
    {s s' : σ} {count : UInt64} {cost : U256} {amount : U512}
    (hCost : Dialogue.run g (m.mintCost count).run s = (.ok cost, s'))
    (hWidened : Bounded.ofNat? cost.val = some amount) (owner : Identity) :
    Dialogue.run g (m.nativeMintArgs owner count).run s =
      (.ok ⟨owner, count, contract.packageHash, amount⟩, s') := by
  rw [nativeMintArgs, Dialogue.run_step_of_ok (run_address hBound), Dialogue.run_step_of_ok hCost]
  simp only [hWidened]
  rfl

theorem run_nativeMintArgs_of_error (hBound : m.client.bound = some contract) {g : Gateway σ}
    {s s' : σ} {count : UInt64} {e : ClientError}
    (hCost : Dialogue.run g (m.mintCost count).run s = (.error e, s')) (owner : Identity) :
    Dialogue.run g (m.nativeMintArgs owner count).run s = (.error e, s') := by
  rw [nativeMintArgs, Dialogue.run_step_of_ok (run_address hBound),
    Dialogue.run_step_of_error hCost]

/-- A client that is not bound asks nothing. -/
theorem nativeMintArgs_of_unbound (hUnbound : m.client.bound = none) (owner : Identity)
    (count : UInt64) : (m.nativeMintArgs owner count).run = .done (.error .unbound) := by
  have hAddress : m.client.address = .error .unbound := by rw [ContractClient.address, hUnbound]
  rw [nativeMintArgs, hAddress]
  rfl

end Reads

/-! ## Deploys -/

theorem nativeMint_session {m : Minter} {now : Timestamp} {wasm : Bytes} {a : NativeMintArgs}
    {signers : List Signer} {d : SignedDeploy} (h : m.nativeMint now wasm a signers = .ok d) :
    d.session = .moduleBytes wasm ⟨a.arguments⟩ := by
  have hBuilt : m.client.buildFor m.payments.minterNativeMint (.install wasm ⟨a.arguments⟩) now
      signers = .ok d := (FacadeWrite.deploy_eq (.minterNativeMint m wasm a) now signers) ▸ h
  obtain ⟨motes, session, first, others, -, hItem, -, rfl⟩ :=
    ContractClient.buildFor_eq_ok_iff.mp hBuilt
  cases hItem
  rfl

namespace NativeMintArgs

theorem holds_amount (a : NativeMintArgs) :
    RuntimeArgs.Holds ⟨a.arguments⟩ "amount" .u512 a.amount :=
  ⟨.of .u512 a.amount, rfl, CLValue.as_of rfl trivial⟩

theorem holds_count (a : NativeMintArgs) :
    RuntimeArgs.Holds ⟨a.arguments⟩ "count" .u64 a.count :=
  ⟨.of .u64 a.count, rfl, CLValue.as_of rfl trivial⟩

end NativeMintArgs

/-- Prices are exact as long as they are amounts.

- For whatever fee a node tells a bound client, the price of a number of tokens is the product, if
  that is below `2 ^ 256`; otherwise the price overflows for this number of tokens.
- The arguments of native minting are made in just the same cases. They name the given owner and
  number of tokens, the package to which the client is bound, and the price.
- In any deploy of native minting that is made of them, by whatever client, the amount is read back
  as the price and the count as the number of tokens.
- A fee is told as it was stored, and every amount of 256 bits is one of 512 bits.
- A client that is not bound has no arguments of native minting, and asks nothing to say so. -/
theorem prices_are_exact :
    (∀ {σ : Type} (g : Gateway σ) (s : σ) (m : Minter) (contract : ContractAddress) (v : CLValue)
        (fee : U256) (owner : Identity) (count : UInt64),
      m.client.bound = some contract →
      (g (.namedValue contract.contractHash ["mint_fee"]) s).1 = .ok v → v.as .u256 = .ok fee →
      let price := fee.val * count.toNat
      let cost := (Dialogue.run g (m.mintCost count).run s).1
      let made := (Dialogue.run g (m.nativeMintArgs owner count).run s).1
      (price < 2 ^ 256 → ∃ x, cost = .ok x ∧ x.val = price) ∧
      (2 ^ 256 ≤ price → cost = .error (.costOverflow count)) ∧
      (price < 2 ^ 256 → ∃ a, made = .ok a ∧ a.nftOwner = owner ∧ a.count = count ∧
        a.minterPackageHash = contract.packageHash ∧ a.amount.val = price) ∧
      (2 ^ 256 ≤ price → made = .error (.costOverflow count)) ∧
      ∀ a, made = .ok a → ∀ (m' : Minter) now wasm signers d,
        m'.nativeMint now wasm a signers = .ok d → ∃ given amount,
          d.session = .moduleBytes wasm given ∧ given.Holds "amount" .u512 amount ∧
          amount.val = price ∧ given.Holds "count" .u64 count) ∧
    (∀ fee : U256, (CLValue.of .u256 fee).as .u256 = .ok fee) ∧
    (∀ x : U256, ∃ y : U512, Bounded.ofNat? x.val = some y ∧ y.val = x.val) ∧
    ∀ (m : Minter) (owner : Identity) (count : UInt64), m.client.bound = none →
      (m.nativeMintArgs owner count).run = .done (.error .unbound) := by
  refine ⟨?_, ?_, ?_, ?_⟩
  · intro σ g s m contract v fee owner count hBound hAnswer hFee price cost made
    have hRun := run_mintCost hBound hAnswer hFee count
    have hCost : cost = costOf fee count := congrArg Prod.fst hRun
    cases hPriced : costOf fee count with
    | ok x =>
      have hVal : x.val = price := costOf_eq_ok_iff.mp hPriced
      have hFits : ¬ 2 ^ 256 ≤ price := Nat.not_le_of_lt (hVal ▸ x.isLt)
      obtain ⟨amount, hWidened, hAmount⟩ := x.ofNat?_val
      rw [hPriced] at hCost hRun
      have hMade : made = .ok ⟨owner, count, contract.packageHash, amount⟩ :=
        congrArg Prod.fst (run_nativeMintArgs_of_ok hBound hRun hWidened owner)
      refine ⟨fun _ => ⟨x, hCost, hVal⟩, fun hLarge => absurd hLarge hFits,
        fun _ => ⟨_, hMade, rfl, rfl, rfl, hAmount.trans hVal⟩,
        fun hLarge => absurd hLarge hFits, ?_⟩
      intro a hArgs m' now wasm signers d hDeploy
      rw [hMade] at hArgs
      cases hArgs
      exact ⟨_, amount, nativeMint_session hDeploy, NativeMintArgs.holds_amount _,
        hAmount.trans hVal, NativeMintArgs.holds_count _⟩
    | error e =>
      obtain ⟨hLarge, rfl⟩ := costOf_eq_error_iff.mp hPriced
      rw [hPriced] at hCost hRun
      have hMade : made = .error (.costOverflow count) :=
        congrArg Prod.fst (run_nativeMintArgs_of_error hBound hRun owner)
      refine ⟨fun hFits => absurd hLarge (Nat.not_le_of_lt hFits), fun _ => hCost,
        fun hFits => absurd hLarge (Nat.not_le_of_lt hFits), fun _ => hMade, ?_⟩
      intro a hArgs
      rw [hMade] at hArgs
      cases hArgs
  · intro fee
    exact CLValue.as_of rfl trivial
  · intro x
    exact x.ofNat?_val
  · intro m owner count hUnbound
    exact nativeMintArgs_of_unbound hUnbound owner count

/-- For a fee of half of all amounts one token has a price, and two tokens have none. -/
theorem prices_are_exact_of_large_fee :
    let contract : Identity := ⟨.contract, default⟩
    let owner : Identity := ⟨.account, default⟩
    let m : Minter := ⟨⟨⟨"casper", ⟨60000⟩, 1, none⟩, some ⟨contract, contract⟩⟩, {}⟩
    let fee : U256 := ⟨2 ^ 255, Nat.pow_lt_pow_right (by decide) (by decide)⟩
    let n := MemoryNode.setNamedValue {} contract ["mint_fee"] (.of .u256 fee)
    (∃ a d given amount, (n.hold (m.nativeMintArgs owner 1).run).1 = .ok a ∧
      m.nativeMint ⟨0⟩ [] a [neutralSigner] = .ok d ∧ d.session = .moduleBytes [] given ∧
      given.Holds "amount" .u512 amount ∧ amount.val = 2 ^ 255) ∧
    (n.hold (m.mintCost 2).run).1 = .error (.costOverflow 2) := by
  intro contract owner m fee n
  obtain ⟨hPrices, hStored, -⟩ := prices_are_exact
  have hAnswer : (MemoryNode.answer (.namedValue contract ["mint_fee"]) n).1 =
      .ok (.of .u256 fee) := rfl
  have hOne : fee.val * (1 : UInt64).toNat = 2 ^ 255 := Nat.mul_one _
  have hTwo : 2 ^ 256 ≤ fee.val * (2 : UInt64).toNat := Nat.le_of_eq (Nat.pow_succ 2 255)
  obtain ⟨-, -, hMade, -, hDeploys⟩ :=
    hPrices MemoryNode.answer n m ⟨contract, contract⟩ _ fee owner 1 rfl hAnswer (hStored fee)
  rw [hOne] at hMade hDeploys
  obtain ⟨a, hArgs, -⟩ := hMade (Nat.pow_lt_pow_right (by decide) (by decide))
  have hMotes : m.payments.minterNativeMint.toMotes = .ok (.ofUInt64 85000000000) :=
    Outcome.eq_ok_of_toOption (by decide)
  have hDeploy := (FacadeWrite.deploy_eq (.minterNativeMint m [] a) ⟨0⟩ [neutralSigner]).trans
    (ContractClient.buildFor_cons hMotes rfl neutralSigner [])
  obtain ⟨given, amount, hSession, hAmount, hVal, -⟩ := hDeploys a hArgs m _ _ _ _ hDeploy
  refine ⟨⟨a, _, given, amount, hArgs, hDeploy, hSession, hAmount, hVal⟩, ?_⟩
  exact (hPrices MemoryNode.answer n m ⟨contract, contract⟩ _ fee owner 2 rfl hAnswer
    (hStored fee)).2.1 hTwo

end Minter

end Mintage
