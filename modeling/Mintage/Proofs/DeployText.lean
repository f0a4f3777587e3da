import Mintage.Proofs.DeployJson
import Mintage.Proofs.Json.Rendered

/-!
# Proofs: texts of deploys

All numbers in the JSON of a deploy are integers of 64 bits: the lengths within types, and the gas
price. So what is printed of a deploy has just one meaning.
-/

namespace Mintage

open Json

theorem Json.isIntegralItems_map {α : Type} (toJson : α → Json)
    (h : ∀ a, (toJson a).isIntegral = true) (as : List α) :
    isIntegralItems (as.map toJson) = true := by
  induction as with
  | nil => rfl
  | cons a as ih => rw [List.map_cons, isIntegralItems, h a, ih, Bool.and_self]

theorem CLType.isIntegral_toJson (t : CLType) : t.toJson.isIntegral = true := by
  induction t with
  | option inner ih | list inner ih => simp [toJson, isIntegral, isIntegralMembers, ih]
  | byteArray length =>
    have hLength := length.toNat_lt
    simp [toJson, Json.ofNat, isIntegral, isIntegralMembers]
    omega
  | _ => rfl

theorem CLValue.isIntegral_toJson (v : CLValue) : v.toJson.isIntegral = true := by
  simp [toJson, hexToJson, isIntegral, isIntegralMembers, v.clType.isIntegral_toJson]

theorem RuntimeArgs.isIntegral_toJson (a : RuntimeArgs) : a.toJson.isIntegral = true := by
  refine isIntegralItems_map _ (fun arg => ?_) a.args
  simp [NamedArg.toJson, isIntegral, isIntegralItems, arg.value.isIntegral_toJson]

theorem DeployItem.isIntegral_toJson (item : DeployItem) : item.toJson.isIntegral = true := by
  cases item with
  | moduleBytes wasm args | storedContract hash entryPoint args =>
    simp [toJson, CLValue.hexToJson, isIntegral, isIntegralMembers, args.isIntegral_toJson]

theorem DeployHeader.isIntegral_of_toJson? {h : DeployHeader} {j : Json}
    (hWritten : h.toJson? = some j) : j.isIntegral = true := by
  obtain ⟨time, hTime, hFields⟩ := Option.bind_eq_some_iff.mp hWritten
  obtain ⟨text, -, rfl⟩ := Option.map_eq_some_iff.mp hTime
  obtain rfl := Option.some.inj hFields
  have hPrice := h.gasPrice.toNat_lt
  have hDependencies := isIntegralItems_map Digest.toJson (fun _ => rfl) h.dependencies
  simp [isIntegral, isIntegralMembers, hDependencies, PublicKey.toJson, Duration.toJson,
    Digest.toJson, Json.ofNat]
  omega

namespace SignedDeploy

variable {d : SignedDeploy} {j : Json}

theorem isIntegral_of_toJson? (h : d.toJson? = some j) : j.isIntegral = true := by
  obtain ⟨header, hHeader, hFields⟩ := Option.bind_eq_some_iff.mp h
  obtain rfl := Option.some.inj hFields
  have hApprovals := isIntegralItems_map Approval.toJson (fun _ => rfl) d.approvals
  simp [isIntegral, isIntegralMembers, Digest.toJson, DeployHeader.isIntegral_of_toJson? hHeader,
    d.payment.isIntegral_toJson, d.session.isIntegral_toJson, hApprovals]

/-- What is printed of a deploy spells its JSON and nothing else. -/
theorem spells_pretty_iff (h : d.toJson? = some j) (k : Json) :
    Spells k (Utf8.encode j.pretty) ↔ k = j := by
  have hPrinted := spells_pretty (isIntegral_of_toJson? h)
  constructor
  · intro hOther
    exact hOther.unique hPrinted
  · rintro rfl
    exact hPrinted

end SignedDeploy

end Mintage
