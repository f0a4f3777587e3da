import Mintage.Key
import Mintage.Proofs.Identity

/-!
# Proofs: texts of keys

The text of a key names that key alone. For an account or a contract it is the text of the identity,
which is read as that identity. No prefix of an identity stands in front of the text of a reference,
so it is not mistaken for one; and its parts have fixed widths, two digits for each byte of the
address and three octal digits for the rights, so they can be told from it.
-/

namespace Mintage

theorem Hex.digit_injective {m n : Nat} (hm : m < 16) (hn : n < 16) (h : digit m = digit n) :
    m = n := by
  have hByte := digitValue?_digitByte hm
  rw [digitByte, h] at hByte
  exact Option.some.inj (hByte.symm.trans (digitValue?_digitByte hn))

namespace URef

/-- Three octal digits tell all the rights apart. -/
theorem octal_injective {m n : UInt8} (h : octal m = octal n) : m = n := by
  have hm : m.toNat < 256 := m.toNat_lt
  have hn : n.toNat < 256 := n.toNat_lt
  simp only [octal, String.ofList_inj, List.cons.injEq, and_true] at h
  obtain ⟨hHigh, hMiddle, hLow⟩ := h
  have hHigh := Hex.digit_injective (by omega) (by omega) hHigh
  have hMiddle := Hex.digit_injective (by omega) (by omega) hMiddle
  have hLow := Hex.digit_injective (by omega) (by omega) hLow
  rw [← UInt8.toNat_inj]
  omega

theorem text_injective {u v : URef} (h : u.text = v.text) : u = v := by
  have hText := congrArg String.toList h
  simp only [text, Hex.encode, String.toList_append, String.toList_ofList, List.append_assoc]
    at hText
  have hDigits := List.append_cancel_left hText
  have hLength : (Hex.encodeChars u.address.bytes).length =
      (Hex.encodeChars v.address.bytes).length := by
    rw [Hex.length_encodeChars, Hex.length_encodeChars, u.address.length_bytes,
      v.address.length_bytes]
  obtain ⟨hAddress, hRest⟩ := List.append_inj hDigits hLength
  have hRights := octal_injective (String.toList_inj.mp (List.append_cancel_left hRest))
  have hBytes := Hex.encode_injective (congrArg String.ofList hAddress)
  obtain ⟨address, rights⟩ := u
  cases Block.ext hBytes
  cases hRights
  rfl

/-- No prefix of an identity stands in front of the text of a reference. -/
theorem not_begins_text (u : URef) (kind : Identity.Kind) :
    ∀ p ∈ kind.acceptedPrefixes, ¬ Identity.Begins p u.text := by
  have table : ∀ p ∈ kind.acceptedPrefixes,
      ¬ (Identity.Begins p "uref-" ∨ Identity.Begins "uref-" p) := by
    cases kind with
    | account => decide
    | contract => decide
  have hOwn : Identity.Begins "uref-" u.text :=
    Identity.begins_iff.mpr ⟨Hex.encode u.address.bytes ++ "-" ++ octal u.rights, by
      rw [text, String.append_assoc, String.append_assoc, String.append_assoc]⟩
  intro p hp hBegins
  exact table p hp (hBegins.total hOwn)

theorem decode_text (u : URef) (kind : Identity.Kind) :
    Identity.decode u.text kind = .error (.wrongPrefix kind u.text) :=
  Identity.decode_of_forall_not_begins (u.not_begins_text kind)

end URef

namespace Key

/-! ## Identities as keys -/

theorem identity?_eq_some_iff {k : Key} {i : Identity} : k.identity? = some i ↔ k = i.toKey := by
  obtain ⟨kind, hash⟩ := i
  cases k with
  | account h => cases kind <;> simp [identity?, Identity.toKey]
  | hash h => cases kind <;> simp [identity?, Identity.toKey]
  | uref u => cases kind <;> simp [identity?, Identity.toKey]

theorem identity?_eq_none_iff {k : Key} : k.identity? = none ↔ ∃ u, k = .uref u := by
  cases k with
  | account h => simp [identity?]
  | hash h => simp [identity?]
  | uref u => simp [identity?]

theorem text_toKey (i : Identity) : i.toKey.text = i.text := by
  obtain ⟨kind, hash⟩ := i
  cases kind with
  | account => rfl
  | contract => rfl

/-! ## Reading the text of a key as an identity -/

theorem parse_text_uref (u : URef) :
    Identity.parse (uref u).text = .error (.wrongPrefix .contract u.text) := by
  have hOther : ¬ (Identity.stripPrefix? Identity.accountPrefix.toList u.text.toList).isSome := by
    rw [Identity.stripPrefix?_isSome_iff]
    exact u.not_begins_text .account _ (List.mem_singleton_self _)
  rw [text, Identity.parse, if_neg hOther, u.decode_text]

/-- The text of a key is read as the identity that the key refers to, and as no other. -/
theorem parse_text_eq_ok_iff {k : Key} {i : Identity} :
    Identity.parse k.text = .ok i ↔ k.identity? = some i := by
  cases hKey : k.identity? with
  | none =>
    obtain ⟨u, rfl⟩ := identity?_eq_none_iff.mp hKey
    rw [parse_text_uref]
    exact ⟨nofun, nofun⟩
  | some j =>
    obtain rfl := identity?_eq_some_iff.mp hKey
    have hRead : Identity.parse j.text = .ok j := Identity.parse_eq_ok_iff.mpr j.decode_text
    rw [text_toKey, hRead, Except.ok.injEq, Option.some.injEq]

/-- What a text is read as tells keys of identities apart, from each other and from references;
the texts of references do so themselves. -/
theorem text_injective {a b : Key} (h : a.text = b.text) : a = b := by
  have hSame : ∀ i, a.identity? = some i ↔ b.identity? = some i := by
    intro i
    rw [← parse_text_eq_ok_iff, h, parse_text_eq_ok_iff]
  cases hb : b.identity? with
  | some i => rw [identity?_eq_some_iff.mp hb, identity?_eq_some_iff.mp ((hSame i).mpr hb)]
  | none =>
    have ha : a.identity? = none := by
      refine Option.eq_none_iff_forall_ne_some.mpr fun i hi => ?_
      rw [(hSame i).mp hi] at hb
      cases hb
    obtain ⟨u, rfl⟩ := identity?_eq_none_iff.mp ha
    obtain ⟨v, rfl⟩ := identity?_eq_none_iff.mp hb
    rw [URef.text_injective h]

/-- No two keys have one text. The text of the key of an account or a contract is read as just that
identity, and the key can be made of it again; the text of a reference, whatever its address and its
rights, is refused as an identity of either kind. -/
theorem texts_name_one_key :
    (∀ a b : Key, a.text = b.text ↔ a = b) ∧
    (∀ k : Key, (∃ u, k = .uref u) ∨
      ∃ i, k.identity? = some i ∧ Identity.parse k.text = .ok i ∧ i.toKey = k) ∧
    ∀ u : URef, (uref u).identity? = none ∧
      Identity.parse (uref u).text = .error (.wrongPrefix .contract u.text) ∧
      ∀ kind, Identity.decode (uref u).text kind = .error (.wrongPrefix kind u.text) := by
  refine ⟨?_, ?_, ?_⟩
  · intro a b
    exact ⟨text_injective, congrArg text⟩
  · intro k
    cases hKey : k.identity? with
    | none => exact .inl (identity?_eq_none_iff.mp hKey)
    | some i =>
      exact .inr ⟨i, rfl, parse_text_eq_ok_iff.mpr hKey, (identity?_eq_some_iff.mp hKey).symm⟩
  · intro u
    exact ⟨rfl, parse_text_uref u, u.decode_text⟩

end Key

end Mintage
