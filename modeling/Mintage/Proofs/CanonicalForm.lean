import Mintage.Proofs.RuntimeArgs

/-!
# Proofs: one binary form for each value

Whole inputs are read by the decoders of types, keys, typed values and arguments if and only if they
are encodings. So a hash of the bytes is a hash of the value: nobody can write the same value in
another way.
-/

namespace Mintage

open Wire

namespace Wire

/-- What an exact decoder makes of whole inputs: they are read if they are encodings, each value has
one of them, and no encoding is read with something missing or left over. -/
structure Canonical {α : Type} (Fits : α → Prop) (encode : α → Bytes) (decode : Decoder α) :
    Prop where
  run_eq_ok_iff : ∀ bs a, decode.run bs = .ok a ↔ Fits a ∧ encode a = bs
  unique : ∀ bs cs a, decode.run bs = .ok a → decode.run cs = .ok a → bs = cs
  truncated : ∀ a bs cs, Fits a → encode a = bs ++ cs → cs ≠ [] → ∃ e, decode.run bs = .error e
  extended : ∀ a cs, Fits a → cs ≠ [] → decode.run (encode a ++ cs) = .error .trailingBytes

theorem Exact.canonical {α : Type} {Fits : α → Prop} {encode : α → Bytes} {decode : Decoder α}
    (h : Exact Fits encode decode) : Canonical Fits encode decode where
  run_eq_ok_iff _ _ := h.run_eq_ok_iff
  unique bs cs a hbs hcs := by
    rw [← (h.run_eq_ok_iff.mp hbs).2, ← (h.run_eq_ok_iff.mp hcs).2]
  truncated _ _ _ ha hEq hcs := h.run_truncated ha hEq hcs
  extended _ _ ha hcs := h.run_extended ha hcs

end Wire

theorem CLValue.run_eq_ok_iff_of_short {bs : Bytes} {v : CLValue} (h : LengthFits bs.length) :
    decode.run bs = .ok v ↔ v.encode = bs := by
  rw [exact_decode.run_eq_ok_iff]
  constructor
  · exact And.right
  · rintro rfl
    exact ⟨fits_of_encode h, rfl⟩

theorem RuntimeArgs.run_eq_ok_iff_of_short {bs : Bytes} {a : RuntimeArgs} (h : LengthFits bs.length)
    (ha : a.names.Nodup) : decode.run bs = .ok a ↔ a.encode = bs := by
  rw [exact_decode.run_eq_ok_iff]
  constructor
  · exact And.right
  · rintro rfl
    exact ⟨⟨fits_of_encode h, ha⟩, rfl⟩

/-- The binary form accepts exactly its own encodings. Lengths take four bytes, so that is said of
the values that fit, among them all values of fewer than `2 ^ 32` bytes; and names of arguments have
to differ. The last items name the error for a tag of no type or key, at any depth and in any
argument, for a name that is not UTF-8, and for the first name that is repeated. -/
theorem binary_form_canonical :
    (Canonical (fun _ => True) CLType.encode CLType.decode ∧
      Canonical (fun _ => True) Key.encode Key.decode ∧
      Canonical (fun _ => True) URef.encode URef.decode ∧
      Canonical (fun _ => True) PublicKey.encode PublicKey.decode ∧
      Canonical (fun _ => True) (Block.bytes : Digest → Bytes) (decodeBlock 32) ∧
      Canonical CLValue.Fits CLValue.encode CLValue.decode ∧
      Canonical (fun a => a.Fits ∧ a.names.Nodup) RuntimeArgs.encode RuntimeArgs.decode) ∧
    (∀ bs v, LengthFits bs.length → (CLValue.decode.run bs = .ok v ↔ v.encode = bs)) ∧
    (∀ bs a, LengthFits bs.length → a.names.Nodup →
      (RuntimeArgs.decode.run bs = .ok a ↔ a.encode = bs)) ∧
    (∀ tag rest, tag ∉ [0, 1, 2] → Key.decode.run (tag :: rest) = .error (.unknownKey tag)) ∧
    (∀ tag rest, tag ∉ [1, 2] →
      PublicKey.decode.run (tag :: rest) = .error (.unknownPublicKey tag)) ∧
    (∀ tag bs, CLType.Mistagged tag bs →
      Decoder.run CLType.decode bs = .error (.unknownType tag) ∧
      ∀ bytes : Bytes, LengthFits bytes.length →
        CLValue.decode.run (encodeBlob bytes ++ bs) = .error (.unknownType tag)) ∧
    (∀ n (before : List NamedArg), LengthFits n → before.length < n →
      (∀ arg ∈ before, arg.Fits) →
      (∀ blob rest fault, LengthFits blob.length → Utf8.decode blob = .error fault →
        RuntimeArgs.decode.run (encodeLength n ++ (before.flatMap NamedArg.encode ++
          (encodeBlob blob ++ rest))) = .error (.invalidText fault)) ∧
      (∀ name bytes tag bs, LengthFits (Utf8.encode name).length → LengthFits bytes.length →
        CLType.Mistagged tag bs →
        RuntimeArgs.decode.run (encodeLength n ++ (before.flatMap NamedArg.encode ++
          (encodeString name ++ (encodeBlob bytes ++ bs)))) = .error (.unknownType tag))) ∧
    (∀ (before : List NamedArg) (arg : NamedArg) (after : List NamedArg),
      RuntimeArgs.Fits ⟨before ++ arg :: after⟩ → (before.map (·.name)).Nodup →
      arg.name ∈ before.map (·.name) →
      RuntimeArgs.decode.run (RuntimeArgs.encode ⟨before ++ arg :: after⟩) =
        .error (.duplicateArgument arg.name)) := by
  refine ⟨⟨CLType.exact_decode.canonical, Key.exact_decode.canonical, URef.exact_decode.canonical,
    PublicKey.exact_decode.canonical, (exact_decodeBlock 32).canonical,
    CLValue.exact_decode.canonical, RuntimeArgs.exact_decode.canonical⟩, ?_, ?_, ?_, ?_, ?_, ?_, ?_⟩
  · intro bs v h
    exact CLValue.run_eq_ok_iff_of_short h
  · intro bs a h ha
    exact RuntimeArgs.run_eq_ok_iff_of_short h ha
  · intro tag rest hTag
    exact run_of_error (Key.decode_of_mistagged hTag rest)
  · intro tag rest hTag
    exact run_of_error (PublicKey.decode_of_mistagged hTag rest)
  · intro tag bs h
    refine ⟨run_of_error (CLType.decode_of_mistagged h), ?_⟩
    intro bytes hBytes
    exact run_of_error (CLValue.decode_of_mistagged hBytes h)
  · intro n before hn hBefore hFits
    refine ⟨?_, ?_⟩
    · intro blob rest fault hBlob hFault
      exact RuntimeArgs.run_of_error hFits hBefore hn
        (NamedArg.decode_of_invalidText hBlob hFault)
    · intro name bytes tag bs hName hBytes h
      exact RuntimeArgs.run_of_error hFits hBefore hn
        (NamedArg.decode_of_mistagged hName hBytes h)
  · intro before arg after hFits hNodup hMem
    exact RuntimeArgs.run_encode_of_repeated hFits hNodup hMem

end Mintage
