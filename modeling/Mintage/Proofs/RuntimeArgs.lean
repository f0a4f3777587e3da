import Mintage.Proofs.CLValue
import Mintage.RuntimeArgs

/-!
# Proofs: named arguments

Inserting refuses a name that is already there, and so does the decoder, which inserts what it has
read. Both therefore lead to arguments whose names differ, and to all of these.
-/

namespace Mintage

open Wire

namespace NamedArg

/-- The name and the bytes of the value fit behind a length. -/
structure Fits (a : NamedArg) : Prop where
  name : LengthFits (Utf8.encode a.name).length
  value : a.value.Fits

theorem exact_decode : Exact Fits encode decode := by
  intro bs a rest
  simp only [decode, bind_eq_ok_iff, pure_eq_ok_iff]
  constructor
  · rintro ⟨name, mid, hName, value, mid', hValue, rfl, rfl⟩
    obtain ⟨hNameFits, rfl⟩ := (exact_decodeString _ _ _).mp hName
    obtain ⟨hValueFits, rfl⟩ := (CLValue.exact_decode _ _ _).mp hValue
    exact ⟨⟨hNameFits, hValueFits⟩, by simp [encode]⟩
  · rintro ⟨⟨hName, hValue⟩, rfl⟩
    rw [encode, List.append_assoc]
    exact ⟨a.name, _, exact_decodeString.decode_append hName _, a.value, rest,
      CLValue.exact_decode.decode_append hValue rest, rfl, rfl⟩

theorem decode_of_invalidText {blob rest : Bytes} (hBlob : LengthFits blob.length)
    {fault : Utf8.Error} (hFault : Utf8.decode blob = .error fault) :
    decode (encodeBlob blob ++ rest) = .error (.invalidText fault) :=
  bind_of_error (decodeString_of_error hBlob hFault)

theorem decode_of_mistagged {name : String} (hName : LengthFits (Utf8.encode name).length)
    {bytes bs : Bytes} (hBytes : LengthFits bytes.length) {tag : UInt8}
    (h : CLType.Mistagged tag bs) :
    decode (encodeString name ++ (encodeBlob bytes ++ bs)) = .error (.unknownType tag) := by
  rw [decode, bind_of_ok (exact_decodeString.decode_append hName _)]
  exact bind_of_error (CLValue.decode_of_mistagged hBytes h)

theorem encode_ne_nil (a : NamedArg) : a.encode ≠ [] := by
  simp [encode, encodeString, encodeBlob, encodeLength, littleEndian]

theorem fits_of_encode {a : NamedArg} (h : LengthFits a.encode.length) : a.Fits := by
  rw [encode, List.length_append] at h
  constructor
  · refine LengthFits.mono ?_ h
    simp only [encodeString, encodeBlob, List.length_append]
    omega
  · exact CLValue.fits_of_encode (LengthFits.mono (Nat.le_add_left _ _) h)

end NamedArg

namespace RuntimeArgs

/-! ## Inserting -/

theorem contains_iff {a : RuntimeArgs} {name : String} :
    a.contains name = true ↔ name ∈ a.names := by
  simp [contains, get?, names]

/-- A name that is there is complained of, and the arguments stay as they are. -/
theorem Change.run_insertValue (name : String) (value : CLValue) (a : RuntimeArgs) :
    (Change.insertValue name value).run.run a =
      if a.contains name then (.error ⟨name⟩, a) else (.ok (), ⟨a.args ++ [⟨name, value⟩]⟩) := by
  have hRun : (Change.insertValue name value).run.run a =
      (if a.contains name then throw ⟨name⟩
        else modify fun a => ⟨a.args ++ [⟨name, value⟩]⟩ : Change Unit).run.run a := rfl
  rw [hRun]
  split
  · rfl
  · rfl

theorem insertValue_eq (a : RuntimeArgs) (name : String) (value : CLValue) :
    a.insertValue name value =
      if a.contains name then .error ⟨name⟩ else .ok ⟨a.args ++ [⟨name, value⟩]⟩ := by
  rw [insertValue, Change.apply, Change.run_insertValue]
  by_cases h : a.contains name = true
  · rw [if_pos h, if_pos h]
  · rw [if_neg h, if_neg h]

theorem insertValue_eq_ok_iff {a b : RuntimeArgs} {name : String} {value : CLValue} :
    a.insertValue name value = .ok b ↔ name ∉ a.names ∧ b = ⟨a.args ++ [⟨name, value⟩]⟩ := by
  rw [← contains_iff, insertValue_eq]
  cases a.contains name with
  | false => simp [eq_comm]
  | true => simp

theorem insertValue_eq_error_iff {a : RuntimeArgs} {name : String} {value : CLValue}
    {e : DuplicateArgument} :
    a.insertValue name value = .error e ↔ name ∈ a.names ∧ e = ⟨name⟩ := by
  rw [← contains_iff, insertValue_eq]
  cases a.contains name with
  | false => simp
  | true => simp [eq_comm]

theorem names_append (a : RuntimeArgs) (args : List NamedArg) :
    names ⟨a.args ++ args⟩ = a.names ++ args.map (·.name) := by
  simp [names]

/-- Inserting one more argument keeps the names apart. -/
theorem nodup_names_of_insertValue {a b : RuntimeArgs} {name : String} {value : CLValue}
    (ha : a.names.Nodup) (h : a.insertValue name value = .ok b) : b.names.Nodup := by
  obtain ⟨hName, rfl⟩ := insertValue_eq_ok_iff.mp h
  rw [names_append, List.nodup_append]
  refine ⟨ha, by simp, ?_⟩
  rintro x hx y hy rfl
  obtain rfl : x = name := by simpa using hy
  exact hName hx

theorem insertAll_cons (a : RuntimeArgs) (arg : NamedArg) (args : List NamedArg) :
    a.insertAll (arg :: args) =
      (a.insertValue arg.name arg.value).bind fun b => b.insertAll args := rfl

/-- Inserting a list succeeds exactly if no name is there twice in the end. -/
theorem insertAll_eq_ok_iff {a b : RuntimeArgs} {args : List NamedArg} (ha : a.names.Nodup) :
    a.insertAll args = .ok b ↔ b = ⟨a.args ++ args⟩ ∧ b.names.Nodup := by
  induction args generalizing a with
  | nil =>
    rw [List.append_nil]
    constructor
    · intro h
      cases h
      exact ⟨rfl, ha⟩
    · rintro ⟨rfl, -⟩
      rfl
  | cons arg args ih =>
    rw [insertAll_cons]
    cases h : a.insertValue arg.name arg.value with
    | error e =>
      obtain ⟨hName, -⟩ := insertValue_eq_error_iff.mp h
      simp only [Except.bind, reduceCtorEq, false_iff, not_and]
      rintro rfl hNodup
      rw [names_append, List.nodup_append] at hNodup
      exact hNodup.2.2 _ hName _ (List.mem_cons_self) rfl
    | ok c =>
      obtain ⟨-, rfl⟩ := insertValue_eq_ok_iff.mp h
      rw [Except.bind, ih (nodup_names_of_insertValue ha h), List.append_assoc,
        List.singleton_append]

/-- Inserting a list fails exactly if some name is there already, and it is the first such name that
is complained of. -/
theorem insertAll_eq_error_iff {a : RuntimeArgs} {args : List NamedArg} {e : DuplicateArgument}
    (ha : a.names.Nodup) :
    a.insertAll args = .error e ↔ ∃ before arg after, args = before ++ arg :: after ∧
      (a.names ++ before.map (·.name)).Nodup ∧ arg.name ∈ a.names ++ before.map (·.name) ∧
      e = ⟨arg.name⟩ := by
  induction args generalizing a with
  | nil =>
    constructor
    · intro h
      cases h
    · rintro ⟨before, arg, after, hArgs, -⟩
      simp at hArgs
  | cons arg args ih =>
    rw [insertAll_cons]
    cases h : a.insertValue arg.name arg.value with
    | error e' =>
      obtain ⟨hName, rfl⟩ := insertValue_eq_error_iff.mp h
      constructor
      · intro hError
        cases hError
        exact ⟨[], arg, args, rfl, by simpa using ha, by simpa using hName, rfl⟩
      · rintro ⟨before, arg', after, hArgs, hNodup, -, rfl⟩
        cases before with
        | nil =>
          cases hArgs
          rfl
        | cons x before =>
          cases hArgs
          exact absurd rfl ((List.nodup_append.mp hNodup).2.2 _ hName _ List.mem_cons_self)
    | ok c =>
      have hc := nodup_names_of_insertValue ha h
      obtain ⟨hName, rfl⟩ := insertValue_eq_ok_iff.mp h
      rw [Except.bind, ih hc]
      simp only [names_append, List.append_assoc, List.map_cons, List.map_nil,
        List.singleton_append]
      constructor
      · rintro ⟨before, arg', after, rfl, hNodup, hMem, rfl⟩
        exact ⟨arg :: before, arg', after, rfl, hNodup, hMem, rfl⟩
      · rintro ⟨before, arg', after, hArgs, hNodup, hMem, rfl⟩
        cases before with
        | nil =>
          cases hArgs
          exact absurd (by simpa using hMem) hName
        | cons x before =>
          cases hArgs
          exact ⟨before, arg', after, rfl, hNodup, hMem, rfl⟩

theorem nodup_names_empty : empty.names.Nodup := List.nodup_nil

theorem ofList_eq_error_iff {args : List NamedArg} {e : DuplicateArgument} :
    ofList args = .error e ↔ ∃ before arg after, args = before ++ arg :: after ∧
      (before.map (·.name)).Nodup ∧ arg.name ∈ before.map (·.name) ∧ e = ⟨arg.name⟩ :=
  insertAll_eq_error_iff nodup_names_empty

theorem ofList_eq_ok_iff {args : List NamedArg} {a : RuntimeArgs} :
    ofList args = .ok a ↔ a.args = args ∧ a.names.Nodup := by
  rw [ofList, insertAll_eq_ok_iff nodup_names_empty]
  constructor
  · rintro ⟨rfl, h⟩
    exact ⟨rfl, h⟩
  · rintro ⟨rfl, h⟩
    exact ⟨rfl, h⟩

theorem ofList_of_nodup {args : List NamedArg} (h : (args.map (·.name)).Nodup) :
    ofList args = .ok ⟨args⟩ := ofList_eq_ok_iff.mpr ⟨rfl, h⟩

/-! ## Binary form -/

/-- The number of arguments fits into a length, and each argument fits. -/
structure Fits (a : RuntimeArgs) : Prop where
  size : LengthFits a.args.length
  args : ∀ arg ∈ a.args, arg.Fits

/-- Arguments are told apart also where names are repeated: the layout does not need the names to
differ, only the decoder does. -/
theorem prefixFree_encode : PrefixFree Fits encode := by
  rintro ⟨as⟩ ⟨bs⟩ r s ha hb h
  obtain ⟨rfl, hRest⟩ := (exact_decodeList NamedArg.exact_decode).prefixFree as bs r s
    ⟨ha.size, ha.args⟩ ⟨hb.size, hb.args⟩ h
  exact ⟨rfl, hRest⟩

theorem exact_decode : Exact (fun a => a.Fits ∧ a.names.Nodup) encode decode := by
  intro bs a rest
  rw [decode, bind_eq_ok_iff]
  constructor
  · rintro ⟨args, mid, hArgs, hInsert⟩
    obtain ⟨⟨hSize, hFits⟩, rfl⟩ := (exact_decodeList NamedArg.exact_decode _ _ _).mp hArgs
    cases hList : ofList args with
    | error e => simp [hList] at hInsert
    | ok b =>
      rw [hList] at hInsert
      obtain ⟨rfl, rfl⟩ := pure_eq_ok_iff.mp hInsert
      obtain ⟨rfl, hNodup⟩ := ofList_eq_ok_iff.mp hList
      exact ⟨⟨⟨hSize, hFits⟩, hNodup⟩, rfl⟩
  · rintro ⟨⟨⟨hSize, hFits⟩, hNodup⟩, rfl⟩
    refine ⟨a.args, rest, ?_, ?_⟩
    · exact (exact_decodeList NamedArg.exact_decode).decode_append ⟨hSize, hFits⟩ rest
    · rw [ofList_eq_ok_iff.mpr ⟨rfl, hNodup⟩]
      exact pure_eq_ok_iff.mpr ⟨rfl, rfl⟩

example : decode.run [1, 0, 0, 0, 1, 0, 0, 0, 0x78, 1, 0, 0, 0, 1, 3] =
    .ok ⟨[⟨"x", ⟨.u8, [1]⟩⟩]⟩ := rfl

/-- An encoding is read back by inserting the arguments one by one. -/
theorem run_encode {a : RuntimeArgs} (hFits : a.Fits) :
    decode.run a.encode =
      (ofList a.args).mapError fun e => Error.duplicateArgument e.name := by
  have hArgs := (exact_decodeList NamedArg.exact_decode).decode_append ⟨hFits.size, hFits.args⟩ []
  rw [List.append_nil] at hArgs
  unfold Decoder.run
  rw [decode, encode, bind_of_ok hArgs]
  cases ofList a.args with
  | error e => rfl
  | ok b => rfl

/-- Arguments with a repeated name have an encoding, but it is not read: the first name that has
occurred before is complained of. -/
theorem run_encode_of_repeated {before after : List NamedArg} {arg : NamedArg}
    (hFits : Fits ⟨before ++ arg :: after⟩) (hNodup : (before.map (·.name)).Nodup)
    (hMem : arg.name ∈ before.map (·.name)) :
    decode.run (encode ⟨before ++ arg :: after⟩) = .error (.duplicateArgument arg.name) := by
  rw [run_encode hFits, ofList_eq_error_iff.mpr ⟨before, arg, after, rfl, hNodup, hMem, rfl⟩]
  rfl

example : decode.run (encode ⟨[⟨"x", ⟨.u8, [1]⟩⟩, ⟨"x", ⟨.bool, [1]⟩⟩]⟩) =
    .error (.duplicateArgument "x") := rfl

/-- An argument that cannot be read spoils all of them, wherever it stands. -/
theorem run_of_error {before : List NamedArg} (hBefore : ∀ arg ∈ before, arg.Fits) {n : Nat}
    (hn : before.length < n) (hFits : LengthFits n) {bs : Bytes} {e : Error}
    (he : NamedArg.decode bs = .error e) :
    decode.run (encodeLength n ++ (before.flatMap NamedArg.encode ++ bs)) = .error e := by
  have hList := decodeList_of_error NamedArg.exact_decode hBefore hn hFits he
  exact Wire.run_of_error (bind_of_error hList)

/-- Arguments whose encoding has a length in four bytes fit. -/
theorem fits_of_encode {a : RuntimeArgs} (h : LengthFits a.encode.length) : a.Fits := by
  rw [encode, encodeList, List.length_append] at h
  constructor
  · refine LengthFits.mono ?_ h
    have hSize := length_le_length_flatMap NamedArg.encode_ne_nil a.args
    omega
  · intro arg hArg
    apply NamedArg.fits_of_encode
    refine LengthFits.mono ?_ h
    have hPart := length_encode_le NamedArg.encode hArg
    omega

end RuntimeArgs

end Mintage
