import Mintage.Cep18.Install
import Mintage.Cep78.Install
import Mintage.Minter.Args
import Mintage.Proofs.RuntimeArgs
import Mintage.Proofs.TypedValues

/-!
# Proofs: records as arguments

A record is passed to a contract field by field. Each field has a name and a way to be written,
which can be undone; a field that is not set is not passed. Where the names differ, the arguments
hold each field that is set and nothing else, and the record can be told from them.

The tables of fields below list the fields of each record as they are declared, with the argument
that each is passed as. A length that does not fit into four bytes is cut off by the writer, so a
text or list that is so long is not read back. Its bytes are all there, though, so that even then
different records have different arguments.
-/

namespace Mintage

open Wire

namespace Shape

/-- The values are neither lists nor optional. -/
def isPlain : Shape → Bool
  | list _ | option _ => false
  | _ => true

theorem isReadable_of_isPlain {s : Shape} (h : s.isPlain = true) : s.isReadable := by
  cases s with
  | list item => cases h
  | option inner => cases h
  | _ => rfl

theorem fits_of_isPlain {s : Shape} (h : s.isPlain = true) (hText : s ≠ .string) (x : s.Value) :
    s.Fits x := by
  -- Apart from texts only lists have a length that may not fit.
  cases s with
  | list item => cases h
  | option inner => cases h
  | string => exact absurd rfl hText
  | _ => trivial

end Shape

theorem Wire.encodeString_injective {s t : String} (h : encodeString s = encodeString t) :
    s = t := by
  have hLength : (encodeLength (Utf8.encode s).length).length =
      (encodeLength (Utf8.encode t).length).length := by
    rw [length_encodeLength, length_encodeLength]
  exact Utf8.encode_injective (List.append_inj h hLength).2

/-! ## Ways to pass a field -/

/-- How a field is passed. -/
inductive Passing where
  /-- As what it is. -/
  | plain (s : Shape) (isPlain : s.isPlain = true)
  /-- As the key of an account or contract. -/
  | identity
  /-- As a list of such keys. -/
  | identities
  /-- As the number one or zero. -/
  | switch

namespace Passing

/-- What is passed. -/
abbrev Value : Passing → Type
  | plain s _ => s.Value
  | identity => Identity
  | identities => List Identity
  | switch => Bool

/-- The typed value that is passed. -/
def write : (p : Passing) → p.Value → CLValue
  | plain s _, x => .of s x
  | identity, i => .of .key i.toKey
  | identities, is => .of (.list .key) (Cep78.keysOf is)
  | switch, b => .of .u8 (if b then 1 else 0)

/-- What was passed, if the typed value is of this kind. -/
def read : (p : Passing) → CLValue → Option p.Value
  | plain s _, v => (v.as s).toOption
  | identity, v => v.asIdentity.toOption
  | identities, v => (v.as (.list .key)).toOption.bind fun keys => keys.mapM Key.identity?
  | switch, v => (v.as .u8).toOption.bind fun n =>
    if n = 0 then some false else if n = 1 then some true else none

/-- Texts and lists fit behind their lengths. -/
def Fits : (p : Passing) → p.Value → Prop
  | plain s _, x => s.Fits x
  | identities, is => LengthFits is.length
  | _, _ => True

theorem mapM_identity?_keysOf (is : List Identity) :
    (Cep78.keysOf is).mapM Key.identity? = some is := by
  induction is with
  | nil => rfl
  | cons i is ih =>
    have hKeys : Cep78.keysOf (i :: is) = i.toKey :: Cep78.keysOf is := rfl
    rw [hKeys, List.mapM_cons, Key.identity?_eq_some_iff.mpr rfl, ih]
    rfl

theorem as_keysOf_eq_ok_iff {is : List Identity} {keys : List Key} :
    (CLValue.of (.list .key) (Cep78.keysOf is)).as (.list .key) = .ok keys ↔
      LengthFits is.length ∧ keys = Cep78.keysOf is := by
  have hLength : (Cep78.keysOf is).length = is.length := List.length_map _
  rw [← hLength]
  exact CLValue.as_list_of_eq_ok_iff .key _ _ Key.exact_decode rfl Key.encode_ne_nil

variable {p : Passing} {x y : p.Value}

theorem read_write (h : p.Fits x) : p.read (p.write x) = some x := by
  cases p with
  | plain s isPlain =>
    have hReadable := Shape.isReadable_of_isPlain isPlain
    exact Outcome.toOption_eq_some_iff.mpr (CLValue.as_of hReadable h)
  | identity => exact Outcome.toOption_eq_some_iff.mpr (CLValue.asIdentity_eq_ok_iff.mpr rfl)
  | identities =>
    have hKeys := as_keysOf_eq_ok_iff.mpr ⟨h, rfl⟩
    rw [read, write, Outcome.toOption_eq_some_iff.mpr hKeys]
    exact mapM_identity?_keysOf x
  | switch =>
    cases x with
    | false => rfl
    | true => rfl

theorem write_injective (h : p.write x = p.write y) : x = y := by
  -- What fits is read back; a text or list that does not is told by the bytes behind its length.
  have hOfFits : p.Fits x → p.Fits y → x = y := by
    intro hx hy
    have hRead := read_write hx
    rw [h, read_write hy] at hRead
    exact (Option.some.inj hRead).symm
  cases p with
  | plain s isPlain =>
    by_cases hText : s = .string
    · subst hText
      exact encodeString_injective (congrArg CLValue.bytes h)
    · exact hOfFits (Shape.fits_of_isPlain isPlain hText x) (Shape.fits_of_isPlain isPlain hText y)
  | identity => exact hOfFits trivial trivial
  | identities =>
    have hKeys : Cep78.keysOf x = Cep78.keysOf y :=
      Key.exact_decode.prefixFree.encodeList_injective Key.encode_ne_nil
        (congrArg CLValue.bytes h)
    have hIdentities := mapM_identity?_keysOf x
    rw [hKeys, mapM_identity?_keysOf] at hIdentities
    exact (Option.some.inj hIdentities).symm
  | switch => exact hOfFits trivial trivial

theorem fits_of_read (h : p.read (p.write x) = some y) : p.Fits x := by
  cases p with
  | plain s isPlain =>
    by_cases hText : s = .string
    · subst hText
      have hRead := Outcome.toOption_eq_some_iff.mp h
      obtain ⟨hFits, hSame⟩ := (CLValue.as_eq_ok_iff_of_exact rfl rfl).mp hRead
      obtain rfl := encodeString_injective (congrArg CLValue.bytes hSame)
      exact hFits
    · exact Shape.fits_of_isPlain isPlain hText x
  | identity => trivial
  | identities =>
    obtain ⟨keys, hKeys, -⟩ := Option.bind_eq_some_iff.mp h
    exact (as_keysOf_eq_ok_iff.mp (Outcome.toOption_eq_some_iff.mp hKeys)).1
  | switch => trivial

/-- What is passed is read back exactly if its length fits. -/
theorem read_write_eq_some_iff : p.read (p.write x) = some y ↔ p.Fits x ∧ y = x := by
  constructor
  · intro h
    have hFits := fits_of_read h
    rw [read_write hFits] at h
    exact ⟨hFits, (Option.some.inj h).symm⟩
  · rintro ⟨hFits, rfl⟩
    exact read_write hFits

end Passing

/-! ## Fields -/

/-- A field of a record, with the argument that it is passed as. -/
structure Field (ρ : Type) where
  name : String
  passing : Passing
  /-- The value, if the field is set. -/
  value? : ρ → Option passing.Value

namespace Field

variable {ρ : Type}

/-- A field that is always set. -/
def always (name : String) (passing : Passing) (value : ρ → passing.Value) : Field ρ :=
  ⟨name, passing, fun r => some (value r)⟩

/-- The argument of a field that is set. -/
def argument? (f : Field ρ) (r : ρ) : Option NamedArg :=
  (f.value? r).map fun x => ⟨f.name, f.passing.write x⟩

/-- The arguments of the fields that are set, in order. -/
def arguments (fields : List (Field ρ)) (r : ρ) : List NamedArg :=
  fields.filterMap fun f => f.argument? r

variable {fields : List (Field ρ)} {f : Field ρ} {r : ρ}

theorem arguments_cons (f : Field ρ) (fields : List (Field ρ)) (r : ρ) :
    arguments (f :: fields) r = (f.argument? r).toList ++ arguments fields r := by
  rw [arguments, List.filterMap_cons]
  cases f.argument? r with
  | none => rfl
  | some arg => rfl

theorem names_arguments (fields : List (Field ρ)) (r : ρ) :
    (arguments fields r).map (·.name) =
      (fields.filter fun f => (f.value? r).isSome).map (·.name) := by
  induction fields with
  | nil => rfl
  | cons f fields ih =>
    rw [arguments_cons, List.filter_cons, argument?]
    cases f.value? r with
    | none => exact ih
    | some x => exact congrArg (f.name :: ·) ih

theorem nodup_names_arguments (hNames : (fields.map (·.name)).Nodup) (r : ρ) :
    ((arguments fields r).map (·.name)).Nodup := by
  rw [names_arguments]
  exact hNames.sublist (List.filter_sublist.map _)

theorem ofList_arguments (fields : List (Field ρ)) (hNames : (fields.map (·.name)).Nodup) (r : ρ) :
    RuntimeArgs.ofList (arguments fields r) = .ok ⟨arguments fields r⟩ :=
  RuntimeArgs.ofList_of_nodup (nodup_names_arguments hNames r)

theorem get?_arguments (hNames : (fields.map (·.name)).Nodup) (hf : f ∈ fields) (r : ρ) :
    RuntimeArgs.get? ⟨arguments fields r⟩ f.name = (f.value? r).map f.passing.write := by
  induction fields with
  | nil => cases hf
  | cons g fields ih =>
    obtain ⟨hHead, hTail⟩ := List.nodup_cons.mp hNames
    have hCons : ∀ name, RuntimeArgs.get? ⟨arguments (g :: fields) r⟩ name =
        if (g.value? r).isSome ∧ g.name = name then (g.value? r).map g.passing.write
        else RuntimeArgs.get? ⟨arguments fields r⟩ name := by
      intro name
      rw [arguments_cons, argument?, RuntimeArgs.get?, RuntimeArgs.get?]
      cases g.value? r with
      | none => simp
      | some x =>
        by_cases hName : g.name = name
        · simp [hName]
        · simp [hName]
    rw [hCons]
    rcases List.mem_cons.mp hf with rfl | hf
    · cases hValue : f.value? r with
      | some x => simp
      | none =>
        -- The fields behind it have other names, so none of them is found in its place.
        have hAbsent : f.name ∉ RuntimeArgs.names ⟨arguments fields r⟩ := by
          intro hName
          rw [RuntimeArgs.names, names_arguments] at hName
          exact hHead ((List.filter_sublist.map _).subset hName)
        rw [← RuntimeArgs.contains_iff, RuntimeArgs.contains] at hAbsent
        simpa using hAbsent
    · have hOther : g.name ≠ f.name := by
        intro hName
        have hMem : f.name ∈ fields.map (·.name) := List.mem_map_of_mem hf
        rw [← hName] at hMem
        exact hHead hMem
      rw [if_neg fun h => hOther h.2]
      exact ih hTail hf

end Field

/-! ## Records -/

/-- The arguments hold the fields of a record that are set, in order, and nothing else. Each is
read back, if its length fits. -/
structure Field.Passed {ρ : Type} (fields : List (Field ρ)) (r : ρ) (a : RuntimeArgs) : Prop where
  names : a.names = (fields.filter fun f => (f.value? r).isSome).map (·.name)
  nodup : a.names.Nodup
  set : ∀ f ∈ fields, ∀ x, f.value? r = some x →
    ∃ v, a.get? f.name = some v ∧ ∀ y, f.passing.read v = some y ↔ f.passing.Fits x ∧ y = x
  unset : ∀ f ∈ fields, f.value? r = none → a.get? f.name = none

/-- A record is passed without loss: the names of its fields differ, the fields make it up, they
are what is passed, and different records are passed as different arguments. -/
structure Field.Lossless {ρ : Type} (fields : List (Field ρ))
    (toRuntimeArgs : ρ → Except RuntimeArgs.DuplicateArgument RuntimeArgs) : Prop where
  names : (fields.map (·.name)).Nodup
  whole : ∀ r r', (∀ f ∈ fields, f.value? r = f.value? r') → r = r'
  passed : ∀ r, ∃ a, toRuntimeArgs r = .ok a ∧ Field.Passed fields r a
  injective : ∀ r r', toRuntimeArgs r = toRuntimeArgs r' → r = r'

section Lossless

variable {ρ : Type} {fields : List (Field ρ)}

theorem Field.passed_arguments (hNames : (fields.map (·.name)).Nodup) (r : ρ) :
    Passed fields r ⟨arguments fields r⟩ := by
  refine ⟨names_arguments fields r, nodup_names_arguments hNames r, ?_, ?_⟩
  · intro f hf x hx
    refine ⟨f.passing.write x, ?_, fun y => Passing.read_write_eq_some_iff⟩
    rw [get?_arguments hNames hf, hx, Option.map_some]
  · intro f hf hx
    rw [get?_arguments hNames hf, hx, Option.map_none]

theorem Field.value?_eq_of_arguments (hNames : (fields.map (·.name)).Nodup) {r r' : ρ}
    (h : arguments fields r = arguments fields r') : ∀ f ∈ fields, f.value? r = f.value? r' := by
  intro f hf
  have hGet := get?_arguments hNames hf r
  rw [h, get?_arguments hNames hf r'] at hGet
  exact Option.map_injective (fun _ _ => Passing.write_injective) hGet.symm

theorem Field.lossless_of {toRuntimeArgs : ρ → Except RuntimeArgs.DuplicateArgument RuntimeArgs}
    (hNames : (fields.map (·.name)).Nodup)
    (hWhole : ∀ r r', (∀ f ∈ fields, f.value? r = f.value? r') → r = r')
    (hArgs : ∀ r, toRuntimeArgs r = .ok ⟨arguments fields r⟩) : Lossless fields toRuntimeArgs := by
  refine ⟨hNames, hWhole, fun r => ⟨_, hArgs r, passed_arguments hNames r⟩, ?_⟩
  intro r r' h
  rw [hArgs, hArgs] at h
  exact hWhole r r' (value?_eq_of_arguments hNames (congrArg RuntimeArgs.args (Except.ok.inj h)))

end Lossless

namespace Minter

def InstallArgs.fields : List (Field InstallArgs) :=
  [.always "admin" .identity (·.admin), .always "fund_manager" .identity (·.fundManager),
    .always "cep78_package_hash" .identity (·.cep78PackageHash),
    .always "mint_fee" (.plain .u256 rfl) (·.mintFee),
    .always "only_whitelist" (.plain .bool rfl) (·.onlyWhitelist),
    .always "allow_mint" (.plain .bool rfl) (·.allowMint),
    .always "max_mint" (.plain .u64 rfl) (·.maxMint),
    .always "name" (.plain .string rfl) (·.name),
    .always "disable_old" (.plain .bool rfl) (·.disableOld)]

theorem InstallArgs.toRuntimeArgs_eq (a : InstallArgs) : a.toRuntimeArgs = .ok ⟨a.arguments⟩ :=
  Field.ofList_arguments fields (by decide) a

theorem InstallArgs.lossless : Field.Lossless fields toRuntimeArgs := by
  refine Field.lossless_of (by decide) ?_ fun a => a.toRuntimeArgs_eq
  rintro ⟨⟩ ⟨⟩ h
  simp only [fields, Field.always, List.forall_mem_cons, Option.some.injEq] at h
  simp [h]

def UpgradeArgs.fields : List (Field UpgradeArgs) :=
  [.always "name" (.plain .string rfl) (·.name),
    .always "disable_old" (.plain .bool rfl) (·.disableOld)]

theorem UpgradeArgs.toRuntimeArgs_eq (a : UpgradeArgs) : a.toRuntimeArgs = .ok ⟨a.arguments⟩ :=
  Field.ofList_arguments fields (by decide) a

theorem UpgradeArgs.lossless : Field.Lossless fields toRuntimeArgs := by
  refine Field.lossless_of (by decide) ?_ fun a => a.toRuntimeArgs_eq
  rintro ⟨⟩ ⟨⟩ h
  simp only [fields, Field.always, List.forall_mem_cons, Option.some.injEq] at h
  simp [h]

def ConfigUpdate.fields : List (Field ConfigUpdate) :=
  [⟨"admin", .identity, (·.admin)⟩, ⟨"fund_manager", .identity, (·.fundManager)⟩,
    ⟨"mint_fee", .plain .u256 rfl, (·.mintFee)⟩,
    ⟨"only_whitelist", .plain .bool rfl, (·.onlyWhitelist)⟩,
    ⟨"allow_mint", .plain .bool rfl, (·.allowMint)⟩, ⟨"max_mint", .plain .u64 rfl, (·.maxMint)⟩]

theorem ConfigUpdate.arguments_eq (u : ConfigUpdate) : u.arguments = Field.arguments fields u := by
  simp only [arguments, fields, Field.arguments_cons, Field.argument?, NamedArg.ofOption,
    List.append_assoc, Option.map_map]
  rw [Field.arguments, List.filterMap_nil, List.append_nil]
  rfl

theorem ConfigUpdate.toRuntimeArgs_eq (u : ConfigUpdate) :
    u.toRuntimeArgs = .ok ⟨u.arguments⟩ := by
  rw [toRuntimeArgs, arguments_eq]
  exact Field.ofList_arguments fields (by decide) u

theorem ConfigUpdate.lossless : Field.Lossless fields toRuntimeArgs := by
  refine Field.lossless_of (by decide) ?_ fun u => u.arguments_eq ▸ u.toRuntimeArgs_eq
  rintro ⟨⟩ ⟨⟩ h
  simp only [fields, List.forall_mem_cons] at h
  simp [h]

/-- An update has no text or list, so that all of it is read back: it changes what it sets. -/
theorem ConfigUpdate.passed_exactly (u : ConfigUpdate) : ∃ a, u.toRuntimeArgs = .ok a ∧
    (∀ name, a.contains name = true ↔ ∃ f ∈ fields, (f.value? u).isSome ∧ f.name = name) ∧
    ∀ f ∈ fields, (a.get? f.name).bind f.passing.read = f.value? u := by
  have hFits : ∀ f ∈ fields, ∀ x, f.passing.Fits x := by
    simp only [fields, List.forall_mem_cons]
    exact ⟨fun _ => trivial, fun _ => trivial, fun _ => trivial, fun _ => trivial,
      fun _ => trivial, fun _ => trivial, nofun⟩
  obtain ⟨a, hArgs, hPassed⟩ := lossless.passed u
  refine ⟨a, hArgs, fun name => ?_, fun f hf => ?_⟩
  · rw [RuntimeArgs.contains_iff, hPassed.names]
    simp [and_assoc]
  · cases hValue : f.value? u with
    | none => rw [hPassed.unset f hf hValue, Option.bind_none]
    | some x =>
      obtain ⟨v, hGet, hRead⟩ := hPassed.set f hf x hValue
      rw [hGet, Option.bind_some]
      exact (hRead x).mpr ⟨hFits f hf x, rfl⟩

def FreeMintArgs.fields : List (Field FreeMintArgs) :=
  [.always "nft_owner" .identity (·.nftOwner), .always "count" (.plain .u64 rfl) (·.count)]

theorem FreeMintArgs.toRuntimeArgs_eq (a : FreeMintArgs) : a.toRuntimeArgs = .ok ⟨a.arguments⟩ :=
  Field.ofList_arguments fields (by decide) a

theorem FreeMintArgs.lossless : Field.Lossless fields toRuntimeArgs := by
  refine Field.lossless_of (by decide) ?_ fun a => a.toRuntimeArgs_eq
  rintro ⟨⟩ ⟨⟩ h
  simp only [fields, Field.always, List.forall_mem_cons, Option.some.injEq] at h
  simp [h]

def NativeMintArgs.fields : List (Field NativeMintArgs) :=
  [.always "nft_owner" .identity (·.nftOwner), .always "count" (.plain .u64 rfl) (·.count),
    .always "minter_package_hash" .identity (·.minterPackageHash),
    .always "amount" (.plain .u512 rfl) (·.amount)]

theorem NativeMintArgs.toRuntimeArgs_eq (a : NativeMintArgs) :
    a.toRuntimeArgs = .ok ⟨a.arguments⟩ :=
  Field.ofList_arguments fields (by decide) a

theorem NativeMintArgs.lossless : Field.Lossless fields toRuntimeArgs := by
  refine Field.lossless_of (by decide) ?_ fun a => a.toRuntimeArgs_eq
  rintro ⟨⟩ ⟨⟩ h
  simp only [fields, Field.always, List.forall_mem_cons, Option.some.injEq] at h
  simp [h]

end Minter

namespace Cep78

def InstallArgs.fields : List (Field InstallArgs) :=
  [.always "collection_name" (.plain .string rfl) (·.collectionName),
    .always "collection_symbol" (.plain .string rfl) (·.collectionSymbol),
    .always "total_token_supply" (.plain .u64 rfl) (·.totalTokenSupply),
    .always "ownership_mode" (.plain (.mode .ownership) rfl) (·.ownershipMode),
    .always "nft_kind" (.plain (.mode .nftKind) rfl) (·.nftKind),
    .always "holder_mode" (.plain (.mode .holder) rfl) (·.holderMode),
    .always "whitelist_mode" (.plain (.mode .whitelist) rfl) (·.whitelistMode),
    .always "minting_mode" (.plain (.mode .minting) rfl) (·.mintingMode),
    .always "nft_metadata_kind" (.plain (.mode .metadataKind) rfl) (·.nftMetadataKind),
    .always "identifier_mode" (.plain (.mode .identifier) rfl) (·.identifierMode),
    .always "metadata_mutability" (.plain (.mode .metadataMutability) rfl) (·.metadataMutability),
    .always "burn_mode" (.plain (.mode .burn) rfl) (·.burnMode),
    .always "owner_reverse_lookup_mode" (.plain (.mode .ownerReverseLookup) rfl)
      (·.ownerReverseLookupMode),
    .always "events_mode" (.plain (.mode .events) rfl) (·.eventsMode),
    .always "json_schema" (.plain .string rfl) (·.jsonSchema),
    ⟨"allow_minting", .plain .bool rfl, (·.allowMinting)⟩,
    ⟨"acl_whitelist", .identities, (·.aclWhitelist)⟩]

theorem InstallArgs.arguments_eq (a : InstallArgs) : a.arguments = Field.arguments fields a := by
  simp only [arguments, fixedArguments, fields, Field.arguments_cons, Field.argument?,
    NamedArg.ofOption, List.append_assoc, Option.map_map]
  rw [Field.arguments, List.filterMap_nil, List.append_nil]
  rfl

theorem InstallArgs.toRuntimeArgs_eq (a : InstallArgs) :
    a.toRuntimeArgs = .ok ⟨a.arguments⟩ := by
  rw [toRuntimeArgs, arguments_eq]
  exact Field.ofList_arguments fields (by decide) a

theorem InstallArgs.lossless : Field.Lossless fields toRuntimeArgs := by
  refine Field.lossless_of (by decide) ?_ fun a => a.arguments_eq ▸ a.toRuntimeArgs_eq
  rintro ⟨⟩ ⟨⟩ h
  simp only [fields, Field.always, List.forall_mem_cons, Option.some.injEq] at h
  simp [h]

end Cep78

namespace Cep18

def InstallArgs.fields : List (Field InstallArgs) :=
  [.always "name" (.plain .string rfl) (·.name), .always "symbol" (.plain .string rfl) (·.symbol),
    .always "decimals" (.plain .u8 rfl) (·.decimals),
    .always "total_supply" (.plain .u256 rfl) (·.totalSupply),
    .always "enable_mint_burn" .switch (·.enableMintAndBurn)]

theorem InstallArgs.toRuntimeArgs_eq (a : InstallArgs) : a.toRuntimeArgs = .ok ⟨a.arguments⟩ :=
  Field.ofList_arguments fields (by decide) a

theorem InstallArgs.lossless : Field.Lossless fields toRuntimeArgs := by
  refine Field.lossless_of (by decide) ?_ fun a => a.toRuntimeArgs_eq
  rintro ⟨⟩ ⟨⟩ h
  simp only [fields, Field.always, List.forall_mem_cons, Option.some.injEq] at h
  simp [h]

end Cep18

/-- Records are passed to contracts without loss. Each field that is set is one argument under its
name, which is read back as what it is set to, be it false, zero or empty; a field that is not set
has no argument, and there are no others. Their order is that of the fields. Different records are
passed as different arguments, and an update of the minter changes just what it sets. -/
theorem records_pass_without_loss :
    Field.Lossless Minter.InstallArgs.fields Minter.InstallArgs.toRuntimeArgs ∧
    Field.Lossless Minter.UpgradeArgs.fields Minter.UpgradeArgs.toRuntimeArgs ∧
    Field.Lossless Minter.ConfigUpdate.fields Minter.ConfigUpdate.toRuntimeArgs ∧
    Field.Lossless Minter.FreeMintArgs.fields Minter.FreeMintArgs.toRuntimeArgs ∧
    Field.Lossless Minter.NativeMintArgs.fields Minter.NativeMintArgs.toRuntimeArgs ∧
    Field.Lossless Cep78.InstallArgs.fields Cep78.InstallArgs.toRuntimeArgs ∧
    Field.Lossless Cep18.InstallArgs.fields Cep18.InstallArgs.toRuntimeArgs ∧
    ∀ u : Minter.ConfigUpdate, ∃ a, u.toRuntimeArgs = .ok a ∧
      (∀ name, a.contains name = true ↔
        ∃ f ∈ Minter.ConfigUpdate.fields, (f.value? u).isSome ∧ f.name = name) ∧
      ∀ f ∈ Minter.ConfigUpdate.fields, (a.get? f.name).bind f.passing.read = f.value? u :=
  ⟨Minter.InstallArgs.lossless, Minter.UpgradeArgs.lossless, Minter.ConfigUpdate.lossless,
    Minter.FreeMintArgs.lossless, Minter.NativeMintArgs.lossless, Cep78.InstallArgs.lossless,
    Cep18.InstallArgs.lossless, Minter.ConfigUpdate.passed_exactly⟩

end Mintage
