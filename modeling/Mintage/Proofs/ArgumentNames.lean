import Mintage.Deploy.Basic
import Mintage.Proofs.Json.Reader
import Mintage.Proofs.Json.Record
import Mintage.Proofs.RuntimeArgs

/-!
# Proofs: the names of arguments

Arguments come from insertions, from bytes or from JSON. The first two ways keep the names apart,
and lead to all arguments with names apart. The third one takes the names that are listed, in order,
and looks at no name twice. So arguments from JSON have different names, and a binary form that is
read back, exactly if the names that are listed differ; this goes for the items of a signed deploy
too.
-/

namespace Mintage

open Outcome Json

namespace RuntimeArgs

/-! ## Insertions and bytes -/

/-- Arguments that are inserted one after the other. -/
inductive Inserted : RuntimeArgs → Prop
  | empty : Inserted empty
  | insertValue {a b : RuntimeArgs} {name : String} {value : CLValue} : Inserted a →
      a.insertValue name value = .ok b → Inserted b

theorem inserted_of_insertAll {a b : RuntimeArgs} {args : List NamedArg} (ha : Inserted a)
    (h : a.insertAll args = .ok b) : Inserted b := by
  induction args generalizing a with
  | nil =>
    cases h
    exact ha
  | cons arg args ih =>
    obtain ⟨c, hInsert, hMore⟩ := bind_eq_ok_iff.mp ((insertAll_cons a arg args).symm.trans h)
    exact ih (.insertValue ha hInsert) hMore

theorem inserted_iff {a : RuntimeArgs} : Inserted a ↔ a.names.Nodup := by
  constructor
  · intro h
    induction h with
    | empty => exact nodup_names_empty
    | insertValue _ hInsert ih => exact nodup_names_of_insertValue ih hInsert
  · intro h
    exact inserted_of_insertAll .empty (ofList_eq_ok_iff.mpr ⟨rfl, h⟩)

theorem decoded_iff {a : RuntimeArgs} :
    (∃ bs, decode.run bs = .ok a) ↔ a.Fits ∧ a.names.Nodup := by
  constructor
  · rintro ⟨bs, h⟩
    exact (exact_decode.run_eq_ok_iff.mp h).1
  · intro h
    exact ⟨a.encode, exact_decode.run_eq_ok_iff.mpr ⟨h, rfl⟩⟩

/-- Arguments are read back from their binary form exactly if their names differ. -/
theorem run_encode_eq_ok_iff {a : RuntimeArgs} (hFits : a.Fits) :
    decode.run a.encode = .ok a ↔ a.names.Nodup := by
  rw [exact_decode.run_eq_ok_iff]
  constructor
  · rintro ⟨⟨-, h⟩, -⟩
    exact h
  · intro h
    exact ⟨⟨hFits, h⟩, rfl⟩

theorem run_encode_of_not_nodup {a : RuntimeArgs} (hFits : a.Fits) (h : ¬ a.names.Nodup) :
    ∃ name ∈ a.names, decode.run a.encode = .error (.duplicateArgument name) := by
  rw [run_encode hFits]
  cases hList : ofList a.args with
  | ok b =>
    obtain ⟨hArgs, hNodup⟩ := ofList_eq_ok_iff.mp hList
    rw [names, hArgs] at hNodup
    exact absurd hNodup h
  | error e =>
    obtain ⟨before, arg, after, hArgs, -, hMem, rfl⟩ := ofList_eq_error_iff.mp hList
    refine ⟨arg.name, ?_, rfl⟩
    rw [names, hArgs]
    exact List.mem_map_of_mem (List.mem_append_right _ List.mem_cons_self)

end RuntimeArgs

/-! ## Arguments from JSON -/

/-- The name that an argument is listed under. -/
def NamedArg.listedName? : Draft → Option String
  | .arr (.str ⟨.ok name, _⟩ :: _) _ => some name
  | _ => none

theorem NamedArg.listedName?_of_readJson {d : Draft} {a : NamedArg} (h : readJson d = .ok a) :
    listedName? d = some a.name := by
  obtain ⟨⟨name, value⟩, hPair, hPure⟩ := bind_eq_ok_iff.mp h
  cases hPure
  obtain ⟨x, y, ending, rfl, hName, -⟩ := Draft.eq_arr_of_readPair hPair
  obtain ⟨passing, rfl⟩ := Draft.eq_str_of_readString hName
  rfl

namespace RuntimeArgs

/-- The names that arguments are listed under, in order. -/
def listedNames : Draft → List String
  | .arr items _ => items.filterMap NamedArg.listedName?
  | _ => []

theorem names_of_items {items : List Draft} {args : List NamedArg}
    (h : items.map NamedArg.readJson = args.map .ok) :
    args.map (·.name) = items.filterMap NamedArg.listedName? := by
  induction items generalizing args with
  | nil =>
    cases args with
    | nil => rfl
    | cons arg args => cases h
  | cons item items ih =>
    cases args with
    | nil => cases h
    | cons arg args =>
      rw [List.map_cons, List.map_cons, List.cons.injEq] at h
      rw [List.filterMap_cons_some (NamedArg.listedName?_of_readJson h.1), List.map_cons, ih h.2]

/-- The names of arguments from JSON are those that are listed there, repeated or not. -/
theorem names_of_readJson {d : Draft} {a : RuntimeArgs} (h : readJson d = .ok a) :
    a.names = listedNames d := by
  obtain ⟨args, hList, rfl⟩ := map_eq_ok_iff.mp h
  obtain ⟨items, ending, rfl, hItems⟩ := Draft.eq_arr_of_readList hList
  exact names_of_items hItems

/-- What becomes of arguments that are read from JSON depends on the names that are listed. -/
structure ReadFrom (d : Draft) (a : RuntimeArgs) : Prop where
  read : readJson d = .ok a
  names : a.names = listedNames d
  readBack : a.Fits → (decode.run a.encode = .ok a ↔ (listedNames d).Nodup)
  refused : a.Fits → ¬ (listedNames d).Nodup →
    ∃ name ∈ listedNames d, decode.run a.encode = .error (.duplicateArgument name)

theorem readFrom_of_readJson {d : Draft} {a : RuntimeArgs} (h : readJson d = .ok a) :
    ReadFrom d a where
  read := h
  names := names_of_readJson h
  readBack := by
    rw [← names_of_readJson h]
    exact run_encode_eq_ok_iff
  refused := by
    rw [← names_of_readJson h]
    exact run_encode_of_not_nodup

end RuntimeArgs

/-! ## Deploys from JSON -/

namespace DeployItem

/-- Where the arguments of an item stand: under their name, or behind the other fields. -/
inductive ArgsIn : Draft → Draft → Prop
  | moduleBytes {content args : Draft} {passing : Option Fault} {ending : Ending} :
      content.fields "args" 1 args →
      ArgsIn (.obj [(⟨.ok "ModuleBytes", passing⟩, content)] ending) args
  | storedContract {content args : Draft} {passing : Option Fault} {ending : Ending} :
      content.fields "args" 2 args →
      ArgsIn (.obj [(⟨.ok "StoredContractByHash", passing⟩, content)] ending) args

theorem args_of_moduleBytesRecord {title : String} {d : Draft} {item : DeployItem}
    (h : moduleBytesRecord.read title d = .ok item) :
    ∃ args, d.fields "args" 1 args ∧ RuntimeArgs.readJson args = .ok item.args := by
  have hYields : Record.Yields moduleBytesRecord _ :=
    ((Record.yields_required _ _).map moduleBytes).seq (Record.yields_required _ _)
  obtain ⟨_, args, ⟨wasm, -, rfl⟩, ⟨d', hField, hRead⟩, rfl⟩ := hYields.of_read h
  exact ⟨d', hField, hRead⟩

theorem args_of_storedContractRecord {title : String} {d : Draft} {item : DeployItem}
    (h : storedContractRecord.read title d = .ok item) :
    ∃ args, d.fields "args" 2 args ∧ RuntimeArgs.readJson args = .ok item.args := by
  have hYields : Record.Yields storedContractRecord _ :=
    (((Record.yields_required _ _).map storedContract).seq (Record.yields_required _ _)).seq
      (Record.yields_required _ _)
  obtain ⟨_, args, ⟨_, entryPoint, ⟨hash, -, rfl⟩, -, rfl⟩, ⟨d', hField, hRead⟩, rfl⟩ :=
    hYields.of_read h
  exact ⟨d', hField, hRead⟩

/-- The content of an item is read whole, and nothing more is behind it. -/
theorem read_of_content {reader : Except ReadError (Reader DeployItem)} {read : Reader DeployItem}
    {content : Draft} {close : Except ReadError Unit} {item : DeployItem}
    (hReader : reader = .ok read)
    (h : (do
      let read ← reader
      let item ← read content
      close
      return item) = .ok item) : read content = .ok item ∧ close = .ok () := by
  obtain ⟨read', hReader', hContent⟩ := bind_eq_ok_iff.mp h
  cases hReader.symm.trans hReader'
  obtain ⟨found, hRead, hMore⟩ := bind_eq_ok_iff.mp hContent
  obtain ⟨⟨⟩, hClose, hPure⟩ := bind_eq_ok_iff.mp hMore
  cases hPure
  exact ⟨hRead, hClose⟩

/-- The arguments of an item are read from where they stand, by the reader for arguments. -/
theorem args_of_readJson {d : Draft} {item : DeployItem} (h : readJson d = .ok item) :
    ∃ args, ArgsIn d args ∧ RuntimeArgs.readJson args = .ok item.args := by
  obtain ⟨⟨name, content, close⟩, hVariant, hMore⟩ := bind_eq_ok_iff.mp h
  cases content with
  | none =>
    dsimp only at hMore
    split at hMore
    all_goals cases hMore
  | some content =>
    dsimp only at hMore
    split at hMore
    · obtain ⟨hRead, hClose⟩ := read_of_content rfl hMore
      obtain ⟨passing, ending, rfl⟩ := Draft.eq_obj_of_variant hVariant hClose
      obtain ⟨args, hField, hArgs⟩ := args_of_moduleBytesRecord hRead
      exact ⟨args, .moduleBytes hField, hArgs⟩
    · obtain ⟨hRead, hClose⟩ := read_of_content rfl hMore
      obtain ⟨passing, ending, rfl⟩ := Draft.eq_obj_of_variant hVariant hClose
      obtain ⟨args, hField, hArgs⟩ := args_of_storedContractRecord hRead
      exact ⟨args, .storedContract hField, hArgs⟩
    · cases hMore

end DeployItem

namespace SignedDeploy

/-- The items of a signed deploy are read from its fields. -/
theorem items_of_readJson {d : Draft} {signed : SignedDeploy} (h : readJson d = .ok signed) :
    (∃ payment, d.fields "payment" 2 payment ∧
      DeployItem.readJson payment = .ok signed.payment) ∧
    (∃ session, d.fields "session" 3 session ∧
      DeployItem.readJson session = .ok signed.session) := by
  obtain ⟨found, hRecord, hChecked⟩ := bind_eq_ok_iff.mp h
  split at hChecked
  · cases hChecked
    have hYields : Record.Yields record _ :=
      (((((Record.yields_required _ _).map _).seq (Record.yields_required _ _)).seq
        (Record.yields_required _ _)).seq (Record.yields_required _ _)).seq
          (Record.yields_required _ _)
    obtain ⟨_, approvals, ⟨_, session, ⟨_, payment, ⟨_, header, ⟨hash, -, rfl⟩, -, rfl⟩,
      hPayment, rfl⟩, hSession, rfl⟩, -, rfl⟩ := hYields.of_read hRecord
    exact ⟨hPayment, hSession⟩
  · cases hChecked

end SignedDeploy

namespace RuntimeArgs

/-- Insertions and bytes lead to arguments whose names differ, and to all of these. Arguments from
JSON, alone or in the items of a signed deploy, have the names that are listed there: they differ,
and the arguments are read back from their binary form, exactly if no name is listed twice. -/
theorem names_differ_iff_listed (d : Draft) :
    (∀ a, Inserted a ↔ a.names.Nodup) ∧
    (∀ a, (∃ bs, decode.run bs = .ok a) ↔ a.Fits ∧ a.names.Nodup) ∧
    (∀ a, readJson d = .ok a → ReadFrom d a) ∧
    (∀ signed, SignedDeploy.readJson d = .ok signed →
      (∃ item args, d.fields "payment" 2 item ∧ DeployItem.ArgsIn item args ∧
        ReadFrom args signed.payment.args) ∧
      (∃ item args, d.fields "session" 3 item ∧ DeployItem.ArgsIn item args ∧
        ReadFrom args signed.session.args)) := by
  refine ⟨?_, ?_, ?_, ?_⟩
  · intro a
    exact inserted_iff
  · intro a
    exact decoded_iff
  · intro a h
    exact readFrom_of_readJson h
  · intro signed h
    obtain ⟨⟨payment, hPayment, readPayment⟩, session, hSession, readSession⟩ :=
      SignedDeploy.items_of_readJson h
    obtain ⟨paymentArgs, inPayment, readPaymentArgs⟩ := DeployItem.args_of_readJson readPayment
    obtain ⟨sessionArgs, inSession, readSessionArgs⟩ := DeployItem.args_of_readJson readSession
    exact ⟨⟨payment, paymentArgs, hPayment, inPayment, readFrom_of_readJson readPaymentArgs⟩,
      session, sessionArgs, hSession, inSession, readFrom_of_readJson readSessionArgs⟩

/-- A text that lists one name twice is read, and what is read cannot be read back from bytes. -/
theorem repeated_name_from_json :
    ¬ ∀ (text : String) (a : RuntimeArgs), readDocument readJson text = .ok a →
      a.names.Nodup ∧ decode.run a.encode = .ok a := by
  intro h
  have hRead : (readDocument readJson
      ("[[\"x\",\x7b\"cl_type\":\"U8\",\"bytes\":\"01\"\x7d]," ++
        "[\"x\",\x7b\"cl_type\":\"U8\",\"bytes\":\"01\"\x7d]]")).toOption =
      some ⟨[⟨"x", ⟨.u8, [1]⟩⟩, ⟨"x", ⟨.u8, [1]⟩⟩]⟩ := by
    decide +kernel
  exact absurd (h _ _ (eq_ok_of_toOption hRead)).1 (by decide)

end RuntimeArgs

end Mintage
