import Mintage.Proofs.Addressing
import Mintage.Proofs.Node.Run

/-!
# Proofs: what a node in memory stores

A node in memory answers like two plain maps, one of named values and one of dictionary items, to
which each operation of a run is done. Named values are kept under contract and path themselves.
Items are kept under an address, which is a digest of a digest, so the node answers like the map
unless two byte strings that were hashed collide. Both are hashed without anything between their
parts; the part in front has 32 bytes, so that the whole determines the parts.
-/

namespace Mintage

/-! ## Plain maps -/

/-- A map that holds at most one value under each key. -/
abbrev PlainMap (K V : Type) := K → Option V

namespace PlainMap

universe u

variable {Op : Type u} {K L V : Type} [DecidableEq K] [DecidableEq L]

/-- Puts a value under a key or removes what is there, if there is anything to write. -/
def write (m : PlainMap K V) : Option (K × Option V) → PlainMap K V
  | none => m
  | some (k, value) => fun l => if k = l then value else m l

/-- The map after operations, each of which may write under a key. -/
def after (write? : Op → Option (K × Option V)) (m : PlainMap K V) : List Op → PlainMap K V
  | [] => m
  | op :: ops => after write? (m.write (write? op)) ops

variable {write? : Op → Option (K × Option V)} {m : PlainMap K V} {k : K} {v : V}

theorem write_of_apart {w : Option (K × Option V)} (h : ∀ value, w ≠ some (k, value)) :
    m.write w k = m k := by
  cases w with
  | none => rfl
  | some entry =>
    have hKey : entry.1 ≠ k := fun hKey => h entry.2 (by rw [← hKey])
    exact if_neg hKey

theorem write_eq_some_iff {w : Option (K × Option V)} : m.write w k = some v ↔
    w = some (k, some v) ∨ m k = some v ∧ ∀ value, w ≠ some (k, value) := by
  cases w with
  | none => simp [write]
  | some entry =>
    obtain ⟨l, value⟩ := entry
    by_cases hKey : l = k
    · simp [write, hKey]
    · simp [write, hKey]

/-- A value is there because it was put and nothing was written later, or because it was there
before. -/
theorem after_eq_some_iff {ops : List Op} : after write? m ops k = some v ↔
    (∃ before op later, ops = before ++ op :: later ∧ write? op = some (k, some v) ∧
      ∀ o ∈ later, ∀ value, write? o ≠ some (k, value)) ∨
    m k = some v ∧ ∀ o ∈ ops, ∀ value, write? o ≠ some (k, value) := by
  induction ops generalizing m with
  | nil => simp [after]
  | cons op ops ih =>
    rw [after, ih, write_eq_some_iff, List.forall_mem_cons]
    constructor
    · rintro (⟨before, o, later, rfl, hPut⟩ | ⟨hOp | ⟨hThere, hOp⟩, hLater⟩)
      · exact .inl ⟨op :: before, o, later, rfl, hPut⟩
      · exact .inl ⟨[], op, ops, rfl, hOp, hLater⟩
      · exact .inr ⟨hThere, hOp, hLater⟩
    · rintro (⟨before, o, later, hSplit, hOp, hLater⟩ | ⟨hThere, hOp, hLater⟩)
      · rcases List.cons_eq_append_iff.mp hSplit with ⟨rfl, hCons⟩ | ⟨before, rfl, rfl⟩
        · obtain ⟨rfl, rfl⟩ := List.cons.inj hCons
          exact .inr ⟨.inl hOp, hLater⟩
        · exact .inl ⟨before, o, later, rfl, hOp, hLater⟩
      · exact .inr ⟨.inr ⟨hThere, hOp⟩, hLater⟩

/-- Operations that write elsewhere leave a key as it was. -/
theorem after_of_apart {ops : List Op} (h : ∀ op ∈ ops, ∀ value, write? op ≠ some (k, value)) :
    after write? m ops k = m k := by
  induction ops generalizing m with
  | nil => rfl
  | cons op ops ih =>
    rw [List.forall_mem_cons] at h
    rw [after, ih h.2, write_of_apart h.1]

/-- Keys may be replaced by others, if no other key that is written becomes the same as `k`. -/
theorem after_map {f : K → L} {n : PlainMap L V} {ops : List Op} (hStart : n (f k) = m k)
    (hApart : ∀ op ∈ ops, ∀ w, write? op = some w → f w.1 = f k → w.1 = k) :
    after (fun op => (write? op).map fun w => (f w.1, w.2)) n ops (f k) = after write? m ops k := by
  induction ops generalizing n m with
  | nil => exact hStart
  | cons op ops ih =>
    rw [List.forall_mem_cons] at hApart
    refine ih ?_ hApart.2
    cases hWrite : write? op with
    | none => simpa [hWrite, write] using hStart
    | some w =>
      by_cases hKey : w.1 = k
      · simp [hWrite, write, hKey]
      · have hOther : f w.1 ≠ f k := fun hSame => hKey (hApart.1 w hWrite hSame)
        simpa [hWrite, write, hKey, hOther] using hStart

end PlainMap

/-! ## Where items are kept -/

/-- What an item is put under: the hash of a contract, the name of a dictionary, and an item key. -/
structure ItemPlace where
  contract : Digest
  dictionary : String
  itemKey : String
deriving DecidableEq

/-- The place of an item of a contract. The kind of the contract does not matter. -/
def Identity.place (contract : Identity) (dictionary itemKey : String) : ItemPlace :=
  ⟨contract.hash, dictionary, itemKey⟩

/-- Two byte strings among these collide. -/
def Blake2b.CollisionAmong (hashed : List Bytes) : Prop :=
  ∃ a ∈ hashed, ∃ b ∈ hashed, Blake2b.Collision a b

namespace ItemPlace

/-- What is hashed for the seed of the dictionary. -/
def seedBytes (p : ItemPlace) : Bytes := p.contract.bytes ++ Utf8.encode p.dictionary

/-- What is hashed for the address of the item. -/
def itemBytes (p : ItemPlace) : Bytes :=
  (Blake2b.digest p.seedBytes).bytes ++ Utf8.encode p.itemKey

/-- The address of the item. -/
def address (p : ItemPlace) : Digest := Blake2b.digest p.itemBytes

/-- All that is hashed for items at places. -/
def hashed (places : List ItemPlace) : List Bytes :=
  places.map seedBytes ++ places.map itemBytes

/-- Two places under one address are one place, or what is hashed for them collides. -/
theorem eq_or_collision {places : List ItemPlace} {p q : ItemPlace} (hp : p ∈ places)
    (hq : q ∈ places) (h : p.address = q.address) :
    p = q ∨ Blake2b.CollisionAmong (hashed places) := by
  have hSeed : ∀ r ∈ places, r.seedBytes ∈ hashed places := fun r hr =>
    List.mem_append_left _ (List.mem_map_of_mem hr)
  have hItem : ∀ r ∈ places, r.itemBytes ∈ hashed places := fun r hr =>
    List.mem_append_right _ (List.mem_map_of_mem hr)
  rcases Blake2b.eq_or_collision h with hBytes | hCollision
  · obtain ⟨hSeeds, hKey⟩ := Digest.append_utf8_injective hBytes
    rcases Blake2b.eq_or_collision hSeeds with hBytes | hCollision
    · obtain ⟨hContract, hDictionary⟩ := Digest.append_utf8_injective hBytes
      obtain ⟨contract, dictionary, itemKey⟩ := p
      cases hContract
      cases hDictionary
      cases hKey
      exact .inl rfl
    · exact .inr ⟨_, hSeed p hp, _, hSeed q hq, hCollision⟩
  · exact .inr ⟨_, hItem p hp, _, hItem q hq, hCollision⟩

end ItemPlace

/-! ## What operations write -/

namespace NodeOperation

/-- The named value that an operation sets. -/
def namedWrite? : NodeOperation → Option ((Identity × List String) × Option CLValue)
  | setNamedValue contract path value => some ((contract, path), some value)
  | _ => none

/-- The item that an operation puts or removes. -/
def itemWrite? : NodeOperation → Option (ItemPlace × Option CLValue)
  | putItem contract dictionary itemKey value =>
    some (contract.place dictionary itemKey, some value)
  | removeItem contract dictionary itemKey => some (contract.place dictionary itemKey, none)
  | _ => none

/-- Whether an operation makes the node answer or not. -/
def switch? : NodeOperation → Option Bool
  | setUnavailable isUnavailable => some isUnavailable
  | _ => none

/-- The places of the items that operations put or remove. -/
def places (ops : List NodeOperation) : List ItemPlace :=
  ops.filterMap fun op => op.itemWrite?.map (·.1)

theorem mem_places {ops : List NodeOperation} {op : NodeOperation}
    {w : ItemPlace × Option CLValue} (hOp : op ∈ ops) (hWrite : op.itemWrite? = some w) :
    w.1 ∈ places ops :=
  List.mem_filterMap.mpr ⟨op, hOp, by rw [hWrite]; rfl⟩

/-- The named values that operations leave behind, in a plain map. -/
def namedValues (ops : List NodeOperation) : PlainMap (Identity × List String) CLValue :=
  PlainMap.after namedWrite? (fun _ => none) ops

/-- The items that operations leave behind, in a plain map. -/
def items (ops : List NodeOperation) : PlainMap ItemPlace CLValue :=
  PlainMap.after itemWrite? (fun _ => none) ops

end NodeOperation

namespace MemoryNode

variable {n : MemoryNode}

theorem get?_step_namedValues (n : MemoryNode) (op : NodeOperation) :
    (n.step op).namedValues.get? = PlainMap.write n.namedValues.get? op.namedWrite? := by
  cases op with
  | setNamedValue contract path value =>
    funext key
    exact Store.get?_put n.namedValues (contract, path) key value
  | putItem contract dictionary itemKey value => rfl
  | removeItem contract dictionary itemKey => rfl
  | setUnavailable isUnavailable => rfl
  | converse dialogue => rw [step, hold_node]; rfl

theorem get?_step_items (n : MemoryNode) (op : NodeOperation) :
    (n.step op).items.get? =
      PlainMap.write n.items.get? (op.itemWrite?.map fun w => (w.1.address, w.2)) := by
  cases op with
  | setNamedValue contract path value => rfl
  | putItem contract dictionary itemKey value =>
    funext address
    exact Store.get?_put n.items _ address value
  | removeItem contract dictionary itemKey =>
    funext address
    exact Store.get?_erase n.items _ address
  | setUnavailable isUnavailable => rfl
  | converse dialogue => rw [step, hold_node]; rfl

theorem isUnavailable_step (n : MemoryNode) (op : NodeOperation) :
    (n.step op).isUnavailable = op.switch?.getD n.isUnavailable := by
  cases op with
  | converse dialogue => rw [step, hold_node]; rfl
  | _ => rfl

/-! ## Runs -/

theorem get?_run_namedValues (n : MemoryNode) (ops : List NodeOperation) :
    (n.run ops).namedValues.get? =
      PlainMap.after NodeOperation.namedWrite? n.namedValues.get? ops := by
  induction ops generalizing n with
  | nil => rfl
  | cons op ops ih => rw [run, ih, get?_step_namedValues, PlainMap.after]

theorem get?_run_items (n : MemoryNode) (ops : List NodeOperation) :
    (n.run ops).items.get? =
      PlainMap.after (fun op => op.itemWrite?.map fun w => (w.1.address, w.2)) n.items.get?
        ops := by
  induction ops generalizing n with
  | nil => rfl
  | cons op ops ih => rw [run, ih, get?_step_items, PlainMap.after]

theorem isUnavailable_run (n : MemoryNode) (ops : List NodeOperation) :
    (n.run ops).isUnavailable =
      (ops.filterMap NodeOperation.switch?).getLast?.getD n.isUnavailable := by
  induction ops generalizing n with
  | nil => rfl
  | cons op ops ih =>
    rw [run, ih, isUnavailable_step, List.filterMap_cons]
    split
    · rename_i hSwitch
      rw [hSwitch, Option.getD_none]
    · rename_i isUnavailable hSwitch
      rw [hSwitch, Option.getD_some, List.getLast?_cons, Option.getD_some]

/-- What is kept under the address of a place is what the plain map holds there, unless something
that was hashed collides. -/
theorem get?_address_run (ops : List NodeOperation) (place : ItemPlace) :
    (run {} ops).items.get? place.address = NodeOperation.items ops place ∨
      Blake2b.CollisionAmong (ItemPlace.hashed (place :: NodeOperation.places ops)) := by
  by_cases hCollision :
      Blake2b.CollisionAmong (ItemPlace.hashed (place :: NodeOperation.places ops))
  · exact .inr hCollision
  · left
    rw [get?_run_items]
    refine PlainMap.after_map rfl ?_
    intro op hOp w hWrite hAddress
    have hPlace := List.mem_cons_of_mem place (NodeOperation.mem_places hOp hWrite)
    exact (ItemPlace.eq_or_collision hPlace List.mem_cons_self hAddress).resolve_right hCollision

/-- An item is not touched by an operation that writes none, or another one. -/
theorem get?_address_step {op : NodeOperation} {place : ItemPlace}
    (hApart : ∀ value, op.itemWrite? ≠ some (place, value)) :
    (n.step op).items.get? place.address = n.items.get? place.address ∨
      Blake2b.CollisionAmong (ItemPlace.hashed (place :: NodeOperation.places [op])) := by
  rw [get?_step_items]
  cases hWrite : op.itemWrite? with
  | none => exact .inl rfl
  | some w =>
    by_cases hAddress : w.1.address = place.address
    · have hPlace : w.1 ∈ NodeOperation.places [op] :=
        NodeOperation.mem_places List.mem_cons_self hWrite
      rcases ItemPlace.eq_or_collision (List.mem_cons_of_mem place hPlace) List.mem_cons_self
        hAddress with hSame | hCollision
      · exact absurd (hSame ▸ hWrite) (hApart w.2)
      · exact .inr hCollision
    · exact .inl (if_neg hAddress)

/-! ## Answers -/

/-- Whether the node answers is up to nothing but the switch. -/
theorem found_step {op : NodeOperation} (hSwitch : op.switch? = none) (value : Option CLValue) :
    (n.step op).found value = n.found value := by
  simp [found, isUnavailable_step, hSwitch]

theorem itemAddress_eq (contract : Identity) (dictionary itemKey : String) :
    itemAddress contract dictionary itemKey = (contract.place dictionary itemKey).address := rfl

/-- Whatever is done to a node that held nothing, it answers like plain maps of named values and of
items. While it is available it tells what was put last under contract and path, or at the place of
an item, if nothing was removed there later; to remove an item tells whether there was one. While it
is not available it tells nothing. Answers are left alone by what is written elsewhere. As to items,
all this holds unless byte strings that were hashed for their places collide. -/
theorem refines_plain_maps :
    (∀ ops : List NodeOperation, let n := run {} ops
      n.isUnavailable = (ops.filterMap NodeOperation.switch?).getLast?.getD false ∧
      (n.isUnavailable = false → ∀ contract path, answer (.namedValue contract path) n =
        ((NodeOperation.namedValues ops (contract, path)).elim (.error .notFound) .ok, n)) ∧
      (n.isUnavailable = false → ∀ contract dictionary itemKey,
        let place := contract.place dictionary itemKey
        answer (.dictionaryItem contract dictionary itemKey) n =
          ((NodeOperation.items ops place).elim (.error .notFound) .ok, n) ∨
        Blake2b.CollisionAmong (ItemPlace.hashed (place :: NodeOperation.places ops))) ∧
      (∀ contract dictionary itemKey,
        let place := contract.place dictionary itemKey
        (n.removeItem contract dictionary itemKey).1 = (NodeOperation.items ops place).isSome ∨
        Blake2b.CollisionAmong (ItemPlace.hashed (place :: NodeOperation.places ops)))) ∧
    (∀ ops key v, NodeOperation.namedValues ops key = some v ↔
      ∃ before op later, ops = before ++ op :: later ∧ op.namedWrite? = some (key, some v) ∧
        ∀ o ∈ later, ∀ value, o.namedWrite? ≠ some (key, value)) ∧
    (∀ ops place v, NodeOperation.items ops place = some v ↔
      ∃ before op later, ops = before ++ op :: later ∧ op.itemWrite? = some (place, some v) ∧
        ∀ o ∈ later, ∀ value, o.itemWrite? ≠ some (place, value)) ∧
    (∀ n : MemoryNode, n.isUnavailable = true →
      (∀ contract path,
        answer (.namedValue contract path) n = (.error (.failed switchedOff), n)) ∧
      ∀ contract dictionary itemKey,
        answer (.dictionaryItem contract dictionary itemKey) n =
          (.error (.failed switchedOff), n)) ∧
    (∀ (n : MemoryNode) (op : NodeOperation) (contract : Identity) (path : List String),
      op.switch? = none → (∀ value, op.namedWrite? ≠ some ((contract, path), value)) →
        (answer (.namedValue contract path) (n.step op)).1 =
          (answer (.namedValue contract path) n).1) ∧
    ∀ (n : MemoryNode) (op : NodeOperation) (contract : Identity) (dictionary itemKey : String),
      let place := contract.place dictionary itemKey
      op.switch? = none → (∀ value, op.itemWrite? ≠ some (place, value)) →
        (answer (.dictionaryItem contract dictionary itemKey) (n.step op)).1 =
          (answer (.dictionaryItem contract dictionary itemKey) n).1 ∨
        Blake2b.CollisionAmong (ItemPlace.hashed (place :: NodeOperation.places [op])) := by
  refine ⟨?_, ?_, ?_, ?_, ?_, ?_⟩
  · intro ops n
    refine ⟨isUnavailable_run {} ops, ?_, ?_, ?_⟩
    · intro hAvailable contract path
      rw [answer_namedValue, found_of_available hAvailable, get?_run_namedValues]
      rfl
    · intro hAvailable contract dictionary itemKey place
      rw [answer_dictionaryItem, found_of_available hAvailable, itemAddress_eq]
      exact (get?_address_run ops place).imp_left fun hItem => by rw [hItem]
    · intro contract dictionary itemKey place
      exact (get?_address_run ops place).imp_left fun hItem => congrArg Option.isSome hItem
  · intro ops key v
    simp [NodeOperation.namedValues, PlainMap.after_eq_some_iff]
  · intro ops place v
    simp [NodeOperation.items, PlainMap.after_eq_some_iff]
  · intro n hUnavailable
    refine ⟨?_, ?_⟩
    · intro contract path
      rw [answer_namedValue, found_of_unavailable hUnavailable]
    · intro contract dictionary itemKey
      rw [answer_dictionaryItem, found_of_unavailable hUnavailable]
  · intro n op contract path hSwitch hApart
    rw [answer_namedValue, answer_namedValue, found_step hSwitch, get?_step_namedValues,
      PlainMap.write_of_apart hApart]
  · intro n op contract dictionary itemKey place hSwitch hApart
    rw [answer_dictionaryItem, answer_dictionaryItem, found_step hSwitch, itemAddress_eq]
    exact (get?_address_step hApart).imp_left fun hItem => by rw [hItem]

end MemoryNode

end Mintage
