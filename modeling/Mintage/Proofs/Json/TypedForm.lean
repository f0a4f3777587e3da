import Mintage.Proofs.DeployJson
import Mintage.Proofs.Json.Reader
import Mintage.Proofs.Json.Structures

/-!
# Proofs: the JSON of typed values

A typed value is read from an object with one type and one member of bytes, and from nothing else
but an array of just these two. Whatever else is in the object, such as the rendering by the node,
does not enter into the value.

Either way it is a structure of two fields, which stand under their names in an object and side by
side in an array.
-/

namespace Mintage

open Json Outcome

namespace Json.Record

variable {α β γ : Type}

section Two

variable {f : α → β → γ} {name name' title : String} {read : Reader α} {read' : Reader β} {c : γ}

/-- A structure of two fields is read from an object with just one member for each of them. -/
theorem read_two_obj_iff {ds : List (String × Draft)} (hPass : Passable ds)
    (hApart : name ≠ name') {ending : Ending} (hEnding : ending.wantMember ds.isEmpty = none) :
    (f <$> required name read <*> required name' read').read title (.obj (named ds) ending) =
        .ok c ↔
      ∃ d d' a b, Has ds name d ∧ read d = .ok a ∧ Has ds name' d' ∧ read' d' = .ok b ∧
        f a b = c := by
  have hBoth := ((determined_required hPass name read).map hPass f).seq
    (determined_required hPass name' read') hPass
  have hNames : ([name] ++ [name']).Nodup := by simpa using hApart
  rw [hBoth.read_eq_ok_iff hNames hEnding]
  constructor
  · rintro ⟨_, b, ⟨⟨a, ⟨d, hHas, hRead⟩, rfl⟩, d', hHas', hRead'⟩, hc⟩
    exact ⟨d, d', a, b, hHas, hRead, hHas', hRead', hc⟩
  · rintro ⟨d, d', a, b, hHas, hRead, hHas', hRead', hc⟩
    exact ⟨f a, b, ⟨⟨a, ⟨d, hHas, hRead⟩, rfl⟩, d', hHas', hRead'⟩, hc⟩

theorem fromItems_required_eq_ok_iff {expected : String} {index : Nat} {ending : Ending}
    {items rest : List Draft} {a : α} :
    (required name read).fromItems expected index ending items = .ok (a, rest) ↔
      ∃ d, items = d :: rest ∧ read d = .ok a := by
  have hItems : (required name read).fromItems expected index ending items =
      Draft.nextItem read expected index ending items := by cases items <;> rfl
  rw [hItems]
  constructor
  · exact Draft.eq_cons_of_nextItem
  · rintro ⟨d, rfl, hRead⟩
    exact bind_eq_ok_iff.mpr ⟨a, hRead, rfl⟩

/-- A structure of two fields is read from an array of just these. -/
theorem read_two_arr_iff {ds : List Draft} :
    (f <$> required name read <*> required name' read').read title (.arr ds .whole) = .ok c ↔
      ∃ d d' a b, ds = [d, d'] ∧ read d = .ok a ∧ read' d' = .ok b ∧ f a b = c := by
  constructor
  · intro h
    obtain ⟨⟨c, rest⟩, hItems, hMore⟩ := bind_eq_ok_iff.mp h
    obtain ⟨⟨⟩, hEnd, hPure⟩ := bind_eq_ok_iff.mp hMore
    cases hPure
    obtain ⟨⟨⟨g, b⟩, rest'⟩, hBoth, hPair⟩ := bind_eq_ok_iff.mp hItems
    cases hPair
    obtain ⟨⟨g, mid⟩, hMapped, hRest⟩ := bind_eq_ok_iff.mp hBoth
    obtain ⟨⟨b, rest⟩, hSecond, hPair⟩ := bind_eq_ok_iff.mp hRest
    cases hPair
    obtain ⟨⟨a, mid⟩, hFirst, hPair⟩ := bind_eq_ok_iff.mp hMapped
    cases hPair
    obtain ⟨d, rfl, hRead⟩ := fromItems_required_eq_ok_iff.mp hFirst
    obtain ⟨d', rfl, hRead'⟩ := fromItems_required_eq_ok_iff.mp hSecond
    obtain rfl := Draft.eq_nil_of_needEnd hEnd
    exact ⟨d, d', a, b, rfl, hRead, hRead', rfl⟩
  · rintro ⟨d, d', a, b, rfl, hRead, hRead', rfl⟩
    refine bind_eq_ok_iff.mpr ⟨(f a b, []), ?_, rfl⟩
    refine bind_eq_ok_iff.mpr ⟨((f a, b), []), ?_, rfl⟩
    refine bind_eq_ok_iff.mpr ⟨(f a, [d']), ?_, ?_⟩
    · refine bind_eq_ok_iff.mpr ⟨(a, [d']), ?_, rfl⟩
      exact fromItems_required_eq_ok_iff.mpr ⟨d, rfl, hRead⟩
    · refine bind_eq_ok_iff.mpr ⟨(b, []), ?_, rfl⟩
      exact fromItems_required_eq_ok_iff.mpr ⟨d', rfl, hRead'⟩

end Two

end Json.Record

namespace CLValue

/-- The JSON in which a typed value is well-formed: an object with just one type and just one member
of bytes, whatever else it has, or an array of these two. -/
inductive HasForm : Json → CLValue → Prop
  | obj {ms : List (String × Json)} {clType bytes : Json} {v : CLValue} :
    Has ms "cl_type" clType → Has ms "bytes" bytes →
    CLType.readJson clType.toDraft = .ok v.clType → readHex bytes.toDraft = .ok v.bytes →
    HasForm (.obj ms) v
  | arr {clType bytes : Json} {v : CLValue} :
    CLType.readJson clType.toDraft = .ok v.clType → readHex bytes.toDraft = .ok v.bytes →
    HasForm (.arr [clType, bytes]) v

theorem readJson_eq_ok_iff {j : Json} {v : CLValue} :
    readJson j.toDraft = .ok v ↔ HasForm j v := by
  cases j with
  | obj ms =>
    rw [toDraft, toDraftMembers_eq_named]
    refine (Record.read_two_obj_iff (passable_drafts ms) (by decide) rfl).trans ?_
    constructor
    · rintro ⟨d, d', clType, bytes, hHas, hRead, hHas', hRead', rfl⟩
      obtain ⟨j, hType, rfl⟩ := has_drafts_iff.mp hHas
      obtain ⟨j', hBytes, rfl⟩ := has_drafts_iff.mp hHas'
      exact .obj hType hBytes hRead hRead'
    · intro h
      cases h with
      | obj hType hBytes hRead hRead' =>
        exact ⟨_, _, _, _, has_drafts_iff.mpr ⟨_, hType, rfl⟩, hRead,
          has_drafts_iff.mpr ⟨_, hBytes, rfl⟩, hRead', rfl⟩
  | arr items =>
    rw [toDraft, toDraftItems_eq_map]
    refine Record.read_two_arr_iff.trans ?_
    constructor
    · rintro ⟨d, d', clType, bytes, hItems, hRead, hRead', rfl⟩
      obtain ⟨j, rest, rfl, rfl, hRest⟩ := List.map_eq_cons_iff.mp hItems
      obtain ⟨j', rfl, rfl⟩ := List.map_eq_singleton_iff.mp hRest
      exact .arr hRead hRead'
    · intro h
      cases h with
      | arr hType hBytes => exact ⟨_, _, _, _, rfl, hType, hBytes, rfl⟩
  | _ => exact ⟨nofun, nofun⟩

end CLValue

end Mintage
