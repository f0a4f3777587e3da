import Mintage.Json.Reader
import Mintage.Proofs.Outcome

/-!
# Proofs: what readers have met

A reader that succeeds has met a draft of one form, and in it the parts that its result is made of.
-/

namespace Mintage.Json.Draft

open Outcome

variable {α β : Type}

theorem eq_str_of_readString {d : Draft} {s : String} (h : readString d = .ok s) :
    ∃ passing, d = .str ⟨.ok s, passing⟩ := by
  unfold readString readText at h
  split at h
  · cases h
    exact ⟨_, rfl⟩
  · cases h

theorem eq_num_of_readNat {bits : Nat} {d : Draft} {n : Nat} (h : readNat bits d = .ok n) :
    n < 2 ^ bits ∧ ∃ passing, d = .num ⟨.ok (.int n), passing⟩ := by
  unfold readNat at h
  split at h
  · split at h
    · rename_i hRange
      cases h
      refine ⟨?_, _, by rw [Int.toNat_of_nonneg hRange.1]⟩
      exact (Int.toNat_lt hRange.1).mpr (by exact_mod_cast hRange.2)
    · cases h
  · cases h

/-- A list is read from an array, each item from the item at its place. -/
theorem eq_arr_of_readList {read : Reader α} {d : Draft} {as : List α}
    (h : readList read d = .ok as) :
    ∃ items ending, d = .arr items ending ∧ items.map read = as.map .ok := by
  unfold readList at h
  split at h
  · obtain ⟨xs, hItems, hMore⟩ := bind_eq_ok_iff.mp h
    obtain ⟨-, -, hPure⟩ := bind_eq_ok_iff.mp hMore
    cases hPure
    exact ⟨_, _, rfl, mapM_eq_ok_iff.mp hItems⟩
  · cases h
  · cases h

theorem eq_cons_of_nextItem {read : Reader α} {expected : String} {index : Nat} {ending : Ending}
    {items rest : List Draft} {a : α}
    (h : nextItem read expected index ending items = .ok (a, rest)) :
    ∃ item, items = item :: rest ∧ read item = .ok a := by
  cases items with
  | nil =>
    obtain ⟨-, -, hThrow⟩ := bind_eq_ok_iff.mp h
    cases hThrow
  | cons item items =>
    obtain ⟨b, hRead, hPair⟩ := bind_eq_ok_iff.mp h
    cases hPair
    exact ⟨item, rfl, hRead⟩

theorem eq_nil_of_needEnd {size : Nat} {ending : Ending} {items : List Draft}
    (h : needEnd size ending items = .ok ()) : items = [] := by
  cases items with
  | nil => rfl
  | cons item items => cases h

/-- A pair is read from an array of two items. -/
theorem eq_arr_of_readPair {first : Reader α} {second : Reader β} {d : Draft} {a : α} {b : β}
    (h : readPair first second d = .ok (a, b)) :
    ∃ x y ending, d = .arr [x, y] ending ∧ first x = .ok a ∧ second y = .ok b := by
  unfold readPair at h
  split at h
  · obtain ⟨⟨a', items'⟩, hFirst, hMore⟩ := bind_eq_ok_iff.mp h
    obtain ⟨⟨b', items''⟩, hSecond, hMore⟩ := bind_eq_ok_iff.mp hMore
    obtain ⟨⟨⟩, hEnd, hPure⟩ := bind_eq_ok_iff.mp hMore
    cases hPure
    obtain ⟨x, rfl, hx⟩ := eq_cons_of_nextItem hFirst
    obtain ⟨y, rfl, hy⟩ := eq_cons_of_nextItem hSecond
    obtain rfl := eq_nil_of_needEnd hEnd
    exact ⟨x, y, _, rfl, hx, hy⟩
  · cases h
  · cases h

/-- A variant with content is an object of one member, once nothing more is behind the content. -/
theorem eq_obj_of_variant {d content : Draft} {name : String} {close : Except ReadError Unit}
    (h : d.variant = .ok (name, some content, close)) (hClose : close = .ok ()) :
    ∃ passing ending, d = .obj [(⟨.ok name, passing⟩, content)] ending := by
  unfold variant at h
  split at h
  · obtain ⟨text, -, hPure⟩ := bind_eq_ok_iff.mp h
    cases hPure
  · rename_i token found more ending
    obtain ⟨-, -, hMore⟩ := bind_eq_ok_iff.mp h
    obtain ⟨text, hName, hPure⟩ := bind_eq_ok_iff.mp hMore
    cases hPure
    obtain ⟨value, passing⟩ := token
    cases value with
    | error fault => cases hName
    | ok text =>
      cases hName
      cases more with
      | nil => exact ⟨passing, ending, rfl⟩
      | cons m more => cases hClose
  · split at h
    all_goals cases h
  · cases h
  · cases h
  · split at h
    all_goals cases h

end Mintage.Json.Draft
