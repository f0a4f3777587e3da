import Mintage.Proofs.Json.Text
import Mintage.Proofs.Json.Token

/-!
# Proofs: spelled texts are read back

However a value is spelled, the reader makes a text of it, unless arrays and objects are nested more
than 127 deep. Then those that are too deep are buried, and no reader of values of any form gets
past them. So no bytes spell two values, and what is rendered, without blanks or over several lines,
spells one.
-/

namespace Mintage.Json

open Outcome
open Token (Ends)

mutual

/-- How deep arrays and objects are nested. -/
def nesting : Json → Nat
  | .null | .bool _ | .num _ | .str _ => 0
  | .arr items => nestingItems items + 1
  | .obj ms => nestingMembers ms + 1

/-- How deep they are nested in the items of an array. -/
def nestingItems : List Json → Nat
  | [] => 0
  | item :: items => max (nesting item) (nestingItems items)

/-- How deep they are nested in the members of an object. -/
def nestingMembers : List (String × Json) → Nat
  | [] => 0
  | (_, value) :: ms => max (nesting value) (nestingMembers ms)

end

mutual

/-- The draft of a text of the value, where arrays and objects may be nested `depth` deep. -/
def inDepth : (depth : Nat) → Json → Draft
  | _, .null => .null
  | _, .bool b => .bool b
  | _, .num n => .num (.of n)
  | _, .str s => .str (.of s)
  | depth, .arr items => Draft.bury depth (.arr (inDepthItems (depth - 1) items) .closed)
  | depth, .obj ms => Draft.bury depth (.obj (named (inDepthMembers (depth - 1) ms)) .closed)

/-- The drafts of the items of an array. -/
def inDepthItems : (depth : Nat) → List Json → List Draft
  | _, [] => []
  | depth, item :: items => inDepth depth item :: inDepthItems depth items

/-- The drafts of the members of an object. -/
def inDepthMembers : (depth : Nat) → List (String × Json) → List (String × Draft)
  | _, [] => []
  | depth, (name, value) :: ms => (name, inDepth depth value) :: inDepthMembers depth ms

end

/-! ## What is buried -/

mutual

/-- Nothing is buried of what is not nested too deeply. -/
theorem inDepth_of_le : (j : Json) → ∀ {depth : Nat}, j.nesting ≤ depth →
    j.inDepth depth = j.inText
  | .null, _, _ | .bool _, _, _ | .num _, _, _ | .str _, _, _ => rfl
  | .arr items, depth + 1, h => by
    rw [inDepth, Nat.add_sub_cancel, inDepthItems_of_le items (Nat.le_of_succ_le_succ h)]
    rfl
  | .obj ms, depth + 1, h => by
    rw [inDepth, Nat.add_sub_cancel, inDepthMembers_of_le ms (Nat.le_of_succ_le_succ h)]
    rfl

theorem inDepthItems_of_le : (items : List Json) → ∀ {depth : Nat}, nestingItems items ≤ depth →
    inDepthItems depth items = inTextItems items
  | [], _, _ => rfl
  | item :: items, depth, h => by
    obtain ⟨hItem, hItems⟩ := Nat.max_le.mp h
    rw [inDepthItems, inDepth_of_le item hItem, inDepthItems_of_le items hItems, inTextItems]

theorem inDepthMembers_of_le : (ms : List (String × Json)) → ∀ {depth : Nat},
    nestingMembers ms ≤ depth → inDepthMembers depth ms = inTextMembers ms
  | [], _, _ => rfl
  | (name, value) :: ms, depth, h => by
    obtain ⟨hValue, hMembers⟩ := Nat.max_le.mp h
    rw [inDepthMembers, inDepth_of_le value hValue, inDepthMembers_of_le ms hMembers,
      inTextMembers]

end

mutual

/-- A reader of any form does not get past what is nested too deeply. -/
theorem readAny_of_lt : (j : Json) → ∀ {depth : Nat}, depth < j.nesting →
    (j.inDepth depth).readAny = .error (.malformed .tooDeep)
  | .arr items, 0, _ => rfl
  | .obj ms, 0, _ => rfl
  | .arr items, depth + 1, h => by
    have hItems := readAnyItems_of_lt items (Nat.lt_of_succ_lt_succ h)
    change Draft.readAny (.arr (inDepthItems depth items) .closed) = _
    rw [Draft.readAny, hItems]
    rfl
  | .obj ms, depth + 1, h => by
    have hMembers := readAnyMembers_of_lt ms (Nat.lt_of_succ_lt_succ h)
    change Draft.readAny (.obj (named (inDepthMembers depth ms)) .closed) = _
    rw [Draft.readAny, hMembers]
    rfl

theorem readAnyItems_of_lt : (items : List Json) → ∀ {depth : Nat}, depth < nestingItems items →
    Draft.readAnyItems (inDepthItems depth items) = .error (.malformed .tooDeep)
  | item :: items, depth, h => by
    rw [inDepthItems, Draft.readAnyItems]
    by_cases hItem : item.nesting ≤ depth
    · have hDeep : depth < nestingItems items := by
        rw [nestingItems] at h
        omega
      have hItems := readAnyItems_of_lt items hDeep
      rw [inDepth_of_le item hItem, readAny_inText, hItems]
      rfl
    · rw [readAny_of_lt item (Nat.lt_of_not_le hItem)]
      rfl

theorem readAnyMembers_of_lt : (ms : List (String × Json)) → ∀ {depth : Nat},
    depth < nestingMembers ms →
    Draft.readAnyMembers (named (inDepthMembers depth ms)) = .error (.malformed .tooDeep)
  | (name, value) :: ms, depth, h => by
    rw [inDepthMembers, named, List.map_cons, ← named, Draft.readAnyMembers]
    by_cases hValue : value.nesting ≤ depth
    · have hDeep : depth < nestingMembers ms := by
        rw [nestingMembers] at h
        omega
      have hMembers := readAnyMembers_of_lt ms hDeep
      rw [inDepth_of_le value hValue, readAny_inText, hMembers]
      rfl
    · rw [readAny_of_lt value (Nat.lt_of_not_le hValue)]
      rfl

end

/-! ## Beginnings of spellings -/

theorem encode_int_nat (n : Nat) : Utf8.encode (toString (Int.ofNat n)) = Token.decimal n :=
  Token.encode_repr n

theorem encode_int_negative (n : Nat) :
    Utf8.encode (toString (Int.negSucc n)) = 0x2d :: Token.decimal (n + 1) := by
  change Utf8.encode ("-" ++ (n + 1).repr) = _
  rw [Utf8.encode_append, Token.encode_repr]
  rfl

theorem next?_of_isDigit {b : UInt8} (h : Token.isDigit b = true) (rest : Bytes) :
    Token.next? (b :: rest) = some (Char.ofUInt8 b, rest) := by
  have hBlank : Token.isBlank b = false := by
    rw [Bool.eq_false_iff]
    intro hBlank
    simp only [Token.isBlank, Bool.or_eq_true, decide_eq_true_eq] at hBlank
    rcases hBlank with ((rfl | rfl) | rfl) | rfl
    all_goals cases h
  rw [Token.next?, hBlank]
  rfl

/-- A spelling begins with a character that is no blank and closes no array. -/
theorem next?_of_spells {j : Json} {bs : Bytes} (h : Spells j bs) (rest : Bytes) :
    ∃ c more, Token.next? (bs ++ rest) = some (c, more) ∧ c ≠ ']' := by
  cases h with
  | null => exact ⟨'n', _, rfl, by decide⟩
  | true => exact ⟨'t', _, rfl, by decide⟩
  | false => exact ⟨'f', _, rfl, by decide⟩
  | @int i _ _ =>
    cases i with
    | ofNat n =>
      rw [encode_int_nat]
      cases hDigits : Token.decimal n with
      | nil => exact absurd hDigits (Token.decimal_ne_nil n)
      | cons b bs =>
        have hDigit := Token.isDigit_of_mem_decimal b (hDigits ▸ List.mem_cons_self)
        refine ⟨_, _, next?_of_isDigit hDigit _, ?_⟩
        intro hClose
        rw [Token.isDigit, hClose] at hDigit
        cases hDigit
    | negSucc n =>
      rw [encode_int_negative]
      exact ⟨'-', _, rfl, by decide⟩
  | str _ => exact ⟨'"', _, rfl, by decide⟩
  | emptyArr _ | arr _ => exact ⟨'[', _, rfl, by decide⟩
  | emptyObj _ | obj _ => exact ⟨'{', _, rfl, by decide⟩

theorem next?_of_row {items : List Json} {bs : Bytes} (h : Row Spells items bs) (rest : Bytes) :
    ∃ c more, Token.next? (bs ++ rest) = some (c, more) ∧ c ≠ ']' := by
  cases h with
  | last hBefore hItem _ | more hBefore hItem _ _ =>
    rw [List.append_assoc, Token.next?_blanks hBefore, List.append_assoc]
    exact next?_of_spells hItem _

/-! ## Steps of the reader -/

namespace Draft

variable {fuel depth : Nat} {bs rest more : Bytes}

theorem value_blanks {blanks : Bytes} (h : Blanks blanks) :
    value (fuel + 1) depth (blanks ++ bs) = value (fuel + 1) depth bs := by
  unfold value
  rw [Token.next?_blanks h]

theorem items_close {blanks : Bytes} (h : Blanks blanks) (first : Bool) :
    items (fuel + 1) depth first (blanks ++ 0x5d :: rest) = ([], .closed, some rest) := by
  have hClose : Token.next? (blanks ++ 0x5d :: rest) = some (']', rest) := Token.next?_blanks h _
  unfold items
  rw [hClose]
  cases first
  all_goals rfl

theorem items_first {c : Char} (hStart : Token.next? bs = some (c, more)) (hItem : c ≠ ']') :
    items (fuel + 1) depth true bs = itemsFrom fuel depth bs := by
  unfold items
  simp [hStart, hItem]

theorem items_comma {c : Char} {blanks : Bytes} (h : Blanks blanks)
    (hStart : Token.next? bs = some (c, more)) (hItem : c ≠ ']') :
    items (fuel + 1) depth false (blanks ++ 0x2c :: bs) = itemsFrom fuel depth bs := by
  have hComma : Token.next? (blanks ++ 0x2c :: bs) = some (',', bs) := Token.next?_blanks h _
  unfold items
  simp [hComma, hStart, hItem]

theorem itemsFrom_eq {item : Draft} {found : List Draft} {ending : Ending} {left : Option Bytes}
    (hValue : value fuel depth bs = (item, some rest))
    (hItems : items fuel depth false rest = (found, ending, left)) :
    itemsFrom (fuel + 1) depth bs = (item :: found, ending, left) := by
  rw [itemsFrom, hValue]
  simp only [hItems]

theorem members_close {blanks : Bytes} (h : Blanks blanks) (first : Bool) :
    members (fuel + 1) depth first (blanks ++ 0x7d :: rest) = ([], .closed, some rest) := by
  have hClose : Token.next? (blanks ++ 0x7d :: rest) = some ('}', rest) := Token.next?_blanks h _
  unfold members
  rw [hClose]
  cases first
  all_goals rfl

theorem members_first (hQuote : Token.next? bs = some ('"', more)) :
    members (fuel + 1) depth true bs = membersFrom fuel depth more := by
  unfold members
  rw [hQuote]
  rfl

theorem members_comma {blanks : Bytes} (h : Blanks blanks)
    (hQuote : Token.next? bs = some ('"', more)) :
    members (fuel + 1) depth false (blanks ++ 0x2c :: bs) = membersFrom fuel depth more := by
  have hComma : Token.next? (blanks ++ 0x2c :: bs) = some (',', bs) := Token.next?_blanks h _
  unfold members
  simp only [hComma, hQuote]

theorem membersFrom_eq {name : String} {blanks : Bytes} {v : Draft}
    {found : List (Token String × Draft)} {ending : Ending} {left : Option Bytes}
    (hName : Token.string bs = (.of name, blanks ++ 0x3a :: more)) (h : Blanks blanks)
    (hValue : value fuel depth more = (v, some rest))
    (hMembers : members fuel depth false rest = (found, ending, left)) :
    membersFrom (fuel + 1) depth bs = ((.of name, v) :: found, ending, left) := by
  have hBehind : behind (.of name) (blanks ++ 0x3a :: more) = some (blanks ++ 0x3a :: more) := rfl
  have hColon : Token.next? (blanks ++ 0x3a :: more) = some (':', more) := Token.next?_blanks h _
  rw [membersFrom, hName]
  simp only [hBehind, hColon, hValue, hMembers]

theorem value_arr {found : List Draft} {ending : Ending} {left : Option Bytes}
    (hItems : items fuel (depth - 1) true bs = (found, ending, left)) :
    value (fuel + 1) depth (0x5b :: bs) = (bury depth (.arr found ending), left) := by
  have hOpen : Token.next? (0x5b :: bs) = some ('[', bs) := rfl
  rw [value, hOpen]
  simp only [hItems]

theorem value_obj {found : List (Token String × Draft)} {ending : Ending} {left : Option Bytes}
    (hMembers : members fuel (depth - 1) true bs = (found, ending, left)) :
    value (fuel + 1) depth (0x7b :: bs) = (bury depth (.obj found ending), left) := by
  have hOpen : Token.next? (0x7b :: bs) = some ('{', bs) := rfl
  rw [value, hOpen]
  simp only [hMembers]

theorem value_str {s : String} (h : SpellsChars s.toList bs) :
    value (fuel + 1) depth (0x22 :: (bs ++ 0x22 :: rest)) = (.str (.of s), some rest) := by
  have hOpen : Token.next? (0x22 :: (bs ++ 0x22 :: rest)) = some ('"', bs ++ 0x22 :: rest) := rfl
  rw [value, hOpen]
  simp only [Token.string_of_spells h]
  rfl

theorem value_digit {b : UInt8} (h : Token.isDigit b = true) :
    value (fuel + 1) depth (b :: bs) = number false (b :: bs) := by
  have hByte : (Char.ofUInt8 b).toUInt8 = b := UInt8.toNat.inj (Nat.mod_eq_of_lt b.toNat_lt)
  have hNext := next?_of_isDigit h bs
  rw [Token.isDigit] at h
  unfold value
  rw [hNext]
  split
  case h_9 hSome =>
    obtain ⟨rfl, rfl⟩ := Prod.mk.inj (Option.some.inj hSome)
    rw [if_pos h, hByte]
  case h_1 hSome => cases hSome
  -- No other character that a value begins with is a digit.
  all_goals
    rename_i hSome
    rw [(Prod.mk.inj (Option.some.inj hSome)).1] at h
    cases h

theorem value_int {i : Int} (hFits : -2 ^ 63 ≤ i ∧ i < 2 ^ 64) (hEnds : Ends rest) :
    value (fuel + 1) depth (Utf8.encode (toString i) ++ rest) =
      (.num (.of (.int i)), some rest) := by
  cases i with
  | ofNat n =>
    have hNumber := Token.number_of_nat (Int.ofNat_lt.mp hFits.2) hEnds
    rw [encode_int_nat]
    cases hDigits : Token.decimal n with
    | nil => exact absurd hDigits (Token.decimal_ne_nil n)
    | cons b bs =>
      have hDigit := Token.isDigit_of_mem_decimal b (hDigits ▸ List.mem_cons_self)
      rw [List.cons_append, value_digit hDigit, number, ← List.cons_append, ← hDigits, hNumber]
      rfl
  | negSucc n =>
    have hNumber := Token.number_of_negative (n := n + 1) (by omega) (by omega) hEnds
    have hSign : Token.next? (0x2d :: (Token.decimal (n + 1) ++ rest)) =
        some ('-', Token.decimal (n + 1) ++ rest) := rfl
    rw [encode_int_negative, List.cons_append, value, hSign]
    simp only [number, hNumber]
    rfl

theorem value_null :
    value (fuel + 1) depth (Utf8.encode "null" ++ rest) = (.null, some rest) := by
  have hFirst : Token.next? (Utf8.encode "null" ++ rest) = some ('n', Utf8.encode "ull" ++ rest) :=
    rfl
  rw [value, hFirst]
  rfl

theorem value_true :
    value (fuel + 1) depth (Utf8.encode "true" ++ rest) = (.bool true, some rest) := by
  have hFirst : Token.next? (Utf8.encode "true" ++ rest) = some ('t', Utf8.encode "rue" ++ rest) :=
    rfl
  rw [value, hFirst]
  rfl

theorem value_false :
    value (fuel + 1) depth (Utf8.encode "false" ++ rest) = (.bool false, some rest) := by
  have hFirst : Token.next? (Utf8.encode "false" ++ rest) =
      some ('f', Utf8.encode "alse" ++ rest) := rfl
  rw [value, hFirst]
  rfl

end Draft

/-! ## Reading spellings -/

mutual

/-- A spelling is read, whatever stands behind it that may stand behind a number. Of the fuel, each
byte takes at most three rounds. -/
theorem value_of_spells : (j : Json) → ∀ {bs : Bytes} (fuel depth : Nat) {rest : Bytes},
    Spells j bs → Ends rest → 3 * (bs ++ rest).length ≤ fuel →
    Draft.value (fuel + 1) depth (bs ++ rest) = (j.inDepth depth, some rest)
  | .null, _, _, _, _, .null, _, _ => Draft.value_null
  | .bool _, _, _, _, _, .true, _, _ => Draft.value_true
  | .bool _, _, _, _, _, .false, _, _ => Draft.value_false
  | .num _, _, _, _, _, .int hLow hHigh, hEnds, _ => Draft.value_int ⟨hLow, hHigh⟩ hEnds
  | .str _, _, fuel, depth, rest, .str hChars, _, _ => by
    rw [List.cons_append, List.append_assoc]
    exact Draft.value_str hChars
  | .arr _, _, fuel, depth, rest, .emptyArr hBlanks, _, hFuel => by
    simp only [List.length_append, List.length_cons] at hFuel
    obtain ⟨left, rfl⟩ := Nat.exists_eq_add_of_le' (show 1 ≤ fuel by omega)
    rw [List.cons_append, List.append_assoc]
    exact Draft.value_arr (Draft.items_close hBlanks true)
  | .arr items, _, fuel, depth, rest, .arr hRow, _, hFuel => by
    simp only [List.cons_append, List.append_assoc, List.nil_append, List.length_cons] at hFuel ⊢
    obtain ⟨left, rfl⟩ := Nat.exists_eq_add_of_le' (show 2 ≤ fuel by omega)
    obtain ⟨c, more, hStart, hItem⟩ := next?_of_row hRow (0x5d :: rest)
    have hItems := itemsFrom_of_row items left (depth - 1) rest hRow (by omega)
    exact Draft.value_arr ((Draft.items_first hStart hItem).trans hItems)
  | .obj _, _, fuel, depth, rest, .emptyObj hBlanks, _, hFuel => by
    simp only [List.length_append, List.length_cons] at hFuel
    obtain ⟨left, rfl⟩ := Nat.exists_eq_add_of_le' (show 1 ≤ fuel by omega)
    rw [List.cons_append, List.append_assoc]
    exact Draft.value_obj (Draft.members_close hBlanks true)
  | .obj ms, _, fuel, depth, rest, .obj hRow, _, hFuel => by
    simp only [List.cons_append, List.append_assoc, List.nil_append, List.length_cons] at hFuel ⊢
    obtain ⟨left, rfl⟩ := Nat.exists_eq_add_of_le' (show 2 ≤ fuel by omega)
    obtain ⟨more, hQuote, hMembers⟩ := membersFrom_of_row ms left (depth - 1) rest hRow (by omega)
    exact Draft.value_obj ((Draft.members_first hQuote).trans hMembers)

/-- What is in front of the closing bracket of an array is read item by item. -/
theorem itemsFrom_of_row : (items : List Json) → ∀ {bs : Bytes} (fuel depth : Nat) (rest : Bytes),
    Row Spells items bs → 3 * (bs ++ 0x5d :: rest).length + 1 ≤ fuel →
    Draft.itemsFrom (fuel + 1) depth (bs ++ 0x5d :: rest) =
      (inDepthItems depth items, .closed, some rest)
  | item :: _, _, fuel, depth, rest, @Row.last _ _ _ _ _ after hBefore hItem hAfter, hFuel => by
    simp only [List.append_assoc, List.length_append, List.length_cons] at hFuel ⊢
    obtain ⟨left, rfl⟩ := Nat.exists_eq_add_of_le' (show 1 ≤ fuel by omega)
    have hEnds : Ends (after ++ 0x5d :: rest) :=
      Token.ends_blanks hAfter (Token.ends_of_mem (by decide) rest)
    have hValue := value_of_spells item left depth hItem hEnds (by simp; omega)
    exact Draft.itemsFrom_eq ((Draft.value_blanks hBefore).trans hValue)
      (Draft.items_close hAfter false)
  | item :: items, _, fuel, depth, rest,
      @Row.more _ _ _ _ _ _ after more hBefore hItem hAfter hRow, hFuel => by
    simp only [List.cons_append, List.append_assoc, List.length_append, List.length_cons]
      at hFuel ⊢
    obtain ⟨left, rfl⟩ := Nat.exists_eq_add_of_le' (show 2 ≤ fuel by omega)
    have hEnds : Ends (after ++ 0x2c :: (more ++ 0x5d :: rest)) :=
      Token.ends_blanks hAfter (Token.ends_of_mem (by decide) _)
    have hValue := value_of_spells item (left + 1) depth hItem hEnds (by simp; omega)
    have hRest := itemsFrom_of_row items left depth rest hRow (by simp; omega)
    obtain ⟨c, behind, hStart, hNext⟩ := next?_of_row hRow (0x5d :: rest)
    exact Draft.itemsFrom_eq ((Draft.value_blanks hBefore).trans hValue)
      ((Draft.items_comma hAfter hStart hNext).trans hRest)

/-- What is in front of the closing bracket of an object begins with a quote, and is read member by
member. -/
theorem membersFrom_of_row : (ms : List (String × Json)) → ∀ {bs : Bytes} (fuel depth : Nat)
    (rest : Bytes), Row SpellsMember ms bs → 3 * (bs ++ 0x7d :: rest).length + 1 ≤ fuel →
    ∃ more, Token.next? (bs ++ 0x7d :: rest) = some ('"', more) ∧
      Draft.membersFrom (fuel + 1) depth more =
        (named (inDepthMembers depth ms), .closed, some rest)
  | (name, v) :: _, _, fuel, depth, rest,
      @Row.last _ _ _ _ _ after hBefore hMember hAfter, hFuel => by
    obtain ⟨hName, hBlanks, hGap, hSpells⟩ := hMember
    simp only [List.cons_append, List.append_assoc, List.length_append, List.length_cons]
      at hFuel ⊢
    obtain ⟨left, rfl⟩ := Nat.exists_eq_add_of_le' (show 1 ≤ fuel by omega)
    have hEnds : Ends (after ++ 0x7d :: rest) :=
      Token.ends_blanks hAfter (Token.ends_of_mem (by decide) rest)
    have hValue := value_of_spells v left depth hSpells hEnds (by simp; omega)
    exact ⟨_, Token.next?_blanks hBefore _, Draft.membersFrom_eq (Token.string_of_spells hName _)
      hBlanks ((Draft.value_blanks hGap).trans hValue) (Draft.members_close hAfter false)⟩
  | (name, v) :: ms, _, fuel, depth, rest,
      @Row.more _ _ _ _ _ _ after more hBefore hMember hAfter hRow, hFuel => by
    obtain ⟨hName, hBlanks, hGap, hSpells⟩ := hMember
    simp only [List.cons_append, List.append_assoc, List.length_append, List.length_cons]
      at hFuel ⊢
    obtain ⟨left, rfl⟩ := Nat.exists_eq_add_of_le' (show 2 ≤ fuel by omega)
    have hEnds : Ends (after ++ 0x2c :: (more ++ 0x7d :: rest)) :=
      Token.ends_blanks hAfter (Token.ends_of_mem (by decide) _)
    have hValue := value_of_spells v (left + 1) depth hSpells hEnds (by simp; omega)
    obtain ⟨behind, hQuote, hRest⟩ := membersFrom_of_row ms left depth rest hRow (by simp; omega)
    exact ⟨_, Token.next?_blanks hBefore _, Draft.membersFrom_eq (Token.string_of_spells hName _)
      hBlanks ((Draft.value_blanks hGap).trans hValue)
      ((Draft.members_comma hAfter hQuote).trans hRest)⟩

end

/-! ## Texts and what they spell -/

theorem named_injective {ds es : List (String × Draft)} (h : named ds = named es) : ds = es := by
  refine List.map_injective_iff.mpr ?_ h
  intro m n hSame
  obtain ⟨hName, hDraft⟩ := Prod.mk.inj hSame
  exact Prod.ext (Except.ok.inj (congrArg Token.value hName)) hDraft

/-- The draft of a spelling is that of the value, as deep as arrays and objects may be nested. -/
theorem ofBytes_of_spells {j : Json} {bs : Bytes} (h : Spells j bs) :
    Draft.ofBytes bs = (j.inDepth Draft.depthLimit, none) := by
  have hFuel : 3 * (bs ++ []).length ≤ 3 * bs.length + 2 := by
    rw [List.append_nil]
    omega
  have hValue := value_of_spells j _ Draft.depthLimit h Token.ends_nil hFuel
  rw [List.append_nil] at hValue
  rw [Draft.ofBytes, hValue]
  rfl

theorem isText_of_spells {j : Json} {bs : Bytes} (h : Spells j bs)
    (hNesting : j.nesting ≤ Draft.depthLimit) : IsText bs j := by
  rw [IsText, ofBytes_of_spells h, inDepth_of_le j hNesting]

/-- What is rendered is read as itself. -/
theorem isText_render {j : Json} (hIntegral : j.isIntegral = true)
    (hNesting : j.nesting ≤ Draft.depthLimit) : IsText (Utf8.encode j.render) j :=
  isText_of_spells (spells_render j hIntegral) hNesting

mutual

theorem inText_injective : (j : Json) → ∀ {k : Json}, j.inText = k.inText → j = k
  | .null, k, h => by
    cases k with
    | null => rfl
    | _ => cases h
  | .bool _, k, h => by
    cases k with
    | bool _ => exact congrArg Json.bool (Draft.bool.inj h)
    | _ => cases h
  | .num _, k, h => by
    cases k with
    | num _ =>
      have hToken := Draft.num.inj h
      exact congrArg Json.num (Except.ok.inj (congrArg Token.value hToken))
    | _ => cases h
  | .str _, k, h => by
    cases k with
    | str _ =>
      have hToken := Draft.str.inj h
      exact congrArg Json.str (Except.ok.inj (congrArg Token.value hToken))
    | _ => cases h
  | .arr items, k, h => by
    cases k with
    | arr _ => exact congrArg Json.arr (inTextItems_injective items (Draft.arr.inj h).1)
    | _ => cases h
  | .obj ms, k, h => by
    cases k with
    | obj _ =>
      have hNamed := named_injective (Draft.obj.inj h).1
      exact congrArg Json.obj (inTextMembers_injective ms hNamed)
    | _ => cases h

theorem inTextItems_injective : (items : List Json) → ∀ {items' : List Json},
    inTextItems items = inTextItems items' → items = items'
  | [], items', h => by
    cases items' with
    | nil => rfl
    | cons _ _ => cases h
  | item :: items, items', h => by
    cases items' with
    | nil => cases h
    | cons _ _ =>
      obtain ⟨hItem, hItems⟩ := List.cons.inj h
      rw [inText_injective item hItem, inTextItems_injective items hItems]

theorem inTextMembers_injective : (ms : List (String × Json)) → ∀ {ms' : List (String × Json)},
    inTextMembers ms = inTextMembers ms' → ms = ms'
  | [], ms', h => by
    cases ms' with
    | nil => rfl
    | cons _ _ => cases h
  | (_, value) :: ms, ms', h => by
    cases ms' with
    | nil => cases h
    | cons _ _ =>
      obtain ⟨hMember, hMembers⟩ := List.cons.inj h
      obtain ⟨rfl, hValue⟩ := Prod.mk.inj hMember
      rw [inText_injective value hValue, inTextMembers_injective ms hMembers]

end

/-- No bytes spell two values. -/
theorem Spells.unique {j k : Json} {bs : Bytes} (hj : Spells j bs) (hk : Spells k bs) : j = k := by
  -- Both are read from the bytes, at a depth at which nothing is buried.
  let depth := max j.nesting k.nesting
  have hReadJ := value_of_spells j (3 * (bs ++ []).length) depth hj Token.ends_nil (Nat.le_refl _)
  have hReadK := value_of_spells k (3 * (bs ++ []).length) depth hk Token.ends_nil (Nat.le_refl _)
  rw [hReadJ, inDepth_of_le j (Nat.le_max_left _ _), inDepth_of_le k (Nat.le_max_right _ _)]
    at hReadK
  exact inText_injective j (Prod.mk.inj hReadK).1

end Mintage.Json
