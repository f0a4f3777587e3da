import Mathlib.Data.List.Forall2
import Mintage.Json.Basic
import Mintage.Proofs.Bytes
import Mintage.Proofs.Hex

/-!
# Proofs: how values are spelled

A grammar of JSON, apart from what writes and reads it here. Blanks may stand between tokens, and in
a string each character stands for itself or is escaped. Integers have 64 bits; a floating-point
number has no spelling, since it is rounded when it is read. A value has many spellings. Two of them
are written: one without blanks, and one over several lines.
-/

namespace Mintage.Json

/-! ## Grammar -/

/-- The bytes are blanks, as they may stand between tokens. -/
def Blanks (bs : Bytes) : Prop := ∀ b ∈ bs, b = 0x20 ∨ b = 0x09 ∨ b = 0x0a ∨ b = 0x0d

/-- The letters that stand for a character behind a backslash. -/
def shortEscapes : List (Char × Char) :=
  [('"', '"'), ('\\', '\\'), ('/', '/'), ('b', '\x08'), ('f', '\x0c'), ('n', '\n'), ('r', '\r'),
    ('t', '\t')]

/-- The bytes stand for the character within a string. -/
inductive SpellsChar : Char → Bytes → Prop
  | plain {c : Char} : c ≠ '"' → c ≠ '\\' → 0x20 ≤ c.toNat → SpellsChar c (String.utf8EncodeChar c)
  | short (letter : Char) {c : Char} : (letter, c) ∈ shortEscapes →
    SpellsChar c [0x5c, letter.toUInt8]
  /-- The number of the character in four hexadecimal digits. -/
  | code {c : Char} (digits : Bytes) (ns : List Nat) : digits.length = 4 →
    digits.mapM Hex.digitValue? = some ns → ns.foldl (fun n d => 16 * n + d) 0 = c.toNat →
    SpellsChar c (0x5c :: 0x75 :: digits)

/-- The bytes stand for the characters between the quotes of a string. -/
inductive SpellsChars : List Char → Bytes → Prop
  | nil : SpellsChars [] []
  | cons {c : Char} {cs : List Char} {bs more : Bytes} : SpellsChar c bs → SpellsChars cs more →
    SpellsChars (c :: cs) (bs ++ more)

/-- The bytes are spellings of all that is listed, one at least, with commas between them and blanks
around them. -/
inductive Row {α : Type} (spells : α → Bytes → Prop) : List α → Bytes → Prop
  | last {a : α} {before bs after : Bytes} : Blanks before → spells a bs → Blanks after →
    Row spells [a] (before ++ (bs ++ after))
  | more {a : α} {as : List α} {before bs after rest : Bytes} : Blanks before → spells a bs →
    Blanks after → Row spells as rest →
    Row spells (a :: as) (before ++ (bs ++ (after ++ 0x2c :: rest)))

mutual

/-- The bytes are a spelling of the value. -/
inductive Spells : Json → Bytes → Prop
  | null : Spells .null (Utf8.encode "null")
  | true : Spells (.bool true) (Utf8.encode "true")
  | false : Spells (.bool false) (Utf8.encode "false")
  | int {i : Int} : -2 ^ 63 ≤ i → i < 2 ^ 64 → Spells (.num (.int i)) (Utf8.encode (toString i))
  | str {s : String} {bs : Bytes} : SpellsChars s.toList bs →
    Spells (.str s) (0x22 :: (bs ++ [0x22]))
  | emptyArr {blanks : Bytes} : Blanks blanks → Spells (.arr []) (0x5b :: (blanks ++ [0x5d]))
  | arr {items : List Json} {bs : Bytes} : Row Spells items bs →
    Spells (.arr items) (0x5b :: (bs ++ [0x5d]))
  | emptyObj {blanks : Bytes} : Blanks blanks → Spells (.obj []) (0x7b :: (blanks ++ [0x7d]))
  | obj {ms : List (String × Json)} {bs : Bytes} : Row SpellsMember ms bs →
    Spells (.obj ms) (0x7b :: (bs ++ [0x7d]))

/-- The bytes are a spelling of the member of an object. -/
inductive SpellsMember : String × Json → Bytes → Prop
  | mk {name : String} {value : Json} {cs before after bs : Bytes} : SpellsChars name.toList cs →
    Blanks before → Blanks after → Spells value bs →
    SpellsMember (name, value) (0x22 :: (cs ++ 0x22 :: (before ++ 0x3a :: (after ++ bs))))

end

mutual

/-- Whether all numbers are integers of 64 bits. -/
def isIntegral : Json → Bool
  | .null | .bool _ | .str _ => true
  | .num (.int i) => -2 ^ 63 ≤ i && i < 2 ^ 64
  | .num (.float _) => false
  | .arr items => isIntegralItems items
  | .obj ms => isIntegralMembers ms

/-- Whether those in the items of an array are. -/
def isIntegralItems : List Json → Bool
  | [] => true
  | item :: items => isIntegral item && isIntegralItems items

/-- Whether those in the members of an object are. -/
def isIntegralMembers : List (String × Json) → Bool
  | [] => true
  | (_, value) :: ms => isIntegral value && isIntegralMembers ms

end

/-! ## Blanks -/

theorem blanks_nil : Blanks [] := List.forall_mem_nil _

theorem Blanks.append {bs cs : Bytes} (hb : Blanks bs) (hc : Blanks cs) : Blanks (bs ++ cs) :=
  List.forall_mem_append.mpr ⟨hb, hc⟩

theorem blanks_space : Blanks (Utf8.encode " ") := by
  intro b hb
  exact .inl (List.mem_singleton.mp hb)

theorem blanks_newline : Blanks (Utf8.encode "\n") := by
  intro b hb
  exact .inr (.inr (.inl (List.mem_singleton.mp hb)))

theorem blanks_indent (indent : Nat) : Blanks (Utf8.encode ("".pushn ' ' indent)) := by
  induction indent with
  | zero => exact blanks_nil
  | succ indent ih =>
    have hPush : "".pushn ' ' (indent + 1) = "".pushn ' ' indent ++ " " :=
      String.append_singleton.symm
    rw [hPush, Utf8.encode_append]
    exact ih.append blanks_space

/-- A new line. -/
theorem blanks_line (indent : Nat) : Blanks (Utf8.encode ("\n" ++ "".pushn ' ' indent)) := by
  rw [Utf8.encode_append]
  exact blanks_newline.append (blanks_indent indent)

/-! ## Strings -/

theorem spellsChar_escapeChar (c : Char) : SpellsChar c (Utf8.encode (escapeChar c)) := by
  by_cases hNamed : c ∈ ['"', '\\', '\n', '\r', '\t', '\x08', '\x0c']
  · simp only [List.mem_cons, List.not_mem_nil, or_false] at hNamed
    rcases hNamed with rfl | rfl | rfl | rfl | rfl | rfl | rfl
    · exact .short '"' (by decide)
    · exact .short '\\' (by decide)
    · exact .short 'n' (by decide)
    · exact .short 'r' (by decide)
    · exact .short 't' (by decide)
    · exact .short 'b' (by decide)
    · exact .short 'f' (by decide)
  simp only [List.mem_cons, List.not_mem_nil, or_false, not_or] at hNamed
  obtain ⟨hQuote, hBackslash, hLine, hReturn, hTab, hBack, hFeed⟩ := hNamed
  have hBack' : c.toNat ≠ 8 := fun h => hBack (Char.toNat_inj.mp h)
  have hFeed' : c.toNat ≠ 12 := fun h => hFeed (Char.toNat_inj.mp h)
  rw [escapeChar, if_neg hQuote, if_neg hBackslash, if_neg hLine, if_neg hReturn, if_neg hTab,
    if_neg hBack', if_neg hFeed']
  by_cases hControl : c.toNat < 0x20
  · rw [if_pos hControl]
    have hHigh : c.toNat / 16 < 16 := by omega
    have hLow : c.toNat % 16 < 16 := Nat.mod_lt _ (by decide)
    have hDigits : Utf8.encode (String.ofList [Hex.digit (c.toNat / 16),
        Hex.digit (c.toNat % 16)]) =
          [Hex.digitByte (c.toNat / 16), Hex.digitByte (c.toNat % 16)] := by
      rw [Utf8.encode_ofList, List.flatMap_cons, List.flatMap_singleton,
        Hex.utf8EncodeChar_digit hHigh, Hex.utf8EncodeChar_digit hLow]
      rfl
    have hZero : Hex.digitValue? 0x30 = some 0 := rfl
    rw [Utf8.encode_append, hDigits]
    refine .code [0x30, 0x30, _, _] [0, 0, c.toNat / 16, c.toNat % 16] rfl ?_ ?_
    · simp [hZero, Hex.digitValue?_digitByte hHigh, Hex.digitValue?_digitByte hLow]
    · simp only [List.foldl_cons, List.foldl_nil]
      omega
  · rw [if_neg hControl, Char.toString_eq_singleton, String.singleton_eq_ofList,
      Utf8.encode_ofList, List.flatMap_singleton]
    exact .plain hQuote hBackslash (Nat.le_of_not_lt hControl)

/-- The bytes of a string between its quotes. -/
def quoted (cs : List Char) : Bytes := cs.flatMap fun c => Utf8.encode (escapeChar c)

theorem spellsChars_quoted (cs : List Char) : SpellsChars cs (quoted cs) := by
  induction cs with
  | nil => exact .nil
  | cons c cs ih => exact .cons (spellsChar_escapeChar c) ih

theorem encode_quote (s : String) :
    Utf8.encode (quote s) = 0x22 :: (quoted s.toList ++ [0x22]) := by
  have hJoin : ∀ cs : List Char, Utf8.encode (String.join (cs.map escapeChar)) = quoted cs := by
    intro cs
    induction cs with
    | nil => rfl
    | cons c cs ih =>
      rw [List.map_cons, String.join_cons, Utf8.encode_append, ih, quoted, quoted,
        List.flatMap_cons]
  rw [quote, Utf8.encode_append, Utf8.encode_append, hJoin]
  rfl

theorem spells_quote (s : String) : Spells (.str s) (Utf8.encode (quote s)) := by
  rw [encode_quote]
  exact .str (spellsChars_quoted s.toList)

/-! ## Items and members -/

section Rows

variable {α : Type} {spells : α → Bytes → Prop}

/-- The text is a spelling behind blanks. -/
def Indented (spells : α → Bytes → Prop) (a : α) (text : String) : Prop :=
  ∃ before bs, Blanks before ∧ spells a bs ∧ Utf8.encode text = before ++ bs

/-- A spelling with nothing in front of it. -/
theorem Indented.of_spells {a : α} {text : String} (h : spells a (Utf8.encode text)) :
    Indented spells a text := ⟨[], _, blanks_nil, h, rfl⟩

/-- Both writers put a comma and perhaps a new line between texts, and blanks around all of them. -/
theorem row_intercalate (gap tail : String) (hGap : Blanks (Utf8.encode gap))
    (hTail : Blanks (Utf8.encode tail)) {a : α} {as : List α} {texts : List String}
    (h : List.Forall₂ (Indented spells) (a :: as) texts) :
    Row spells (a :: as) (Utf8.encode (gap ++ (("," ++ gap).intercalate texts ++ tail))) := by
  induction as generalizing a texts with
  | nil =>
    obtain ⟨text, texts, hText, hNone, rfl⟩ := List.forall₂_cons_left_iff.mp h
    obtain rfl := List.forall₂_nil_left_iff.mp hNone
    obtain ⟨before, bs, hBefore, hSpells, hBytes⟩ := hText
    rw [String.intercalate_singleton, Utf8.encode_append, Utf8.encode_append, hBytes,
      List.append_assoc, ← List.append_assoc]
    exact .last (hGap.append hBefore) hSpells hTail
  | cons b as ih =>
    obtain ⟨text, texts, hText, hRest, rfl⟩ := List.forall₂_cons_left_iff.mp h
    have hRow := ih hRest
    obtain ⟨text', texts, -, -, rfl⟩ := List.forall₂_cons_left_iff.mp hRest
    obtain ⟨before, bs, hBefore, hSpells, hBytes⟩ := hText
    have hSplit : Utf8.encode (gap ++ (("," ++ gap).intercalate (text :: text' :: texts) ++ tail)) =
        (Utf8.encode gap ++ before) ++ (bs ++ ([] ++ 0x2c ::
          Utf8.encode (gap ++ (("," ++ gap).intercalate (text' :: texts) ++ tail)))) := by
      simp only [String.intercalate_cons_cons, Utf8.encode_append, hBytes, List.append_assoc]
      rfl
    rw [hSplit]
    exact .more (hGap.append hBefore) hSpells blanks_nil hRow

end Rows

theorem encode_brackets (text : String) :
    Utf8.encode ("[" ++ text ++ "]") = 0x5b :: (Utf8.encode text ++ [0x5d]) := by
  rw [Utf8.encode_append, Utf8.encode_append]
  rfl

theorem encode_braces (text : String) :
    Utf8.encode ("\x7b" ++ text ++ "\x7d") = 0x7b :: (Utf8.encode text ++ [0x7d]) := by
  rw [Utf8.encode_append, Utf8.encode_append]
  rfl

/-- A member has at most blanks behind the colon. -/
theorem spellsMember_of_spells (name gap : String) {text : String} {value : Json}
    (hGap : Blanks (Utf8.encode gap)) (h : Spells value (Utf8.encode text)) :
    SpellsMember (name, value) (Utf8.encode (quote name ++ (":" ++ gap) ++ text)) := by
  have hSplit : Utf8.encode (quote name ++ (":" ++ gap) ++ text) = 0x22 :: (quoted name.toList ++
      0x22 :: ([] ++ 0x3a :: (Utf8.encode gap ++ Utf8.encode text))) := by
    simp only [Utf8.encode_append, encode_quote, List.cons_append, List.append_assoc]
    rfl
  rw [hSplit]
  exact .mk (spellsChars_quoted name.toList) blanks_nil hGap h

/-! ## Without blanks -/

mutual

theorem spells_render : (j : Json) → j.isIntegral = true → Spells j (Utf8.encode j.render)
  | .null, _ => .null
  | .bool true, _ => .true
  | .bool false, _ => .false
  | .num (.int i), h => by
    rw [isIntegral, Bool.and_eq_true, decide_eq_true_iff, decide_eq_true_iff] at h
    exact .int h.1 h.2
  | .str s, _ => spells_quote s
  | .arr [], _ => .emptyArr blanks_nil
  | .arr (item :: items), h => by
    have hRow := row_intercalate "" "" blanks_nil blanks_nil
      (indented_renderItems (item :: items) h)
    rw [String.empty_append, String.append_empty, String.append_empty] at hRow
    rw [render, encode_brackets]
    exact .arr hRow
  | .obj [], _ => .emptyObj blanks_nil
  | .obj (m :: ms), h => by
    have hRow := row_intercalate "" "" blanks_nil blanks_nil
      (indented_renderMembers (m :: ms) h)
    rw [String.empty_append, String.append_empty, String.append_empty] at hRow
    rw [render, encode_braces]
    exact .obj hRow

theorem indented_renderItems : (items : List Json) → isIntegralItems items = true →
    List.Forall₂ (Indented Spells) items (renderItems items)
  | [], _ => .nil
  | item :: items, h => by
    rw [isIntegralItems, Bool.and_eq_true] at h
    exact .cons (.of_spells (spells_render item h.1)) (indented_renderItems items h.2)

theorem indented_renderMembers : (ms : List (String × Json)) → isIntegralMembers ms = true →
    List.Forall₂ (Indented SpellsMember) ms (renderMembers ms)
  | [], _ => .nil
  | (name, value) :: ms, h => by
    rw [isIntegralMembers, Bool.and_eq_true] at h
    have hMember := spellsMember_of_spells name "" blanks_nil
      (spells_render value h.1)
    exact .cons (.of_spells hMember) (indented_renderMembers ms h.2)

end

/-! ## Over several lines -/

mutual

theorem spells_renderLines : (j : Json) → ∀ indent, j.isIntegral = true →
    Spells j (Utf8.encode (renderLines indent j))
  | .null, _, _ => .null
  | .bool true, _, _ => .true
  | .bool false, _, _ => .false
  | .num (.int i), _, h => spells_render (.num (.int i)) h
  | .str s, _, _ => spells_quote s
  | .arr [], _, _ => .emptyArr blanks_nil
  | .arr (item :: items), indent, h => by
    have hRow := row_intercalate _ _ blanks_newline (blanks_line indent)
      (indented_renderItemLines (item :: items) (indent + 2) h)
    have hLines : renderLines indent (.arr (item :: items)) =
        "[" ++ ("\n" ++ (("," ++ "\n").intercalate (renderItemLines (indent + 2) (item :: items)) ++
          ("\n" ++ "".pushn ' ' indent))) ++ "]" := by
      rw [renderLines]
      · simp only [← String.append_assoc]
        rfl
      · nofun
    rw [hLines, encode_brackets]
    exact .arr hRow
  | .obj [], _, _ => .emptyObj blanks_nil
  | .obj (m :: ms), indent, h => by
    have hRow := row_intercalate _ _ blanks_newline (blanks_line indent)
      (indented_renderMemberLines (m :: ms) (indent + 2) h)
    have hLines : renderLines indent (.obj (m :: ms)) =
        "\x7b" ++ ("\n" ++ (("," ++ "\n").intercalate (renderMemberLines (indent + 2) (m :: ms)) ++
          ("\n" ++ "".pushn ' ' indent))) ++ "\x7d" := by
      rw [renderLines]
      · simp only [← String.append_assoc]
        rfl
      · nofun
    rw [hLines, encode_braces]
    exact .obj hRow

theorem indented_renderItemLines : (items : List Json) → ∀ indent, isIntegralItems items = true →
    List.Forall₂ (Indented Spells) items (renderItemLines indent items)
  | [], _, _ => .nil
  | item :: items, indent, h => by
    rw [isIntegralItems, Bool.and_eq_true] at h
    exact .cons ⟨_, _, blanks_indent indent, spells_renderLines item indent h.1,
      Utf8.encode_append _ _⟩ (indented_renderItemLines items indent h.2)

theorem indented_renderMemberLines : (ms : List (String × Json)) → ∀ indent,
    isIntegralMembers ms = true →
    List.Forall₂ (Indented SpellsMember) ms (renderMemberLines indent ms)
  | [], _, _ => .nil
  | (name, value) :: ms, indent, h => by
    rw [isIntegralMembers, Bool.and_eq_true] at h
    have hMember := spellsMember_of_spells name " " blanks_space
      (spells_renderLines value indent h.1)
    refine .cons ⟨_, _, blanks_indent indent, hMember, ?_⟩
      (indented_renderMemberLines ms indent h.2)
    rw [← Utf8.encode_append, ← String.append_assoc, ← String.append_assoc]
    rfl

end

theorem spells_pretty {j : Json} (h : j.isIntegral = true) : Spells j (Utf8.encode j.pretty) :=
  spells_renderLines j 0 h

end Mintage.Json
