import Mintage.Identity
import Mintage.Proofs.Hex

/-!
# Proofs: texts of identities

A text of a kind is a prefix that the kind accepts and 64 digits. Several prefixes may stand in
front of one text, but then the longer one goes on with a character that is no digit; so it does
not matter for success which one is taken, and for the errors it is always the longest. No prefix
of one kind stands in front of a prefix of the other, so a text has one kind at most.
-/

namespace Mintage.Identity

/-! ## Prefixes -/

theorem stripPrefix?_eq_some_iff {start text rest : List Char} :
    stripPrefix? start text = some rest ↔ text = start ++ rest := by
  induction start generalizing text with
  | nil => simp [stripPrefix?, eq_comm]
  | cons a as ih =>
    cases text with
    | nil => simp [stripPrefix?]
    | cons b bs =>
      unfold stripPrefix?
      by_cases h : a = b
      · rw [if_pos h, ih, h, List.cons_append, List.cons.injEq]
        simp
      · rw [if_neg h, List.cons_append, List.cons.injEq]
        simp [Ne.symm h]

/-- The first of two texts stands in front of the second one. -/
def Begins (p text : String) : Prop := p.toList <+: text.toList

instance (p text : String) : Decidable (Begins p text) := inferInstanceAs (Decidable (_ <+: _))

theorem begins_iff {p text : String} : Begins p text ↔ ∃ rest, text = p ++ rest := by
  constructor
  · rintro ⟨rest, h⟩
    refine ⟨String.ofList rest, String.toList_inj.mp ?_⟩
    rw [String.toList_append, String.toList_ofList, h]
  · rintro ⟨rest, rfl⟩
    exact ⟨rest.toList, (String.toList_append ..).symm⟩

theorem stripPrefix?_isSome_iff {p text : String} :
    (stripPrefix? p.toList text.toList).isSome ↔ Begins p text := by
  rw [Option.isSome_iff_exists]
  simp only [stripPrefix?_eq_some_iff, Begins, List.prefix_iff_exists_eq_append]

/-- One of two prefixes of a text stands in front of the other. -/
theorem Begins.total {p q text : String} (hp : Begins p text) (hq : Begins q text) :
    Begins p q ∨ Begins q p := List.prefix_or_prefix_of_prefix hp hq

theorem pairwise_acceptedPrefixes (kind : Kind) :
    kind.acceptedPrefixes.Pairwise fun p q => q.length < p.length := by
  cases kind with
  | account => decide
  | contract => decide

/-- An accepted prefix stands in front of a longer one of its kind only, and that goes on with
more than digits. -/
theorem eq_or_goes_on {k k' : Kind} {p q : String} (hp : p ∈ k.acceptedPrefixes)
    (hq : q ∈ k'.acceptedPrefixes) (h : Begins p q) :
    k = k' ∧ (p = q ∨ ∃ c ∈ q.toList.drop p.toList.length, c ∉ Hex.alphabet) := by
  have table : ∀ k ∈ [Kind.account, .contract], ∀ k' ∈ [Kind.account, .contract],
      ∀ p ∈ k.acceptedPrefixes, ∀ q ∈ k'.acceptedPrefixes, Begins p q → k = k' ∧
        (p = q ∨ (q.toList.drop p.toList.length).any fun c => c ∉ Hex.alphabet) := by
    decide +kernel
  have kinds : ∀ k : Kind, k ∈ [Kind.account, .contract] := by
    intro k
    cases k with
    | account => decide
    | contract => decide
  obtain ⟨hKind, hEq | hOther⟩ := table k (kinds k) k' (kinds k') p hp q hq h
  · exact ⟨hKind, .inl hEq⟩
  · obtain ⟨c, hc, hAlphabet⟩ := List.any_eq_true.mp hOther
    exact ⟨hKind, .inr ⟨c, hc, of_decide_eq_true hAlphabet⟩⟩

theorem kind_unique {k k' : Kind} {p q text : String} (hp : p ∈ k.acceptedPrefixes)
    (hq : q ∈ k'.acceptedPrefixes) (hBegins : Begins p text) (hBegins' : Begins q text) :
    k = k' := by
  rcases hBegins.total hBegins' with h | h
  · exact (eq_or_goes_on hp hq h).1
  · exact (eq_or_goes_on hq hp h).1.symm

/-! ## The longest prefix -/

variable {kind : Kind} {text rest : String}

/-- `rest` stands in the text behind the longest of the accepted prefixes that begin it. -/
def Behind (kind : Kind) (text rest : String) : Prop :=
  ∃ p ∈ kind.acceptedPrefixes, text = p ++ rest ∧
    ∀ q ∈ kind.acceptedPrefixes, Begins q text → q.length ≤ p.length

theorem Behind.unique {rest' : String} (h : Behind kind text rest)
    (h' : Behind kind text rest') : rest = rest' := by
  obtain ⟨p, hp, hText, hLongest⟩ := h
  obtain ⟨q, hq, hText', hLongest'⟩ := h'
  have hLength : q.length = p.length :=
    Nat.le_antisymm (hLongest q hq (begins_iff.mpr ⟨_, hText'⟩))
      (hLongest' p hp (begins_iff.mpr ⟨_, hText⟩))
  have hBoth := congrArg String.toList (hText.symm.trans hText')
  rw [String.toList_append, String.toList_append] at hBoth
  rw [← String.length_toList, ← String.length_toList] at hLength
  exact String.toList_inj.mp (List.append_inj hBoth hLength.symm).2

/-- What stands behind the prefix that is taken. -/
def digits? (kind : Kind) (text : String) : Option (List Char) :=
  kind.acceptedPrefixes.findSome? fun p => stripPrefix? p.toList text.toList

theorem digits?_eq_none_iff :
    digits? kind text = none ↔ ∀ p ∈ kind.acceptedPrefixes, ¬ Begins p text := by
  rw [digits?, List.findSome?_eq_none_iff]
  refine forall₂_congr fun p hp => ?_
  rw [← stripPrefix?_isSome_iff, Option.not_isSome_iff_eq_none]

/-- The prefix that is taken is the longest one. -/
theorem digits?_eq_some_iff {digits : List Char} :
    digits? kind text = some digits ↔ Behind kind text (String.ofList digits) := by
  have longest : ∀ digits, digits? kind text = some digits →
      Behind kind text (String.ofList digits) := by
    intro digits h
    -- Prefixes before the one that is taken do not match, and those after it are shorter.
    obtain ⟨before, p, after, hTable, hText, hBefore⟩ := List.findSome?_eq_some_iff.mp h
    rw [stripPrefix?_eq_some_iff] at hText
    refine ⟨p, by simp [hTable], String.toList_inj.mp ?_, fun q hq hBegins => ?_⟩
    · rw [hText, String.toList_append, String.toList_ofList]
    rw [hTable, List.mem_append, List.mem_cons] at hq
    have hOrder := pairwise_acceptedPrefixes kind
    rw [hTable, List.pairwise_append, List.pairwise_cons] at hOrder
    rcases hq with hq | rfl | hq
    · have hSome := stripPrefix?_isSome_iff.mpr hBegins
      rw [hBefore q hq] at hSome
      cases hSome
    · exact Nat.le_refl _
    · exact Nat.le_of_lt (hOrder.2.1.1 q hq)
  refine ⟨longest digits, fun h => ?_⟩
  cases hTaken : digits? kind text with
  | none =>
    obtain ⟨p, hp, hText, -⟩ := h
    exact absurd (begins_iff.mpr ⟨_, hText⟩) (digits?_eq_none_iff.mp hTaken p hp)
  | some digits' => rw [String.ofList_inj.mp ((longest digits' hTaken).unique h)]

/-! ## Reading -/

theorem decode_of_fault {fault : Hex.Error} (h : Behind kind text rest)
    (hRead : Hex.decode rest = .error fault) :
    decode text kind = .error (.invalidHex text fault) := by
  rw [← String.ofList_toList (s := rest)] at h hRead
  have hTaken := digits?_eq_some_iff.mpr h
  rw [digits?] at hTaken
  simp only [decode, decodeHash, hTaken, pure_bind, hRead]
  rfl

theorem decode_of_bytes {bs : Bytes} (h : Behind kind text rest)
    (hRead : Hex.decode rest = .ok bs) :
    decode text kind =
      if h : bs.length = 32 then .ok ⟨kind, bs, h⟩ else .error (.wrongLength text bs.length) := by
  rw [← String.ofList_toList (s := rest)] at h hRead
  have hTaken := digits?_eq_some_iff.mpr h
  rw [digits?] at hTaken
  simp only [decode, decodeHash, hTaken, pure_bind, hRead, Block.ofBytes?]
  by_cases hLength : bs.length = 32
  · simp only [dif_pos hLength, pure_bind]
    rfl
  · simp only [dif_neg hLength]
    rfl

theorem decode_of_forall_not_begins (h : ∀ p ∈ kind.acceptedPrefixes, ¬ Begins p text) :
    decode text kind = .error (.wrongPrefix kind text) := by
  have hNone := digits?_eq_none_iff.mpr h
  rw [digits?] at hNone
  simp only [decode, decodeHash, hNone]
  rfl

theorem exists_behind_or (kind : Kind) (text : String) :
    (∃ rest, Behind kind text rest) ∨ ∀ p ∈ kind.acceptedPrefixes, ¬ Begins p text := by
  cases hTaken : digits? kind text with
  | none => exact .inr (digits?_eq_none_iff.mp hTaken)
  | some digits => exact .inl ⟨_, digits?_eq_some_iff.mp hTaken⟩

/-- Why a text is refused: no prefix of the kind stands in front, or behind the longest one stands
no hexadecimal text, or one of another length. -/
inductive Refused (kind : Kind) (text : String) : Error → Prop
  | wrongPrefix (other : ∀ p ∈ kind.acceptedPrefixes, ¬ Begins p text) :
      Refused kind text (.wrongPrefix kind text)
  | invalidHex {rest : String} {fault : Hex.Error} (behind : Behind kind text rest)
      (bytes : Hex.Fault (Utf8.encode rest) fault) : Refused kind text (.invalidHex text fault)
  | wrongLength {rest : String} (behind : Behind kind text rest)
      (digits : ∀ c ∈ rest.toList, c ∈ Hex.alphabet) (even : rest.length % 2 = 0)
      (other : rest.length ≠ 64) : Refused kind text (.wrongLength text (rest.length / 2))

theorem decode_eq_ok_iff_of_behind (h : Behind kind text rest) {i : Identity} :
    decode text kind = .ok i ↔
      i.kind = kind ∧ rest.toList.map Char.toLower = Hex.encodeChars i.hash.bytes := by
  rw [← Hex.decode_eq_ok_iff]
  cases hRead : Hex.decode rest with
  | error fault => simp [decode_of_fault h hRead]
  | ok bs =>
    rw [decode_of_bytes h hRead]
    by_cases hLength : bs.length = 32
    · rw [dif_pos hLength]
      constructor
      · intro h
        cases h
        exact ⟨rfl, rfl⟩
      · rintro ⟨rfl, hBytes⟩
        obtain rfl := Except.ok.inj hBytes
        rfl
    · rw [dif_neg hLength]
      constructor
      · intro h
        cases h
      · rintro ⟨-, hBytes⟩
        rw [Except.ok.inj hBytes, i.hash.length_bytes] at hLength
        exact absurd rfl hLength

theorem length_of_decode {bs : Bytes} (h : Hex.decode rest = .ok bs) :
    rest.length = 2 * bs.length ∧ ∀ c ∈ rest.toList, c ∈ Hex.alphabet := by
  have hDigits := Hex.exists_toLower_eq_encodeChars_iff.mp ⟨bs, rfl, Hex.decode_eq_ok_iff.mp h⟩
  rwa [String.length_toList] at hDigits

theorem decode_eq_error_iff {e : Error} :
    decode text kind = .error e ↔ Refused kind text e := by
  constructor
  · intro h
    rcases exists_behind_or kind text with ⟨rest, hBehind⟩ | hNone
    · cases hRead : Hex.decode rest with
      | error fault =>
        rw [decode_of_fault hBehind hRead] at h
        cases h
        exact .invalidHex hBehind (Hex.decode_eq_error_iff.mp hRead)
      | ok bs =>
        obtain ⟨hLength, hDigits⟩ := length_of_decode hRead
        rw [decode_of_bytes hBehind hRead] at h
        split at h
        · cases h
        · cases h
          have hHalf : bs.length = rest.length / 2 := by omega
          rw [hHalf]
          exact .wrongLength hBehind hDigits (by omega) (by omega)
    · rw [decode_of_forall_not_begins hNone] at h
      cases h
      exact .wrongPrefix hNone
  · intro h
    cases h with
    | wrongPrefix other => exact decode_of_forall_not_begins other
    | invalidHex behind bytes => exact decode_of_fault behind (Hex.decode_eq_error_iff.mpr bytes)
    | @wrongLength rest behind digits even other =>
      have hLength : rest.toList.length = 2 * (rest.length / 2) := by
        rw [String.length_toList]
        omega
      obtain ⟨bs, hHalf, hRead⟩ := Hex.exists_toLower_eq_encodeChars_iff.mpr ⟨hLength, digits⟩
      rw [decode_of_bytes behind (Hex.decode_eq_ok_iff.mpr hRead), dif_neg (by omega), hHalf]

/-- Digits stand behind the longest prefix, whichever prefix stands in front of them. -/
theorem behind_of_digits {p digits : String} (hp : p ∈ kind.acceptedPrefixes)
    (hDigits : ∀ c ∈ digits.toList, c ∈ Hex.alphabet) : Behind kind (p ++ digits) digits := by
  refine ⟨p, hp, rfl, fun q hq hBegins => ?_⟩
  rcases Begins.total hBegins (begins_iff.mpr ⟨digits, rfl⟩) with hShorter | hLonger
  · have hLength := hShorter.length_le
    rwa [String.length_toList, String.length_toList] at hLength
  · obtain ⟨-, rfl | ⟨c, hc, hOther⟩⟩ := eq_or_goes_on hp hq hLonger
    · exact Nat.le_refl _
    · -- The rest of the longer prefix would stand among the digits.
      refine absurd (hDigits c ?_) hOther
      obtain ⟨rest, hText⟩ := hBegins
      obtain ⟨more, hMore⟩ := hLonger
      rw [← hMore, List.drop_left] at hc
      rw [← hMore, String.toList_append, List.append_assoc, List.append_cancel_left_eq] at hText
      rw [← hText]
      exact List.mem_append_left _ hc

/-- A text of a kind is an accepted prefix and the digits of the hash, in letters of either
case. -/
theorem decode_eq_ok_iff {i : Identity} :
    decode text kind = .ok i ↔ i.kind = kind ∧ ∃ p ∈ kind.acceptedPrefixes, ∃ digits,
      text = p ++ digits ∧ digits.length = 64 ∧
        digits.toList.map Char.toLower = Hex.encodeChars i.hash.bytes := by
  constructor
  · intro h
    rcases exists_behind_or kind text with ⟨rest, hBehind⟩ | hNone
    · obtain ⟨hKind, hDigits⟩ := (decode_eq_ok_iff_of_behind hBehind).mp h
      obtain ⟨p, hp, hText, -⟩ := hBehind
      have hLength := (length_of_decode (Hex.decode_eq_ok_iff.mpr hDigits)).1
      rw [i.hash.length_bytes] at hLength
      exact ⟨hKind, p, hp, rest, hText, hLength, hDigits⟩
    · rw [decode_of_forall_not_begins hNone] at h
      cases h
  · rintro ⟨hKind, p, hp, digits, rfl, -, hDigits⟩
    have hAll := (length_of_decode (Hex.decode_eq_ok_iff.mpr hDigits)).2
    exact (decode_eq_ok_iff_of_behind (behind_of_digits hp hAll)).mpr ⟨hKind, hDigits⟩

theorem exists_begins_of_decode {i : Identity} (h : decode text kind = .ok i) :
    i.kind = kind ∧ ∃ p ∈ kind.acceptedPrefixes, Begins p text := by
  obtain ⟨hKind, p, hp, digits, hText, -⟩ := decode_eq_ok_iff.mp h
  exact ⟨hKind, p, hp, begins_iff.mpr ⟨digits, hText⟩⟩

/-- Without its kind a text is read as the identity that it is read as with its kind. -/
theorem parse_eq_ok_iff {i : Identity} :
    parse text = .ok i ↔ decode text i.kind = .ok i := by
  unfold parse
  split
  · rename_i hAccount
    rw [stripPrefix?_isSome_iff] at hAccount
    have hAccepted : accountPrefix ∈ Kind.account.acceptedPrefixes := List.mem_singleton_self _
    constructor
    · intro h
      rwa [(exists_begins_of_decode h).1]
    · intro h
      obtain ⟨p, hp, hBegins⟩ := (exists_begins_of_decode h).2
      rwa [kind_unique hAccepted hp hAccount hBegins]
  · rename_i hOther
    rw [stripPrefix?_isSome_iff] at hOther
    constructor
    · intro h
      rwa [(exists_begins_of_decode h).1]
    · intro h
      obtain ⟨p, hp, hBegins⟩ := (exists_begins_of_decode h).2
      cases hKind : i.kind with
      | account =>
        rw [hKind, Kind.acceptedPrefixes, List.mem_singleton] at hp
        exact absurd (hp ▸ hBegins) hOther
      | contract => rwa [hKind] at h

theorem decode_text (i : Identity) : decode i.text i.kind = .ok i := by
  have hWritten : i.kind.writtenPrefix ∈ i.kind.acceptedPrefixes := by
    cases i.kind with
    | account => decide
    | contract => decide
  have hRead := Hex.decode_encode i.hash.bytes
  have hLength := (length_of_decode hRead).1
  rw [i.hash.length_bytes] at hLength
  exact decode_eq_ok_iff.mpr ⟨rfl, _, hWritten, _, rfl, hLength, Hex.decode_eq_ok_iff.mp hRead⟩

theorem exists_decode_eq_ok_iff :
    (∃ i, decode text kind = .ok i) ↔ ∃ p ∈ kind.acceptedPrefixes, ∃ digits : String,
      text = p ++ digits ∧ digits.length = 64 ∧ ∀ c ∈ digits.toList, c ∈ Hex.alphabet := by
  constructor
  · rintro ⟨i, h⟩
    obtain ⟨-, p, hp, digits, hText, hLength, hDigits⟩ := decode_eq_ok_iff.mp h
    have hAll := (length_of_decode (Hex.decode_eq_ok_iff.mpr hDigits)).2
    exact ⟨p, hp, digits, hText, hLength, hAll⟩
  · rintro ⟨p, hp, digits, hText, hLength, hAll⟩
    have hTwice : digits.toList.length = 2 * 32 := by rw [String.length_toList, hLength]
    obtain ⟨bs, hbs, hDigits⟩ := Hex.exists_toLower_eq_encodeChars_iff.mpr ⟨hTwice, hAll⟩
    exact ⟨⟨kind, bs, hbs⟩, decode_eq_ok_iff.mpr ⟨rfl, p, hp, digits, hText, hLength, hDigits⟩⟩

theorem exists_decode_eq_invalidHex_iff :
    (∃ fault, decode text kind = .error (.invalidHex text fault)) ↔
      ∃ rest, Behind kind text rest ∧ ((Utf8.encode rest).length % 2 = 1 ∨
        ∃ b ∈ Utf8.encode rest, ¬ Hex.IsDigit b) := by
  simp only [decode_eq_error_iff, ← Hex.exists_fault_iff]
  constructor
  · rintro ⟨fault, h⟩
    cases h with
    | invalidHex behind bytes => exact ⟨_, behind, fault, bytes⟩
  · rintro ⟨rest, behind, fault, bytes⟩
    exact ⟨fault, .invalidHex behind bytes⟩

/-- Texts of identities have one grammar: a text of a kind is an accepted prefix and 64 digits of
either case, which are those of the hash. Any other text is refused with the reason that it has,
as seen behind the longest prefix. No text is of both kinds, the kind can be told from the text,
and what is written is read back. -/
theorem decoded_by_one_grammar (text : String) (kind : Kind) :
    (∀ i, decode text kind = .ok i ↔ i.kind = kind ∧ ∃ p ∈ kind.acceptedPrefixes, ∃ digits,
      text = p ++ digits ∧ digits.length = 64 ∧
        digits.toList.map Char.toLower = Hex.encodeChars i.hash.bytes) ∧
    ((∃ i, decode text kind = .ok i) ↔ ∃ p ∈ kind.acceptedPrefixes, ∃ digits : String,
      text = p ++ digits ∧ digits.length = 64 ∧ ∀ c ∈ digits.toList, c ∈ Hex.alphabet) ∧
    (∀ e, decode text kind = .error e ↔ Refused kind text e) ∧
    ((∃ fault, decode text kind = .error (.invalidHex text fault)) ↔
      ∃ rest, Behind kind text rest ∧ ((Utf8.encode rest).length % 2 = 1 ∨
        ∃ b ∈ Utf8.encode rest, ¬ Hex.IsDigit b)) ∧
    (¬ ∃ i j, decode text .account = .ok i ∧ decode text .contract = .ok j) ∧
    (∀ i, parse text = .ok i ↔ decode text i.kind = .ok i) ∧
    (∀ i, decode i.text i.kind = .ok i) := by
  refine ⟨fun i => decode_eq_ok_iff, exists_decode_eq_ok_iff, fun e => decode_eq_error_iff,
    exists_decode_eq_invalidHex_iff, ?_, fun i => parse_eq_ok_iff, decode_text⟩
  rintro ⟨i, j, hAccount, hContract⟩
  obtain ⟨p, hp, hBegins⟩ := (exists_begins_of_decode hAccount).2
  obtain ⟨q, hq, hBegins'⟩ := (exists_begins_of_decode hContract).2
  cases kind_unique hp hq hBegins hBegins'

end Mintage.Identity
