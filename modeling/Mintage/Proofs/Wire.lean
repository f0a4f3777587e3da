import Mintage.Proofs.Bytes
import Mintage.Proofs.Outcome
import Mintage.Wire

/-!
# Proofs: exact decoders

A decoder is *exact* for an encoder if it takes a value off the front of its input in one case only:
where the encoding of that value stands there. Both directions matter. That encodings are read back
makes the encoder injective, also with other bytes behind the value; that nothing else is read makes
the binary form of a value unique. Exactness passes from the parts of a format to the whole, so it
is shown once for each building block.

Lengths take four bytes. A longer text, blob or list has no binary form, so each encoder comes with
the values that *fit*.
-/

namespace Mintage.Wire

variable {α β : Type}

/-! ## Running decoders -/

@[simp] theorem pure_eq_ok_iff {a b : α} {bs rest : Bytes} :
    (pure a : Decoder α) bs = .ok (b, rest) ↔ a = b ∧ bs = rest := by
  show (Except.ok (a, bs) : Except Error (α × Bytes)) = .ok (b, rest) ↔ _
  rw [Except.ok.injEq, Prod.mk.injEq]

@[simp] theorem throw_eq_ok_iff {e : Error} {x : α × Bytes} {bs : Bytes} :
    (throw e : Decoder α) bs = .ok x ↔ False := by
  show (Except.error e : Except Error (α × Bytes)) = .ok x ↔ False
  simp

/-- What goes on with a value and the bytes behind it has seen both. -/
theorem bind_pair_eq_ok_iff {x : Except Error (α × Bytes)}
    {f : α × Bytes → Except Error (β × Bytes)} {y : β × Bytes} :
    (x >>= f) = .ok y ↔ ∃ a mid, x = .ok (a, mid) ∧ f (a, mid) = .ok y := by
  rw [Outcome.bind_eq_ok_iff, Prod.exists]

theorem bind_eq_ok_iff {d : Decoder α} {f : α → Decoder β} {bs rest : Bytes} {b : β} :
    (d >>= f) bs = .ok (b, rest) ↔
      ∃ a mid, d bs = .ok (a, mid) ∧ f a mid = .ok (b, rest) :=
  bind_pair_eq_ok_iff

theorem bind_of_ok {d : Decoder α} {f : α → Decoder β} {bs mid : Bytes} {a : α}
    (h : d bs = .ok (a, mid)) : (d >>= f) bs = f a mid := by
  show (d bs >>= fun x => f x.1 x.2) = _
  rw [h]
  rfl

theorem bind_of_error {d : Decoder α} {f : α → Decoder β} {bs : Bytes} {e : Error}
    (h : d bs = .error e) : (d >>= f) bs = .error e := by
  show (d bs >>= fun x => f x.1 x.2) = _
  rw [h]
  rfl

theorem run_of_error {d : Decoder α} {bs : Bytes} {e : Error} (h : d bs = .error e) :
    d.run bs = .error e := by
  simp only [Decoder.run, h]

theorem run_eq_ok_iff {d : Decoder α} {bs : Bytes} {a : α} :
    d.run bs = .ok a ↔ d bs = .ok (a, []) := by
  unfold Decoder.run
  split
  · rename_i h
    simp [h]
  · rename_i h
    simp [h]
  · rename_i h
    simp [h]

/-- What is left over behind a value spoils the whole input. -/
theorem run_eq_trailingBytes {d : Decoder α} {bs rest : Bytes} {a : α} (h : d bs = .ok (a, rest))
    (hrest : rest ≠ []) : d.run bs = .error .trailingBytes := by
  cases rest with
  | nil => exact absurd rfl hrest
  | cons b rest => simp only [Decoder.run, h]

/-! ## Exactness -/

/-- The decoder takes `a` off the front if and only if `a` fits and its encoding stands there. -/
def Exact (Fits : α → Prop) (encode : α → Bytes) (decode : Decoder α) : Prop :=
  ∀ bs a rest, decode bs = .ok (a, rest) ↔ Fits a ∧ bs = encode a ++ rest

/-- The encodings of two values that fit are told apart from the front, whatever follows them. -/
def PrefixFree (Fits : α → Prop) (encode : α → Bytes) : Prop :=
  ∀ a b r s, Fits a → Fits b → encode a ++ r = encode b ++ s → a = b ∧ r = s

namespace PrefixFree

variable {Fits : α → Prop} {encode : α → Bytes} {Fits' : β → Prop} {encode' : β → Bytes}

theorem injective (h : PrefixFree Fits encode) {a b : α} (ha : Fits a) (hb : Fits b)
    (hEq : encode a = encode b) : a = b :=
  (h a b [] [] ha hb (by rw [hEq])).1

/-- Two values laid out one behind the other need nothing between them. -/
theorem append_injective (h : PrefixFree Fits encode) (h' : PrefixFree Fits' encode') {a b : α}
    {a' b' : β} (ha : Fits a) (hb : Fits b) (ha' : Fits' a') (hb' : Fits' b')
    (hEq : encode a ++ encode' a' = encode b ++ encode' b') : a = b ∧ a' = b' := by
  obtain ⟨hFirst, hSecond⟩ := h _ _ _ _ ha hb hEq
  exact ⟨hFirst, h'.injective ha' hb' hSecond⟩

end PrefixFree

/-- The decoder takes `a` off the front wherever `a` fits and its encoding stands there. It may read
`a` from other bytes as well. -/
def Restores (Fits : α → Prop) (encode : α → Bytes) (decode : Decoder α) : Prop :=
  ∀ a rest, Fits a → decode (encode a ++ rest) = .ok (a, rest)

namespace Exact

variable {Fits : α → Prop} {encode : α → Bytes} {decode : Decoder α}

theorem decode_append (h : Exact Fits encode decode) {a : α} (ha : Fits a) (rest : Bytes) :
    decode (encode a ++ rest) = .ok (a, rest) :=
  (h _ _ _).mpr ⟨ha, rfl⟩

theorem restores (h : Exact Fits encode decode) : Restores Fits encode decode := by
  intro a rest ha
  exact h.decode_append ha rest

/-- What a decoder undoes is prefix-free: both values stand at the front of one input. -/
theorem prefixFree (h : Exact Fits encode decode) : PrefixFree Fits encode := by
  intro a b r s ha hb hEq
  have hLeft := h.decode_append ha r
  rw [hEq, h.decode_append hb s] at hLeft
  cases hLeft
  exact ⟨rfl, rfl⟩

/-- A whole input is read as a value exactly if it is the encoding of that value. -/
theorem run_eq_ok_iff (h : Exact Fits encode decode) {bs : Bytes} {a : α} :
    decode.run bs = .ok a ↔ Fits a ∧ encode a = bs := by
  rw [Wire.run_eq_ok_iff, h bs a []]
  simp only [List.append_nil, eq_comm]

/-- What is cut off within an encoding is no encoding. -/
theorem run_truncated (h : Exact Fits encode decode) {a : α} {bs cs : Bytes} (ha : Fits a)
    (hEq : encode a = bs ++ cs) (hcs : cs ≠ []) : ∃ e, decode.run bs = .error e := by
  cases hRun : decode.run bs with
  | error e => exact ⟨e, rfl⟩
  | ok b =>
    obtain ⟨hb, rfl⟩ := h.run_eq_ok_iff.mp hRun
    obtain ⟨-, hNil⟩ := h.prefixFree a b [] cs ha hb (by rw [List.append_nil, hEq])
    exact absurd hNil.symm hcs

theorem run_extended (h : Exact Fits encode decode) {a : α} (ha : Fits a) {cs : Bytes}
    (hcs : cs ≠ []) : decode.run (encode a ++ cs) = .error .trailingBytes :=
  run_eq_trailingBytes (h.decode_append ha cs) hcs

end Exact

/-- What one decoder reads becomes one case of a value. -/
theorem map_eq_ok_iff {Fits : α → Prop} {encode : α → Bytes} {d : Decoder α}
    (h : Exact Fits encode d) {f : α → β} {bs rest : Bytes} {b : β} :
    (do return f (← d) : Decoder β) bs = .ok (b, rest) ↔
      ∃ a, f a = b ∧ Fits a ∧ bs = encode a ++ rest := by
  simp only [bind_eq_ok_iff, pure_eq_ok_iff]
  constructor
  · rintro ⟨a, mid, ha, rfl, rfl⟩
    exact ⟨a, rfl, (h _ _ _).mp ha⟩
  · rintro ⟨a, rfl, ha⟩
    exact ⟨a, rest, (h _ _ _).mpr ha, rfl, rfl⟩

/-! ## Building blocks -/

theorem splitBytes?_eq_some_iff {n : Nat} {bs taken rest : Bytes} :
    splitBytes? n bs = some (taken, rest) ↔ taken.length = n ∧ bs = taken ++ rest := by
  induction n generalizing bs taken with
  | zero =>
    simp only [splitBytes?, Option.some.injEq, Prod.mk.injEq, List.length_eq_zero_iff]
    constructor
    · rintro ⟨rfl, rfl⟩
      exact ⟨rfl, rfl⟩
    · rintro ⟨rfl, rfl⟩
      exact ⟨rfl, rfl⟩
  | succ n ih =>
    cases bs with
    | nil =>
      simp only [splitBytes?, reduceCtorEq, false_iff, not_and]
      intro hLength hNil
      rw [(List.append_eq_nil_iff.mp hNil.symm).1] at hLength
      cases hLength
    | cons b bs =>
      simp only [splitBytes?, Option.map_eq_some_iff, Prod.mk.injEq, Prod.exists]
      constructor
      · rintro ⟨taken, rest, hSplit, rfl, rfl⟩
        obtain ⟨rfl, rfl⟩ := ih.mp hSplit
        exact ⟨rfl, rfl⟩
      · rintro ⟨hLength, hEq⟩
        cases taken with
        | nil => cases hLength
        | cons c taken =>
          rw [List.cons_append, List.cons.injEq] at hEq
          obtain ⟨rfl, rfl⟩ := hEq
          exact ⟨taken, rest, ih.mpr ⟨by simpa using hLength, rfl⟩, rfl, rfl⟩

theorem exact_decodeByte : Exact (fun _ => True) (fun b => [b]) decodeByte := by
  intro bs b rest
  cases bs with
  | nil => simp [decodeByte]
  | cons c bs => simp [decodeByte]

theorem exact_decodeBool : Exact (fun _ => True) encodeBool decodeBool := by
  intro bs b rest
  rw [decodeBool, bind_eq_ok_iff]
  constructor
  · rintro ⟨tag, mid, hTag, hValue⟩
    obtain ⟨-, rfl⟩ := (exact_decodeByte _ _ _).mp hTag
    split at hValue
    · obtain ⟨rfl, rfl⟩ := pure_eq_ok_iff.mp hValue
      exact ⟨trivial, rfl⟩
    · obtain ⟨rfl, rfl⟩ := pure_eq_ok_iff.mp hValue
      exact ⟨trivial, rfl⟩
    · exact absurd hValue (by simp)
  · rintro ⟨-, rfl⟩
    cases b with
    | false => exact ⟨0, rest, rfl, rfl⟩
    | true => exact ⟨1, rest, rfl, rfl⟩

theorem exact_decodeBytesOr (short : Error) (n : Nat) :
    Exact (·.length = n) id (decodeBytesOr short n) := by
  intro bs taken rest
  rw [id_eq, ← splitBytes?_eq_some_iff]
  unfold decodeBytesOr
  split
  · rename_i split hSplit
    simp [hSplit]
  · rename_i hSplit
    simp [hSplit]

theorem exact_decodeBlock (n : Nat) : Exact (fun _ => True) Block.bytes (decodeBlock n) := by
  intro bs block rest
  rw [decodeBlock, bind_eq_ok_iff]
  constructor
  · rintro ⟨taken, mid, hTaken, hBlock⟩
    obtain ⟨-, rfl⟩ := (exact_decodeBytesOr _ n _ _ _).mp hTaken
    cases hSome : Block.ofBytes? n taken with
    | none => simp [hSome] at hBlock
    | some found =>
      rw [hSome] at hBlock
      obtain ⟨rfl, rfl⟩ := pure_eq_ok_iff.mp hBlock
      rw [Block.ofBytes?_eq_some_iff.mp hSome]
      exact ⟨trivial, rfl⟩
  · rintro ⟨-, rfl⟩
    refine ⟨block.bytes, rest, (exact_decodeBytesOr _ n).decode_append block.length_bytes rest, ?_⟩
    rw [Block.ofBytes?_bytes]
    exact pure_eq_ok_iff.mpr ⟨rfl, rfl⟩

/-- A number of fixed width, laid out in as many bytes as its reader takes. -/
theorem exact_littleEndian {width : Nat} {ofNat : Nat → α} {toNat : α → Nat}
    (ofNat_toNat : ∀ a, ofNat (toNat a) = a)
    (toNat_ofNat : ∀ n, n < 256 ^ width → toNat (ofNat n) = n)
    (toNat_lt : ∀ a, toNat a < 256 ^ width) :
    Exact (fun _ => True) (fun a => littleEndian width (toNat a))
      (do return ofNat (ofLittleEndian (← decodeBytes width))) := by
  intro bs a rest
  rw [decodeBytes, map_eq_ok_iff (exact_decodeBytesOr _ width)]
  constructor
  · rintro ⟨taken, rfl, hTaken, rfl⟩
    refine ⟨trivial, ?_⟩
    have hNumber : ofLittleEndian taken < 256 ^ width := hTaken ▸ ofLittleEndian_lt taken
    dsimp only
    rw [toNat_ofNat _ hNumber, ← hTaken, littleEndian_ofLittleEndian]
    rfl
  · rintro ⟨-, rfl⟩
    refine ⟨littleEndian width (toNat a), ?_, length_littleEndian _ _, rfl⟩
    rw [ofLittleEndian_littleEndian, Nat.mod_eq_of_lt (toNat_lt a), ofNat_toNat]

theorem exact_decodeU32 : Exact (fun _ => True) encodeU32 decodeU32 :=
  exact_littleEndian (fun _ => UInt32.ofNat_toNat) (fun _ h => UInt32.toNat_ofNat_of_lt' h)
    UInt32.toNat_lt

theorem exact_decodeU64 : Exact (fun _ => True) encodeU64 decodeU64 :=
  exact_littleEndian (fun _ => UInt64.ofNat_toNat) (fun _ h => UInt64.toNat_ofNat_of_lt' h)
    UInt64.toNat_lt

/-- What fits behind a length of four bytes. -/
def LengthFits (n : Nat) : Prop := n < 2 ^ 32

instance (n : Nat) : Decidable (LengthFits n) := inferInstanceAs (Decidable (n < 2 ^ 32))

theorem LengthFits.mono {m n : Nat} (hmn : m ≤ n) (hn : LengthFits n) : LengthFits m :=
  Nat.lt_of_le_of_lt hmn hn

theorem length_encodeLength (n : Nat) : (encodeLength n).length = 4 := length_littleEndian 4 n

theorem encodeLength_toNat (n : UInt32) : encodeLength n.toNat = encodeU32 n := rfl

/-- A length is written as the number of 32 bits that it is, if it fits. -/
theorem encodeLength_eq {n : Nat} (hn : LengthFits n) :
    encodeLength n = encodeU32 (UInt32.ofNat n) := by
  rw [← encodeLength_toNat, UInt32.toNat_ofNat_of_lt' hn]

/-- A format that begins with a length: how many bytes or items follow is read first. -/
theorem exact_length (Fits : Nat → α → Prop) (length : α → Nat) {encode : α → Bytes}
    {decode : Nat → Decoder α} (hFits : ∀ n a, Fits n a → length a = n)
    (h : ∀ n, Exact (Fits n) encode (decode n)) :
    Exact (fun a => LengthFits (length a) ∧ Fits (length a) a)
      (fun a => encodeLength (length a) ++ encode a)
      (do decode (← decodeU32).toNat) := by
  intro bs a rest
  rw [bind_eq_ok_iff]
  constructor
  · rintro ⟨n, mid, hLength, hBody⟩
    obtain ⟨-, rfl⟩ := (exact_decodeU32 _ _ _).mp hLength
    obtain ⟨ha, rfl⟩ := (h _ _ _ _).mp hBody
    dsimp only
    rw [hFits _ _ ha, encodeLength_toNat, List.append_assoc]
    exact ⟨⟨n.toNat_lt, ha⟩, rfl⟩
  · rintro ⟨⟨hLength, ha⟩, rfl⟩
    refine ⟨UInt32.ofNat (length a), encode a ++ rest, ?_, ?_⟩
    · rw [List.append_assoc, encodeLength_eq hLength]
      exact exact_decodeU32.decode_append trivial _
    · rw [UInt32.toNat_ofNat_of_lt' hLength]
      exact (h _).decode_append ha rest

theorem exact_decodeBlob : Exact (fun bs => LengthFits bs.length) encodeBlob decodeBlob := by
  intro bs blob rest
  have h := exact_length (fun n bs => bs.length = n) List.length (fun _ _ h => h)
    (exact_decodeBytesOr .unexpectedEnd) bs blob rest
  exact h.trans (and_congr_left fun _ => and_iff_left rfl)

theorem exact_decodeString :
    Exact (fun s => LengthFits (Utf8.encode s).length) encodeString decodeString := by
  intro bs s rest
  rw [decodeString, bind_eq_ok_iff]
  constructor
  · rintro ⟨blob, mid, hBlob, hText⟩
    obtain ⟨hLength, rfl⟩ := (exact_decodeBlob _ _ _).mp hBlob
    cases hDecode : Utf8.decode blob with
    | error fault => simp [hDecode] at hText
    | ok text =>
      rw [hDecode] at hText
      obtain ⟨rfl, rfl⟩ := pure_eq_ok_iff.mp hText
      obtain rfl := Utf8.decode_eq_ok_iff.mp hDecode
      exact ⟨hLength, rfl⟩
  · rintro ⟨hLength, rfl⟩
    refine ⟨Utf8.encode s, rest, exact_decodeBlob.decode_append hLength rest, ?_⟩
    rw [Utf8.decode_eq_ok_iff.mpr rfl]
    exact pure_eq_ok_iff.mpr ⟨rfl, rfl⟩

theorem decodeString_of_error {blob rest : Bytes} (hBlob : LengthFits blob.length)
    {fault : Utf8.Error} (hFault : Utf8.decode blob = .error fault) :
    decodeString (encodeBlob blob ++ rest) = .error (.invalidText fault) := by
  rw [decodeString, bind_of_ok (exact_decodeBlob.decode_append hBlob rest), hFault]
  rfl

section Lists

variable {Fits : α → Prop} {encode : α → Bytes} {decode : Decoder α}

/-- Items one behind the other are restored one by one. -/
theorem restores_decodeMany (h : Restores Fits encode decode) (n : Nat) :
    Restores (fun as => as.length = n ∧ ∀ a ∈ as, Fits a) (fun as => as.flatMap encode)
      (decodeMany decode n) := by
  induction n with
  | zero =>
    rintro as rest ⟨hLength, -⟩
    rw [List.length_eq_zero_iff.mp hLength]
    rfl
  | succ n ih =>
    rintro as rest ⟨hLength, has⟩
    cases as with
    | nil => cases hLength
    | cons a as =>
      obtain ⟨ha, has⟩ := List.forall_mem_cons.mp has
      have hHead := h a (as.flatMap encode ++ rest) ha
      have hTail : decodeMany decode n (as.flatMap encode ++ rest) = .ok (as, rest) :=
        ih as rest ⟨by simpa using hLength, has⟩
      dsimp only
      rw [List.flatMap_cons, List.append_assoc, decodeMany, bind_of_ok hHead, bind_of_ok hTail]
      rfl

/-- Nothing but items one behind the other is read; how many there are is known. -/
theorem exact_decodeMany (h : Exact Fits encode decode) (n : Nat) :
    Exact (fun as => as.length = n ∧ ∀ a ∈ as, Fits a) (fun as => as.flatMap encode)
      (decodeMany decode n) := by
  induction n with
  | zero =>
    intro bs as rest
    rw [decodeMany, pure_eq_ok_iff]
    constructor
    · rintro ⟨rfl, rfl⟩
      simp
    · rintro ⟨⟨hLength, -⟩, rfl⟩
      rw [List.length_eq_zero_iff.mp hLength]
      exact ⟨rfl, rfl⟩
  | succ n ih =>
    intro bs as rest
    simp only [decodeMany, bind_eq_ok_iff, pure_eq_ok_iff]
    constructor
    · rintro ⟨a, mid, hHead, as', rest', hTail, rfl, rfl⟩
      obtain ⟨ha, rfl⟩ := (h _ _ _).mp hHead
      obtain ⟨⟨hLength, has⟩, rfl⟩ := (ih _ _ _).mp hTail
      refine ⟨⟨by rw [List.length_cons, hLength], ?_⟩, by simp⟩
      exact List.forall_mem_cons.mpr ⟨ha, has⟩
    · rintro ⟨hFits, rfl⟩
      have hMany := restores_decodeMany h.restores (n + 1) as rest hFits
      simpa only [decodeMany, bind_eq_ok_iff, pure_eq_ok_iff] using hMany

/-- What cannot be read behind some items spoils the list. -/
theorem decodeMany_of_error (h : Exact Fits encode decode) {as : List α} (has : ∀ a ∈ as, Fits a)
    {n : Nat} (hn : as.length < n) {bs : Bytes} {e : Error} (he : decode bs = .error e) :
    decodeMany decode n (as.flatMap encode ++ bs) = .error e := by
  induction as generalizing n with
  | nil =>
    obtain ⟨n, rfl⟩ := Nat.exists_eq_add_one.mpr hn
    exact bind_of_error he
  | cons a as ih =>
    obtain ⟨n, rfl⟩ := Nat.exists_eq_add_one.mpr (Nat.zero_lt_of_lt hn)
    obtain ⟨ha, has⟩ := List.forall_mem_cons.mp has
    have hTail := ih has (Nat.lt_of_succ_lt_succ hn)
    rw [List.flatMap_cons, List.append_assoc, decodeMany,
      bind_of_ok (h.decode_append ha _), bind_of_error hTail]

theorem decodeList_of_error (h : Exact Fits encode decode) {as : List α} (has : ∀ a ∈ as, Fits a)
    {n : Nat} (hn : as.length < n) (hFits : LengthFits n) {bs : Bytes} {e : Error}
    (he : decode bs = .error e) :
    decodeList decode (encodeLength n ++ (as.flatMap encode ++ bs)) = .error e := by
  rw [decodeList, encodeLength_eq hFits, bind_of_ok (exact_decodeU32.decode_append trivial _),
    UInt32.toNat_ofNat_of_lt' hFits]
  exact decodeMany_of_error h has hn he

theorem restores_decodeList (h : Restores Fits encode decode) :
    Restores (fun as => LengthFits as.length ∧ ∀ a ∈ as, Fits a) (encodeList encode)
      (decodeList decode) := by
  rintro as rest ⟨hLength, has⟩
  rw [decodeList, encodeList, List.append_assoc, encodeLength_eq hLength,
    bind_of_ok (exact_decodeU32.decode_append trivial _), UInt32.toNat_ofNat_of_lt' hLength]
  exact restores_decodeMany h as.length as rest ⟨rfl, has⟩

theorem exact_decodeList (h : Exact Fits encode decode) :
    Exact (fun as => LengthFits as.length ∧ ∀ a ∈ as, Fits a) (encodeList encode)
      (decodeList decode) := by
  intro bs as rest
  have h := exact_length _ List.length (fun _ _ h => h.1) (exact_decodeMany h) bs as rest
  exact h.trans (and_congr_left fun _ => and_congr_right fun _ => and_iff_right rfl)

/-- Items that have bytes are no more than these bytes. -/
theorem length_le_length_flatMap (hNonempty : ∀ a, encode a ≠ []) (as : List α) :
    as.length ≤ (as.flatMap encode).length := by
  induction as with
  | nil => exact Nat.le_refl 0
  | cons a as ih =>
    have hPos : 0 < (encode a).length := List.length_pos_iff.mpr (hNonempty a)
    rw [List.flatMap_cons, List.length_append, List.length_cons]
    omega

theorem length_encode_le (encode : α → Bytes) {a : α} {as : List α} (ha : a ∈ as) :
    (encode a).length ≤ (as.flatMap encode).length :=
  (List.sublist_flatten_of_mem (List.mem_map_of_mem ha)).length_le

/-- Items that have bytes are told apart without their number. -/
theorem PrefixFree.flatMap_injective (h : PrefixFree (fun _ => True) encode)
    (hNonempty : ∀ a, encode a ≠ []) {as bs : List α}
    (hEq : as.flatMap encode = bs.flatMap encode) : as = bs := by
  induction as generalizing bs with
  | nil =>
    cases bs with
    | nil => rfl
    | cons b bs => exact absurd (List.append_eq_nil_iff.mp hEq.symm).1 (hNonempty b)
  | cons a as ih =>
    cases bs with
    | nil => exact absurd (List.append_eq_nil_iff.mp hEq).1 (hNonempty a)
    | cons b bs =>
      rw [List.flatMap_cons, List.flatMap_cons] at hEq
      obtain ⟨rfl, hRest⟩ := h a b _ _ trivial trivial hEq
      rw [ih hRest]

/-- Lists are told apart also where their number of items does not fit behind a length. -/
theorem PrefixFree.encodeList_injective (h : PrefixFree (fun _ => True) encode)
    (hNonempty : ∀ a, encode a ≠ []) {as bs : List α}
    (hEq : encodeList encode as = encodeList encode bs) : as = bs := by
  have hLength : (encodeLength as.length).length = (encodeLength bs.length).length := by
    rw [length_encodeLength, length_encodeLength]
  exact h.flatMap_injective hNonempty (List.append_inj hEq hLength).2

/-- The length of a list of items of one width. -/
theorem length_encodeList {width : Nat} {as : List α}
    (hWidth : ∀ a ∈ as, (encode a).length = width) :
    (encodeList encode as).length = 4 + as.length * width := by
  rw [encodeList, List.length_append, length_encodeLength, List.length_flatMap,
    List.map_congr_left hWidth, List.map_const', List.sum_replicate_nat]

end Lists

section Options

variable {Fits : α → Prop} {encode : α → Bytes} {decode : Decoder α}

theorem restores_decodeOption (h : Restores Fits encode decode) :
    Restores (fun x => ∀ a ∈ x, Fits a) (encodeOption encode) (decodeOption decode) := by
  intro x rest hx
  cases x with
  | none => rfl
  | some a =>
    have hByte : decodeByte (1 :: (encode a ++ rest)) = .ok (1, encode a ++ rest) := rfl
    rw [encodeOption, List.cons_append, decodeOption, bind_of_ok hByte]
    exact bind_of_ok (h a rest (hx a rfl))

theorem exact_decodeOption (h : Exact Fits encode decode) :
    Exact (fun x => ∀ a ∈ x, Fits a) (encodeOption encode) (decodeOption decode) := by
  intro bs x rest
  constructor
  · intro hOption
    obtain ⟨tag, mid, hTag, hContent⟩ := bind_eq_ok_iff.mp hOption
    obtain ⟨-, rfl⟩ := (exact_decodeByte _ _ _).mp hTag
    split at hContent
    · obtain ⟨rfl, rfl⟩ := pure_eq_ok_iff.mp hContent
      exact ⟨by simp, rfl⟩
    · obtain ⟨a, rfl, ha, rfl⟩ := (map_eq_ok_iff h).mp hContent
      exact ⟨by simpa using ha, rfl⟩
    · exact absurd hContent (by simp)
  · rintro ⟨hx, rfl⟩
    exact restores_decodeOption h.restores x rest hx

end Options

end Mintage.Wire
