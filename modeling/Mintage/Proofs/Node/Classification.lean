import Mintage.Proofs.Json.TypedForm
import Mintage.Proofs.Node.Reads

/-!
# Proofs: how replies of a node are classified

Each request of a client comes down to posts, and from the replies to them the client makes its
answer. A reported error outweighs a result. That a value is missing is told by the code of an error
together with certain words, in the message or in the data that comes with it, and only where the
value itself was asked for: what goes wrong before, when the hash of the present state is asked for,
is passed on as it is.

The words are looked for in lower case. Here that changes ASCII letters alone, which makes no
difference: whatever else lower case makes of a text has none of the letters that are looked for.
-/

namespace Mintage

open Json

/-! ## Words that are looked for -/

namespace NodeError

theorem occursIn_iff {text cs : List Char} : occursIn text cs = true ↔ text <:+: cs := by
  induction cs with
  | nil => rw [occursIn, List.isEmpty_iff, List.infix_nil]
  | cons c cs ih =>
    rw [occursIn, Bool.or_eq_true, List.isPrefixOf_iff_prefix, ih, List.infix_cons_iff]

/-- The characters of the words that say that a value is missing. -/
def soughtChars : List Char := ['v', 'a', 'l', 'u', 'e', 'n', 'o', 't', 'f', 'd', ' ']

/-- What becomes of a text in lower case. A letter beyond ASCII becomes one or more characters,
which may depend on the letters around it, but are none of those looked for. -/
inductive Lowered : List Char → List Char → Prop
  | nil : Lowered [] []
  | ascii {c : Char} {cs ds : List Char} : c.toNat < 128 → Lowered cs ds →
    Lowered (c :: cs) (c.toLower :: ds)
  | other {c : Char} {cs image ds : List Char} : 128 ≤ c.toNat → image ≠ [] →
    (∀ d ∈ image, d ∉ soughtChars) → Lowered cs ds → Lowered (c :: cs) (image ++ ds)

theorem toLower_of_not_ascii {c : Char} (h : 128 ≤ c.toNat) : c.toLower = c := by
  have hNotUpper : ¬ (c.val ≥ 'A'.val ∧ c.val ≤ 'Z'.val) := by
    rintro ⟨-, hLe⟩
    have hNat : c.toNat ≤ 90 := UInt32.le_iff_toNat_le.mp hLe
    omega
  exact dif_neg hNotUpper

theorem apart_of_not_ascii {c : Char} (h : 128 ≤ c.toNat) : ∀ d ∈ [c], d ∉ soughtChars := by
  have hAscii : ∀ d ∈ soughtChars, d.toNat < 128 := by simp [soughtChars]
  intro d hd hSought
  obtain rfl := List.mem_singleton.mp hd
  exact absurd (hAscii d hSought) (Nat.not_lt.mpr h)

variable {text cs ds image : List Char}

/-- A text that begins with one of these characters does not begin with any other. -/
theorem not_prefix_of_apart (hText : text ≠ []) (hSought : ∀ c ∈ text, c ∈ soughtChars)
    (hImage : image ≠ []) (hApart : ∀ d ∈ image, d ∉ soughtChars) : ¬ text <+: image ++ ds := by
  intro hPrefix
  obtain ⟨t, text, rfl⟩ := List.exists_cons_of_ne_nil hText
  obtain ⟨d, image, rfl⟩ := List.exists_cons_of_ne_nil hImage
  obtain ⟨rfl, -⟩ := List.cons_prefix_cons.mp hPrefix
  exact hApart t List.mem_cons_self (hSought t List.mem_cons_self)

theorem infix_append_of_apart (hText : text ≠ []) (hSought : ∀ c ∈ text, c ∈ soughtChars)
    (hApart : ∀ d ∈ image, d ∉ soughtChars) : text <:+: image ++ ds ↔ text <:+: ds := by
  induction image with
  | nil => exact Iff.rfl
  | cons d image ih =>
    have hNot : ¬ text <+: d :: image ++ ds :=
      not_prefix_of_apart hText hSought (List.cons_ne_nil d image) hApart
    rw [List.cons_append, List.infix_cons_iff, ih (List.forall_mem_cons.mp hApart).2]
    exact or_iff_right hNot

theorem Lowered.prefix_iff (h : Lowered cs ds) (hSought : ∀ c ∈ text, c ∈ soughtChars) :
    text <+: ds ↔ text <+: cs.map Char.toLower := by
  induction h generalizing text with
  | nil => exact Iff.rfl
  | @ascii c cs ds hAscii _ ih =>
    cases text with
    | nil => exact iff_of_true List.nil_prefix List.nil_prefix
    | cons t text =>
      rw [List.map_cons, List.cons_prefix_cons, List.cons_prefix_cons,
        ih (List.forall_mem_cons.mp hSought).2]
  | @other c cs image ds hOther hImage hApart _ ih =>
    by_cases hText : text = []
    · subst hText
      exact iff_of_true List.nil_prefix List.nil_prefix
    · rw [List.map_cons, toLower_of_not_ascii hOther]
      exact iff_of_false (not_prefix_of_apart hText hSought hImage hApart)
        (not_prefix_of_apart hText hSought (List.cons_ne_nil c []) (apart_of_not_ascii hOther))

theorem Lowered.infix_iff (h : Lowered cs ds) (hText : text ≠ [])
    (hSought : ∀ c ∈ text, c ∈ soughtChars) :
    text <:+: ds ↔ text <:+: cs.map Char.toLower := by
  induction h with
  | nil => exact Iff.rfl
  | @ascii c cs ds hAscii h ih =>
    rw [List.map_cons, List.infix_cons_iff, List.infix_cons_iff, ih]
    exact or_congr_left ((Lowered.ascii hAscii h).prefix_iff hSought)
  | @other c cs image ds hOther hImage hApart _ ih =>
    have hBeyond : text <:+: [c] ++ cs.map Char.toLower ↔ text <:+: cs.map Char.toLower :=
      infix_append_of_apart hText hSought (apart_of_not_ascii hOther)
    rw [List.map_cons, toLower_of_not_ascii hOther, infix_append_of_apart hText hSought hApart, ih]
    exact hBeyond.symm

/-- A text in lower case has one of the words that say that a value is missing. -/
def Mentions (lower : String → String) (text : String) : Prop :=
  "valuenotfound".toList <:+: (lower text).toList ∨ "not found".toList <:+: (lower text).toList

/-- Lower case of ASCII letters, which is right for a text without others. -/
def asciiLower (text : String) : String := String.ofList (text.toList.map Char.toLower)

theorem lowered_asciiLower (text : String) : Lowered text.toList (asciiLower text).toList := by
  rw [asciiLower, String.toList_ofList]
  induction text.toList with
  | nil => exact .nil
  | cons c cs ih =>
    by_cases hAscii : c.toNat < 128
    · exact .ascii hAscii ih
    · have hOther : 128 ≤ c.toNat := Nat.le_of_not_lt hAscii
      rw [List.map_cons, toLower_of_not_ascii hOther]
      exact .other hOther (List.cons_ne_nil c []) (apart_of_not_ascii hOther) ih

variable {lower : String → String}

theorem toList_valueNotFound : "valuenotfound".toList =
    ['v', 'a', 'l', 'u', 'e', 'n', 'o', 't', 'f', 'o', 'u', 'n', 'd'] := rfl

theorem toList_notFound : "not found".toList =
    ['n', 'o', 't', ' ', 'f', 'o', 'u', 'n', 'd'] := rfl

theorem saysNotFound_iff (hLower : ∀ text, Lowered text.toList (lower text).toList)
    {text : String} : saysNotFound text = true ↔ Mentions lower text := by
  have hLowered := hLower text
  rw [saysNotFound, Bool.or_eq_true, occursIn_iff, occursIn_iff, Mentions, toList_valueNotFound,
    toList_notFound]
  refine or_congr (hLowered.infix_iff (List.cons_ne_nil _ _) ?_).symm
    (hLowered.infix_iff (List.cons_ne_nil _ _) ?_).symm
  · simp [soughtChars]
  · simp [soughtChars]

/-- The node says that the value asked for does not exist. -/
def SaysMissing (lower : String → String) (e : NodeError) : Prop :=
  ∃ code message data, e = reported code message data ∧ code = -32003 ∧
    (Mentions lower message ∨ ∃ d, data = some d ∧ Mentions lower d.render)

theorem isNotFound_iff (hLower : ∀ text, Lowered text.toList (lower text).toList)
    {e : NodeError} : e.isNotFound = true ↔ e.SaysMissing lower := by
  cases e with
  | reported code message data =>
    have hWords : (saysNotFound message || data.any fun d => saysNotFound d.render) = true ↔
        Mentions lower message ∨ ∃ d, data = some d ∧ Mentions lower d.render := by
      simp only [Bool.or_eq_true, Option.any_eq_true, saysNotFound_iff hLower]
    rw [isNotFound, Bool.and_eq_true, beq_iff_eq, hWords]
    constructor
    · rintro ⟨hCode, hMentions⟩
      exact ⟨code, message, data, rfl, hCode, hMentions⟩
    · rintro ⟨_, _, _, hSame, hCode, hMentions⟩
      cases hSame
      exact ⟨hCode, hMentions⟩
  | _ => simp [isNotFound, SaysMissing]

end NodeError

/-! ## Answers of queries -/

theorem QueryError.ofNode_eq_notFound_iff {e : NodeError} :
    ofNode e = .notFound ↔ e.isNotFound = true := by
  by_cases hMissing : e.isNotFound = true
  · simp [ofNode, hMissing]
  · simp [ofNode, hMissing]

theorem QueryError.ofNode_of_ne {e : NodeError} (h : ofNode e ≠ .notFound) :
    ofNode e = .failed e :=
  if_neg fun hMissing => h (ofNode_eq_notFound_iff.mpr hMissing)

namespace JsonRpc

theorem typedValue_eq_ok_iff {stored : Json} {v : CLValue} :
    typedValue stored = .ok v ↔ ∃ j, stored.get? "CLValue" = some j ∧ CLValue.HasForm j v := by
  rw [typedValue]
  cases hMember : stored.get? "CLValue" with
  | none => simp
  | some j =>
    simp only [Option.some.injEq, exists_eq_left', ← CLValue.readJson_eq_ok_iff]
    cases CLValue.readJson j.toDraft with
    | ok found => simp
    | error reason => simp

theorem typedValue_ok_or_unparsable (stored : Json) :
    (∃ v, typedValue stored = .ok v) ∨
      ∃ fault, typedValue stored = .error (.failed (.unparsable fault)) := by
  rw [typedValue]
  split
  · exact .inr ⟨_, rfl⟩
  · split
    · rename_i v _
      exact .inl ⟨v, rfl⟩
    · exact .inr ⟨_, rfl⟩

/-! ## What is posted -/

variable {σ α : Type}

/-- What is posted in a dialogue with a server. -/
def posts (serve : Json → StateM σ (Except String HttpReply)) : Posts α → σ → List Json
  | .done _, _ => []
  | .ask body next, s => body :: posts serve (next (serve body s).1) (serve body s).2

/-- With a request the client posts just these bodies, and this is what it makes of the replies,
unless the program stops. -/
structure Answers (serve : Json → StateM σ (Except String HttpReply)) (q : NodeRequest) (id : Nat)
    (s : σ) (bodies : List Json) (result : Except Abort q.Answer) : Prop where
  posts_eq : posts serve (answer q id).run s = bodies
  answer_eq : Prod.fst <$> (Dialogue.run serve (answer q id).run s).1 = result

variable {serve : Json → StateM σ (Except String HttpReply)} {id : Nat} {s : σ}

/-- What the server tells of the present state. -/
def toldRoot (serve : Json → StateM σ (Except String HttpReply)) (id : Nat) (s : σ) :
    Except NodeError (Option String) :=
  outcome "chain_get_state_root_hash" readStateRoot (serve (stateRootCall id) s).1

/-- The body with which a deploy is submitted. -/
def submitCall (id : Nat) (deploy : Json) : Json :=
  .obj [("jsonrpc", .str "2.0"), ("id", .num (.int id)), ("method", .str "account_put_deploy"),
    ("params", .obj [("deploy", deploy)])]

theorem answers_submit {d : SignedDeploy} {deploy : Json} (hDeploy : d.toJson? = some deploy) :
    Answers serve (.submit d) id s [submitCall id deploy]
      (.ok (outcome "account_put_deploy" readDeployHash (serve (submitCall id deploy) s).1)) := by
  have hAnswer : answer (.submit d) = submit (some deploy) := by rw [← hDeploy]; rfl
  exact ⟨by rw [hAnswer]; rfl, by rw [hAnswer]; rfl⟩

theorem answers_submit_of_none {d : SignedDeploy} (hDeploy : d.toJson? = none) :
    Answers serve (.submit d) id s [] (.error (.unwritable "Timestamp out of range.")) := by
  have hAnswer : answer (.submit d) = submit none := by rw [← hDeploy]; rfl
  exact ⟨by rw [hAnswer]; rfl, by rw [hAnswer]; rfl⟩

theorem answers_namedValue {contract : Identity} {path : List String} :
    Answers serve (.namedValue contract path) id s [namedValueCall id contract path]
      (.ok (queried (outcome "query_global_state" readStoredValue
        (serve (namedValueCall id contract path) s).1))) := ⟨rfl, rfl⟩

section Item

variable {contract : Identity} {dictionary itemKey : String}

/-- What goes on once the reply about the present state has been read. -/
def afterRoot (contract : Identity) (dictionary itemKey : String) (id : Nat) :
    Except NodeError (Option String) → Posts (Except Abort (Except QueryError CLValue × Nat))
  | .error e => .done (.ok (.error (.failed e), id))
  | .ok none => .done (.ok (.error (.failed (.unparsable .noStateRoot)), id))
  | .ok (some root) => .ask (itemCall id root contract dictionary itemKey) fun reply =>
    .done (.ok (queried (outcome "state_get_dictionary_item" readStoredValue reply), id + 1))

theorem answer_dictionaryItem_eq_ask :
    (answer (.dictionaryItem contract dictionary itemKey) id).run =
      .ask (stateRootCall id) fun reply => afterRoot contract dictionary itemKey (id + 1)
        (outcome "chain_get_state_root_hash" readStateRoot reply) := by
  rw [answer_dictionaryItem]
  refine congrArg (Dialogue.ask (stateRootCall id)) (funext fun reply => ?_)
  dsimp only [Dialogue.bind]
  cases outcome "chain_get_state_root_hash" readStateRoot reply with
  | error e => rfl
  | ok told =>
    cases told with
    | none => rfl
    | some root => rfl

/-- The item is asked for only once the hash of the present state has been told. -/
theorem answers_dictionaryItem {told : Except NodeError (Option String)}
    (hTold : toldRoot serve id s = told) :
    Answers serve (.dictionaryItem contract dictionary itemKey) id s
      (stateRootCall id :: posts serve (afterRoot contract dictionary itemKey (id + 1) told)
        (serve (stateRootCall id) s).2)
      (Prod.fst <$> (Dialogue.run serve (afterRoot contract dictionary itemKey (id + 1) told)
        (serve (stateRootCall id) s).2).1) := by
  subst hTold
  constructor
  · rw [answer_dictionaryItem_eq_ask]
    rfl
  · rw [answer_dictionaryItem_eq_ask]
    rfl

end Item

/-! ## Classification -/

theorem outcome_of_readBytes {method : String} {read : Reader α} {reply : HttpReply}
    {r : Response α} (hStatus : ¬ (400 ≤ reply.status ∧ reply.status < 600))
    (hBody : readBytes (Response.readJson read) reply.body = .ok r) :
    outcome method read (.ok reply) = r.outcome method := by
  rw [outcome, if_neg hStatus, hBody]

theorem queried_error_eq_notFound_iff {lower : String → String}
    (hLower : ∀ text, NodeError.Lowered text.toList (lower text).toList) {e : NodeError} :
    queried (.error e) = .error .notFound ↔ e.SaysMissing lower := by
  rw [queried, Except.error.injEq, QueryError.ofNode_eq_notFound_iff,
    NodeError.isNotFound_iff hLower]

/-- Of a typed value nothing is read but its type and its bytes. -/
theorem typedValue_of_same_members {stored stored' : Json} {ms ms' : List (String × Json)}
    {v : CLValue} (hMember : stored.get? "CLValue" = some (.obj ms))
    (hMember' : stored'.get? "CLValue" = some (.obj ms'))
    (hSame : ∀ name ∈ ["cl_type", "bytes"], ms.filter (·.1 = name) = ms'.filter (·.1 = name))
    (h : typedValue stored = .ok v) : typedValue stored' = .ok v := by
  obtain ⟨j, hFound, hForm⟩ := typedValue_eq_ok_iff.mp h
  rw [hMember] at hFound
  cases hFound
  refine typedValue_eq_ok_iff.mpr ⟨_, hMember', ?_⟩
  cases hForm with
  | @obj _ clType bytes _ hType hBytes hRead hRead' =>
    have hType' : Has ms' "cl_type" clType := (hSame _ (by decide)).symm.trans hType
    have hBytes' : Has ms' "bytes" bytes := (hSame _ (by decide)).symm.trans hBytes
    exact .obj hType' hBytes' hRead hRead'

/-- Replies are classified exactly.

- Whatever method is called: if the body of a reply is read as a response and its status is no
  error, then a reported error is passed on with its code, message and data, even beside a result;
  without error and result the reply makes no sense; and otherwise the result is returned.
- The readers of responses find the hash of the present state, a stored value, the hash of a deploy
  and a reported error where a reply has them.
- A deploy that has a text is submitted in one post, and the outcome of the call is the answer as it
  is; one that has none stops the program before anything is sent.
- A named value takes one post. An item takes two, the second one for just the state that the first
  one told; if that tells an error or nothing, then no second post is made, and the error is passed
  on as it is, whatever it says.
- Of a query an error means that the value is missing exactly if its code is that of a failed query
  and its message or the text of its data has one of the words for that in lower case. Any other
  error is passed on as it is.
- A stored value without a well-formed typed value makes no sense. A typed value depends on nothing
  but its type and its bytes. -/
theorem replies_are_classified {lower : String → String}
    (hLower : ∀ text, NodeError.Lowered text.toList (lower text).toList) :
    (∀ {α : Type} (method : String) (read : Reader α) (reply : HttpReply) (r : Response α),
      ¬ (400 ≤ reply.status ∧ reply.status < 600) →
      readBytes (Response.readJson read) reply.body = .ok r →
      (∀ e, r.error = some e →
        outcome method read (.ok reply) = .error (.reported e.code e.message e.data)) ∧
      (r.error = none → r.result = none →
        outcome method read (.ok reply) = .error (.unparsable (.noResult method))) ∧
      ∀ a, r.error = none → r.result = some a → outcome method read (.ok reply) = .ok a) ∧
    (∀ (method : String) (reply : Except String HttpReply),
      (∀ root, TellsRoot reply root → outcome method readStateRoot reply = .ok (some root)) ∧
      (∀ result (stored : Json), TellsResult reply result →
        Has result "stored_value" stored.inText →
        outcome method readStoredValue reply = .ok stored.kept) ∧
      (∀ result (hash : Digest), TellsResult reply result →
        Has result "deploy_hash" (Json.str hash.text).inText →
        outcome method readDeployHash reply = .ok hash) ∧
      ∀ {α : Type} (read : Reader α) (code : Int) (message : String) (data : Option Json),
        -2 ^ 63 ≤ code ∧ code < 2 ^ 63 → TellsError read reply code message data →
        outcome method read reply = .error (.reported code message data)) ∧
    (∀ {σ : Type} (serve : Json → StateM σ (Except String HttpReply)) (id : Nat) (s : σ),
      (∀ d deploy, d.toJson? = some deploy → Answers serve (.submit d) id s [submitCall id deploy]
        (.ok (outcome "account_put_deploy" readDeployHash (serve (submitCall id deploy) s).1))) ∧
      (∀ d, d.toJson? = none →
        Answers serve (.submit d) id s [] (.error (.unwritable "Timestamp out of range."))) ∧
      (∀ contract path,
        Answers serve (.namedValue contract path) id s [namedValueCall id contract path]
          (.ok (queried (outcome "query_global_state" readStoredValue
            (serve (namedValueCall id contract path) s).1)))) ∧
      ∀ contract dictionary itemKey, let q := NodeRequest.dictionaryItem contract dictionary itemKey
        (∀ e, toldRoot serve id s = .error e →
          Answers serve q id s [stateRootCall id] (.ok (.error (.failed e)))) ∧
        (toldRoot serve id s = .ok none → Answers serve q id s [stateRootCall id]
          (.ok (.error (.failed (.unparsable .noStateRoot))))) ∧
        ∀ root, toldRoot serve id s = .ok (some root) →
          let body := itemCall (id + 1) root contract dictionary itemKey
          Answers serve q id s [stateRootCall id, body]
            (.ok (queried (outcome "state_get_dictionary_item" readStoredValue
              (serve body (serve (stateRootCall id) s).2).1)))) ∧
    (∀ e, (queried (.error e) = .error .notFound ↔
        ∃ code message data, e = .reported code message data ∧ code = -32003 ∧
          (NodeError.Mentions lower message ∨
            ∃ d, data = some d ∧ NodeError.Mentions lower d.render)) ∧
      (queried (.error e) ≠ .error .notFound → queried (.error e) = .error (.failed e))) ∧
    (∀ stored,
      (∀ v, queried (.ok stored) = .ok v ↔
        ∃ j, stored.get? "CLValue" = some j ∧ CLValue.HasForm j v) ∧
      ((¬ ∃ j v, stored.get? "CLValue" = some j ∧ CLValue.HasForm j v) →
        ∃ fault, queried (.ok stored) = .error (.failed (.unparsable fault)))) ∧
    ∀ stored stored' ms ms', stored.get? "CLValue" = some (.obj ms) →
      stored'.get? "CLValue" = some (.obj ms') →
      (∀ name ∈ ["cl_type", "bytes"], ms.filter (·.1 = name) = ms'.filter (·.1 = name)) →
      ∀ v, queried (.ok stored) = .ok v → queried (.ok stored') = .ok v := by
  refine ⟨?_, ?_, ?_, ?_, ?_, ?_⟩
  · intro α method read reply r hStatus hBody
    rw [outcome_of_readBytes hStatus hBody]
    refine ⟨?_, ?_, ?_⟩
    · intro e hError
      rw [Response.outcome, hError]
    · intro hError hResult
      rw [Response.outcome, hError, hResult]
    · intro a hError hResult
      rw [Response.outcome, hError, hResult]
  · intro method reply
    refine ⟨?_, ?_, ?_, ?_⟩
    · intro root hTells
      exact outcome_of_tellsRoot hTells
    · intro result stored hResult hStored
      exact outcome_of_tellsStored hResult hStored
    · intro result hash hResult hHash
      exact outcome_of_tellsHash hResult hHash
    · intro α read code message data hCode hTells
      exact outcome_of_tellsError hCode hTells
  · intro σ serve id s
    refine ⟨?_, ?_, ?_, ?_⟩
    · intro d deploy hDeploy
      exact answers_submit hDeploy
    · intro d hDeploy
      exact answers_submit_of_none hDeploy
    · intro contract path
      exact answers_namedValue
    · intro contract dictionary itemKey q
      refine ⟨?_, ?_, ?_⟩
      · intro e hTold
        exact answers_dictionaryItem hTold
      · intro hTold
        exact answers_dictionaryItem hTold
      · intro root hTold
        exact answers_dictionaryItem hTold
  · intro e
    refine ⟨?_, ?_⟩
    · exact queried_error_eq_notFound_iff hLower
    · intro hNot
      have hPassed : QueryError.ofNode e ≠ .notFound := fun hMissing => hNot (congrArg _ hMissing)
      rw [queried, QueryError.ofNode_of_ne hPassed]
  · intro stored
    refine ⟨fun v => typedValue_eq_ok_iff, ?_⟩
    intro hNoForm
    rcases typedValue_ok_or_unparsable stored with ⟨v, hRead⟩ | hFault
    · obtain ⟨j, hFound, hForm⟩ := typedValue_eq_ok_iff.mp hRead
      exact absurd ⟨j, v, hFound, hForm⟩ hNoForm
    · exact hFault
  · intro stored stored' ms ms' hMember hMember' hSame v hRead
    exact typedValue_of_same_members hMember hMember' hSame hRead

/-- A reply with the hash of the present state and an error, which says that a value is missing. -/
def contraryReply : HttpReply :=
  textReply (.obj [("result", .obj [("state_root_hash", .str "00")]),
    ("error", .obj [("code", .num (.int (-32003))), ("message", .str "Value Not Found")])])

theorem readBytes_contraryReply : readBytes (Response.readJson readStateRoot) contraryReply.body =
    .ok ⟨some (some "00"), some ⟨-32003, "Value Not Found", none⟩⟩ :=
  readBytes_of_ofBytes (isText_render rfl (by decide)) rfl

/-- One and the same error says that an item is missing if it comes for the item, and is passed on
if it comes for the hash of the present state. An item that is there is asked for in that state. -/
theorem replies_are_classified_of_not_found :
    let error : NodeError := .reported (-32003) "Value Not Found" none
    let minter : Identity := ⟨.contract, default⟩
    outcome "chain_get_state_root_hash" readStateRoot (.ok contraryReply) = .error error ∧
      queried (.error error) = .error .notFound ∧
      Answers (fun _ => pure (.ok contraryReply) : Json → StateM Unit _)
        (.dictionaryItem minter "whitelist_dict" "00") firstId () [stateRootCall firstId]
        (.ok (.error (.failed error))) ∧
      Answers (entryServer (.of .bool true)) (.dictionaryItem minter "whitelist_dict" "00") firstId
        () [stateRootCall 1, itemCall 2 "00" minter "whitelist_dict" "00"]
        (.ok (.ok (.of .bool true))) := by
  intro error minter
  obtain ⟨hCalls, hReads, hServed, hErrors, -⟩ :=
    replies_are_classified NodeError.lowered_asciiLower
  have hOutcome : outcome "chain_get_state_root_hash" readStateRoot (.ok contraryReply) =
      .error error :=
    (hCalls _ readStateRoot contraryReply _ (by decide) readBytes_contraryReply).1 _ rfl
  have hStored : queried (outcome "state_get_dictionary_item" readStoredValue
      (.ok (storedValueReply (.of .bool true)))) = .ok (.of .bool true) :=
    queried_storedValueReply_iff.mpr (by decide)
  have hRoot : toldRoot (entryServer (.of .bool true)) firstId () = .ok (some "00") :=
    (hReads _ _).1 "00" (tellsRoot_rootReply "00")
  refine ⟨hOutcome, ?_, ?_, ?_⟩
  · refine (hErrors error).1.mpr ⟨_, _, _, rfl, rfl, .inl (.inr ?_)⟩
    exact NodeError.occursIn_iff.mp (by decide)
  · exact ((hServed _ firstId ()).2.2.2 minter "whitelist_dict" "00").1 error hOutcome
  · rw [← hStored]
    exact ((hServed _ firstId ()).2.2.2 minter "whitelist_dict" "00").2.2 "00" hRoot

end JsonRpc

end Mintage
