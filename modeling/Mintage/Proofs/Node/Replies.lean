import Mintage.Node.JsonRpc
import Mintage.Proofs.DeployText

/-!
# Proofs: what replies of a node say

A reply says that a value is stored, that none is, or which the present state is, if its body is the
text of an object with the members that say so. Other members are not looked at, and may be nested
as deeply as they like. From such a reply a client makes just what it says: the value itself, or
that there is none.

So does a reply that is rendered from a value, unless its type is nested too deeply.
-/

namespace Mintage

open Json

/-! ## Values among the members -/

/-- The objects within the JSON of a type have one member each, so that it is kept as it is. -/
theorem CLType.kept_toJson (t : CLType) : t.toJson.kept = t.toJson := by
  induction t with
  | option inner ih => rw [toJson, kept_single, ih]
  | list item ih => rw [toJson, kept_single, ih]
  | byteArray length => rw [toJson, kept_single]; rfl
  | _ => rfl

/-- How deep arrays and objects are nested in the JSON of a type. -/
def CLType.nesting : CLType → Nat
  | option inner => inner.nesting + 1
  | list item => item.nesting + 1
  | byteArray _ => 1
  | _ => 0

theorem CLType.nesting_toJson (t : CLType) : t.toJson.nesting = t.nesting := by
  induction t with
  | option inner ih | list inner ih => simp [toJson, Json.nesting, nestingMembers, nesting, ih]
  | byteArray length => rfl
  | _ => rfl

namespace NodeError

end NodeError

namespace JsonRpc

variable {α : Type} {reply : Except String HttpReply} {method : String}

/-! ## Replies -/

/-- A reply without an error of the server, whose body is the text of an object with these
members. -/
def Says (reply : Except String HttpReply) (ds : List (String × Draft)) : Prop :=
  ∃ status body, reply = .ok ⟨status, body⟩ ∧ ¬ (400 ≤ status ∧ status < 600) ∧
    Draft.ofBytes body = (.obj (named ds) .closed, none) ∧ Passable ds

theorem Says.passable {ds : List (String × Draft)} (h : Says reply ds) : Passable ds := by
  obtain ⟨_, _, _, _, _, hPass⟩ := h
  exact hPass

/-- A reply with an object as the result. -/
def TellsResult (reply : Except String HttpReply) (result : List (String × Draft)) : Prop :=
  ∃ ds, Says reply ds ∧ Has ds "result" (.obj (named result) .closed) ∧ Lacks ds "error"

theorem TellsResult.passable {result : List (String × Draft)} (h : TellsResult reply result) :
    Passable result := by
  obtain ⟨ds, hSays, hResult, -⟩ := h
  exact hSays.passable.of_has hResult

/-- A reply that tells the hash of the present state. -/
def TellsRoot (reply : Except String HttpReply) (root : String) : Prop :=
  ∃ result, TellsResult reply result ∧ Has result "state_root_hash" (Json.str root).inText

/-- A reply that tells the typed value that is stored. -/
def TellsValue (reply : Except String HttpReply) (v : CLValue) : Prop :=
  ∃ result stored ms, TellsResult reply result ∧
    Has result "stored_value" (Json.obj stored).inText ∧ Has stored "CLValue" (.obj ms) ∧
    Has ms "cl_type" v.clType.toJson ∧ Has ms "bytes" (CLValue.hexToJson v.bytes)

/-- A reply with an error, beside which there may be a result that `read` reads. Of data of any form
that comes with the error one member is kept for each name. -/
def TellsError (read : Reader α) (reply : Except String HttpReply) (code : Int) (message : String)
    (data : Option Json) : Prop :=
  ∃ ds error result, Says reply ds ∧
    Record.Gives (.optional "result" read) ["result"] ds result ∧
    Has ds "error" (.obj (named error) .closed) ∧
    Has error "code" (Json.num (.int code)).inText ∧
    Has error "message" (Json.str message).inText ∧
    (data = none ∧ Lacks error "data" ∨
      ∃ j : Json, j ≠ .null ∧ Has error "data" j.inText ∧ data = some j.kept)

/-- A reply with the rendering of a value. -/
def textReply (j : Json) : HttpReply := ⟨200, Utf8.encode j.render⟩

theorem says_textReply {ms : List (String × Json)}
    (hIntegral : (Json.obj ms).isIntegral = true)
    (hNesting : (Json.obj ms).nesting ≤ Draft.depthLimit) :
    Says (.ok (textReply (.obj ms))) (inTextMembers ms) :=
  ⟨200, _, rfl, by decide, isText_render hIntegral hNesting, passable_inText ms⟩

/-- A reply with nothing but the hash of the present state. -/
def rootReply (root : String) : HttpReply :=
  textReply (.obj [("result", .obj [("state_root_hash", .str root)])])

theorem tellsRoot_rootReply (root : String) : TellsRoot (.ok (rootReply root)) root := by
  have hNesting : (Json.obj [("result", .obj [("state_root_hash", .str root)])]).nesting ≤
      Draft.depthLimit := by
    simp [nesting, nestingMembers, Draft.depthLimit]
  exact ⟨_, ⟨_, says_textReply rfl hNesting, rfl, .inl rfl⟩, rfl⟩

/-- An object with nothing but a typed value. -/
def storedValue (v : CLValue) : Json := .obj [("CLValue", v.toJson)]

/-- A reply with nothing but a typed value. -/
def storedValueReply (v : CLValue) : HttpReply :=
  textReply (.obj [("result", .obj [("stored_value", storedValue v)])])

theorem isIntegral_storedValueReply (v : CLValue) :
    (Json.obj [("result", .obj [("stored_value", storedValue v)])]).isIntegral = true := by
  simp [isIntegral, isIntegralMembers, storedValue, v.isIntegral_toJson]

theorem nesting_storedValue (v : CLValue) : (storedValue v).nesting = v.clType.nesting + 2 := by
  simp [nesting, nestingMembers, storedValue, CLValue.toJson, CLValue.hexToJson,
    CLType.nesting_toJson]

/-- The stored value is in an object of the reply that is itself nested two deep. -/
theorem tellsValue_storedValueReply {v : CLValue} (h : v.clType.nesting + 4 ≤ Draft.depthLimit) :
    TellsValue (.ok (storedValueReply v)) v := by
  have hNesting : (Json.obj [("result", .obj [("stored_value", storedValue v)])]).nesting ≤
      Draft.depthLimit := by
    simp only [nesting, nestingMembers, nesting_storedValue, Nat.max_zero]
    exact h
  exact ⟨_, _, _, ⟨_, says_textReply (isIntegral_storedValueReply v) hNesting, rfl, .inl rfl⟩,
    rfl, rfl, rfl, rfl⟩

/-! ## What is made of them -/

/-- Whatever a reader makes of the result and of the error is in the response. -/
theorem outcome_of_response {read : Reader α} {ds : List (String × Draft)} {result : Option α}
    {error : Option ReportedError} (hSays : Says reply ds)
    (hResult : Record.Gives (.optional "result" read) ["result"] ds result)
    (hError : Record.Gives (.optional "error" (ReportedError.record.read
      "struct RpcResponseError")) ["error"] ds error) :
    outcome method read reply = Response.outcome method ⟨result, error⟩ := by
  obtain ⟨status, body, rfl, hStatus, hBody, hPass⟩ := hSays
  have hRead : Response.readJson read (.obj (named ds) .closed) = .ok ⟨result, error⟩ :=
    ((hResult.map hPass Response.mk).seq hError hPass (by decide)).read_closed
      "struct RpcResponse"
  rw [outcome, if_neg hStatus, readBytes_of_ofBytes hBody hRead]

/-- A result is read. -/
theorem outcome_of_tellsResult {read : Reader α} {result : List (String × Draft)} {a : α}
    (hTells : TellsResult reply result) (h : read (.obj (named result) .closed) = .ok a) :
    outcome method read reply = .ok a := by
  obtain ⟨ds, hSays, hResult, hError⟩ := hTells
  have hPass := hSays.passable
  exact outcome_of_response hSays (Record.gives_optional hPass hResult (readOption_obj h))
    (Record.gives_optional_of_lacks hPass hError)

theorem outcome_of_tellsRoot {root : String} (hTells : TellsRoot reply root) :
    outcome method readStateRoot reply = .ok (some root) := by
  obtain ⟨result, hResult, hRoot⟩ := hTells
  have hField := Record.gives_optional hResult.passable hRoot
    (readOption_inText (by simp) (readString_inText root))
  exact outcome_of_tellsResult hResult (hField.read_closed "struct StateRootHashResult")

/-- Of a stored value one member is kept for each name. -/
theorem outcome_of_tellsStored {result : List (String × Draft)} {stored : Json}
    (hResult : TellsResult reply result) (hStored : Has result "stored_value" stored.inText) :
    outcome method readStoredValue reply = .ok stored.kept :=
  outcome_of_tellsResult hResult ((Record.gives_required hResult.passable hStored
    (readAny_inText stored)).read_closed "struct StoredValueResult")

theorem outcome_of_tellsHash {result : List (String × Draft)} {hash : Digest}
    (hResult : TellsResult reply result)
    (hHash : Has result "deploy_hash" (Json.str hash.text).inText) :
    outcome method readDeployHash reply = .ok hash := by
  have hRead : Digest.readJson (Json.str hash.text).inText = .ok hash := hash.reads.of_refl
  exact outcome_of_tellsResult hResult
    ((Record.gives_required hResult.passable hHash hRead).read_closed "struct PutDeployResult")

/-- An error is reported with its code, message and data, whatever the result is. -/
theorem outcome_of_tellsError {read : Reader α} {code : Int} {message : String} {data : Option Json}
    (hCode : -2 ^ 63 ≤ code ∧ code < 2 ^ 63) (hTells : TellsError read reply code message data) :
    outcome method read reply = .error (.reported code message data) := by
  obtain ⟨ds, error, result, hSays, hResult, hError, hHasCode, hMessage, hData⟩ := hTells
  have hPass : Passable error := hSays.passable.of_has hError
  have hFound : Record.Gives (.optional "data" Draft.readAny) ["data"] error data := by
    rcases hData with ⟨rfl, hLacks⟩ | ⟨j, hNull, hHas, rfl⟩
    · exact Record.gives_optional_of_lacks hPass hLacks
    · exact Record.gives_optional hPass hHas (readOption_inText hNull (readAny_inText j))
  have hInt : Draft.readInt 64 (Json.num (.int code)).inText = .ok code := readInt_inText hCode
  have hReported := ((Record.gives_required hPass hHasCode hInt).map hPass ReportedError.mk).seq
    (Record.gives_required hPass hMessage (readString_inText _)) hPass (by decide)
    |>.seq hFound hPass (by decide)
  rw [outcome_of_response hSays hResult
    (Record.gives_optional hSays.passable hError (readOption_obj (hReported.read_closed _))),
    Response.outcome]

/-- The typed value is found in what is kept of a stored value. -/
theorem typedValue_kept {stored ms : List (String × Json)} {v : CLValue}
    (hValue : Has stored "CLValue" (.obj ms)) (hType : Has ms "cl_type" v.clType.toJson)
    (hBytes : Has ms "bytes" (CLValue.hexToJson v.bytes)) :
    typedValue (Json.obj stored).kept = .ok v := by
  have hKeptType := hType.kept
  rw [CLType.kept_toJson] at hKeptType
  have hMakes := (Record.makes_required "cl_type" hKeptType v.clType.reads).map CLValue.mk
    |>.field "bytes" (by decide) hBytes.kept (CLValue.reads_hex v.bytes)
  have hRead : CLValue.readJson (Json.obj ms).kept.toDraft = .ok v :=
    (hMakes.reads ["cl_type", "bytes"] "struct CLValue").of_refl
  rw [typedValue, kept, hValue.kept.get?]
  simp only [hRead]

theorem queried_of_tellsValue {v : CLValue} (hTells : TellsValue reply v) :
    queried (outcome method readStoredValue reply) = .ok v := by
  obtain ⟨result, stored, ms, hResult, hStored, hValue, hType, hBytes⟩ := hTells
  rw [outcome_of_tellsStored hResult hStored, queried, typedValue_kept hValue hType hBytes]

/-- A reply with a value that is nested too deeply is refused. -/
theorem outcome_of_deep {v : CLValue} (h : Draft.depthLimit < v.clType.nesting + 4) :
    outcome method readStoredValue (.ok (storedValueReply v)) =
      .error (.callFailed (ReadError.malformed .tooDeep).message) := by
  -- The stored value is in an object within an object.
  let stored := (storedValue v).inDepth 125
  let result := Draft.obj (named [("stored_value", stored)]) .closed
  have hStored : stored.readAny = .error (.malformed .tooDeep) := by
    refine readAny_of_lt _ ?_
    rw [nesting_storedValue]
    have hDeep : 127 < v.clType.nesting + 4 := h
    omega
  have hResult : readStoredValue result = .error (.malformed .tooDeep) := by
    refine Record.read_of_take?_error ?_ _ _ _
    change some (some <$> stored.readAny) = _
    rw [hStored]
    rfl
  have hTake : (Record.optional "result" readStoredValue).take? none "result" result =
      some (.error (.malformed .tooDeep)) := by
    change some (some <$> some <$> readStoredValue result) = _
    rw [hResult]
    rfl
  have hResponse : Response.readJson readStoredValue (.obj (named [("result", result)]) .closed) =
      .error (.malformed .tooDeep) := by
    refine Record.read_of_take?_error ?_ "struct RpcResponse" [] .closed
    exact Record.take?_and_of_left hTake
  have hBody : Draft.ofBytes (storedValueReply v).body =
      (.obj (named [("result", result)]) .closed, none) :=
    ofBytes_of_spells (spells_render _ (isIntegral_storedValueReply v))
  have hStatus : ¬ (400 ≤ (storedValueReply v).status ∧ (storedValueReply v).status < 600) := by
    simp [storedValueReply, textReply]
  rw [outcome, if_neg hStatus]
  simp only [readBytes, hBody, hResponse, bind, Except.bind]

/-- A rendered value comes through exactly if its type is not nested too deeply. -/
theorem queried_storedValueReply_iff {v : CLValue} :
    queried (outcome method readStoredValue (.ok (storedValueReply v))) = .ok v ↔
      v.clType.nesting + 4 ≤ Draft.depthLimit := by
  constructor
  · intro hComes
    refine Nat.le_of_not_lt fun hDeep => ?_
    rw [outcome_of_deep hDeep] at hComes
    cases hComes
  · intro hNesting
    exact queried_of_tellsValue (tellsValue_storedValueReply hNesting)

end JsonRpc

end Mintage
