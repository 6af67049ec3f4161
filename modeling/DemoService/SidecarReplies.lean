import DemoService.RagChunking
import DemoService.TokenAuthenticity

/-! What the client of the text-tools service makes of any exchange with it: which calls fail, and
which replies are none of the service. -/

namespace DemoService.RagChunking

open AccessTokens CodePoints Fallible PyJson
open PyText (Text)

section Client

structure ChunkRequest where
  text : Text
  chunkSize : Int
  chunkOverlap : Int
  deriving DecidableEq, Repr

/-- What `httpx.post` comes to: an exception, as for a timeout, or a response. -/
inductive Exchange
  | raises (cls : ExceptionClass)
  | response (statusCode : Nat) (content : Bytes)
  deriving DecidableEq, Repr

structure TextToolsChunk where
  index : Int
  text : Str
  bytes : Int
  deriving DecidableEq, Repr

def IsSuccess (statusCode : Nat) : Prop := 200 ≤ statusCode ∧ statusCode < 300

instance (statusCode : Nat) : Decidable (IsSuccess statusCode) := inferInstanceAs (Decidable (_ ∧ _))

def raiseForStatus (statusCode : Nat) : Except ExceptionClass Unit :=
  if IsSuccess statusCode then .ok () else .error .other

/-- `payload.get("chunks", [])`, an `AttributeError` where the payload is no object. -/
def chunksMember (payload : Json) : Except ExceptionClass Json :=
  match getOr "chunks" (.arr []) payload with
  | some chunks => .ok chunks
  | none => .error .other

/-- What a `for` loop goes through: the items of an array, the characters of a string, the keys of
an object. -/
def iterate : Json → Except ExceptionClass (List Json)
  | .arr items => .ok items
  | .str value => .ok (value.map fun c => .str [c])
  | .obj members => .ok ((members.map Prod.fst).eraseDups.map .str)
  | _ => .error .typeError

variable (python : Interpreter)

def readChunk (item : Json) : Except ExceptionClass TextToolsChunk := do
  let index ← getItem "index" item >>= toInt
  let text ← getItem "text" item >>= toStr python
  let bytes ← getItem "bytes" item >>= toInt
  .ok ⟨index, text, bytes⟩

/-- `TextToolsClient.chunk_text`, behind the exchange. -/
def readReply : Exchange → Except ExceptionClass (List TextToolsChunk)
  | .raises cls => .error cls
  | .response statusCode content => do
    raiseForStatus statusCode
    let payload ← loadsBytes python content
    let chunks ← chunksMember payload
    let items ← iterate chunks
    mapAll (readChunk python) items

end Client

section Failures

variable (python : Interpreter)

/-- An object whose `index`, `text` and `bytes` can be read. -/
def ReadableChunk : Json → Prop
  | .obj members =>
    (∃ value, member? "index" members = some value ∧ Succeeds (toInt value)) ∧
      (∃ value, member? "text" members = some value ∧ Succeeds (toStr python value)) ∧
        ∃ value, member? "bytes" members = some value ∧ Succeeds (toInt value)
  | _ => False

/-- The member `chunks` of a reply, read as it is: without it there are no chunks, as in an empty
string or an empty object. -/
def ReadableChunks : Option Json → Prop
  | none => True
  | some (.arr items) => ∀ item ∈ items, ReadableChunk python item
  | some (.str value) => value = []
  | some (.obj members) => members = []
  | some _ => False

/-- The call raises, the status is not one of success, or the reply cannot be read. -/
def CallFails : Exchange → Prop
  | .raises _ => True
  | .response statusCode content => IsSuccess statusCode →
    ∀ members, loadsBytes python content = .ok (.obj members) →
      ¬ ReadableChunks python (member? "chunks" members)

/-- A chunk as the service writes it. -/
def ServiceChunk : Json → Prop
  | .obj members =>
    (∃ index : Nat, member? "index" members = some (.int index)) ∧
      (∃ text, member? "text" members = some (.str text)) ∧
        ∃ bytes : Nat, member? "bytes" members = some (.int bytes)
  | _ => False

/-- A reply as the service writes it. -/
def ServiceReply : Json → Prop
  | .obj members =>
    ∃ items, member? "chunks" members = some (.arr items) ∧ ∀ item ∈ items, ServiceChunk item
  | _ => False

/-- The call raises, the status is not one of success, or the reply is none of the service. -/
def Breaks : Exchange → Prop
  | .raises _ => True
  | .response statusCode content => IsSuccess statusCode →
    ∀ payload, loadsBytes python content = .ok payload → ¬ ServiceReply payload

end Failures

section Reading

variable {python : Interpreter}

theorem getItem_succeeds {β : Type} {key : String} {members : List (Str × Json)}
    {f : Json → Except ExceptionClass β} :
    Succeeds (getItem key (.obj members) >>= f) ↔
      ∃ value, member? key members = some value ∧ Succeeds (f value) := by
  rw [succeeds_bind, getItem, member?]
  cases members.reverse.find? fun member => member.1 = ofString key with
  | none => simp
  | some member => simp

theorem readChunk_succeeds (item : Json) :
    Succeeds (readChunk python item) ↔ ReadableChunk python item := by
  cases item with
  | obj members =>
    rw [readChunk, ReadableChunk, ← getItem_succeeds, ← getItem_succeeds, ← getItem_succeeds]
    refine succeeds_bind_and fun index => ?_
    refine succeeds_bind_and fun text => ?_
    exact succeeds_bind_total fun bytes => succeeds_pure _
  | _ =>
    refine iff_of_false ?_ id
    rintro ⟨chunk, h⟩
    cases h

theorem no_readableChunk (value : List Str) :
    (∀ item ∈ value.map Json.str, ReadableChunk python item) ↔ value = [] := by
  cases value with
  | nil => exact iff_of_true (fun _ h => absurd h List.not_mem_nil) rfl
  | cons key keys => exact iff_of_false (fun h => h _ List.mem_cons_self) (List.cons_ne_nil _ _)

theorem eraseDups_eq_nil {keys : List Str} : keys.eraseDups = [] ↔ keys = [] := by
  cases keys with
  | nil => exact iff_of_true rfl rfl
  | cons key keys =>
    rw [List.eraseDups_cons]
    exact iff_of_false (List.cons_ne_nil _ _) (List.cons_ne_nil _ _)

theorem readAll_succeeds (chunks : Json) :
    Succeeds (iterate chunks >>= mapAll (readChunk python)) ↔
      ReadableChunks python (some chunks) := by
  rw [succeeds_bind]
  simp only [mapAll_succeeds_iff, readChunk_succeeds]
  cases chunks with
  | arr items => simp [iterate, ReadableChunks]
  | str value =>
    have hmap : (value.map fun c => Json.str [c]) = (value.map fun c => [c]).map Json.str := by
      rw [List.map_map]
      rfl
    simp only [iterate, hmap, Except.ok.injEq, exists_eq_left', no_readableChunk,
      List.map_eq_nil_iff, ReadableChunks]
  | obj members =>
    simp only [iterate, Except.ok.injEq, exists_eq_left', no_readableChunk, eraseDups_eq_nil,
      List.map_eq_nil_iff, ReadableChunks]
  | _ => simp [iterate, ReadableChunks]

theorem readPayload_succeeds (payload : Json) :
    Succeeds (chunksMember payload >>= fun chunks => iterate chunks >>= mapAll (readChunk python)) ↔
      ∃ members, payload = .obj members ∧ ReadableChunks python (member? "chunks" members) := by
  cases payload with
  | obj members =>
    simp only [Json.obj.injEq, exists_eq_left']
    refine (readAll_succeeds ((member? "chunks" members).getD (.arr []))).trans ?_
    cases member? "chunks" members with
    | none => simp [ReadableChunks]
    | some chunks => exact Iff.rfl
  | _ =>
    refine iff_of_false ?_ (fun ⟨members, h, _⟩ => Json.noConfusion h)
    rintro ⟨reply, h⟩
    cases h

/-- `TextToolsClient.chunk_text` returns where the call does not fail. -/
theorem readReply_succeeds (exchange : Exchange) :
    Succeeds (readReply python exchange) ↔ ¬ CallFails python exchange := by
  cases exchange with
  | raises cls =>
    refine iff_of_false ?_ (not_not_intro trivial)
    rintro ⟨reply, h⟩
    cases h
  | response statusCode content =>
    have hread : Succeeds (loadsBytes python content >>= fun payload =>
        chunksMember payload >>= fun chunks => iterate chunks >>= mapAll (readChunk python)) ↔
          ∃ members, loadsBytes python content = .ok (.obj members) ∧
            ReadableChunks python (member? "chunks" members) := by
      rw [succeeds_bind]
      simp only [readPayload_succeeds]
      exact ⟨fun ⟨_, hload, members, hobj, h⟩ => ⟨members, hobj ▸ hload, h⟩,
        fun ⟨members, hload, h⟩ => ⟨_, hload, members, rfl, h⟩⟩
    rw [readReply, raiseForStatus, CallFails]
    by_cases hsuccess : IsSuccess statusCode
    · rw [if_pos hsuccess]
      refine hread.trans ?_
      simp only [hsuccess, forall_const, not_forall, not_not, exists_prop]
    · rw [if_neg hsuccess]
      refine iff_of_false ?_ (not_not_intro fun h => absurd h hsuccess)
      rintro ⟨reply, h⟩
      cases h

theorem readableChunk_of_serviceChunk {item : Json} (h : ServiceChunk item) :
    ReadableChunk python item := by
  cases item with
  | obj members =>
    obtain ⟨⟨index, hindex⟩, ⟨text, htext⟩, bytes, hbytes⟩ := h
    exact ⟨⟨_, hindex, _, rfl⟩, ⟨_, htext, _, rfl⟩, _, hbytes, _, rfl⟩
  | _ => exact h

theorem breaks_of_callFails {exchange : Exchange} (h : CallFails python exchange) :
    Breaks python exchange := by
  cases exchange with
  | raises cls => trivial
  | response statusCode content =>
    intro hsuccess payload hpayload hreply
    cases payload with
    | obj members =>
      obtain ⟨items, hitems, hchunks⟩ := hreply
      refine h hsuccess members hpayload ?_
      rw [hitems]
      exact fun item hitem => readableChunk_of_serviceChunk (hchunks item hitem)
    | _ => exact hreply

end Reading

end DemoService.RagChunking
