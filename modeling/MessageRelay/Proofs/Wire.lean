import MessageRelay.Wire
import MessageRelay.Proofs.Keyed
import MessageRelay.Proofs.CorrelationId
import MessageRelay.Proofs.Json.Records

/-!
The wire format. What is written of a message, an envelope or an error reads back as it was, in whatever
order its members stand; and what was read from any text can be written and read again.
-/
namespace MessageRelay

open Json
open Json.Reader (Reads Ends Yields yields_value)
open Json.Decoder

theorem CorrelationId.reads_decoder (id : CorrelationId) {room : Nat} :
    Reads Ends (CorrelationId.decoder.read room) (textChars id.toText) id :=
  reads_parsed (by rw [parse_toText])

theorem MessageKind.reads_decoder (kind : MessageKind) {room : Nat} :
    Reads Ends (MessageKind.decoder.read room) (textChars kind.name) kind :=
  reads_choice (by cases kind <;> rfl)

namespace Message

def members (m : Message) : List (String × Json) :=
  [("kind", .str m.kind.name), ("type", .str m.typeName), ("payload", m.payload)] ++
    (m.id?.map fun id => ("correlation_id", Json.str id.toText)).toList

/-- An object with the fields of the message, in any order. -/
def Written (m : Message) (v : Json) : Prop := ∃ ms, ms.Perm m.members ∧ v = .obj ms

def draft (m : Message) (seen : List String) : Draft where
  kind? := if "kind" ∈ seen then some m.kind else none
  typeName? := if "type" ∈ seen then some m.typeName else none
  payload? := if "payload" ∈ seen then some m.payload else none
  id? := if "correlation_id" ∈ seen then some m.id? else none

def fields : List (Json.Decoder.Field Draft) :=
  [field "kind" false Draft.kind? (fun v r => { r with kind? := some v }) MessageKind.decoder,
   field "type" false Draft.typeName? (fun v r => { r with typeName? := some v }) .text,
   field "payload" false Draft.payload? (fun v r => { r with payload? := some v }) .json,
   field "correlation_id" true Draft.id? (fun v r => { r with id? := some v })
     (.optional CorrelationId.decoder)]

variable {m : Message} {room : Nat} {v : Json}

theorem nodup_members (m : Message) : (m.members.map Prod.fst).Nodup := by
  cases named : m.id? with
  | none => simp [members, named]
  | some id => simp [members, named]

theorem takes_member (portable : Portable room m.payload) {member : String × Json}
    (inside : member ∈ m.members) (seen : List String) (new : member.1 ∉ seen) :
    Takes fields room member (m.draft seen) (m.draft (member.1 :: seen)) := by
  rw [members, List.mem_append, Option.mem_toList] at inside
  rcases inside with inside | named
  · simp only [List.mem_cons, List.not_mem_nil, or_false] at inside
    rcases inside with rfl | rfl | rfl
    · exact takes_field rfl (if_neg new) m.kind.reads_decoder (by simp [draft])
    · exact takes_field rfl (if_neg new) (reads_text _) (by simp [draft])
    · exact takes_field rfl (if_neg new) (reads_json portable) (by simp [draft])
  · obtain ⟨id, identified, rfl⟩ := Option.map_eq_some_iff.mp named
    exact takes_field rfl (if_neg new) (reads_optional id.reads_decoder)
      (by simp [draft, identified])

theorem finish_draft {seen : List String} (known : ∀ k, k ∈ seen ↔ k ∈ m.members.map Prod.fst) :
    (do return ⟨← required "kind" (m.draft seen).kind?, ← required "type" (m.draft seen).typeName?,
      ← required "payload" (m.draft seen).payload?, (m.draft seen).id?.getD none⟩ :
      Except Problem Message) = .ok m := by
  have kind : "kind" ∈ seen := (known _).mpr (by simp [members])
  have typeName : "type" ∈ seen := (known _).mpr (by simp [members])
  have payload : "payload" ∈ seen := (known _).mpr (by simp [members])
  have id? : (m.draft seen).id?.getD none = m.id? := by
    cases identified : m.id? with
    | none => by_cases shown : "correlation_id" ∈ seen <;> simp [draft, shown, identified]
    | some id =>
      have shown : "correlation_id" ∈ seen := (known _).mpr (by simp [members, identified])
      simp [draft, shown, identified]
  rw [id?]
  simp only [draft, kind, typeName, payload, if_true, required]
  rfl

theorem reads_decoder (portable : Portable room m.payload) (written : m.Written v) :
    Reads Ends (Message.decoder.read (room + 1)) v.toChars m := by
  obtain ⟨ms, same, rfl⟩ := written
  refine reads_record m.draft rfl ((same.map _).nodup_iff.mpr m.nodup_members)
    (fun member inside => takes_member portable (same.mem_iff.mp inside)) fun seen known => ?_
  exact finish_draft fun k => (known k).trans (same.map _).mem_iff

theorem written_members (m : Message) : m.Written (.obj m.members) := ⟨_, .refl _, rfl⟩

theorem written_toJson (m : Message) : m.Written m.toJson := by
  obtain ⟨ms, same, made⟩ := ofMembers_perm m.nodup_members
  exact ⟨ms, same, made⟩

theorem Written.id? (written : m.Written v) :
    v.member? "correlation_id" = m.id?.map fun id => .str id.toText := by
  obtain ⟨ms, same, rfl⟩ := written
  rw [Json.member?, Keyed.find?_map_eq_lookup]
  cases identified : m.id? with
  | none =>
    refine Keyed.lookup_eq_none_iff_keys.mpr fun shown => ?_
    have member := (same.map Prod.fst).mem_iff.mp shown
    simp [members, identified] at member
  | some id =>
    refine (Keyed.lookup_eq_some_iff_mem ((same.map _).nodup_iff.mpr m.nodup_members)).mpr ?_
    exact same.mem_iff.mpr (by simp [members, identified])

/-- Every text that is written of the message is decoded to it again. -/
def Restored (m : Message) : Prop := ∀ v, m.Written v → Message.decoder.ofText v.render = .ok m

theorem restored (portable : Portable (depthLimit - 1) m.payload) : m.Restored :=
  fun _ written => (reads_decoder portable written).whole?

theorem yields_decoder : Yields (Message.decoder.read (room + 1)) (Legible room ·.payload) := by
  refine yields_record (I := fun r => ∀ v ∈ r.payload?, Legible room v) nofun ?_ fun r m known made => ?_
  · intro f member
    simp only [List.mem_cons, List.not_mem_nil, or_false] at member
    rcases member with rfl | rfl | rfl | rfl
    · exact .after fun _ => .done fun _ known => known
    · exact .after fun _ => .done fun _ known => known
    · refine (yields_value room).map fun v legible r _ w same => ?_
      cases same
      exact legible
    · exact .after fun _ => .done fun _ known => known
  · obtain ⟨kind?, typeName?, payload?, id?⟩ := r
    cases kind? with
    | none => cases made
    | some kind =>
      cases typeName? with
      | none => cases made
      | some typeName =>
        cases payload? with
        | none => cases made
        | some payload =>
          cases made
          exact known payload rfl

end Message

namespace Envelope

def members (e : Envelope) (message : Json) : List (String × Json) :=
  [("version", .ofNat e.version), ("from", .str e.sender), ("to", .str e.recipient),
   ("message", message)]

def Written (e : Envelope) (v : Json) : Prop :=
  ∃ message ms, e.message.Written message ∧ ms.Perm (e.members message) ∧ v = .obj ms

def draft (e : Envelope) (seen : List String) : Draft where
  version? := if "version" ∈ seen then some e.version else none
  sender? := if "from" ∈ seen then some e.sender else none
  recipient? := if "to" ∈ seen then some e.recipient else none
  message? := if "message" ∈ seen then some e.message else none

def fields : List (Json.Decoder.Field Draft) :=
  [field "version" false Draft.version? (fun v r => { r with version? := some v })
     (.natural 16 "u16"),
   field "from" false Draft.sender? (fun v r => { r with sender? := some v }) .text,
   field "to" false Draft.recipient? (fun v r => { r with recipient? := some v }) .text,
   field "message" false Draft.message? (fun v r => { r with message? := some v })
     Message.decoder]

variable {e : Envelope} {room : Nat} {message v : Json}

theorem nodup_members (e : Envelope) (message : Json) :
    ((e.members message).map Prod.fst).Nodup := by
  simp [members]

theorem takes_member (word : e.version < 2 ^ 16) (portable : Portable room e.message.payload)
    (written : e.message.Written message) {member : String × Json}
    (inside : member ∈ e.members message) (seen : List String) (new : member.1 ∉ seen) :
    Takes fields (room + 1) member (e.draft seen) (e.draft (member.1 :: seen)) := by
  simp only [members, List.mem_cons, List.not_mem_nil, or_false] at inside
  rcases inside with rfl | rfl | rfl | rfl
  · exact takes_field rfl (if_neg new) (reads_natural word (by decide)) (by simp [draft])
  · exact takes_field rfl (if_neg new) (reads_text _) (by simp [draft])
  · exact takes_field rfl (if_neg new) (reads_text _) (by simp [draft])
  · exact takes_field rfl (if_neg new) (Message.reads_decoder portable written) (by simp [draft])

theorem finish_draft {seen : List String}
    (known : ∀ k, k ∈ seen ↔ k ∈ (e.members message).map Prod.fst) :
    (do return ⟨← required "version" (e.draft seen).version?,
      ← required "from" (e.draft seen).sender?, ← required "to" (e.draft seen).recipient?,
      ← required "message" (e.draft seen).message?⟩ : Except Problem Envelope) = .ok e := by
  have version : "version" ∈ seen := (known _).mpr (by simp [members])
  have sender : "from" ∈ seen := (known _).mpr (by simp [members])
  have recipient : "to" ∈ seen := (known _).mpr (by simp [members])
  have message : "message" ∈ seen := (known _).mpr (by simp [members])
  simp only [draft, version, sender, recipient, message, if_true, required]
  rfl

theorem reads_decoder (word : e.version < 2 ^ 16) (portable : Portable room e.message.payload)
    (written : e.Written v) : Reads Ends (Envelope.decoder.read (room + 2)) v.toChars e := by
  obtain ⟨message, ms, inner, same, rfl⟩ := written
  refine reads_record e.draft rfl
    ((same.map _).nodup_iff.mpr (e.nodup_members message))
    (fun member inside => takes_member word portable inner (same.mem_iff.mp inside))
    fun seen known => ?_
  exact finish_draft fun k => (known k).trans (same.map _).mem_iff

theorem written_members (e : Envelope) : e.Written (.obj (e.members (.obj e.message.members))) :=
  ⟨_, _, e.message.written_members, .refl _, rfl⟩

theorem written_toJson (e : Envelope) : e.Written e.toJson := by
  obtain ⟨ms, same, made⟩ := ofMembers_perm (e.nodup_members e.message.toJson)
  exact ⟨_, ms, e.message.written_toJson, same, made⟩

def Restored (e : Envelope) : Prop := ∀ v, e.Written v → Envelope.decoder.ofText v.render = .ok e

theorem restored (word : e.version < 2 ^ 16)
    (portable : Portable (depthLimit - 2) e.message.payload) : e.Restored :=
  fun _ written => (reads_decoder word portable written).whole?

theorem yields_decoder : Yields (Envelope.decoder.read (room + 2))
    (fun e => e.version < 2 ^ 16 ∧ Legible room e.message.payload) := by
  refine yields_record (I := fun r => (∀ n ∈ r.version?, n < 2 ^ 16) ∧
    ∀ m ∈ r.message?, Legible room m.payload) ⟨nofun, nofun⟩ ?_ fun r e known made => ?_
  · intro f member
    simp only [List.mem_cons, List.not_mem_nil, or_false] at member
    rcases member with rfl | rfl | rfl | rfl
    · refine (yields_natural 16 "u16").map fun n word r known => ⟨fun k same => ?_, known.2⟩
      cases same
      exact word
    · exact .after fun _ => .done fun _ known => known
    · exact .after fun _ => .done fun _ known => known
    · refine Message.yields_decoder.map fun m legible r known => ⟨known.1, fun k same => ?_⟩
      cases same
      exact legible
  · obtain ⟨version?, sender?, recipient?, message?⟩ := r
    cases version? with
    | none => cases made
    | some version =>
      cases sender? with
      | none => cases made
      | some sender =>
        cases recipient? with
        | none => cases made
        | some recipient =>
          cases message? with
          | none => cases made
          | some message =>
            cases made
            exact ⟨known.1 version rfl, known.2 message rfl⟩

end Envelope

theorem RemoteError.sorted_payload (e : RemoteError) :
    [("kind", Json.str e.kind.name), ("message", .str e.message)].Pairwise (fun a b => a.1 < b.1) :=
  List.pairwise_pair.mpr (show "kind" < "message" by decide)

theorem RemoteError.toPayload_eq (e : RemoteError) :
    e.toPayload = .obj [("kind", .str e.kind.name), ("message", .str e.message)] :=
  ofMembers_of_sorted e.sorted_payload

theorem RemoteError.ofValue_toPayload (e : RemoteError) :
    RemoteError.decoder.ofValue e.toPayload = .ok e := by
  obtain ⟨kind, message⟩ := e
  rw [toPayload_eq]
  cases kind <;> rfl

theorem Message.remoteError?_errorReply (id : CorrelationId) (e : RemoteError) :
    (Message.errorReply id e).remoteError? = some (.ok e) := by
  have error : (Message.errorReply id e).isError = true := rfl
  rw [Message.remoteError?, if_pos error]
  exact congrArg some e.ofValue_toPayload

theorem RemoteError.portable_toPayload (e : RemoteError) (room : Nat) :
    Portable (room + 1) e.toPayload := by
  rw [RemoteError.toPayload_eq]
  refine ⟨⟨e.sorted_payload, fun m member => ?_⟩, fun n member => ?_⟩
  · simp only [List.mem_cons, List.not_mem_nil, or_false] at member
    rcases member with rfl | rfl
    · cases room <;> trivial
    · cases room <;> trivial
  · cases member

/-- What is written of a message or an envelope is decoded to the same, as are ids from their text, and
an id is written exactly where there is one. Whatever text a message or an envelope was decoded from, it
can be written and decoded again, and an error is what it was on the other side. -/
theorem wire_round_trips :
    (∀ id : CorrelationId, CorrelationId.parse id.toText = .ok id) ∧
    (∀ m : Message, m.Written m.toJson ∧ m.Written (.obj m.members) ∧
      ∀ v, m.Written v → v.member? "correlation_id" = m.id?.map fun id => .str id.toText) ∧
    (∀ e : Envelope, e.Written e.toJson ∧
      e.Written (.obj (e.members (.obj e.message.members)))) ∧
    (∀ m : Message, Portable (depthLimit - 1) m.payload → m.Restored) ∧
    (∀ e : Envelope, e.version < 2 ^ 16 → Portable (depthLimit - 2) e.message.payload →
      e.Restored) ∧
    (∀ text m, Message.decoder.ofText text = .ok m → m.payload.Integral → m.Restored) ∧
    (∀ text e, Envelope.decoder.ofText text = .ok e → e.message.payload.Integral → e.Restored) ∧
    ∀ id error, (Message.errorReply id error).remoteError? = some (.ok error) ∧
      (∀ v, (Message.errorReply id error).Written v →
        (Message.decoder.ofText v.render).map Message.remoteError? = .ok (some (.ok error))) ∧
      ∀ version < 2 ^ 16, ∀ sender recipient v,
        (Envelope.mk version sender recipient (.errorReply id error)).Written v →
          (Envelope.decoder.ofText v.render).map (·.message.remoteError?) =
            .ok (some (.ok error)) := by
  refine ⟨CorrelationId.parse_toText,
    fun m => ⟨m.written_toJson, m.written_members, fun _ written => written.id?⟩,
    fun e => ⟨e.written_toJson, e.written_members⟩, fun _ => Message.restored,
    fun _ => Envelope.restored, fun text m decoded integral => ?_, fun text e decoded integral => ?_,
    fun id error => ⟨Message.remoteError?_errorReply id error, fun v written => ?_,
      fun version word sender recipient v written => ?_⟩⟩
  · have legible : Legible (depthLimit - 1) m.payload := Message.yields_decoder.whole? decoded
    exact Message.restored (legible.portable integral)
  · have legible : e.version < 2 ^ 16 ∧ Legible (depthLimit - 2) e.message.payload :=
      Envelope.yields_decoder.whole? decoded
    exact Envelope.restored legible.1 (legible.2.portable integral)
  · rw [Message.restored (error.portable_toPayload _) v written]
    exact congrArg Except.ok (Message.remoteError?_errorReply id error)
  · rw [Envelope.restored word (error.portable_toPayload _) v written]
    exact congrArg Except.ok (Message.remoteError?_errorReply id error)

def spelled : String :=
  "\x7b\"payload\":[-5],\"extra\":null,\"type\":\"login\",\"kind\":\"request\",\"correlation_id\":\"" ++
    "\x7b01A2B3C4-D5E6-7000-8000-000000000001\x7d\"\x7d"

def listed : String := "[1,\"caller\",\"service\",[\"request\",\"login\",[-5],null]]"

theorem wire_round_trips_login :
    let payload : Json := .arr [.num (.int (-5))]
    let m : Message := ⟨.request, "login", payload, some (.fresh 1)⟩
    let e : Envelope := ⟨1, "caller", "service", m⟩
    let error : RemoteError := .unhandled "login"
    Message.decoder.ofText m.toJson.render = .ok m ∧
      Envelope.decoder.ofText e.toJson.render = .ok e ∧
      (∃ n, Message.decoder.ofText spelled = .ok n ∧ n.id? = m.id? ∧
        Message.decoder.ofText n.toJson.render = .ok n) ∧
      (∃ n, Envelope.decoder.ofText listed = .ok n ∧ n.message.id? = none ∧
        Envelope.decoder.ofText n.toJson.render = .ok n) ∧
      (Message.decoder.ofText (Message.errorReply (.fresh 1) error).toJson.render).map
        Message.remoteError? = .ok (some (.ok error)) ∧
      (Envelope.decoder.ofText (Envelope.mk 1 "service" "caller"
        (.errorReply (.fresh 1) error)).toJson.render).map (·.message.remoteError?) =
          .ok (some (.ok error)) := by
  intro payload m e error
  obtain ⟨-, writes, envelopes, restored, delivered, again, forwarded, errors⟩ := wire_round_trips
  have portable (room : Nat) : Portable (room + 1) payload := by
    refine ⟨fun v member => ?_, fun n member => ?_⟩
    · cases List.mem_singleton.mp member
      cases room <;> trivial
    · cases List.mem_singleton.mp member
      exact ⟨by decide, by decide⟩
  have integral {v : Json} (only : v.numbers = [.int (-5)]) : v.Integral := fun x member => by
    rw [only] at member
    cases List.mem_singleton.mp member
  refine ⟨restored m (portable _) _ (writes m).1, delivered e (by decide) (portable _) _ (envelopes e).1,
    ?_, ?_, (errors (.fresh 1) error).2.1 _ (writes _).1,
    (errors (.fresh 1) error).2.2 1 (by decide) _ _ _ (envelopes _).1⟩
  · have read : (Message.decoder.ofText spelled).toOption.any (fun n =>
        decide (n.id? = some (.fresh 1) ∧ n.payload.numbers = [.int (-5)])) = true := by
      decide +kernel
    cases decoded : Message.decoder.ofText spelled with
    | error => rw [decoded] at read; cases read
    | ok n =>
      rw [decoded] at read
      obtain ⟨named, only⟩ := of_decide_eq_true read
      exact ⟨n, rfl, named, again _ n decoded (integral only) _ (writes n).1⟩
  · have read : (Envelope.decoder.ofText listed).toOption.any (fun n =>
        decide (n.message.id? = none ∧ n.message.payload.numbers = [.int (-5)])) = true := by
      decide +kernel
    cases decoded : Envelope.decoder.ofText listed with
    | error => rw [decoded] at read; cases read
    | ok n =>
      rw [decoded] at read
      obtain ⟨oneWay, only⟩ := of_decide_eq_true read
      exact ⟨n, rfl, oneWay, forwarded _ n decoded (integral only) _ (envelopes n).1⟩

end MessageRelay
