import MessageRelay.Handler.Script
import MessageRelay.Relay.Session

/-!
Reports: statistics, and what a host did since its journal had some length, as JSON. New ids are
random elsewhere, so a report names each by the host that used it for a request, and by its place
among the requests of that host.
-/
namespace MessageRelay

def Json.ofTime (t : Nanos) : Json := .ofNat (t / 1000000)

def Json.ofOption {α : Type} (f : α → Json) (a? : Option α) : Json := (a?.map f).getD .null

def TransportError.toJson (e : TransportError) : Json :=
  .ofMembers [("error", .str e.name), ("message", .str e.message)]

def TimerStats.toJson (s : TimerStats) : Json :=
  .ofMembers [("scheduled", .ofNat s.scheduled), ("fired", .ofNat s.fired),
    ("cancelled", .ofNat s.cancelled), ("live", .ofNat s.live)]

def CallStats.toJson (s : CallStats) : Json :=
  .ofMembers [("registered", .ofNat s.registered), ("completed", .ofNat s.completed),
    ("failed", .ofNat s.failed), ("timed_out", .ofNat s.timedOut),
    ("cancelled", .ofNat s.cancelled), ("stale", .ofNat s.stale),
    ("duplicates", .ofNat s.duplicates), ("pending", .ofNat s.pending),
    ("settled", .ofNat s.ended)]

def DispatchStats.toJson (s : DispatchStats) : Json :=
  let c := s.counters
  .ofMembers [("requests_sent", .ofNat c.requestsSent),
    ("notifications_sent", .ofNat c.notificationsSent), ("replies_sent", .ofNat c.repliesSent),
    ("requests_received", .ofNat c.requestsReceived),
    ("responses_matched", .ofNat c.responsesMatched), ("stale_responses", .ofNat c.staleResponses),
    ("unhandled", .ofNat c.unhandled), ("handler_failures", .ofNat c.handlerFailures),
    ("in_flight", .ofNat s.inFlight), ("pending", s.pending.toJson), ("timers", s.timers.toJson)]

def TimerHandle.toJson (h : TimerHandle) : Json :=
  .ofMembers [("seq", .ofNat h.id), ("fire_at", .ofTime h.fireAt)]

def InboundOutcome.toJson {η : Type} (o : InboundOutcome η) : Json :=
  .ofMembers [("outcome", .str o.name), ("id", .ofOption (fun id => .str id.toText) o.id?),
    ("as_error", .ofOption CallError.toJson o.error?)]

def MetricEvent.name? : MetricEvent → Option String
  | .requestSent t => some s!"request_sent {t}"
  | .notificationSent t => some s!"notification_sent {t}"
  | .replySent t => some s!"reply_sent {t}"
  | .requestReceived t => some s!"request_received {t}"
  | .responseMatched => some "response_matched"
  | .staleResponse => some "stale_response"
  | .unhandled t => some s!"unhandled {t}"
  | .handlerCompleted t elapsed => some s!"handler_completed {t} {elapsed / 1000000}ms"
  | .handlerFailed t kind => some s!"handler_failed {t} {kind.name}"
  | .callTimedOut => some "call_timed_out"
  | .timerFired => some "timer_fired"
  | .pendingCalls _ => none

def MetricEvent.lastGauge? (events : List MetricEvent) : Option Nat :=
  (events.filterMap fun
    | .pendingCalls n => some n
    | _ => none).getLast?

def tally (names : List String) : Json :=
  .ofMembers (names.eraseDups.map fun name => (name, .ofNat (names.count name)))

namespace Deed

def event? : Deed → Option MetricEvent
  | .reported e => some e
  | .sent .. => none

def sentJson? : Deed → Option Json
  | .sent e refused? => some (.ofMembers ([("to", .str e.recipient), ("message", e.message.toJson)] ++
      (refused?.map fun error => ("refused", error.toJson)).toList))
  | .reported _ => none

def requestId? : Deed → Option CorrelationId
  | .sent e _ => if e.message.isRequest then e.message.id? else none
  | .reported _ => none

end Deed

namespace HostNote

def trace? (n : HostNote) : Option (Nat × Json) :=
  match n.content with
  | .work number w =>
    let members := match w with
      | .started handler i =>
        [("ev", Json.str "start"), ("ns", .str handler), ("type", .str i.typeName),
          ("payload", i.payload), ("from", .str i.sender), ("local", .str i.recipient),
          ("ctx_type", .str i.typeName), ("id", .ofOption (fun id => .str id.toText) i.id?),
          ("expects_reply", .bool i.id?.isSome)]
      | .did verb value => [("ev", .str verb), ("ok", value)]
      | .failed verb e => [("ev", .str verb), ("err", e.toJson)]
    some (number, .ofMembers (members ++ [("h", .ofNat number), ("t", .ofTime n.time)]))
  | _ => none

def reminder? (n : HostNote) : Option Json :=
  match n.content with
  | .reminded name => some (.arr [.str name, .ofTime n.time])
  | .cancelled name result => some (.arr [.str "cancel", .str name, .ofOption .bool result])
  | .work .. => none

end HostNote

def CallEnd.toJson (e : CallEnd) : Json :=
  .ofMembers [("as", .str e.name), ("t", .ofTime e.time), ("r", match e.result with
    | .ok (some r) => Script.resultJson (.ok r)
    | .ok none => .ofMembers [("ok", .null)]
    | .error e => e.toJson)]

namespace Relay

def callEnds (r : Relay) : List Json :=
  (r.results.toList.mergeSort fun a b => decide (a.name ≤ b.name)).map CallEnd.toJson

/-- What a host did since its journal was so long; its metrics only where they are shown. -/
def report (r : Relay) (shown : Bool) (since : Nat) (h : HostId) : List (String × Json) :=
  let journal := (r.host h).journal
  let deeds := (journal.extract since journal.size).toList
  let notes := r.notes.toList.filter (·.host = h)
  let events := if shown then deeds.filterMap Deed.event? else []
  let trace := (notes.filterMap HostNote.trace?).mergeSort fun a b => a.1 ≤ b.1
  let list (key : String) (entries : List Json) : List (String × Json) :=
    if entries.isEmpty then [] else [(key, .arr entries)]
  let names := events.filterMap MetricEvent.name?
  list "sent" (deeds.filterMap Deed.sentJson?) ++ list "trace" (trace.map (·.2)) ++
    list "timers" (notes.filterMap HostNote.reminder?) ++
    (if names.isEmpty then [] else [("metrics", tally names)]) ++
    ((MetricEvent.lastGauge? events).map fun n => ("pending_gauge", Json.ofNat n)).toList

def hostState (r : Relay) (h : HostId) : Json :=
  let table := (r.host h).dispatcher.table
  .ofMembers [("pending", .ofNat table.pendingCount), ("closed", .bool table.closed),
    ("timers", .ofNat table.timers.size), ("next_deadline", .ofOption .ofTime (r.nextDeadline h))]

def labels (r : Relay) : List (String × String) :=
  r.hosts.toList.flatMap fun h =>
    (h.journal.toList.filterMap Deed.requestId?).zipIdx.map fun (id, n) =>
      (id.toText, h.key ++ "#" ++ toString (n + 1))

def anonymous (label : String) (r : Relay) : List (String × String) :=
  (List.range r.issued).map fun n => ((CorrelationId.fresh n).toText, label)

end Relay

def CorrelationId.freshStart : String := ((fresh 0).toText.take 24).toString

def labelled (labels : List (String × String)) (s : String) : String :=
  if (s.splitOn CorrelationId.freshStart).length = 1 then s
  else labels.foldl (fun s l => s.replace l.1 l.2) s

namespace Json

mutual

/-- A value with labels in place of ids, in all of its texts but the keys. -/
def label (labels : List (String × String)) : Json → Json
  | .str s => .str (labelled labels s)
  | .arr items => .arr (labelItems labels items)
  | .obj members => .obj (labelMembers labels members)
  | j => j

def labelItems (labels : List (String × String)) : List Json → List Json
  | [] => []
  | j :: rest => label labels j :: labelItems labels rest

def labelMembers (labels : List (String × String)) : List (String × Json) → List (String × Json)
  | [] => []
  | (k, j) :: rest => (k, label labels j) :: labelMembers labels rest

end

end Json

end MessageRelay
