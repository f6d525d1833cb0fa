import MessageRelay.Metrics.Event
import MessageRelay.Number.Shortest

/-!
Collectors of metric events, and their text. Families come in the order of their names, the series of
a family in the order of their label. A family with labels and no series yet is left out.
-/
namespace MessageRelay

/-- Observations below each bound, their sum in seconds, and how many there are. -/
structure Histogram where
  buckets : List Nat
  sum : Float
  count : Nat

abbrev Series (α : Type) := List (String × α)

namespace Series

def update {α : Type} (new : α) (f : α → α) (label : String) : Series α → Series α
  | [] => [(label, f new)]
  | (l, a) :: rest =>
    if label < l then (label, f new) :: (l, a) :: rest
    else if label = l then (l, f a) :: rest
    else (l, a) :: update new f label rest

end Series

namespace Histogram

def bounds : List Float := (List.range 16).map fun n => 0.0001 * (Nat.pow 2 n).toFloat

def empty : Histogram := ⟨bounds.map fun _ => 0, 0.0, 0⟩

def place (x : Float) : List Float → List Nat → List Nat
  | b :: bs, n :: ns => if x ≤ b then (n + 1) :: ns else n :: place x bs ns
  | _, ns => ns

def observe (x : Float) (h : Histogram) : Histogram :=
  ⟨place x bounds h.buckets, h.sum + x, h.count + 1⟩

end Histogram

structure Collectors where
  messagesSent : Series Nat := []
  responsesMatched : Nat := 0
  staleResponses : Nat := 0
  callTimeouts : Nat := 0
  pendingCalls : Nat := 0
  requestsReceived : Series Nat := []
  unhandledRequests : Nat := 0
  handlerFailures : Series Nat := []
  handlerDuration : Series Histogram := []
  timersFired : Nat := 0

namespace Collectors

/-- Whole seconds and the fraction become doubles first, and are then added. -/
def seconds (d : Nanos) : Float :=
  (d / 1000000000).toFloat + (d % 1000000000).toFloat / 1000000000.0

def record (c : Collectors) : MetricEvent → Collectors
  | .requestSent _ => { c with messagesSent := c.messagesSent.update 0 (· + 1) "request" }
  | .notificationSent _ => { c with messagesSent := c.messagesSent.update 0 (· + 1) "notify" }
  | .replySent _ => { c with messagesSent := c.messagesSent.update 0 (· + 1) "reply" }
  | .requestReceived t => { c with requestsReceived := c.requestsReceived.update 0 (· + 1) t }
  | .responseMatched => { c with responsesMatched := c.responsesMatched + 1 }
  | .staleResponse => { c with staleResponses := c.staleResponses + 1 }
  | .unhandled _ => { c with unhandledRequests := c.unhandledRequests + 1 }
  | .handlerCompleted t elapsed =>
    { c with handlerDuration :=
        c.handlerDuration.update Histogram.empty (Histogram.observe (seconds elapsed)) t }
  | .handlerFailed _ kind =>
    { c with handlerFailures := c.handlerFailures.update 0 (· + 1) kind.name }
  | .callTimedOut => { c with callTimeouts := c.callTimeouts + 1 }
  | .timerFired => { c with timersFired := c.timersFired + 1 }
  | .pendingCalls n => { c with pendingCalls := n }

def escapeLabel (s : String) : String :=
  String.ofList (s.toList.flatMap fun c =>
    if c = '\\' then ['\\', '\\'] else if c = '"' then ['\\', '"']
    else if c = '\n' then ['\\', 'n'] else [c])

def label (key value : String) : String := key ++ "=\"" ++ escapeLabel value ++ "\""

def sample (name : String) (labels : List String) (value : String) : String :=
  let set := if labels.isEmpty then "" else "\x7b" ++ ",".intercalate labels ++ "\x7d"
  name ++ set ++ " " ++ value

def family (name kind help : String) (samples : List String) : List String :=
  if samples.isEmpty then []
  else s!"# HELP {name} {help}" :: s!"# TYPE {name} {kind}" :: samples

def counter (name help : String) (n : Nat) : List String :=
  family name "counter" help [sample name [] (Shortest.plain n.toFloat)]

def counters (name help key : String) (s : Series Nat) : List String :=
  family name "counter" help
    (s.map fun (l, n) => sample name [label key l] (Shortest.plain n.toFloat))

def bucketSamples (name key l : String) : (below : Nat) → List Float → List Nat → List String
  | below, b :: bs, n :: ns =>
    sample (name ++ "_bucket") [label key l, label "le" (Shortest.plain b)]
      (Shortest.plain (below + n).toFloat) :: bucketSamples name key l (below + n) bs ns
  | _, _, _ => []

def histogram (name key l : String) (h : Histogram) : List String :=
  bucketSamples name key l 0 Histogram.bounds h.buckets ++
    [sample (name ++ "_bucket") [label key l, label "le" "+Inf"] (Shortest.plain h.count.toFloat),
     sample (name ++ "_sum") [label key l] (Shortest.plain h.sum),
     sample (name ++ "_count") [label key l] (Shortest.plain h.count.toFloat)]

def histograms (name help key : String) (s : Series Histogram) : List String :=
  family name "histogram" help (s.flatMap fun (l, h) => histogram name key l h)

def lines (c : Collectors) : List String :=
  histograms "sr_dispatch_handler_duration_seconds" "Time from handler start to its result"
      "msg_type" c.handlerDuration ++
    counters "sr_dispatch_handler_failures_total" "Handlers that errored or panicked" "kind"
      c.handlerFailures ++
    counters "sr_dispatch_messages_sent_total" "Messages sent by the dispatcher" "kind"
      c.messagesSent ++
    counters "sr_dispatch_requests_received_total" "Inbound requests" "msg_type"
      c.requestsReceived ++
    counter "sr_dispatch_unhandled_total" "Inbound requests with no handler for their namespace"
      c.unhandledRequests ++
    family "sr_pending_calls" "gauge" "Outbound calls currently awaiting a reply"
      [sample "sr_pending_calls" [] (Shortest.plain c.pendingCalls.toFloat)] ++
    counter "sr_pending_responses_matched_total" "Replies that resolved or failed a pending call"
      c.responsesMatched ++
    counter "sr_pending_stale_responses_total" "Replies discarded because no call was pending"
      c.staleResponses ++
    counter "sr_pending_timeouts_total" "Outbound calls failed by timeout" c.callTimeouts ++
    counter "sr_timer_fired_total" "Timer callbacks invoked" c.timersFired

end Collectors

end MessageRelay
