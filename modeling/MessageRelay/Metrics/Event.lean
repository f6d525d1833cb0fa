import MessageRelay.Failure

/-!
What a dispatcher reports to its metrics.
-/
namespace MessageRelay

/-- Times and durations, in nanoseconds. -/
abbrev Nanos := Nat

inductive MetricEvent where
  | requestSent (typeName : String)
  | notificationSent (typeName : String)
  | replySent (typeName : String)
  | requestReceived (typeName : String)
  | responseMatched
  | staleResponse
  | unhandled (typeName : String)
  | handlerCompleted (typeName : String) (elapsed : Nanos)
  | handlerFailed (typeName : String) (kind : RemoteErrorKind)
  | callTimedOut
  | timerFired
  | pendingCalls (count : Nat)
  deriving DecidableEq, Repr

end MessageRelay
