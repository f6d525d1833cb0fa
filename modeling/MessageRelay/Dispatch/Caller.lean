import MessageRelay.Dispatch.Holder

/-!
A caller that waits. A program that awaits replies goes on when it has a turn and all of them have a
result; between its turns others act. When it has turns is chosen from outside, like the acts.
-/
namespace MessageRelay

inductive CallerEvent (β : Type) where
  | act (a : HolderAct β)
  | turn

def CallerEvent.act? {β : Type} : CallerEvent β → Option (HolderAct β)
  | .act a => some a
  | .turn => none

namespace DispatchMachine

variable {η β α : Type}

def resume (m : DispatchMachine η β) : Program α → Program α
  | .perform (.await replies) next =>
    match m.site.dispatcher.table.resultsOf replies with
    | none => .perform (.await replies) next
    | some answers => next answers
  | p => p

/-- What becomes of a program that awaits replies, and of the machine around it. -/
def attend (m : DispatchMachine η β) (p : Program α) :
    List (CallerEvent β) → Program α × DispatchMachine η β
  | [] => (p, m)
  | .act a :: events => (m.act a).attend p events
  | .turn :: events => m.attend (m.resume p) events

end DispatchMachine

end MessageRelay
