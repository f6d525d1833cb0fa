import MessageRelay.Call.Machine
import MessageRelay.Dispatch.Machine
import MessageRelay.Dispatch.Program

/-!
A dispatcher shows its table of calls and the timers of it, so that who holds the dispatcher can use
both without it. Somebody may also have put a hook of his own into the table, and that runs in the
middle of a pass, where other code does not. The acts are those of all who hold a dispatcher; each is
chosen from outside.
-/
namespace MessageRelay

/-- Code moves, also where a hook runs in a pass; or somebody uses the table itself, or drives the
timers. -/
inductive HolderAct (β : Type) where
  | move (move : DispatchMove β)
  | hook (move : DispatchMove β)
  | table (operation : CallMove β)
  | look
  | heed

namespace DispatchMachine

variable {η β : Type}

/-- The table with the replies of it that are held, without the dispatcher around. -/
def bare (m : DispatchMachine η β) : CallMachine β where
  now := m.now
  table := m.site.dispatcher.table
  replies := m.replies

/-- An operation on the table itself. The dispatcher is told only if a call times out thereby; of a
timer that is scheduled here it does not know. -/
def onTable (operation : CallMove β) (m : DispatchMachine η β) :
    CallAnswer × DispatchMachine η β :=
  let (answer, c) := m.bare.operate operation
  let n := { m with site.dispatcher.table := c.table, replies := c.replies }
  (answer, match operation, answer with
    | .expire _, .flag true => { n with site := n.site.modify (·.report .callTimedOut) }
    | .schedule _ _, .handle handle =>
      { n with site.dispatcher.foreign := handle.id :: n.site.dispatcher.foreign }
    | _, _ => n)

def act (m : DispatchMachine η β) : HolderAct β → DispatchMachine η β
  | .move move => (m.step move).2
  | .hook move => (m.operate move).2
  | .table operation => (m.onTable operation).2
  | .look =>
    { m with site.dispatcher.table.timers := m.site.dispatcher.table.timers.nextDeadline.2 }
  | .heed => { m with site.dispatcher.table.timers.rearm := false }

def acts (m : DispatchMachine η β) (as : List (HolderAct β)) : DispatchMachine η β :=
  as.foldl act m

/-- Runs a program up to the answer to the request that it starts with, which is sent under this id. -/
def issue {α : Type} (id : CorrelationId) (m : DispatchMachine η β) :
    Program α → Program α × DispatchMachine η β
  | .perform (.request target typeName payload timeout?) next =>
    let timeout := timeout?.getD m.site.dispatcher.defaultTimeout
    match m.operate (.request id target typeName payload timeout) with
    | (.requested reply, m) => (next reply, m)
    | (_, m) => (.perform (.request target typeName payload timeout?) next, m)
  | p => (p, m)

end DispatchMachine

end MessageRelay
