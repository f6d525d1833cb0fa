import MessageRelay.Timer.Queue

/-!
Code that runs inside of timers. A pass over a queue runs the callback of each timer it fires; such
code, and code that runs when a callback is discarded, may use the same queue again, passes included.
The machine keeps the passes and the code under way on a stack. What the code does is not part of it:
each move is chosen from outside, so the runs of the machine are those of all callbacks there can be.
-/
namespace MessageRelay

inductive TimerFrame (α : Type) where
  | pass (now : Nanos) (count : Nat)
  | callback (id : TimerId) (payload : α)
  | discard (payload : α)

structure TimerMachine (α : Type) where
  queue : TimerQueue α := {}
  stack : List (TimerFrame α) := []

/-- `enter` starts a pass, `advance` has the innermost pass take its next timer or end, and `leave` ends
the innermost code. The others are those of code that runs. -/
inductive TimerMove (α : Type) where
  | schedule (deadline : Nanos) (payload : α)
  | cancel (id : TimerId)
  | clear
  | look
  | enter (now : Nanos)
  | advance
  | leave

inductive TimerAnswer (α : Type) where
  | scheduled (handle : TimerHandle)
  | cancelled (payload : Option α)
  | cleared (payloads : List α)
  | deadline (at? : Option Nanos)
  | entered
  | fired (id : TimerId) (payload : α)
  | finished (count : Nat)
  | left
  | refused

namespace TimerMachine

variable {α : Type}

/-- Code is running: outside of all passes, or in a callback. -/
def inCode (m : TimerMachine α) : Bool :=
  match m.stack with
  | .pass _ _ :: _ => false
  | _ => true

def step (m : TimerMachine α) (move : TimerMove α) : TimerAnswer α × TimerMachine α :=
  match move, m.stack with
  | .advance, .pass now count :: below =>
    match m.queue.popDue now with
    | (some (id, payload), queue) =>
      (.fired id payload, ⟨queue, .callback id payload :: .pass now count :: below⟩)
    | (none, queue) => (.finished count, ⟨queue.endPass count, below⟩)
  | .advance, _ => (.refused, m)
  | .leave, .callback _ _ :: .pass now count :: below =>
    (.left, { m with stack := .pass now (count + 1) :: below })
  | .leave, .discard _ :: below => (.left, { m with stack := below })
  | .leave, _ => (.refused, m)
  | _, .pass _ _ :: _ => (.refused, m)
  | .schedule deadline payload, _ =>
    let (handle, queue) := m.queue.scheduleAt deadline payload
    (.scheduled handle, { m with queue := queue })
  | .cancel id, stack =>
    let (payload, queue) := m.queue.cancel id
    (.cancelled payload, ⟨queue, (payload.map TimerFrame.discard).toList ++ stack⟩)
  | .clear, stack =>
    let (payloads, queue) := m.queue.clear
    (.cleared payloads, ⟨queue, payloads.map TimerFrame.discard ++ stack⟩)
  | .look, _ =>
    let (at?, queue) := m.queue.nextDeadline
    (.deadline at?, { m with queue := queue })
  | .enter now, stack => (.entered, { m with stack := .pass now 0 :: stack })

end TimerMachine

end MessageRelay
