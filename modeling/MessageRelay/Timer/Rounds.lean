import MessageRelay.Timer.Schedule

/-!
The loops of a schedule, round by round. A round looks at the slot in front: it ends the loop with an
answer, or takes the slot off and goes on. A loop also ends when no slot is left. It is told how many
rounds it may take, and has no answer where these are not enough.
-/
namespace MessageRelay.Schedule

variable {α β : Type}

inductive Round (α β : Type) where
  | ends (answer : β) (s : Schedule α)
  | passes (s : Schedule α)

/-- The slots that the loop passes over, its answer, and what is left of the schedule; `none` is the
answer where it runs out of slots. -/
def loop (round : Slot → Schedule α → Round α (Option β)) :
    (rounds : Nat) → Schedule α → Option (List Slot × Option β × Schedule α)
  | 0, s => if s.slots.isEmpty then some ([], none, s) else none
  | rounds + 1, s =>
    match s.slots with
    | [] => some ([], none, s)
    | slot :: _ =>
      match round slot s with
      | .ends answer s => some ([], answer, s)
      | .passes s => (loop round rounds s).map fun (passed, result) => (slot :: passed, result)

def dropFront (s : Schedule α) : Schedule α := { s with slots := s.slots.tail }

def dueRound (now : Nanos) (slot : Slot) (s : Schedule α) : Round α (Option (TimerId × α)) :=
  if now < slot.fireAt then .ends none s
  else
    match s.dropFront.remove slot.id with
    | (some payload, s) => .ends (some (slot.id, payload)) s
    | (none, s) => .passes s

def deadlineRound (slot : Slot) (s : Schedule α) : Round α (Option Nanos) :=
  if s.contains slot.id then .ends (some slot.fireAt) s else .passes s.dropFront

end MessageRelay.Schedule
