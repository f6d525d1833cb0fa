import MessageRelay.Metrics.Event

/-!
A schedule of timers. Slots stand in the order in which they are due; each names a timer, and timers
that are still live have a payload beside it. Removing a timer takes its payload only: the slot is
left out when it comes to the front.
-/
namespace MessageRelay

/-- Timers are numbered as they are scheduled, so the number also divides timers due at one time. -/
abbrev TimerId := Nat

structure Slot where
  fireAt : Nanos
  id : TimerId
  deriving DecidableEq, Repr

structure Schedule (α : Type) where
  slots : List Slot := []
  live : List (TimerId × α) := []
  next : TimerId := 0

namespace Schedule

variable {α : Type}

def empty : Schedule α := {}

def insertSlot (s : Slot) : List Slot → List Slot
  | [] => [s]
  | t :: rest => if s.fireAt < t.fireAt then s :: t :: rest else t :: insertSlot s rest

def find? (live : List (TimerId × α)) (id : TimerId) : Option α :=
  (live.find? (·.1 = id)).map (·.2)

def erase (live : List (TimerId × α)) (id : TimerId) : List (TimerId × α) :=
  live.eraseP (·.1 = id)

def insert (fireAt : Nanos) (payload : α) (s : Schedule α) : TimerId × Schedule α :=
  (s.next,
    { slots := insertSlot ⟨fireAt, s.next⟩ s.slots
      live := (s.next, payload) :: s.live
      next := s.next + 1 })

def contains (id : TimerId) (s : Schedule α) : Bool := (find? s.live id).isSome

def remove (id : TimerId) (s : Schedule α) : Option α × Schedule α :=
  (find? s.live id, { s with live := erase s.live id })

/-- The first live timer due by `now`, and the slots behind it. Slots in front of it are gone. -/
def firstDue (now : Nanos) (live : List (TimerId × α)) : List Slot → Option (TimerId × α) × List Slot
  | [] => (none, [])
  | s :: rest =>
    if now < s.fireAt then (none, s :: rest)
    else
      match find? live s.id with
      | some payload => (some (s.id, payload), rest)
      | none => firstDue now live rest

def popDue (now : Nanos) (s : Schedule α) : Option (TimerId × α) × Schedule α :=
  match firstDue now s.live s.slots with
  | (some (id, payload), slots) =>
    (some (id, payload), { s with slots := slots, live := erase s.live id })
  | (none, slots) => (none, { s with slots := slots })

def skipRemoved (live : List (TimerId × α)) : List Slot → List Slot
  | [] => []
  | s :: rest => if (find? live s.id).isSome then s :: rest else skipRemoved live rest

def nextDeadline (s : Schedule α) : Option Nanos × Schedule α :=
  let slots := skipRemoved s.live s.slots
  (slots.head?.map (·.fireAt), { s with slots := slots })

def size (s : Schedule α) : Nat := s.live.length

def isEmpty (s : Schedule α) : Bool := s.live.isEmpty

/-- Slots, those of removed timers included. -/
def slotCount (s : Schedule α) : Nat := s.slots.length

def drain (s : Schedule α) : List α × Schedule α :=
  (s.live.reverse.map (·.2), { s with slots := [], live := [] })

end Schedule

end MessageRelay
