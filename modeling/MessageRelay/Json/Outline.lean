import MessageRelay.Json.Reader

/-!
Where the parts of a document stand. The members of an object and the items of a list are passed over,
with a note of where each begins; so one part can be read whatever the others hold.
-/
namespace MessageRelay.Json

structure Part where
  name : String
  index : Nat

/-- Where the parts of an object or a list begin. -/
inductive Outline where
  | object (members : List (String × Cursor))
  | list (items : List Cursor)

def Outline.part? (part : Part) : Outline → Option Cursor
  | .object members => (members.find? (·.1 = part.name)).map (·.2)
  | .list items => items[part.index]?

namespace Reader

def place : Reader Cursor := do
  let here ← get
  ignore
  pure here

def outline : Reader Outline := do
  match ← ahead? with
  | none => failAhead .endOfValue
  | some c =>
    if c = '{' then
      skip
      let ms ← members place ((← remaining) + 1) true
      closeObject
      pure (.object ms)
    else if c = '[' then
      skip
      let places ← items place ((← remaining) + 1) true
      closeList
      pure (.list places)
    else failAhead .expectedValue

end Reader

/-- The value at the end of a path of parts, if all of them are there. -/
def valueAt : (path : List Part) → Cursor → Except DecodeError (Option Json)
  | [], c => do return some (← Reader.value depthLimit c).1
  | part :: path, c => do
    match (← Reader.outline c).1.part? part with
    | none => pure none
    | some here => valueAt path here

/-- What a document gives for a part of a part, and so on. -/
def given? (path : List Part) (text : String) : Except DecodeError (Option Json) :=
  valueAt path (Cursor.ofText text)

end MessageRelay.Json
