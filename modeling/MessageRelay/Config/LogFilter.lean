import MessageRelay.Text.Blank
import MessageRelay.Text.Unsigned
import MessageRelay.Text.Word

/-!
Log filters: directives with commas between them, each a level, a target, or a target and a span with
fields, and a level after an equals sign. A filter is only checked here.
-/
namespace MessageRelay.LogFilter

inductive FilterError where
  | directive
  | level
  deriving DecidableEq, Repr

def FilterError.message : FilterError → String
  | .directive => "invalid filter directive"
  | .level =>
    "error parsing level filter: expected one of \"off\", \"error\", \"warn\", \"info\", " ++
      "\"debug\", \"trace\", or a number 0-5"

def isLevel (s : List Char) : Bool :=
  (Text.unsigned? 64 (String.ofList s)).any (· ≤ 5) ||
    ["off", "error", "warn", "info", "debug", "trace"].contains (String.ofList (s.map Char.toLower))

inductive State where
  | start
  | name
  | span
  | field (empty : Bool)
  | fields
  | closed
  | level (start : Nat)
  deriving DecidableEq, Repr

def step (state : State) (c : Char) (next : Nat) : Except FilterError State :=
  match state with
  | .start =>
    if c = '[' then .ok .span
    else if c = '-' || c = ':' || c = '_' || Text.isWordChar c then .ok .name
    else .error .directive
  | .name =>
    if c = '=' then .ok (.level next) else if c = '[' then .ok .span else .ok .name
  | .span =>
    if c = ']' then .ok .closed else if c = '{' then .ok (.field true) else .ok .span
  | .field empty =>
    if c = '}' then if empty then .error .directive else .ok .fields else .ok (.field false)
  | .fields => if c = ']' then .ok .closed else .error .directive
  | .closed => if c = '=' then .ok (.level next) else .error .directive
  | .level start => .ok (.level start)

def walk : State → (index : Nat) → List Char → Except FilterError State
  | state, _, [] => .ok state
  | state, index, c :: rest => do
    let next := index + c.utf8Size
    walk (← step state c next) next rest

def dropBytes : Nat → List Char → List Char
  | 0, s => s
  | _, [] => []
  | n + 1, c :: rest => dropBytes (n + 1 - c.utf8Size) rest

/-- The blanks around a directive do not count for its form. The text of a level, though, runs from
its place to the end of the directive as it stands, so that blanks after it make it no level. -/
def checkDirective (s : String) : Except FilterError Unit := do
  match ← walk .start 0 (Text.trim s).toList with
  | .name | .closed => pure ()
  | .level start =>
    let text := dropBytes start s.toList
    if text.isEmpty || isLevel text then pure () else throw .level
  | _ => throw .directive

def directives : List Char → List (List Char)
  | [] => [[]]
  | c :: rest =>
    match directives rest with
    | [] => [[c]]
    | d :: ds => if c = ',' then [] :: d :: ds else (c :: d) :: ds

def check (filter : String) : Except FilterError Unit :=
  ((directives filter.toList).filter (!·.isEmpty)).forM fun d => checkDirective (String.ofList d)

end MessageRelay.LogFilter
