/-!
The registry maps namespaces to handlers. A message type is routed to the handler of the longest
registered namespace that is all of it or a part of it up to a dot; the empty namespace takes what no
other does.
-/
namespace MessageRelay

inductive RegistryError where
  | duplicateNamespace (ns : String)
  | invalidNamespace (ns : String)
  deriving DecidableEq, Repr

def RegistryError.message : RegistryError → String
  | .duplicateNamespace ns => s!"a handler is already registered for namespace '{ns}'"
  | .invalidNamespace ns => s!"invalid namespace '{ns}': empty segment"

/-- Handlers by namespace, in the order they were registered. -/
structure Registry (η : Type) where
  entries : List (String × η) := []

namespace Registry

variable {η : Type}

def empty : Registry η := {}

/-- Whether two dots touch, or one stands at the front; `fresh` tells that a segment begins here. -/
def hasEmptySegment (fresh : Bool) : List Char → Bool
  | [] => fresh
  | c :: rest => if c = '.' then fresh || hasEmptySegment true rest else hasEmptySegment false rest

def validNamespace (ns : String) : Bool := ns.isEmpty || !hasEmptySegment true ns.toList

def find? (r : Registry η) (ns : String) : Option η :=
  (r.entries.find? (·.1 = ns)).map (·.2)

def register (r : Registry η) (ns : String) (handler : η) : Except RegistryError (Registry η) :=
  if !validNamespace ns then .error (.invalidNamespace ns)
  else if (r.find? ns).isSome then .error (.duplicateNamespace ns)
  else .ok ⟨r.entries ++ [(ns, handler)]⟩

/-- What stands before each dot of a text that is given backwards, the longest part first. -/
def cuts : List Char → List String
  | [] => []
  | c :: rest => if c = '.' then String.ofList rest.reverse :: cuts rest else cuts rest

/-- The namespaces that take a message type, the longest first. -/
def candidates (typeName : String) : List String :=
  typeName :: cuts typeName.toList.reverse ++ [""]

def resolve (r : Registry η) (typeName : String) : Option (String × η) :=
  (candidates typeName).findSome? fun ns => (r.find? ns).map fun handler => (ns, handler)

def namespaces (r : Registry η) : List String :=
  (r.entries.map (·.1)).mergeSort (fun a b => decide (a ≤ b))

def size (r : Registry η) : Nat := r.entries.length

end Registry

end MessageRelay
