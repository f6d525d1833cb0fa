/-!
JSON values. A number is an integer of the signed or unsigned 64-bit range, or a double.
The members of an object are kept sorted by key with one value per key, so that two objects are
equal exactly when they are the same map.
-/
namespace MessageRelay

/-- Integers are those from `-2^63` to `2^64 - 1`. -/
inductive Number where
  | int (value : Int)
  | double (value : Float)
  deriving DecidableEq

inductive Json where
  | null
  | bool (value : Bool)
  | num (value : Number)
  | str (value : String)
  | arr (items : List Json)
  | obj (members : List (String × Json))

namespace Json

/-- Puts a member where its key belongs; a value already stored under the key is replaced. -/
def insertMember (key : String) (value : Json) : List (String × Json) → List (String × Json)
  | [] => [(key, value)]
  | (k, v) :: rest =>
    if key < k then (key, value) :: (k, v) :: rest
    else if key = k then (key, value) :: rest
    else (k, v) :: insertMember key value rest

def ofMembers (members : List (String × Json)) : Json :=
  .obj (members.foldl (fun sorted m => insertMember m.1 m.2 sorted) [])

def ofNat (n : Nat) : Json := .num (.int n)

def ofInt (n : Int) : Json := .num (.int n)

def member? (key : String) : Json → Option Json
  | .obj members => (members.find? (·.1 = key)).map (·.2)
  | _ => none

def natural? : Json → Option Nat
  | .num (.int n) => if 0 ≤ n then some n.toNat else none
  | _ => none

mutual

/-- Equality by structure; doubles are compared as numbers, so that the two zeros are equal. -/
def same : Json → Json → Bool
  | .null, .null => true
  | .bool a, .bool b => a == b
  | .num (.int a), .num (.int b) => a == b
  | .num (.double a), .num (.double b) => a == b
  | .str a, .str b => a == b
  | .arr a, .arr b => sameItems a b
  | .obj a, .obj b => sameMembers a b
  | _, _ => false

def sameItems : List Json → List Json → Bool
  | [], [] => true
  | a :: as, b :: bs => same a b && sameItems as bs
  | _, _ => false

def sameMembers : List (String × Json) → List (String × Json) → Bool
  | [], [] => true
  | (k, a) :: as, (l, b) :: bs => k == l && same a b && sameMembers as bs
  | _, _ => false

end

instance : BEq Json := ⟨same⟩

instance : Inhabited Json := ⟨.null⟩

end Json

end MessageRelay
