import SchemaDraft.Number.Basic

/-!
JSON values. An object keeps its members in the order in which they were written, repeated keys
included; of a repeated key the last member counts.
-/

namespace SchemaDraft

/-- A JSON value. -/
inductive Json where
  | null
  | bool (b : Bool)
  | number (n : Number)
  | string (s : String)
  | array (items : List Json)
  | object (members : List (String × Json))
  deriving Inhabited

namespace Json

/-- The last member of a list with this key. -/
def lastMember (key : String) : List (String × Json) → Option Json
  | [] => none
  | (k, v) :: rest =>
    match lastMember key rest with
    | some w => some w
    | none => if k = key then some v else none

/-- The member of an object with this key. -/
def get? (key : String) : Json → Option Json
  | object members => lastMember key members
  | _ => none

mutual

/-- How deep containers that are not empty lie in one another. -/
def depth : Json → Nat
  | array [] => 0
  | array (v :: vs) => depthOfItems (v :: vs) + 1
  | object [] => 0
  | object (m :: ms) => depthOfMembers (m :: ms) + 1
  | _ => 0

def depthOfItems : List Json → Nat
  | [] => 0
  | v :: vs => max (depth v) (depthOfItems vs)

/-- The greatest depth of the values of some members. -/
def depthOfMembers : List (String × Json) → Nat
  | [] => 0
  | (_, v) :: ms => max (depth v) (depthOfMembers ms)

end

mutual

/-- The numbers in a value, in order. -/
def numbers : Json → List Number
  | number n => [n]
  | array items => numbersOfItems items
  | object members => numbersOfMembers members
  | _ => []

def numbersOfItems : List Json → List Number
  | [] => []
  | v :: vs => numbers v ++ numbersOfItems vs

/-- The numbers in the values of some members. -/
def numbersOfMembers : List (String × Json) → List Number
  | [] => []
  | (_, v) :: ms => numbers v ++ numbersOfMembers ms

end

end Json

end SchemaDraft
