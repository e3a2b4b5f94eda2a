import PolySql.Double.Basic

/-!
# JSON values

A number is a non-negative integer of 64 bits, a negative one, or a double; the three classes never
compare equal, so `1` and `1.0` are different values.  An object is a list of members in increasing
order of their names, each name once: `Json.insertMember` keeps it so.
-/

namespace PolySql

/-! ### The type -/

/-- A JSON number, by the class that its text has. -/
inductive JsonNumber where
  | natural (n : UInt64)
  | negative (n : Int64)
  | double (x : Double)
  deriving DecidableEq

/-- A JSON value. -/
inductive Json where
  | null
  | bool (b : Bool)
  | number (n : JsonNumber)
  | string (s : String)
  | array (items : List Json)
  | object (members : List (String × Json))
  deriving Inhabited

namespace JsonNumber

/-- Whether two numbers are of one class and numerically equal. -/
def same : JsonNumber → JsonNumber → Bool
  | .natural m, .natural n => m == n
  | .negative m, .negative n => m == n
  | .double x, .double y => x.same y
  | _, _ => false

/-- The integer that a number is, if its class holds integers. -/
def toInt? : JsonNumber → Option Int
  | .natural n => some n.toNat
  | .negative n => some n.toInt
  | .double _ => none

end JsonNumber

namespace Json

/-! ### Equality -/

mutual

/-- Whether two values are equal, their numbers compared by `JsonNumber.same`. -/
def same : Json → Json → Bool
  | .null, .null => true
  | .bool a, .bool b => a == b
  | .number m, .number n => m.same n
  | .string s, .string t => s == t
  | .array xs, .array ys => sameItems xs ys
  | .object xs, .object ys => sameMembers xs ys
  | _, _ => false

/-- Whether two lists of values agree place by place. -/
def sameItems : List Json → List Json → Bool
  | [], [] => true
  | x :: xs, y :: ys => x.same y && sameItems xs ys
  | _, _ => false

/-- Whether two lists of members agree place by place. -/
def sameMembers : List (String × Json) → List (String × Json) → Bool
  | [], [] => true
  | (k, x) :: xs, (l, y) :: ys => k == l && x.same y && sameMembers xs ys
  | _, _ => false

end

/-! ### Members -/

/-- Put a member into a list that is in increasing order of names, in place of one of that name. -/
def insertMember (name : String) (value : Json) :
    List (String × Json) → List (String × Json)
  | [] => [(name, value)]
  | (k, v) :: rest =>
    if name < k then (name, value) :: (k, v) :: rest
    else if k = name then (name, value) :: rest
    else (k, v) :: insertMember name value rest

/-- The object of the given members, of which a later one replaces an earlier one of its name. -/
def ofMembers (members : List (String × Json)) : Json :=
  .object (members.foldl (fun acc (k, v) => insertMember k v acc) [])

/-- The member of a name, if the value is an object that has one. -/
def member? (name : String) : Json → Option Json
  | .object members => members.lookup name
  | _ => none

/-- The number of an integer, when it fits into one of the two integer classes. -/
def ofInt? (i : Int) : Option Json :=
  if 0 ≤ i ∧ i < 0x1_0000_0000_0000_0000 then some (.number (.natural (UInt64.ofNat i.toNat)))
  else if -0x8000_0000_0000_0000 ≤ i ∧ i < 0 then some (.number (.negative (Int64.ofInt i)))
  else none

/-- The number of a natural number below `2 ^ 64`. -/
def ofNat (n : Nat) : Json :=
  .number (.natural (UInt64.ofNat n))

end Json

end PolySql
