import PolySql.ResultSet

/-!
# Responses

What a driver reports of one statement: the rows, the number of rows affected, and the values that
came back through out-parameters, by name.
-/

namespace PolySql

/-- The report of one statement. -/
structure Response where
  resultSet : ResultSet := {}
  rowsAffected : Nat := 0
  /-- The values of out-parameters; of two entries of a name the first one counts. -/
  outBinds : List (String × Value) := []
  deriving Inhabited

namespace Response

/-- The response without rows. -/
def empty : Response := {}

/-- The response of a statement that gave rows. -/
def ofRows (set : ResultSet) : Response :=
  { resultSet := set, rowsAffected := set.size }

/-- The response of a statement that changed rows. -/
def ofCount (n : Nat) : Response :=
  { rowsAffected := n }

/-- The value that came back under a name. -/
def outBind? (r : Response) (name : String) : Option Value :=
  r.outBinds.lookup name

end Response

end PolySql
