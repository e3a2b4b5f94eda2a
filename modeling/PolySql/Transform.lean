import PolySql.Output

/-!
# Ready-made transforms

Transforms that a request may carry in place of the usual shape of its answer.
-/

namespace PolySql.Transform

/-- The number of rows, multiplied. -/
def countTimes (n : Nat) : Transform := fun response =>
  .ok (.count (response.resultSet.size * n))

/-- Always an error. -/
def fail (e : Error) : Transform := fun _ => .error e

/-- All rows. -/
def rows : Transform := fun response => .ok (.rows response.resultSet)

/-- The number of rows affected. -/
def affected : Transform := fun response => .ok (.count response.rowsAffected)

/-- The values that came back through out-parameters, in the order of their names. -/
def outBinds : Transform := fun response =>
  let sorted := response.outBinds.mergeSort fun a b => !(b.1 < a.1)
  .ok (.values (sorted.map Prod.snd))

/-- Nothing. -/
def unit : Transform := fun _ => .ok .unit

end PolySql.Transform
