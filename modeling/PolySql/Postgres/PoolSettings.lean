import PolySql.Error

/-!
# Settings of a PostgreSQL pool

A pool needs the name of a database, a host, alone or in a list, and a user, and they are asked for
in this order.
-/

namespace PolySql.Postgres

/-- The settings of a pool. -/
structure PoolSettings where
  dbname : Option String := none
  host : Option String := none
  hosts : Option (List String) := none
  user : Option String := none
  deriving DecidableEq, Repr

namespace PoolSettings

/-- Check the settings.  Nothing is connected. -/
def check (s : PoolSettings) : Except Error Unit :=
  if s.dbname.isNone then .error (.config "dbname is required")
  else if s.host.isNone && s.hosts.isNone then .error (.config "host is required")
  else if s.user.isNone then .error (.config "user is required")
  else if s.dbname = some "" then
    .error (.connection
      "Failed to create Postgres pool: Config: configuration property \"dbname\" not found")
  else .ok ()

end PoolSettings

end PolySql.Postgres
