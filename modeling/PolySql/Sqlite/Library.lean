import PolySql.Sqlite.Connection

/-!
# SQLite as a pool sees it

A `Library` opens connections to one database file, has jobs done on them, and closes them.  What it
makes of a job is left open, failures included: all of that is decided by the file, which stands for
everything outside of the connections.  `Library.memory` is the library of databases in memory.

Jobs are done on blocking threads, which may panic in the middle of one.
-/

namespace PolySql.Sqlite

/-- What a blocking thread is given to do with a connection. -/
inductive Job where
  /-- Run words without parameters. -/
  | batch (words : String)
  /-- Run a statement and collect what it gives. -/
  | statement (sql : String) (values : List Stored)

/-- How a blocking thread ends. -/
inductive Outcome where
  /-- The job was done or failed; a statement that was done has a response. -/
  | finished (result : Except DriverError (Option Response))
  /-- The thread panicked; the report says so. -/
  | panicked (report : String)

/-- Do a job on a connection to a database in memory: how it ends, and the connection afterwards. -/
def Connection.perform (c : Connection) : Job → Outcome × Connection
  | .batch words =>
    match c.batch words with
    | .ok after => (.finished (.ok none), after)
    | .error report => (.finished (.error report), c)
  | .statement sql values =>
    match c.run sql values with
    | .ok (response, after) => (.finished (.ok (some response)), after)
    | .error report => (.finished (.error report), c)

/-- A job that is over: how it ended, and the connection and the file afterwards. -/
structure Done (File Handle : Type) where
  outcome : Outcome
  handle : Handle
  file : File

/-- SQLite, with connections to one database file. -/
structure Library where
  /-- The database file, with all that decides on what fails. -/
  File : Type
  /-- A connection. -/
  Handle : Type
  /-- The file in the beginning. -/
  file : File
  /-- Open a connection, or report why there is none. -/
  connect : File → Except String Handle × File
  /-- Whether a connection is outside of all transactions. -/
  isAutocommit : Handle → Bool
  /-- Do a job on a connection. -/
  perform : Job → Handle → File → Done File Handle
  /-- Close a connection. -/
  close : Handle → File → File

namespace Library

/-- Databases in memory: no connection shares anything with another one. -/
def memory : Library where
  File := Unit
  Handle := Connection
  file := ()
  connect _ := (.ok {}, ())
  isAutocommit := Connection.isAutocommit
  perform job c _ := { outcome := (c.perform job).1, handle := (c.perform job).2, file := () }
  close _ _ := ()

end Library

end PolySql.Sqlite
