import PolySql.Error
import PolySql.Sqlite.Library

/-!
# Pools of SQLite connections

A pool holds a bounded number of connections.  A connection that is handed back waits; before it is
handed out again it is looked at, and it is dropped if it was left inside a transaction.
Connections that are out are known by tickets, each of which is used once.  When the blocking thread
of a call panics, the connection goes back to the pool by itself, and the ticket is left without one.

Which of the waiting connections is handed out is not for the pool to say: that is the `checkout` of
the library that keeps them.  `Shelf.firstCome` hands them out in the order in which they came back.
-/

namespace PolySql.Sqlite

/-- A connection of a pool, with a number that no other connection of the pool gets. -/
structure Member (lib : Library) where
  serial : Nat
  handle : lib.Handle

/-- The connections that wait in a pool, and the file that they are on. -/
structure Shelf (lib : Library) where
  file : lib.File := lib.file
  idle : List (Member lib) := []
  /-- The number of connections opened so far. -/
  opened : Nat := 0

/-- A pool of connections. -/
structure Pool (lib : Library) where
  maxSize : Nat
  shelf : Shelf lib := {}
  /-- The tickets that are out, each with its connection if that was not lost. -/
  held : List (Nat × Option (Member lib)) := []
  /-- The next ticket. -/
  nextTicket : Nat := 0

variable {lib : Library}

/-! ### Waiting connections -/

/-- The look at a connection before it is handed out again. -/
def Member.recycle (m : Member lib) : Except String Unit :=
  if lib.isAutocommit m.handle then .ok ()
  else .error "connection left inside a transaction"

namespace Shelf

/-- Open a connection. -/
def create (s : Shelf lib) : Except String (Member lib) × Shelf lib :=
  match lib.connect s.file with
  | (.ok handle, file) =>
    (.ok { serial := s.opened, handle }, { s with file, opened := s.opened + 1 })
  | (.error report, file) => (.error report, { s with file })

/-- Close a connection. -/
def close (s : Shelf lib) (m : Member lib) : Shelf lib :=
  { s with file := lib.close m.handle s.file }

/-- Take a connection back. -/
def takeBack (s : Shelf lib) (m : Member lib) : Shelf lib :=
  { s with idle := s.idle ++ [m] }

/-- Hand out the first of the given waiting connections that stands the look at it; those before it
are dropped, and if there is none a connection is opened. -/
def handOut (s : Shelf lib) : List (Member lib) → Except String (Member lib) × Shelf lib
  | [] => { s with idle := [] }.create
  | m :: rest =>
    match m.recycle with
    | .ok () => (.ok m, { s with idle := rest })
    | .error _ => handOut ({ s with idle := rest }.close m) rest

/-- Hand out connections in the order in which they came back. -/
def firstCome (s : Shelf lib) : Except String (Member lib) × Shelf lib :=
  s.handOut s.idle

end Shelf

/-! ### Calls -/

/-- What can be asked of a connection. -/
inductive Call where
  | begin
  | commit
  | rollback
  | execute (sql : String) (params : List Param)

/-- The job of a call; a parameter that goes out alone is refused before there is one. -/
def Call.job : Call → Except DriverError Job
  | .begin => .ok (.batch "BEGIN")
  | .commit => .ok (.batch "COMMIT")
  | .rollback => .ok (.batch "ROLLBACK")
  | .execute sql params => (storedParams params).map (.statement sql)

/-- The connection of a ticket was lost. -/
def connectionLost : DriverError :=
  { message := "sqlite connection was lost by a failed blocking task" }

/-- A blocking thread panicked. -/
def joinFailed (report : String) : DriverError :=
  { message := "sqlite spawn_blocking join error: " ++ report }

/-- The answer to a call whose job ended in some way. -/
def Outcome.result : Outcome → Except DriverError (Option Response)
  | .finished result => result
  | .panicked report => .error (joinFailed report)

/-! ### Pools -/

/-- What can be asked of a pool by those who hold its tickets. -/
inductive Move where
  | acquire
  | call (ticket : Nat) (call : Call)
  | release (ticket : Nat)
  | destroy (ticket : Nat)

/-- What a move comes to. -/
inductive Note (lib : Library) where
  /-- A connection was handed out. -/
  | acquired (ticket : Nat) (m : Member lib)
  /-- There was no connection to be had. -/
  | unavailable (e : Error)
  /-- A job was done on the connection of a ticket, which is now as given. -/
  | ran (ticket : Nat) (job : Job) (outcome : Outcome) (after : Member lib)
  /-- A call came to nothing. -/
  | turnedAway (ticket : Nat) (report : DriverError)
  /-- A ticket was given back, with its connection if that was not lost. -/
  | released (ticket : Nat) (m : Option (Member lib))
  /-- A ticket was given up, and its connection closed if that was not lost. -/
  | destroyed (ticket : Nat) (m : Option (Member lib))
  /-- The caller has to wait, or has no such ticket. -/
  | nothing

namespace Pool

/-- Check the settings of a pool. -/
def open? (path : String) (maxSize : Nat) (lib : Library := .memory) : Except Error (Pool lib) :=
  if path.isEmpty then .error (.config "db_path is required")
  else if maxSize = 0 then .error (.config "max_size must be at least 1")
  else .ok { maxSize }

/-- The number of connections that are out. -/
def out (p : Pool lib) : Nat :=
  p.held.countP fun entry => entry.2.isSome

/-- Forget a ticket. -/
def forget (p : Pool lib) (ticket : Nat) : Pool lib :=
  { p with held := p.held.filter fun entry => entry.1 != ticket }

/-- Give a ticket another connection, or none. -/
def update (p : Pool lib) (ticket : Nat) (m : Option (Member lib)) : Pool lib :=
  { p with held := p.held.map fun entry => if entry.1 == ticket then (ticket, m) else entry }

/-- Hand a connection out, unless all are out and the caller has to wait. -/
def acquire (checkout : Shelf lib → Except String (Member lib) × Shelf lib) (p : Pool lib) :
    Note lib × Pool lib :=
  if p.out < p.maxSize then
    match checkout p.shelf with
    | (.ok m, shelf) =>
      (.acquired p.nextTicket m,
        { p with
          shelf
          held := (p.nextTicket, some m) :: p.held
          nextTicket := p.nextTicket + 1 })
    | (.error report, shelf) =>
      (.unavailable (.connection ("sqlite checkout error: " ++ report)), { p with shelf })
  else (.nothing, p)

/-- Do a job on the connection of a ticket.  If the thread panics, the connection goes back to the
pool as it is. -/
def runBlocking (p : Pool lib) (ticket : Nat) (m : Member lib) (job : Job) : Note lib × Pool lib :=
  let done := lib.perform job m.handle p.shelf.file
  let after : Member lib := { m with handle := done.handle }
  let shelf := { p.shelf with file := done.file }
  match done.outcome with
  | .finished result =>
    (.ran ticket job (.finished result) after, { p with shelf }.update ticket (some after))
  | .panicked report =>
    (.ran ticket job (.panicked report) after,
      { p with shelf := shelf.takeBack after }.update ticket none)

/-- Make a move. -/
def move (checkout : Shelf lib → Except String (Member lib) × Shelf lib) (p : Pool lib) :
    Move → Note lib × Pool lib
  | .acquire => p.acquire checkout
  | .call ticket call =>
    match p.held.lookup ticket with
    | none => (.nothing, p)
    | some connection =>
      match call.job, connection with
      | .error report, _ => (.turnedAway ticket report, p)
      | .ok _, none => (.turnedAway ticket connectionLost, p)
      | .ok job, some m => p.runBlocking ticket m job
  | .release ticket =>
    match p.held.lookup ticket with
    | none => (.nothing, p)
    | some none => (.released ticket none, p.forget ticket)
    | some (some m) =>
      (.released ticket (some m), { p.forget ticket with shelf := p.shelf.takeBack m })
  | .destroy ticket =>
    match p.held.lookup ticket with
    | none => (.nothing, p)
    | some none => (.destroyed ticket none, p.forget ticket)
    | some (some m) =>
      (.destroyed ticket (some m), { p.forget ticket with shelf := p.shelf.close m })

/-- Make one move after the other: what each comes to, and the pool afterwards. -/
def run (checkout : Shelf lib → Except String (Member lib) × Shelf lib) (p : Pool lib) :
    List Move → List (Note lib) × Pool lib
  | [] => ([], p)
  | next :: rest =>
    let (note, after) := p.move checkout next
    let (notes, last) := run checkout after rest
    (note :: notes, last)

end Pool

/-! ### One caller -/

/-- The statements on the table of a database in memory, and the ends of its transactions. -/
inductive Command where
  | begin
  | commit
  | rollback
  /-- `create table t (v)` -/
  | create
  /-- `insert into t (v) values (?), (?), …` -/
  | insert (params : List Param)
  /-- `delete from t where v is ?` -/
  | delete (param : Param)
  /-- `select v from t order by rowid` -/
  | select

/-- The call of a command. -/
def Command.call : Command → Call
  | .begin => .begin
  | .commit => .commit
  | .rollback => .rollback
  | .create => .execute createText []
  | .insert params => .execute (insertText params.length) params
  | .delete param => .execute deleteText [param]
  | .select => .execute selectText []

/-- What one caller does with a pool, holding at most one connection at a time. -/
inductive Step where
  | acquire
  | release
  | destroy
  | command (command : Command)

/-- What a step comes to. -/
inductive Reply where
  | ok
  /-- The step does not fit what the caller holds, and was not taken. -/
  | refused
  | answered (result : Except DriverError (Option Response))

/-- The reply to a step that came to something. -/
def Note.reply {lib : Library} : Note lib → Reply
  | .ran _ _ outcome _ => .answered outcome.result
  | .turnedAway _ report => .answered (.error report)
  | .unavailable _ => .refused
  | .nothing => .refused
  | _ => .ok

/-- A pool of databases in memory and the ticket that the caller holds. -/
structure Caller where
  pool : Pool .memory
  ticket : Option Nat := none

namespace Caller

/-- The move of a step, for those who hold what it needs. -/
def move? (s : Caller) : Step → Option Move
  | .acquire => if s.ticket.isNone then some .acquire else none
  | .release => s.ticket.map .release
  | .destroy => s.ticket.map .destroy
  | .command command => s.ticket.map fun ticket => .call ticket command.call

/-- The ticket that the caller holds after a move. -/
def ticketAfter (s : Caller) : Note .memory → Option Nat
  | .acquired ticket _ => some ticket
  | .released _ _ => none
  | .destroyed _ _ => none
  | _ => s.ticket

/-- Take a step. -/
def step (s : Caller) (step : Step) : Reply × Caller :=
  match s.move? step with
  | none => (.refused, s)
  | some move =>
    let (note, pool) := s.pool.move Shelf.firstCome move
    (note.reply, { pool, ticket := s.ticketAfter note })

/-- Whether the connection that the caller holds is outside of all transactions. -/
def autocommit? (s : Caller) : Option Bool :=
  (s.ticket.bind fun ticket => (s.pool.held.lookup ticket).join).map fun m =>
    Connection.isAutocommit m.handle

/-- Take one step after the other: the reply to each, and the mode of the connection after it. -/
def run (s : Caller) : List Step → List (Reply × Option Bool)
  | [] => []
  | next :: rest =>
    let (reply, after) := s.step next
    (reply, after.autocommit?) :: run after rest

end Caller

end PolySql.Sqlite
