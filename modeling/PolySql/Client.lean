import PolySql.Execution
import PolySql.Request
import PolySql.Transaction

/-!
# Clients

A client compiles requests for one dialect, runs them on connections of one backend and shapes the
answers.  A request runs on a connection of its own (`Client.run`), on one that the caller holds
(`Client.runOn`), or in a transaction (`Client.runIn`).  Nothing is checked out for a request that
does not compile.
-/

namespace PolySql

variable {σ κ α : Type}

/-- How requests are compiled and answers shaped. -/
structure Profile where
  dialect : Dialect
  /-- Whether identifiers are quoted unless a request says otherwise. -/
  quoting : Bool := true
  /-- The cap on the rows of an answer. -/
  maxRows : Option UInt64 := none

/-- A profile and the backend that requests run on. -/
structure Client (σ κ : Type) where
  profile : Profile
  backend : Backend σ κ

/-! ### Requests -/

namespace Profile

/-- The statements of a request. -/
def compile (p : Profile) (r : Request) : Except Error Compiled :=
  (r.compile p.dialect p.quoting).mapError CompileError.toError

/-- The answer to a request, from the response to its statements. -/
def output (p : Profile) (r : Request) (compiled : Compiled) (response : Response) :
    Except Error Output :=
  compiled.output response r.transform? p.maxRows

end Profile

namespace Client

/-- Compile a request. -/
def compile (client : Client σ κ) (r : Request) : Action σ Compiled :=
  Action.ofExcept (client.profile.compile r)

/-- Shape the answer to a request. -/
def answer (client : Client σ κ) (r : Request) (compiled : Compiled) (response : Response) :
    Action σ Output :=
  Action.ofExcept (client.profile.output r compiled response)

/-- Run a request on a connection. -/
def runOn (client : Client σ κ) (c : κ) (r : Request) : Action σ Output := do
  let compiled ← client.compile r
  let response ← compiled.run client.backend c client.profile.dialect
  client.answer r compiled response

/-- Run a request on a connection that is checked out for it and handed back before its answer is
shaped. -/
def run (client : Client σ κ) (r : Request) : Action σ Output := do
  let compiled ← client.compile r
  let c ← client.backend.checkout
  let outcome ← (compiled.run client.backend c client.profile.dialect).attempt
  Action.perform (client.backend.release c)
  client.answer r compiled (← Action.ofExcept outcome)

/-- Run a request in a transaction. -/
def runIn (client : Client σ κ) (tx : Transaction κ) (r : Request) : Action σ Output :=
  client.runOn tx.connection r

/-! ### Transactions -/

/-- Run a body in a transaction: commit if it succeeds, roll back if it fails. -/
def transaction (client : Client σ κ) (body : Transaction κ → Session σ κ α) :
    Session σ κ α := do
  let tx ← Transaction.begin client.backend
  match ← (body tx).attempt with
  | .ok a => tx.commit client.backend a
  | .error e => tx.rollback client.backend e

end Client

end PolySql
