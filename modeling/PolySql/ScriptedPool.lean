import PolySql.Backend
import PolySql.Text.Blank

/-!
# A scripted backend

A backend without a database, for trying clients out.  Rules say how statements are answered: the
first rule whose pattern occurs in the statement's text gives the answer, and a statement without a
rule gets the empty response.  Begin, commit, rollback and checking out can be made to fail.  Every
call is kept, in order, and so are the numbers of connections checked out and handed back.
-/

namespace PolySql

/-- The state of a scripted backend. -/
structure ScriptedPool where
  /-- The calls so far. -/
  events : List Call := []
  rules : List (String × Except DriverError Response) := []
  beginFailure : Option DriverError := none
  commitFailure : Option DriverError := none
  rollbackFailure : Option DriverError := none
  acquireFailure : Option String := none
  acquired : Nat := 0
  released : Nat := 0
  destroyed : Nat := 0

namespace ScriptedPool

/-! ### Rules -/

/-- What can be scripted; a failure stays in force. -/
inductive Rule where
  | respond (pattern : String) (response : Response)
  | fail (pattern : String) (report : DriverError)
  | failBegin (report : DriverError)
  | failCommit (report : DriverError)
  | failRollback (report : DriverError)
  | failAcquire (detail : String)

/-- Put a rule in force, after those that are. -/
def addRule (p : ScriptedPool) : Rule → ScriptedPool
  | .respond pattern response => { p with rules := p.rules ++ [(pattern, .ok response)] }
  | .fail pattern report => { p with rules := p.rules ++ [(pattern, .error report)] }
  | .failBegin report => { p with beginFailure := some report }
  | .failCommit report => { p with commitFailure := some report }
  | .failRollback report => { p with rollbackFailure := some report }
  | .failAcquire detail => { p with acquireFailure := some detail }

/-- The scripted backend with the given rules in force. -/
def ofRules (rules : List Rule) : ScriptedPool :=
  rules.foldl addRule {}

/-- The answer to a statement. -/
def answer (p : ScriptedPool) (sql : String) : Except DriverError Response :=
  match p.rules.find? fun rule => Text.occursIn rule.1.toList sql.toList with
  | some rule => rule.2
  | none => .ok Response.empty

/-! ### Records -/

/-- Keep a call. -/
def record (call : Call) (p : ScriptedPool) : ScriptedPool :=
  { p with events := p.events ++ [call] }

/-- The texts of the statements so far. -/
def executed (p : ScriptedPool) : List String :=
  p.events.filterMap fun
    | .execute sql _ => some sql
    | _ => none

/-- The number of connections checked out and not handed back. -/
def outstanding (p : ScriptedPool) : Nat :=
  p.acquired - p.released - p.destroyed

/-! ### The backend -/

/-- Keep a call and fail if it was made to. -/
def recordCall (call : Call) (failure : ScriptedPool → Option DriverError) :
    StateM ScriptedPool (Except DriverError Unit) := do
  modify (record call)
  match failure (← get) with
  | some report => return .error report
  | none => return .ok ()

/-- The scripted backend.  Its connections are all alike. -/
def backend : Backend ScriptedPool Unit where
  acquire := do
    match (← get).acquireFailure with
    | some detail => return .error (.connection detail)
    | none =>
      modify fun p => { p with acquired := p.acquired + 1 }
      return .ok ()
  release _ := modify fun p => { p with released := p.released + 1 }
  destroy _ := modify fun p => { p with destroyed := p.destroyed + 1 }
  begin _ := recordCall .begin beginFailure
  commit _ := recordCall .commit commitFailure
  rollback _ := recordCall .rollback rollbackFailure
  execute _ sql params := do
    modify (record (.execute sql params))
    return (← get).answer sql

end ScriptedPool

end PolySql
