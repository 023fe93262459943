import VideoProbe.Database.Statement

/-!
# Sessions

A session is a conversation with the database over one connection.  The other side is a script of
replies, given out one after another; so everything that can be said about what the service sends
is said for every script, whatever the database would have done.

Opening and closing a transaction, running a migration and connecting succeed without using up a
reply, unless the next reply is kept for just that statement.  Where no reply is left, a statement
finds no rows and changes none.  A reply may also break the connection: the next statement outside
a transaction connects again, and inside one everything fails until the transaction is given up.

A transaction that is not closed by a commit or a rollback that succeeded is followed by a
rollback, unless the connection is gone.

The session keeps a log of all statements together with what became of each, so that what an
operation answers can be compared with what the database did.

A session also has the present time.  It is always one that a clock shows, far from both ends of the
calendar; the times that are worked out from it need not be.
-/

namespace VideoProbe.Database

/-- The value of a column. -/
inductive Cell where
  | null
  | uuid (u : Uuid)
  | text (s : String)
  | int (n : Int)
  | jsonb (v : Json)
  | time (t : Instant)

/-- A row: values by the names of their columns. -/
abbrev Row := List (String × Cell)

/-- The value of a column; one that is not there is null. -/
def Row.cell (row : Row) (name : String) : Cell :=
  (row.lookup name).getD .null

/-- What the database answers. -/
inductive Reply where
  | rows (rows : List Row)
  | affected (count : Nat)
  | error (fault : ServerFault)
  /-- The connection is closed without an answer. -/
  | drop

/-- A reply of a script, and the beginning of the statement it is kept for, if it is. -/
structure Scripted where
  reply : Reply
  keptFor : Option String := none

/-- Whether the database can be reached at all, or why it cannot. -/
inductive Link where
  | up
  | down (reason : String)
  deriving DecidableEq, Repr

/-- What a statement gives: rows, and how many it changed. -/
structure Answer where
  rows : List Row
  affected : Nat

/-- What becomes of a statement. -/
inductive Fate where
  /-- There is no connection to send it over. -/
  | unsent (cause : DatabaseError)
  | answered (answer : Answer)
  | refused (fault : ServerFault)
  /-- It is sent, and the connection is closed without an answer. -/
  | lost

/-- A statement, and what became of it. -/
structure Exchange where
  statement : Statement
  fate : Fate

/-- The statement, if it was sent. -/
def Exchange.sent? (x : Exchange) : Option Statement :=
  match x.fate with
  | .unsent _ => none
  | _ => some x.statement

/-- The state of a conversation. -/
structure Session where
  link : Link
  script : List Scripted
  /-- The statements so far, in order, and what became of them. -/
  log : List Exchange := []
  connected : Bool := false
  /-- Whether a transaction is open. -/
  bracket : Bool := false
  /-- Whether workers of this process have been woken. -/
  woke : Bool := false
  /-- How many identifiers have been made. -/
  made : Nat := 0
  now : Instant
  /-- The present time is one that a clock shows. -/
  shown : now.isShown = true := by first | exact Instant.isShown_start | decide

/-- The statements sent so far, in order. -/
def Session.trace (s : Session) : List Statement :=
  s.log.filterMap Exchange.sent?

/-- How an operation fails: with an error, or because a row that the schema rules out, or a time
beyond the calendar, makes it crash. -/
inductive Failure where
  | error (e : ServiceError)
  | crash

/-- An operation on the database. -/
abbrev Operation := ExceptT Failure (StateM Session)

/-- An operation that cannot fail: what the given one does, with its failure as a value. -/
def attempted (op : Operation α) : Operation (Except Failure α) :=
  ExceptT.lift op.run

/-- Fails with an error of the database. -/
def refuse (e : DatabaseError) : Operation α :=
  throw (.error (.database e))

/-- The error of a connection that is gone. -/
def brokenConnection : DatabaseError :=
  .io "expected to read 5 bytes, got 0 bytes at EOF"

/-- What a reply makes of the statement it answers. -/
def Reply.fate : Reply → Fate
  | .rows rs => .answered ⟨rs, rs.length⟩
  | .affected n => .answered ⟨[], n⟩
  | .error fault => .refused fault
  | .drop => .lost

/-- What a statement gives, or why it gives nothing. -/
def Fate.answer : Fate → Except DatabaseError Answer
  | unsent cause => .error cause
  | answered answer => .ok answer
  | refused fault => .error (.server fault)
  | lost => .error brokenConnection

/-- Whether there is a connection after a statement. -/
def Fate.keepsConnection : Fate → Bool
  | answered _ | refused _ => true
  | unsent _ | lost => false

/-- The next reply that may answer a statement, and the script without it. -/
def Session.nextReply? (s : Session) (st : Statement) : Option (Reply × List Scripted) :=
  match s.script with
  | [] => none
  | r :: rest =>
    match r.keptFor with
    | some start => if start.toList.isPrefixOf st.text.toList then some (r.reply, rest) else none
    | none => if st.isSelfAnswering then none else some (r.reply, rest)

/-- What the script makes of a statement that is sent, and the script after it. -/
def Session.respond (s : Session) (st : Statement) : Fate × List Scripted :=
  match s.nextReply? st with
  | none => (.answered ⟨[], 0⟩, s.script)
  | some (reply, script) => (reply.fate, script)

/-- Makes sure that there is a connection. -/
def Session.reach (s : Session) : Except DatabaseError Unit × Session :=
  if s.connected then (.ok (), s)
  else if s.bracket then (.error brokenConnection, s)
  else
    match s.link with
    | .down reason => (.error (.io reason), s)
    | .up =>
      let (fate, script) := s.respond .connect
      match fate.answer with
      | .ok _ => (.ok (), { s with script, connected := true })
      | .error e => (.error e, { s with script })

/-- Hands a statement over: what becomes of it, and the session after it. -/
def Session.handOver (s : Session) (st : Statement) : Fate × Session :=
  match s.reach with
  | (.error e, s) => (.unsent e, { s with log := s.log ++ [⟨st, .unsent e⟩] })
  | (.ok _, s) =>
    let (fate, script) := s.respond st
    (fate, { s with script, connected := fate.keepsConnection, log := s.log ++ [⟨st, fate⟩] })

/-- Makes sure that there is a connection. -/
def connect : Operation Unit := do
  let (r, s) := (← get).reach
  set s
  match r with
  | .ok _ => return
  | .error e => refuse e

/-- Sends a statement. -/
def send (st : Statement) : Operation Answer := do
  let (fate, s) := (← get).handOver st
  set s
  match fate.answer with
  | .ok a => return a
  | .error e => refuse e

/-- Sends a statement for the number of rows it changes. -/
def execute (st : Statement) : Operation Nat := do
  return (← send st).affected

/-- Sends a statement for its first row, if it gives one. -/
def fetchOptional (st : Statement) : Operation (Option Row) := do
  return (← send st).rows.head?

/-- Sends a statement for its first row. -/
def fetchOne (st : Statement) : Operation Row := do
  match ← fetchOptional st with
  | some row => return row
  | none => refuse .rowNotFound

/-- The error of a single value that is null. -/
def unexpectedNull : DatabaseError :=
  .decode "error occurred while decoding column 0: unexpected null; try decoding as an `Option`"

/-- A new identifier. -/
def newId : Operation Uuid := do
  modify fun s => { s with made := s.made + 1 }
  return Uuid.ofCount (← get).made

/-- The present time. -/
def now : Operation Instant := do
  return (← get).now

/-- Wakes the workers of this process. -/
def wakeWorkers : Operation Unit :=
  modify fun s => { s with woke := true }

/-! ## Transactions -/

/-- Opens a transaction. -/
def beginTransaction : Operation Unit := do
  let _ ← send .begin
  modify fun s => { s with bracket := true }

/-- Gives a transaction up, as happens when it is left without being closed. -/
def abandonTransaction : Operation Unit := do
  if (← get).connected then
    let _ ← attempted (send .rollback)
  modify fun s => { s with bracket := false }

/-- Closes a transaction with a statement, and gives it up where that fails. -/
def closeTransaction (st : Statement) : Operation Unit := do
  match ← attempted (send st) with
  | .ok _ => modify fun s => { s with bracket := false }
  | .error f =>
    abandonTransaction
    throw f

/-- How the body of a transaction wants it to be closed. -/
inductive Closing (α : Type) where
  | commit (value : α)
  | rollback (value : α)

/-- Runs a body inside a transaction. -/
def transaction (body : Operation (Closing α)) : Operation α := do
  beginTransaction
  match ← attempted body with
  | .error f =>
    abandonTransaction
    throw f
  | .ok (.commit a) =>
    closeTransaction .commit
    return a
  | .ok (.rollback a) =>
    closeTransaction .rollback
    return a

/-- Turns an error of an operation into another one. -/
def mapError (f : ServiceError → ServiceError) (op : Operation α) : Operation α := do
  match ← attempted op with
  | .ok a => return a
  | .error (.error e) => throw (.error (f e))
  | .error .crash => throw .crash

/-- Fails where a pure computation does. -/
def lift (r : Except ServiceError α) : Operation α :=
  match r with
  | .ok a => return a
  | .error e => throw (.error e)

/-! ## Setting up -/

/-- Runs one migration in a transaction of its own. -/
def migrateOne (m : Migration) : Operation Unit :=
  transaction do
    match ← attempted (send (.migrate m)) with
    | .ok _ => return .commit ()
    | .error (.error (.database e)) => refuse (.migrationScript m.version e)
    | .error f => throw f

/-- The error of a migration as the error of migrating. -/
def migrationError : ServiceError → ServiceError
  | .database e@(.migrationScript _ _) => .database e
  | .database e => .database (.migration e)
  | e => e

/-- Sets the database up. -/
def migrate : Operation Unit :=
  mapError migrationError (Migration.all.forM migrateOne)

/-- Asks whether the database answers. -/
def ping : Operation Unit := do
  let _ ← execute .ping

end VideoProbe.Database
