import CronSchedule.Query

/-
  Sessions, which hold an expression, an instant, and a
  stream of occurrences from one step to the next.

  Key definitions include:
    * `Session`
    * `Session.Step`
    * `Session.Reply`
    * `Session.step`
    * `Session.run`
-/

------------------------------------------------------------
-- Sessions
------------------------------------------------------------

namespace CronSchedule

/-
  The state of a session. At first only the calendar is
  there.
-/
structure Session where
  calendar : Calendar
  expression : Option Expression
  instant : Option Instant
  stream : Option Occurrences

namespace Session

/- The session at its start. -/
def start
    (calendar : Calendar) : Session :=
  { calendar, expression := none, instant := none,
    stream := none }

/- The steps of a session. -/
inductive Step where
/- Replace the expression. -/
| load (text : String)
/- Replace the instant. -/
| seek (instant : Instant)
/- Take occurrences from the stream. -/
| pull (count : Nat)
/- Look at the next occurrences of the stream. -/
| fork (count : Nat)
/- Start a stream from the expression and the instant. -/
| stream
/- Move the instant to the next occurrence. -/
| advance
/- Look at the next occurrence. -/
| peek
/- List the occurrences up to a bound. -/
| between (bound : Instant) (count : Nat)
/- Read the canonical text of the expression. -/
| reparse
/- Evaluate the day fields in the current month. -/
| days

/- What a step answers. -/
inductive Reply where
| loaded (text : String)
| refused (error : ExpressionError)
| sought (instant : Instant)
| pulled (occurrences : List (Option Instant))
| streaming
| advanced (next : Option Instant) (instant : Instant)
| peeked (next : Option Instant)
| listed (occurrences : List Instant)
| reparsed (equal : Bool)
| days (dayOfMonth dayOfWeek : List Nat)
| noStream
| notReady
| failed (fault : Calendar.Fault)

end Session

end CronSchedule

------------------------------------------------------------
-- Steps
------------------------------------------------------------

namespace CronSchedule

namespace Session

/- A reply that leaves the session as it is. -/
def keep
    (session : Session)
    (reply : Reply) : Journal (Reply × Session) :=
  Journal.silent (reply, session)

/-
  The reply to the answer of a calendar, and the session
  after it.  The last argument is the session after a
  failure.
-/
def reply
    {α : Type}
    (answer : Answer α)
    (success : α → Reply × Session)
    (failure : Session) : Journal (Reply × Session) := do
  match ← answer.run with
  | .ok value => pure (success value)
  | .error fault => pure (.failed fault, failure)

/- Replace the expression, unless the text is refused. -/
def load
    (session : Session)
    (text : String) : Journal (Reply × Session) := do
  match ← Expression.parseJournal text with
  | .ok expression =>
      pure
        (.loaded expression.text,
          { session with expression := some expression })
  | .error error => pure (.refused error, session)

/-
  Take occurrences from the stream.  The stream is exhausted
  once the calendar fails.
-/
def pull
    (session : Session)
    (count : Nat) : Journal (Reply × Session) :=
  match session.stream with
  | none => session.keep .noStream
  | some stream =>
      reply (stream.pullMany count)
        (fun (occurrences, rest) =>
          (.pulled occurrences,
            { session with stream := some rest }))
        { session with
          stream := some (stream.withCursor none) }

/- Look at the next occurrences of the stream. -/
def fork
    (session : Session)
    (count : Nat) : Journal (Reply × Session) :=
  match session.stream with
  | none => session.keep .noStream
  | some stream =>
      reply (stream.pullMany count)
        (fun (occurrences, _) =>
          (.pulled occurrences, session))
        session

/- Read the canonical text in place of the expression. -/
def reparse
    (session : Session)
    (expression : Expression) :
    Journal (Reply × Session) := do
  match ← Expression.parseJournal expression.text with
  | .ok again =>
      pure
        (.reparsed (again == expression),
          { session with expression := some again })
  | .error error => pure (.refused error, session)

/- The values of both day fields in a month. -/
def dayValues
    (session : Session)
    (expression : Expression)
    (date : Date) :
    Except Calendar.Fault (List Nat × List Nat) := do
  let dayOfMonth ←
    expression.dayOfMonth.valuesIn session.calendar
      date.year date.month
  let dayOfWeek ←
    expression.dayOfWeek.valuesIn session.calendar
      date.year date.month
  return (dayOfMonth, dayOfWeek)

/- A step that needs an expression and an instant. -/
def stepReady
    (session : Session)
    (expression : Expression)
    (instant : Instant)
    (step : Step) : Journal (Reply × Session) :=
  let stream :=
    Occurrences.after session.calendar expression instant
  match step with
  | .stream =>
      Journal.silent
        (.streaming, { session with stream := some stream })
  | .advance =>
      reply stream.pull
        (fun next =>
          (.advanced next (next.getD instant),
            { session with
              instant := some (next.getD instant) }))
        session
  | .peek =>
      reply stream.pull
        (fun next => (.peeked next, session)) session
  | .between bound count =>
      reply (stream.takeBefore bound count)
        (fun items => (.listed items, session)) session
  | .reparse => session.reparse expression
  | .days =>
      match session.dayValues expression instant.date with
      | .ok (dayOfMonth, dayOfWeek) =>
          session.keep (.days dayOfMonth dayOfWeek)
      | .error fault => session.keep (.failed fault)
  | _ => session.keep .notReady

/- One step of the session. -/
def step
    (session : Session)
    (step : Step) : Journal (Reply × Session) :=
  match step with
  | .load text => session.load text
  | .seek instant =>
      Journal.silent
        (.sought instant,
          { session with instant := some instant })
  | .pull count => session.pull count
  | .fork count => session.fork count
  | step =>
      match session.expression, session.instant with
      | some expression, some instant =>
          session.stepReady expression instant step
      | _, _ => session.keep .notReady

/- The replies to a row of steps. -/
def run
    (session : Session) :
    List Step → Journal (List Reply)
| [] => pure []
| first :: rest => do
    let (reply, session) ← session.step first
    let replies ← session.run rest
    pure (reply :: replies)

end Session

end CronSchedule
