import MeterWatch.Dashboard
import MeterWatch.Failure
import MeterWatch.Line.Decode
import MeterWatch.Log.Record

/-!
# Polling sessions

A session owns the dashboard, the list of errors and the cursor.  A poll sends
the cursor and applies the batch that comes back; a failed poll pauses the
session.  Whatever a step shows to the outside is listed in order as its
emissions.
-/

namespace MeterWatch

inductive Phase where
  | idle
  | applying
  /-- The next poll is due after a delay. -/
  | scheduled (delay : Duration)
  | paused
  deriving DecidableEq, Repr

structure PollStats where
  polls : Nat
  linesSeen : Nat
  linesMatched : Nat
  deriving DecidableEq, Repr

structure Session where
  dashboard : Dashboard
  /-- Oldest first; never cleared. -/
  errors : List String
  cursor : Option Cursor
  phase : Phase
  /-- Whether recognised lines go to the scrollback. -/
  logView : Bool
  stats : PollStats
  deriving DecidableEq, Repr

inductive Emission where
  | requested (cursor : Option Cursor)
  | announced (event : Event)
  | logged (record : Record)
  | waited (delay : Duration)
  deriving DecidableEq, Repr

namespace Session

def new (dashboard : Dashboard) (cursor : Option Cursor) (logView : Bool) :
    Session where
  dashboard := dashboard
  errors := []
  cursor := cursor
  phase := .idle
  logView := logView
  stats := ⟨0, 0, 0⟩

/-! ## Lines -/

/-- A line that no reader recognises is dropped. -/
def showLine (logView : Bool) (dashboard : Dashboard) (line : String) :
    Dashboard :=
  if Line.isRecognised line then
    let shown := (Line.decode line).foldl Dashboard.apply dashboard
    if logView then shown.prepend line else shown
  else dashboard

def lineEvents (zone : Zone) (logView : Bool) (line : String) : List Event :=
  if Line.isRecognised line then
    ((Line.decode line).flatMap (Reading.updates zone)).map Event.updated ++
      if logView then [.scrolled line] else []
  else []

/-! ## Cursors -/

/-- An offered cursor is taken unless it lies before the one that is held. -/
def nextCursor (held offered : Option Cursor) : Option Cursor :=
  match held, offered with
  | held, none => held
  | none, some next => some next
  | some current, some next =>
      if next.position.isLess current.position then some current
      else some next

def cursorRecords (held offered : Option Cursor) : List Record :=
  match held, offered with
  | some current, some next =>
      if next.position.isLess current.position then
        [⟨.warn, .poll, "server cursor went backwards (" ++ next.text ++
          " < " ++ current.text ++ "), keeping " ++ current.text⟩]
      else []
  | _, _ => []

/-! ## Batches -/

def applyBatch (session : Session) (batch : Batch) : Session :=
  let lines := batch.entries.map Entry.line
  { session with
    dashboard := lines.foldl (showLine session.logView) session.dashboard
    cursor := nextCursor session.cursor batch.cursor
    phase := .applying
    stats := { session.stats with
      linesSeen := session.stats.linesSeen + lines.length
      linesMatched := session.stats.linesMatched +
        lines.countP Line.isRecognised } }

def batchEvents (session : Session) (batch : Batch) : List Event :=
  (batch.entries.map Entry.line).flatMap
    (lineEvents session.dashboard.zone session.logView)

def batchEmissions (session : Session) (batch : Batch) : List Emission :=
  (session.batchEvents batch).map Emission.announced ++
    (cursorRecords session.cursor batch.cursor).map Emission.logged

/-! ## Failures -/

def report (session : Session) (message : String) : Session :=
  { session with errors := session.errors ++ [message] }

def failureEmissions (failure : FetchFailure) : List Emission :=
  [.logged ⟨.warn, .poll, "poll failed: " ++ failure.message⟩,
    .announced (.failed (pauseMessage failure.cause?))]

/-! ## Polls -/

structure PollResult where
  session : Session
  emissions : List Emission
  /-- The delay before the next poll, unless the session is paused. -/
  delay : Option Duration
  deriving DecidableEq, Repr

def countPoll (session : Session) : Session :=
  { session with
    stats := { session.stats with polls := session.stats.polls + 1 } }

/-- What becomes of a session that is not paused when a reply arrives. -/
def receive (session : Session) : Reply → PollResult
  | .ok batch =>
      { session := { session.applyBatch batch with
          phase := .scheduled batch.delay }
        emissions := session.batchEmissions batch
        delay := some batch.delay }
  | .error failure =>
      { session := { session.report (pauseMessage failure.cause?) with
          phase := .paused }
        emissions := failureEmissions failure
        delay := none }

/-- Asks the server once.  A paused session asks nothing any more. -/
def poll (session : Session) (fetch : Option Cursor → Reply) : PollResult :=
  if session.phase = .paused then
    { session := session, emissions := [], delay := none }
  else
    let result := session.countPoll.receive (fetch session.cursor)
    { result with emissions := .requested session.cursor :: result.emissions }

/-! ## Runs -/

def startRecord (session : Session) : Record :=
  let cursor := match session.cursor with
    | none => "None"
    | some cursor => "Some(" ++ cursor.position.marked ++ ")"
  ⟨.info, .poll, "polling from cursor " ++ cursor⟩

def stopRecord (session : Session) : Record :=
  ⟨.warn, .poll,
    "poll loop stopped after " ++ toString session.stats.polls ++ " polls"⟩

/-- Polls until a poll fails, at the latest when there are no more sources. -/
def pollAll (ending : Option Cursor → FetchFailure) (session : Session) :
    List (Option Cursor → Reply) → Session × List Emission
  | [] =>
      let result := session.poll fun cursor => .error (ending cursor)
      (result.session, result.emissions)
  | fetch :: rest =>
      let result := session.poll fetch
      match result.delay with
      | none => (result.session, result.emissions)
      | some delay =>
          let (final, emissions) := pollAll ending result.session rest
          (final, result.emissions ++ .waited delay :: emissions)

def run (ending : Option Cursor → FetchFailure) (session : Session)
    (sources : List (Option Cursor → Reply)) : Session × List Emission :=
  let (final, emissions) := pollAll ending session sources
  (final, .logged session.startRecord :: emissions ++
    [.logged final.stopRecord])

end Session

end MeterWatch
