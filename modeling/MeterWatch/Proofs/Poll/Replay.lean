import MeterWatch.Proofs.Poll.LastWrite
import Mathlib.Data.List.Forall2

/-!
# Events tell the state

Whoever hears all events of a session knows its readouts, its scrollback and its
errors.  The events come in blocks, one for each line and one for each failure,
and within the block of a line the scrollback comes last.
-/

namespace MeterWatch

open Emission

/-! ## Listening -/

/-- What a listener knows of a session. -/
structure Screen where
  readouts : Readouts
  scrollback : List String
  errors : List String
  deriving DecidableEq, Repr

namespace Screen

def blank : Screen := ⟨.empty, [], []⟩

def hear (screen : Screen) : Event → Screen
  | .updated update =>
      { screen with readouts := screen.readouts.write update }
  | .scrolled line => { screen with scrollback := line :: screen.scrollback }
  | .failed message => { screen with errors := screen.errors ++ [message] }

def replay (screen : Screen) (events : List Event) : Screen :=
  events.foldl hear screen

theorem replay_append (screen : Screen) (first second : List Event) :
    screen.replay (first ++ second) = (screen.replay first).replay second :=
  List.foldl_append

theorem replay_updated (screen : Screen) (updates : List Update) :
    screen.replay (updates.map Event.updated) =
      { screen with readouts := screen.readouts.writeAll updates } := by
  induction updates generalizing screen with
  | nil => rfl
  | cons update rest ih => exact ih (screen.hear (.updated update))

end Screen

/-! ## Kinds of events -/

namespace Event

def updated? : Event → Option Update
  | updated update => some update
  | _ => none

def scrolled? : Event → Option String
  | scrolled line => some line
  | _ => none

def failed? : Event → Option String
  | failed message => some message
  | _ => none

end Event

namespace Session

theorem updated_lineEvents (zone : Zone) (logView : Bool) (line : String) :
    (lineEvents zone logView line).filterMap Event.updated? =
      Line.updates zone line := by
  have all (updates : List Update) :
      (updates.map Event.updated).filterMap Event.updated? = updates := by
    simp [List.filterMap_map, Function.comp_def, Event.updated?]
  cases known : Line.isRecognised line with
  | false =>
      rw [Line.updates_of_not_isRecognised _ known]
      simp [lineEvents, known]
  | true =>
      rw [lineEvents, if_pos known, List.filterMap_append, all]
      cases logView <;> simp [Event.updated?, Line.updates]

theorem scrolled_lineEvents (zone : Zone) (logView : Bool) (line : String) :
    (lineEvents zone logView line).filterMap Event.scrolled? =
      Line.kept logView [line] := by
  have silent (updates : List Update) :
      (updates.map Event.updated).filterMap Event.scrolled? = [] := by
    simp [Event.scrolled?]
  cases known : Line.isRecognised line <;> cases logView <;>
    simp [lineEvents, Line.kept, known, silent, Event.scrolled?]

theorem scrolled_linesEvents (zone : Zone) (logView : Bool)
    (lines : List String) :
    (lines.flatMap (lineEvents zone logView)).filterMap Event.scrolled? =
      Line.kept logView lines := by
  induction lines with
  | nil => simp [Line.kept]
  | cons line rest ih =>
      rw [List.flatMap_cons, List.filterMap_append, scrolled_lineEvents, ih,
        ← Line.kept_append]
      rfl

/-! ## Events of batches -/

def screen (session : Session) : Screen where
  readouts := session.dashboard.readouts
  scrollback := session.dashboard.scrollback
  errors := session.errors

theorem events_batchEmissions (session : Session) (batch : Batch) :
    events (session.batchEmissions batch) = session.batchEvents batch := by
  simp [batchEmissions, events, List.filterMap_append, event?,
    Function.comp_def]

theorem replay_lineEvents (logView : Bool) (dashboard : Dashboard)
    (errors : List String) (line : String) :
    Screen.replay ⟨dashboard.readouts, dashboard.scrollback, errors⟩
        (lineEvents dashboard.zone logView line) =
      let shown := showLine logView dashboard line
      ⟨shown.readouts, shown.scrollback, errors⟩ := by
  rw [showLine_eq]
  cases known : Line.isRecognised line with
  | false =>
      rw [Line.updates_of_not_isRecognised _ known]
      cases logView <;>
        simp [lineEvents, known, Line.kept, Dashboard.showing, Screen.replay]
  | true =>
      rw [lineEvents, if_pos known, ← Line.updates, Screen.replay_append,
        Screen.replay_updated]
      cases logView <;>
        simp [Line.kept, known, Dashboard.showing, Screen.replay, Screen.hear]

theorem replay_linesEvents (logView : Bool) (dashboard : Dashboard)
    (errors : List String) (lines : List String) :
    Screen.replay ⟨dashboard.readouts, dashboard.scrollback, errors⟩
        (lines.flatMap (lineEvents dashboard.zone logView)) =
      let shown := lines.foldl (showLine logView) dashboard
      ⟨shown.readouts, shown.scrollback, errors⟩ := by
  induction lines generalizing dashboard with
  | nil => rfl
  | cons line rest ih =>
      have zone_eq : (showLine logView dashboard line).zone = dashboard.zone :=
        by rw [showLine_eq, Dashboard.showing_zone]
      have later := ih (showLine logView dashboard line)
      rw [zone_eq] at later
      rw [List.flatMap_cons, Screen.replay_append, replay_lineEvents]
      exact later

theorem replay_batchEvents (session : Session) (batch : Batch) :
    session.screen.replay (session.batchEvents batch) =
      (session.applyBatch batch).screen :=
  replay_linesEvents ..

/-! ## Events of calls -/

theorem replay_step (session : Session) (order : Step) :
    session.screen.replay (events (session.step order).2) =
      (session.step order).1.screen := by
  cases order with
  | apply batch =>
      rw [step, events_batchEmissions]
      exact session.replay_batchEvents batch
  | poll reply =>
      by_cases paused : session.phase = .paused
      · rw [step_poll_of_paused paused]
        rfl
      · cases reply with
        | ok batch =>
            rw [step, poll_batch paused, events_requested,
              events_batchEmissions]
            exact session.replay_batchEvents batch
        | error failure =>
            rw [step, poll_failure paused, events_requested,
              events_failureEmissions]
            rfl

theorem replay_steps (session : Session) (orders : List Step) :
    session.screen.replay (events (session.steps orders).2) =
      (session.steps orders).1.screen := by
  induction orders generalizing session with
  | nil => rfl
  | cons order rest ih =>
      rw [steps, inTurn_cons, events_append, Screen.replay_append,
        replay_step]
      exact ih (session.step order).1

/-! ## Order of events -/

end Session

/-- What reaches a session from outside. -/
inductive Happening where
  | line (text : String)
  | failure (failure : FetchFailure)

namespace Happening

/-- The events by which a happening is announced. -/
inductive Announced (zone : Zone) (logView : Bool) :
    Happening → List Event → Prop
  | silent {text : String} (unknown : Line.isRecognised text = false) :
      Announced zone logView (.line text) []
  | shown {text : String} (known : Line.isRecognised text = true) :
      Announced zone logView (.line text)
        (((Line.decode text).flatMap (Reading.updates zone)).map
            Event.updated ++
          if logView then [.scrolled text] else [])
  | failed (failure : FetchFailure) :
      Announced zone logView (.failure failure)
        [.failed (pauseMessage failure.cause?)]

/-- One block of events for every happening, in the same order. -/
def AnnouncedInOrder (zone : Zone) (logView : Bool)
    (happenings : List Happening) (events : List Event) : Prop :=
  ∃ blocks, events = blocks.flatten ∧
    List.Forall₂ (Announced zone logView) happenings blocks

theorem AnnouncedInOrder.append {zone : Zone} {logView : Bool}
    {first second : List Happening} {events later : List Event}
    (h : AnnouncedInOrder zone logView first events)
    (h' : AnnouncedInOrder zone logView second later) :
    AnnouncedInOrder zone logView (first ++ second) (events ++ later) := by
  obtain ⟨blocks, rfl, all⟩ := h
  obtain ⟨blocks', rfl, all'⟩ := h'
  exact ⟨blocks ++ blocks', List.flatten_append.symm,
    List.rel_append all all'⟩

theorem announced_line (zone : Zone) (logView : Bool) (text : String) :
    Announced zone logView (.line text)
      (Session.lineEvents zone logView text) := by
  unfold Session.lineEvents
  split
  · exact .shown ‹_›
  · exact .silent (Bool.eq_false_iff.mpr ‹_›)

theorem announcedInOrder_lines (zone : Zone) (logView : Bool)
    (lines : List String) :
    AnnouncedInOrder zone logView (lines.map .line)
      (lines.flatMap (Session.lineEvents zone logView)) := by
  refine ⟨lines.map (Session.lineEvents zone logView), List.flatMap_def .., ?_⟩
  rw [List.forall₂_map_left_iff, List.forall₂_map_right_iff,
    List.forall₂_same]
  exact fun text _ => announced_line zone logView text

end Happening

namespace Session

/-- What a step brings to a session.  A paused one hears of nothing. -/
def hearsBy (session : Session) : Step → List Happening
  | .poll (.ok batch) =>
      if session.phase = .paused then [] else batch.lines.map .line
  | .poll (.error failure) =>
      if session.phase = .paused then [] else [.failure failure]
  | .apply batch => batch.lines.map .line

def hears (session : Session) : List Step → List Happening
  | [] => []
  | order :: rest => session.hearsBy order ++ (session.step order).1.hears rest

theorem announcedInOrder_step (session : Session) (order : Step) :
    Happening.AnnouncedInOrder session.dashboard.zone session.logView
      (session.hearsBy order) (events (session.step order).2) := by
  cases order with
  | apply batch =>
      rw [step, events_batchEmissions]
      exact Happening.announcedInOrder_lines ..
  | poll reply =>
      by_cases paused : session.phase = .paused
      · have nothing : session.hearsBy (.poll reply) = [] := by
          cases reply <;> simp [hearsBy, paused]
        rw [step_poll_of_paused paused, nothing]
        exact ⟨[], rfl, .nil⟩
      · cases reply with
        | ok batch =>
            rw [step, poll_batch paused, events_requested,
              events_batchEmissions, hearsBy, if_neg paused]
            exact Happening.announcedInOrder_lines ..
        | error failure =>
            rw [step, poll_failure paused, events_requested,
              events_failureEmissions, hearsBy, if_neg paused]
            exact ⟨[_], rfl, .cons (.failed failure) .nil⟩

theorem applyAll_display (session : Session) (batches : List Batch) :
    (session.applyAll batches).dashboard.zone = session.dashboard.zone ∧
      (session.applyAll batches).logView = session.logView := by
  induction batches generalizing session with
  | nil => exact ⟨rfl, rfl⟩
  | cons batch rest ih =>
      obtain ⟨zone, logView⟩ := ih (session.applyBatch batch)
      rw [applyBatch_dashboard, Dashboard.showing_zone] at zone
      exact ⟨zone, logView⟩

theorem step_display (session : Session) (order : Step) :
    (session.step order).1.dashboard.zone = session.dashboard.zone ∧
      (session.step order).1.logView = session.logView := by
  obtain ⟨_, _, _, same⟩ := session.step_sameContent order
  rw [same]
  exact session.applyAll_display _

theorem announcedInOrder_steps (session : Session) (orders : List Step) :
    Happening.AnnouncedInOrder session.dashboard.zone session.logView
      (session.hears orders) (events (session.steps orders).2) := by
  induction orders generalizing session with
  | nil => exact ⟨[], rfl, .nil⟩
  | cons order rest ih =>
      obtain ⟨zone, logView⟩ := session.step_display order
      have later := ih (session.step order).1
      rw [zone, logView] at later
      rw [steps, inTurn_cons, events_append]
      exact (session.announcedInOrder_step order).append later

/--
Replaying the events of a new session over an empty dashboard gives its state.
They come line by line, readouts before the scrollback, and lines that are not
recognised are silent.
-/
theorem events_tell_state (zone : Zone) (cursor : Option Cursor)
    (logView : Bool) (calls : List Call) :
    let session := Session.new (.new zone) cursor logView
    let outcome := session.calls calls
    Screen.blank.replay (events outcome.2) = outcome.1.screen ∧
      Happening.AnnouncedInOrder zone logView
        (session.hears (calls.flatMap Call.steps)) (events outcome.2) := by
  intro session outcome
  rw [events_calls session calls, calls_session session calls]
  exact ⟨session.replay_steps _, session.announcedInOrder_steps _⟩

end Session

end MeterWatch
