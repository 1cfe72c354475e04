import MeterWatch.Proofs.Poll.CursorLaw
import MeterWatch.Proofs.Poll.Replay

/-!
# Where one batch ends does not matter

A session that is given the same entries shows the same, however the entries are
cut into batches and whatever call delivers each batch.  Its cursor is the same
as well if the last batch carries the greatest one.
-/

namespace MeterWatch

open Emission

namespace Event

/-- Events about the dashboard, as opposed to errors. -/
def isDisplayed : Event → Bool
  | .failed _ => false
  | _ => true

end Event

namespace Call

/-- The batch of a successful poll, or one applied from elsewhere. -/
def delivered? : Call → Option Batch
  | poll (.ok batch) => some batch
  | apply batch => some batch
  | _ => none

end Call

namespace Session

namespace SameContent

variable {left right : Session}

theorem dashboard_eq (same : SameContent left right) :
    left.dashboard = right.dashboard := by
  obtain ⟨_, _, _, rfl⟩ := same
  rfl

theorem linesSeen_eq (same : SameContent left right) :
    left.stats.linesSeen = right.stats.linesSeen := by
  obtain ⟨_, _, _, rfl⟩ := same
  rfl

theorem linesMatched_eq (same : SameContent left right) :
    left.stats.linesMatched = right.stats.linesMatched := by
  obtain ⟨_, _, _, rfl⟩ := same
  rfl

end SameContent

/-! ## Applied lines -/

theorem applyAll_dashboard (session : Session) (batches : List Batch) :
    (session.applyAll batches).dashboard =
      (batches.flatMap Batch.lines).foldl (showLine session.logView)
        session.dashboard := by
  induction batches generalizing session with
  | nil => rfl
  | cons batch rest ih =>
      rw [List.flatMap_cons, List.foldl_append]
      exact ih (session.applyBatch batch)

theorem applyAll_linesSeen (session : Session) (batches : List Batch) :
    (session.applyAll batches).stats.linesSeen =
      session.stats.linesSeen + (batches.flatMap Batch.lines).length := by
  induction batches generalizing session with
  | nil => rfl
  | cons batch rest ih =>
      rw [List.flatMap_cons, List.length_append, ← Nat.add_assoc]
      exact ih (session.applyBatch batch)

theorem applyAll_linesMatched (session : Session) (batches : List Batch) :
    (session.applyAll batches).stats.linesMatched =
      session.stats.linesMatched +
        (batches.flatMap Batch.lines).countP Line.isRecognised := by
  induction batches generalizing session with
  | nil => rfl
  | cons batch rest ih =>
      rw [List.flatMap_cons, List.countP_append, ← Nat.add_assoc]
      exact ih (session.applyBatch batch)

/-! ## Displayed events -/

theorem filter_lineEvents (zone : Zone) (logView : Bool) (line : String) :
    (lineEvents zone logView line).filter Event.isDisplayed =
      lineEvents zone logView line := by
  rw [List.filter_eq_self]
  intro event member
  unfold lineEvents at member
  split at member
  · rw [List.mem_append, List.mem_map] at member
    rcases member with ⟨update, -, rfl⟩ | scrolled
    · rfl
    · split at scrolled
      · rw [List.mem_singleton.mp scrolled]
        rfl
      · cases scrolled
  · cases member

theorem filter_batchEvents (session : Session) (batch : Batch) :
    (session.batchEvents batch).filter Event.isDisplayed =
      session.batchEvents batch := by
  simp only [batchEvents, List.filter_flatMap, filter_lineEvents]

theorem displayed_step (session : Session) (order : Step) :
    (events (session.step order).2).filter Event.isDisplayed =
      ((session.appliedBy order).flatMap Batch.lines).flatMap
        (lineEvents session.dashboard.zone session.logView) := by
  have one (batch : Batch) : ([batch].flatMap Batch.lines).flatMap
      (lineEvents session.dashboard.zone session.logView) =
        session.batchEvents batch :=
    congrArg (List.flatMap _) (List.append_nil _)
  cases order with
  | apply batch =>
      rw [step, events_batchEmissions, filter_batchEvents, appliedBy, one]
  | poll reply =>
      by_cases paused : session.phase = .paused
      · rw [step_poll_of_paused paused]
        cases reply <;> simp [appliedBy, paused, events]
      · cases reply with
        | ok batch =>
            rw [step, poll_batch paused, events_requested,
              events_batchEmissions, filter_batchEvents, appliedBy,
              if_neg paused, one]
        | error failure =>
            rw [step, poll_failure paused, events_requested,
              events_failureEmissions]
            rfl

theorem displayed_steps (session : Session) (orders : List Step) :
    (events (session.steps orders).2).filter Event.isDisplayed =
      ((session.applied orders).flatMap Batch.lines).flatMap
        (lineEvents session.dashboard.zone session.logView) := by
  induction orders generalizing session with
  | nil => rfl
  | cons order rest ih =>
      obtain ⟨zone, logView⟩ := session.step_display order
      have later := ih (session.step order).1
      rw [zone, logView] at later
      rw [steps, inTurn_cons, events_append, List.filter_append,
        displayed_step, ← steps, later, applied, List.flatMap_append,
        List.flatMap_append]

/-! ## Last cursors -/

theorem mem_of_foldl_takeCursor {held : Option Cursor} {offered : List Cursor}
    {cursor : Cursor} (h : offered.foldl takeCursor held = some cursor) :
    cursor ∈ held.toList ++ offered := by
  induction offered generalizing held with
  | nil => simpa using h
  | cons next rest ih =>
      have found := ih h
      rw [List.mem_append, Option.mem_toList] at found
      rcases found with taken | later
      · cases held with
        | none =>
            cases taken
            simp
        | some current =>
            rw [takeCursor_some] at taken
            split at taken <;> cases taken <;> simp
      · simp [later]

/-- The last batch carries this cursor, and none that came before is greater or
NaN. -/
def EndsWithGreatest (held : Option Cursor) (batches : List Batch)
    (last : Cursor) : Prop :=
  (∃ batch, batches.getLast? = some batch ∧ batch.cursor = some last) ∧
    ∀ cursor ∈ held.toList ++ batches.filterMap Batch.cursor,
      cursor.position.AtMost last.position

theorem applyAll_cursor_of_endsWithGreatest (session : Session)
    {batches : List Batch} {last : Cursor}
    (h : EndsWithGreatest session.cursor batches last) :
    (session.applyAll batches).cursor = some last := by
  obtain ⟨⟨batch, hlast, brought⟩, greatest⟩ := h
  obtain ⟨earlier, rfl⟩ := List.getLast?_eq_some_iff.mp hlast
  have offers : (earlier ++ [batch]).filterMap Batch.cursor =
      earlier.filterMap Batch.cursor ++ [last] := by
    simp [List.filterMap_append, brought]
  rw [offers, ← List.append_assoc, List.forall_mem_append] at greatest
  rw [applyAll_cursor, offers, List.foldl_append, List.foldl_cons,
    List.foldl_nil]
  cases taken : (earlier.filterMap Batch.cursor).foldl takeCursor
      session.cursor with
  | none => rfl
  | some held =>
      have atMost := greatest.1 held (mem_of_foldl_takeCursor taken)
      rw [takeCursor_some, if_neg]
      rw [Binary64.isLess_iff_below]
      exact atMost.not_below

/-! ## Batching -/

/-- The batches of successful polls and those applied from elsewhere. -/
def appliedIn (session : Session) (calls : List Call) : List Batch :=
  session.applied (calls.flatMap Call.steps)

theorem calls_sameContent (session : Session) (calls : List Call) :
    SameContent (session.calls calls).1
      (session.applyAll (session.appliedIn calls)) := by
  rw [calls_session]
  exact session.steps_sameContent _

theorem displayed_calls (session : Session) (calls : List Call) :
    (events (session.calls calls).2).filter Event.isDisplayed =
      ((session.appliedIn calls).flatMap Batch.lines).flatMap
        (lineEvents session.dashboard.zone session.logView) := by
  rw [events_calls]
  exact session.displayed_steps _

theorem lines_eq_of_entries_eq {first second : List Batch}
    (same : first.flatMap Batch.entries = second.flatMap Batch.entries) :
    first.flatMap Batch.lines = second.flatMap Batch.lines := by
  have lines (batches : List Batch) : batches.flatMap Batch.lines =
      (batches.flatMap Batch.entries).map Entry.line :=
    List.map_flatMap.symm
  rw [lines, lines, same]

/--
Two sequences of calls that bring the same entries to a session leave the same
dashboard and the same counts of lines, and announce the same on the way.  If
both end with the same greatest cursor, that is the cursor of both.
-/
theorem batching_changes_nothing (session : Session) (first second : List Call)
    (same : (session.appliedIn first).flatMap Batch.entries =
      (session.appliedIn second).flatMap Batch.entries) :
    let left := session.calls first
    let right := session.calls second
    left.1.dashboard = right.1.dashboard ∧
      (events left.2).filter Event.isDisplayed =
        (events right.2).filter Event.isDisplayed ∧
      left.1.stats.linesSeen = right.1.stats.linesSeen ∧
      left.1.stats.linesMatched = right.1.stats.linesMatched ∧
      ∀ last,
        EndsWithGreatest session.cursor (session.appliedIn first) last →
        EndsWithGreatest session.cursor (session.appliedIn second) last →
        left.1.cursor = some last ∧ right.1.cursor = some last := by
  intro left right
  have lines_eq := lines_eq_of_entries_eq same
  have left_same := session.calls_sameContent first
  have right_same := session.calls_sameContent second
  refine ⟨?_, ?_, ?_, ?_, fun last hleft hright => ⟨?_, ?_⟩⟩
  · rw [left_same.dashboard_eq, right_same.dashboard_eq, applyAll_dashboard,
      applyAll_dashboard, lines_eq]
  · rw [displayed_calls, displayed_calls, lines_eq]
  · rw [left_same.linesSeen_eq, right_same.linesSeen_eq, applyAll_linesSeen,
      applyAll_linesSeen, lines_eq]
  · rw [left_same.linesMatched_eq, right_same.linesMatched_eq,
      applyAll_linesMatched, applyAll_linesMatched, lines_eq]
  · rw [left_same.cursor_eq]
    exact session.applyAll_cursor_of_endsWithGreatest hleft
  · rw [right_same.cursor_eq]
    exact session.applyAll_cursor_of_endsWithGreatest hright

/-- A session that is not paused applies every batch that is delivered. -/
theorem appliedIn_of_deliveries {session : Session}
    (active : session.phase ≠ .paused) {calls : List Call}
    (deliveries : ∀ call ∈ calls, call.delivered?.isSome = true) :
    session.appliedIn calls = calls.filterMap Call.delivered? := by
  induction calls generalizing session with
  | nil => rfl
  | cons call rest ih =>
      obtain ⟨delivery, rest_deliveries⟩ := List.forall_mem_cons.mp deliveries
      cases call with
      | run replies => cases delivery
      | apply batch =>
          have applying : (session.applyBatch batch).phase ≠ .paused := by
            simp [applyBatch]
          have later := ih applying rest_deliveries
          exact congrArg (batch :: ·) later
      | poll reply =>
          cases reply with
          | error failure => cases delivery
          | ok batch =>
              have scheduled : (session.afterBatch batch).phase ≠ .paused := by
                simp
              have later := ih scheduled rest_deliveries
              have step_eq : session.step (.poll (.ok batch)) =
                  (session.afterBatch batch,
                    .requested session.cursor :: session.batchEmissions batch) :=
                by rw [step, poll_batch active]
              simp only [appliedIn, List.flatMap_cons, Call.steps,
                List.singleton_append, applied, appliedBy, if_neg active,
                step_eq] at later ⊢
              exact congrArg (batch :: ·) later

theorem batching_two_lines :
    let entry : Entry := ⟨.zero false, .zero false, "<tmpr>1</tmpr>"⟩
    let noise : Entry := ⟨.zero false, .zero false, "noise"⟩
    let early : Cursor := ⟨.zero true⟩
    let late : Cursor := ⟨.zero false⟩
    let session := Session.new (.new .utc) none true
    let first : List Call :=
      [.poll (.ok ⟨[entry, noise], .ofSeconds 6, some late⟩)]
    let second : List Call := [.apply ⟨[entry], .ofSeconds 1, some early⟩,
      .poll (.ok ⟨[], .ofSeconds 1, none⟩),
      .poll (.ok ⟨[noise], .ofSeconds 6, some late⟩)]
    let left := session.calls first
    let right := session.calls second
    (session.appliedIn second).flatMap Batch.entries = [entry, noise] ∧
      left.1.dashboard = right.1.dashboard ∧
      left.1.stats.linesMatched = right.1.stats.linesMatched ∧
      left.1.cursor = some late ∧ right.1.cursor = some late := by
  intro entry noise early late session first second left right
  have first_eq : session.appliedIn first = _ :=
    appliedIn_of_deliveries (by decide) (by simp [first, Call.delivered?])
  have second_eq : session.appliedIn second = _ :=
    appliedIn_of_deliveries (by decide) (by simp [second, Call.delivered?])
  have entries_eq : (session.appliedIn second).flatMap Batch.entries =
      [entry, noise] := by rw [second_eq]; rfl
  have zero_atMost (negative negative' : Bool) :
      (Binary64.zero negative).AtMost (.zero negative') := by
    refine ⟨_, _, rfl, rfl, ?_⟩
    cases negative <;> cases negative' <;> decide
  obtain ⟨dashboard, -, -, matched, cursor⟩ := batching_changes_nothing session
    first second (by rw [entries_eq, first_eq]; rfl)
  refine ⟨entries_eq, dashboard, matched, cursor late ?_ ?_⟩
  · rw [first_eq]
    exact ⟨⟨_, rfl, rfl⟩, by simp [first, Call.delivered?, session, new,
      late, zero_atMost]⟩
  · rw [second_eq]
    exact ⟨⟨_, rfl, rfl⟩, by simp [second, Call.delivered?, session, new,
      late, early, zero_atMost]⟩

end Session

end MeterWatch
