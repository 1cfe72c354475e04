import MeterWatch.Proofs.Line.Kinds
import MeterWatch.Proofs.Poll.Calls

/-!
# What a batch shows

The lines of a batch come down to one list of updates and one list of lines for
the scrollback.  A readout shows its last update, or what it showed before if
there is none, so a batch that is applied again changes no readout.
-/

namespace MeterWatch

/-! ## Updates of readouts -/

namespace Readouts

def write (readouts : Readouts) (update : Update) : Readouts :=
  readouts.set update.quantity update.text

def writeAll (readouts : Readouts) (updates : List Update) : Readouts :=
  updates.foldl write readouts

theorem eq_of_get? {left right : Readouts}
    (same : ∀ quantity, left.get? quantity = right.get? quantity) :
    left = right := by
  obtain ⟨watts, temp, humid, time⟩ := left
  obtain ⟨watts', temp', humid', time'⟩ := right
  have watts_eq : watts = watts' := same .watts
  have temp_eq : temp = temp' := same .temp
  have humid_eq : humid = humid' := same .humid
  have time_eq : time = time' := same .time
  rw [watts_eq, temp_eq, humid_eq, time_eq]

@[simp] theorem writeAll_nil (readouts : Readouts) :
    readouts.writeAll [] = readouts := rfl

@[simp] theorem writeAll_cons (readouts : Readouts) (update : Update)
    (rest : List Update) :
    readouts.writeAll (update :: rest) =
      (readouts.write update).writeAll rest := rfl

theorem writeAll_append (readouts : Readouts) (first second : List Update) :
    readouts.writeAll (first ++ second) =
      (readouts.writeAll first).writeAll second :=
  List.foldl_append

@[simp] theorem get?_write (readouts : Readouts) (update : Update)
    (quantity : Quantity) :
    (readouts.write update).get? quantity =
      if update.quantity = quantity then some update.text
      else readouts.get? quantity :=
  get?_set ..

/-! ## Last updates -/

variable {updates : List Update} {quantity : Quantity}

theorem get?_writeAll_of_untouched (readouts : Readouts)
    (untouched : ∀ update ∈ updates, update.quantity ≠ quantity) :
    (readouts.writeAll updates).get? quantity = readouts.get? quantity := by
  induction updates generalizing readouts with
  | nil => rfl
  | cons update rest ih =>
      obtain ⟨other, rest_untouched⟩ := List.forall_mem_cons.mp untouched
      rw [writeAll_cons, ih _ rest_untouched, get?_write, if_neg other]

/-- The last update of a quantity. -/
def IsLast (updates : List Update) (quantity : Quantity) (text : String) :
    Prop :=
  ∃ earlier later, updates = earlier ++ ⟨quantity, text⟩ :: later ∧
    ∀ update ∈ later, update.quantity ≠ quantity

theorem get?_writeAll_of_isLast (readouts : Readouts) {text : String}
    (last : IsLast updates quantity text) :
    (readouts.writeAll updates).get? quantity = some text := by
  obtain ⟨earlier, later, rfl, untouched⟩ := last
  rw [writeAll_append, writeAll_cons, get?_writeAll_of_untouched _ untouched,
    get?_write, if_pos rfl]

theorem isLast_or_untouched (updates : List Update) (quantity : Quantity) :
    (∃ text, IsLast updates quantity text) ∨
      ∀ update ∈ updates, update.quantity ≠ quantity := by
  induction updates with
  | nil => exact .inr (by simp)
  | cons update rest ih =>
      rcases ih with ⟨text, earlier, later, rfl, untouched⟩ | untouched
      · exact .inl ⟨text, update :: earlier, later, rfl, untouched⟩
      · by_cases same : update.quantity = quantity
        · subst same
          exact .inl ⟨update.text, [], rest, rfl, untouched⟩
        · exact .inr (List.forall_mem_cons.mpr ⟨same, untouched⟩)

/-- The last write to each readout wins, and nothing else moves. -/
def LastWriteWins (updates : List Update) (before after : Readouts) : Prop :=
  ∀ quantity,
    (∃ text, IsLast updates quantity text ∧
        after.get? quantity = some text) ∨
      (∀ update ∈ updates, update.quantity ≠ quantity) ∧
        after.get? quantity = before.get? quantity

theorem lastWriteWins_writeAll (readouts : Readouts) (updates : List Update) :
    LastWriteWins updates readouts (readouts.writeAll updates) := by
  intro quantity
  rcases isLast_or_untouched updates quantity with ⟨text, last⟩ | untouched
  · exact .inl ⟨text, last, get?_writeAll_of_isLast readouts last⟩
  · exact .inr ⟨untouched, get?_writeAll_of_untouched readouts untouched⟩

theorem writeAll_writeAll (readouts : Readouts) (updates : List Update) :
    (readouts.writeAll updates).writeAll updates =
      readouts.writeAll updates := by
  apply eq_of_get?
  intro quantity
  rcases isLast_or_untouched updates quantity with ⟨text, last⟩ | untouched
  · rw [get?_writeAll_of_isLast _ last, get?_writeAll_of_isLast _ last]
  · exact get?_writeAll_of_untouched _ untouched

end Readouts

/-! ## Updates of lines -/

namespace Line

/-- What a line writes to the readouts, in the order of its readings. -/
def updates (zone : Zone) (line : String) : List Update :=
  (decode line).flatMap (Reading.updates zone)

theorem updates_of_not_isRecognised (zone : Zone) {line : String}
    (unknown : isRecognised line = false) : updates zone line = [] := by
  rw [updates, decode_of_not_isRecognised unknown]
  rfl

/-- The recognised lines, if any are kept. -/
def kept (logView : Bool) (lines : List String) : List String :=
  if logView then lines.filter isRecognised else []

theorem kept_append (logView : Bool) (first second : List String) :
    kept logView (first ++ second) =
      kept logView first ++ kept logView second := by
  cases logView
  · rfl
  · exact List.filter_append ..

end Line

/-! ## Dashboards -/

namespace Dashboard

/-- A dashboard after some updates and lines for its scrollback. -/
def showing (dashboard : Dashboard) (updates : List Update)
    (lines : List String) : Dashboard where
  zone := dashboard.zone
  readouts := dashboard.readouts.writeAll updates
  scrollback := lines.reverse ++ dashboard.scrollback

@[simp] theorem showing_zone (dashboard : Dashboard) (updates : List Update)
    (lines : List String) :
    (dashboard.showing updates lines).zone = dashboard.zone := rfl

theorem showing_showing (dashboard : Dashboard)
    (updates updates' : List Update) (lines lines' : List String) :
    (dashboard.showing updates lines).showing updates' lines' =
      dashboard.showing (updates ++ updates') (lines ++ lines') := by
  simp only [showing, Readouts.writeAll_append, List.reverse_append,
    List.append_assoc]

theorem foldl_write (dashboard : Dashboard) (updates : List Update) :
    updates.foldl write dashboard = dashboard.showing updates [] := by
  induction updates generalizing dashboard with
  | nil => rfl
  | cons update rest ih => exact ih (dashboard.write update)

theorem foldl_apply (dashboard : Dashboard) (readings : List Reading) :
    readings.foldl apply dashboard =
      dashboard.showing (readings.flatMap (Reading.updates dashboard.zone))
        [] := by
  induction readings generalizing dashboard with
  | nil => rfl
  | cons reading rest ih =>
      rw [List.foldl_cons, ih, apply, foldl_write, showing_showing,
        showing_zone, List.flatMap_cons]
      rfl

end Dashboard

namespace Session

theorem showLine_eq (logView : Bool) (dashboard : Dashboard) (line : String) :
    showLine logView dashboard line =
      dashboard.showing (Line.updates dashboard.zone line)
        (Line.kept logView [line]) := by
  cases known : Line.isRecognised line with
  | false =>
      rw [Line.updates_of_not_isRecognised _ known]
      cases logView <;> simp [showLine, Line.kept, known, Dashboard.showing]
  | true =>
      simp only [showLine, known, if_true, Dashboard.foldl_apply]
      cases logView <;>
        simp [Line.kept, known, Dashboard.showing, Dashboard.prepend,
          Line.updates]

theorem foldl_showLine (logView : Bool) (dashboard : Dashboard)
    (lines : List String) :
    lines.foldl (showLine logView) dashboard =
      dashboard.showing (lines.flatMap (Line.updates dashboard.zone))
        (Line.kept logView lines) := by
  induction lines generalizing dashboard with
  | nil => cases logView <;> rfl
  | cons line rest ih =>
      rw [List.foldl_cons, ih, showLine_eq, Dashboard.showing_showing,
        Dashboard.showing_zone, ← Line.kept_append]
      rfl

end Session

/-! ## Order within a line -/

namespace Line

/-- Only the reader of demand records finds a demand. -/
theorem demandReading?_of_mem {line : String} {watts : Binary64}
    {time : Instant} (member : .demand watts time ∈ decode line) :
    demandReading? line.toList = some (.demand watts time) := by
  simp only [decode, List.mem_append, Option.mem_toList, powerReading?,
    temperatureReading?, clockReading?, Option.bind_eq_bind,
    Option.bind_eq_some_iff, Option.pure_def, Option.some.injEq,
    reduceCtorEq, and_false, exists_false, false_or, or_false] at member
  rcases member with demand | climate
  · exact demand
  · unfold climateReadings at climate
    cases found : leftmost? climateFields? line.toList with
    | none => simp [found] at climate
    | some fields => simp [found, ClimateFields.readings] at climate

theorem quantity_of_climate {zone : Zone} {text : List Char} {update : Update}
    (member : update ∈ (climateReadings text).flatMap (Reading.updates zone)) :
    update.quantity = .temp ∨ update.quantity = .humid := by
  obtain ⟨reading, climate, shown⟩ := List.mem_flatMap.mp member
  unfold climateReadings at climate
  cases found : leftmost? climateFields? text with
  | none => simp [found] at climate
  | some fields =>
      simp only [found, Option.map_some, Option.getD_some,
        ClimateFields.readings, List.mem_append, Option.mem_toList,
        Option.map_eq_some_iff] at climate
      rcases climate with ⟨celsius, -, rfl⟩ | ⟨percent, -, rfl⟩
      · rw [Reading.updates, List.mem_singleton] at shown
        exact .inl (congrArg Update.quantity shown)
      · rw [Reading.updates, List.mem_singleton] at shown
        exact .inr (congrArg Update.quantity shown)

/-- The demand of a line comes after its power and its time of day. -/
theorem isLast_of_demand (zone : Zone) {line : String} {watts : Binary64}
    {time : Instant} (member : .demand watts time ∈ decode line) :
    Readouts.IsLast (updates zone line) .watts (demandText watts) ∧
      Readouts.IsLast (updates zone line) .time (zone.format time) := by
  have demand := demandReading?_of_mem member
  have climate_other (update : Update)
      (shown : update ∈
        (climateReadings line.toList).flatMap (Reading.updates zone)) :
      update.quantity ≠ .watts ∧ update.quantity ≠ .time := by
    rcases quantity_of_climate shown with temp | humid
    · simp [temp]
    · simp [humid]
  obtain ⟨earlier, updates_eq⟩ : ∃ earlier, updates zone line =
      earlier ++ ⟨.watts, demandText watts⟩ :: ⟨.time, zone.format time⟩ ::
        (climateReadings line.toList).flatMap (Reading.updates zone) := by
    simp only [updates, decode, demand, Option.toList_some,
      List.flatMap_append, List.flatMap_singleton, Reading.updates]
    exact ⟨_, List.append_assoc ..⟩
  constructor
  · refine ⟨earlier, _, updates_eq, List.forall_mem_cons.mpr ⟨by simp, ?_⟩⟩
    exact fun update shown => (climate_other update shown).1
  · refine ⟨earlier ++ [⟨.watts, demandText watts⟩], _, by simp [updates_eq],
      fun update shown => (climate_other update shown).2⟩

/-- The temperature of a climate record comes last. -/
theorem isLast_of_climate (zone : Zone) {line : String} {celsius : Binary64}
    (member : .temperature celsius ∈ climateReadings line.toList) :
    Readouts.IsLast (updates zone line) .temp (oneDecimal celsius) := by
  unfold climateReadings at member
  cases found : leftmost? climateFields? line.toList with
  | none => simp [found] at member
  | some fields =>
      have usable : readFinite? fields.celsius = some celsius := by
        simpa [found, ClimateFields.readings] using member
      obtain ⟨earlier, updates_eq⟩ : ∃ earlier, updates zone line =
          earlier ++ ⟨.temp, oneDecimal celsius⟩ ::
            ((readFinite? fields.percent).map Reading.humidity).toList.flatMap
              (Reading.updates zone) := by
        simp only [updates, decode, climateReadings, found, Option.map_some,
          Option.getD_some, ClimateFields.readings, usable,
          Option.toList_some, List.flatMap_append, List.flatMap_singleton,
          Reading.updates]
        exact ⟨_, rfl⟩
      refine ⟨earlier, _, updates_eq, fun update shown => ?_⟩
      obtain ⟨reading, humidity, shown⟩ := List.mem_flatMap.mp shown
      rw [Option.mem_toList, Option.map_eq_some_iff] at humidity
      obtain ⟨percent, -, rfl⟩ := humidity
      rw [Reading.updates, List.mem_singleton] at shown
      simp [shown]

end Line

/-! ## Batches -/

namespace Batch

def lines (batch : Batch) : List String := batch.entries.map Entry.line

def updates (zone : Zone) (batch : Batch) : List Update :=
  batch.lines.flatMap (Line.updates zone)

end Batch

namespace Session

theorem applyBatch_dashboard (session : Session) (batch : Batch) :
    (session.applyBatch batch).dashboard =
      session.dashboard.showing (batch.updates session.dashboard.zone)
        (Line.kept session.logView batch.lines) :=
  foldl_showLine ..

theorem nextCursor_nextCursor (held offered : Option Cursor) :
    nextCursor (nextCursor held offered) offered =
      nextCursor held offered := by
  cases offered with
  | none => cases held <;> rfl
  | some next =>
      have taken : nextCursor (some next) (some next) = some next := by
        simp [nextCursor]
      cases held with
      | none => exact taken
      | some current =>
          cases less : next.position.isLess current.position with
          | true => simp [nextCursor, less]
          | false =>
              have first : nextCursor (some current) (some next) = some next :=
                by simp [nextCursor, less]
              rw [first, taken]

/--
A batch writes the last update of each readout and puts the recognised lines in
front of the scrollback.  On one line a demand comes after the watts and the
time of the meter, and a climate temperature after its own.
-/
theorem applyBatch_lastWriteWins (session : Session) (batch : Batch) :
    let zone := session.dashboard.zone
    let after := session.applyBatch batch
    let again := after.applyBatch batch
    Readouts.LastWriteWins (batch.updates zone) session.dashboard.readouts
        after.dashboard.readouts ∧
      (∀ line watts time, .demand watts time ∈ Line.decode line →
        Readouts.IsLast (Line.updates zone line) .watts (demandText watts) ∧
          Readouts.IsLast (Line.updates zone line) .time
            (zone.format time)) ∧
      (∀ line celsius,
        .temperature celsius ∈ Line.climateReadings line.toList →
        Readouts.IsLast (Line.updates zone line) .temp
          (oneDecimal celsius)) ∧
      after.dashboard.scrollback =
        (if session.logView then
          (batch.lines.filter Line.isRecognised).reverse
        else []) ++ session.dashboard.scrollback ∧
      again.dashboard.readouts = after.dashboard.readouts ∧
      again.cursor = after.cursor := by
  intro zone after again
  have after_eq : after.dashboard = session.dashboard.showing
      (batch.updates zone) (Line.kept session.logView batch.lines) :=
    applyBatch_dashboard session batch
  have again_eq : again.dashboard = after.dashboard.showing
      (batch.updates after.dashboard.zone)
      (Line.kept after.logView batch.lines) :=
    applyBatch_dashboard after batch
  refine ⟨?_, fun line watts time => Line.isLast_of_demand zone,
    fun line celsius => Line.isLast_of_climate zone, ?_, ?_,
    nextCursor_nextCursor session.cursor batch.cursor⟩
  · rw [after_eq]
    exact Readouts.lastWriteWins_writeAll _ _
  · rw [after_eq]
    cases session.logView <;> rfl
  · rw [again_eq, after_eq]
    exact Readouts.writeAll_writeAll ..

theorem applyBatch_climate_overrides_meter :
    let line := "<tmpr>1</tmpr>temperature=2,relative_humidity=3"
    let entry : Entry := ⟨.zero false, .zero false, line⟩
    let batch : Batch := ⟨[entry], .ofSeconds 6, some ⟨.zero false⟩⟩
    let session := Session.new (.new .utc) none true
    let after := session.applyBatch batch
    let again := after.applyBatch batch
    .temperature (.ofNat 2) ∈ Line.climateReadings line.toList ∧
      Readouts.IsLast (Line.updates .utc line) .temp "2.0" ∧
      after.dashboard.scrollback = [line] ∧
      again.dashboard.readouts = after.dashboard.readouts ∧
      again.cursor = some ⟨.zero false⟩ := by
  intro line entry batch session after again
  obtain ⟨-, -, climate, scrollback, readouts, cursor⟩ :=
    applyBatch_lastWriteWins session batch
  have celsius : .temperature (.ofNat 2) ∈
      Line.climateReadings line.toList := by decide +kernel
  have text : oneDecimal (.ofNat 2) = "2.0" := by decide +kernel
  have last := climate line _ celsius
  rw [text] at last
  exact ⟨celsius, last, scrollback.trans (by decide +kernel), readouts, cursor⟩

end Session

end MeterWatch
