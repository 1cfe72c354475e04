import MeterWatch.Proofs.Binary64.Sum
import MeterWatch.Proofs.Chart.Rounds
import MeterWatch.Proofs.Json.Number
import MeterWatch.Proofs.Json.Positional

/-!
# Summaries of charts

All values of a chart that is read are finite, so every row is counted, added up
and compared.  Of equally great values the last is the peak, and only a chart
without rows has none.
-/

namespace MeterWatch

open Json
open Binary64 (SumsUp foldl_add_sumsUp totalKey_le_iff totalKey_lt_iff)

/-! ## Finite rows -/

def AllFinite (rows : List ChartRow) : Prop :=
  ∀ row ∈ rows, row.value.isFinite = true

theorem readChartRow_isFinite :
    Gives readChartRow fun row => row.value.isFinite = true := by
  intro text
  refine ensures_bind fun elements => ensures_bind fun ⟨label, rest⟩ => ?_
  refine (elementAt_gives readNumber_isFinite _ 1 _).bind
    fun ⟨value, rest⟩ finite => ensures_bind fun _ => ?_
  exact ensures_ok finite

namespace ChartBody

theorem member_allFinite (rows : Option Rows) (key : List Char)
    (finite : ∀ kept ∈ rows, AllFinite kept) :
    Gives (member rows key) fun rows => ∀ kept ∈ rows, AllFinite kept := by
  intro text
  unfold member
  split
  · split
    · exact ensures_duplicate
    · refine ensures_bind fun _ => (readList_gives readChartRow_isFinite _).bind
        fun ⟨listed, rest⟩ listed_finite => ensures_ok ?_
      rintro _ ⟨⟩
      exact listed_finite
  · exact ensures_bind fun _ => ensures_ok finite

theorem readObject_allFinite : Gives readObject AllFinite := by
  intro text
  refine (readMembers_gives member_allFinite (by simp) text).bind
    fun ⟨rows, rest⟩ finite => ?_
  cases rows with
  | none => exact ensures_error
  | some rows => exact ensures_ok (finite rows rfl)

theorem readElements_allFinite : Gives readElements AllFinite := by
  intro text
  refine (elementAt_gives (readList_gives readChartRow_isFinite) _ 0 _).bind
    fun ⟨rows, rest⟩ finite => ensures_bind fun _ => ?_
  exact ensures_ok finite

theorem read_allFinite : Gives read AllFinite := by
  intro text
  unfold read
  split
  · exact ensures_error
  · exact readObject_allFinite _
  · exact readElements_allFinite _
  · exact ensures_wrongType

theorem rows_allFinite {body : String} {rows : List ChartRow}
    (read : ChartBody.rows body = .ok rows) : AllFinite rows := by
  simp only [ChartBody.rows] at read
  split at read
  · rename_i listed accepted
    cases read
    exact readDocument_ensures read_allFinite _ rows accepted
  · cases read

end ChartBody

/-! ## Totals -/

theorem chartTotal_sumsUp {rows : List ChartRow} (finite : AllFinite rows) :
    SumsUp (.zero true) (rows.map ChartRow.value) (chartTotal rows) := by
  have total_eq : chartTotal rows =
      (rows.map ChartRow.value).foldl (· + ·) (.zero true) :=
    List.foldl_map.symm
  rw [total_eq]
  refine foldl_add_sumsUp _ (by simp [Binary64.zero]) ?_
  rintro _ member
  obtain ⟨row, listed, rfl⟩ := List.mem_map.mp member
  exact finite row listed

/-! ## Peaks -/

/-- The last of the greatest rows. -/
def IsPeak (rows : List ChartRow) (peak : ChartRow) : Prop :=
  ∃ before after, rows = before ++ peak :: after ∧
    (∀ row ∈ rows, row.value.TotallyAtMost peak.value) ∧
      ∀ row ∈ after, row.value.TotallyBelow peak.value

/-- Without rows there is no peak. -/
def PeakOf (rows : List ChartRow) : Option ChartRow → Prop
  | none => rows = []
  | some peak => IsPeak rows peak

theorem AllFinite.ne_nan {rows : List ChartRow} (finite : AllFinite rows)
    {row : ChartRow} (listed : row ∈ rows) : row.value ≠ .nan := by
  intro nan
  have read := finite row listed
  rw [nan] at read
  cases read

/-- A further row is the peak, unless it is below the peak of those before. -/
theorem higherRow_peakOf {rows : List ChartRow} {row : ChartRow}
    {peak : Option ChartRow} (finite : AllFinite (rows ++ [row]))
    (h : PeakOf rows peak) : PeakOf (rows ++ [row]) (higherRow peak row) := by
  have last : row ∈ rows ++ [row] := by simp
  have earlier {other : ChartRow} (listed : other ∈ rows) :
      other.value ≠ .nan := finite.ne_nan (List.mem_append_left _ listed)
  cases peak with
  | none =>
      cases h
      exact ⟨[], [], rfl, by simp [Binary64.TotallyAtMost], by simp⟩
  | some best =>
      obtain ⟨before, after, rows_eq, greatest, below⟩ := h
      have listed : best ∈ rows := by simp [rows_eq]
      simp only [higherRow]
      split
      · rename_i less
        rw [totalKey_lt_iff (finite.ne_nan last) (earlier listed)] at less
        refine ⟨before, after ++ [row], by simp [rows_eq], ?_, ?_⟩
        · exact List.forall_mem_append.mpr
            ⟨greatest, List.forall_mem_singleton.mpr (.inr less)⟩
        · exact List.forall_mem_append.mpr
            ⟨below, List.forall_mem_singleton.mpr less⟩
      · rename_i not_less
        refine ⟨rows, [], rfl, List.forall_mem_append.mpr ⟨?_, ?_⟩, by simp⟩
        · intro other member
          have low := (totalKey_le_iff (earlier member) (earlier listed)).mpr
            (greatest other member)
          rw [← totalKey_le_iff (earlier member) (finite.ne_nan last)]
          omega
        · exact List.forall_mem_singleton.mpr (.inl rfl)

theorem foldl_higherRow_peakOf (rows : List ChartRow) (finite : AllFinite rows) :
    PeakOf rows (rows.foldl higherRow none) := by
  induction rows using List.reverseRecOn with
  | nil => rfl
  | append_singleton rows row ih =>
      -- The peak of the rows before decides together with the last row.
      rw [List.foldl_append]
      exact higherRow_peakOf finite
        (ih fun other listed => finite other (List.mem_append_left _ listed))

theorem chartPeak_peakOf {rows : List ChartRow} (finite : AllFinite rows) :
    PeakOf rows (chartPeak rows) := by
  rw [chartPeak, List.filter_eq_self.mpr finite]
  exact foldl_higherRow_peakOf rows finite

theorem PeakOf.eq_none_iff {rows : List ChartRow} {peak : Option ChartRow}
    (h : PeakOf rows peak) : peak = none ↔ rows = [] := by
  cases peak with
  | none => exact iff_of_true rfl h
  | some best =>
      obtain ⟨before, after, rfl, -⟩ := h
      simp

/-! ## Messages -/

/-- Of a peak is told only after the number of points. -/
theorem message_eq_noData_iff (summary : ChartSummary) :
    summary.message = "[CHART] " ++ summary.unit.label ++ ": no data" ↔
      summary.peak = none := by
  have noData : ": no data" = ": " ++ "no data" := rfl
  rw [noData, ← String.append_assoc]
  cases peak_eq : summary.peak with
  | none => simp [ChartSummary.message, peak_eq]
  | some peak =>
      refine iff_of_false (fun same => ?_) (Option.some_ne_none peak)
      have points := toDigits_isDigits summary.points
      obtain ⟨first, rest, digits_eq⟩ := List.exists_cons_of_ne_nil points.1
      rw [ChartSummary.message, peak_eq, ← String.toList_inj] at same
      simp only [String.toList_append, List.append_assoc,
        List.append_cancel_left_eq, Nat.toString_eq_repr,
        Nat.repr_eq_ofList_toDigits, String.toList_ofList, digits_eq,
        List.cons_append] at same
      have letter : first = 'n' := (List.cons.inj same).1
      have digit := points.2 first (by simp [digits_eq])
      rw [letter] at digit
      cases digit

/-! ## Summaries -/

/-- What is shown of a chart that is read is told in one record. -/
theorem render_of_rows {unit : ChartUnit} {body : String}
    {rows : List ChartRow} (read : ChartBody.rows body = .ok rows)
    {board : ChartBoard} (web : Exchange.isSendable board.source = true)
    {status : Nat} (success : 200 ≤ status ∧ status < 300) :
    (board.render unit (.answered status body)).summaries =
        [.ofRows unit rows] ∧
      ChartEmission.records
          (board.render unit (.answered status body)).emissions =
        [⟨.info, .charts, (ChartSummary.ofRows unit rows).message⟩] := by
  have outcome_eq : ChartSet.outcome board.source unit
      (.answered status body) = .shown (.ofRows unit rows) := by
    obtain ⟨_, name, known⟩ := ChartSet.exists_isKnownAs unit
    have renders := ChartSet.outcome_renders web known (.answered status body)
    generalize ChartSet.outcome board.source unit _ = outcome at renders ⊢
    cases renders with
    | shown _ read' =>
        cases read.symm.trans read'
        rfl
    | malformed _ unread => cases read.symm.trans unread
    | refused failure => exact absurd success failure
  have round := ChartBoard.render_eq web board.errors
    (fun _ => .answered status body) unit
  have logged := ChartSet.records_trace board.source
    (fun _ => .answered status body) [unit]
  have outcomes_eq : ChartSet.outcomes board.source
      (fun _ => .answered status body) [unit] = [.shown (.ofRows unit rows)] :=
    congrArg ([·]) outcome_eq
  rw [outcomes_eq] at round logged
  rw [List.flatMap_cons, List.flatMap_nil, List.append_nil] at logged
  change board.render unit _ = _ at round
  rw [round]
  exact ⟨rfl, logged⟩

/--
Every row of a chart that is read is counted, added up from the left and
compared.  The total starts with -0.0, the peak is the last of the greatest
rows, and the record says that there are no data exactly if there are no rows.
-/
theorem rows_are_summarised (unit : ChartUnit) {body : String}
    {rows : List ChartRow} (read : ChartBody.rows body = .ok rows) :
    ∃ summary : ChartSummary,
      (∀ (board : ChartBoard) (status : Nat),
        Exchange.isSendable board.source = true →
        200 ≤ status ∧ status < 300 →
          (board.render unit (.answered status body)).summaries = [summary] ∧
            ChartEmission.records
                (board.render unit (.answered status body)).emissions =
              [⟨.info, .charts, summary.message⟩]) ∧
      summary.points = rows.length ∧
      (∀ total, SumsUp (.zero true) (rows.map ChartRow.value) total ↔
        total = summary.total) ∧
      (summary.peak = none ↔ rows = []) ∧
      (∀ peak, summary.peak = some peak → IsPeak rows peak) ∧
      (summary.message = "[CHART] " ++ unit.label ++ ": no data" ↔
        rows = []) := by
  have finite := ChartBody.rows_allFinite read
  have total := chartTotal_sumsUp finite
  have peak := chartPeak_peakOf finite
  refine ⟨.ofRows unit rows, fun board status web success =>
    render_of_rows read web success, rfl, fun other => ?_, peak.eq_none_iff,
    fun best best_eq => ?_, ?_⟩
  · exact ⟨fun sum => sum.unique total, fun same => same ▸ total⟩
  · change chartPeak rows = some best at best_eq
    rwa [best_eq] at peak
  · exact (message_eq_noData_iff (.ofRows unit rows)).trans peak.eq_none_iff

/-- Zeros only, of which the positive ones are greater. -/
def zeroBody : String :=
  "\x7b\"rows\":[[\"00\",-0.0],[\"01\",0],[\"02\",0.0],[\"03\",-0.0]]\x7d"

def zeroRows : List ChartRow :=
  [⟨"00", .zero true⟩, ⟨"01", .zero false⟩, ⟨"02", .zero false⟩,
    ⟨"03", .zero true⟩]

theorem zero_rows_are_summarised :
    ChartBody.rows zeroBody = .ok zeroRows ∧
      ∃ summary, ((ChartBoard.new ChartBoard.localCharts).render .day
          (.answered 200 zeroBody)).summaries = [summary] ∧
        SumsUp (.zero true) (zeroRows.map ChartRow.value) summary.total ∧
        (∃ peak, summary.peak = some peak ∧ IsPeak zeroRows peak) ∧
        summary.message =
          "[CHART] daily: 4 points, total 0.0, peak 0.0 at 02" := by
  have read : ChartBody.rows zeroBody = .ok zeroRows := by decide +kernel
  obtain ⟨summary, shown, -, total, no_peak, peaks, -⟩ :=
    rows_are_summarised .day read
  have here := (shown (ChartBoard.new ChartBoard.localCharts) 200 (by decide)
    (by decide)).1
  have told : ((ChartBoard.new ChartBoard.localCharts).render .day
      (.answered 200 zeroBody)).summaries.map ChartSummary.message =
        ["[CHART] daily: 4 points, total 0.0, peak 0.0 at 02"] := by
    decide +kernel
  rw [here] at told
  obtain ⟨peak, peak_eq⟩ := Option.ne_none_iff_exists'.mp
    (mt no_peak.mp (List.cons_ne_nil _ _))
  exact ⟨read, summary, here, (total _).mpr rfl,
    ⟨peak, peak_eq, peaks peak peak_eq⟩, (List.cons.inj told).1⟩

end MeterWatch
