import MeterWatch.Proofs.Batch.Body
import MeterWatch.Proofs.Poll.Calls

/-!
# The cursor is a running maximum

Of all cursors that a session has started with or been offered it holds the
greatest, and of equal ones the latest.  Cursors are compared by their exact
values, so both zeros are equal.  A NaN is no position: it is held only until
the first cursor is offered.
-/

namespace MeterWatch

open Emission

/-! ## Order of cursors -/

namespace Cursor

def IsNumber (cursor : Cursor) : Prop := cursor.position ≠ .nan

instance (cursor : Cursor) : Decidable cursor.IsNumber :=
  inferInstanceAs (Decidable (_ ≠ _))

def Comparable (held : Option Cursor) : Prop :=
  ∀ cursor, held = some cursor → cursor.IsNumber

theorem comparable_some {cursor : Cursor} (number : cursor.IsNumber) :
    Comparable (some cursor) := by
  rintro _ ⟨⟩
  exact number

theorem isNumber_of_isFinite {cursor : Cursor}
    (finite : cursor.position.isFinite = true) : cursor.IsNumber := by
  intro nan
  rw [nan] at finite
  cases finite

/-- The last of the greatest of some cursors. -/
def IsLatestGreatest (greatest : Cursor) (cursors : List Cursor) : Prop :=
  ∃ before after, cursors = before ++ greatest :: after ∧
    (∀ cursor ∈ before, cursor.position.AtMost greatest.position) ∧
    ∀ cursor ∈ after, cursor.position.Below greatest.position

/-- Once a cursor is set it stays set, and its value does not fall. -/
def NotAfter : Option Cursor → Option Cursor → Prop
  | none, _ => True
  | some _, none => False
  | some earlier, some later => earlier.position.AtMost later.position

theorem NotAfter.refl {held : Option Cursor} (comparable : Comparable held) :
    NotAfter held held := by
  cases held with
  | none => trivial
  | some cursor => exact Binary64.AtMost.refl (comparable cursor rfl)

theorem NotAfter.trans {first second third : Option Cursor}
    (earlier : NotAfter first second) (later : NotAfter second third) :
    NotAfter first third := by
  cases first with
  | none => trivial
  | some first =>
      cases second with
      | none => exact earlier.elim
      | some second =>
          cases third with
          | none => exact later.elim
          | some third => exact Binary64.AtMost.trans earlier later

theorem isLatestGreatest_singleton (cursor : Cursor) :
    cursor.IsLatestGreatest [cursor] :=
  ⟨[], [], rfl, by simp, by simp⟩

theorem IsLatestGreatest.atMost {greatest : Cursor} {cursors : List Cursor}
    (h : greatest.IsLatestGreatest cursors) (number : greatest.IsNumber)
    {cursor : Cursor} (member : cursor ∈ cursors) :
    cursor.position.AtMost greatest.position := by
  obtain ⟨before, after, rfl, hbefore, hafter⟩ := h
  simp only [List.mem_append, List.mem_cons] at member
  rcases member with member | rfl | member
  · exact hbefore cursor member
  · exact Binary64.AtMost.refl number
  · exact (hafter cursor member).atMost

end Cursor

open Cursor

namespace Session

/-! ## Taking cursors -/

def takeCursor (held : Option Cursor) (offered : Cursor) : Option Cursor :=
  nextCursor held (some offered)

theorem takeCursor_some (held offered : Cursor) :
    takeCursor (some held) offered =
      if offered.position.isLess held.position then some held
      else some offered := rfl

theorem takeCursor_nan (offered : Cursor) :
    takeCursor (some ⟨.nan⟩) offered = some offered := by
  obtain ⟨position⟩ := offered
  cases position <;> rfl

theorem isSome_takeCursor (held : Option Cursor) (offered : Cursor) :
    (takeCursor held offered).isSome = true := by
  cases held with
  | none => rfl
  | some held =>
      rw [takeCursor_some]
      split <;> rfl

theorem takeCursor_comparable {held : Option Cursor} {offered : Cursor}
    (comparable : Comparable held) (number : offered.IsNumber) :
    Comparable (takeCursor held offered) := by
  cases held with
  | none => exact comparable_some number
  | some held =>
      rw [takeCursor_some]
      split
      · exact comparable
      · exact comparable_some number

theorem notAfter_takeCursor {held : Option Cursor} {offered : Cursor}
    (comparable : Comparable held) (number : offered.IsNumber) :
    NotAfter held (takeCursor held offered) := by
  cases held with
  | none => trivial
  | some held =>
      rw [takeCursor_some]
      split
      · exact NotAfter.refl comparable
      · rename_i refused
        rw [Binary64.isLess_iff_below] at refused
        exact Binary64.atMost_of_not_below (comparable held rfl) number refused

theorem takeCursor_isLatestGreatest {held offered : Cursor}
    {known : List Cursor} (h : held.IsLatestGreatest known)
    (held_number : held.IsNumber) (number : offered.IsNumber) {set : Cursor}
    (taken : takeCursor (some held) offered = some set) :
    set.IsLatestGreatest (known ++ [offered]) := by
  rw [takeCursor_some] at taken
  split at taken
  · rename_i less
    cases taken
    obtain ⟨before, after, rfl, hbefore, hafter⟩ := h
    refine ⟨before, after ++ [offered], by simp, hbefore, ?_⟩
    intro cursor member
    rcases List.mem_append.mp member with member | member
    · exact hafter cursor member
    · rw [List.mem_singleton.mp member]
      exact (Binary64.isLess_iff_below _ _).mp less
  · rename_i refused
    cases taken
    rw [Binary64.isLess_iff_below] at refused
    refine ⟨known, [], rfl, fun cursor member => ?_, by simp⟩
    exact (h.atMost held_number member).trans
      (Binary64.atMost_of_not_below held_number number refused)

theorem isSome_foldl_takeCursor {held : Option Cursor}
    (set : held.isSome = true) (offered : List Cursor) :
    (offered.foldl takeCursor held).isSome = true := by
  induction offered generalizing held with
  | nil => exact set
  | cons next rest ih => exact ih (isSome_takeCursor held next)

theorem foldl_takeCursor {held : Cursor} {known offered : List Cursor}
    (h : held.IsLatestGreatest known) (held_number : held.IsNumber)
    (numbers : ∀ cursor ∈ offered, cursor.IsNumber) :
    ∃ set, offered.foldl takeCursor (some held) = some set ∧
      set.IsLatestGreatest (known ++ offered) := by
  induction offered generalizing held known with
  | nil => exact ⟨held, rfl, by simpa using h⟩
  | cons next rest ih =>
      have number := numbers next (List.mem_cons_self ..)
      obtain ⟨set, taken⟩ :=
        Option.isSome_iff_exists.mp (isSome_takeCursor (some held) next)
      have set_number :=
        takeCursor_comparable (comparable_some held_number) number set taken
      obtain ⟨final, hfinal, hgreatest⟩ :=
        ih (takeCursor_isLatestGreatest h held_number number taken) set_number
          (fun cursor member => numbers cursor (List.mem_cons_of_mem _ member))
      exact ⟨final, by rw [List.foldl_cons, taken, hfinal],
        by simpa using hgreatest⟩

/-! ## Cursors of steps -/

def offered (session : Session) (orders : List Step) : List Cursor :=
  (session.applied orders).filterMap Batch.cursor

theorem applyAll_cursor (session : Session) (batches : List Batch) :
    (session.applyAll batches).cursor =
      (batches.filterMap Batch.cursor).foldl takeCursor session.cursor := by
  induction batches generalizing session with
  | nil => rfl
  | cons batch rest ih =>
      have first : (session.applyBatch batch).cursor =
          nextCursor session.cursor batch.cursor := rfl
      rw [applyAll, List.foldl_cons, ← applyAll, ih, first]
      cases offer : batch.cursor with
      | none =>
          rw [List.filterMap_cons_none offer]
          cases session.cursor <;> rfl
      | some next => rw [List.filterMap_cons_some offer]; rfl

theorem steps_cursor (session : Session) (orders : List Step) :
    (session.steps orders).1.cursor =
      (session.offered orders).foldl takeCursor session.cursor := by
  rw [(session.steps_sameContent orders).cursor_eq, applyAll_cursor]
  rfl

theorem offered_cons (session : Session) (order : Step) (rest : List Step) :
    session.offered (order :: rest) =
      (session.appliedBy order).filterMap Batch.cursor ++
        (session.step order).1.offered rest := by
  simp [offered, applied, List.filterMap_append]

theorem step_cursor (session : Session) (order : Step) :
    (session.appliedBy order).filterMap Batch.cursor = [] ∧
        (session.step order).1.cursor = session.cursor ∨
      ∃ next, (session.appliedBy order).filterMap Batch.cursor = [next] ∧
        (session.step order).1.cursor = takeCursor session.cursor next := by
  have cursor_eq : (session.step order).1.cursor =
      ((session.appliedBy order).filterMap Batch.cursor).foldl takeCursor
        session.cursor := by
    rw [(session.step_sameContent order).cursor_eq, applyAll_cursor]
  have short : ((session.appliedBy order).filterMap Batch.cursor).length ≤ 1 :=
    (List.length_filterMap_le _ _).trans (session.length_appliedBy order)
  rw [cursor_eq]
  match (session.appliedBy order).filterMap Batch.cursor, short with
  | [], _ => exact .inl ⟨rfl, rfl⟩
  | [next], _ => exact .inr ⟨next, rfl, rfl⟩

theorem requests_step (session : Session) (order : Step) :
    requests (session.step order).2 = [] ∨
      requests (session.step order).2 = [session.cursor] := by
  cases order with
  | apply batch => exact .inl (requests_batchEmissions session batch)
  | poll reply =>
      by_cases paused : session.phase = .paused
      · rw [step_poll_of_paused paused]
        exact .inl rfl
      · right
        cases reply <;>
          simp [step, poll_batch paused, poll_failure paused]

/-! ## The law -/

/-- Where a session stands whose cursors have all been numbers. -/
structure CursorLaw (known : List Cursor) (asked : List (Option Cursor))
    (held : Option Cursor) : Prop where
  isSome_iff : held.isSome ↔ known ≠ []
  isLatestGreatest : ∀ cursor, held = some cursor →
    cursor.IsLatestGreatest known
  asked_inOrder : asked.Pairwise NotAfter

theorem step_notAfter {session : Session} {order : Step}
    (comparable : Comparable session.cursor)
    (numbers : ∀ cursor ∈ (session.appliedBy order).filterMap Batch.cursor,
      cursor.IsNumber) :
    Comparable (session.step order).1.cursor ∧
      NotAfter session.cursor (session.step order).1.cursor := by
  rcases session.step_cursor order with ⟨-, same⟩ | ⟨next, offer, taken⟩
  · rw [same]
    exact ⟨comparable, .refl comparable⟩
  · have number := numbers next (by simp [offer])
    rw [taken]
    exact ⟨takeCursor_comparable comparable number,
      notAfter_takeCursor comparable number⟩

/-- No request of a sequence of steps falls behind the cursor at its start, nor
behind an earlier request. -/
theorem requests_steps_inOrder {session : Session} {orders : List Step}
    (comparable : Comparable session.cursor)
    (numbers : ∀ cursor ∈ session.offered orders, cursor.IsNumber) :
    (∀ asked ∈ requests (session.steps orders).2,
        NotAfter session.cursor asked) ∧
      (requests (session.steps orders).2).Pairwise NotAfter := by
  induction orders generalizing session with
  | nil => simp [steps, requests]
  | cons order rest ih =>
      rw [offered_cons, List.forall_mem_append] at numbers
      obtain ⟨next_comparable, risen⟩ := step_notAfter comparable numbers.1
      obtain ⟨later_risen, later_inOrder⟩ := ih next_comparable numbers.2
      have later_risen' (asked) (member : asked ∈ requests
          ((session.step order).1.steps rest).2) :
          NotAfter session.cursor asked :=
        risen.trans (later_risen asked member)
      rw [steps, inTurn_cons, requests_append]
      rcases session.requests_step order with none_asked | asked_held
      · rw [none_asked]
        exact ⟨later_risen', later_inOrder⟩
      · rw [asked_held]
        exact ⟨List.forall_mem_cons.mpr ⟨.refl comparable, later_risen'⟩,
          List.pairwise_cons.mpr ⟨later_risen', later_inOrder⟩⟩

theorem steps_cursorLaw {session : Session} {orders : List Step}
    (comparable : Comparable session.cursor)
    (numbers : ∀ cursor ∈ session.offered orders, cursor.IsNumber) :
    CursorLaw (session.cursor.toList ++ session.offered orders)
      (requests (session.steps orders).2)
      (session.steps orders).1.cursor := by
  have asked_inOrder := (requests_steps_inOrder comparable numbers).2
  rw [steps_cursor]
  generalize session.offered orders = offers at numbers ⊢
  cases held : session.cursor with
  | some cursor =>
      have number := comparable cursor held
      obtain ⟨final, hfinal, greatest⟩ := foldl_takeCursor
        (isLatestGreatest_singleton cursor) number numbers
      rw [hfinal]
      refine ⟨by simp, ?_, asked_inOrder⟩
      rintro _ ⟨⟩
      exact greatest
  | none =>
      cases offers with
      | nil => exact ⟨by simp, by simp, asked_inOrder⟩
      | cons first rest =>
          obtain ⟨number, rest_numbers⟩ := List.forall_mem_cons.mp numbers
          obtain ⟨final, hfinal, greatest⟩ := foldl_takeCursor
            (isLatestGreatest_singleton first) number rest_numbers
          have taken : takeCursor none first = some first := rfl
          rw [List.foldl_cons, taken, hfinal]
          refine ⟨by simp, ?_, asked_inOrder⟩
          rintro _ ⟨⟩
          exact greatest

/-- A NaN is asked with until the first cursor is offered, which replaces it. -/
theorem steps_cursorLaw_of_nan {session : Session} {orders : List Step}
    (nan : session.cursor = some ⟨.nan⟩)
    (numbers : ∀ cursor ∈ session.offered orders, cursor.IsNumber) :
    ∃ count later, requests (session.steps orders).2 =
        List.replicate count (some ⟨.nan⟩) ++ later ∧
      if session.offered orders = [] then
        later = [] ∧ (session.steps orders).1.cursor = some ⟨.nan⟩
      else CursorLaw (session.offered orders) later
        (session.steps orders).1.cursor := by
  induction orders generalizing session with
  | nil => exact ⟨0, [], rfl, rfl, nan⟩
  | cons order rest ih =>
      obtain ⟨first, hfirst⟩ : ∃ count, requests (session.step order).2 =
          List.replicate count (some ⟨.nan⟩) := by
        rcases session.requests_step order with none_asked | asked_held
        · exact ⟨0, none_asked⟩
        · exact ⟨1, asked_held.trans (by rw [nan]; rfl)⟩
      rw [offered_cons] at numbers ⊢
      rw [steps, inTurn_cons, requests_append, hfirst, ← steps]
      rcases session.step_cursor order with ⟨offer, same⟩ | ⟨next, offer, taken⟩
      · rw [offer, List.nil_append] at numbers ⊢
        obtain ⟨count, later, hlater, law⟩ := ih (same.trans nan) numbers
        refine ⟨first + count, later, ?_, law⟩
        rw [hlater, ← List.append_assoc, List.replicate_append_replicate]
      · rw [offer] at numbers ⊢
        obtain ⟨number, rest_numbers⟩ := List.forall_mem_cons.mp numbers
        rw [nan, takeCursor_nan] at taken
        have law := steps_cursorLaw
          (by rw [taken]; exact comparable_some number) rest_numbers
        rw [taken] at law
        refine ⟨first, _, rfl, ?_⟩
        rw [if_neg (by simp)]
        exact law

/-! ## Calls -/

/-- The cursors of the batches that calls apply. -/
def offeredIn (session : Session) (calls : List Call) : List Cursor :=
  session.offered (calls.flatMap Call.steps)

/--
Whatever is called, the cursor is the running maximum and requests follow it.
A NaN that a session starts with is replaced by the first cursor that a batch
brings, and no response brings another NaN.
-/
theorem cursor_is_running_maximum (session : Session) (calls : List Call)
    (numbers : ∀ cursor ∈ session.offeredIn calls, cursor.IsNumber) :
    let offers := session.offeredIn calls
    let outcome := session.calls calls
    let asked := requests outcome.2
    let held := outcome.1.cursor
    (session.cursor ≠ some ⟨.nan⟩ →
        CursorLaw (session.cursor.toList ++ offers) asked held) ∧
      (session.cursor = some ⟨.nan⟩ → ∃ count later,
        asked = List.replicate count (some ⟨.nan⟩) ++ later ∧
          if offers = [] then later = [] ∧ held = some ⟨.nan⟩
          else CursorLaw offers later held) ∧
      (session.cursor.isSome = true → held.isSome = true) ∧
      ∀ body batch, Batch.ofBody body = .ok batch →
        ∀ cursor ∈ batch.cursor, cursor.IsNumber := by
  intro offers outcome asked held
  have asked_eq : asked = _ := session.requests_calls calls
  have held_eq : held = _ :=
    congrArg Session.cursor (session.calls_session calls)
  rw [asked_eq, held_eq]
  refine ⟨fun started => ?_, fun nan => steps_cursorLaw_of_nan nan numbers,
    fun set => ?_, fun body batch accepted cursor brought => ?_⟩
  · have comparable : Comparable session.cursor := by
      rintro ⟨position⟩ held_start nan
      cases nan
      exact started held_start
    exact steps_cursorLaw comparable numbers
  · rw [steps_cursor]
    exact isSome_foldl_takeCursor set _
  · exact isNumber_of_isFinite
      ((Batch.ofBody_isFinite accepted).cursor cursor brought)

theorem cursor_keeps_latest_zero :
    let zero : Cursor := ⟨.zero false⟩
    let minusZero : Cursor := ⟨.zero true⟩
    let minusInfinity : Cursor := ⟨.infinite true⟩
    let session := Session.new (.new .utc) (some zero) true
    let calls : List Call := [.apply ⟨[], .ofSeconds 30, some minusZero⟩,
      .poll (.ok ⟨[], .ofSeconds 30, some minusInfinity⟩), .run []]
    let outcome := session.calls calls
    outcome.1.cursor = some minusZero ∧
      requests outcome.2 = [some minusZero, some minusZero] ∧
      CursorLaw [zero, minusZero, minusInfinity] (requests outcome.2)
        outcome.1.cursor := by
  intro zero minusZero minusInfinity session calls outcome
  have law := (cursor_is_running_maximum session calls (by decide)).1
    (by decide)
  have known : session.cursor.toList ++ session.offeredIn calls =
      [zero, minusZero, minusInfinity] := by decide
  rw [known] at law
  exact ⟨by decide, by decide, law⟩

end Session

end MeterWatch
