import MeterWatch.Proofs.Json.Recovering

/-!
# Members that are asked for

A reader of an object asks for some of its members by their keys and skips the
others.  The text of such an object lists the members that are asked for, with
their values; of another member the key is spelled and the value is only passed
over.
-/

namespace MeterWatch.Json

variable {σ : Type}

/-! ## Texts -/

/-- The key of the next member, up to the value behind its colon. -/
inductive Keyed : Bool → List Char → List Char → List Char → Prop where
  | first {key text quoted gap inner : List Char}
      (quote : skipBlanks text = '"' :: quoted) (name : Spelled key quoted gap)
      (colon : skipBlanks gap = ':' :: inner) : Keyed true key text inner
  | next {key text behind inner : List Char}
      (comma : skipBlanks text = ',' :: behind)
      (h : Keyed true key behind inner) : Keyed false key text inner

/-- The members of an object that are asked for, up to its closing brace. -/
inductive Listed (asked : List Char → Prop) :
    Bool → List (List Char × Value) → List Char → List Char → Prop where
  | close {first : Bool} {text rest : List Char}
      (brace : skipBlanks text = '\x7d' :: rest) : Listed asked first [] text rest
  | supplied {first : Bool} {key : List Char} {value : Value}
      {others : List (List Char × Value)} {text inner middle rest : List Char}
      (keyed : Keyed first key text inner) (isAsked : asked key)
      (h : Written (.value value) inner middle)
      (h' : Listed asked false others middle rest) :
      Listed asked first ((key, value) :: others) text rest
  | ignored {first : Bool} {key : List Char}
      {members : List (List Char × Value)} {text inner middle rest : List Char}
      (keyed : Keyed first key text inner) (other : ¬ asked key)
      (h : Passed .value inner middle)
      (h' : Listed asked false members middle rest) :
      Listed asked first members text rest

variable {asked : List Char → Prop}

/-! ## Keys -/

theorem Keyed.memberKey {key text inner : List Char}
    (h : Keyed true key text inner) :
    ∃ gap, Json.memberKey (skipBlanks text) = .ok (key, gap) ∧
      colon gap = .ok inner := by
  cases h with
  | @first _ _ quoted gap _ quote name colon_eq =>
      refine ⟨gap, ?_, ?_⟩
      · rw [quote]
        exact string_spelled name
      · simp [colon, colon_eq]

theorem Keyed.nextKey {first : Bool} {key text inner : List Char}
    (h : Keyed first key text inner) :
    ∃ gap, Json.nextKey first text = .ok (some (key, gap)) ∧
      colon gap = .ok inner := by
  cases h with
  | @first _ _ quoted gap _ quote name colon_eq =>
      obtain ⟨gap, found, hcolon⟩ :=
        (Keyed.first quote name colon_eq).memberKey
      refine ⟨gap, ?_, hcolon⟩
      rw [quote] at found
      simp [Json.nextKey, quote, found]
  | next comma h =>
      obtain ⟨gap, found, hcolon⟩ := h.memberKey
      refine ⟨gap, ?_, hcolon⟩
      simp [Json.nextKey, comma, found]

theorem colon_sound {gap inner : List Char} (h : colon gap = .ok inner) :
    skipBlanks gap = ':' :: inner := by
  unfold colon at h
  split at h
  · cases h
  · next gap_eq =>
      cases h
      exact gap_eq
  · cases h

theorem memberKey_sound {key text gap inner : List Char}
    (h : memberKey (skipBlanks text) = .ok (key, gap))
    (hcolon : colon gap = .ok inner) : Keyed true key text inner := by
  unfold memberKey at h
  split at h
  · cases h
  · next quote => exact .first quote (string_sound h) (colon_sound hcolon)
  · cases h
  · cases h

theorem nextKey_sound {first : Bool} {key text gap inner : List Char}
    (h : nextKey first text = .ok (some (key, gap)))
    (hcolon : colon gap = .ok inner) : Keyed first key text inner := by
  unfold nextKey at h
  split at h
  · cases h
  · cases h
  · next c others _ text_eq =>
      cases first with
      | true =>
          obtain ⟨keyed, found, ⟨⟩⟩ := bind_eq_ok_iff.mp h
          rw [← text_eq] at found
          exact memberKey_sound found hcolon
      | false =>
          split at h
          · contradiction
          · split at h
            · next comma =>
                obtain ⟨keyed, found, ⟨⟩⟩ := bind_eq_ok_iff.mp h
                rw [comma] at text_eq
                exact .next text_eq (memberKey_sound found hcolon)
            · cases h

theorem endObject_sound {text rest : List Char}
    (h : endObject text = .ok rest) : skipBlanks text = '\x7d' :: rest := by
  unfold endObject at h
  split at h
  · cases h
  · next text_eq =>
      cases h
      exact text_eq
  · cases h
  · cases h

/-! ## Lengths -/

theorem Keyed.length_lt {first : Bool} {key text inner : List Char}
    (h : Keyed first key text inner) : inner.length < text.length := by
  induction h with
  | @first key text quoted gap inner quote name colon =>
      have inner_le := length_skipBlanks_le gap
      have gap_lt := name.length_lt
      have quoted_le := length_skipBlanks_le text
      rw [colon, List.length_cons] at inner_le
      rw [quote, List.length_cons] at quoted_le
      omega
  | @next key text behind inner comma _ ih =>
      have behind_le := length_skipBlanks_le text
      rw [comma, List.length_cons] at behind_le
      omega

theorem Passed.length_le {text rest : List Char} (h : Passed .value text rest)
    (ends : EndsNumber rest) : rest.length ≤ text.length := by
  obtain ⟨steps, bound, -⟩ := h.skips ends
  omega

theorem endsNumber_of_skipBlanks {text : List Char} {c : Char}
    {others : List Char} (text_eq : skipBlanks text = c :: others)
    (h : EndsNumber (c :: others)) : EndsNumber text :=
  of_skipBlanks EndsNumber
    (fun _ isBlank text _ => endsNumber_blank isBlank text) (text_eq ▸ h)

theorem Listed.ends {members : List (List Char × Value)}
    {text rest : List Char} (h : Listed asked false members text rest) :
    EndsNumber text := by
  have comma {key inner : List Char} (keyed : Keyed false key text inner) :
      EndsNumber text := by
    cases keyed with
    | next comma _ =>
        refine endsNumber_of_skipBlanks comma ?_
        rintro c ⟨⟩
        decide
  cases h with
  | close brace =>
      refine endsNumber_of_skipBlanks brace ?_
      rintro c ⟨⟩
      decide
  | supplied keyed => exact comma keyed
  | ignored keyed => exact comma keyed

/-! ## Members -/

/-- Behind its key a member that is asked for is read as what its value is
decoded to, and any other is skipped. -/
structure DecodesAsked (asked : List Char → Prop)
    (member : σ → List Char → Reader σ)
    (step : σ → List Char × Value → Option σ) : Prop where
  supplied : ∀ (fields : σ) {key : List Char} {value : Value}
    {gap inner rest : List Char}, colon gap = .ok inner →
      Written (.value value) inner rest → EndsNumber rest →
        Reads (member fields key) gap (step fields (key, value)) rest
  ignored : ∀ (fields : σ) {key : List Char} {gap inner rest : List Char},
    ¬ asked key → colon gap = .ok inner → Passed .value inner rest →
      EndsNumber rest → member fields key gap = .ok (fields, rest)

/-- Behind its key a member that is asked for has a value that is written
there, and any other a value that is passed over. -/
structure RecoversAsked (asked : List Char → Prop)
    (member : σ → List Char → Reader σ) : Prop where
  supplied : ∀ {fields fields' : σ} {key gap rest : List Char}, asked key →
    member fields key gap = .ok (fields', rest) →
      ∃ inner value, colon gap = .ok inner ∧
        Written (.value value) inner rest
  ignored : ∀ {fields fields' : σ} {key gap rest : List Char}, ¬ asked key →
    member fields key gap = .ok (fields', rest) →
      ∃ inner, colon gap = .ok inner ∧ Passed .value inner rest

section Members

variable {member : σ → List Char → Reader σ}
  {step : σ → List Char × Value → Option σ}

theorem membersWithin_listed (h : DecodesAsked asked member step)
    {first : Bool} {members : List (List Char × Value)} {text rest : List Char}
    (listed : Listed asked first members text rest) {fuel : Nat}
    (enough : text.length < fuel) (fields : σ) :
    Reads (membersWithin member fuel first fields) text
      (members.foldlM step fields) rest := by
  induction listed generalizing fuel fields with
  | @close first text rest brace =>
      obtain ⟨fuel, rfl, -⟩ := exists_step enough
      obtain ⟨next, ended⟩ := nextKey_brace first brace
      unfold Reads
      simp only [membersWithin, next, ended, ok_bind]
      rfl
  | @supplied first key value others text inner middle rest keyed isAsked
      written more ih =>
      obtain ⟨fuel, rfl, left⟩ := exists_step enough
      obtain ⟨gap, next, hcolon⟩ := keyed.nextKey
      have inner_lt := keyed.length_lt
      have middle_lt := written.count_lt
      have read_eq : (member fields key gap).toOption = _ :=
        h.supplied fields hcolon written more.ends
      unfold Reads
      simp only [membersWithin, next, ok_bind, toOption_bind, read_eq,
        List.foldlM_cons]
      cases step fields (key, value) with
      | none => rfl
      | some fields => exact ih (by omega) fields
  | @ignored first key members text inner middle rest keyed other passed more
      ih =>
      obtain ⟨fuel, rfl, left⟩ := exists_step enough
      obtain ⟨gap, next, hcolon⟩ := keyed.nextKey
      have inner_lt := keyed.length_lt
      have middle_le := passed.length_le more.ends
      have skipped := h.ignored fields other hcolon passed more.ends
      unfold Reads
      simp only [membersWithin, next, ok_bind, skipped]
      exact ih (by omega) fields

theorem membersWithin_sound (h : RecoversAsked asked member) {fuel : Nat}
    {first : Bool} {fields fields' : σ} {text rest : List Char}
    (found : membersWithin member fuel first fields text =
      .ok (fields', rest)) :
    ∃ members, Listed asked first members text rest := by
  induction fuel generalizing first fields text with
  | zero => cases found
  | succ fuel ih =>
      rw [membersWithin] at found
      obtain ⟨next, next_eq, found⟩ := bind_eq_ok_iff.mp found
      cases next with
      | none =>
          obtain ⟨left, ended, ⟨⟩⟩ := bind_eq_ok_iff.mp found
          exact ⟨[], .close (endObject_sound ended)⟩
      | some keyed =>
          obtain ⟨key, gap⟩ := keyed
          obtain ⟨⟨changed, middle⟩, here, found⟩ := bind_eq_ok_iff.mp found
          obtain ⟨members, more⟩ := ih found
          by_cases isAsked : asked key
          · obtain ⟨inner, value, hcolon, written⟩ := h.supplied isAsked here
            exact ⟨(key, value) :: members,
              .supplied (nextKey_sound next_eq hcolon) isAsked written more⟩
          · obtain ⟨inner, hcolon, passed⟩ := h.ignored isAsked here
            exact ⟨members,
              .ignored (nextKey_sound next_eq hcolon) isAsked passed more⟩

theorem readMembers_listed (h : DecodesAsked asked member step)
    {members : List (List Char × Value)} {text rest : List Char}
    (listed : Listed asked true members text rest) (fields : σ) :
    Reads (readMembers member fields) text (members.foldlM step fields)
      rest :=
  membersWithin_listed h listed (Nat.lt_succ_self _) fields

/-- An object is read exactly if its members are listed and taken in turn. -/
theorem readMembers_iff (h : DecodesAsked asked member step)
    (h' : RecoversAsked asked member) {fields fields' : σ}
    {text rest : List Char} :
    readMembers member fields text = .ok (fields', rest) ↔
      ∃ members, Listed asked true members text rest ∧
        members.foldlM step fields = some fields' := by
  constructor
  · intro found
    obtain ⟨members, listed⟩ := membersWithin_sound h' found
    have taken := readMembers_listed h listed fields
    unfold Reads at taken
    rw [found, toOption_ok, eq_comm, Option.map_eq_some_iff] at taken
    obtain ⟨result, folded, ⟨⟩⟩ := taken
    exact ⟨members, listed, folded⟩
  · rintro ⟨members, listed, folded⟩
    have taken := readMembers_listed h listed fields
    unfold Reads at taken
    rw [folded, Option.map_some, toOption_eq_some_iff] at taken
    exact taken

end Members

end MeterWatch.Json
