import MeterWatch.Proofs.Line.DemandRecord

/-!
# Where a demand record ends

The gaps of a record may run over anything, also over the end of a record and
the tag of another one.  They are as short as possible, so from a given tag no
other record ends earlier than the one that is read: that one stays within the
record of its tag exactly if any record from this tag does.
-/

namespace MeterWatch.Line

open Text (isBlank isDecimalDigit)

/-! ## Bounds -/

def closingTag : List Char := "</InstantaneousDemand>".toList

/-- The last element of a record ends here. -/
def EndsAt (line : List Char) (places : List Nat) (stop : Nat) : Prop :=
  ∃ place number, places.getLast? = some place ∧ stop ≤ line.length ∧
    IsElement "Divisor" number (line.extract place stop)

/-- Between its tag and the end of its last element a record is neither closed
nor another one opened. -/
def IsUndivided (line : List Char) (places : List Nat) : Prop :=
  ∃ start stop, places.head? = some start ∧ EndsAt line places stop ∧
    ∀ tag ∈ [recordTag, closingTag],
      ¬ tag <:+: line.extract (start + recordTag.length) stop

/-! ## Gaps -/

theorem extract_mono (line : List Char) (start : Nat) {stop stop' : Nat}
    (h : stop ≤ stop') : line.extract start stop <+: line.extract start stop' := by
  rw [List.extract_eq_take_drop, List.extract_eq_take_drop]
  exact List.take_prefix_take_left (Nat.sub_le_sub_right h start)

theorem IsGap.within {line : List Char} {start stop stop' : Nat}
    (gap : IsGap line start stop') (first : start ≤ stop) (h : stop ≤ stop') :
    IsGap line start stop :=
  ⟨first, fun newline => gap.2 ((extract_mono line start h).subset newline)⟩

theorem isGap_of_not_mem {line : List Char} (oneLine : '\n' ∉ line)
    {start stop : Nat} (h : start ≤ stop) : IsGap line start stop := by
  refine ⟨h, fun newline => oneLine ?_⟩
  rw [List.extract_eq_take_drop] at newline
  exact List.mem_of_mem_drop (List.mem_of_mem_take newline)

/-! ## Elements do not overlap -/

/-- A character that a text lacks is found behind it at the earliest. -/
theorem length_le_of_drop {text rest found : List Char} {c : Char} {size : Nat}
    (absent : c ∉ text) (h : (text ++ rest).drop size = c :: found) :
    text.length ≤ size := by
  by_contra inside
  have nonempty : text.drop size ≠ [] := by
    rw [Ne, List.drop_eq_nil_iff]
    omega
  obtain ⟨d, others, left⟩ := List.exists_cons_of_ne_nil nonempty
  rw [List.drop_append_of_le_length (by omega), left] at h
  obtain ⟨rfl, -⟩ := List.cons.inj h
  exact absent (List.mem_of_mem_drop (left ▸ List.mem_cons_self))

/-- The names of elements do not look like tags. -/
def IsName (name : String) : Prop :=
  '<' ∉ name.toList ∧ ∃ c rest, name.toList = c :: rest ∧ c ≠ '/'

theorem isName_of_mem {name : String} (h : name ∈ elementNames) :
    IsName name := by
  simp only [elementNames, List.mem_cons, List.not_mem_nil, or_false] at h
  rcases h with rfl | rfl | rfl | rfl <;>
    exact ⟨by decide, _, _, rfl, by decide⟩

theorem bracket_not_mem_number {number : List Char}
    (member : number ∈ Encoding.number) : '<' ∉ number := by
  rcases member with ⟨_, rfl, digits, ⟨-, all⟩, rfl⟩ | ⟨-, all⟩
  · simp only [List.mem_append, not_or]
    refine ⟨by decide, fun bracket => ?_⟩
    have hex := all '<' bracket
    revert hex
    decide
  · intro bracket
    have digit := all '<' bracket
    revert digit
    decide

theorem bracket_not_mem_blanks {blanks : List Char}
    (member : blanks ∈ manyOf isBlank) : '<' ∉ blanks := by
  intro bracket
  have blank := member '<' bracket
  revert blank
  decide

/-- Inside an element no element of that name starts. -/
theorem IsElement.length_le {name : String} (isName : IsName name)
    {number word rest found : List Char} (element : IsElement name number word)
    {size : Nat} (positive : 0 < size)
    (h : (word ++ rest).drop size = ("<" ++ name ++ ">").toList ++ found) :
    word.length ≤ size := by
  obtain ⟨member, before, blank, after, white, word_eq⟩ := element
  obtain ⟨bracket, c, others, name_eq, not_slash⟩ := isName
  -- An element has two brackets, and a slash stands behind the second one.
  obtain ⟨inner, inner_eq⟩ : ∃ inner, inner =
      name.toList ++ '>' :: (before ++ number ++ after) := ⟨_, rfl⟩
  obtain ⟨last, last_eq⟩ : ∃ last, last = '/' :: (name.toList ++ ['>']) :=
    ⟨_, rfl⟩
  have parts : word = '<' :: (inner ++ '<' :: last) := by
    simp [word_eq, inner_eq, last_eq]
  have absent : '<' ∉ inner := by
    simp [inner_eq, bracket, bracket_not_mem_number member,
      bracket_not_mem_blanks blank, bracket_not_mem_blanks white]
  have absent' : '<' ∉ last := by
    simp [last_eq, bracket]
  have tag_eq : ("<" ++ name ++ ">").toList ++ found =
      '<' :: c :: (others ++ '>' :: found) := by
    simp [name_eq]
  obtain ⟨size, rfl⟩ : ∃ before, size = before + 1 := ⟨size - 1, by omega⟩
  rw [parts, tag_eq, List.cons_append, List.drop_succ_cons,
    List.append_assoc] at h
  have behind_inner := length_le_of_drop absent h
  obtain ⟨size, rfl⟩ := Nat.exists_eq_add_of_le behind_inner
  rw [← List.drop_drop, List.drop_left] at h
  cases size with
  | zero =>
      rw [last_eq] at h
      exact absurd (List.cons.inj (List.cons.inj h).2).1.symm not_slash
  | succ size =>
      rw [List.cons_append, List.drop_succ_cons] at h
      have behind_last := length_le_of_drop absent' h
      rw [parts]
      simp only [List.length_cons, List.length_append]
      omega

theorem IsElement.begins {name : String} {number word : List Char}
    (element : IsElement name number word) :
    ∃ found, word = ("<" ++ name ++ ">").toList ++ found := by
  obtain ⟨-, before, -, after, -, rfl⟩ := element
  exact ⟨before ++ number ++ after ++ ("</" ++ name ++ ">").toList, by simp⟩

/-- Of two elements of one name the first to start is the first to end. -/
theorem IsElement.stop_le {line : List Char} {name : String}
    (isName : IsName name) {number number' : List Char}
    {place stop place' stop' : Nat} (inside : stop ≤ line.length)
    (inside' : stop' ≤ line.length)
    (element : IsElement name number (line.extract place stop))
    (element' : IsElement name number' (line.extract place' stop'))
    (h : place ≤ place') : stop ≤ stop' := by
  rcases Nat.eq_or_lt_of_le h with rfl | less
  · exact (element.unique inside inside' element').2.le
  · have forward := element.place_le
    have forward' := element'.place_le
    obtain ⟨found, word_eq⟩ := element'.begins
    have tail_eq : (line.extract place stop ++ line.drop stop).drop
        (place' - place) = ("<" ++ name ++ ">").toList ++
          (found ++ line.drop stop') := by
      rw [extract_append_drop line forward, List.drop_drop,
        Nat.add_sub_cancel' h, ← extract_append_drop line forward', word_eq,
        List.append_assoc]
    have apart := element.length_le isName (by omega) tail_eq
    rw [List.extract_eq_take_drop, List.length_take, List.length_drop] at apart
    omega

/-! ## The first record from a tag -/

theorem ComesFirst.head_le {place other : Nat} {places others : List Nat}
    (first : ComesFirst (place :: places) (other :: others)) :
    place ≤ other := by
  rcases first with same | before
  · exact (List.cons.inj same).1.le
  · cases before with
    | rel less => exact less.le
    | cons _ => exact Nat.le_refl _

theorem ComesFirst.tail {place : Nat} {places others : List Nat}
    (first : ComesFirst (place :: places) (place :: others)) :
    ComesFirst places others := by
  rcases first with same | before
  · exact .inl (List.cons.inj same).2
  · cases before with
    | rel less => exact absurd less (Nat.lt_irrefl place)
    | cons before => exact .inr before

/-- Elements that come first come first one by one. -/
theorem HasElements.places_le {line : List Char} {start start' : Nat}
    {names : List String} (areNames : ∀ name ∈ names, IsName name)
    {places others : List Nat} {numbers numbers' : List (List Char)}
    (elements : HasElements line start names places numbers)
    (first : ∀ others found, HasElements line start names others found →
      ComesFirst places others)
    (h : start ≤ start')
    (elements' : HasElements line start' names others numbers') :
    List.Forall₂ (· ≤ ·) places others := by
  induction elements generalizing start' others numbers' with
  | nil =>
      cases elements'
      exact .nil
  | @cons start place stop name names places number numbers gap inside element
      rest ih =>
      obtain ⟨isName, areNames⟩ := List.forall_mem_cons.mp areNames
      cases elements' with
      | @cons _ place' stop' _ _ others number' numbers' gap' inside' element'
          rest' =>
          have place_le : place ≤ place' := by
            -- A gap that ends earlier would have been tried before.
            by_contra earlier
            have shorter : IsGap line start place' :=
              gap.within (h.trans gap'.1) (by omega)
            exact earlier (first _ _
              (.cons shorter inside' element' rest')).head_le
          have stop_le : stop ≤ stop' :=
            element.stop_le isName inside inside' element' place_le
          refine .cons place_le (ih areNames (fun others found rest => ?_)
            stop_le rest')
          exact (first _ _ (.cons gap inside element rest)).tail

theorem HasElements.exists_last {line : List Char} {start : Nat}
    {names : List String} {name : String} {places : List Nat}
    {numbers : List (List Char)}
    (elements : HasElements line start names places numbers)
    (last : names.getLast? = some name) :
    ∃ place number stop, places.getLast? = some place ∧ stop ≤ line.length ∧
      IsElement name number (line.extract place stop) := by
  induction elements with
  | nil => cases last
  | @cons start place stop first names places number numbers gap inside element
      rest ih =>
      cases rest with
      | nil =>
          cases last
          exact ⟨place, number, stop, rfl, inside, element⟩
      | cons => exact ih last

theorem HasElements.length_numbers {line : List Char} {start : Nat}
    {names : List String} {places : List Nat} {numbers : List (List Char)}
    (elements : HasElements line start names places numbers) :
    numbers.length = names.length := by
  induction elements with
  | nil => rfl
  | cons _ _ _ _ ih => rw [List.length_cons, List.length_cons, ih]

theorem exists_fields {numbers : List (List Char)}
    (h : numbers.length = elementNames.length) :
    ∃ fields : DemandFields, fields.numbers = numbers := by
  match numbers, h with
  | [time, demand, multiplier, divisor], _ =>
      exact ⟨⟨time, demand, multiplier, divisor⟩, rfl⟩

theorem last_le {places others : List Nat}
    (ordered : List.Forall₂ (· ≤ ·) places others) {place other : Nat}
    (h : places.getLast? = some place) (h' : others.getLast? = some other) :
    place ≤ other := by
  rw [← List.head?_reverse] at h h'
  have reversed := List.forall₂_reverse_iff.mpr ordered
  generalize places.reverse = reversed_places at h reversed
  generalize others.reverse = reversed_others at h' reversed
  cases reversed with
  | nil => cases h
  | cons le _ =>
      cases h
      cases h'
      exact le

/-- From its tag no record ends earlier than the first one. -/
theorem IsFirstRecord.endsAt {line : List Char} {start : Nat}
    {places others : List Nat} {fields found : DemandFields}
    (first : IsFirstRecord line (start :: places) fields)
    (record : IsRecord line (start :: others) found) {stop : Nat}
    (ends : EndsAt line (start :: others) stop) :
    ∃ stop' ≤ stop, EndsAt line (start :: places) stop' := by
  cases first.isRecord with
  | intro tag elements =>
  cases record with
  | intro _ elements' =>
  have ordered : List.Forall₂ (· ≤ ·) places others := by
    refine elements.places_le (fun _ => isName_of_mem)
      (fun others numbers rest => ?_) (Nat.le_refl _) elements'
    obtain ⟨fields, rfl⟩ := exists_fields rest.length_numbers
    exact (first.first _ _ (.intro tag rest)).tail
  have last_name : elementNames.getLast? = some "Divisor" := rfl
  obtain ⟨place, number, stop', last, inside, element⟩ :=
    elements.exists_last last_name
  obtain ⟨other, number', last', inside', element'⟩ := ends
  have place_le : place ≤ other := by
    refine last_le (.cons (Nat.le_refl start) ordered) ?_ last'
    rw [List.getLast?_cons, last, Option.getD_some]
  refine ⟨stop', element.stop_le (isName_of_mem (by decide)) inside inside'
    element' place_le, place, number, ?_, inside, element⟩
  rw [List.getLast?_cons, last, Option.getD_some]

theorem IsFirstRecord.isUndivided {line : List Char} {start : Nat}
    {places others : List Nat} {fields found : DemandFields}
    (first : IsFirstRecord line (start :: places) fields)
    (record : IsRecord line (start :: others) found)
    (undivided : IsUndivided line (start :: others)) :
    IsUndivided line (start :: places) := by
  obtain ⟨_, stop, ⟨⟩, ends, untagged⟩ := undivided
  obtain ⟨stop', stop_le, ends'⟩ := first.endsAt record ends
  refine ⟨start, stop', rfl, ends', fun tag member inside => ?_⟩
  exact untagged tag member
    (inside.trans (extract_mono line _ stop_le).isInfix)

/-! ## Readings of one record -/

/--
A demand is read from the first record of its line.  The record of its tag holds
all of it exactly if that record has all four elements, each after a gap, before
it is closed and before another one is opened.
-/
theorem demand_of_one_record_iff (line : String) (found : demands line ≠ []) :
    ∃ start places fields time demand multiplier divisor,
      IsFirstRecord line.toList (start :: places) fields ∧
      fields.HasValues time demand multiplier divisor ∧
      demands line = [(scaledWatts demand (factor multiplier)
        (factor divisor), time)] ∧
      (IsUndivided line.toList (start :: places) ↔
        ∃ others other, IsRecord line.toList (start :: others) other ∧
          IsUndivided line.toList (start :: others)) := by
  obtain ⟨fields, read⟩ : ∃ fields,
      leftmost? demandFields? line.toList = some fields := by
    by_contra unread
    rw [demands_eq, demandReading?, Option.eq_none_iff_forall_ne_some.mpr
      (not_exists.mp unread)] at found
    exact found rfl
  obtain ⟨places, first⟩ := exists_first_record read
  obtain ⟨start, places, rfl⟩ : ∃ start rest, places = start :: rest := by
    cases first.isRecord
    exact ⟨_, _, rfl⟩
  obtain ⟨time, demand, multiplier, divisor, values⟩ :
      ∃ time demand multiplier divisor,
        fields.HasValues time demand multiplier divisor := by
    by_contra unusable
    exact found (demands_of_not_hasValues first unusable)
  refine ⟨start, places, fields, time, demand, multiplier, divisor, first,
    values, demands_of_hasValues first values, fun undivided => ?_, ?_⟩
  · exact ⟨places, fields, first.isRecord, undivided⟩
  · rintro ⟨others, other, record, undivided⟩
    exact first.isUndivided record undivided

/-! ### A whole record and a parted one -/

theorem IsRecord.exists_time {line : List Char} {start : Nat}
    {places : List Nat} {fields : DemandFields}
    (record : IsRecord line (start :: places) fields) :
    ∃ place < line.length + 1, start + recordTag.length ≤ place ∧
      (element? "TimeStamp" (line.drop place)).map Prod.fst =
        some fields.time := by
  cases record with
  | intro tag elements =>
      cases elements with
      | cons gap inside element rest =>
          have forward := element.place_le
          refine ⟨_, by omega, gap.1, ?_⟩
          rw [element?_of_isElement element]
          rfl

/-- The record behind the first one is not complete. -/
def wholeText : List Char :=
  ["<InstantaneousDemand>", "<TimeStamp>1</TimeStamp>", "<Demand>5</Demand>",
    "<Multiplier>3</Multiplier>", "<Divisor>4</Divisor>",
    "</InstantaneousDemand>", "<InstantaneousDemand>",
    "<TimeStamp>2</TimeStamp>", "</InstantaneousDemand>"].flatMap String.toList

theorem wholeText_isRecord :
    IsRecord wholeText [0, 21, 45, 63, 89] ⟨['1'], ['5'], ['3'], ['4']⟩ ∧
      IsUndivided wholeText [0, 21, 45, 63, 89] := by
  obtain ⟨length, oneLine, tag, untagged⟩ : wholeText.length = 198 ∧
      '\n' ∉ wholeText ∧
      wholeText.extract 0 (0 + recordTag.length) = recordTag ∧
      ∀ tag ∈ [recordTag, closingTag],
        ¬ tag <:+: wholeText.extract (0 + recordTag.length) 109 := by
    decide +kernel
  obtain ⟨time, demand, multiplier, divisor⟩ :
      wholeText.extract 21 45 = "<TimeStamp>1</TimeStamp>".toList ∧
      wholeText.extract 45 63 = "<Demand>5</Demand>".toList ∧
      wholeText.extract 63 89 = "<Multiplier>3</Multiplier>".toList ∧
      wholeText.extract 89 109 = "<Divisor>4</Divisor>".toList := by
    decide +kernel
  have gap {start stop : Nat} (h : start ≤ stop) : IsGap wholeText start stop :=
    isGap_of_not_mem oneLine h
  have element {name : String} {c : Char} {word : List Char}
      (digit : isDecimalDigit c = true)
      (word_eq : word =
        ("<" ++ name ++ ">").toList ++ [c] ++ ("</" ++ name ++ ">").toList) :
      IsElement name [c] word :=
    ⟨.inr ⟨by simp, by simpa using digit⟩, [], by simp, [], by simp,
      by simpa using word_eq⟩
  have ends : IsElement "Divisor" ['4'] (wholeText.extract 89 109) :=
    element (by decide) (divisor.trans (by decide +kernel))
  refine ⟨.intro tag ?_, 0, 109, rfl, ⟨89, ['4'], rfl, by omega, ends⟩,
    untagged⟩
  exact .cons (gap (by decide)) (by omega)
    (element (by decide) (time.trans (by decide +kernel)))
    (.cons (gap (by decide)) (by omega)
      (element (by decide) (demand.trans (by decide +kernel)))
      (.cons (gap (by decide)) (by omega)
        (element (by decide) (multiplier.trans (by decide +kernel)))
        (.cons (gap (by decide)) (by omega) ends .nil)))

def wholeLine : String := String.ofList wholeText

theorem whole_record_is_read :
    demands wholeLine ≠ [] ∧ ∃ places fields,
      IsFirstRecord wholeLine.toList places fields ∧
        IsUndivided wholeLine.toList places ∧
        demands wholeLine = [(.ofNat 3750, ⟨1, by decide⟩)] := by
  have text_eq : wholeLine.toList = wholeText := String.toList_ofList
  have found : demands wholeLine = [(.ofNat 3750, ⟨1, by decide⟩)] := by
    rw [demands_eq, text_eq]
    decide +kernel
  have nonempty : demands wholeLine ≠ [] := by
    rw [found]
    exact List.cons_ne_nil _ _
  obtain ⟨start, places, fields, time, demand, multiplier, divisor, first, -, -,
    undivided_iff⟩ := demand_of_one_record_iff wholeLine nonempty
  rw [text_eq] at first undivided_iff ⊢
  obtain ⟨record, undivided⟩ := wholeText_isRecord
  obtain rfl : start = 0 :=
    Nat.le_zero.mp (first.first _ _ record).head_le
  exact ⟨nonempty, _, fields, first, undivided_iff.mpr ⟨_, _, record, undivided⟩,
    found⟩

/-- The first record is closed behind its demand. -/
def partedText : List Char :=
  ["<InstantaneousDemand>", "<TimeStamp>1</TimeStamp>",
    "<Demand>0x05</Demand>", "</InstantaneousDemand>",
    "<InstantaneousDemand>", "<TimeStamp>1700000000</TimeStamp>",
    "<Demand>2</Demand>", "<Multiplier>3</Multiplier>", "<Divisor>4</Divisor>",
    "</InstantaneousDemand>"].flatMap String.toList

def partedLine : String := String.ofList partedText

/-- Time and demand come from the first record of the line, multiplier and
divisor from the second one. -/
theorem parted_record_is_read :
    demands partedLine = [(.ofNat 3750, ⟨1, by decide⟩)] ∧
      ∀ places fields, IsFirstRecord partedLine.toList places fields →
        ¬ IsUndivided partedLine.toList places := by
  have text_eq : partedLine.toList = partedText := String.toList_ofList
  rw [demands_eq, text_eq]
  refine ⟨by decide +kernel, fun places fields first undivided => ?_⟩
  obtain ⟨read, time_place, divisor_place, closed⟩ :
      leftmost? demandFields? partedText =
          some ⟨['1'], "0x05".toList, ['3'], ['4']⟩ ∧
        (∀ place < partedText.length + 1,
          (element? "TimeStamp" (partedText.drop place)).map Prod.fst =
            some ['1'] → place = 21) ∧
        (∀ place < partedText.length + 1,
          (element? "Divisor" (partedText.drop place)).isSome = true →
            88 ≤ place) ∧
        closingTag <:+: partedText.extract 21 88 := by
    decide +kernel
  have fields_eq := first.leftmost?.symm.trans read
  obtain ⟨start, stop, head, ⟨last, number, -, inside, element⟩, untagged⟩ :=
    undivided
  obtain ⟨places, rfl⟩ : ∃ rest, places = start :: rest :=
    List.head?_eq_some_iff.mp head
  obtain ⟨place, bound, behind, time⟩ := first.isRecord.exists_time
  rw [(Option.some.inj fields_eq : fields = _)] at time
  obtain rfl := time_place place bound time
  obtain rfl : start = 0 := by
    have length_eq : recordTag.length = 21 := by decide
    omega
  have forward := element.place_le
  have reach : 88 ≤ last := by
    refine divisor_place last (by omega) ?_
    rw [element?_of_isElement element]
    rfl
  exact untagged closingTag (by simp)
    (closed.trans (extract_mono _ 21 (by omega)).isInfix)

end MeterWatch.Line
