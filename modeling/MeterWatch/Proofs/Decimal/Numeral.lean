import MeterWatch.Proofs.Decimal.Correct
import MeterWatch.Proofs.Json.Numeral

/-!
# Which texts are numerals

A numeral is a sign, digits around a point and a power of ten, of which only the
digits have to be there.  It is read exactly if the number nearest to it is
finite, and then as that number.
-/

namespace MeterWatch

open Json (IsDigits)

namespace Numeral

/-! ## Spellings -/

inductive IsSign : List Char → Bool → Prop where
  | none : IsSign [] false
  | plus : IsSign ['+'] false
  | minus : IsSign ['-'] true

/-- Digits on both sides of a point, which may be left out before nothing. -/
inductive IsPointed : List Char → List Char → List Char → Prop where
  | bare {whole : List Char} : IsPointed whole whole []
  | point {whole fraction : List Char} :
      IsPointed (whole ++ '.' :: fraction) whole fraction

inductive IsPower : List Char → Int → Prop where
  | none : IsPower [] 0
  | some {mark : Char} {sign digits : List Char} {negative : Bool}
      (hmark : mark ∈ ['e', 'E']) (hsign : IsSign sign negative)
      (hdigits : IsDigits digits) :
      IsPower (mark :: (sign ++ digits))
        (if negative then -(digitsValue digits : Int) else digitsValue digits)

/-- A text spells a numeral if its parts do, one behind the other. -/
inductive Spells : List Char → Numeral → Prop where
  | intro {sign pointed power : List Char} {numeral : Numeral}
      (hsign : IsSign sign numeral.negative)
      (hpointed : IsPointed pointed numeral.whole numeral.fraction)
      (hdigits : IsDigits (numeral.whole ++ numeral.fraction))
      (hpower : IsPower power numeral.exponent) :
      Spells (sign ++ (pointed ++ power)) numeral

/-! ## Texts that are read -/

theorem exists_sign (text : List Char) :
    ∃ sign, IsSign sign (splitSign text).1 ∧
      sign ++ (splitSign text).2 = text := by
  unfold splitSign
  split
  · exact ⟨_, .minus, rfl⟩
  · exact ⟨_, .plus, rfl⟩
  · exact ⟨_, .none, rfl⟩

theorem exists_pointed (text : List Char) :
    ∃ pointed, IsPointed pointed (text.takeWhile Char.isDigit)
        (splitFraction (text.dropWhile Char.isDigit)).1 ∧
      pointed ++ (splitFraction (text.dropWhile Char.isDigit)).2 = text := by
  have parts : text.takeWhile Char.isDigit ++ text.dropWhile Char.isDigit =
      text := List.takeWhile_append_dropWhile
  generalize text.takeWhile Char.isDigit = whole at *
  generalize text.dropWhile Char.isDigit = behind at *
  subst parts
  unfold splitFraction
  split
  · refine ⟨_, .point, ?_⟩
    rw [List.span_eq_takeWhile_dropWhile, List.append_assoc, List.cons_append,
      List.takeWhile_append_dropWhile]
  · exact ⟨_, .bare, rfl⟩

theorem splitFraction_digits (text : List Char) :
    ∀ c ∈ (splitFraction text).1, c.isDigit = true := by
  unfold splitFraction
  split
  · rw [List.span_eq_takeWhile_dropWhile]
    exact fun c member => List.mem_takeWhile_imp member
  · exact fun c member => absurd member List.not_mem_nil

theorem isPower_of_exponent? {text : List Char} {exponent : Int}
    (read : exponent? text = some exponent) : IsPower text exponent := by
  cases text with
  | nil =>
      cases read
      exact .none
  | cons mark rest =>
      obtain ⟨sign, hsign, rest_eq⟩ := exists_sign rest
      simp only [exponent?] at read
      generalize splitSign rest = parts at *
      subst rest_eq
      simp only [Option.ite_none_right_eq_some, Bool.and_eq_true,
        Bool.not_eq_true', List.isEmpty_eq_false_iff, List.all_eq_true,
        Option.some.injEq] at read
      obtain ⟨⟨⟨marked, nonempty⟩, digits⟩, rfl⟩ := read
      refine .some ?_ hsign ⟨nonempty, digits⟩
      simpa [isExponentMark] using marked

theorem spells_of_ofText? {text : List Char} {numeral : Numeral}
    (read : ofText? text = some numeral) : Spells text numeral := by
  obtain ⟨sign, hsign, text_eq⟩ := exists_sign text
  simp only [ofText?] at read
  generalize splitSign text = parts at *
  obtain ⟨negative, unsigned⟩ := parts
  subst text_eq
  obtain ⟨pointed, hpointed, unsigned_eq⟩ := exists_pointed unsigned
  have whole_digits : ∀ c ∈ unsigned.takeWhile Char.isDigit,
      c.isDigit = true := fun c member => List.mem_takeWhile_imp member
  have fraction_digits :=
    splitFraction_digits (unsigned.dropWhile Char.isDigit)
  simp only [List.span_eq_takeWhile_dropWhile] at read
  generalize unsigned.takeWhile Char.isDigit = whole at *
  generalize splitFraction (unsigned.dropWhile Char.isDigit) = behind at *
  subst unsigned_eq
  split at read
  · cases read
  · next nonempty =>
      simp only [Option.bind_eq_bind, Option.bind_eq_some_iff] at read
      obtain ⟨exponent, power, ⟨⟩⟩ := read
      refine .intro hsign hpointed ⟨?_, ?_⟩ (isPower_of_exponent? power)
      · simpa using nonempty
      · exact List.forall_mem_append.mpr ⟨whole_digits, fraction_digits⟩

/-! ## Spellings that are read -/

section Reading

variable {sign pointed power whole fraction : List Char} {negative : Bool}
  {exponent : Int}

theorem splitSign_append (hsign : IsSign sign negative) {rest : List Char}
    (unsigned : ∀ c ∈ rest.head?, c ≠ '-' ∧ c ≠ '+') :
    splitSign (sign ++ rest) = (negative, rest) := by
  cases hsign with
  | plus | minus => rfl
  | none =>
      cases rest with
      | nil => rfl
      | cons c rest =>
          obtain ⟨minus, plus⟩ := unsigned c rfl
          simp [splitSign, minus, plus]

theorem IsDigits.unsigned (h : IsDigits whole) (rest : List Char) :
    ∀ c ∈ (whole ++ rest).head?, c ≠ '-' ∧ c ≠ '+' := by
  obtain ⟨first, others, rfl⟩ := List.exists_cons_of_ne_nil h.1
  have digit := h.2 first List.mem_cons_self
  rintro c ⟨⟩
  constructor <;> rintro rfl <;> cases digit

theorem IsPointed.unsigned (hpointed : IsPointed pointed whole fraction)
    (hdigits : IsDigits (whole ++ fraction)) (rest : List Char) :
    ∀ c ∈ (pointed ++ rest).head?, c ≠ '-' ∧ c ≠ '+' := by
  cases hpointed with
  | bare =>
      rw [List.append_nil] at hdigits
      exact IsDigits.unsigned hdigits rest
  | point =>
      rw [List.append_assoc]
      by_cases none : whole = []
      · subst none
        rintro c ⟨⟩
        decide
      · exact IsDigits.unsigned
          ⟨none, (List.forall_mem_append.mp hdigits.2).1⟩ _

theorem IsPower.ends (hpower : IsPower power exponent) :
    ∀ c ∈ power.head?, c.isDigit = false ∧ c ≠ '.' := by
  cases hpower with
  | none => exact fun c first => absurd first (by simp)
  | some hmark =>
      rintro c ⟨⟩
      simp only [List.mem_cons, List.not_mem_nil, or_false] at hmark
      rcases hmark with rfl | rfl <;> decide

theorem splitFraction_power (hpower : IsPower power exponent) :
    splitFraction power = ([], power) := by
  unfold splitFraction
  split
  · exact absurd rfl (hpower.ends '.' rfl).2
  · rfl

theorem exponent?_power (hpower : IsPower power exponent) :
    exponent? power = some exponent := by
  cases hpower with
  | none => rfl
  | some hmark hsign hdigits =>
      cases hsign with
      | none => exact exponent?_some hmark (by simp) hdigits
      | plus => exact exponent?_some hmark (by simp) hdigits
      | minus => exact exponent?_some hmark (by simp) hdigits

theorem span_pointed (hpointed : IsPointed pointed whole fraction)
    (hdigits : IsDigits (whole ++ fraction))
    (hpower : IsPower power exponent) :
    ∃ behind, (pointed ++ power).span Char.isDigit = (whole, behind) ∧
      splitFraction behind = (fraction, power) := by
  obtain ⟨whole_digits, fraction_digits⟩ :=
    List.forall_mem_append.mp hdigits.2
  have ends : ∀ c ∈ power.head?, c.isDigit = false :=
    fun c first => (hpower.ends c first).1
  cases hpointed with
  | bare =>
      exact ⟨power, span_digits whole_digits ends, splitFraction_power hpower⟩
  | point =>
      refine ⟨'.' :: (fraction ++ power), ?_,
        span_digits fraction_digits ends⟩
      rw [List.append_assoc]
      exact span_digits whole_digits (by rintro c ⟨⟩; rfl)

end Reading

theorem Spells.ofText? {text : List Char} {numeral : Numeral}
    (spells : Spells text numeral) : Numeral.ofText? text = some numeral := by
  cases spells with
  | @intro sign pointed power _ hsign hpointed hdigits hpower =>
      obtain ⟨behind, span, fraction⟩ := span_pointed hpointed hdigits hpower
      have nonempty : ¬ (numeral.whole.isEmpty && numeral.fraction.isEmpty) =
          true := by simpa using hdigits.1
      simp only [Numeral.ofText?,
        splitSign_append hsign (hpointed.unsigned hdigits power), span,
        fraction, if_neg nonempty, exponent?_power hpower]
      rfl

theorem ofText?_eq_some_iff {text : List Char} {numeral : Numeral} :
    ofText? text = some numeral ↔ Spells text numeral :=
  ⟨spells_of_ofText?, Spells.ofText?⟩

end Numeral

/-! ## Nearest numbers -/

namespace Binary64

/-- Two magnitudes that are equally near enclose the value, so that one between
them is nearer. -/
theorem IsNearest.not_lt {value : ℚ} {rank rank' : Nat}
    (h : IsNearest value rank) (h' : IsNearest value rank') :
    ¬ rank < rank' := by
  intro less
  have same : |value - magnitude rank| = |value - magnitude rank'| :=
    le_antisymm (h.near rank') (h'.near rank)
  have parity := h.even rank' less.ne' same
  have parity' := h'.even rank less.ne same.symm
  have below := magnitude_strictMono (Nat.lt_succ_self rank)
  have above := magnitude_strictMono (by omega : rank + 1 < rank')
  have middle : 2 * value = magnitude rank + magnitude rank' := by
    rcases abs_eq_abs.mp same with equal | opposite <;> linarith
  have nearest := h.near (rank + 1)
  rw [← sq_le_sq] at nearest
  nlinarith

theorem IsNearest.unique {value : ℚ} {rank rank' : Nat}
    (h : IsNearest value rank) (h' : IsNearest value rank') : rank = rank' :=
  Nat.le_antisymm (Nat.le_of_not_lt (h'.not_lt h))
    (Nat.le_of_not_lt (h.not_lt h'))

end Binary64

open Binary64

/-- A text stands for the finite number that is nearest to the numeral that it
spells. -/
def StandsFor (text : List Char) (number : Binary64) : Prop :=
  ∃ numeral rank, ∃ rank_lt : rank < rankLimit,
    Numeral.Spells text numeral ∧ IsNearest numeral.decimal.value rank ∧
      number = .finite numeral.negative rank rank_lt

theorem StandsFor.isFinite {text : List Char} {number : Binary64}
    (stands : StandsFor text number) : number.isFinite = true := by
  obtain ⟨numeral, rank, rank_lt, -, -, rfl⟩ := stands
  rfl

theorem readFinite?_eq_some_iff {text : List Char} {number : Binary64} :
    readFinite? text = some number ↔ StandsFor text number := by
  simp only [readFinite?, Option.filter_eq_some_iff, Option.map_eq_some_iff,
    Numeral.ofText?_eq_some_iff, Numeral.value, ofDecimal_eq_ofRank]
  constructor
  · rintro ⟨⟨numeral, spells, rfl⟩, isFinite⟩
    have rank_lt : rankOfDecimal numeral.decimal < rankLimit :=
      lt_of_ofRank_isFinite isFinite
    exact ⟨numeral, _, rank_lt, spells, rankOfDecimal_isNearest _,
      ofRank_of_lt _ rank_lt⟩
  · rintro ⟨numeral, rank, rank_lt, spells, nearest, rfl⟩
    obtain rfl := nearest.unique (rankOfDecimal_isNearest numeral.decimal)
    exact ⟨⟨numeral, spells, ofRank_of_lt _ rank_lt⟩, rfl⟩

end MeterWatch
