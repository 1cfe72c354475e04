import MeterWatch.Proofs.Url.Segments

/-!
# Urls that differ behind a slash

Two texts that agree up to a slash are read as urls that agree up to the
directory before that slash, unless the slash is one of the two that introduce
a host.
-/

namespace MeterWatch.Url

open Text (splitOn)

/-! ## Plain ends -/

/-- An end of a url that consists of words between slashes. -/
def IsPlain (text : List Char) : Prop :=
  ∀ c ∈ text, c.isLower = true ∨ c = '/'

theorem IsWord.isPlain {text : List Char} (word : IsWord text) :
    IsPlain text :=
  fun c member => .inl (word c member)

theorem isPlain_slash_cons {text : List Char} (plain : IsPlain text) :
    IsPlain ('/' :: text) :=
  List.forall_mem_cons.mpr ⟨.inr rfl, plain⟩

theorem mem_of_mem_splitOn {isSeparator : Char → Bool} {text part : List Char}
    (member : part ∈ splitOn isSeparator text) : ∀ c ∈ part, c ∈ text := by
  induction text generalizing part with
  | nil => simp_all [splitOn]
  | cons c rest ih =>
      rw [splitOn] at member
      intro d inside
      split at member
      · rcases List.mem_cons.mp member with rfl | behind
        · cases inside
        · exact List.mem_cons_of_mem c (ih behind d inside)
      · split at member
        · next first others split_eq =>
            rcases List.mem_cons.mp member with rfl | behind
            · rcases List.mem_cons.mp inside with rfl | later
              · exact List.mem_cons_self
              · exact List.mem_cons_of_mem c
                  (ih (split_eq ▸ List.mem_cons_self) d later)
            · exact List.mem_cons_of_mem c
                (ih (split_eq ▸ List.mem_cons_of_mem _ behind) d inside)
        · next empty => exact absurd empty (Text.splitOn_ne_nil _ _)

theorem IsPlain.words {text : List Char} (plain : IsPlain text)
    (kind : SchemeKind) :
    ∀ segment ∈ splitOn kind.isSlash text, IsWord segment := by
  intro segment member c inside
  refine (plain c (mem_of_mem_splitOn member c inside)).resolve_right ?_
  rintro rfl
  have other := Text.not_isSeparator_of_mem_splitOn member '/' inside
  simp [SchemeKind.isSlash] at other

theorem IsPlain.not_isPathEnd {text : List Char} (plain : IsPlain text) :
    ∀ c ∈ text, isPathEnd c = false := by
  intro c member
  rcases plain c member with lower | rfl
  · exact isPathEnd_of_isLower lower
  · rfl

theorem IsPlain.not_isOuterBlank {text : List Char} (plain : IsPlain text) :
    ∀ c ∈ text, isOuterBlank c = false := by
  intro c member
  rcases plain c member with lower | rfl
  · have bounds := isLower_bounds lower
    simp [isOuterBlank]
    omega
  · rfl

theorem not_isDropped_of_not_isOuterBlank {c : Char}
    (visible : isOuterBlank c = false) : isDropped c = false := by
  by_contra dropped
  simp only [Bool.not_eq_false, isDropped, Bool.or_eq_true, beq_iff_eq]
    at dropped
  rcases dropped with (rfl | rfl) | rfl <;> cases visible

/-! ## Texts up to a slash -/

theorem takeWhile_append_cons {α : Type} {p : α → Bool} {x : α}
    (stops : p x = false) (first rest : List α) :
    (first ++ x :: rest).takeWhile p = first.takeWhile p := by
  rw [List.takeWhile_append]
  split
  · next whole =>
      rw [List.takeWhile_cons_of_neg (by simp [stops]), List.append_nil]
      exact ((List.takeWhile_prefix p).eq_of_length whole).symm
  · rfl

theorem dropWhile_append_cons {α : Type} {p : α → Bool} {x : α}
    (stops : p x = false) (first rest : List α) :
    (first ++ x :: rest).dropWhile p = first.dropWhile p ++ x :: rest := by
  rw [List.dropWhile_append]
  split
  · next empty => simp [List.isEmpty_iff.mp empty, stops]
  · rfl

/-- What remains of the start of a url. -/
def cleanedStart (text : List Char) : List Char :=
  (text.dropWhile isOuterBlank).filter (!isDropped ·)

theorem cleaned_append (text : List Char) {rest : List Char}
    (plain : IsPlain rest) :
    cleaned (text ++ '/' :: rest) = cleanedStart text ++ '/' :: rest := by
  have visible := (isPlain_slash_cons plain).not_isOuterBlank
  have start : (text ++ '/' :: rest).dropWhile isOuterBlank =
      text.dropWhile isOuterBlank ++ '/' :: rest :=
    dropWhile_append_cons (by decide) text rest
  have stop : (text.dropWhile isOuterBlank ++ '/' :: rest).rdropWhile
      isOuterBlank = text.dropWhile isOuterBlank ++ '/' :: rest := by
    rw [List.rdropWhile_eq_self_iff]
    intro nonempty
    rw [List.getLast_append_of_ne_nil _ (by simp)]
    simp [visible _ (List.getLast_mem _)]
  have kept : ('/' :: rest).filter (!isDropped ·) = '/' :: rest :=
    List.filter_eq_self.mpr fun c member => by
      simp [not_isDropped_of_not_isOuterBlank (visible c member)]
  rw [cleaned, start, ← List.rdropWhile, stop, List.filter_append, kept]
  rfl

theorem splitScheme?_append (text rest : List Char) :
    splitScheme? (text ++ '/' :: rest) =
      (splitScheme? text).map fun parts =>
        (parts.1, parts.2 ++ '/' :: rest) := by
  cases text with
  | nil => rfl
  | cons first others =>
      have scheme : ((first :: others) ++ '/' :: rest).takeWhile isSchemeChar =
          (first :: others).takeWhile isSchemeChar :=
        takeWhile_append_cons (by decide) _ _
      have behind : ((first :: others) ++ '/' :: rest).dropWhile isSchemeChar =
          (first :: others).dropWhile isSchemeChar ++ '/' :: rest :=
        dropWhile_append_cons (by decide) _ _
      simp only [splitScheme?]
      rw [List.cons_append] at scheme behind ⊢
      simp only [scheme, behind]
      split
      · cases (first :: others).dropWhile isSchemeChar with
        | nil => rfl
        | cons c rest => 
            by_cases colon : c = ':'
            · subst colon
              rfl
            · simp [colon]
      · rfl

/-! ## Paths behind hosts -/

theorem tail_ofText_path {text : List Char}
    (unmarked : ∀ c ∈ text, isPathEnd c = false) :
    Tail.ofText text = ⟨text, none, none⟩ := by
  have path : text.takeWhile (!isPathEnd ·) = text :=
    List.takeWhile_eq_self_iff.mpr fun c member => by
      simp [unmarked c member]
  have nothing : text.dropWhile (!isPathEnd ·) = [] :=
    List.dropWhile_eq_nil_iff.mpr fun c member => by
      simp [unmarked c member]
  simp [Tail.ofText, path, nothing]

theorem hostPath_append (kind : SchemeKind) (text : List Char) :
    ∃ directory, ∀ rest, IsPlain rest →
      hostPath kind (text ++ '/' :: rest) =
        .rooted (trimSegments kind
          (directory ++ splitOn kind.isSlash rest)) := by
  have slash : kind.isSlash '/' = true := by simp [SchemeKind.isSlash]
  cases text with
  | nil =>
      refine ⟨[], fun rest plain => ?_⟩
      simp [hostPath, slash, resolve_words kind [] (plain.words kind)]
  | cons c others =>
      by_cases first : kind.isSlash c = true
      · refine ⟨directory kind others, fun rest plain => ?_⟩
        simp [hostPath, first, resolve_append others (plain.words kind)]
      · refine ⟨directory kind (c :: others), fun rest plain => ?_⟩
        rw [← resolve_append _ (plain.words kind)]
        simp [hostPath, first]

/-- The host ends at a slash or where a path would end. -/
def isHostEnd (kind : SchemeKind) (c : Char) : Bool :=
  kind.isSlash c || isPathEnd c

theorem isHostEnd_slash (kind : SchemeKind) : isHostEnd kind '/' = true := by
  simp [isHostEnd, SchemeKind.isSlash]

theorem hostUrl?_behind (scheme text rest : List Char) :
    let stops (c : Char) := !isHostEnd (schemeKind scheme) c
    let tail := Tail.ofText (text.dropWhile stops ++ '/' :: rest)
    hostUrl? scheme (text ++ '/' :: rest) =
      (authority? scheme (text.takeWhile stops)).map fun authority =>
        assemble scheme (some authority)
          (hostPath (schemeKind scheme) tail.path) tail := by
  intro stops tail
  have slash : stops '/' = false := by simp [stops, isHostEnd_slash]
  have host : (text ++ '/' :: rest).takeWhile stops = text.takeWhile stops :=
    takeWhile_append_cons slash text rest
  have behind : (text ++ '/' :: rest).dropWhile stops =
      text.dropWhile stops ++ '/' :: rest :=
    dropWhile_append_cons slash text rest
  change (do
    let authority ← authority? scheme
      ((text ++ '/' :: rest).takeWhile stops)
    let tail := Tail.ofText ((text ++ '/' :: rest).dropWhile stops)
    return assemble scheme (some authority)
      (hostPath (schemeKind scheme) tail.path) tail) = _
  rw [host, behind]
  cases authority? scheme (text.takeWhile stops) <;> rfl

theorem hostUrl?_append (scheme : List Char) {text : List Char}
    (unmarked : ∀ c ∈ text, isPathEnd c = false) :
    ∃ directory, ∀ rest, IsPlain rest →
      hostUrl? scheme (text ++ '/' :: rest) =
        (authority? scheme
          (text.takeWhile (!isHostEnd (schemeKind scheme) ·))).map
            fun authority =>
          { scheme, authority := some authority
            path := .rooted (trimSegments (schemeKind scheme)
              (directory ++ splitOn (schemeKind scheme).isSlash rest))
            query := none, fragment := none } := by
  let stops (c : Char) := !isHostEnd (schemeKind scheme) c
  obtain ⟨directory, path⟩ :=
    hostPath_append (schemeKind scheme) (text.dropWhile stops)
  refine ⟨directory, fun rest plain => ?_⟩
  have tail : Tail.ofText (text.dropWhile stops ++ '/' :: rest) =
      ⟨text.dropWhile stops ++ '/' :: rest, none, none⟩ := by
    refine tail_ofText_path fun c member => ?_
    rcases List.mem_append.mp member with first | second
    · exact unmarked c ((List.dropWhile_suffix _).subset first)
    · exact (isPlain_slash_cons plain).not_isPathEnd c second
  rw [hostUrl?_behind, tail]
  simp only [path rest plain, assemble, Option.map_none]

end MeterWatch.Url
