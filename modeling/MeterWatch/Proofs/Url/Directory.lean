import MeterWatch.Proofs.Url.Appending

/-!
# Urls in one directory

If a text that ends in a slash is a url, then any word may follow it and names
something in the directory of that url.  The exception is a slash that is the
second of the two before a host: the word behind it is read as a host.
-/

namespace MeterWatch.Url

open Text (splitOn)

/-- Words behind a text lead to urls that differ in their last segments. -/
def Leads (scheme : List Char) (read? : List Char → Option Url)
    (text : List Char) : Prop :=
  ∃ authority directory, ∀ word, IsWord word →
    read? (text ++ '/' :: word) =
      some { scheme, authority
             path := .rooted
               (normalDirectory (schemeKind scheme) directory ++ [word])
             query := none, fragment := none }

theorem IsWord.splitOn_eq {word : List Char} (small : IsWord word)
    (kind : SchemeKind) : splitOn kind.isSlash word = [word] :=
  splitOn_of_not_separator fun c member =>
    isSlash_of_isLower (small c member) kind

theorem isWord_nil : IsWord [] := fun _ member => nomatch member

theorem hostPath_leads (kind : SchemeKind) (text : List Char) :
    ∃ directory, ∀ word, IsWord word →
      hostPath kind (text ++ '/' :: word) =
        .rooted (normalDirectory kind directory ++ [word]) := by
  obtain ⟨directory, path⟩ := hostPath_append kind text
  refine ⟨directory, fun word small => ?_⟩
  rw [path word small.isPlain, small.splitOn_eq, trimSegments_append]

theorem resolve_leads (kind : SchemeKind) (text : List Char) :
    ∃ directory, ∀ word, IsWord word →
      resolve kind [] (text ++ '/' :: word) =
        normalDirectory kind directory ++ [word] := by
  refine ⟨directory kind text, fun word small => ?_⟩
  rw [resolve_append text (small.isPlain.words kind), small.splitOn_eq,
    trimSegments_append]

theorem hostUrl?_leads {scheme text : List Char} {base : Url}
    (unmarked : ∀ c ∈ text, isPathEnd c = false)
    (accepted : hostUrl? scheme (text ++ ['/']) = some base) :
    Leads scheme (hostUrl? scheme) text := by
  obtain ⟨directory, read⟩ := hostUrl?_append scheme unmarked
  rw [read [] isWord_nil.isPlain, Option.map_eq_some_iff] at accepted
  obtain ⟨authority, found, -⟩ := accepted
  refine ⟨some authority, directory, fun word small => ?_⟩
  rw [read word small.isPlain, found, small.splitOn_eq, trimSegments_append]
  rfl

/-! ## Files -/

theorem isPathEnd_of_word {text word : List Char}
    (unmarked : ∀ c ∈ text, isPathEnd c = false) (small : IsWord word) :
    ∀ c ∈ text ++ '/' :: word, isPathEnd c = false := by
  intro c member
  rcases List.mem_append.mp member with first | second
  · exact unmarked c first
  · exact (isPlain_slash_cons small.isPlain).not_isPathEnd c second

theorem tail_ofText_word {text word : List Char}
    (unmarked : ∀ c ∈ text, isPathEnd c = false) (small : IsWord word) :
    Tail.ofText (text ++ '/' :: word) = ⟨text ++ '/' :: word, none, none⟩ :=
  tail_ofText_path (isPathEnd_of_word unmarked small)

def startsWithDrive : Path → Bool
  | .rooted (segment :: _) => isDriveLetter segment
  | _ => false

theorem startsWithDrive_append {directory : List (List Char)}
    {word : List Char} (small : IsWord word) :
    startsWithDrive (.rooted (directory ++ [word])) =
      startsWithDrive (.rooted directory) := by
  cases directory with
  | nil => exact small.not_isDriveLetter
  | cons first rest => rfl

theorem fileHostUrl?_append {text word : List Char}
    (unmarked : ∀ c ∈ text, isPathEnd c = false) (small : IsWord word) :
    let stops (c : Char) := !isHostEnd .file c
    let path := hostPath .file (text.dropWhile stops ++ '/' :: word)
    fileHostUrl? (text ++ '/' :: word) =
      if isDriveLetter (text.takeWhile stops) then
        some { scheme := "file".toList
               authority := some (fileAuthority (.named []))
               path := .rooted (resolve .file [] (text ++ '/' :: word))
               query := none, fragment := none }
      else (fileHost? (text.takeWhile stops)).map fun host =>
        { scheme := "file".toList
          authority := some (fileAuthority
            (if startsWithDrive path then .named [] else host))
          path, query := none, fragment := none } := by
  intro stops path
  have slash : stops '/' = false := by simp [stops, isHostEnd_slash]
  have host : (text ++ '/' :: word).takeWhile stops = text.takeWhile stops :=
    takeWhile_append_cons slash text word
  have behind : (text ++ '/' :: word).dropWhile stops =
      text.dropWhile stops ++ '/' :: word :=
    dropWhile_append_cons slash text word
  have unmarked_behind : ∀ c ∈ text.dropWhile stops, isPathEnd c = false :=
    fun c member => unmarked c ((List.dropWhile_suffix _).subset member)
  have reading : fileHostUrl? (text ++ '/' :: word) =
      if isDriveLetter ((text ++ '/' :: word).takeWhile stops) then
        let tail := Tail.ofText (text ++ '/' :: word)
        some (assemble "file".toList (some (fileAuthority (.named [])))
          (.rooted (resolve .file [] tail.path)) tail)
      else do
        let host ← fileHost? ((text ++ '/' :: word).takeWhile stops)
        let tail := Tail.ofText ((text ++ '/' :: word).dropWhile stops)
        let path := hostPath .file tail.path
        let host := if startsWithDrive path then .named [] else host
        return assemble "file".toList (some (fileAuthority host)) path
          tail := by
    rfl
  rw [reading, host, behind, tail_ofText_word unmarked small,
    tail_ofText_word unmarked_behind small]
  split
  · rfl
  · cases fileHost? (text.takeWhile stops) <;> rfl

theorem fileHostUrl?_leads {text : List Char} {base : Url}
    (unmarked : ∀ c ∈ text, isPathEnd c = false)
    (accepted : fileHostUrl? (text ++ ['/']) = some base) :
    Leads "file".toList fileHostUrl? text := by
  rw [fileHostUrl?_append unmarked isWord_nil] at accepted
  split at accepted
  · next drive =>
      obtain ⟨directory, path⟩ := resolve_leads .file text
      refine ⟨some (fileAuthority (.named [])), directory,
        fun word small => ?_⟩
      rw [fileHostUrl?_append unmarked small, if_pos drive, path word small]
      rfl
  · next other =>
      rw [Option.map_eq_some_iff] at accepted
      obtain ⟨host, found, -⟩ := accepted
      obtain ⟨directory, path⟩ := hostPath_leads .file
        (text.dropWhile (!isHostEnd .file ·))
      refine ⟨some (fileAuthority
        (if startsWithDrive (.rooted (normalDirectory .file directory))
          then .named [] else host)), directory, fun word small => ?_⟩
      rw [fileHostUrl?_append unmarked small, if_neg other, found,
        path word small, startsWithDrive_append small]
      rfl

/-- A slash behind the text is the second of the two that introduce a host. -/
def IsHostMark (kind : SchemeKind) (text : List Char) : Prop :=
  ∃ c, kind.isSlash c = true ∧ text = [c]

theorem fileUrl?_leads {text : List Char} {base : Url}
    (unmarked : ∀ c ∈ text, isPathEnd c = false)
    (placed : ¬ IsHostMark .file text)
    (accepted : fileUrl? (text ++ ['/']) = some base) :
    Leads "file".toList fileUrl? text := by
  obtain ⟨directory, path⟩ := hostPath_leads .file text
  have hostless (read : ∀ word, IsWord word → fileUrl? (text ++ '/' :: word) =
      let tail := Tail.ofText (text ++ '/' :: word)
      some (assemble "file".toList (some (fileAuthority (.named [])))
        (hostPath .file tail.path) tail)) :
      Leads "file".toList fileUrl? text := by
    refine ⟨some (fileAuthority (.named [])), directory, fun word small => ?_⟩
    rw [read word small, tail_ofText_word unmarked small]
    simp only [path word small, assemble, Option.map_none]
    rfl
  cases text with
  | nil =>
      refine hostless fun word small => ?_
      cases word with
      | nil => rfl
      | cons c rest =>
          have other : SchemeKind.file.isSlash c = false :=
            isSlash_of_isLower (small c List.mem_cons_self) .file
          simp [fileUrl?, other]
  | cons first others =>
      cases others with
      | nil =>
          have other : SchemeKind.file.isSlash first = false := by
            by_contra slash
            exact placed ⟨first, by simpa using slash, rfl⟩
          exact hostless fun word small => by simp [fileUrl?, other]
      | cons second rest =>
          by_cases slashes : (SchemeKind.file.isSlash first &&
            SchemeKind.file.isSlash second) = true
          · have behind (others : List Char) :
                fileUrl? (first :: second :: rest ++ others) =
                  fileHostUrl? (rest ++ others) := if_pos slashes
            rw [behind] at accepted
            have unmarked_rest : ∀ c ∈ rest, isPathEnd c = false :=
              fun c member => unmarked c (by simp [member])
            obtain ⟨authority, directory, read⟩ :=
              fileHostUrl?_leads unmarked_rest accepted
            exact ⟨authority, directory, fun word small => by
              rw [behind, read word small]⟩
          · exact hostless fun word small => if_neg slashes

/-! ## Other schemes -/

theorem otherUrl?_slash {scheme text : List Char}
    (unmarked : ∀ c ∈ text, isPathEnd c = false)
    (single : text.head? ≠ some '/') :
    otherUrl? scheme ('/' :: text) =
      some { scheme, authority := none
             path := .rooted (resolve .other [] text)
             query := none, fragment := none } := by
  have tail : Tail.ofText ('/' :: text) = ⟨'/' :: text, none, none⟩ :=
    tail_ofText_path (List.forall_mem_cons.mpr ⟨rfl, unmarked⟩)
  unfold otherUrl?
  split
  · next rest split_eq =>
      rw [(List.cons.inj split_eq).2] at single
      exact absurd rfl single
  · rw [tail]
    rfl

theorem otherUrl?_rootless {scheme text : List Char} {c : Char}
    (other : c ≠ '/') {url : Url}
    (read : otherUrl? scheme (c :: text) = some url)
    (segments : List (List Char)) : url.path ≠ .rooted segments := by
  have behind : ∀ rest, (Tail.ofText (c :: text)).path ≠ '/' :: rest := by
    intro rest starts
    have path_start : (Tail.ofText (c :: text)).path <+: c :: text := by
      unfold Tail.ofText
      split
      · split <;> exact List.takeWhile_prefix _
      · exact List.takeWhile_prefix _
      · exact List.takeWhile_prefix _
    rw [starts, List.cons_prefix_cons] at path_start
    exact other path_start.1.symm
  unfold otherUrl? at read
  split at read
  · next split_eq => exact absurd (List.cons.inj split_eq).1 other
  · obtain rfl := Option.some.inj read
    dsimp only [assemble]
    split
    · next rest starts => exact absurd starts (behind rest)
    · exact Path.noConfusion

theorem otherUrl?_leads {scheme text : List Char} {base : Url}
    (other : schemeKind scheme = .other)
    (unmarked : ∀ c ∈ text, isPathEnd c = false)
    (placed : ¬ IsHostMark .other text)
    (accepted : otherUrl? scheme (text ++ ['/']) = some base)
    {segments : List (List Char)} (rooted : base.path = .rooted segments) :
    Leads scheme (otherUrl? scheme) text := by
  cases text with
  | nil =>
      refine ⟨none, [], fun word small => ?_⟩
      have single : word.head? ≠ some '/' := by
        intro starts
        have slash := small '/' (List.mem_of_mem_head? starts)
        cases slash
      rw [List.nil_append,
        otherUrl?_slash small.isPlain.not_isPathEnd single,
        resolve_words .other [] (small.isPlain.words .other),
        small.splitOn_eq, trimSegments_append, other]
  | cons first rest =>
      obtain ⟨-, unmarked_rest⟩ := List.forall_mem_cons.mp unmarked
      by_cases slash : first = '/'
      · subst slash
        cases rest with
        | nil => exact absurd ⟨'/', rfl, rfl⟩ placed
        | cons second others =>
            by_cases another : second = '/'
            · subst another
              exact hostUrl?_leads
                (List.forall_mem_cons.mp unmarked_rest).2 accepted
            · obtain ⟨directory, path⟩ :=
                resolve_leads .other (second :: others)
              refine ⟨none, directory, fun word small => ?_⟩
              have unmarked_word := isPathEnd_of_word unmarked_rest small
              rw [List.cons_append,
                otherUrl?_slash unmarked_word (by simpa using another),
                path word small, other]
      · exact absurd rooted (otherUrl?_rootless slash accepted segments)

/-! ## Web addresses -/

/-- The slashes in front of the host of a web address count as two. -/
def webUrl? (scheme text : List Char) : Option Url :=
  hostUrl? scheme (text.dropWhile SchemeKind.web.isSlash)

theorem hostUrl?_nil {scheme : List Char} (web : schemeKind scheme = .web) :
    hostUrl? scheme [] = none := by
  have host : (hostText false ((splitLastAt? []).getD ([], [])).2).1 = [] := by
    decide
  have unread : webHost? [] = none := by decide
  have no_authority : authority? scheme [] = none := by
    simp [authority?, web, host, unread]
  simp [hostUrl?, no_authority]

theorem webUrl?_append {scheme text : List Char} {base : Url}
    (web : schemeKind scheme = .web) {slashes : List Char}
    (accepted : webUrl? scheme (text ++ slashes) = some base)
    (only : ∀ c ∈ slashes, c = '/') (rest : List Char) :
    webUrl? scheme (text ++ '/' :: rest) =
      hostUrl? scheme
        (text.dropWhile SchemeKind.web.isSlash ++ '/' :: rest) := by
  have named : text.dropWhile SchemeKind.web.isSlash ≠ [] := by
    intro empty
    have nothing : (text ++ slashes).dropWhile SchemeKind.web.isSlash = [] := by
      rw [List.dropWhile_eq_nil_iff] at empty ⊢
      intro c member
      rcases List.mem_append.mp member with first | second
      · exact empty c first
      · rw [only c second]
        rfl
    rw [webUrl?, nothing, hostUrl?_nil web] at accepted
    cases accepted
  rw [webUrl?, List.dropWhile_append, if_neg (by simpa using named)]

theorem webUrl?_leads {scheme text : List Char} {base : Url}
    (web : schemeKind scheme = .web)
    (unmarked : ∀ c ∈ text, isPathEnd c = false)
    (accepted : webUrl? scheme (text ++ ['/']) = some base) :
    Leads scheme (webUrl? scheme) text := by
  have unmarked_host : ∀ c ∈ text.dropWhile SchemeKind.web.isSlash,
      isPathEnd c = false :=
    fun c member => unmarked c ((List.dropWhile_suffix _).subset member)
  have behind (word : List Char) := webUrl?_append web accepted (by simp) word
  rw [behind] at accepted
  obtain ⟨authority, directory, read⟩ :=
    hostUrl?_leads unmarked_host accepted
  exact ⟨authority, directory, fun word small => by
    rw [behind, read word small]⟩

/-! ## All schemes -/

theorem fileHostUrl?_scheme {text : List Char} {url : Url}
    (read : fileHostUrl? text = some url) : url.scheme = "file".toList := by
  unfold fileHostUrl? at read
  dsimp only at read
  split at read
  · obtain rfl := Option.some.inj read
    rfl
  · obtain ⟨host, -, rest⟩ := Option.bind_eq_some_iff.mp read
    obtain rfl := Option.some.inj rest
    rfl

theorem fileUrl?_scheme {text : List Char} {url : Url}
    (read : fileUrl? text = some url) : url.scheme = "file".toList := by
  unfold fileUrl? at read
  dsimp only at read
  split at read
  · split at read
    · exact fileHostUrl?_scheme read
    · obtain rfl := Option.some.inj read
      rfl
  · obtain rfl := Option.some.inj read
    rfl

theorem eq_file_of_schemeKind {scheme : List Char}
    (file : schemeKind scheme = .file) : scheme = "file".toList := by
  by_contra other
  unfold schemeKind at file
  rw [if_neg other] at file
  split at file <;> cases file

theorem hostUrl?_scheme {scheme text : List Char} {url : Url}
    (read : hostUrl? scheme text = some url) : url.scheme = scheme := by
  obtain ⟨authority, -, rest⟩ := Option.bind_eq_some_iff.mp read
  obtain rfl := Option.some.inj rest
  rfl

def behindScheme? (scheme text : List Char) : Option Url :=
  match schemeKind scheme with
  | .file => fileUrl? text
  | .web => webUrl? scheme text
  | .other => otherUrl? scheme text

theorem ofText?_append (text : List Char) {rest : List Char}
    (plain : IsPlain rest) :
    ofText? (text ++ '/' :: rest) =
      (splitScheme? (cleanedStart text)).bind fun parts =>
        behindScheme? parts.1 (parts.2 ++ '/' :: rest) := by
  rw [ofText?, cleaned_append text plain, splitScheme?_append]
  cases splitScheme? (cleanedStart text) <;> rfl

theorem behindScheme?_leads {scheme text : List Char} {base : Url}
    (unmarked : ∀ c ∈ text, isPathEnd c = false)
    (placed : ¬ IsHostMark (schemeKind scheme) text)
    (accepted : behindScheme? scheme (text ++ ['/']) = some base)
    {segments : List (List Char)} (rooted : base.path = .rooted segments) :
    Leads scheme (behindScheme? scheme) text := by
  unfold behindScheme? at accepted
  split at accepted
  · next file =>
      obtain rfl := eq_file_of_schemeKind file
      exact fileUrl?_leads unmarked placed accepted
  · next web =>
      have read : behindScheme? scheme = webUrl? scheme := by
        funext others
        rw [behindScheme?, web]
      rw [read]
      exact webUrl?_leads web unmarked accepted
  · next other =>
      have read : behindScheme? scheme = otherUrl? scheme := by
        funext others
        rw [behindScheme?, other]
      rw [read]
      rw [other] at placed
      exact otherUrl?_leads other unmarked placed accepted rooted

theorem behindScheme?_scheme {scheme text : List Char} {url : Url}
    (read : behindScheme? scheme text = some url) : url.scheme = scheme := by
  unfold behindScheme? at read
  split at read
  · next file =>
      rw [eq_file_of_schemeKind file]
      exact fileUrl?_scheme read
  · exact hostUrl?_scheme read
  · unfold otherUrl? at read
    split at read
    · exact hostUrl?_scheme read
    · obtain rfl := Option.some.inj read
      rfl

/-! ## Marks of queries and fragments -/

theorem splitScheme?_eq_append {text scheme rest : List Char}
    (read : splitScheme? text = some (scheme, rest)) :
    text = text.takeWhile isSchemeChar ++ ':' :: rest := by
  unfold splitScheme? at read
  split at read
  · cases read
  · split at read
    · split at read
      · next colon =>
          obtain ⟨-, rfl⟩ := Prod.mk.inj (Option.some.inj read)
          rw [← colon, List.takeWhile_append_dropWhile]
      · cases read
    · cases read

theorem mem_of_mem_cleanedStart {text : List Char} {c : Char}
    (member : c ∈ cleanedStart text) : c ∈ text :=
  (List.dropWhile_suffix _).subset (List.mem_of_mem_filter member)

theorem mem_dropWhile_of_not {p : Char → Bool} {text : List Char} {c : Char}
    (member : c ∈ text) (stops : p c = false) : c ∈ text.dropWhile p := by
  rw [← List.takeWhile_append_dropWhile (p := p) (l := text),
    List.mem_append] at member
  refine member.resolve_left fun first => ?_
  rw [List.mem_takeWhile_imp first] at stops
  cases stops

theorem isPathEnd_cases {c : Char} (mark : isPathEnd c = true) :
    c = '?' ∨ c = '#' := by
  simpa [isPathEnd] using mark

/-- What marks the end of a path stays in a url that is read. -/
theorem mem_behindScheme {text scheme rest : List Char}
    (read : splitScheme? (cleanedStart text) = some (scheme, rest))
    {c : Char} (mark : isPathEnd c = true) : c ∈ rest ↔ c ∈ text := by
  have known := isPathEnd_cases mark
  have whole := splitScheme?_eq_append read
  constructor
  · intro member
    refine mem_of_mem_cleanedStart ?_
    rw [whole]
    simp [member]
  · intro member
    have cleaned : c ∈ cleanedStart text := by
      refine List.mem_filter.mpr ⟨mem_dropWhile_of_not member ?_, ?_⟩ <;>
        rcases known with rfl | rfl <;> decide
    rw [whole, List.mem_append] at cleaned
    rcases cleaned with scheme_char | behind
    · have outside := List.mem_takeWhile_imp scheme_char
      rcases known with rfl | rfl <;> cases outside
    · refine (List.mem_cons.mp behind).resolve_left ?_
      rcases known with rfl | rfl <;> decide

theorem tail_ofText_marked {text : List Char} {c : Char} (member : c ∈ text)
    (mark : isPathEnd c = true) :
    ¬ ((Tail.ofText text).query = none ∧
      (Tail.ofText text).fragment = none) := by
  have stop := mem_dropWhile_of_not (p := (!isPathEnd ·)) member
    (by simp [mark])
  unfold Tail.ofText
  split
  · split <;> simp
  · simp
  · next empty => rw [empty] at stop; cases stop

end MeterWatch.Url
