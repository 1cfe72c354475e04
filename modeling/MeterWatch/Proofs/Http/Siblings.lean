import MeterWatch.Proofs.Failure
import MeterWatch.Proofs.Http.Target
import MeterWatch.Proofs.Url.Directory
import MeterWatch.Settings.Basic

/-!
# The log and the charts

Unless a url is set for them, charts are asked for beside the log.  The url of
the log is resolved against the base and that of the charts is put together as
text.  The two meet in one directory if one slash at most ends the base.
-/

namespace MeterWatch

open Url

/-! ## Slashes that end a base -/

theorem exists_trailing_slashes (text : List Char) :
    ∃ first count, text = first ++ List.replicate count '/' ∧
      first.getLast? ≠ some '/' := by
  refine ⟨text.rdropWhile (· == '/'), (text.rtakeWhile (· == '/')).length,
    ?_, fun ends => ?_⟩
  · have slashes : text.rtakeWhile (· == '/') = List.replicate _ '/' :=
      List.eq_replicate_of_mem fun c member => by
        simpa using List.mem_rtakeWhile_imp member
    rw [← slashes, List.rdropWhile_append_rtakeWhile]
  · obtain ⟨nonempty, last⟩ := List.mem_getLast?_eq_getLast ends
    exact List.rdropWhile_last_not _ _ nonempty (by simp [← last])

theorem rdropWhile_slashes {first : List Char}
    (other : first.getLast? ≠ some '/') (count : Nat) :
    (first ++ List.replicate count '/').rdropWhile (· == '/') = first := by
  induction count with
  | zero =>
      rw [List.replicate_zero, List.append_nil, List.rdropWhile_eq_self_iff]
      intro nonempty slash
      rw [List.getLast?_eq_getLast_of_ne_nil nonempty] at other
      exact other (congrArg some (beq_iff_eq.mp slash))
  | succ count ih =>
      rw [List.replicate_succ', ← List.append_assoc,
        List.rdropWhile_concat_pos _ _ _ rfl, ih]

theorem slashTerminated_slashes {first : List Char}
    (other : first.getLast? ≠ some '/') (count : Nat) :
    slashTerminated (first ++ List.replicate count '/') =
      first ++ '/' :: List.replicate (count - 1) '/' := by
  cases count with
  | zero => simp [slashTerminated, other]
  | succ count =>
      have ends : (first ++ List.replicate (count + 1) '/').getLast? =
          some '/' := by
        rw [List.replicate_succ', ← List.append_assoc, List.getLast?_concat]
      rw [slashTerminated, if_pos ends, Nat.add_sub_cancel,
        List.replicate_succ]

theorem two_slashes_suffix {first : List Char}
    (other : first.getLast? ≠ some '/') (count : Nat) :
    ['/', '/'] <:+ first ++ List.replicate count '/' ↔ 2 ≤ count := by
  constructor
  · rintro ⟨start, whole⟩
    match count with
    | 0 =>
        rw [List.replicate_zero, List.append_nil] at whole
        simp [← whole] at other
    | 1 =>
        have front : start ++ ['/'] = first := by
          apply (List.append_left_inj ['/']).mp
          simpa using whole
        simp [← front] at other
    | count + 2 => omega
  · intro large
    obtain ⟨more, rfl⟩ := Nat.exists_eq_add_of_le' large
    refine ⟨first ++ List.replicate more '/', ?_⟩
    rw [List.append_assoc, List.replicate_add]
    rfl

/-- The slash that ends the base is the second of the two before a host. -/
def EndsInHostMark (baseUrl : String) : Prop :=
  ∃ scheme text,
    splitScheme? (cleaned (slashTerminated baseUrl.toList)) =
      some (scheme, text ++ ['/']) ∧
    IsHostMark (schemeKind scheme) text

/-! ## Siblings -/

/-- Two urls that differ only in that the last segment is another. -/
def AreSiblings (log query : Url) : Prop :=
  ∃ directory, log.path = .rooted (directory ++ ["log".toList]) ∧
    query = { log with path := .rooted (directory ++ ["query".toList]) }

theorem logUrl_eq_ok {baseUrl : String} {log : Url}
    (accepted : logUrl baseUrl = .ok log) :
    ∃ base, Url.ofText? (slashTerminated baseUrl.toList) = some base ∧
      base.sibling? "log".toList = some log := by
  unfold logUrl at accepted
  split at accepted
  · cases accepted
  · next base read =>
      split at accepted
      · cases accepted
      · next url sibling =>
          cases accepted
          exact ⟨base, read, sibling⟩

theorem sibling?_fields {base log : Url} {name : List Char}
    (sibling : base.sibling? name = some log) :
    (∃ segments, base.path = .rooted segments) ∧
      log.scheme = base.scheme ∧ log.authority = base.authority := by
  unfold sibling? at sibling
  split at sibling
  · cases sibling
  · next segments path =>
      obtain rfl := Option.some.inj sibling
      exact ⟨⟨segments, path⟩, rfl, rfl⟩

/-- The name of a sibling takes the place of the empty last segment. -/
theorem sibling?_of_directory {base : Url} {directory : List (List Char)}
    (path : base.path = .rooted (directory ++ [[]])) {name : List Char}
    (word : IsWord name) :
    base.sibling? name = some { base with
      path := .rooted
        (normalDirectory (schemeKind base.scheme) directory ++ [name])
      query := none, fragment := none } := by
  rw [sibling?, path]
  simp only [dropSegment_append_nil,
    resolve_words _ directory (word.isPlain.words _), word.splitOn_eq,
    trimSegments_append]

theorem sibling?_of_path {base log : Url} {directory : List (List Char)}
    (path : base.path = .rooted (directory ++ [[]])) {name : List Char}
    (word : IsWord name) (sibling : base.sibling? name = some log) :
    log = { base with
      path := .rooted
        (normalDirectory (schemeKind base.scheme) directory ++ [name])
      query := none, fragment := none } :=
  Option.some.inj (sibling.symm.trans (sibling?_of_directory path word))

theorem siblings_of_leads {text scheme : List Char} {base log : Url}
    (leads : Leads scheme (behindScheme? scheme) text)
    (read : behindScheme? scheme (text ++ ['/']) = some base)
    (sibling : base.sibling? "log".toList = some log) :
    ∃ query, behindScheme? scheme (text ++ "/query".toList) = some query ∧
      AreSiblings log query := by
  obtain ⟨authority, directory, words⟩ := leads
  have base_eq := Option.some.inj (read.symm.trans (words [] isWord_nil))
  have query_word : IsWord "query".toList := List.all_eq_true.mp (by decide)
  have log_word : IsWord "log".toList := List.all_eq_true.mp (by decide)
  refine ⟨_, words "query".toList query_word,
    normalDirectory (schemeKind scheme) directory, ?_⟩
  obtain rfl := sibling?_of_path (congrArg Url.path base_eq) log_word sibling
  subst base_eq
  simp [normalDirectory_normalDirectory]

/-! ## Urls with hosts -/

theorem hostUrl?_authority {scheme text first : List Char} {base : Url}
    (read : hostUrl? scheme (text ++ '/' :: first) = some base)
    (second : List Char) :
    ∃ query, hostUrl? scheme (text ++ '/' :: second) = some query ∧
      query.scheme = base.scheme ∧ query.authority = base.authority := by
  rw [hostUrl?_behind, Option.map_eq_some_iff] at read
  obtain ⟨authority, found, rfl⟩ := read
  have query_read := hostUrl?_behind scheme text second
  dsimp only at query_read
  rw [found] at query_read
  exact ⟨_, query_read, rfl, rfl⟩

theorem count_of_siblings {scheme text : List Char} {count : Nat}
    {base log query : Url} (web : schemeKind scheme = .web)
    (unmarked : ∀ c ∈ text, isPathEnd c = false)
    (read : hostUrl? scheme (text ++ '/' :: List.replicate count '/') =
      some base)
    (sibling : base.sibling? "log".toList = some log)
    (query_read : hostUrl? scheme (text ++ "/query".toList) = some query)
    (siblings : AreSiblings log query) : count = 0 := by
  obtain ⟨directory, reads⟩ := hostUrl?_append scheme unmarked
  have slashes : IsPlain (List.replicate count '/') :=
    fun c member => .inr (List.eq_of_mem_replicate member)
  have query_word : IsWord "query".toList := List.all_eq_true.mp (by decide)
  have log_word : IsWord "log".toList := List.all_eq_true.mp (by decide)
  rw [reads _ slashes, Option.map_eq_some_iff] at read
  obtain ⟨authority, -, rfl⟩ := read
  have path : trimSegments .web (directory ++ Text.splitOn
      SchemeKind.web.isSlash (List.replicate count '/')) =
      (directory ++ List.replicate count []) ++ [[]] := by
    rw [splitOn_replicate rfl, List.replicate_succ', ← List.append_assoc]
    rfl
  have log_eq := sibling?_of_path (by rw [web, path]) log_word sibling
  change hostUrl? scheme (text ++ '/' :: "query".toList) = _ at query_read
  rw [reads _ query_word.isPlain, Option.map_eq_some_iff] at query_read
  obtain ⟨query_authority, -, rfl⟩ := query_read
  obtain ⟨shared, log_path, query_eq⟩ := siblings
  have query_path := Path.rooted.inj (congrArg Url.path query_eq)
  rw [log_eq] at log_path
  have log_path := Path.rooted.inj log_path
  rw [query_word.splitOn_eq, trimSegments_append, web] at query_path
  simp only [web] at log_path
  have unchanged : directory ++ List.replicate count [] = directory :=
    (List.append_cancel_right log_path).trans
      (List.append_cancel_right query_path).symm
  simpa using unchanged

theorem query_of_marked {scheme text rest : List Char} {url : Url} {c : Char}
    (member : c ∈ text) (mark : isPathEnd c = true)
    (read : hostUrl? scheme (text ++ '/' :: rest) = some url) :
    ¬ (url.query = none ∧ url.fragment = none) := by
  rw [hostUrl?_behind, Option.map_eq_some_iff] at read
  obtain ⟨authority, -, rfl⟩ := read
  have behind : c ∈ text.dropWhile (!isHostEnd (schemeKind scheme) ·) :=
    mem_dropWhile_of_not member (by simp [isHostEnd, mark])
  simpa [assemble] using
    tail_ofText_marked (List.mem_append_left ('/' :: rest) behind) mark

/-! ## Texts behind a scheme -/

/-- Both urls are read from one text, which slashes or a last word follow. -/
structure AreReadBehind (settings : Settings) (log : Url)
    (scheme text : List Char) (count : Nat) : Prop where
  base : ∃ base, behindScheme? scheme
      (text ++ '/' :: List.replicate count '/') = some base ∧
    base.sibling? "log".toList = some log
  query : Url.ofText? settings.queryUrl.toList =
    behindScheme? scheme (text ++ "/query".toList)
  unmarked : (∀ c ∈ settings.server.baseUrl.toList, isPathEnd c = false) ↔
    ∀ c ∈ text, isPathEnd c = false
  single : ¬ ['/', '/'] <:+ settings.server.baseUrl.toList ↔ count = 0
  placed : count = 0 → IsHostMark (schemeKind scheme) text →
    EndsInHostMark settings.server.baseUrl

theorem unmarked_behind {first scheme text : List Char}
    (split : splitScheme? (cleanedStart first) = some (scheme, text))
    (count : Nat) :
    (∀ c ∈ first ++ List.replicate count '/', isPathEnd c = false) ↔
      ∀ c ∈ text, isPathEnd c = false := by
  constructor
  · intro unmarked c member
    by_contra mark
    rw [Bool.not_eq_false] at mark
    have inside := List.mem_append_left (List.replicate count '/')
      ((mem_behindScheme split mark).mp member)
    rw [unmarked c inside] at mark
    cases mark
  · intro unmarked c member
    by_contra mark
    rw [Bool.not_eq_false] at mark
    rcases List.mem_append.mp member with start | slash
    · rw [unmarked c ((mem_behindScheme split mark).mpr start)] at mark
      cases mark
    · rw [List.eq_of_mem_replicate slash] at mark
      cases mark

theorem exists_areReadBehind {settings : Settings} {log : Url}
    (unset : settings.charts.queryUrl = none)
    (accepted : logUrl settings.server.baseUrl = .ok log) :
    ∃ scheme text count, AreReadBehind settings log scheme text count := by
  obtain ⟨base, read, sibling⟩ := logUrl_eq_ok accepted
  obtain ⟨first, count, text_eq, other⟩ :=
    exists_trailing_slashes settings.server.baseUrl.toList
  have query_text : settings.queryUrl.toList =
      first ++ '/' :: "query".toList := by
    simp only [Settings.queryUrl, unset, String.toList_append,
      Text.toList_trimEnd, text_eq, rdropWhile_slashes other]
    rfl
  have slashes : IsPlain (List.replicate (count - 1) '/') :=
    fun c member => .inr (List.eq_of_mem_replicate member)
  have query_word : IsWord "query".toList := List.all_eq_true.mp (by decide)
  rw [text_eq, slashTerminated_slashes other, ofText?_append first slashes,
    Option.bind_eq_some_iff] at read
  obtain ⟨⟨scheme, text⟩, split, read⟩ := read
  refine ⟨scheme, text, count - 1, ⟨base, read, sibling⟩, ?_, ?_, ?_, ?_⟩
  · rw [query_text, ofText?_append first query_word.isPlain, split]
    rfl
  · rw [text_eq, unmarked_behind split]
  · rw [text_eq, two_slashes_suffix other]
    omega
  · intro one mark
    refine ⟨scheme, text, ?_, mark⟩
    rw [text_eq, slashTerminated_slashes other, one, List.replicate_zero,
      cleaned_append first isWord_nil.isPlain, splitScheme?_append, split]
    rfl

/-! ## The default of the charts -/

theorem beside_log {settings : Settings} {log : Url}
    {scheme text : List Char} {count : Nat}
    (behind : AreReadBehind settings log scheme text count)
    (placed : ¬ EndsInHostMark settings.server.baseUrl)
    (unmarked : ∀ c ∈ settings.server.baseUrl.toList, isPathEnd c = false)
    (single : ¬ ['/', '/'] <:+ settings.server.baseUrl.toList) :
    ∃ query, Url.ofText? settings.queryUrl.toList = some query ∧
      AreSiblings log query := by
  obtain ⟨base, read, sibling⟩ := behind.base
  obtain ⟨⟨segments, path⟩, -, -⟩ := sibling?_fields sibling
  have one := behind.single.mp single
  rw [one, List.replicate_zero] at read
  have leads := behindScheme?_leads (behind.unmarked.mp unmarked)
    (fun mark => placed (behind.placed one mark)) read path
  rw [behind.query]
  exact siblings_of_leads leads read sibling

theorem web_beside_log {settings : Settings} {log : Url}
    {scheme text : List Char} {count : Nat}
    (bare : log.query = none ∧ log.fragment = none)
    (behind : AreReadBehind settings log scheme text count)
    (web : schemeKind log.scheme = .web) :
    ∃ query, Url.ofText? settings.queryUrl.toList = some query ∧
      query.scheme = log.scheme ∧ query.authority = log.authority ∧
      (AreSiblings log query ↔
        (∀ c ∈ settings.server.baseUrl.toList, isPathEnd c = false) ∧
          ¬ ['/', '/'] <:+ settings.server.baseUrl.toList) := by
  obtain ⟨base, read, sibling⟩ := behind.base
  obtain ⟨-, scheme_eq, authority_eq⟩ := sibling?_fields sibling
  rw [scheme_eq, behindScheme?_scheme read] at web
  have web_read : behindScheme? scheme = webUrl? scheme := by
    funext others
    rw [behindScheme?, web]
  have host := webUrl?_append web (web_read ▸ read)
    (List.forall_mem_cons.mpr
      ⟨rfl, fun c member => List.eq_of_mem_replicate member⟩)
  rw [web_read, host] at read
  obtain ⟨query, query_read, query_scheme, query_authority⟩ :=
    hostUrl?_authority read "query".toList
  rw [behind.query, behind.unmarked, behind.single, web_read]
  refine ⟨query, (host _).trans query_read, query_scheme.trans scheme_eq.symm,
    query_authority.trans authority_eq.symm, fun siblings => ?_, ?_⟩
  · have unmarked : ∀ c ∈ text, isPathEnd c = false := by
      intro c member
      by_contra mark
      rw [Bool.not_eq_false] at mark
      obtain ⟨directory, -, query_eq⟩ := siblings
      have slash : SchemeKind.web.isSlash c = false := by
        rcases isPathEnd_cases mark with rfl | rfl <;> rfl
      refine query_of_marked (mem_dropWhile_of_not member slash) mark
        query_read ?_
      rw [query_eq]
      exact bare
    refine ⟨unmarked, count_of_siblings web (fun c member => unmarked c
      ((List.dropWhile_suffix _).subset member)) read sibling query_read
      siblings⟩
  · rintro ⟨unmarked, rfl⟩
    have base_read := (host []).trans read
    have leads := webUrl?_leads web unmarked base_read
    rw [← web_read] at leads base_read
    obtain ⟨found, found_read, siblings⟩ :=
      siblings_of_leads leads base_read sibling
    rw [web_read] at found_read
    obtain rfl := Option.some.inj
      (found_read.symm.trans ((host _).trans query_read))
    exact siblings

/--
The base names the directory of both urls unless it has a query, a fragment or
several slashes at its end.
-/
theorem default_query_beside_log {settings : Settings} {log : Url}
    (unset : settings.charts.queryUrl = none)
    (accepted : logUrl settings.server.baseUrl = .ok log) :
    (¬ EndsInHostMark settings.server.baseUrl →
      (∀ c ∈ settings.server.baseUrl.toList, isPathEnd c = false) →
      ¬ ['/', '/'] <:+ settings.server.baseUrl.toList →
        ∃ query, Url.ofText? settings.queryUrl.toList = some query ∧
          AreSiblings log query) ∧
      (schemeKind log.scheme = .web →
        ∃ query, Url.ofText? settings.queryUrl.toList = some query ∧
          query.scheme = log.scheme ∧ query.authority = log.authority ∧
          (AreSiblings log query ↔
            (∀ c ∈ settings.server.baseUrl.toList, isPathEnd c = false) ∧
              ¬ ['/', '/'] <:+ settings.server.baseUrl.toList)) := by
  obtain ⟨scheme, text, count, behind⟩ := exists_areReadBehind unset accepted
  exact ⟨beside_log behind, web_beside_log (logUrl_bare accepted) behind⟩

/-- Settings that only name a base. -/
def Settings.ofBase (baseUrl : String) : Settings :=
  { Settings.default with
    server := { ServerSettings.default with baseUrl } }

/-- An address of a server in the local network. -/
def localAddress (path : List String) : Url where
  scheme := "http".toList
  authority := some
    { username := [], password := none, host := .named "pi.local".toList
      port := some 8000 }
  path := .rooted (path.map String.toList)
  query := none
  fragment := none

theorem default_query_beside_energy_log :
    (Settings.ofBase "http://pi.local:8000/energy").charts.queryUrl = none ∧
      logUrl "http://pi.local:8000/energy" =
        .ok (localAddress ["energy", "log"]) ∧
      schemeKind (localAddress ["energy", "log"]).scheme = .web ∧
      ∃ query, Url.ofText? (Settings.ofBase
          "http://pi.local:8000/energy").queryUrl.toList = some query ∧
        AreSiblings (localAddress ["energy", "log"]) query := by
  have accepted : logUrl "http://pi.local:8000/energy" =
      .ok (localAddress ["energy", "log"]) := by decide +kernel
  obtain ⟨query, read, -, -, siblings⟩ :=
    (@default_query_beside_log (Settings.ofBase "http://pi.local:8000/energy")
      _ rfl accepted).2 rfl
  exact ⟨rfl, accepted, rfl, query, read, siblings.mpr
    ⟨by simp [Settings.ofBase, isPathEnd], by decide⟩⟩

theorem doubled_slash_parts_urls :
    (Settings.ofBase "http://pi.local:8000/energy//").charts.queryUrl = none ∧
      logUrl "http://pi.local:8000/energy//" =
        .ok (localAddress ["energy", "", "log"]) ∧
      Url.ofText? (Settings.ofBase
          "http://pi.local:8000/energy//").queryUrl.toList =
        some (localAddress ["energy", "query"]) ∧
      ¬ AreSiblings (localAddress ["energy", "", "log"])
        (localAddress ["energy", "query"]) := by
  refine ⟨rfl, by decide +kernel, by decide +kernel, ?_⟩
  rintro ⟨directory, log_path, query_eq⟩
  have query_path := Path.rooted.inj (congrArg Url.path query_eq)
  have lengths := congrArg List.length (Path.rooted.inj log_path)
  have others := congrArg List.length query_path
  simp at lengths others
  omega

end MeterWatch
