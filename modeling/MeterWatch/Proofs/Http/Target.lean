import MeterWatch.Http.LogServer
import MeterWatch.Http.Message
import MeterWatch.Proofs.Decimal.Plain

/-!
# Targets of requests

A request names the path of the log, and the cursor as its only parameter.  The
text of a cursor needs no encoding and is that of no other cursor.
-/

namespace MeterWatch

/-! ## Text in forms -/

namespace Url

theorem formEncode_eq_self {text : List Char}
    (h : ∀ c ∈ text, isFormChar c = true) : formEncode text = text := by
  induction text with
  | nil => rfl
  | cons c rest ih =>
      obtain ⟨first, others⟩ := List.forall_mem_cons.mp h
      rw [formEncode, List.flatMap_cons, if_pos first, ← formEncode,
        ih others, List.singleton_append]

theorem isFormChar_of_isDigit {c : Char} (h : c.isDigit = true) :
    isFormChar c = true := by
  have bound : c.toNat ≤ 57 := (Char.isDigit_iff_toNat.mp h).2
  have small : c.toNat < 0x80 := by omega
  simp [isFormChar, Char.isAlphanum, h, small]

end Url

theorem Decimal.positional_chars (decimal : Decimal) :
    ∀ c ∈ decimal.positional, c.isDigit = true ∨ c = '.' := by
  intro c member
  unfold positional at member
  split at member
  · rcases List.mem_append.mp member with digit | zero
    · exact .inl ((toDigits_isDigits _).2 c digit)
    · rw [List.eq_of_mem_replicate zero]
      exact .inl rfl
  · rcases List.mem_append.mp member with whole | fraction
    · exact .inl (decimal.paddedDigits_all c (List.mem_of_mem_take whole))
    · rcases List.mem_cons.mp fraction with point | digit
      · exact .inr point
      · exact .inl (decimal.paddedDigits_all c (List.mem_of_mem_drop digit))

theorem Cursor.formEncode_text (cursor : Cursor) :
    Url.formEncode cursor.text.toList = cursor.text.toList := by
  refine Url.formEncode_eq_self ?_
  obtain ⟨position⟩ := cursor
  cases position with
  | nan => exact List.all_eq_true.mp (by decide)
  | infinite negative =>
      cases negative <;> exact List.all_eq_true.mp (by decide)
  | finite negative rank rank_lt =>
      intro c member
      rw [Cursor.text, Binary64.plain_toList] at member
      rcases List.mem_append.mp member with sign | digit
      · cases negative with
        | false => cases sign
        | true =>
            rw [List.mem_singleton.mp sign]
            rfl
      · rcases Decimal.positional_chars _ c digit with digit | rfl
        · exact Url.isFormChar_of_isDigit digit
        · rfl

/-! ## Urls of the log -/

/-- Whatever query or fragment the base has is dropped. -/
theorem logUrl_bare {baseUrl : String} {url : Url}
    (accepted : logUrl baseUrl = .ok url) :
    url.query = none ∧ url.fragment = none := by
  unfold logUrl at accepted
  split at accepted
  · cases accepted
  · split at accepted
    · cases accepted
    · rename_i sibling
      cases accepted
      unfold Url.sibling? at sibling
      split at sibling
      · cases sibling
      · cases sibling
        exact ⟨rfl, rfl⟩

namespace LogServer

variable {baseUrl : String} {url : Url}

theorem target_unset (accepted : logUrl baseUrl = .ok url) :
    (requestUrl url none).target = url.path.text := by
  simp [requestUrl, Url.target, (logUrl_bare accepted).1, Url.partText]

theorem target_cursor (accepted : logUrl baseUrl = .ok url)
    (cursor : Cursor) :
    (requestUrl url (some cursor)).target =
      url.path.text ++ "?ts=".toList ++ cursor.text.toList := by
  have name : Url.formEncode ['t', 's'] = ['t', 's'] := by decide
  simp [requestUrl, Url.target, Url.addQuery, (logUrl_bare accepted).1,
    Url.partText, cursor.formEncode_text, name]

theorem target_sent (cursor : Option Cursor) :
    ("GET " ++ String.ofList (requestUrl url cursor).target ++
      " HTTP/1.1").toList <+:
        (Http.requestText (requestUrl url cursor)).toList := by
  rw [Http.requestText, String.toList_intercalate]
  simp [List.intercalate]

/--
The target of a request is the path of the log, and then the text of the cursor
if one is held.  That text is nearest to the cursor and to no other number, so
reading it gives the cursor back, and other cursors have other targets.
-/
theorem target_tells_cursor (accepted : logUrl baseUrl = .ok url) :
    (∀ cursor : Option Cursor,
        ("GET " ++ String.ofList (requestUrl url cursor).target ++
          " HTTP/1.1").toList <+:
            (Http.requestText (requestUrl url cursor)).toList) ∧
      (requestUrl url none).target = url.path.text ∧
      ∀ cursor : Cursor, cursor.position ≠ .nan →
        (requestUrl url (some cursor)).target =
            url.path.text ++ "?ts=".toList ++ cursor.text.toList ∧
          (∀ negative rank rank_lt,
            cursor.position = .finite negative rank rank_lt →
              ∃ decimal : Decimal, cursor.text.toList =
                  signText negative ++ decimal.positional ∧
                Binary64.IsNearest decimal.value rank) ∧
          Binary64.readNearest? cursor.text.toList = some cursor.position ∧
          ∀ other : Cursor, other.position ≠ .nan →
            other.position.toBits ≠ cursor.position.toBits →
              other.text ≠ cursor.text ∧
                (requestUrl url (some other)).target ≠
                  (requestUrl url (some cursor)).target := by
  refine ⟨target_sent, target_unset accepted, fun cursor number => ?_⟩
  have read : Binary64.readNearest? cursor.text.toList =
      some cursor.position := Binary64.readNearest?_plain number
  refine ⟨target_cursor accepted cursor, ?_, read, ?_⟩
  · intro negative rank rank_lt position
    refine ⟨Binary64.decimal rank, ?_, ?_⟩
    · rw [Cursor.text, position, Binary64.plain_toList]
    · have nearest := Binary64.rankOfDecimal_isNearest (Binary64.decimal rank)
      rwa [Binary64.rankOfDecimal_decimal] at nearest
  · intro other other_number different
    have read_other : Binary64.readNearest? other.text.toList =
        some other.position := Binary64.readNearest?_plain other_number
    have distinct : other.text ≠ cursor.text := by
      intro same
      rw [same, read, Option.some.injEq] at read_other
      exact different (congrArg Binary64.toBits read_other.symm)
    refine ⟨distinct, fun same => distinct ?_⟩
    rw [target_cursor accepted, target_cursor accepted] at same
    exact String.toList_inj.mp (List.append_cancel_left same)

def localUrl : Url where
  scheme := "http".toList
  authority := some ⟨[], none, .ipv4 0x7F000001, some 8080⟩
  path := .rooted ["api".toList, "log".toList]
  query := none
  fragment := none

/-- Neither the query nor the fragment of the base is sent. -/
theorem target_of_marked_base :
    let cursor : Cursor := ⟨.ofRatio true 1 2⟩
    logUrl "http://127.0.0.1:8080/api/?x=1#f" = .ok localUrl ∧
      cursor.position ≠ .nan ∧
      (requestUrl localUrl none).target = "/api/log".toList ∧
      (requestUrl localUrl (some cursor)).target =
        "/api/log?ts=-0.5".toList ∧
      Binary64.readNearest? "-0.5".toList = some cursor.position := by
  intro cursor
  have accepted : logUrl "http://127.0.0.1:8080/api/?x=1#f" =
      .ok localUrl := by decide +kernel
  have number : cursor.position ≠ .nan := by decide +kernel
  have text : cursor.text = "-0.5" := by decide +kernel
  obtain ⟨-, unset, held⟩ := target_tells_cursor accepted
  obtain ⟨target, -, read, -⟩ := held cursor number
  rw [text] at target read
  exact ⟨accepted, number, unset.trans (by decide),
    target.trans (by decide), read⟩

end LogServer

end MeterWatch
