import MeterWatch.Url.Host

/-!
# Reading urls

An absolute url is read without a base.  Tabs and line ends are dropped
wherever they stand, and so are blanks and controls around the text.
-/

namespace MeterWatch.Url

/-! ## Tail -/

structure Tail where
  path : List Char
  query : Option (List Char)
  fragment : Option (List Char)

def isPathEnd (c : Char) : Bool := c == '?' || c == '#'

def Tail.ofText (text : List Char) : Tail :=
  let path := text.takeWhile (!isPathEnd ·)
  match text.dropWhile (!isPathEnd ·) with
  | '?' :: rest =>
      let query := rest.takeWhile (· != '#')
      match rest.dropWhile (· != '#') with
      | _ :: fragment => ⟨path, some query, some fragment⟩
      | [] => ⟨path, some query, none⟩
  | _ :: fragment => ⟨path, none, some fragment⟩
  | [] => ⟨path, none, none⟩

/-- A url from its encoded parts and the tail that is still to be encoded. -/
def assemble (scheme : List Char) (authority : Option Authority)
    (path : Path) (tail : Tail) : Url :=
  let querySet :=
    if schemeKind scheme = .other then inQuerySet else inWebQuerySet
  { scheme, authority, path
    query := tail.query.map (encode querySet)
    fragment := tail.fragment.map (encode inFragmentSet) }

/-! ## Path segments -/

def isDot (segment : List Char) : Bool :=
  String.ofList (segment.map Char.toLower) ∈ [".", "%2e"]

def isDoubleDot (segment : List Char) : Bool :=
  String.ofList (segment.map Char.toLower) ∈
    ["..", "%2e.", ".%2e", "%2e%2e"]

def isDriveLetter : List Char → Bool
  | [letter, mark] => letter.isAlpha && (mark == ':' || mark == '|')
  | _ => false

/-- Drops the last segment, but not the drive of a file. -/
def dropSegment (kind : SchemeKind) (segments : List (List Char)) :
    List (List Char) :=
  match kind, segments with
  | .file, [segment] => if isDriveLetter segment then [segment] else []
  | _, segments => segments.dropLast

/-- The drive of a file is written with a colon. -/
def appendSegment (kind : SchemeKind) (segments : List (List Char))
    (segment : List Char) : List (List Char) :=
  match kind, segments, segment with
  | .file, [], [letter, mark] =>
      if isDriveLetter [letter, mark] then [[letter, ':']]
      else [[letter, mark]]
  | _, segments, segment => segments ++ [segment]

/-- Resolves dot segments; one at the end leaves an empty segment. -/
def addSegments (kind : SchemeKind) (segments : List (List Char)) :
    List (List Char) → List (List Char)
  | [] => segments
  | [last] =>
      if isDoubleDot last then dropSegment kind segments ++ [[]]
      else if isDot last then segments ++ [[]]
      else appendSegment kind segments last
  | segment :: rest =>
      if isDoubleDot segment then
        addSegments kind (dropSegment kind segments) rest
      else if isDot segment then addSegments kind segments rest
      else addSegments kind (appendSegment kind segments segment) rest

/-- The path of a file does not start with empty segments. -/
def trimSegments (kind : SchemeKind) (segments : List (List Char)) :
    List (List Char) :=
  if kind = .file then
    match segments.dropWhile List.isEmpty with
    | [] => segments.take 1
    | others => others
  else segments

/-- The segments that a text adds to the start of a path. -/
def resolve (kind : SchemeKind) (base : List (List Char))
    (text : List Char) : List (List Char) :=
  let segments := (Text.splitOn kind.isSlash text).map (encode inPathSet)
  trimSegments kind (addSegments kind base segments)

def hostPath (kind : SchemeKind) (text : List Char) : Path :=
  match text with
  | [] => .rooted (if kind = .other then [] else [[]])
  | c :: rest =>
      .rooted (resolve kind [] (if kind.isSlash c then rest else c :: rest))

/-! ## Authorities -/

/-- The texts before and behind the last at sign. -/
def splitLastAt? (text : List Char) : Option (List Char × List Char) :=
  let behind := (text.reverse.takeWhile (· != '@')).reverse
  if behind.length = text.length then none
  else some (text.take (text.length - behind.length - 1), behind)

def userInfo (text : List Char) : List Char × Option (List Char) :=
  let username := encode inUserSet (text.takeWhile (· != ':'))
  match text.dropWhile (· != ':') with
  | _ :: first :: rest => (username, some (encode inUserSet (first :: rest)))
  | _ => (username, none)

/-- The host of a text, where a colon inside brackets belongs to the host. -/
def hostText (bracketed : Bool) : List Char → List Char × List Char
  | [] => ([], [])
  | c :: rest =>
      if c = ':' ∧ !bracketed then ([], c :: rest)
      else
        let bracketed := if c = '[' then true else bracketed && c != ']'
        let (host, rest) := hostText bracketed rest
        (c :: host, rest)

/-- A port that the scheme has anyway is left out, and so is an empty one. -/
def port? (scheme : List Char) (text : List Char) : Option (Option Nat) :=
  match text with
  | [] => some none
  | _ :: digits =>
      let port := digitsValue digits
      if !digits.all Char.isDigit || 65535 < port then none
      else if digits.isEmpty || webPort? scheme = some port then some none
      else some (some port)

def isEmptyHost : Host → Bool
  | .named [] => true
  | _ => false

/-- The authority between two slashes and the path; a user needs a host. -/
def authority? (scheme : List Char) (text : List Char) :
    Option Authority := do
  let kind := schemeKind scheme
  let split := splitLastAt? text
  let (user, rest) := split.getD ([], text)
  let (username, password) := userInfo user
  let (hostName, portText) := hostText false rest
  let host ← if kind = .web then webHost? hostName else otherHost? hostName
  let port ← port? scheme portText
  let needsHost := kind = .web ∨ !portText.isEmpty ∨
    (split.isSome ∧ user ≠ [':'])
  if isEmptyHost host ∧ needsHost then none
  return { username, password, host, port }

def hostUrl? (scheme : List Char) (text : List Char) : Option Url := do
  let kind := schemeKind scheme
  let isAuthorityEnd (c : Char) := kind.isSlash c || isPathEnd c
  let authority ← authority? scheme (text.takeWhile (!isAuthorityEnd ·))
  let tail := Tail.ofText (text.dropWhile (!isAuthorityEnd ·))
  return assemble scheme (some authority) (hostPath kind tail.path) tail

/-! ## Files -/

def fileAuthority (host : Host) : Authority :=
  { username := [], password := none, host, port := none }

/-- A file may name its host; the local one is left out. -/
def fileHost? (text : List Char) : Option Host :=
  if text.isEmpty then some (.named [])
  else do
    let host ← webHost? text
    if host = .named "localhost".toList then return .named [] else return host

def fileHostUrl? (text : List Char) : Option Url := do
  let isHostEnd (c : Char) := SchemeKind.file.isSlash c || isPathEnd c
  let hostName := text.takeWhile (!isHostEnd ·)
  let scheme := "file".toList
  if isDriveLetter hostName then
    let tail := Tail.ofText text
    let path := Path.rooted (resolve .file [] tail.path)
    return assemble scheme (some (fileAuthority (.named []))) path tail
  else
    let host ← fileHost? hostName
    let tail := Tail.ofText (text.dropWhile (!isHostEnd ·))
    let path := hostPath .file tail.path
    let hasDrive := match path with
      | .rooted (segment :: _) => isDriveLetter segment
      | _ => false
    let host := if hasDrive then .named [] else host
    return assemble scheme (some (fileAuthority host)) path tail

def fileUrl? (text : List Char) : Option Url :=
  let isSlash := SchemeKind.file.isSlash
  match text with
  | first :: second :: rest =>
      if isSlash first && isSlash second then fileHostUrl? rest
      else
        let tail := Tail.ofText text
        let path := hostPath .file tail.path
        some (assemble "file".toList (some (fileAuthority (.named []))) path
          tail)
  | _ =>
      let tail := Tail.ofText text
      let path := hostPath .file tail.path
      some (assemble "file".toList (some (fileAuthority (.named []))) path
        tail)

/-! ## Urls -/

def otherUrl? (scheme : List Char) (text : List Char) : Option Url :=
  match text with
  | '/' :: '/' :: rest => hostUrl? scheme rest
  | _ =>
      let tail := Tail.ofText text
      let path := match tail.path with
        | '/' :: rest => Path.rooted (resolve .other [] rest)
        | path => Path.rootless (encode isControl path)
      some (assemble scheme none path tail)

def isSchemeChar (c : Char) : Bool :=
  c.isAlphanum || c == '+' || c == '-' || c == '.'

/-- The scheme in lower case, and the text behind its colon. -/
def splitScheme? (text : List Char) : Option (List Char × List Char) :=
  match text with
  | [] => none
  | first :: _ =>
      if first.isAlpha then
        match text.dropWhile isSchemeChar with
        | ':' :: rest =>
            some ((text.takeWhile isSchemeChar).map Char.toLower, rest)
        | _ => none
      else none

def isOuterBlank (c : Char) : Bool := c.toNat ≤ 0x20

def isDropped (c : Char) : Bool := c == '\t' || c == '\n' || c == '\r'

def cleaned (text : List Char) : List Char :=
  let trimmed := ((text.dropWhile isOuterBlank).reverse.dropWhile
    isOuterBlank).reverse
  trimmed.filter (!isDropped ·)

/-- Reads an absolute url; one without a scheme is not absolute. -/
def ofText? (text : List Char) : Option Url := do
  let (scheme, rest) ← splitScheme? (cleaned text)
  match schemeKind scheme with
  | .file => fileUrl? rest
  | .web => hostUrl? scheme (rest.dropWhile SchemeKind.web.isSlash)
  | .other => otherUrl? scheme rest

/-! ## References -/

/--
Resolves a single plain segment against a url: it takes the place of the last
segment, and query and fragment are dropped.
-/
def sibling? (url : Url) (segment : List Char) : Option Url :=
  match url.path with
  | .rootless _ => none
  | .rooted segments =>
      let kind := schemeKind url.scheme
      let path := resolve kind (dropSegment kind segments) segment
      some { url with path := .rooted path, query := none, fragment := none }

def addQuery (url : Url) (name value : List Char) : Url :=
  let pair := formEncode name ++ '=' :: formEncode value
  let query := match url.query with
    | some (first :: rest) => first :: rest ++ '&' :: pair
    | _ => pair
  { url with query := some query }

end MeterWatch.Url
