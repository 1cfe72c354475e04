/-!
# Urls

A url in its normal form, and its text.
-/

namespace MeterWatch.Url

/-! ## Schemes -/

inductive SchemeKind where
  | file
  /-- A scheme of web addresses, which always has a host. -/
  | web
  | other
  deriving DecidableEq, Repr

def webPort? (scheme : List Char) : Option Nat :=
  match String.ofList scheme with
  | "http" | "ws" => some 80
  | "https" | "wss" => some 443
  | "ftp" => some 21
  | _ => none

def schemeKind (scheme : List Char) : SchemeKind :=
  if scheme = "file".toList then .file
  else if (webPort? scheme).isSome then .web
  else .other

/-- Backslashes separate path segments in web addresses and files. -/
def SchemeKind.isSlash (kind : SchemeKind) (c : Char) : Bool :=
  c == '/' || (c == '\\' && kind != .other)

/-! ## Parts -/

inductive Host where
  /-- A domain, or the name of a host of another scheme; files may have none. -/
  | named (name : List Char)
  | ipv4 (address : Nat)
  /-- Eight pieces of sixteen bits. -/
  | ipv6 (pieces : List Nat)
  deriving DecidableEq, Repr

structure Authority where
  username : List Char
  password : Option (List Char)
  host : Host
  port : Option Nat
  deriving DecidableEq, Repr

inductive Path where
  /-- A path without segments, as in mail addresses. -/
  | rootless (text : List Char)
  | rooted (segments : List (List Char))
  deriving DecidableEq, Repr

end Url

structure Url where
  scheme : List Char
  authority : Option Url.Authority
  path : Url.Path
  query : Option (List Char)
  fragment : Option (List Char)
  deriving DecidableEq, Repr

namespace Url

/-! ## Text of hosts -/

def ipv4Text (address : Nat) : List Char :=
  let part (shift : Nat) := Nat.toDigits 10 (address / Nat.pow 256 shift % 256)
  part 3 ++ '.' :: part 2 ++ '.' :: part 1 ++ '.' :: part 0

/-- The number of zeros a list starts with. -/
def zeroRun (pieces : List Nat) : Nat := (pieces.takeWhile (· == 0)).length

/-- The start and length of the first of the longest runs of zeros. -/
def longestZeroRun (pieces : List Nat) : Nat × Nat :=
  (List.range pieces.length).foldl
    (fun best start =>
      let run := zeroRun (pieces.drop start)
      if best.2 < run then (start, run) else best)
    (0, 0)

def piecesText (pieces : List Nat) : List Char :=
  [':'].intercalate (pieces.map (Nat.toDigits 16))

/-- Two colons stand for the longest run of zeros, if it has at least two. -/
def ipv6Text (pieces : List Nat) : List Char :=
  let (start, length) := longestZeroRun pieces
  if length < 2 then piecesText pieces
  else piecesText (pieces.take start) ++ [':', ':'] ++
    piecesText (pieces.drop (start + length))

def Host.text : Host → List Char
  | named name => name
  | ipv4 address => ipv4Text address
  | ipv6 pieces => '[' :: ipv6Text pieces ++ [']']

/-! ## Text of urls -/

def Authority.userText (authority : Authority) : List Char :=
  match authority.username, authority.password with
  | [], none => []
  | username, none => username ++ ['@']
  | username, some password => username ++ ':' :: password ++ ['@']

def portText : Option Nat → List Char
  | some port => ':' :: Nat.toDigits 10 port
  | none => []

def Authority.text (authority : Authority) : List Char :=
  '/' :: '/' :: authority.userText ++ authority.host.text ++
    portText authority.port

def Path.text : Path → List Char
  | rootless text => text
  | rooted segments => segments.flatMap ('/' :: ·)

/-- Without a host, two slashes must not seem to introduce one. -/
def hostPathText (authority : Option Authority) (path : Path) : List Char :=
  match authority with
  | some authority => authority.text ++ path.text
  | none =>
      match path with
      | .rooted ([] :: second :: rest) =>
          '/' :: '.' :: Path.text (.rooted ([] :: second :: rest))
      | _ => path.text

def partText (mark : Char) : Option (List Char) → List Char
  | some part => mark :: part
  | none => []

def text (url : Url) : List Char :=
  url.scheme ++ ':' :: hostPathText url.authority url.path ++
    partText '?' url.query ++ partText '#' url.fragment

def target (url : Url) : List Char :=
  url.path.text ++ partText '?' url.query

end Url

instance : ToString Url := ⟨fun url => String.ofList url.text⟩

end MeterWatch
