import MeterWatch.Http.Exchange
import MeterWatch.Decimal.Numeral
import MeterWatch.Text.Utf8

/-!
# Messages

The text of a request, and the status and body of the response to it.
-/

namespace MeterWatch.Http

/-! ## Requests -/

def hostText (url : Url) : List Char :=
  match url.authority with
  | some authority => authority.host.text ++ Url.portText authority.port
  | none => []

/-- Asks for what a url names, and for the end of the connection. -/
def requestText (url : Url) : String :=
  let lines := ["GET " ++ String.ofList url.target ++ " HTTP/1.1",
    "host: " ++ String.ofList (hostText url), "accept: */*",
    "connection: close", "", ""]
  "\r\n".intercalate lines

/-! ## Responses -/

structure Response where
  status : Nat
  /-- The names are in lower case. -/
  headers : List (List Char × List Char)
  /-- What follows the headers, as it was sent. -/
  content : List UInt8

def lineEnd : List UInt8 := [13, 10]

/-- What stands before and behind the first occurrence of a mark. -/
def splitAtMark? (mark : List UInt8) :
    List UInt8 → Option (List UInt8 × List UInt8)
  | [] => none
  | byte :: rest =>
      if mark.isPrefixOf (byte :: rest) then
        some ([], (byte :: rest).drop mark.length)
      else
        match splitAtMark? mark rest with
        | some (before, behind) => some (byte :: before, behind)
        | none => none

def latinText (bytes : List UInt8) : List Char :=
  bytes.map fun byte => Char.ofNat byte.toNat

def trimSpaces (text : List Char) : List Char :=
  let isSpace (c : Char) := c == ' ' || c == '\t'
  ((text.dropWhile isSpace).reverse.dropWhile isSpace).reverse

/-- A status line is a version, a number, and possibly a phrase. -/
def statusOf? (line : List Char) : Option Nat :=
  let number := ((line.dropWhile (· != ' ')).drop 1).takeWhile Char.isDigit
  if "HTTP/1.".toList.isPrefixOf line && number.length == 3 then
    some (digitsValue number)
  else none

def header (line : List Char) : List Char × List Char :=
  ((line.takeWhile (· != ':')).map Char.toLower,
    trimSpaces ((line.dropWhile (· != ':')).drop 1))

/-- The lines of a head, each of which has an end. -/
def headLines : Nat → List UInt8 → List (List Char)
  | 0, _ => []
  | fuel + 1, head =>
      match splitAtMark? lineEnd head with
      | some (line, rest) => latinText line :: headLines fuel rest
      | none => [latinText head]

def Response.ofBytes? (bytes : List UInt8) : Option Response := do
  let (head, content) ← splitAtMark? (lineEnd ++ lineEnd) bytes
  match headLines head.length head with
  | [] => none
  | first :: rest =>
      let status ← statusOf? first
      return ⟨status, rest.map header, content⟩

def Response.header? (response : Response) (name : String) :
    Option (List Char) :=
  (response.headers.find? fun (given, _) => given == name.toList).map (·.2)

/-! ## Bodies -/

/-- The chunks of a body, each after its size, up to one without any bytes. -/
def joinChunks? : Nat → List UInt8 → Option (List UInt8)
  | 0, _ => none
  | fuel + 1, content => do
      let (sizeLine, rest) ← splitAtMark? lineEnd content
      let digits := (latinText sizeLine).takeWhile isHexDigit
      let size := hexValue digits
      if digits.isEmpty || rest.length < size then none
      else if size = 0 then some []
      else
        return rest.take size ++
          (← joinChunks? fuel (rest.drop (size + lineEnd.length)))

/-- A body has chunks, or a length, or lasts until the connection ends. -/
def Response.body? (response : Response) : Option (List UInt8) :=
  let content := response.content
  match response.header? "transfer-encoding",
      response.header? "content-length" with
  | some _, _ => joinChunks? (content.length + 1) content
  | none, some length =>
      let size := digitsValue length
      if !length.all Char.isDigit || content.length < size then none
      else some (content.take size)
  | none, none => some content

def exchangeOf (bytes : List UInt8) : Exchange :=
  match Response.ofBytes? bytes with
  | some response =>
      match response.body? with
      | some body => .answered response.status (Text.readLossy body)
      | none => .silent .brokenOff
  | none => .silent .brokenOff

end MeterWatch.Http
