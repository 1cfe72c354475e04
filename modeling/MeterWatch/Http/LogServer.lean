import MeterWatch.Batch.Body
import MeterWatch.Http.Exchange

/-!
# The log server

The log is a sibling of whatever the base url names as a directory.  Each
request tells the server where to continue.
-/

namespace MeterWatch

/-! ## Urls -/

inductive AddressFault where
  | invalidBase (text : String)
  /-- The base has no path that could be continued. -/
  | rootlessBase
  | invalidChart (text : String)
  deriving DecidableEq, Repr

def AddressFault.message : AddressFault → String
  | invalidBase text => "invalid base url: " ++ text
  | rootlessBase => "failed to build log url"
  | invalidChart text => "invalid chart url: " ++ text

def slashTerminated (text : List Char) : List Char :=
  if text.getLast? = some '/' then text else text ++ ['/']

def logUrl (baseUrl : String) : Except AddressFault Url :=
  match Url.ofText? (slashTerminated baseUrl.toList) with
  | none => .error (.invalidBase baseUrl)
  | some base =>
      match base.sibling? "log".toList with
      | none => .error .rootlessBase
      | some url => .ok url

namespace LogServer

/-- A request without a cursor asks for the log from its start. -/
def requestUrl (logUrl : Url) : Option Cursor → Url
  | none => logUrl
  | some cursor => logUrl.addQuery "ts".toList cursor.text.toList

/-! ## Replies -/

/-- The body without a byte order mark in front. -/
def withoutMark (body : String) : String :=
  match body.toList with
  | '\ufeff' :: rest => String.ofList rest
  | _ => body

def isErrorStatus (status : Nat) : Bool := 400 ≤ status && status < 600

/-- Any response that is not an error is read, also a redirection. -/
def readResponse (status : Nat) (body : String) : Reply :=
  if isErrorStatus status then .error (.status status)
  else Batch.ofBody (withoutMark body)

def reply (logUrl : Url) (cursor : Option Cursor) (exchange : Exchange) :
    Reply :=
  let url := requestUrl logUrl cursor
  match exchange.response? url with
  | .ok (status, body) => readResponse status body
  | .error causes => .error (.network (causes.headD ""))

end LogServer

end MeterWatch
