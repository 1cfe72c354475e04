import MeterWatch.Url.Reading

/-!
# Exchanges with a server

What comes of a request: a response, or a reason why there is none.
-/

namespace MeterWatch

/-- Why a server that was asked gave no response. -/
inductive SilenceCause where
  | networkUnreachable
  | refused
  /-- The name of the server is not known. -/
  | unknownName
  | timedOut
  /-- The connection ended before the response did. -/
  | brokenOff
  deriving DecidableEq, Repr

inductive Exchange where
  | silent (cause : SilenceCause)
  | answered (status : Nat) (body : String)
  deriving DecidableEq, Repr

namespace SilenceCause

def causes : SilenceCause → List String
  | networkUnreachable =>
      unconnected "tcp connect error" "Network is unreachable (os error 101)"
  | refused =>
      unconnected "tcp connect error" "Connection refused (os error 111)"
  | unknownName =>
      unconnected "dns error"
        "failed to lookup address information: Name or service not known"
  | timedOut => ["operation timed out"]
  | brokenOff => ["connection closed before message completed"]
where
  unconnected (step reason : String) : List String :=
    let failed := step ++ ": " ++ reason
    ["error trying to connect: " ++ failed, failed, reason]

end SilenceCause

namespace Exchange

/-- Requests are sent to web servers only. -/
def isSendable (url : Url) : Bool :=
  url.scheme == "http".toList || url.scheme == "https".toList

/-- User names and passwords are sent apart and never shown. -/
def withoutUser (url : Url) : Url :=
  { url with
    authority := url.authority.map fun authority =>
      { authority with username := [], password := none } }

/-- What failed for a url, then its causes, outermost first. -/
def failure (url : Url) (what : String) (causes : List String) :
    List String :=
  (what ++ " for url (" ++ toString (withoutUser url) ++ "): " ++
    causes.headD "") :: causes

def response? (exchange : Exchange) (url : Url) :
    Except (List String) (Nat × String) :=
  if isSendable url then
    match exchange with
    | .answered status body => .ok (status, body)
    | .silent cause =>
        .error (failure url "error sending request" cause.causes)
  else .error (failure url "builder error" ["URL scheme is not allowed"])

end Exchange

end MeterWatch
