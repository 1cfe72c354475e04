import MeterWatch.Http.Message
import MeterWatch.Program
import Std.Async.DNS
import Std.Async.TCP
import Std.Async.Timer

/-!
# The command line

Files, sockets, clocks and the console.  What to read, send, wait for and write
is decided by `Program`.
-/

namespace MeterWatch.Main

open Std.Async (Async)
open Std.Net (IPAddr IPv4Addr IPv6Addr SocketAddress)

/-! ## Files -/

def isThere (path : String) : IO Bool := do
  try
    let _ ← IO.FS.realPath path
    return true
  catch _ => return false

def readFault (path : String) (fault : IO.Error) : IO ReadFault := do
  match fault with
  | .noFileOrDirectory .. => return .notFound
  | .inappropriateType _ _ details =>
      return if details.toLower == "is a directory" then .isDirectory
        else .notDirectory
  | other =>
      let message := match other with
        | .permissionDenied .. => "Permission denied (os error 13)"
        | _ => toString other
      return if ← isThere path then .refused message
        else .unreachable message

def readFile (path : String) : IO ReadResult := do
  try
    let bytes ← IO.FS.readBinFile path
    return match String.fromUTF8? bytes with
      | some text => .ok text
      | none => .error .notText
  catch fault => return .error (← readFault path fault)

/-! ## Console -/

def recordLine (time : String) (record : Record) : String :=
  time ++ " " ++ padLeft 5 record.level.name.toUpper ++ " " ++
    record.writer.target ++ ": " ++ record.message

def writeRecords (records : List Record) : IO Unit := do
  let output ← IO.getStdout
  for record in records do
    let now := (← Std.Time.Timestamp.now).toSecondsSinceUnixEpoch.val
    let time := match Instant.ofSeconds? now with
      | some instant => Zone.utc.format instant
      | none => ""
    output.putStrLn (recordLine time record)
  output.flush

/-! ## Connections -/

def piece (pieces : List Nat) (index : Nat) : UInt16 :=
  UInt16.ofNat (pieces.getD index 0)

def lookUp (host : Url.Host) : Async (Option IPAddr) := do
  match host with
  | .ipv4 address =>
      let part (shift : Nat) := UInt8.ofNat (address / Nat.pow 256 shift % 256)
      return some (.v4 (.ofParts (part 3) (part 2) (part 1) (part 0)))
  | .ipv6 pieces =>
      let part := piece pieces
      return some (.v6 (.ofParts (part 0) (part 1) (part 2) (part 3) (part 4)
        (part 5) (part 6) (part 7)))
  | .named name =>
      try
        return (← Std.Async.DNS.getAddrInfo (String.ofList name) "")[0]?
      catch _ => return none

partial def receiveAll (socket : Std.Async.TCP.Socket.Client)
    (received : ByteArray) : Async ByteArray := do
  match ← socket.recv? 65536 with
  | some bytes => receiveAll socket (received ++ bytes)
  | none => return received

def connectFault (fault : IO.Error) : SilenceCause :=
  match fault with
  | .noSuchThing .. => .refused
  | .timeExpired .. => .timedOut
  | _ => .networkUnreachable

def converse (address : IPAddr) (port : UInt16) (request : String) :
    Async Exchange := do
  let socket ← Std.Async.TCP.Socket.Client.mk
  let target : SocketAddress := match address with
    | .v4 addr => .v4 ⟨addr, port⟩
    | .v6 addr => .v6 ⟨addr, port⟩
  try socket.connect target
  catch fault => return .silent (connectFault fault)
  try
    socket.send request.toUTF8
    return Http.exchangeOf (← receiveAll socket .empty).toList
  catch _ => return .silent .brokenOff

/-- Timers do not run longer. -/
def longestPause : Duration := .ofMilliseconds 0x20000000000000

def pause (duration : Duration) : Async Unit :=
  let nanoseconds := min duration.nanoseconds longestPause.nanoseconds
  let milliseconds := nanoseconds / Duration.nanosPerMillisecond
  Std.Async.sleep (.ofNat (milliseconds + 1))

/-- Only plain connections can be made, so others are as if they had failed. -/
def askServer (url : Url) : Async Exchange := do
  match url.authority with
  | some authority =>
      if url.scheme != "http".toList then return .silent .brokenOff
      else
        match ← lookUp authority.host with
        | some address =>
            let port := authority.port.getD 80
            converse address (UInt16.ofNat port) (Http.requestText url)
        | none => return .silent .unknownName
  | none => return .silent .unknownName

instance : Inhabited Exchange := ⟨.silent .timedOut⟩

def exchange (timeout : Duration) (url : Url) : Async Exchange :=
  Async.race (askServer url) do
    pause timeout
    return .silent .timedOut

/-! ## Loops -/

def writeEmissions (setup : Program.Setup) (emissions : List Emission) :
    IO Unit :=
  writeRecords (emissions.flatMap setup.emissionRecords)

partial def pollUntilPaused (setup : Program.Setup) (session : Session) :
    Async Session := do
  let url := LogServer.requestUrl setup.logUrl session.cursor
  let exchange ← exchange setup.settings.requestTimeout url
  let result := session.poll fun cursor =>
    LogServer.reply setup.logUrl cursor exchange
  writeEmissions setup result.emissions
  match result.delay with
  | some delay =>
      pause delay
      pollUntilPaused setup result.session
  | none => return result.session

def poll (setup : Program.Setup) : Async Unit := do
  let session := setup.session
  writeEmissions setup [.logged session.startRecord]
  let final ← pollUntilPaused setup session
  writeEmissions setup [.logged final.stopRecord]

partial def refreshForever (setup : Program.Setup) (board : ChartBoard) :
    Async Unit := do
  let mut board := board
  for unit in ChartUnit.all do
    let url := ChartSet.requestUrl board.source unit
    let exchange ← exchange setup.settings.requestTimeout url
    let round := board.render unit exchange
    writeRecords (round.emissions.flatMap setup.chartRecords)
    board := round.board
  pause setup.refreshInterval
  refreshForever setup board

def runSetup (setup : Program.Setup) : Async Unit :=
  match setup.chartUrl with
  | some source =>
      Async.race (poll setup) (refreshForever setup (.new source))
  | none => poll setup

end MeterWatch.Main

open MeterWatch in
def main (arguments : List String) : IO UInt32 := do
  let paths := arguments.take 1 ++ Settings.searchPaths
  let contents ← paths.mapM fun path => return (path, ← Main.readFile path)
  let start := Program.start
    { arguments, logFilter := ← IO.getEnv "RUST_LOG"
      read := fun path => (contents.lookup path).getD (.error .notFound) }
  Main.writeRecords start.records
  match start.setup with
  | .ok setup =>
      (Main.runSetup setup).block
      return 0
  | .error message =>
      (← IO.getStderr).putStrLn ("Error: " ++ message)
      return 1
