import BoxPuzzle.Headless
import BoxPuzzle.Solver.Transport
import Std.Async.DNS
import Std.Async.TCP
import Std.Async.Timer

/-!
# The command line

Everything that is read or written: the environment, a file `.env` in the working directory or
above it, the document, the exchange with the server, and the two output streams.
-/

namespace BoxPuzzle

open Std

/-- The variables that the program looks at. -/
def variableNames : List String :=
  ["SOLVER_URL", "SOLVER_TIMEOUT_SECS", "CONTAINER_WIDTH_PX", "GRID_CONTAINER_ID",
    "GRID_CELL_CLASS", "RUST_LOG"]

/-- The text of the nearest `.env` file. -/
def readEnvFile : IO String := do
  let depth := (← IO.currentDir).components.length
  for level in List.range depth do
    let path := String.join (List.replicate level "../") ++ ".env"
    if let some text ← (some <$> IO.FS.readFile path) <|> pure none then return text
  return ""

/-- The variables that are set, and those of the file. -/
def readEnvironment : IO Environment := do
  let set ← variableNames.filterMapM fun name => do
    return (← IO.getEnv name).map fun value => (name, value)
  return Environment.withFile ⟨set⟩ (← readEnvFile)

/-- The bytes of a source, if it can be read. -/
def readSource : Source → IO (Option ByteArray)
  | .standardInput => do
    let stdin ← IO.getStdin
    (some <$> stdin.readBinToEnd) <|> pure none
  | .file path => (some <$> IO.FS.readBinFile path) <|> pure none

/-- Everything that the server sends until it closes the connection. -/
partial def receiveAll (socket : Async.TCP.Socket.Client) (received : ByteArray) :
    Async.Async ByteArray := do
  match ← socket.recv? 65536 with
  | some bytes => receiveAll socket (received ++ bytes)
  | none => return received

/-- Sends a request and waits for the reply. -/
def sendTo (address : Address) (r : HttpRequest) : Async.Async ServerReply := do
  let hosts ← Async.DNS.getAddrInfo address.host (decimalText address.socket)
  let some ip := hosts[0]? | throw (IO.userError "unknown host")
  let socket ← Async.TCP.Socket.Client.mk
  let number := UInt16.ofNat address.socket
  socket.connect (match ip with
    | .v4 ip => .v4 ⟨ip, number⟩
    | .v6 ip => .v6 ⟨ip, number⟩)
  socket.send (r.message address).toUTF8
  let bytes ← receiveAll socket .empty
  return ((String.fromUTF8? bytes).bind ServerReply.ofMessage?).getD .unreachable

/-- One exchange with the server, within a number of seconds if there is a limit. -/
def exchange (timeout : Option Nat) (r : HttpRequest) : IO ServerReply := do
  let some address := Address.ofUrl? r.url | return .unreachable
  let attempt : Async.Async ServerReply := sendTo address r <|> pure .unreachable
  let limited : Async.Async ServerReply := match timeout with
    | none => attempt
    | some seconds => do
      let late : Async.Async ServerReply := do
        Async.sleep (.ofNat (1000 * seconds))
        return .unreachable
      Async.Async.race attempt late
  limited.block <|> pure .unreachable

/-- Runs the program and tells its exit code. -/
def runProgram (args : List String) : IO UInt32 := do
  let environment ← readEnvironment
  let source := Source.ofArgument args.head?
  let now ← IO.monoMsNow
  let finished : Finished ← match Headless.prepare environment source (← readSource source) with
    | .error e => pure { failure := some e }
    | .ok p =>
      -- a run without a server tells what there is to send
      match (Headless.finish p .unreachable now).sent with
      | [] => pure (Headless.finish p .unreachable now)
      | r :: _ => pure (Headless.finish p (← exchange p.settings.timeout r) now)
  (← IO.getStdout).putStr finished.printed
  match finished.failure with
  | none => return 0
  | some e =>
    IO.eprintln ("Error: " ++ e.message)
    if let some cause := e.cause? then IO.eprintln ("\nCaused by:\n    " ++ cause)
    return 1

end BoxPuzzle

/-- The program: its only argument is the path of a document. -/
def main (args : List String) : IO UInt32 := BoxPuzzle.runProgram args
