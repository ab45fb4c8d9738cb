import CsvCleaning.Command.Execution
import CsvCleaning.Http.Replay
import CsvCleaning.Http.Wire
import Std.Async.DNS
import Std.Async.TCP
import Std.Async.Timer

/-!
# The command line

All that is done here is input and output: the files that a command may look at are read into a
tree, the command is carried out with the answers known so far until it needs no further one, and
what it has changed in the tree is written back. Services are spoken to over plain connections.
-/

open CsvCleaning

namespace CsvCleaning.Main

/-- The path of a location. -/
def pathOf (place : Location) : String :=
  "/" ++ "/".intercalate (place.map Bytes.readUtf8Lossy)

/-- What stands at a location. -/
def look (place : Location) : IO (Option Node) := do
  try
    let path ← IO.FS.realPath (pathOf place)
    if ← path.isDir then return some .directory
    return some (.file (← IO.FS.readBinFile path).toList)
  catch _ => return none

/-- Take what stands along names into a tree. -/
def takeAlong (tree : FileTree) : Location → List Bytes → IO FileTree
  | _, [] => return tree
  | here, name :: rest => do
    if name = [] ∨ name = Path.dot then takeAlong tree here rest
    else if name = Path.dotDot then takeAlong tree here.dropLast rest
    else
      let there := here ++ [name]
      match ← look there with
      | some .directory => takeAlong (tree.put there .directory) there rest
      | some node => return tree.put there node
      | none => return tree

/-- Take what stands along a path into a tree. -/
def takePath (cwd : Location) (tree : FileTree) (path : Path) : IO FileTree :=
  takeAlong tree (if path.isAbsolute then [] else cwd) path.parts

/-- The paths at which settings are looked for. -/
def settingsPaths (i : Invocation) (cwd : Location) : List Path :=
  let files := [i.settingsPath, Settings.defaultPath]
  let added := [SettingsForm.toml, SettingsForm.json].map fun form => Bytes.utf8 form.extension
  files ++ files.flatMap (fun file => added.map (file ++ ·)) ++
    (List.range (cwd.length + 1)).map fun n =>
      Path.slash :: Path.ofParts (cwd.take n ++ [Settings.variableFileName])

/-- The other paths at which a command looks. -/
def commandPaths (settings : Settings) : Command → List Path
  | .run file _ _ _ _ => [file, Workplace.downloadDir settings]
  | .download fileId output =>
    let dir := output.getD (Workplace.downloadDir settings)
    [dir, Saving.reportPath dir fileId settings.view.reportEnding]
  | .script _ output => output.toList
  | .health | .status _ | .result _ _ _ => []

/-- Write what a command has changed, directories before what they hold. -/
def writeBack (before after : FileTree) : IO Unit := do
  let changed := after.nodes.filter fun e => before.node? e.1 ≠ some e.2
  for (place, node) in changed.mergeSort fun a b => a.1.length ≤ b.1.length do
    match node with
    | .directory => IO.FS.createDirAll (pathOf place)
    | .file bytes => IO.FS.writeBinFile (pathOf place) (ByteArray.mk bytes.toArray)

/-- The variables of the environment. -/
def environment : IO Variables := do
  try
    let bytes ← IO.FS.readBinFile "/proc/self/environ"
    let entries := Text.splitWhere (· == 0) bytes.toList
    return entries.filterMap fun entry => do
      let text ← Bytes.readUtf8? entry
      match Text.cutAt (· == '=') text.toList with
      | (name, some value) => some (String.ofList name, String.ofList value)
      | (_, none) => none
  catch _ => return []

open Std Async in
/-- The addresses of a host with a port. -/
def resolve (host : String) (port : UInt16) : Async (List Net.SocketAddress) := do
  let bare := String.ofList (host.toList.filter fun c => c != '[' && c != ']')
  let found ← DNS.getAddrInfo bare (toString port)
  return found.toList.map fun
    | .v4 address => .v4 ⟨address, port⟩
    | .v6 address => .v6 ⟨address, port⟩

open Std Async in
/-- Take all that comes until the connection is closed. -/
partial def receive (socket : TCP.Socket.Client) (taken : ByteArray) : Async ByteArray := do
  match ← socket.recv? 65536 with
  | some bytes => receive socket (taken ++ bytes)
  | none => return taken

open Std Async in
/-- Send a request to an address and take what comes back. -/
def converse (request : Request) (address : Net.SocketAddress) : Async Exchange := do
  let socket ← TCP.Socket.Client.mk
  socket.connect address
  socket.send (ByteArray.mk (Wire.write request).toArray)
  let taken ← receive socket ByteArray.empty
  return Wire.read taken.toList

open Std Async in
/-- Try the addresses in turn. -/
def converseAny (request : Request) : List Net.SocketAddress → Async Exchange
  | [] => return .noAnswer
  | address :: rest => do
    try converse request address
    catch _ => converseAny request rest

open Std Async in
/-- Carry out a request, for a number of seconds at most. -/
def exchange (seconds : Nat) (request : Request) : IO Exchange := do
  match request.url.scheme with
  | .https => return .noAnswer
  | .http =>
    let port := request.url.port.getD request.url.scheme.port
    let answered : Async (Option Exchange) := do
      try return some (← converseAny request (← resolve request.url.host port.toUInt16))
      catch _ => return some .noAnswer
    let elapsed : Async (Option Exchange) := do
      sleep (Std.Time.Millisecond.Offset.ofNat (seconds * 1000))
      return none
    let first ← (Async.race answered elapsed).block
    return first.getD .noAnswer

/-- Carry out what the user asks for, with answers that are known, until no more are needed. -/
partial def conduct (i : Invocation) (seconds : Nat) (w : Workplace Replay)
    (answers : List Exchange) : IO (Effect Replay) := do
  let effect := i.execute w (Replay.ofAnswers answers)
  match effect.network.pending with
  | none => return effect
  | some request =>
    let start ← IO.monoNanosNow
    let answer ← exchange seconds request
    let nanos := (← IO.monoNanosNow) - start
    conduct i seconds { w with nanos } (answers ++ [answer])

/-- A text that parts forms. -/
def randomBoundary : IO String := do
  let digits ← (List.range 32).mapM fun _ => IO.rand 0 15
  return String.ofList (digits.map Nat.digitChar)

/-- Carry out what the user asks for. -/
def perform (i : Invocation) (vars : Variables) : IO UInt32 := do
  let cwd := (Path.ofText (← IO.currentDir).toString).steps
  let tree ← takeAlong .empty [] cwd
  let tree ← (settingsPaths i cwd).foldlM (takePath cwd) tree
  let now := (← Std.Time.Timestamp.now).toSecondsSinceUnixEpoch.val
  let w : Workplace Replay :=
    { environment := vars, tree, cwd, network := Replay.network, boundary := ← randomBoundary, now,
      nanos := 0 }
  let settings := match i.settings w with
    | .ok settings => settings
    | .error _ => .builtIn
  let tree ← (commandPaths settings i.command).foldlM (takePath cwd) tree
  let effect ← conduct i settings.service.timeoutSeconds { w with tree } []
  IO.print effect.output
  writeBack tree effect.tree
  IO.eprint effect.errors
  return effect.code.toUInt32

end CsvCleaning.Main

/-- Carry out a command line. -/
def main (args : List String) : IO UInt32 := do
  let vars ← Main.environment
  match Invocation.read vars args with
  | .ok i => Main.perform i vars
  | .error r => do
    IO.print r.output
    if r = .misuse then IO.eprint (String.join (Refusal.usage.map (· ++ "\n")))
    return r.code.toUInt32
