import ContractProject.CommandLine.Run
import ContractProject.Http
import ContractProject.Storage.Disk
import Std.Async.DNS
import Std.Async.TCP

/-!
The program. A command is run on what is known of the disk and the web; when its outcome hangs on a
file or an answer that is not known yet, that is looked up and the command run anew. Only what the
last run changed is written.
-/

namespace ContractProject.Shell

/-- What is known of the world. -/
structure Known where
  disk : Disk
  paths : List String
  answers : List (Url × Option AccessNode.Response)

/-- Notes what is at a place on the disk. -/
def lookAt (d : Disk) (place : List String) : IO Disk := do
  match ← (IO.FS.readBinFile (Disk.pathOf place)).toBaseIO with
  | .ok contents => return d.put place (.file contents.toList)
  | .error (.inappropriateType ..) =>
    return if Disk.isKnownDirectory place then d else d.put place .directory
  | .error (.noFileOrDirectory ..) => return d
  | .error e => throw e

def lookUp (known : Known) (path : String) : IO Known := do
  let disk ← (Disk.placesAlong path).foldlM lookAt known.disk
  return { known with disk, paths := path :: known.paths }

open Std.Net Std.Async in
def addresses (host : Url.Host) (number : UInt16) : IO (List SocketAddress) := do
  match host with
  | .ipv4 n =>
    let byte (i : Nat) : UInt8 := UInt8.ofNat (n >>> (8 * i))
    return [.v4 ⟨.ofParts (byte 3) (byte 2) (byte 1) (byte 0), number⟩]
  | .domain name =>
    let found ← (DNS.getAddrInfo (String.ofList name) (toString number)).block
    return found.toList.map fun
      | .v4 a => .v4 ⟨a, number⟩
      | .v6 a => .v6 ⟨a, number⟩
  | .ipv6 _ => return []

open Std.Async.TCP.Socket in
partial def receive (client : Client) (before : ByteArray) : IO ByteArray := do
  match ← (client.recv? 65536).block with
  | some bytes => receive client (before ++ bytes)
  | none => return before

open Std.Async.TCP.Socket in
/-- Asks a server, without encryption. -/
def ask (u : Url) (server : Std.Net.SocketAddress) : IO (Option AccessNode.Response) := do
  let client ← Client.mk
  (client.connect server).block
  (client.send (Http.requestText u).toUTF8).block
  return Http.response? (← receive client .empty).toList

/-- The answer of the first server that can be asked, none for encrypted connections. -/
def fetch (u : Url) : IO (Option AccessNode.Response) := do
  if u.secure then return none
  let number := UInt16.ofNat (u.portNumber.getD (Url.defaultPortNumber u.secure))
  match ← (addresses u.host number).toBaseIO with
  | .error _ => return none
  | .ok servers =>
    for server in servers do
      if let .ok answer ← (ask u server).toBaseIO then return answer
    return none

def web (known : Known) : AccessNode.Transport := fun u =>
  (known.answers.find? (·.1 = u)).bind Prod.snd

/-- The paths whose contents an outcome hangs on: the one it failed at, and those written to. -/
def pathsOf (known : Known) (o : Outcome Disk) : List String :=
  let failed :=
    match o.result with
    | .error fault => fault.path?.toList
    | .ok _ => []
  (failed ++ o.storage.files.map Prod.fst).filter (!known.paths.contains ·)

partial def runKnowing (i : Invocation) (known : Known) : IO (Known × Outcome Disk) := do
  let o := i.run (web known) known.disk
  let paths := pathsOf known o
  let urls := o.requests.filter fun u => !known.answers.any (·.1 = u)
  if paths.isEmpty && urls.isEmpty then return (known, o)
  let known ← paths.foldlM lookUp known
  let answers ← urls.mapM fun u => return (u, ← fetch u)
  runKnowing i { known with answers := known.answers ++ answers }

/-- Writes the files in which a disk differs from what was known. -/
def commit (known : Known) (after : Disk) : IO Unit := do
  let before := known.disk.files
  for (path, contents) in after.files do
    unless before.any fun (known, old) => known = path && old == contents do
      if let some parent := (Path.parent? path).filter (· ≠ "") then IO.FS.createDirAll parent
      IO.FS.writeBinFile path contents.toByteArray

def helpText : String :=
  let commands := CommandLine.groups.flatMap fun (group, verbs) =>
    verbs.map fun (verb, _) => s!"  {group} {verb}"
  String.intercalate "\n" ("Commands:" :: commands)

def versionText : String := "0.1.0"

def explain : Usage → IO UInt32
  | .help => do IO.println helpText; return 0
  | .version => do IO.println versionText; return 0
  | .helpOnMissing => do IO.eprintln helpText; return 2
  | .missingArgument => do IO.eprintln "error: a required argument is missing"; return 2
  | .unknownArgument => do IO.eprintln "error: unexpected argument"; return 2
  | .unknownCommand => do IO.eprintln "error: unrecognized command"; return 2
  | .noValue => do IO.eprintln "error: a value is missing"; return 2
  | .badValue => do IO.eprintln "error: a value is invalid"; return 2
  | .surplusValue => do IO.eprintln "error: unexpected value"; return 2
  | .repeated => do IO.eprintln "error: an argument is given twice"; return 2

end ContractProject.Shell

open ContractProject in
def main (words : List String) : IO UInt32 := do
  match Invocation.parse words with
  | .error usage => Shell.explain usage
  | .ok i =>
    let (known, o) ← Shell.runKnowing i ⟨.empty, [], []⟩
    Shell.commit known o.storage
    IO.println o.text
    return o.exitCode.toUInt32
