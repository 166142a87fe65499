import ContractProject.Collection
import ContractProject.Path
import ContractProject.Storage.Basic

/-!
A working directory with files and directories, walked step by step. Every step needs a directory to
start from. Nothing is known of what lies outside the working directory but the directories above
it, so that walks can lead through them.
-/

namespace ContractProject

inductive DiskEntry where
  | directory
  | file (contents : Bytes)
  deriving BEq, Repr

/-- Entries by the steps that lead to them, the last step first. -/
structure Disk where
  entries : Collection (List String × DiskEntry)
  deriving BEq, Repr

namespace Disk

def parentStep : String := ".."

def rootStep : String := "/"

/-- The working directory, one above it, or the root. -/
def isKnownDirectory (place : List String) : Bool :=
  place.all (· = parentStep) || place = [rootStep]

def entry? (d : Disk) (place : List String) : Option DiskEntry :=
  if isKnownDirectory place then some .directory else (d.entries.get? place).map Prod.snd

/-- How many bytes the name of an entry may have. -/
def nameLimit : Nat := 255

/-- How many bytes a whole path may have. -/
def pathLimit : Nat := 4095

/-- One step from a place, which leads up for `..` and else down. -/
def step (d : Disk) (place : List String) (name : String) : Except FileFault (List String) :=
  match d.entry? place with
  | none => .error .noEntry
  | some (.file _) => .error .notDirectory
  | some .directory =>
    if nameLimit < name.utf8ByteSize then .error .nameTooLong
    else if name ≠ parentStep then .ok (name :: place)
    else if place = [rootStep] then .ok place
    else if place.all (· = parentStep) then .ok (parentStep :: place)
    else .ok place.tail

def walk (d : Disk) (place : List String) : List String → Except FileFault (List String)
  | [] => .ok place
  | name :: names =>
    match d.step place name with
    | .ok place => d.walk place names
    | .error fault => .error fault

/-- A path as the steps to walk, and whether it insists on leading to a directory. -/
structure Itinerary where
  start : List String
  names : List String
  toDirectory : Bool
  deriving DecidableEq, Repr

def Itinerary.ofPath (path : String) : Except FileFault Itinerary :=
  let text := path.toList
  if text.contains '\x00' then .error .nulInName
  else if text.isEmpty then .error .noEntry
  else if pathLimit < path.utf8ByteSize then .error .nameTooLong
  else
    let pieces := Path.pieces text
    .ok {
      start := if Path.isRooted text then [rootStep] else []
      names := (pieces.filter Path.isStep).map String.ofList
      toDirectory := !(pieces.getLast?.any Path.isStep) }

/-- The place that a path leads to. All places on the way must be directories. -/
def locate (d : Disk) (path : String) : Except FileFault (Itinerary × List String) :=
  match Itinerary.ofPath path with
  | .error fault => .error fault
  | .ok it => (d.walk it.start it.names).map fun place => (it, place)

def read (d : Disk) (path : String) : Except FileFault Bytes :=
  match d.locate path with
  | .error fault => .error fault
  | .ok (it, place) =>
    match d.entry? place with
    | none => .error .noEntry
    | some .directory => .error .isDirectory
    | some (.file contents) => if it.toDirectory then .error .notDirectory else .ok contents

def put (d : Disk) (place : List String) (entry : DiskEntry) : Disk :=
  ⟨d.entries.insert (place, entry)⟩

def write (d : Disk) (path : String) (contents : Bytes) : Except FileFault Disk :=
  match d.locate path with
  | .error fault => .error fault
  | .ok (it, place) =>
    if it.toDirectory || d.entry? place == some .directory then .error .isDirectory
    else .ok (d.put place (.file contents))

/-- Walks on from a place and creates the directories that are missing. -/
def createAlong (d : Disk) (place : List String) : List String → Disk × Except FileFault Unit
  | [] => (d, .ok ())
  | name :: names =>
    match d.step place name with
    | .error fault => (d, .error fault)
    | .ok place =>
      match d.entry? place with
      | some .directory => d.createAlong place names
      | some (.file _) => (d, .error (if names.isEmpty then .fileExists else .notDirectory))
      | none => (d.put place .directory).createAlong place names

def createDirectories (d : Disk) (path : String) : Disk × Except FileFault Unit :=
  if path.isEmpty then (d, .ok ())
  else
    match Itinerary.ofPath path with
    | .error fault => (d, .error fault)
    | .ok it => d.createAlong it.start it.names

def contains (d : Disk) (path : String) : Bool :=
  match d.locate path with
  | .error _ => false
  | .ok (it, place) =>
    match d.entry? place with
    | none => false
    | some .directory => true
    | some (.file _) => !it.toDirectory

instance : Storage Disk := ⟨read, write, createDirectories, contains⟩

/-- An empty working directory. -/
def empty : Disk := ⟨.empty⟩

/-- A working directory with these files, and the directories that they need. -/
def ofFiles (files : List (String × Bytes)) : Disk :=
  files.foldl
    (fun d (path, contents) =>
      let place := ((Path.pieces path.toList).filter Path.isStep).map String.ofList
      (d.createAlong [] place.dropLast).1.put place.reverse (.file contents))
    .empty

/-- The path of a place. -/
def pathOf (place : List String) : String :=
  match place.reverse with
  | [] => Path.here
  | start :: names =>
    if start = rootStep then rootStep ++ String.intercalate "/" names
    else String.intercalate "/" (start :: names)

/-- All files with their paths. -/
def files (d : Disk) : List (String × Bytes) :=
  d.entries.toList.filterMap fun (place, entry) =>
    match entry with
    | .file contents => some (pathOf place, contents)
    | .directory => none

/-- The places that a walk along a path comes through, if nothing is in its way. -/
def placesAlong (path : String) : List (List String) :=
  match Itinerary.ofPath path with
  | .error _ => []
  | .ok it =>
    (List.range it.names.length).map fun i => (it.names.take (i + 1)).reverse ++ it.start

end Disk

end ContractProject
