import ContractProject.Collection
import ContractProject.Path
import ContractProject.Storage.Basic

/-!
Files in memory, found by their normalized paths. There are no directories, so creating one succeeds
wherever writing is allowed.
-/

namespace ContractProject

structure MemoryStorage where
  files : Collection (String × Bytes)
  /-- What must not be written: paths that normalize to one of these. -/
  denied : List String
  deriving BEq, Repr

namespace MemoryStorage

def ofFiles (files : List (String × Bytes)) (denied : List String) : MemoryStorage where
  files := .ofList (files.map fun (path, contents) => (Path.clean path, contents))
  denied

def get? (s : MemoryStorage) (path : String) : Option Bytes :=
  (s.files.get? (Path.clean path)).map Prod.snd

/-- Puts a file in place, whether or not writing it is allowed. -/
def put (s : MemoryStorage) (path : String) (contents : Bytes) : MemoryStorage :=
  { s with files := s.files.insert (Path.clean path, contents) }

def isDenied (s : MemoryStorage) (path : String) : Bool := s.denied.contains (Path.clean path)

instance : Storage MemoryStorage where
  read s path :=
    match s.get? path with
    | some contents => .ok contents
    | none => .error .absent
  write s path contents := if s.isDenied path then .error .denied else .ok (s.put path contents)
  createDirectories s path := (s, if s.isDenied path then .error .denied else .ok ())
  contains s path := (s.get? path).isSome

end MemoryStorage

end ContractProject
