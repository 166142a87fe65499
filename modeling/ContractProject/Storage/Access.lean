import ContractProject.Error
import ContractProject.Path
import ContractProject.Storage.Basic

/-!
Reading and writing files, with failures that tell the path.
-/

namespace ContractProject.Storage

variable {σ : Type} [Storage σ]

def readAt (s : σ) (path : String) : Except Error Bytes :=
  match Storage.read s path with
  | .ok contents => .ok contents
  | .error fault => .error (.file path fault)

def writeAt (s : σ) (path : String) (contents : Bytes) : σ × Except Error Unit :=
  match Storage.write s path contents with
  | .ok s => (s, .ok ())
  | .error fault => (s, .error (.file path fault))

/-- Creates the directory that a path is in. -/
def createParent (s : σ) (path : String) : σ × Except Error Unit :=
  match (Path.parent? path).filter (· ≠ "") with
  | none => (s, .ok ())
  | some parent =>
    match Storage.createDirectories s parent with
    | (s, .ok ()) => (s, .ok ())
    | (s, .error fault) => (s, .error (.file parent fault))

/-- Writes a file into a directory that is created if it is missing. -/
def writeWithParent (s : σ) (path : String) (contents : Bytes) : σ × Except Error Unit :=
  match createParent s path with
  | (s, .ok ()) => writeAt s path contents
  | (s, .error e) => (s, .error e)

/-- Writes a file unless something is at its path already. -/
def writeOnce (s : σ) (path : String) (contents : Bytes) : σ × Except Error Unit :=
  if Storage.contains s path then (s, .ok ()) else writeWithParent s path contents

end ContractProject.Storage
