import ContractProject.Text.Utf8

/-!
Where files are kept, and why operations on them fail. Paths are given as texts; each kind of
storage has its own view of which of them lead to one file.
-/

namespace ContractProject

/-- Why a file operation fails. -/
inductive FileFault where
  /-- The store holds no such file. -/
  | absent
  /-- The store refuses to write there. -/
  | denied
  /-- A part of the path does not exist on disk. -/
  | noEntry
  | fileExists
  | notDirectory
  | isDirectory
  | nameTooLong
  | nulInName
  deriving DecidableEq, Repr

def FileFault.message : FileFault → String
  | .absent => "file not found"
  | .denied => "permission denied"
  | .noEntry => "No such file or directory (os error 2)"
  | .fileExists => "File exists (os error 17)"
  | .notDirectory => "Not a directory (os error 20)"
  | .isDirectory => "Is a directory (os error 21)"
  | .nameTooLong => "File name too long (os error 36)"
  | .nulInName => "file name contained an unexpected NUL byte"

class Storage (σ : Type) where
  read : σ → String → Except FileFault Bytes
  /-- Puts contents at a path, in place of what a file there holds. -/
  write : σ → String → Bytes → Except FileFault σ
  /-- Creates a directory and those above it. What was created before a failure stays. -/
  createDirectories : σ → String → σ × Except FileFault Unit
  /-- Something is at this path. -/
  contains : σ → String → Bool

end ContractProject
