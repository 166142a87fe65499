import ContractProject.Error
import ContractProject.Json.Value
import ContractProject.Path

/-!
Programs and the replacement of their imports. A program keeps its outline and its unprocessed form,
in which addresses are turned back into names, beside its code. A change replaces the code first;
only if the new code has an outline do the other two follow.
-/

namespace ContractProject.Cadence

open Text (Edit)

structure Program where
  code : List Char
  args : List Json
  location : String
  outline : Outline
  /-- The code with every address import written as imports by name. -/
  unprocessed : List Char
  deriving BEq, Repr

/-- An import by name alone. -/
def bareImport (name : String) : List Char := "import \"".toList ++ name.toList ++ ['"']

/-- Imports by name alone of all names that an import binds, one a line. -/
def Import.bare (i : Import) : List Char :=
  List.intercalate ['\n'] (i.names.map fun n => bareImport n.localName)

def Import.isAddress (i : Import) : Bool :=
  match i.location with
  | .address _ => true
  | _ => false

/-- The location of an import that has yet to be resolved. -/
def Import.path? (i : Import) : Option String :=
  match i.location with
  | .string location => some location
  | _ => none

/-- The code with address imports turned back into imports by name. -/
def unprocessedCode (code : List Char) (outline : Outline) : List Char :=
  Text.splice code ((outline.imports.filter Import.isAddress).map fun i => ⟨i.span, i.bare⟩)

namespace Program

def ofCode (code : List Char) (args : List Json) (location : String) : Except Error Program :=
  match Outline.parse code with
  | .ok outline => .ok ⟨code, args, location, outline, unprocessedCode code outline⟩
  | .error fault => .error (.program location (.outline fault))

def parse (code : Bytes) (args : List Json) (location : String) : Except Error Program :=
  match Utf8.decode code with
  | .ok code => ofCode code args location
  | .error fault => .error (.program location (.encoding fault))

/-- The name of the only declaration, which must be a contract or contract interface. -/
def name (p : Program) : Except Error String :=
  match p.outline.declarations with
  | [] => .error (.program p.location .noContract)
  | [d] =>
    if d.kind = .contract then .ok d.name else .error (.program p.location .noContract)
  | _ => .error (.program p.location .severalDeclarations)

/-- The locations of the imports that have yet to be resolved. -/
def unresolved (p : Program) : List String := p.outline.imports.filterMap Import.path?

/-- The imports of names from an address. -/
def addressImports (p : Program) : List Import :=
  p.outline.imports.filter fun i => i.isAddress && !i.names.isEmpty

/-- Each name that is imported from an address, with that address. -/
def deployedImports (p : Program) : List (Address × String) :=
  p.addressImports.flatMap fun i =>
    match i.location with
    | .address a => i.names.map fun n => (a, n.name)
    | _ => []

/-- Puts new code in place and, if it has an outline, takes over that and its unprocessed form. -/
def withCode (p : Program) (code : List Char) : Program × Except Error Unit :=
  match Outline.parse code with
  | .ok outline =>
    ({ p with code, outline, unprocessed := unprocessedCode code outline }, .ok ())
  | .error fault => ({ p with code }, .error (.program p.location (.outline fault)))

/-- The names of an import of `location` once it comes from an address. A canonical name other than
the import's own takes its place, and the own name becomes the local one. -/
def resolvedNames (location : String) (canonical : Option String) (names : List ImportedName) :
    List Char :=
  let own := Path.importName location
  match canonical.filter (· ≠ own), names with
  | some canonical, [] => (canonical ++ " as " ++ own).toList
  | some canonical, [⟨name, none⟩] => (canonical ++ " as " ++ name).toList
  | none, [] => own.toList
  | _, names => List.intercalate [',', ' '] (names.map fun n => n.toText.toList)

def resolvedImport (location : String) (address : Address) (canonical : Option String)
    (names : List ImportedName) : List Char :=
  "import ".toList ++ resolvedNames location canonical names ++ " from ".toList
    ++ address.toLiteral.toList

/-- Replaces every import of `location` by an import from `address`. -/
def replaceImport (p : Program) (location : String) (address : Address)
    (canonical : Option String) : Program × Except Error Unit :=
  let edits : List Edit := (p.outline.imports.filter (·.path? = some location)).map fun i =>
    ⟨i.span, resolvedImport location address canonical i.names⟩
  if edits.isEmpty then (p, .ok ()) else p.withCode (Text.splice p.code edits)

/-- Recomputes the unprocessed form from the code and the outline. -/
def refreshUnprocessed (p : Program) : Program :=
  { p with unprocessed := unprocessedCode p.code p.outline }

/-- Makes the unprocessed form the code. -/
def convertImports (p : Program) : Program × Except Error Unit := p.withCode p.unprocessed

/-- What an import is written as while contracts are developed locally, if that differs. -/
def developmentImport? (i : Import) : Option (List Char) :=
  match i.location, i.names with
  | .address _, _ => some i.bare
  | .string _, [] => none
  | .string _, [single] => some (bareImport single.localName)
  | .string location, _ => some (bareImport (Path.importName location))
  | .identifier _, _ => none

/-- The code with every address and path import written as an import by name. -/
def developmentCode (p : Program) : List Char :=
  Text.splice p.code
    (p.outline.imports.filterMap fun i => (developmentImport? i).map fun text => ⟨i.span, text⟩)

end Program

end ContractProject.Cadence
