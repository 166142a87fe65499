/-!
Slash separated paths, handled as text. `clean` gives the normal form in which locations are
compared; `absolute` resolves an import against the file that holds it; `parent` and `join` follow
the file system's rules and keep the spelling of what they are given.
-/

namespace ContractProject.Path

/-- The pieces between separators; one more than there are separators. -/
def pieces : List Char → List (List Char)
  | [] => [[]]
  | c :: text =>
    if c = '/' then [] :: pieces text
    else
      match pieces text with
      | [] => [[c]]
      | piece :: rest => (c :: piece) :: rest

/-- A piece that names something: neither empty nor `.`. -/
def isStep (piece : List Char) : Bool := piece ≠ [] && piece ≠ ['.']

/-- A path as what it walks through: steps down by name and `..` upward, from the root or from
where one stands. -/
structure Route where
  rooted : Bool
  steps : List (List Char)
  deriving DecidableEq, Repr

def up : List Char := ['.', '.']

/-- The path of where one stands. -/
def here : String := "."

def isRooted (text : List Char) : Bool := text.head? == some '/'

def Route.ofText (text : List Char) : Route :=
  { rooted := isRooted text, steps := (pieces text).filter isStep }

/-- Adds a step to a normal walk, given backwards. Going up undoes a step down, and stays at the
root. -/
def Route.push (rooted : Bool) (walk : List (List Char)) (step : List Char) : List (List Char) :=
  if step ≠ up then step :: walk
  else
    match walk with
    | [] => if rooted then [] else [up]
    | last :: before => if last = up then up :: walk else before

def Route.normal (route : Route) : Route :=
  { route with steps := (route.steps.foldl (Route.push route.rooted) []).reverse }

def Route.toText (route : Route) : List Char :=
  if route.rooted then '/' :: List.intercalate ['/'] route.steps
  else if route.steps.isEmpty then ['.']
  else List.intercalate ['/'] route.steps

/-- Backslashes count as separators only once the path has been normalized. -/
def forwardSlashes (text : List Char) : List Char :=
  text.map fun c => if c = '\\' then '/' else c

def clean (path : String) : String :=
  String.ofList (forwardSlashes (Route.ofText path.toList).normal.toText)

/-- Drops separators and `.` pieces from the end of a path written backwards, but neither the root
nor a leading `.`. -/
def dropEmptyEnd : List Char → List Char
  | ['/'] => ['/']
  | '/' :: back => dropEmptyEnd back
  | ['.', '/'] => ['/']
  | '.' :: '/' :: back => dropEmptyEnd back
  | back => back

/-- The path of the directory that holds the last step, none for the root and the empty path. -/
def parent? (path : String) : Option String :=
  match dropEmptyEnd path.toList.reverse with
  | [] => none
  | ['/'] => none
  | back => some (String.ofList (dropEmptyEnd (back.dropWhile (· ≠ '/'))).reverse)

/-- `path` seen from `base`; a rooted path stays as it is. -/
def join (base path : String) : String :=
  if isRooted path.toList then path
  else if base.isEmpty || base.toList.getLast? == some '/' then base ++ path
  else base ++ "/" ++ path

/-- Where `relative`, written in the file at `importer`, leads. -/
def absolute (importer relative : String) : String :=
  clean (join ((parent? importer).getD "") relative)

/-- The extension of contract sources. -/
def sourceExtension : String := ".cdc"

def endsWith (text ending : List Char) : Bool := ending.reverse.isPrefixOf text.reverse

/-- The short name that an import gives a contract: the name of a source file without its
extension, any other text unchanged. -/
def importName (location : String) : String :=
  let text := location.toList
  if endsWith text sourceExtension.toList then
    let file := (text.reverse.takeWhile (· ≠ '/')).reverse
    let stem := file.take (file.length - sourceExtension.length)
    String.ofList (if stem.isEmpty then file else stem)
  else location

end ContractProject.Path
