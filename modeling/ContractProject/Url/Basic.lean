import ContractProject.Url.Host

/-!
URLs of the web: read leniently as browsers do, kept in normal form, and extended by relative paths.
-/

namespace ContractProject

structure Url where
  /-- Whether the scheme is `https`, else it is `http`. -/
  secure : Bool
  username : List Char
  password : Option (List Char)
  host : Url.Host
  /-- The number after the host, unless the scheme has it anyway. -/
  portNumber : Option Nat
  /-- The steps to the last directory, and the name in it. -/
  directory : List (List Char)
  file : List Char
  query : Option (List Char)
  fragment : Option (List Char)
  deriving DecidableEq, Repr

namespace Url

def insecureScheme : List Char := "http://".toList

def secureScheme : List Char := "https://".toList

def defaultPortNumber (secure : Bool) : Nat := if secure then 443 else 80

def greatestPortNumber : Nat := 65535

/-! ### Reading -/

def isSlash (c : Char) : Bool := c = '/' || c = '\\'

/-- The characters that end the part of a URL that names the host. -/
def endsAuthority (c : Char) : Bool := isSlash c || c = '?' || c = '#'

/-- Tabs and line ends count nowhere in a URL. -/
def isIgnored (c : Char) : Bool := c = '\t' || c = '\n' || c = '\r'

/-- Leaves out controls and spaces around a text, and what counts nowhere within it. -/
def tidy (text : List Char) : List Char :=
  let outer (c : Char) : Bool := c.toNat ≤ 0x20
  ((text.dropWhile outer).reverse.dropWhile outer).reverse.filter (!isIgnored ·)

/-- The texts before and after the last `@`, the first none if there is none. -/
def cutAtLast (separator : Char) (text : List Char) : Option (List Char) × List Char :=
  let after := (text.reverse.takeWhile (· ≠ separator)).reverse
  if after.length = text.length then (none, text)
  else (some (text.take (text.length - after.length - 1)), after)

/-- A user's name and password. An empty password is none. -/
def userinfo (text : List Char) : List Char × Option (List Char) :=
  let name := text.takeWhile (· ≠ ':')
  let password := text.drop (name.length + 1)
  let encode := percentEncode encodedInUserinfo
  (encode name, if password.isEmpty then none else some (encode password))

/-- The host ends at the first colon outside brackets. -/
def hostText (inBrackets : Bool) : List Char → List Char
  | [] => []
  | c :: text =>
    if c = ':' && !inBrackets then []
    else c :: hostText (if c = '[' then true else if c = ']' then false else inBrackets) text

/-- The number after a host, which may be left out. -/
def portNumber? (secure : Bool) : List Char → Option (Option Nat)
  | [] => some none
  | _ :: digits =>
    if digits.isEmpty then some none
    else if digits.all Text.isAsciiDigit then
      ((numberIn 10 digits).filter (· ≤ greatestPortNumber)).map fun number =>
        if number = defaultPortNumber secure then none else some number
    else none

def isSingleDot (step : List Char) : Bool :=
  [".", "%2e"].contains (String.ofList (step.map Char.toLower))

def isDoubleDot (step : List Char) : Bool :=
  ["..", ".%2e", "%2e.", "%2e%2e"].contains (String.ofList (step.map Char.toLower))

/-- A step such as `c:`, which going up does not undo. -/
def isDrive : List Char → Bool
  | [letter, mark] => Text.isAsciiLetter letter && (mark = ':' || mark = '|')
  | _ => false

/-- Goes up from a directory, given backwards. -/
def goUp : List (List Char) → List (List Char)
  | [] => []
  | last :: before => if isDrive last then last :: before else before

def goDown (walked : List (List Char)) (step : List Char) : List (List Char) :=
  if isDoubleDot step then goUp walked else if isSingleDot step then walked else step :: walked

/-- Follows a path from a directory, given backwards, to a directory and the name in it. -/
def follow (walked : List (List Char)) : List (List Char) → List (List Char) × List Char
  | [] => (walked.reverse, [])
  | [last] =>
    if isDoubleDot last then ((goUp walked).reverse, [])
    else if isSingleDot last then (walked.reverse, [])
    else (walked.reverse, last)
  | step :: steps => follow (goDown walked step) steps

def stepsOfText (text : List Char) : List (List Char) :=
  (splitOn '/' (text.map fun c => if isSlash c then '/' else c)).map (percentEncode encodedInPath)

/-- The part of a URL after its host: path, query and fragment. -/
structure Tail where
  path : List Char
  query : Option (List Char)
  fragment : Option (List Char)
  deriving DecidableEq, Repr

def Tail.ofText (text : List Char) : Tail :=
  let main := text.takeWhile (· ≠ '#')
  let path := main.takeWhile (· ≠ '?')
  { path
    query :=
      if main.length = path.length then none
      else some (percentEncode encodedInQuery (main.drop (path.length + 1)))
    fragment :=
      if text.length = main.length then none
      else some (percentEncode encodedInFragment (text.drop (main.length + 1))) }

/-- Reads what follows the scheme. However many slashes there are, they do not matter. -/
def afterScheme? (secure : Bool) (text : List Char) : Option Url := do
  let text := text.dropWhile isSlash
  let authority := text.takeWhile (!endsAuthority ·)
  let (user, place) := cutAtLast '@' authority
  let name := hostText false place
  let host ← Host.parse? name
  let portNumber ← portNumber? secure (place.drop name.length)
  let tail := Tail.ofText (text.drop authority.length)
  let (directory, file) := follow [] (stepsOfText (tail.path.drop 1))
  let (username, password) := userinfo (user.getD [])
  return { secure, username, password, host, portNumber, directory, file
           query := tail.query, fragment := tail.fragment }

/-- Reads a URL that starts with one of the two schemes. -/
def parse? (text : String) : Option Url :=
  let text := tidy text.toList
  if secureScheme.isPrefixOf text then afterScheme? true (text.drop secureScheme.length)
  else if insecureScheme.isPrefixOf text then afterScheme? false (text.drop insecureScheme.length)
  else none

/-! ### Writing -/

def userText (u : Url) : List Char :=
  let password :=
    match u.password with
    | some password => ':' :: password
    | none => []
  if u.username.isEmpty && u.password.isNone then [] else u.username ++ password ++ ['@']

def portText (u : Url) : List Char :=
  match u.portNumber with
  | some number => ':' :: (toString number).toList
  | none => []

def path (u : Url) : List Char := u.directory.flatMap ('/' :: ·) ++ '/' :: u.file

/-- The path and query, which a server is asked for. -/
def target (u : Url) : List Char :=
  u.path ++
    match u.query with
    | some query => '?' :: query
    | none => []

def toText (u : Url) : String :=
  String.ofList ((if u.secure then secureScheme else insecureScheme) ++ u.userText ++ u.host.toText
    ++ u.portText ++ u.target ++
    match u.fragment with
    | some fragment => '#' :: fragment
    | none => [])

/-! ### Extending -/

/-- The URL of a file that is reached from the directory of this one by these plain steps. -/
def child (u : Url) (steps : List String) (file : String) (query : String) : Url :=
  { u with
    directory := u.directory ++ steps.map String.toList
    file := file.toList
    query := some query.toList
    fragment := none }

end Url

end ContractProject
