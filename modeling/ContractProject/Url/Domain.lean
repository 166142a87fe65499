import ContractProject.Text.Composition
import ContractProject.Text.Direction
import ContractProject.Text.Joining
import ContractProject.Url.Image
import ContractProject.Url.Punycode

/-!
Domain names in any script and their ASCII form. A name is mapped and composed; each of its labels
is read, from Punycode if it is in that; what the labels mean is checked; and those that are not
ASCII are written in Punycode.
-/

namespace ContractProject.Url

open Text (Direction direction)

def isAsciiText (text : List Char) : Bool := text.all Punycode.isAscii

/-- Text as it stands in names, none if it holds a character that no name may hold. There is nothing
to compose in ASCII text. -/
def mapped? (text : List Char) : Option (List Char) :=
  if isAsciiText text then some (text.map Char.toLower)
  else (text.mapM image?).map fun images => Text.composed images.flatten

/-! ### Joiners

They are invisible, so they are allowed only where they change how a word is written. -/

def joiner : Char := '\u200d'

def nonJoiner : Char := '\u200c'

/-- Whether the first character that is not transparent is such a letter. -/
def meets (joins : Char → Bool) : List Char → Bool
  | [] => false
  | c :: rest => joins c || (Text.isTransparent c && meets joins rest)

def followsVirama : (before : List Char) → Bool
  | [] => false
  | c :: _ => Text.isVirama c

/-- Whether a joiner, if it is one, has its place between what is before it, the last character
first, and after it: behind a virama, or if it keeps letters apart between two that would join. -/
def isInPlace (before : List Char) (c : Char) (after : List Char) : Bool :=
  if c = nonJoiner then
    followsVirama before || (meets Text.joinsForward before && meets Text.joinsBackward after)
  else if c = joiner then followsVirama before
  else true

def joinersInPlace (before : List Char) : List Char → Bool
  | [] => true
  | c :: after => isInPlace before c after && joinersInPlace (c :: before) after

/-! ### Labels -/

def longestPlainLabel : Nat := 1000

def longestPunycode : Nat := 2000

/-- A label starts with no mark, has its joiners in place, and is not excessively long. -/
def isLabel (label : List Char) : Bool :=
  !label.head?.any Text.isMark && joinersInPlace [] label
    && (isAsciiText label || label.length ≤ longestPlainLabel)

/-- What a label begins with that is written in Punycode. -/
def punycodeMark : List Char := "xn--".toList

/-- The label that Punycode digits stand for. It must need Punycode and be as labels are. -/
def fromPunycode? (digits : List Char) : Option (List Char) :=
  if longestPunycode < digits.length then none
  else
    (Punycode.decode? digits).filter fun label =>
      !isAsciiText label && mapped? label = some label && Punycode.encode label = digits

/-- Reads a mapped label, which may be in Punycode. -/
def readLabel? (label : List Char) : Option (List Char) :=
  (if punycodeMark.isPrefixOf label then fromPunycode? (label.drop punycodeMark.length)
    else some label).filter isLabel

def asciiLabel (label : List Char) : List Char :=
  if isAsciiText label then label else punycodeMark ++ Punycode.encode label

/-! ### Directions

The labels of a name that is written from right to left in part must each have one direction. -/

def isRightward (c : Char) : Bool :=
  direction c = .right || direction c = .arabicNumber

/-- The directions of a label but for the marks at its end. -/
def directions (label : List Char) : List Direction :=
  ((label.map direction).reverse.dropWhile (· = .mark)).reverse

/-- What may follow in a label that starts from the left. -/
def isAfterLeft (d : Direction) : Bool :=
  [.left, .europeanNumber, .neutral, .mark].contains d

/-- What may follow in a label that starts from the right. -/
def isAfterRight (d : Direction) : Bool :=
  [.right, .arabicNumber, .europeanNumber, .neutral, .mark].contains d

def endsLeft (d : Direction) : Bool := [.left, .europeanNumber].contains d

def endsRight (d : Direction) : Bool := [.right, .arabicNumber, .europeanNumber].contains d

/-- Labels start with a letter and end with a letter or a number, and numbers are of one kind. -/
def hasOneDirection (label : List Char) : Bool :=
  match directions label with
  | [] => label.isEmpty
  | .left :: rest => rest.all isAfterLeft && rest.getLast?.all endsLeft
  | .right :: rest =>
    rest.all isAfterRight && rest.getLast?.all endsRight
      && !(rest.contains .arabicNumber && rest.contains .europeanNumber)
  | _ => false

def haveDirections (labels : List (List Char)) : Bool :=
  labels.all (fun label => !label.any isRightward) || labels.all hasOneDirection

/-! ### Names -/

/-- The labels of a domain name in any script. -/
def labels? (text : List Char) : Option (List (List Char)) := do
  let text ← mapped? text
  ((splitOn '.' text).mapM readLabel?).filter haveDirections

/-- The ASCII form of a domain name. -/
def asciiDomain? (text : List Char) : Option (List Char) :=
  (labels? text).map fun labels => List.intercalate ['.'] (labels.map asciiLabel)

end ContractProject.Url
