import ContractProject.Text.Letter

/-!
The words of a command line, the values that parameters take, and how words are given to the
parameters of one command. A value is judged when the next parameter is met or the words end, so a
word that cannot be placed at all is reported before the value that stands ahead of it.
-/

namespace ContractProject

/-- Why there is nothing to run. -/
inductive Usage where
  | help
  | version
  /-- Help for want of words. -/
  | helpOnMissing
  | missingArgument
  | unknownArgument
  | unknownCommand
  /-- A value is missing or empty. -/
  | noValue
  | badValue
  /-- A value is given to what takes none. -/
  | surplusValue
  | repeated
  deriving DecidableEq, Repr

namespace CommandLine

inductive Word where
  /-- The words that follow are plain. -/
  | escape
  | long (name : String) (value : Option String)
  /-- Letters after one hyphen, of which there is at least one. -/
  | short (letter : Char) (rest : List Char)
  | plain (text : String)
  deriving DecidableEq, Repr

def Word.ofText (text : String) : Word :=
  match text.toList with
  | ['-', '-'] => .escape
  | '-' :: '-' :: rest =>
    let name := rest.takeWhile (· ≠ '=')
    .long (String.ofList name)
      (if name.length = rest.length then none
        else some (String.ofList (rest.drop (name.length + 1))))
  | '-' :: letter :: rest => .short letter rest
  | _ => .plain text

/-- What a word asks for that every command knows. -/
def Word.request? : Word → Option Usage
  | .long "help" none => some .help
  | .long "version" none => some .version
  | .long "help" (some _) => some .surplusValue
  | .long "version" (some _) => some .surplusValue
  | .short 'h' _ => some .help
  | .short 'V' _ => some .version
  | _ => none

inductive ValueForm where
  | text
  | path
  | count
  deriving DecidableEq, Repr

/-- The counts are the numbers of 64 bits, perhaps with a sign. -/
def count? (text : String) : Option Nat :=
  let digits :=
    match text.toList with
    | '+' :: digits => digits
    | digits => digits
  if digits.isEmpty || !digits.all Text.isAsciiDigit then none
  else
    (some (digits.foldl (fun n c => n * 10 + (c.toNat - '0'.toNat)) 0)).filter (· < UInt64.size)

def ValueForm.fault? (form : ValueForm) (value : String) : Option Usage :=
  match form with
  | .text => none
  | .path => if value.isEmpty then some .noValue else none
  | .count => if (count? value).isNone then some .badValue else none

structure Parameter where
  name : String
  letter : Option Char
  form : ValueForm
  deriving DecidableEq, Repr

/-- What a command takes: options, and perhaps one plain word. -/
structure Signature where
  options : List Parameter
  operand : Option Parameter
  deriving DecidableEq, Repr

/-- The values that have been given. The last one may still be waited for, and is not judged yet. -/
structure Reading where
  settled : List (String × String)
  pending : Option (Parameter × Option String)
  operandGiven : Bool
  onlyPlain : Bool
  deriving DecidableEq, Repr

namespace Reading

def initial : Reading := ⟨[], none, false, false⟩

def value? (r : Reading) (name : String) : Option String :=
  (r.settled.find? (·.1 = name)).map Prod.snd

/-- Accepts a value, unless its parameter has one. -/
def settle (r : Reading) (p : Parameter) (value : String) : Except Usage Reading :=
  if (r.value? p.name).isSome then .error .repeated
  else
    match p.form.fault? value with
    | some usage => .error usage
    | none => .ok { r with settled := r.settled ++ [(p.name, value)] }

/-- Judges the value that is pending. -/
def resolve (r : Reading) : Except Usage Reading :=
  match r.pending with
  | none => .ok r
  | some (_, none) => .error .noValue
  | some (p, some value) => settle { r with pending := none } p value

def awaits (r : Reading) (p : Parameter) (value : Option String) : Except Usage Reading :=
  r.resolve.map fun r => { r with pending := some (p, value) }

/-- Gives an option its value, which may be part of the word that names it. -/
def option (r : Reading) (p : Parameter) : Option String → Except Usage Reading
  | some value => r.resolve.bind fun r => r.settle p value
  | none => r.awaits p none

/-- Gives a plain word to the operand. -/
def operand (s : Signature) (r : Reading) (text : String) : Except Usage Reading :=
  match s.operand with
  | none => .error .unknownArgument
  | some p =>
    if r.operandGiven then .error .unknownArgument
    else (r.awaits p (some text)).map fun r => { r with operandGiven := true }

/-- The value that follows an option's letter in one word, an equals sign before it left out. -/
def attached : List Char → Option String
  | [] => none
  | '=' :: value => some (String.ofList value)
  | value => some (String.ofList value)

def word (s : Signature) (r : Reading) (w : Word) : Except Usage Reading :=
  match w with
  | .escape => .ok { r with onlyPlain := true }
  | .long name value =>
    match s.options.find? (·.name = name) with
    | some p => r.option p value
    | none => .error .unknownArgument
  | .short letter rest =>
    match s.options.find? (·.letter = some letter) with
    | some p => r.option p (attached rest)
    | none => .error .unknownArgument
  | .plain text =>
    match r.pending with
    | some (p, none) => .ok { r with pending := some (p, some text) }
    | _ => operand s r text

def step (s : Signature) (r : Reading) (text : String) : Except Usage Reading :=
  if r.onlyPlain then operand s r text
  else
    match (Word.ofText text).request? with
    | some .surplusValue => .error .surplusValue
    | some usage => r.resolve.bind fun _ => .error usage
    | none => word s r (Word.ofText text)

end Reading

/-- The values that words give to the parameters of a command. -/
def Signature.read (s : Signature) (words : List String) : Except Usage Reading :=
  (words.foldlM (Reading.step s) Reading.initial).bind Reading.resolve

/-! ### Menus -/

def helpWord : String := "help"

/-- What follows `help` names an entry, and perhaps entries below it. -/
def helpFor {α : Type} (entries : List (String × α)) (below : α → List String → Usage) :
    List String → Usage
  | [] => .help
  | name :: rest =>
    match entries.find? (·.1 = name) with
    | some (_, entry) => below entry rest
    | none => if name = helpWord && rest.isEmpty then .help else .unknownCommand

/-- The entry of a menu that the first word names, and the words after it. -/
def select {α : Type} (entries : List (String × α)) (below : α → List String → Usage)
    (onlyPlain : Bool) : List String → Except Usage (α × List String)
  | [] => .error .helpOnMissing
  | text :: rest =>
    let isKnown := text = helpWord || entries.any (·.1 = text)
    if onlyPlain then .error (if isKnown then .unknownArgument else .unknownCommand)
    else
      match entries.find? (·.1 = text) with
      | some (_, entry) => .ok (entry, rest)
      | none =>
        if text = helpWord then .error (helpFor entries below rest)
        else
          match Word.ofText text with
          | .escape => select entries below true rest
          | .plain _ => .error .unknownCommand
          | w => .error (w.request?.getD .unknownArgument)

end CommandLine

end ContractProject
