import ContractProject.Cadence.Import

/-!
The outline of a program: its imports and its top level declarations, both in source order. Inside
brackets nothing is read but the brackets, which must match by kind.
-/

namespace ContractProject.Cadence

inductive CompositeKind where
  | contract
  | resource
  | struct
  | event
  | enum
  | attachment
  deriving DecidableEq, Repr

def CompositeKind.keyword : CompositeKind → String
  | .contract => "contract"
  | .resource => "resource"
  | .struct => "struct"
  | .event => "event"
  | .enum => "enum"
  | .attachment => "attachment"

def CompositeKind.all : List CompositeKind :=
  [.contract, .resource, .struct, .event, .enum, .attachment]

def CompositeKind.ofKeyword? (word : String) : Option CompositeKind :=
  CompositeKind.all.find? (·.keyword = word)

/-- A top level composite or interface. -/
structure Declaration where
  kind : CompositeKind
  isInterface : Bool
  name : String
  deriving DecidableEq, Repr

structure Outline where
  imports : List Import
  declarations : List Declaration
  deriving DecidableEq, Repr

inductive OutlineFault where
  | lexical (fault : LexFault)
  | unexpected (close : Char) (offset : Nat)
  | mismatched (expected found : Char) (offset : Nat)
  | unclosed (bracket : Char) (offset : Nat)
  | malformedImport (offset : Nat) (fault : ImportFault)
  deriving DecidableEq, Repr

def OutlineFault.message : OutlineFault → String
  | .lexical fault => fault.message
  | .unexpected close offset => s!"unexpected `{close}` at offset {offset}"
  | .mismatched expected found offset =>
    s!"expected `{expected}`, found `{found}` at offset {offset}"
  | .unclosed bracket offset => s!"unclosed `{bracket}` at offset {offset}"
  | .malformedImport offset fault => s!"malformed import at offset {offset}: {fault.message}"

/-- The bracket that closes this one. -/
def closing? : Char → Option Char
  | '(' => some ')'
  | '\x7b' => some '\x7d'
  | '[' => some ']'
  | _ => none

def isClosing (c : Char) : Bool := c = ')' || c = '\x7d' || c = ']'

/-- The declaration that a composite keyword and the tokens after it begin with. -/
def declaration? (keyword : Token) (rest : List Token) : Option Declaration :=
  match if keyword.kind = .identifier then CompositeKind.ofKeyword? keyword.text else none with
  | none => none
  | some kind =>
    let isInterface := (rest.head?.map (·.isWord "interface")).getD false
    match (if isInterface then rest.tail else rest).head? with
    | some name =>
      if name.kind = .identifier then some ⟨kind, isInterface, name.text⟩ else none
    | none => none

def Outline.addImport (i : Import) (o : Outline) : Outline := { o with imports := i :: o.imports }

def Outline.addDeclaration (d : Option Declaration) (o : Outline) : Outline :=
  { o with declarations := d.toList ++ o.declarations }

/-- An open bracket: the one that closes it, itself, and where it stands. -/
structure OpenBracket where
  close : Char
  bracket : Char
  offset : Nat
  deriving DecidableEq, Repr

/-- The brackets that are open after a token. A closing one must fit the innermost. -/
def bracketsAfter (opened : List OpenBracket) (token : Token) :
    Except OutlineFault (List OpenBracket) :=
  match token.kind with
  | .symbol c =>
    match closing? c with
    | some close => .ok (⟨close, c, token.span.start⟩ :: opened)
    | none =>
      if isClosing c then
        match opened with
        | [] => .error (.unexpected c token.span.start)
        | last :: opened =>
          if c = last.close then .ok opened
          else .error (.mismatched last.close c token.span.start)
      else .ok opened
  | _ => .ok opened

/-- Reads the tokens after those that left these brackets open, the innermost first. -/
def outlineFrom (opened : List OpenBracket) : List Token → Except OutlineFault Outline
  | [] =>
    match opened with
    | [] => .ok ⟨[], []⟩
    | last :: _ => .error (.unclosed last.bracket last.offset)
  | token :: rest =>
    if opened.isEmpty && token.isWord "import" then
      match h : importDeclaration token rest with
      | .error fault => .error (.malformedImport token.span.start fault)
      | .ok (declared, after) =>
        have := length_lt_of_importDeclaration h
        (outlineFrom [] after).map (Outline.addImport declared)
    else
      match bracketsAfter opened token with
      | .error fault => .error fault
      | .ok nowOpen =>
        (outlineFrom nowOpen rest).map
          (Outline.addDeclaration (if opened.isEmpty then declaration? token rest else none))
termination_by tokens => tokens.length

/-- The outline of a source that is sound as far as brackets, strings, comments and imports go. -/
def Outline.parse (source : List Char) : Except OutlineFault Outline :=
  match tokens source with
  | .error fault => .error (.lexical fault)
  | .ok tokens => outlineFrom [] tokens

end ContractProject.Cadence
