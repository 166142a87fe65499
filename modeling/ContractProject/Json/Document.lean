import ContractProject.Text.Utf8
import ContractProject.Json.Token
import ContractProject.Json.Value

/-!
Reading JSON documents. A document is first read as it is spelled; what of it is kept becomes a
value, and only there does it matter whether strings are Unicode, numbers are in range, and
containers nest too deeply.
-/

namespace ContractProject

/-- A document as spelled: numbers unread, strings perhaps without a text, repeated names kept. -/
inductive Document where
  | null
  | bool (b : Bool)
  | number (n : Json.NumberLiteral)
  | string (text : Option String)
  | array (items : List Document)
  | object (fields : List (Option String × Document))
  deriving BEq, Repr, Inhabited

namespace Document

open Json (Token)

/-- A container that is being read: what it holds so far, the last first. A member's name is known
before its value. -/
inductive Frame where
  | array (before : List Document)
  | object (before : List (Option String × Document))
  | member (before : List (Option String × Document)) (name : Option String)

/-- What may come next. -/
inductive Due where
  | value
  | valueOrEnd
  | name
  | nameOrEnd
  | colon (name : Option String)
  /-- A value is complete, and stands in the innermost container or is the document. -/
  | done (value : Document)

/-- The containers that are open, the innermost first, and what may come next in that one. -/
structure Progress where
  opened : List Frame
  due : Due

/-- The token is the first one of a value. -/
def Progress.enter (opened : List Frame) : Token → Option Progress
  | .null => some ⟨opened, .done .null⟩
  | .bool b => some ⟨opened, .done (.bool b)⟩
  | .number n => some ⟨opened, .done (.number n)⟩
  | .string text => some ⟨opened, .done (.string text)⟩
  | .beginArray => some ⟨.array [] :: opened, .valueOrEnd⟩
  | .beginObject => some ⟨.object [] :: opened, .nameOrEnd⟩
  | _ => none

/-- The token follows a value. -/
def Progress.proceed (opened : List Frame) (value : Document) (token : Token) : Option Progress :=
  match opened, token with
  | .array before :: opened, .comma => some ⟨.array (value :: before) :: opened, .value⟩
  | .array before :: opened, .endArray => some ⟨opened, .done (.array (value :: before).reverse)⟩
  | .member before name :: opened, .comma =>
    some ⟨.object ((name, value) :: before) :: opened, .name⟩
  | .member before name :: opened, .endObject =>
    some ⟨opened, .done (.object ((name, value) :: before).reverse)⟩
  | _, _ => none

def Progress.step (p : Progress) (token : Token) : Option Progress :=
  match p.due, token, p.opened with
  | .valueOrEnd, .endArray, .array _ :: opened => some ⟨opened, .done (.array [])⟩
  | .valueOrEnd, token, opened => Progress.enter opened token
  | .value, token, opened => Progress.enter opened token
  | .nameOrEnd, .endObject, .object _ :: opened => some ⟨opened, .done (.object [])⟩
  | .nameOrEnd, .string name, opened => some ⟨opened, .colon name⟩
  | .name, .string name, opened => some ⟨opened, .colon name⟩
  | .colon name, .colon, .object before :: opened => some ⟨.member before name :: opened, .value⟩
  | .done value, token, opened => Progress.proceed opened value token
  | _, _, _ => none

def Progress.run (p : Progress) : List Token → Option Progress
  | [] => some p
  | token :: rest =>
    match p.step token with
    | some p => p.run rest
    | none => none

def ofTokens? (tokens : List Token) : Option Document :=
  match Progress.run ⟨[], .value⟩ tokens with
  | some ⟨[], .done value⟩ => some value
  | _ => none

/-- Reads a document, blanks around it allowed. -/
def parse? (bytes : Bytes) : Option Document :=
  (Json.tokens (Utf8.decodeLoose bytes)).bind ofTokens?

mutual

/-- The value of a document that nests no more than `room` containers. -/
def value? (room : Nat) : Document → Option Json
  | .null => some .null
  | .bool b => some (.bool b)
  | .number n => n.value?.map .number
  | .string text => text.map .string
  | .array items =>
    match room with
    | 0 => none
    | room + 1 => (values? room items).map .array
  | .object fields =>
    match room with
    | 0 => none
    | room + 1 => (fieldValues? room fields).map Json.ofFields

def values? (room : Nat) : List Document → Option (List Json)
  | [] => some []
  | item :: items =>
    match value? room item, values? room items with
    | some v, some vs => some (v :: vs)
    | _, _ => none

def fieldValues? (room : Nat) : List (Option String × Document) → Option (List (String × Json))
  | [] => some []
  | (name, item) :: fields =>
    match name, value? room item, fieldValues? room fields with
    | some n, some v, some vs => some ((n, v) :: vs)
    | _, _, _ => none

end

/-- How many containers may nest in one document. -/
def nestingLimit : Nat := 127

end Document

/-- Reads a document all of which is kept. -/
def Json.parse? (bytes : Bytes) : Option Json :=
  (Document.parse? bytes).bind (Document.value? Document.nestingLimit)

end ContractProject
