import ContractProject.Collection
import ContractProject.Hex
import ContractProject.Json.Number

/-!
JSON values, and their written form: two spaces of indentation, one entry a line.
-/

namespace ContractProject

/-- A JSON value. The fields of an object keep their order. -/
inductive Json where
  | null
  | bool (b : Bool)
  | number (n : Json.Number)
  | string (s : String)
  | array (items : List Json)
  | object (fields : List (String × Json))
  deriving BEq, Repr, Inhabited

namespace Json

/-- An object from fields of which the last with a name counts, in the first one's place. -/
def ofFields (fields : List (String × Json)) : Json :=
  .object (fields.foldl (fun fs f => put f fs) [])

def escapedChar (c : Char) : List Char :=
  if c = '"' then ['\\', '"']
  else if c = '\\' then ['\\', '\\']
  else if c = '\x08' then ['\\', 'b']
  else if c = '\t' then ['\\', 't']
  else if c = '\n' then ['\\', 'n']
  else if c = '\x0c' then ['\\', 'f']
  else if c = '\r' then ['\\', 'r']
  else if c.toNat < 0x20 then ['\\', 'u'] ++ Hex.digits 4 c.toNat
  else [c]

def quoted (text : String) : List Char := '"' :: text.toList.flatMap escapedChar ++ ['"']

def newline (indent : Nat) : List Char := '\n' :: List.replicate (2 * indent) ' '

mutual

/-- The text of a value in a line that is indented by so many steps. -/
def render (indent : Nat) : Json → List Char
  | .null => ['n', 'u', 'l', 'l']
  | .bool true => ['t', 'r', 'u', 'e']
  | .bool false => ['f', 'a', 'l', 's', 'e']
  | .number n => n.toText
  | .string s => quoted s
  | .array [] => ['[', ']']
  | .array (item :: items) =>
    '[' :: newline (indent + 1) ++ render (indent + 1) item ++ renderItems (indent + 1) items
      ++ newline indent ++ [']']
  | .object [] => ['\x7b', '\x7d']
  | .object ((name, value) :: fields) =>
    '\x7b' :: newline (indent + 1) ++ quoted name ++ [':', ' '] ++ render (indent + 1) value
      ++ renderFields (indent + 1) fields ++ newline indent ++ ['\x7d']

def renderItems (indent : Nat) : List Json → List Char
  | [] => []
  | item :: items => ',' :: newline indent ++ render indent item ++ renderItems indent items

def renderFields (indent : Nat) : List (String × Json) → List Char
  | [] => []
  | (name, value) :: fields =>
    ',' :: newline indent ++ quoted name ++ [':', ' '] ++ render indent value
      ++ renderFields indent fields

end

def pretty (j : Json) : String := String.ofList (render 0 j)

end Json

end ContractProject
