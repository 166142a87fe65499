import ContractProject.Json.Document

/-!
Reading records, lists and mappings out of documents. A record is an object with known names, each
at most once, or, where that is allowed, the list of its fields in order.
-/

namespace ContractProject.Document

/-- The text of a string. -/
def text? : Document → Option String
  | .string text => text
  | _ => none

/-- The one field with this name, if there is exactly one or none. -/
def field? (fields : List (Option String × Document)) (name : String) :
    Option (Option Document) :=
  match fields.filter (·.1 = some name) with
  | [] => some none
  | [(_, d)] => some (some d)
  | _ => none

/-- The fields of a record by their names. All names must be texts; fields with other names are
passed over. -/
def record? (names : List String) : Document → Option (List (Option Document))
  | .object fields =>
    if fields.all (·.1.isSome) then names.mapM (field? fields) else none
  | _ => none

/-- The fields of a record that may be written as a list as well. A list may end early. -/
def listedRecord? (names : List String) : Document → Option (List (Option Document))
  | .array items =>
    if items.length ≤ names.length then
      some ((items.map some) ++ List.replicate (names.length - items.length) none)
    else none
  | d => record? names d

def list? {α : Type} (read : Document → Option α) : Document → Option (List α)
  | .array items => items.mapM read
  | _ => none

/-- A mapping from names. Of entries with one name the last counts, in the first one's place, but
all must be readable. -/
def mapping? {α : Type} (read : Document → Option α) : Document → Option (List (String × α))
  | .object fields => do
    let entries ← fields.mapM fun (name, d) => do return (← name, ← read d)
    return entries.foldl (fun es e => put e es) []
  | _ => none

/-- A field that may be left out. -/
def optional? {α : Type} (read : Document → Option α) (default : α) : Option Document → Option α
  | some d => read d
  | none => some default

/-- A field that may be left out or null. -/
def nullable? {α : Type} (read : Document → Option α) : Option Document → Option (Option α)
  | some .null => some none
  | some d => (read d).map some
  | none => some none

end ContractProject.Document
