/-!
Collections of entries with distinct keys, in insertion order. Adding an entry under a key that is
there replaces the entry where it stands; a new key goes to the end.
-/

namespace ContractProject

/-- Entries that carry the key they are found by. -/
class Keyed (α : Type) (κ : outParam Type) where
  key : α → κ

export Keyed (key)

instance (κ β : Type) : Keyed (κ × β) κ := ⟨Prod.fst⟩

section Entries

variable {α κ : Type} [Keyed α κ] [DecidableEq κ]

/-- Puts an entry in the place of the one with its key, or last. -/
def put (a : α) : List α → List α
  | [] => [a]
  | x :: xs => if key x = key a then a :: xs else x :: put a xs

def lookup? (k : κ) : List α → Option α
  | [] => none
  | x :: xs => if key x = k then some x else lookup? k xs

/-- The entries without the one that has this key, none if there is no such entry. -/
def erase? (k : κ) : List α → Option (List α)
  | [] => none
  | x :: xs => if key x = k then some xs else (erase? k xs).map (x :: ·)

/-- Changes the entry that has this key in its place. -/
def change (k : κ) (f : α → α) : List α → List α
  | [] => []
  | x :: xs => if key x = k then f x :: xs else x :: change k f xs

theorem mem_of_lookup? {k : κ} {a : α} : ∀ {entries : List α}, lookup? k entries = some a →
    a ∈ entries ∧ key a = k
  | x :: xs, h => by
    unfold lookup? at h
    split at h
    · next hk => cases h; exact ⟨List.mem_cons_self, hk⟩
    · have ⟨hmem, hk⟩ := mem_of_lookup? h
      exact ⟨List.mem_cons_of_mem x hmem, hk⟩

end Entries

structure Collection (α : Type) where
  toList : List α
  deriving BEq, DecidableEq, Repr

namespace Collection

variable {α κ : Type} [Keyed α κ] [DecidableEq κ]

def empty : Collection α := ⟨[]⟩

instance : Inhabited (Collection α) := ⟨empty⟩

def size (c : Collection α) : Nat := c.toList.length

def isEmpty (c : Collection α) : Bool := c.toList.isEmpty

def keys (c : Collection α) : List κ := c.toList.map key

def get? (c : Collection α) (k : κ) : Option α := lookup? k c.toList

def contains (c : Collection α) (k : κ) : Bool := (c.get? k).isSome

def insert (c : Collection α) (a : α) : Collection α := ⟨put a c.toList⟩

/-- Adds an entry unless its key is there already. -/
def insertNew (c : Collection α) (a : α) : Collection α :=
  if c.contains (key a) then c else ⟨c.toList ++ [a]⟩

def erase? (c : Collection α) (k : κ) : Option (Collection α) :=
  (ContractProject.erase? k c.toList).map .mk

def change (c : Collection α) (k : κ) (f : α → α) : Collection α :=
  ⟨ContractProject.change k f c.toList⟩

def ofList (entries : List α) : Collection α := entries.foldl insert empty

end Collection

end ContractProject
