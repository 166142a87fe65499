import ContractProject.Address
import ContractProject.Cadence.Token

/-!
Import declarations and how they are read from tokens:

* `import "location"`
* `import A, B as C from location`, where the location is a string, a name or an address literal
* `import Name`
-/

namespace ContractProject.Cadence

open Text (Span)

/-- Where an import points. -/
inductive Location where
  | string (text : String)
  | address (a : Address)
  | identifier (name : String)
  deriving DecidableEq, Repr

def Location.toText : Location → String
  | .string text => text
  | .address a => a.toLiteral
  | .identifier name => name

/-- One imported name, `name` or `name as alias`. -/
structure ImportedName where
  name : String
  localAs : Option String
  deriving DecidableEq, Repr

/-- The name the import is bound to in the importing program. -/
def ImportedName.localName (n : ImportedName) : String := n.localAs.getD n.name

def ImportedName.toText (n : ImportedName) : String :=
  match n.localAs with
  | some own => n.name ++ " as " ++ own
  | none => n.name

structure Import where
  names : List ImportedName
  location : Location
  /-- The bytes of the whole declaration. -/
  span : Span
  deriving DecidableEq, Repr

/-- Why the tokens after the keyword make no import. -/
inductive ImportFault where
  | expectedLocationOrNames
  | expectedName
  | expectedAlias
  | expectedLocation
  | expectedFrom
  | badAddress (literal : String) (fault : Address.Fault)
  deriving DecidableEq, Repr

def ImportFault.message : ImportFault → String
  | .expectedLocationOrNames => "expected a location or identifiers"
  | .expectedName => "expected an identifier"
  | .expectedAlias => "expected an identifier after `as`"
  | .expectedLocation => "expected a location after `from`"
  | .expectedFrom => "expected `from`"
  | .badAddress literal fault => s!"invalid address {literal}: {fault.reason}"

/-- A name, with the alias after it if there is an `as`. -/
def importedName : List Token → Except ImportFault (ImportedName × List Token)
  | [] => .error .expectedName
  | name :: rest =>
    if name.kind = .identifier then
      match rest with
      | [] => .ok (⟨name.text, none⟩, [])
      | word :: after =>
        if word.isWord "as" then
          match after with
          | [] => .error .expectedAlias
          | own :: after =>
            if own.kind = .identifier then .ok (⟨name.text, some own.text⟩, after)
            else .error .expectedAlias
        else .ok (⟨name.text, none⟩, word :: after)
    else .error .expectedName

theorem length_lt_of_importedName {tokens after : List Token} {name : ImportedName}
    (h : importedName tokens = .ok (name, after)) : after.length < tokens.length := by
  unfold importedName at h
  repeat' split at h
  all_goals try contradiction
  all_goals
    obtain ⟨-, rfl⟩ := Prod.mk.inj (Except.ok.inj h)
    simp only [List.length_cons, List.length_nil]
    omega

/-- Names separated by commas. -/
def importedNames (tokens : List Token) : Except ImportFault (List ImportedName × List Token) :=
  match h : importedName tokens with
  | .error fault => .error fault
  | .ok (name, []) => .ok ([name], [])
  | .ok (name, comma :: after) =>
    if comma.kind = .symbol ',' then
      have := length_lt_of_importedName h
      (importedNames after).map fun (names, rest) => (name :: names, rest)
    else .ok ([name], comma :: after)
termination_by tokens.length
decreasing_by simp only [List.length_cons] at this; omega

theorem length_lt_of_importedNames {tokens after : List Token} {names : List ImportedName}
    (h : importedNames tokens = .ok (names, after)) : after.length < tokens.length := by
  fun_induction importedNames tokens generalizing names after with
  | case1 => contradiction
  | case2 tokens name hn =>
    obtain ⟨-, rfl⟩ := Prod.mk.inj (Except.ok.inj h)
    exact length_lt_of_importedName hn
  | case3 tokens name comma rest hn _ this ih =>
    cases hr : importedNames rest with
    | error fault => rw [hr] at h; contradiction
    | ok r =>
      obtain ⟨ns, a⟩ := r
      rw [hr] at h
      obtain ⟨-, rfl⟩ := Prod.mk.inj (Except.ok.inj h)
      have := ih hr
      simp only [List.length_cons] at *
      omega
  | case4 tokens name comma rest hn =>
    obtain ⟨-, rfl⟩ := Prod.mk.inj (Except.ok.inj h)
    exact length_lt_of_importedName hn

/-- The location after `from`. -/
def locationOf (token : Token) : Except ImportFault Location :=
  match token.kind with
  | .string => .ok (.string token.text)
  | .identifier => .ok (.identifier token.text)
  | .number =>
    if ['0', 'x'].isPrefixOf token.text.toList then
      match Address.parse token.text with
      | .ok address => .ok (.address address)
      | .error fault => .error (.badAddress token.text fault)
    else .error .expectedLocation
  | .symbol _ => .error .expectedLocation

/-- The import that the keyword and the tokens after it begin with, and what follows it. -/
def importDeclaration (keyword : Token) (rest : List Token) :
    Except ImportFault (Import × List Token) :=
  match rest with
  | [] => .error .expectedLocationOrNames
  | first :: afterFirst =>
    match first.kind with
    | .string =>
      .ok (⟨[], .string first.text, ⟨keyword.span.start, first.span.stop⟩⟩, afterFirst)
    | .identifier =>
      match importedNames rest with
      | .error fault => .error fault
      | .ok (names, after) =>
        if (after.head?.map (·.isWord "from")).getD false then
          match after.tail with
          | [] => .error .expectedLocation
          | last :: after =>
            (locationOf last).map fun location =>
              (⟨names, location, ⟨keyword.span.start, last.span.stop⟩⟩, after)
        else
          match names with
          | [⟨name, none⟩] =>
            .ok (⟨[], .identifier name, ⟨keyword.span.start, first.span.stop⟩⟩, after)
          | _ => .error .expectedFrom
    | _ => .error .expectedLocationOrNames

theorem length_lt_of_importDeclaration {keyword : Token} {rest after : List Token} {i : Import}
    (h : importDeclaration keyword rest = .ok (i, after)) : after.length < rest.length := by
  unfold importDeclaration at h
  split at h
  · contradiction
  · rename_i first afterFirst
    split at h
    · obtain ⟨-, rfl⟩ := Prod.mk.inj (Except.ok.inj h)
      simp
    · split at h
      · contradiction
      · rename_i names tokens hn
        have hl := length_lt_of_importedNames hn
        split at h
        · split at h
          · contradiction
          · rename_i last tail ht
            cases hloc : locationOf last with
            | error fault => rw [hloc] at h; contradiction
            | ok location =>
              rw [hloc] at h
              obtain ⟨-, rfl⟩ := Prod.mk.inj (Except.ok.inj h)
              have := congrArg List.length ht
              simp only [List.length_tail, List.length_cons] at this
              omega
        · split at h
          · obtain ⟨-, rfl⟩ := Prod.mk.inj (Except.ok.inj h)
            exact hl
          · contradiction
    · contradiction

end ContractProject.Cadence
