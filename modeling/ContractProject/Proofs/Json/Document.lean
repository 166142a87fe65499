import ContractProject.Json.Document
import ContractProject.Proofs.Json.Token
import ContractProject.Proofs.Text.Utf8

/-!
Documents and their tokens: every document is read back from its tokens, and the written form of a
value has the tokens of one document, provided that the numbers in it are read back.
-/

namespace ContractProject

namespace Document

open Json (Token)

mutual

/-- The tokens of a document. -/
def spelled : Document → List Token
  | .null => [.null]
  | .bool b => [.bool b]
  | .number n => [.number n]
  | .string text => [.string text]
  | .array [] => [.beginArray, .endArray]
  | .array (item :: items) => .beginArray :: spelled item ++ spelledItems items ++ [.endArray]
  | .object [] => [.beginObject, .endObject]
  | .object ((name, item) :: fields) =>
    .beginObject :: .string name :: .colon :: spelled item ++ spelledFields fields ++ [.endObject]

def spelledItems : List Document → List Token
  | [] => []
  | item :: items => .comma :: spelled item ++ spelledItems items

def spelledFields : List (Option String × Document) → List Token
  | [] => []
  | (name, item) :: fields =>
    .comma :: .string name :: .colon :: spelled item ++ spelledFields fields

end

namespace Progress

theorem run_cons {p q : Progress} {t : Token} (h : p.step t = some q) (ts : List Token) :
    p.run (t :: ts) = q.run ts := by
  rw [run, h]

/-- A value that stands first in an array is no end of it. -/
theorem run_valueOrEnd (d : Document) (opened : List Frame) (ts : List Token) :
    run ⟨opened, .valueOrEnd⟩ (d.spelled ++ ts) = run ⟨opened, .value⟩ (d.spelled ++ ts) := by
  cases d with
  | array items => cases items <;> simp only [spelled, List.cons_append] <;> rfl
  | object fields => cases fields <;> simp only [spelled, List.cons_append] <;> rfl
  | _ => simp only [spelled, List.cons_append]; rfl

mutual

/-- A document is complete after its tokens. -/
theorem run_spelled (d : Document) (opened : List Frame) (ts : List Token) :
    run ⟨opened, .value⟩ (d.spelled ++ ts) = run ⟨opened, .done d⟩ ts := by
  match d with
  | .null => exact run_cons rfl ts
  | .bool b => exact run_cons rfl ts
  | .number n => exact run_cons rfl ts
  | .string text => exact run_cons rfl ts
  | .array [] => exact (run_cons rfl _).trans (run_cons rfl ts)
  | .array (item :: items) =>
    rw [spelled, List.append_assoc, List.append_assoc, List.cons_append]
    refine (run_cons rfl _).trans ?_
    rw [run_valueOrEnd, run_spelled item, List.singleton_append, run_spelledItems items]
    rfl
  | .object [] => exact (run_cons rfl _).trans (run_cons rfl ts)
  | .object ((name, item) :: fields) =>
    rw [spelled, List.append_assoc, List.append_assoc, List.cons_append, List.cons_append,
      List.cons_append]
    refine (run_cons rfl _).trans ((run_cons rfl _).trans ((run_cons rfl _).trans ?_))
    rw [run_spelled item, List.singleton_append, run_spelledFields fields]
    rfl

theorem run_spelledItems (items : List Document) (before : List Document) (d : Document)
    (opened : List Frame) (ts : List Token) :
    run ⟨.array before :: opened, .done d⟩ (spelledItems items ++ .endArray :: ts) =
      run ⟨opened, .done (.array (before.reverse ++ d :: items))⟩ ts := by
  match items with
  | [] =>
    refine (run_cons rfl ts).trans ?_
    rw [List.reverse_cons]
  | item :: items =>
    rw [spelledItems, List.append_assoc, List.cons_append]
    refine (run_cons rfl _).trans ?_
    rw [run_spelled item, run_spelledItems items, List.reverse_cons, List.append_assoc,
      List.singleton_append]

theorem run_spelledFields (fields : List (Option String × Document))
    (before : List (Option String × Document)) (name : Option String) (d : Document)
    (opened : List Frame) (ts : List Token) :
    run ⟨.member before name :: opened, .done d⟩ (spelledFields fields ++ .endObject :: ts) =
      run ⟨opened, .done (.object (before.reverse ++ (name, d) :: fields))⟩ ts := by
  match fields with
  | [] =>
    refine (run_cons rfl ts).trans ?_
    rw [List.reverse_cons]
  | (next, item) :: fields =>
    rw [spelledFields, List.append_assoc, List.cons_append, List.cons_append, List.cons_append]
    refine (run_cons rfl _).trans ((run_cons rfl _).trans ((run_cons rfl _).trans ?_))
    rw [run_spelled item, run_spelledFields fields, List.reverse_cons, List.append_assoc,
      List.singleton_append]

end

end Progress

/-- Every document is read back from its tokens. -/
theorem ofTokens?_spelled (d : Document) : ofTokens? d.spelled = some d := by
  have hrun := Progress.run_spelled d [] []
  rw [List.append_nil] at hrun
  rw [ofTokens?, hrun]
  rfl

end Document

namespace Json

/-! ### The tokens of written values -/

/-- How a number is spelled where it is written. -/
def Number.literal (n : Number) : NumberLiteral :=
  match tokens (whole n.toText) with
  | some [.number l] => l
  | _ => ⟨false, [], none, none⟩

theorem Number.ReadsBack.tokens_toText {n : Number} (h : n.ReadsBack) :
    tokens (whole n.toText) = some [.number n.literal] := by
  obtain ⟨l, hl, -⟩ := h
  rw [Number.literal, hl]

theorem Number.ReadsBack.value?_literal {n : Number} (h : n.ReadsBack) :
    n.literal.value? = some n := by
  obtain ⟨l, hl, hvalue⟩ := h
  rw [Number.literal, hl]
  exact hvalue

mutual

/-- The numbers that occur in a value. -/
def numbers : Json → List Number
  | .null | .bool _ | .string _ => []
  | .number n => [n]
  | .array items => itemNumbers items
  | .object fields => fieldNumbers fields

def itemNumbers : List Json → List Number
  | [] => []
  | item :: items => numbers item ++ itemNumbers items

def fieldNumbers : List (String × Json) → List Number
  | [] => []
  | (_, item) :: fields => numbers item ++ fieldNumbers fields

end

/-- The numbers of a value are read back. -/
def NumbersReadBack (j : Json) : Prop := ∀ n ∈ j.numbers, n.ReadsBack

/-- The doubles of a value are read back. Their shortest decimals need not be: a decimal is read by
rounded products and quotients. -/
def DoublesReadBack (j : Json) : Prop := ∀ x, .double x ∈ j.numbers → (Number.double x).ReadsBack

end Json

namespace Document

mutual

/-- The document that a value is written as. -/
def ofJson : Json → Document
  | .null => .null
  | .bool b => .bool b
  | .number n => .number n.literal
  | .string text => .string (some text)
  | .array items => .array (ofItems items)
  | .object fields => .object (ofMembers fields)

def ofItems : List Json → List Document
  | [] => []
  | item :: items => ofJson item :: ofItems items

def ofMembers : List (String × Json) → List (Option String × Document)
  | [] => []
  | (name, item) :: fields => (some name, ofJson item) :: ofMembers fields

end

end Document

namespace Json

open Document (spelled spelledItems spelledFields ofJson ofItems ofMembers)

/-- A text that has these tokens, wherever a number may end after it. -/
def Spells (text : List Char) (ts : List Token) : Prop :=
  ∀ rest, Stops rest → tokens (whole text ++ rest) = (tokens rest).map (ts ++ ·)

/-- A number may end before this text. -/
def Closing (text : List Char) : Prop := ∀ rest, Stops rest → Stops (whole text ++ rest)

theorem closing_nil : Closing [] := fun _ h => h

theorem closing_cons {c : Char} (h : isNumeric (some c) = false) (text : List Char) :
    Closing (c :: text) := by
  intro rest _ x hx
  obtain rfl := Option.some.inj hx
  exact h

theorem closing_newline (indent : Nat) (text : List Char) : Closing (newline indent ++ text) :=
  closing_cons (by decide) _

theorem closing_renderItems (indent : Nat) (items : List Json) {text : List Char}
    (h : Closing text) : Closing (renderItems indent items ++ text) := by
  cases items with
  | nil => exact h
  | cons item items => exact closing_cons (by decide) _

theorem closing_renderFields (indent : Nat) (fields : List (String × Json)) {text : List Char}
    (h : Closing text) : Closing (renderFields indent fields ++ text) := by
  cases fields with
  | nil => exact h
  | cons field fields => exact closing_cons (by decide) _

namespace Spells

variable {a b : List Char} {ts us : List Token}

theorem nil : Spells [] [] := fun rest _ => by simp

theorem append (ha : Spells a ts) (hb : Spells b us) (closing : Closing b) :
    Spells (a ++ b) (ts ++ us) := by
  intro rest stops
  rw [whole_append, List.append_assoc, ha _ (closing rest stops), hb rest stops, Option.map_map]
  simp [Function.comp_def]

/-- Text may follow a token that ends by itself. -/
theorem token {c : Char} {t : Token} (h : Spells b us) (hc : isBlank c = false)
    (next : ∀ rest, nextToken c rest = some (t, rest)) : Spells (c :: b) (t :: us) := by
  intro rest stops
  rw [whole_cons, List.cons_append, tokens_of_nextToken hc (next _), h rest stops, Option.map_map]
  simp [Function.comp_def]

theorem blank {c : Char} (h : Spells b us) (hc : isBlank c) : Spells (c :: b) us := by
  intro rest stops
  rw [whole_cons, List.cons_append, tokens_of_blank hc, h rest stops]

theorem newline (h : Spells b us) (indent : Nat) : Spells (newline indent ++ b) us := by
  intro rest stops
  rw [whole_append, List.append_assoc, tokens_newline, h rest stops]

theorem quoted (h : Spells b us) (text : String) :
    Spells (quoted text ++ b) (.string (some text) :: us) := by
  intro rest stops
  rw [whole_append, List.append_assoc, tokens_quoted, h rest stops, Option.map_map]
  simp [Function.comp_def]

theorem word {c : Char} {word : List Char} {t : Token} (hc : isBlank c = false)
    (next : ∀ rest, nextToken c rest = takeWord word t rest) : Spells (c :: word) [t] := by
  intro rest _
  refine tokens_of_nextToken hc ?_
  have hprefix : (word.map some).isPrefixOf (word.map some ++ rest) :=
    List.isPrefixOf_iff_prefix.2 (List.prefix_append _ _)
  have hdrop : (word.map some ++ rest).drop word.length = rest :=
    List.drop_left' (List.length_map _)
  have htake : takeWord word t (word.map some ++ rest) = some (t, rest) := by
    rw [takeWord, if_pos hprefix, hdrop]
  exact (next _).trans htake

theorem number {n : Number} (h : n.ReadsBack) : Spells n.toText [.number n.literal] :=
  fun _ stops => tokens_append_of_number h.tokens_toText stops

end Spells

mutual

/-- The tokens of a written value are those of its document. -/
theorem spells_render (j : Json) (indent : Nat) (back : ∀ n ∈ j.numbers, n.ReadsBack) :
    Spells (render indent j) (ofJson j).spelled := by
  match j with
  | .null => exact .word (by decide) fun _ => rfl
  | .bool true => exact .word (by decide) fun _ => rfl
  | .bool false => exact .word (by decide) fun _ => rfl
  | .number n => exact .number (back n List.mem_cons_self)
  | .string text => simpa [render, ofJson, spelled] using Spells.nil.quoted text
  | .array [] =>
    have hend : Spells [']'] [.endArray] := Spells.nil.token (by decide) fun _ => rfl
    exact hend.token (by decide) fun _ => rfl
  | .array (item :: items) =>
    rw [numbers, itemNumbers, List.forall_mem_append] at back
    have hend : Spells [']'] [.endArray] := Spells.nil.token (by decide) fun _ => rfl
    -- put together from the end: an item may be a number, so what follows it must be known
    have hitems := (spells_renderItems items (indent + 1) back.2).append (hend.newline indent)
      (closing_newline indent _)
    have hitem := (spells_render item (indent + 1) back.1).append hitems
      (closing_renderItems _ items (closing_newline indent _))
    have hall := (hitem.newline (indent + 1)).token (c := '[') (by decide) fun _ => rfl
    simpa [render, ofJson, ofItems, spelled] using hall
  | .object [] =>
    have hend : Spells ['\x7d'] [.endObject] := Spells.nil.token (by decide) fun _ => rfl
    exact hend.token (by decide) fun _ => rfl
  | .object ((name, item) :: fields) =>
    rw [numbers, fieldNumbers, List.forall_mem_append] at back
    have hend : Spells ['\x7d'] [.endObject] := Spells.nil.token (by decide) fun _ => rfl
    have hfields := (spells_renderFields fields (indent + 1) back.2).append (hend.newline indent)
      (closing_newline indent _)
    have hitem := (spells_render item (indent + 1) back.1).append hfields
      (closing_renderFields _ fields (closing_newline indent _))
    have hcolon := (hitem.blank (c := ' ') (by decide)).token (c := ':') (by decide) fun _ => rfl
    have hall := ((hcolon.quoted name).newline (indent + 1)).token (c := '\x7b') (by decide)
      fun _ => rfl
    simpa [render, ofJson, ofMembers, spelled] using hall

theorem spells_renderItems (items : List Json) (indent : Nat)
    (back : ∀ n ∈ itemNumbers items, n.ReadsBack) :
    Spells (renderItems indent items) (spelledItems (ofItems items)) := by
  match items with
  | [] => exact .nil
  | item :: items =>
    rw [itemNumbers, List.forall_mem_append] at back
    have hitem := (spells_render item indent back.1).append (spells_renderItems items indent back.2)
      (by simpa using closing_renderItems indent items closing_nil)
    have hall := (hitem.newline indent).token (c := ',') (by decide) fun _ => rfl
    simpa [renderItems, ofItems, spelledItems] using hall

theorem spells_renderFields (fields : List (String × Json)) (indent : Nat)
    (back : ∀ n ∈ fieldNumbers fields, n.ReadsBack) :
    Spells (renderFields indent fields) (spelledFields (ofMembers fields)) := by
  match fields with
  | [] => exact .nil
  | (name, item) :: fields =>
    rw [fieldNumbers, List.forall_mem_append] at back
    have hitem := (spells_render item indent back.1).append
      (spells_renderFields fields indent back.2)
      (by simpa using closing_renderFields indent fields closing_nil)
    have hcolon := (hitem.blank (c := ' ') (by decide)).token (c := ':') (by decide) fun _ => rfl
    have hall := ((hcolon.quoted name).newline indent).token (c := ',') (by decide) fun _ => rfl
    simpa [renderFields, ofMembers, spelledFields] using hall

end

/-- What is written of a value, with blanks around it allowed, is read as its document. -/
theorem parse?_encode_pretty {j : Json} (back : j.NumbersReadBack) :
    Document.parse? (Utf8.encodeString (j.pretty ++ "\n")) = some (ofJson j) := by
  have hline : Spells ['\n'] [] := Spells.nil.blank (by decide)
  have hall := (spells_render j 0 back).append hline (closing_cons (by decide) _) []
    (by simp [Stops])
  have htokens : tokens (whole (render 0 j ++ ['\n'])) = some (ofJson j).spelled := by
    simpa [tokens] using hall
  have htext : (j.pretty ++ "\n").toList = render 0 j ++ ['\n'] := by
    simp [pretty]
  rw [Document.parse?, Utf8.encodeString, htext, Utf8.decodeLoose_encode]
  exact (congrArg (·.bind Document.ofTokens?) htokens).trans (Document.ofTokens?_spelled _)

end Json

end ContractProject
