import ContractProject.Json.Record
import ContractProject.Proofs.Collection
import ContractProject.Proofs.Json.Document
import ContractProject.Proofs.Result

/-!
What is read out of a document that a value is written as: the value itself, the fields of records,
the items of lists and the entries of mappings.
-/

namespace ContractProject

namespace Json

/-! ### Numbers that are kept -/

theorem significand_push_lt {l : Leading} (h : l.significand < significandLimit) (c : Char) :
    (l.push c).significand < significandLimit := by
  unfold Leading.push
  dsimp only
  split
  · next hc => exact hc.2
  · exact h

theorem significand_foldl_push_lt (digits : List Char) {l : Leading}
    (h : l.significand < significandLimit) :
    (digits.foldl Leading.push l).significand < significandLimit := by
  induction digits generalizing l with
  | nil => exact h
  | cons c digits ih => exact ih (significand_push_lt h c)

theorem doubleOf?_ne_integer {negative : Bool} {significand : Nat} {exponent n : Int} :
    doubleOf? negative significand exponent ≠ some (.integer n) := by
  intro h
  obtain ⟨x, -, h⟩ := Option.bind_eq_some_iff.1 h
  obtain ⟨y, -, h⟩ := Option.bind_eq_some_iff.1 h
  cases h

/-- An integer that is kept as such is read back. -/
theorem readsBack_of_value? {l : NumberLiteral} {n : Int} (h : l.value? = some (.integer n)) :
    (Number.integer n).ReadsBack := by
  have hlimit := significand_foldl_push_lt l.whole (l := ⟨0, 0, 0⟩) (by decide)
  have hsize : significandLimit = 2 ^ 64 := by decide
  unfold NumberLiteral.value? at h
  dsimp only at h
  split_ifs at h with hinteger hpositive hdouble
  · obtain ⟨rfl⟩ := h
    exact readsBack_integer (by omega) (by omega)
  · exact absurd h doubleOf?_ne_integer
  · obtain ⟨rfl⟩ := h
    exact readsBack_integer (by omega) (by omega)
  · exact absurd h doubleOf?_ne_integer

/-- Fields with distinct names are kept as they are. -/
theorem ofFields_of_nodup {fields : List (String × Json)} (nodup : (fields.map Prod.fst).Nodup) :
    ofFields fields = .object fields := by
  rw [ofFields, foldl_put_nil_of_nodup nodup]

/-! ### The numbers of a value -/

@[simp] theorem mem_numbers_array {n : Number} {items : List Json} :
    n ∈ (array items).numbers ↔ ∃ v ∈ items, n ∈ v.numbers := by
  rw [numbers]
  induction items with
  | nil => simp [itemNumbers]
  | cons v items ih => simp [itemNumbers, ih]

@[simp] theorem mem_numbers_object {n : Number} {fields : List (String × Json)} :
    n ∈ (object fields).numbers ↔ ∃ f ∈ fields, n ∈ f.2.numbers := by
  rw [numbers]
  induction fields with
  | nil => simp [fieldNumbers]
  | cons f fields ih => simp [fieldNumbers, ih]

theorem NumbersReadBack.array {items : List Json} (h : ∀ v ∈ items, v.NumbersReadBack) :
    (Json.array items).NumbersReadBack := by
  intro n hn
  obtain ⟨v, hv, hn⟩ := mem_numbers_array.1 hn
  exact h v hv n hn

theorem NumbersReadBack.object {fields : List (String × Json)}
    (h : ∀ f ∈ fields, f.2.NumbersReadBack) : (Json.object fields).NumbersReadBack := by
  intro n hn
  obtain ⟨f, hf, hn⟩ := mem_numbers_object.1 hn
  exact h f hf n hn

theorem NumbersReadBack.of_array {items : List Json} (h : (Json.array items).NumbersReadBack)
    {v : Json} (hv : v ∈ items) : v.NumbersReadBack :=
  fun n hn => h n (mem_numbers_array.2 ⟨v, hv, hn⟩)

theorem NumbersReadBack.of_object {fields : List (String × Json)}
    (h : (Json.object fields).NumbersReadBack) {f : String × Json} (hf : f ∈ fields) :
    f.2.NumbersReadBack :=
  fun n hn => h n (mem_numbers_object.2 ⟨f, hf, hn⟩)

theorem NumbersReadBack.doubles {j : Json} (h : j.NumbersReadBack) : j.DoublesReadBack :=
  fun _ hx => h _ hx

theorem DoublesReadBack.of_array {items : List Json} (h : (array items).DoublesReadBack)
    {v : Json} (hv : v ∈ items) : v.DoublesReadBack :=
  fun x hx => h x (mem_numbers_array.2 ⟨v, hv, hx⟩)

theorem DoublesReadBack.of_object {fields : List (String × Json)}
    (h : (object fields).DoublesReadBack) {f : String × Json} (hf : f ∈ fields) :
    f.2.DoublesReadBack :=
  fun x hx => h x (mem_numbers_object.2 ⟨f, hf, hx⟩)

/-! ### The names in a value -/

/-- No object in the value has two fields with one name. -/
inductive NamesDistinct : Json → Prop where
  | null : NamesDistinct .null
  | bool (b : Bool) : NamesDistinct (.bool b)
  | number (n : Number) : NamesDistinct (.number n)
  | string (text : String) : NamesDistinct (.string text)
  | array {items : List Json} (items_distinct : ∀ v ∈ items, NamesDistinct v) :
    NamesDistinct (.array items)
  | object {fields : List (String × Json)} (names : (fields.map Prod.fst).Nodup)
    (fields_distinct : ∀ f ∈ fields, NamesDistinct f.2) : NamesDistinct (.object fields)

end Json

namespace Document

open Json (Number NumberLiteral)

theorem ofItems_eq_map (items : List Json) : ofItems items = items.map ofJson := by
  induction items with
  | nil => rfl
  | cons item items ih => rw [ofItems, ih, List.map_cons]

theorem ofMembers_eq_map (fields : List (String × Json)) :
    ofMembers fields = fields.map fun f => (some f.1, ofJson f.2) := by
  induction fields with
  | nil => rfl
  | cons field fields ih => rw [ofMembers, ih, List.map_cons]

/-! ### Values -/

/-- As far as its doubles are read back, the value is read from the document that it is written as,
where that has so much room. -/
def Restored (room : Nat) (j : Json) : Prop :=
  j.DoublesReadBack → j.NumbersReadBack ∧ value? room (ofJson j) = some j

section Values

variable {room : Nat}

theorem restored_array {items : List Json} (h : ∀ v ∈ items, Restored room v) :
    Restored (room + 1) (.array items) := by
  intro doubles
  have hback (v : Json) (hv : v ∈ items) := h v hv (doubles.of_array hv)
  refine ⟨.array fun v hv => (hback v hv).1, ?_⟩
  have hvalues : values? room (ofItems items) = some items := by
    clear doubles h
    induction items with
    | nil => rfl
    | cons v items ih =>
      rw [ofItems, values?, (hback v List.mem_cons_self).2,
        ih fun v hv => hback v (List.mem_cons_of_mem _ hv)]
  rw [ofJson, value?, hvalues, Option.map_some]

theorem restored_object {fields : List (String × Json)} (nodup : (fields.map Prod.fst).Nodup)
    (h : ∀ f ∈ fields, Restored room f.2) : Restored (room + 1) (.object fields) := by
  intro doubles
  have hback (f) (hf : f ∈ fields) := h f hf (doubles.of_object hf)
  refine ⟨.object fun f hf => (hback f hf).1, ?_⟩
  have hvalues : fieldValues? room (ofMembers fields) = some fields := by
    clear doubles h nodup
    induction fields with
    | nil => rfl
    | cons f fields ih =>
      simp only [ofMembers, fieldValues?, (hback f List.mem_cons_self).2,
        ih fun f hf => hback f (List.mem_cons_of_mem _ hf)]
  rw [ofJson, value?, hvalues, Option.map_some, Json.ofFields_of_nodup nodup]

theorem restored_string (text : String) : Restored room (.string text) :=
  fun _ => ⟨fun n hn => by simp [Json.numbers] at hn, rfl⟩

/-- What a document is read as, where there is so much room. -/
inductive Readable : Nat → Json → Prop where
  | null {room : Nat} : Readable room .null
  | bool {room : Nat} (b : Bool) : Readable room (.bool b)
  | number {room : Nat} {l : NumberLiteral} {n : Number} (h : l.value? = some n) :
    Readable room (.number n)
  | string {room : Nat} (text : String) : Readable room (.string text)
  | array {room : Nat} {items : List Json} (h : ∀ v ∈ items, Readable room v) :
    Readable (room + 1) (.array items)
  | object {room : Nat} {fields : List (String × Json)} (names : (fields.map Prod.fst).Nodup)
    (h : ∀ f ∈ fields, Readable room f.2) : Readable (room + 1) (.object fields)

mutual

theorem readable_of_value? {room : Nat} (d : Document) {j : Json} (h : value? room d = some j) :
    Readable room j := by
  match d with
  | .null =>
    cases h
    exact .null
  | .bool b =>
    cases h
    exact .bool b
  | .number l =>
    obtain ⟨n, hn, rfl⟩ := Option.map_eq_some_iff.1 h
    exact .number hn
  | .string text =>
    obtain ⟨text, rfl, rfl⟩ := Option.map_eq_some_iff.1 h
    exact .string text
  | .array items =>
    match room with
    | 0 => cases h
    | room + 1 =>
      obtain ⟨vs, hvs, rfl⟩ := Option.map_eq_some_iff.1 h
      exact .array (readable_of_values? items hvs)
  | .object fields =>
    match room with
    | 0 => cases h
    | room + 1 =>
      -- of fields with one name one is kept, so the names are distinct and each field was read
      obtain ⟨fs, hfs, rfl⟩ := Option.map_eq_some_iff.1 h
      exact .object (nodup_foldl_put fs List.nodup_nil) fun f hf =>
        readable_of_fieldValues? fields hfs f ((mem_foldl_put fs hf).resolve_right (by simp))

theorem readable_of_values? {room : Nat} (items : List Document) {vs : List Json}
    (h : values? room items = some vs) : ∀ v ∈ vs, Readable room v := by
  match items with
  | [] =>
    cases h
    simp
  | item :: items =>
    rw [values?] at h
    split at h
    · next v rest hv hrest =>
      obtain rfl := Option.some.inj h
      exact List.forall_mem_cons.2 ⟨readable_of_value? item hv, readable_of_values? items hrest⟩
    · cases h

theorem readable_of_fieldValues? {room : Nat} (fields : List (Option String × Document))
    {fs : List (String × Json)} (h : fieldValues? room fields = some fs) :
    ∀ f ∈ fs, Readable room f.2 := by
  match fields with
  | [] =>
    cases h
    simp
  | (name, item) :: fields =>
    simp only [fieldValues?] at h
    split at h
    · next n v rest hv hrest =>
      obtain rfl := Option.some.inj h
      exact List.forall_mem_cons.2
        ⟨readable_of_value? item hv, readable_of_fieldValues? fields hrest⟩
    · cases h

end

theorem restored_of_readable {j : Json} (h : Readable room j) : Restored room j := by
  induction h with
  | null | bool _ => exact fun _ => ⟨fun n hn => by simp [Json.numbers] at hn, rfl⟩
  | @number room l n hn =>
    intro doubles
    have hback : n.ReadsBack := by
      cases n with
      | integer n => exact Json.readsBack_of_value? hn
      | double x => exact doubles x List.mem_cons_self
    refine ⟨fun m hm => ?_, by rw [ofJson, value?, hback.value?_literal, Option.map_some]⟩
    obtain rfl : m = n := by simpa [Json.numbers] using hm
    exact hback
  | string text => exact restored_string text
  | array _ ih => exact restored_array ih
  | object names _ ih => exact restored_object names ih

/-- A value that is read from any document is restored. -/
theorem restored_of_value? (d : Document) {j : Json} (h : value? room d = some j) :
    Restored room j :=
  restored_of_readable (readable_of_value? d h)

/-- Each item of a written list is readable if the list is. -/
theorem exists_value?_of_array {items : List Json} {v : Json}
    (h : value? (room + 1) (ofJson (.array items)) = some v) :
    ∀ item ∈ items, ∃ w, value? room (ofJson item) = some w := by
  obtain ⟨vs, hvs, -⟩ := Option.map_eq_some_iff.1 h
  clear h
  induction items generalizing vs with
  | nil => simp
  | cons item items ih =>
    rw [ofItems, values?] at hvs
    split at hvs
    · next w rest hw hrest => exact List.forall_mem_cons.2 ⟨⟨w, hw⟩, ih rest hrest⟩
    · cases hvs

/-- Each field of a written object is readable if the object is. -/
theorem exists_value?_of_object {fields : List (String × Json)} {v : Json}
    (h : value? (room + 1) (ofJson (.object fields)) = some v) :
    ∀ f ∈ fields, ∃ w, value? room (ofJson f.2) = some w := by
  obtain ⟨vs, hvs, -⟩ := Option.map_eq_some_iff.1 h
  clear h
  induction fields generalizing vs with
  | nil => simp
  | cons f fields ih =>
    simp only [ofMembers, fieldValues?] at hvs
    split at hvs
    · next n w rest _ hw hrest => exact List.forall_mem_cons.2 ⟨⟨w, hw⟩, ih rest hrest⟩
    · cases hvs

/-- If the written form of a value can be read, it is read as the value. -/
theorem restored_of_value?_ofJson {j v : Json} (distinct : j.NamesDistinct)
    (back : j.NumbersReadBack) (h : value? room (ofJson j) = some v) : Restored room j := by
  induction distinct generalizing room v with
  | null | bool _ => exact fun _ => ⟨back, rfl⟩
  | string text => exact restored_string text
  | number n =>
    have hn : n.ReadsBack := back n List.mem_cons_self
    exact fun _ => ⟨back, by rw [ofJson, value?, hn.value?_literal, Option.map_some]⟩
  | array _ ih =>
    cases room with
    | zero => cases h
    | succ room =>
      refine restored_array fun item hitem => ?_
      obtain ⟨w, hw⟩ := exists_value?_of_array h item hitem
      exact ih item hitem (back.of_array hitem) hw
  | object names _ ih =>
    cases room with
    | zero => cases h
    | succ room =>
      refine restored_object names fun f hf => ?_
      obtain ⟨w, hw⟩ := exists_value?_of_object h f hf
      exact ih f hf (back.of_object hf) hw

end Values

/-! ### Records, lists and mappings -/

section Records

variable {α β : Type} {read : Document → Option α}

@[simp] theorem text?_ofJson (text : String) : text? (ofJson (.string text)) = some text := rfl

theorem filter_ofMembers {fields : List (String × Json)} (nodup : (fields.map Prod.fst).Nodup)
    (name : String) :
    (ofMembers fields).filter (·.1 = some name) =
      ((lookup? name fields).map fun f => (some f.1, ofJson f.2)).toList := by
  induction fields with
  | nil => rfl
  | cons f fields ih =>
    rw [List.map_cons, List.nodup_cons] at nodup
    rw [ofMembers, List.filter_cons, ih nodup.2, lookup?_cons, key_pair]
    by_cases hname : f.1 = name
    · have hrest : lookup? name fields = none := lookup?_eq_none_iff.2 (hname ▸ nodup.1)
      rw [if_pos (by simpa using hname), if_pos hname, hrest]
      rfl
    · rw [if_neg (by simpa using hname), if_neg hname]

/-- A name that is written at most once is found. -/
theorem field?_ofMembers {fields : List (String × Json)} (nodup : (fields.map Prod.fst).Nodup)
    (name : String) :
    field? (ofMembers fields) name = some ((lookup? name fields).map fun f => ofJson f.2) := by
  rw [field?, filter_ofMembers nodup]
  cases lookup? name fields <;> rfl

theorem record?_ofJson {fields : List (String × Json)} (nodup : (fields.map Prod.fst).Nodup)
    (names : List String) :
    record? names (ofJson (.object fields)) =
      some (names.map fun name => (lookup? name fields).map fun f => ofJson f.2) := by
  have htexts : (ofMembers fields).all (·.1.isSome) := by simp [ofMembers_eq_map]
  have hfields : names.mapM (field? (ofMembers fields)) =
      some (names.map fun name => (lookup? name fields).map fun f => ofJson f.2) := by
    rw [mapM_eq_some_iff, List.forall₂_map_right_iff, List.forall₂_same]
    exact fun name _ => field?_ofMembers nodup name
  rw [ofJson, record?, if_pos htexts, hfields]

theorem listedRecord?_ofJson {fields : List (String × Json)} (nodup : (fields.map Prod.fst).Nodup)
    (names : List String) :
    listedRecord? names (ofJson (.object fields)) =
      some (names.map fun name => (lookup? name fields).map fun f => ofJson f.2) :=
  record?_ofJson nodup names

theorem list?_ofJson {items : List β} {f : β → Json} {g : β → α}
    (h : ∀ x ∈ items, read (ofJson (f x)) = some (g x)) :
    list? read (ofJson (.array (items.map f))) = some (items.map g) := by
  rw [ofJson, ofItems_eq_map, List.map_map, list?, mapM_eq_some_iff, List.forall₂_map_left_iff,
    List.forall₂_map_right_iff, List.forall₂_same]
  exact h

theorem exists_of_list? {d : Document} {xs : List α} (h : list? read d = some xs) :
    ∀ x ∈ xs, ∃ item, read item = some x := by
  cases d with
  | array items =>
    intro x hx
    obtain ⟨item, -, hread⟩ := exists_of_forall₂ (mapM_eq_some_iff.1 h) x hx
    exact ⟨item, hread⟩
  | _ => cases h

/-- Each item of a written list is read if the list is. -/
theorem exists_of_list?_ofJson {items : List Json} {xs : List α}
    (h : list? read (ofJson (.array items)) = some xs) :
    ∀ item ∈ items, ∃ x, read (ofJson item) = some x := by
  rw [ofJson, ofItems_eq_map, list?, mapM_eq_some_iff, List.forall₂_map_left_iff] at h
  intro item hitem
  obtain ⟨x, -, hx⟩ := exists_of_forall₂ h.flip item hitem
  exact ⟨x, hx⟩

/-- The entries of a mapping with distinct names come as they are written. -/
theorem mapM_ofMembers {entries : List β} {name : β → String} {f : β → Json} {g : β → α}
    (h : ∀ e ∈ entries, read (ofJson (f e)) = some (g e)) :
    (ofMembers (entries.map fun e => (name e, f e))).mapM
      (fun (name, d) => do return (← name, ← read d)) =
        some (entries.map fun e => (name e, g e)) := by
  rw [mapM_eq_some_iff, ofMembers_eq_map, List.map_map, List.forall₂_map_left_iff,
    List.forall₂_map_right_iff, List.forall₂_same]
  intro e he
  simp [h e he]

theorem mapping?_ofJson {entries : List β} {name : β → String} {f : β → Json} {g : β → α}
    (nodup : (entries.map name).Nodup) (h : ∀ e ∈ entries, read (ofJson (f e)) = some (g e)) :
    mapping? read (ofJson (.object (entries.map fun e => (name e, f e)))) =
      some (entries.map fun e => (name e, g e)) := by
  have hdistinct : ((entries.map fun e => (name e, g e)).map key).Nodup := by
    simpa [key, Function.comp_def] using nodup
  rw [ofJson, mapping?, mapM_ofMembers h]
  exact congrArg some (foldl_put_nil_of_nodup hdistinct)

/-- Each field of a written object is read if the object is read as a mapping. -/
theorem exists_of_mapping?_ofJson {fields : List (String × Json)} {entries : List (String × α)}
    (h : mapping? read (ofJson (.object fields)) = some entries) :
    ∀ f ∈ fields, ∃ x, read (ofJson f.2) = some x := by
  rw [ofJson, mapping?] at h
  obtain ⟨pairs, hpairs, -⟩ := Option.bind_eq_some_iff.1 h
  rw [ofMembers_eq_map, mapM_eq_some_iff, List.forall₂_map_left_iff] at hpairs
  intro f hf
  obtain ⟨pair, -, hpair⟩ := exists_of_forall₂ hpairs.flip f hf
  obtain ⟨name, -, hpair⟩ := Option.bind_eq_some_iff.1 hpair
  obtain ⟨x, hx, -⟩ := Option.bind_eq_some_iff.1 hpair
  exact ⟨x, hx⟩

/-- What is read of a mapping: entries with distinct names, each of which is readable. -/
theorem of_mapping? {d : Document} {entries : List (String × α)}
    (h : mapping? read d = some entries) :
    (entries.map Prod.fst).Nodup ∧ ∀ e ∈ entries, ∃ item, read item = some e.2 := by
  cases d with
  | object fields =>
    obtain ⟨read, hread, h⟩ := Option.bind_eq_some_iff.1 h
    obtain rfl := Option.some.inj h
    refine ⟨nodup_foldl_put _ List.nodup_nil, fun e he => ?_⟩
    have he := (mem_foldl_put read he).resolve_right (by simp)
    obtain ⟨⟨name, item⟩, -, hentry⟩ := exists_of_forall₂ (mapM_eq_some_iff.1 hread) e he
    obtain ⟨n, -, hentry⟩ := Option.bind_eq_some_iff.1 hentry
    obtain ⟨x, hx, hentry⟩ := Option.bind_eq_some_iff.1 hentry
    obtain rfl := Option.some.inj hentry
    exact ⟨item, hx⟩
  | _ => cases h

end Records

end Document

end ContractProject
