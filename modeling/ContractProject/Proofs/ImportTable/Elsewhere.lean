import ContractProject.Proofs.Project
import Mathlib.Data.List.Find

/-!
Where contracts are that a project knows from elsewhere. Each is known by its name and by the
location of its source, which an alias shares with its canonical contract. Contracts are entered one
after the other, but an alias only makes a location known that is not known yet, so that it makes no
difference to a canonical contract where its aliases stand.
-/

namespace ContractProject.Project

open ImportTable (known?)

variable {p : Project} {network : String} {c : Contract}

/-- Where the source of a contract is, which an alias has from its canonical contract. -/
def sourceLocation (p : Project) (c : Contract) : String :=
  p.location ((p.source? c).getD c.location)

theorem known?_addAlias (addresses : Collection (String × Address)) (k : String) :
    known? (p.addAlias network addresses c) k =
      if c.name = k then (c.aliases.address? network).or (known? addresses k)
      else if p.sourceLocation c = k then
        if Canonical.isAlias c then (known? addresses k).or (c.aliases.address? network)
        else (c.aliases.address? network).or (known? addresses k)
      else known? addresses k := by
  unfold addAlias
  split
  · next h => simp [h]
  · next a h =>
    rw [ImportTable.known?_insert, h, Option.some_or]
    refine if_congr Iff.rfl rfl ?_
    have hlocation : p.location ((p.source? c).getD c.location) = p.sourceLocation c := rfl
    split
    · rw [ImportTable.known?_insertNew, hlocation]
      split <;> simp
    · rw [ImportTable.known?_insert, hlocation]

/-- The address of the last contract that has a key to itself, be it as its name or, if it is no
alias, as the location of its source. -/
def ownAddress? (p : Project) (network : String) (contracts : List Contract) (k : String) :
    Option Address :=
  contracts.reverse.findSome? fun d =>
    if d.name = k ∨ Canonical.isAlias d = false ∧ p.sourceLocation d = k then
      d.aliases.address? network
    else none

/-- The address of the first alias with its source at a location. -/
def aliasAddress? (p : Project) (network : String) (contracts : List Contract)
    (location : String) : Option Address :=
  contracts.findSome? fun d =>
    if Canonical.isAlias d ∧ p.sourceLocation d = location then d.aliases.address? network else none

/-- Contracts take their own keys from those before them, and aliases take what is left. -/
theorem known?_foldl_addAlias (contracts : List Contract)
    (addresses : Collection (String × Address)) (k : String) :
    known? (contracts.foldl (p.addAlias network) addresses) k =
      (p.ownAddress? network contracts k).or
        ((known? addresses k).or (p.aliasAddress? network contracts k)) := by
  induction contracts generalizing addresses with
  | nil => exact (Option.or_none ..).symm
  | cons d contracts ih =>
    have hown : p.ownAddress? network (d :: contracts) k =
        (p.ownAddress? network contracts k).or
          (if d.name = k ∨ Canonical.isAlias d = false ∧ p.sourceLocation d = k then
            d.aliases.address? network else none) := by
      rw [ownAddress?, List.reverse_cons, List.findSome?_append, List.findSome?_singleton]
      rfl
    have hshared : p.aliasAddress? network (d :: contracts) k =
        (if Canonical.isAlias d ∧ p.sourceLocation d = k then d.aliases.address? network
          else none).or (p.aliasAddress? network contracts k) := by
      rw [aliasAddress?, List.findSome?_cons]
      split <;> next h => rw [h]; rfl
    rw [List.foldl_cons, ih, known?_addAlias, hown, hshared, Option.or_assoc]
    refine congrArg (Option.or _) ?_
    cases d.aliases.address? network with
    | none => simp
    | some a =>
      by_cases hname : d.name = k
      · simp [hname]
      · by_cases hlocation : p.sourceLocation d = k <;> cases Canonical.isAlias d <;>
          simp [hname, hlocation]

theorem known?_aliasAddresses (p : Project) (network k : String) :
    known? (p.aliasAddresses network) k =
      (p.ownAddress? network p.manifest.contracts.toList k).or
        (p.aliasAddress? network p.manifest.contracts.toList k) :=
  known?_foldl_addAlias _ _ k

/-- The contracts with an address from elsewhere. -/
def aliased (p : Project) (network : String) : List Contract :=
  p.manifest.contracts.toList.filter fun c => (c.aliases.address? network).isSome

theorem mem_aliased : c ∈ p.aliased network ↔
    c ∈ p.manifest.contracts.toList ∧ (c.aliases.address? network).isSome :=
  List.mem_filter

/-- The first address that is found is the one of the first contract that has one. -/
theorem findSome?_address (contracts : List Contract) (q : Contract → Prop) [DecidablePred q] :
    (contracts.findSome? fun d => if q d then d.aliases.address? network else none) =
      ((contracts.filter fun d => (d.aliases.address? network).isSome).find? q).bind
        (·.aliases.address? network) := by
  induction contracts with
  | nil => rfl
  | cons d contracts ih =>
    rw [List.findSome?_cons, ih]
    cases h : d.aliases.address? network with
    | none => rw [List.filter_cons_of_neg (by simp [h]), ite_self]
    | some a =>
      rw [List.filter_cons_of_pos (by simp [h]), List.find?_cons]
      by_cases hd : q d <;> simp [hd, h]

theorem ownAddress?_eq (p : Project) (network k : String) :
    p.ownAddress? network p.manifest.contracts.toList k =
      ((p.aliased network).reverse.find? fun d =>
        d.name = k ∨ Canonical.isAlias d = false ∧ p.sourceLocation d = k).bind
          (·.aliases.address? network) := by
  rw [ownAddress?, findSome?_address, List.filter_reverse]
  rfl

theorem aliasAddress?_eq (p : Project) (network location : String) :
    p.aliasAddress? network p.manifest.contracts.toList location =
      ((p.aliased network).find? fun d =>
        Canonical.isAlias d ∧ p.sourceLocation d = location).bind (·.aliases.address? network) :=
  findSome?_address _ _

theorem aliasAddress?_eq_none {location : String}
    (h : ∀ d ∈ p.aliased network, p.sourceLocation d ≠ location) :
    p.aliasAddress? network p.manifest.contracts.toList location = none := by
  rw [aliasAddress?_eq, List.find?_eq_none.2 fun d hd => by simp [h d hd], Option.bind_none]

/-- A key that one contract only has to itself leads to its address. -/
theorem ownAddress?_of_unique {k : String} (mem : c ∈ p.manifest.contracts.toList)
    (own : c.name = k ∨ Canonical.isAlias c = false ∧ p.sourceLocation c = k)
    (unique : ∀ d ∈ p.aliased network,
      d.name = k ∨ Canonical.isAlias d = false ∧ p.sourceLocation d = k → d = c) :
    p.ownAddress? network p.manifest.contracts.toList k = c.aliases.address? network := by
  rw [ownAddress?_eq]
  cases hc : c.aliases.address? network with
  | some a =>
    have hmem : c ∈ p.aliased network := mem_aliased.2 ⟨mem, by rw [hc, Option.isSome_some]⟩
    rw [find?_of_unique (List.mem_reverse.2 hmem) own fun d hd => unique d (List.mem_reverse.1 hd),
      Option.bind_some, hc]
  | none =>
    rw [List.find?_eq_none.2 fun d hd => ?_, Option.bind_none]
    have hd := List.mem_reverse.1 hd
    intro hq
    obtain rfl := unique d hd (by simpa using hq)
    have hsome := (mem_aliased.1 hd).2
    rw [hc] at hsome
    cases hsome

/-- By its name a contract is known at its own address only. -/
theorem known?_aliasAddresses_name (names : p.manifest.contracts.keys.Nodup)
    (mem : c ∈ p.manifest.contracts.toList)
    (location : ∀ d ∈ p.aliased network, p.sourceLocation d ≠ c.name) :
    known? (p.aliasAddresses network) c.name = c.aliases.address? network := by
  rw [known?_aliasAddresses, aliasAddress?_eq_none location, Option.or_none]
  refine ownAddress?_of_unique mem (.inl rfl) fun d hd own => ?_
  have hname : d.name = c.name := own.resolve_right fun h => location d hd h.2
  have hget := Collection.get?_of_mem names (mem_aliased.1 hd).1
  rw [show key d = key c from hname, Collection.get?_of_mem names mem] at hget
  exact (Option.some.inj hget).symm

/-- The contract that a location leads to: the last one there that is no alias, or else the first
alias. -/
def holder? (p : Project) (network location : String) : Option Contract :=
  ((p.aliased network).reverse.find? fun d =>
    Canonical.isAlias d = false ∧ p.sourceLocation d = location).or
  ((p.aliased network).find? fun d => Canonical.isAlias d ∧ p.sourceLocation d = location)

theorem known?_aliasAddresses_location {location : String}
    (names : ∀ d ∈ p.aliased network, d.name ≠ location) :
    known? (p.aliasAddresses network) location =
      (p.holder? network location).bind (·.aliases.address? network) := by
  have hown : (p.aliased network).reverse.find? (fun d =>
      d.name = location ∨ Canonical.isAlias d = false ∧ p.sourceLocation d = location) =
      (p.aliased network).reverse.find? fun d =>
        Canonical.isAlias d = false ∧ p.sourceLocation d = location :=
    List.find?_congr fun d hd => by simp [names d (List.mem_reverse.1 hd)]
  rw [known?_aliasAddresses, ownAddress?_eq, aliasAddress?_eq, hown, holder?]
  cases hfind : (p.aliased network).reverse.find? fun d =>
      Canonical.isAlias d = false ∧ p.sourceLocation d = location with
  | none => rfl
  | some d =>
    have hd := (mem_aliased.1 (List.mem_reverse.1 (List.mem_of_find?_eq_some hfind))).2
    rw [Option.some_or, Option.bind_some, Option.or_of_isSome hd]

/-- Where only one contract has its source that is no alias, this is the one. -/
theorem holder?_of_own (mem : c ∈ p.aliased network) (own : Canonical.isAlias c = false)
    (only : ∀ d ∈ p.aliased network, Canonical.isAlias d = false →
      p.sourceLocation d = p.sourceLocation c → d = c) :
    p.holder? network (p.sourceLocation c) = some c := by
  rw [holder?, find?_of_unique (List.mem_reverse.2 mem) ⟨own, rfl⟩ fun d hd hq =>
    only d (List.mem_reverse.1 hd) hq.1 hq.2, Option.some_or]

theorem exists_holder? (mem : c ∈ p.aliased network) :
    ∃ d ∈ p.aliased network, p.holder? network (p.sourceLocation c) = some d := by
  have hsome : (p.holder? network (p.sourceLocation c)).isSome := by
    rw [holder?, Option.isSome_or, Bool.or_eq_true, List.find?_isSome, List.find?_isSome]
    cases hc : Canonical.isAlias c with
    | false => exact .inl ⟨c, List.mem_reverse.2 mem, by simp [hc]⟩
    | true => exact .inr ⟨c, mem, by simp [hc]⟩
  obtain ⟨d, hd⟩ := Option.isSome_iff_exists.1 hsome
  refine ⟨d, ?_, hd⟩
  rcases Option.or_eq_some_iff.1 hd with h | ⟨-, h⟩
  · exact List.mem_reverse.1 (List.mem_of_find?_eq_some h)
  · exact List.mem_of_find?_eq_some h

theorem nodup_keys_aliasAddresses (p : Project) (network : String) :
    (p.aliasAddresses network).keys.Nodup := by
  have hstep (addresses : Collection (String × Address)) (d : Contract)
      (h : addresses.keys.Nodup) : (p.addAlias network addresses d).keys.Nodup := by
    unfold addAlias
    split
    · exact h
    · refine nodup_put ?_
      split
      · exact Collection.nodup_keys_insertNew h _
      · exact nodup_put h
  have hfold (contracts : List Contract) (addresses : Collection (String × Address))
      (h : addresses.keys.Nodup) :
      (contracts.foldl (p.addAlias network) addresses).keys.Nodup := by
    induction contracts generalizing addresses with
    | nil => exact h
    | cons d contracts ih => exact ih _ (hstep addresses d h)
  exact hfold _ _ List.nodup_nil

theorem mem_keys_aliasAddresses {k : String} : k ∈ (p.aliasAddresses network).keys ↔
    ∃ c ∈ p.aliased network, c.name = k ∨ p.sourceLocation c = k := by
  constructor
  · intro hk
    obtain ⟨⟨k, a⟩, he, rfl⟩ := List.mem_map.1 hk
    obtain ⟨c, hc, ha, goesBy⟩ := exists_of_mem_aliasAddresses he
    refine ⟨c, mem_aliased.2 ⟨hc, by rw [ha, Option.isSome_some]⟩, ?_⟩
    cases goesBy with
    | location => exact .inr rfl
    | name => exact .inl rfl
  · have named (d : Contract) (hd : d ∈ p.aliased network) :
        d.name ∈ (p.aliasAddresses network).keys := by
      obtain ⟨a, ha⟩ := Option.isSome_iff_exists.1 (mem_aliased.1 hd).2
      exact name_mem_aliasAddresses (mem_aliased.1 hd).1 ha
    rintro ⟨c, hc, rfl | rfl⟩
    · exact named c hc
    · by_cases hname : ∃ d ∈ p.aliased network, d.name = p.sourceLocation c
      · obtain ⟨d, hd, hname⟩ := hname
        exact hname ▸ named d hd
      · obtain ⟨d, hd, holds⟩ := exists_holder? hc
        obtain ⟨a, ha⟩ := Option.isSome_iff_exists.1 (mem_aliased.1 hd).2
        have hknown := known?_aliasAddresses_location fun d hd h => hname ⟨d, hd, h⟩
        rw [holds, Option.bind_some, ha] at hknown
        rw [← Collection.contains_iff, Collection.contains, ← Option.isSome_map (f := Prod.snd)]
        exact Option.isSome_iff_exists.2 ⟨a, hknown⟩

/-- If no name is a location, a contract's name leads to its own address. The location of its source
leads to the last contract there that is no alias, or else to the first alias, and so to a canonical
contract wherever its aliases stand. Nothing else is known. -/
theorem aliasAddresses_of_apart (names : p.manifest.contracts.keys.Nodup)
    (apart : ∀ c ∈ p.aliased network, ∀ d ∈ p.aliased network, c.name ≠ p.sourceLocation d) :
    (p.aliasAddresses network).keys.Nodup ∧
    (∀ k, k ∈ (p.aliasAddresses network).keys ↔
      ∃ c ∈ p.aliased network, c.name = k ∨ p.sourceLocation c = k) ∧
    ∀ c ∈ p.aliased network,
      known? (p.aliasAddresses network) c.name = c.aliases.address? network ∧
      (∃ d ∈ p.aliased network, p.holder? network (p.sourceLocation c) = some d ∧
        known? (p.aliasAddresses network) (p.sourceLocation c) = d.aliases.address? network) ∧
      (Canonical.isAlias c = false →
        (∀ d ∈ p.aliased network, Canonical.isAlias d = false →
          p.sourceLocation d = p.sourceLocation c → d = c) →
        known? (p.aliasAddresses network) (p.sourceLocation c) = c.aliases.address? network) := by
  refine ⟨nodup_keys_aliasAddresses p network, fun k => mem_keys_aliasAddresses, fun c hc => ?_⟩
  have hlocation := known?_aliasAddresses_location fun d hd => apart d hd c hc
  refine ⟨known?_aliasAddresses_name names (mem_aliased.1 hc).1 fun d hd =>
    (apart c hc d hd).symm, ?_, fun own only => ?_⟩
  · obtain ⟨d, hd, holds⟩ := exists_holder? hc
    exact ⟨d, hd, holds, by rw [hlocation, holds, Option.bind_some]⟩
  · rw [hlocation, holder?_of_own hc own only, Option.bind_some]

/-- The address of a contract on the emulator only. -/
def onEmulator (n : Nat) : Aliases := ⟨[⟨emulator, .ofNat n⟩]⟩

/-- A contract with aliases before and after it. -/
def amongAliases : Contract := ⟨"Foo", "Foo.cdc", onEmulator 2, none, false⟩

/-- Aliases with one source, the canonical contract of which is missing. -/
def firstAlias : Contract := ⟨"Bar4", "Bar.cdc", onEmulator 4, some "Bar", false⟩

def secondAlias : Contract := ⟨"Bar5", "./Bar.cdc", onEmulator 5, some "Bar", false⟩

/-- The last one of two contracts with one source. -/
def lastOfTwo : Contract := ⟨"Baz7", "Baz.cdc", onEmulator 7, none, false⟩

def aliasedProject : Project :=
  ⟨Manifest.defaultPath, { Manifest.initial with
    contracts := ⟨[⟨"Foo1", "Foo1.cdc", onEmulator 1, some "Foo", false⟩, amongAliases,
      ⟨"Foo3", "Foo3.cdc", onEmulator 3, some "Foo", false⟩, firstAlias, secondAlias,
      ⟨"Baz6", "Baz.cdc", onEmulator 6, none, false⟩, lastOfTwo,
      ⟨"Qux", "Qux.cdc", .empty, none, false⟩]⟩ }⟩

theorem aliasAddresses_of_aliasedProject :
    known? (aliasedProject.aliasAddresses emulator) "Bar5" = some (.ofNat 5) ∧
      known? (aliasedProject.aliasAddresses emulator) "Foo.cdc" = some (.ofNat 2) ∧
      known? (aliasedProject.aliasAddresses emulator) "Bar.cdc" = some (.ofNat 4) ∧
      known? (aliasedProject.aliasAddresses emulator) "Baz.cdc" = some (.ofNat 7) ∧
      "Foo1.cdc" ∉ (aliasedProject.aliasAddresses emulator).keys ∧
      "Qux" ∉ (aliasedProject.aliasAddresses emulator).keys := by
  have names : aliasedProject.manifest.contracts.keys.Nodup := by decide
  have apart : ∀ c ∈ aliasedProject.aliased emulator, ∀ d ∈ aliasedProject.aliased emulator,
      c.name ≠ aliasedProject.sourceLocation d := by decide +kernel
  obtain ⟨-, keys, known⟩ := aliasAddresses_of_apart names apart
  have located (c d : Contract) (location : String) (hc : c ∈ aliasedProject.aliased emulator)
      (hlocation : aliasedProject.sourceLocation c = location)
      (hd : aliasedProject.holder? emulator location = some d) :
      known? (aliasedProject.aliasAddresses emulator) location = d.aliases.address? emulator := by
    obtain ⟨d', -, holds, h⟩ := (known c hc).2.1
    rw [hlocation] at holds h
    rw [h, Option.some.inj (holds.symm.trans hd)]
  have foo : amongAliases ∈ aliasedProject.aliased emulator :=
    mem_aliased.2 ⟨by simp [aliasedProject], rfl⟩
  have bar : secondAlias ∈ aliasedProject.aliased emulator :=
    mem_aliased.2 ⟨by simp [aliasedProject], rfl⟩
  have baz : lastOfTwo ∈ aliasedProject.aliased emulator :=
    mem_aliased.2 ⟨by simp [aliasedProject], rfl⟩
  have foo_location : aliasedProject.sourceLocation amongAliases = "Foo.cdc" := by decide +kernel
  refine ⟨(known secondAlias bar).1, ?_,
    located secondAlias firstAlias _ bar (by decide +kernel) (by decide +kernel),
    located lastOfTwo lastOfTwo _ baz (by decide +kernel) (by decide +kernel), ?_, ?_⟩
  · exact foo_location ▸ (known amongAliases foo).2.2 (by decide) (by decide +kernel)
  · rw [keys]
    decide +kernel
  · rw [keys]
    decide +kernel

end ContractProject.Project
