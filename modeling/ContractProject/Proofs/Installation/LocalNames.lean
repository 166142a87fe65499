import ContractProject.Proofs.Cadence.Unprocessed
import ContractProject.Proofs.Installation.Resolution

/-!
The names by which installed sources import each other. What a contract imports is recorded under
the name that it is deployed under, but the installed form imports it by its local name. Both are
the same unless an import has an alias; so installed sources import only what is there exactly if
all these aliases are names of contracts, too.
-/

namespace ContractProject.Installation

open Cadence (Program Clause Import ImportedName)

/-- All that the installed form of a program imports by name, where the program imports it from an
address, is among these contracts. -/
def Closed (p : Program) (contracts : Contracts) : Prop :=
  ∀ c ∈ p.outline.imports.map Import.clause, ∀ a, c.location = .address a →
    ∀ d ∈ c.bare, ∀ name, d.location = .string name → name ∈ contracts.keys

/-- The aliases that a program gives to what it imports from addresses. -/
def GivesAlias (p : Program) (name : String) : Prop :=
  ∃ c ∈ p.outline.imports.map Import.clause, ∃ a, c.location = .address a ∧
    ∃ n ∈ c.names, n.localAs = some name

theorem closed_iff {p : Program} {contracts : Contracts} :
    Closed p contracts ↔ ∀ c ∈ p.outline.imports.map Import.clause, ∀ a, c.location = .address a →
      ∀ n ∈ c.names, n.localName ∈ contracts.keys := by
  refine forall₂_congr fun c _ => forall₂_congr fun a ha => ?_
  have hbare : c.bare = c.names.map fun n => ⟨[], .string n.localName⟩ := by rw [Clause.bare, ha]
  rw [hbare, List.forall_mem_map]
  simp

/-- If what is imported is there by its own name, all that matters is that the aliases are there. -/
theorem closed_iff_aliases {p : Program} {contracts : Contracts}
    (own : ∀ c ∈ p.outline.imports.map Import.clause, ∀ a, c.location = .address a →
      ∀ n ∈ c.names, n.name ∈ contracts.keys) :
    Closed p contracts ↔ ∀ name, GivesAlias p name → name ∈ contracts.keys := by
  rw [closed_iff]
  constructor
  · rintro closed name ⟨c, hc, a, ha, n, hn, hname⟩
    have := closed c hc a ha n hn
    rwa [ImportedName.localName, hname] at this
  · intro aliases c hc a ha n hn
    rw [ImportedName.localName]
    cases hname : n.localAs with
    | none => exact own c hc a ha n hn
    | some name => exact aliases name ⟨c, hc, a, ha, n, hn, hname⟩

variable {σ : Type} [Storage σ] {gateways : Gateways} {network : Option String} {permits : Nat}
  {s : Fetching σ} {i : Installation σ} {root t : Target}

/-! ### Imports that are followed -/

/-- What is fetched beside the root has been imported by what was found, and so the root was. -/
theorem ComesTo.eq_or_found (h : ComesTo gateways network root t) :
    t = root ∨ root.Found gateways := by
  induction h with
  | first => exact .inl rfl
  | imported _ found _ ih =>
    rcases ih with rfl | ih
    · exact .inr ⟨_, found⟩
    · exact .inr ih

/-- What is imported has a contract under its own name, if all that is imported was found. -/
theorem mem_keys_of_imports (leads : Leads gateways network permits (.start root i) s)
    (ended : s.fetches = 0) (ok : s.failures = [])
    (complete : ∀ o ∈ s.log, o.target ≠ root → o.target.Found gateways) {o : Outcome}
    (ho : o ∈ s.log) {p : Program} (found : gateways.Finds o.target.source p) {c : Source}
    (hc : c ∈ imports network o.target.source p) :
    c.contract ∈ s.installation.project.manifest.contracts.keys := by
  have followed := followed_of_leads leads ok
  have foundRoot : root.Found gateways := by
    rcases (comesTo_of_mem_log leads o ho).eq_or_found with heq | foundRoot
    · exact heq ▸ ⟨p, found⟩
    · exact foundRoot
  -- its mark has been left, by a target that has settled since then
  have visited := (followed.imports o ho p found c hc).resolve_right (ended ▸ not_awaits_zero)
  obtain ⟨u, hu, hmark⟩ := (mem_visited_iff leads ended ok).1 visited
  have hfound : u.target.Found gateways := by
    by_cases heq : u.target = root
    · exact heq ▸ foundRoot
    · exact complete u hu heq
  rw [(mem_keys_of_leads leads (written_of_failures gateways ok) c.contract).2]
  exact .inr ⟨u, hu, hfound, congrArg Source.contract hmark⟩

/-- After a contract has been installed for which all that is imported was found, what it and its
imports have as their installed forms imports only contracts of the project exactly if each alias
that one of them gives is the name of a contract from before or of one that was recorded. This holds
whatever the order of the fetches; `add` takes one of these orders. -/
theorem closed_iff_aliases_recorded (gateways : Gateways) (network : Option String) (root : Target)
    (permits : Nat) (i : Installation σ) :
    (∀ s, Leads gateways network permits (.start root i) s → s.fetches = 0 → s.result = .ok () →
      (∀ o ∈ s.log, ∀ p, gateways.Finds o.target.source p → ∃ q, p.convertImports = (q, .ok ()) ∧
        q.outline.imports.map Import.clause =
          (p.outline.imports.map Import.clause).flatMap Clause.bare) ∧
      ((∀ o ∈ s.log, o.target ≠ root → o.target.Found gateways) →
        ((∀ o ∈ s.log, ∀ p, gateways.Finds o.target.source p →
            Closed p s.installation.project.manifest.contracts) ↔
          ∀ o ∈ s.log, ∀ p, gateways.Finds o.target.source p → ∀ name, GivesAlias p name →
            name ∈ i.project.manifest.contracts.keys ∨ Records gateways s.log name))) ∧
    ∃ s, Leads gateways network permits (.start root i) s ∧ s.fetches = 0 ∧
      add gateways network root.name root.source i = (s.installation, s.result) := by
  refine ⟨fun s leads ended result => ⟨fun o _ p found => ?_, fun complete => ?_⟩,
    exists_leads_of_add gateways network permits root i⟩
  · obtain ⟨⟨code, location, parsed⟩, -⟩ := found.exists_parse
    obtain ⟨q, hq, -, -, hclauses, -⟩ := Program.convertImports_of_parse parsed
    exact ⟨q, hq, hclauses⟩
  have ok := Fetching.result_eq_ok_iff.1 result
  have written := written_of_failures gateways ok
  refine forall₂_congr fun o ho => forall₂_congr fun p found => ?_
  have own : ∀ c ∈ p.outline.imports.map Import.clause, ∀ a, c.location = .address a →
      ∀ n ∈ c.names, n.name ∈ s.installation.project.manifest.contracts.keys := by
    intro c hc a ha n hn
    obtain ⟨declaration, hdeclaration, rfl⟩ := List.mem_map.1 hc
    have hmem : (⟨network.getD o.target.source.network, a, n.name⟩ : Source) ∈
        imports network o.target.source p :=
      mem_imports.2 ⟨rfl, declaration, hdeclaration, ha, n, hn, rfl⟩
    exact mem_keys_of_imports leads ended ok complete ho found hmem
  rw [closed_iff_aliases own]
  simp only [fun name => (mem_keys_of_leads leads written name).2]

/-- What `A` imports without an alias is there after `A` has been installed. -/
theorem closed_of_linked : ∃ j,
    add linkedGateways none "A" (sampleSource 1 "A") sampleInstallation = (j, .ok ()) ∧
      ∀ p, linkedGateways.Finds (sampleSource 1 "A") p →
        Closed p j.project.manifest.contracts := by
  let root : Target := .own (sampleSource 1 "A")
  have clauses : [sampleSource 1 "A", sampleSource 2 "B"].map (fun t =>
      (linkedGateways.locate t).toOption.map
        (Option.map fun p => p.outline.imports.map Import.clause)) =
      [some (some [⟨[⟨"B", none⟩], .address (.ofNat 2)⟩]), some (some [])] := by
    decide +kernel
  simp only [List.map_cons, List.map_nil, List.cons.injEq, and_true] at clauses
  obtain ⟨hA, hB⟩ := clauses
  obtain ⟨foundA, hA⟩ := Gateways.finds_of_locate hA
  obtain ⟨foundB, hB⟩ := Gateways.finds_of_locate hB
  obtain ⟨every, s, leads, ended, hadd⟩ :=
    closed_iff_aliases_recorded linkedGateways none root 16 sampleInstallation
  have reached {o : Outcome} (ho : o ∈ s.log) :
      o.target.source = sampleSource 1 "A" ∨ o.target.source = sampleSource 2 "B" :=
    reachable_linked (comesTo_of_mem_log leads o ho).reachable
  have found (o : Outcome) (ho : o ∈ s.log) : o.target.Found linkedGateways := by
    unfold Target.Found
    rcases reached ho with h | h
    · exact h ▸ foundA
    · exact h ▸ foundB
  have ok := failures_linked leads
  obtain ⟨-, closed⟩ := every s leads ended (Fetching.result_eq_ok_iff.2 ok)
  rw [Fetching.result_eq_ok_iff.2 ok] at hadd
  refine ⟨s.installation, hadd, fun p hp => ?_⟩
  have settled := (mem_log_iff_reachable leads ended ok).2 ⟨_, .root, rfl⟩
  refine (closed fun o ho _ => found o ho).2 ?_ _ settled p hp
  rintro o ho q hq name ⟨c, hc, a, -, n, hn, hname⟩
  rcases reached ho with h | h
  · rw [hA q (h ▸ hq), List.mem_singleton] at hc
    subst hc
    rw [List.mem_singleton] at hn
    rw [hn] at hname
    cases hname
  · rw [hB q (h ▸ hq)] at hc
    cases hc

/-- A network with a contract that imports another one under an alias. -/
def aliasingGateways : Gateways :=
  ⟨[(emulator, ((Ledger.empty.deploy (.ofNat 1) "A"
      (Utf8.encode "import B as C from 0x2 contract A {}".toList)).deploy (.ofNat 2) "B"
      (Utf8.encode "contract B {}".toList)).gateway)]⟩

/-- What `A` imports under an alias is there after `A` has been installed, but not under the alias,
by which the installed `A` imports it. -/
theorem not_closed_of_add : ¬ ∀ (gateways : Gateways) (network : Option String) (root : Target)
    (i j : Installation MemoryStorage) (log : List Target),
    add gateways network root.name root.source i = (j, .ok ()) →
      Trace gateways network [] [root] i log j (.ok ()) → (∀ t ∈ log, t.Found gateways) →
        ∀ t ∈ log, ∀ p, gateways.Finds t.source p → Closed p j.project.manifest.contracts := by
  intro closed
  let root : Target := .own (sampleSource 1 "A")
  let imported : Target := .own (sampleSource 2 "B")
  have visits : (fun v w : Installation MemoryStorage × Except Error (List Source) =>
      (v.2.toOption, w.2.toOption, w.1.project.manifest.contracts.keys))
        (visit aliasingGateways none "A" (sampleSource 1 "A") sampleInstallation)
        (visit aliasingGateways none "B" (sampleSource 2 "B")
          (visit aliasingGateways none "A" (sampleSource 1 "A") sampleInstallation).1) =
      (some [sampleSource 2 "B"], some [], ["A", "B"]) := by
    decide +kernel
  have clauses : [root, imported].map (fun t => (aliasingGateways.locate t.source).toOption.map
      (Option.map fun p => p.outline.imports.map Import.clause)) =
      [some (some [⟨[⟨"B", some "C"⟩], .address (.ofNat 2)⟩]), some (some [])] := by
    decide +kernel
  simp only [List.map_cons, List.map_nil, List.cons.injEq, and_true] at clauses
  obtain ⟨hroot, himported⟩ := clauses
  obtain ⟨⟨p, found⟩, hA⟩ := Gateways.finds_of_locate hroot
  obtain ⟨foundB, -⟩ := Gateways.finds_of_locate himported
  cases hv : visit aliasingGateways none "A" (sampleSource 1 "A") sampleInstallation with
  | mk k children =>
  cases hs : visit aliasingGateways none "B" (sampleSource 2 "B") k with
  | mk j none =>
  simp only [hv, hs, Prod.mk.injEq] at visits
  obtain ⟨hchildren, hnone, hkeys⟩ := visits
  obtain rfl := eq_ok_of_toOption hchildren
  obtain rfl := eq_ok_of_toOption hnone
  obtain ⟨done, trace⟩ := add_of_visits (t := root) hv (by decide) hs
  have hfound : ∀ t ∈ [root, imported], t.Found aliasingGateways :=
    List.forall_mem_cons.2 ⟨⟨p, found⟩, List.forall_mem_singleton.2 foundB⟩
  have := closed_iff.1 (closed _ _ root _ j _ done trace hfound root List.mem_cons_self p found)
    ⟨[⟨"B", some "C"⟩], .address (.ofNat 2)⟩ (by rw [hA p found]; exact List.mem_cons_self) _ rfl
    ⟨"B", some "C"⟩ List.mem_cons_self
  rw [hkeys] at this
  exact absurd this (by decide)

end ContractProject.Installation
