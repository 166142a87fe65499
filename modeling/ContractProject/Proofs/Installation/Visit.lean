import ContractProject.Installation
import ContractProject.Proofs.Gateway
import ContractProject.Proofs.Storage

/-!
Visiting one source: its contract is located and recorded under a name. What a source leads to is
what is imported, from addresses, by the contracts that are found.
-/

namespace ContractProject

open Cadence (Program)

/-- Where the contract at a source is installed. -/
def Source.location (s : Source) : String :=
  importsDirectory ++ "/" ++ s.address.toHex ++ "/" ++ s.contract ++ Path.sourceExtension

namespace Installation

variable {σ : Type} {gateways : Gateways} {network : Option String}

/-- The program imports this name from an address. -/
def ImportsFrom (p : Program) (address : Address) (name : String) : Prop :=
  ∃ i ∈ p.outline.imports, i.location = .address address ∧ ∃ n ∈ i.names, n.name = name

theorem mem_imports {s t : Source} {p : Program} :
    t ∈ imports network s p ↔
      t.network = network.getD s.network ∧ ImportsFrom p t.address t.contract := by
  have hdeployed (a : Address) (name : String) :
      (a, name) ∈ p.deployedImports ↔ ImportsFrom p a name := by
    simp only [Program.deployedImports, Program.addressImports, List.mem_flatMap, List.mem_filter]
    constructor
    · rintro ⟨i, ⟨hi, -⟩, hmem⟩
      cases hloc : i.location with
      | address b =>
        simp only [hloc, List.mem_map, Prod.mk.injEq] at hmem
        obtain ⟨n, hn, rfl, rfl⟩ := hmem
        exact ⟨i, hi, hloc, n, hn, rfl⟩
      | string text => simp [hloc] at hmem
      | identifier text => simp [hloc] at hmem
    · rintro ⟨i, hi, hloc, n, hn, rfl⟩
      refine ⟨i, ⟨hi, ?_⟩, ?_⟩
      · simp [Cadence.Import.isAddress, hloc, List.ne_nil_of_mem hn]
      · simpa [hloc] using ⟨n, hn, rfl⟩
  obtain ⟨n, a, name⟩ := t
  simp only [imports, List.mem_map, Prod.exists, Source.mk.injEq, hdeployed]
  constructor
  · rintro ⟨b, x, h, rfl, rfl, rfl⟩
    exact ⟨rfl, h⟩
  · rintro ⟨rfl, h⟩
    exact ⟨a, name, h, rfl, rfl, rfl⟩

/-- What a source leads to: itself, and what is imported from addresses by a contract that is found
there or further on. -/
inductive Reachable (gateways : Gateways) (network : Option String) (root : Source) :
    Source → Prop where
  | root : Reachable gateways network root root
  | step {s t : Source} {p : Program} : Reachable gateways network root s → gateways.Finds s p →
      t.network = network.getD s.network → ImportsFrom p t.address t.contract →
      Reachable gateways network root t

theorem Reachable.trans {r s t : Source} (hs : Reachable gateways network r s)
    (ht : Reachable gateways network s t) : Reachable gateways network r t := by
  induction ht with
  | root => exact hs
  | step _ found hnetwork himports ih => exact .step ih found hnetwork himports

theorem reachable_of_mem_imports {s t : Source} {p : Program} (found : gateways.Finds s p)
    (h : t ∈ imports network s p) : Reachable gateways network s t :=
  have ⟨hnetwork, himports⟩ := mem_imports.1 h
  .step .root found hnetwork himports

@[simp] theorem project_request (i : Installation σ) (s : Source) :
    (i.request gateways s).project = i.project := by
  unfold request
  split <;> rfl

@[simp] theorem storage_request (i : Installation σ) (s : Source) :
    (i.request gateways s).storage = i.storage := by
  unfold request
  split <;> rfl

/-! ### Recording -/

variable [Storage σ] {i j : Installation σ} {name : String} {s : Source} {p : Program}
  {code : Bytes}

/-- What is found has its imports by name as it is recorded. -/
theorem exists_convertImports_of_finds (found : gateways.Finds s p) :
    ∃ q, p.convertImports = (q, .ok ()) ∧ q.code = p.unprocessed := by
  obtain ⟨⟨code, location, parsed⟩, -⟩ := found.exists_parse
  obtain ⟨q, hq, hcode, -⟩ := Program.convertImports_of_parse parsed
  exact ⟨q, hq, hcode⟩

/-- What has been done once code is recorded. -/
structure Recorded (i : Installation σ) (name : String) (s : Source) (code : Bytes) (storage : σ)
    (j : Installation σ) : Prop where
  written : Storage.writeOnce i.storage (i.project.pathOf s.location) code = (storage, .ok ())
  added : j.project = addDependency i.project (dependency i.project name s code)
  saved : j.project.save storage = (j.storage, .ok ())

/-- Recording writes the source, then adds the dependency, then saves. A failure before the last
leaves the project as it is. -/
theorem record_cases {r : Except Error Unit} (found : gateways.Finds s p)
    (h : i.record name s p = (j, r)) :
    (∃ e, Storage.writeOnce i.storage (i.project.pathOf s.location) (Utf8.encode p.unprocessed) =
        (j.storage, .error e) ∧ r = .error e ∧ j.project = i.project) ∨
      ∃ storage, Storage.writeOnce i.storage (i.project.pathOf s.location)
          (Utf8.encode p.unprocessed) = (storage, .ok ()) ∧
        j.project =
          addDependency i.project (dependency i.project name s (Utf8.encode p.unprocessed)) ∧
        j.project.save storage = (j.storage, r) := by
  obtain ⟨q, hq, hcode⟩ := exists_convertImports_of_finds found
  simp only [record, hq, hcode] at h
  split at h
  · next storage e hw =>
    obtain ⟨rfl, rfl⟩ := Prod.mk.inj h
    exact .inl ⟨e, hw, rfl, rfl⟩
  · next storage hw =>
    obtain ⟨rfl, hsaved⟩ := Prod.mk.inj h
    exact .inr ⟨storage, hw, rfl, Prod.ext rfl hsaved⟩

theorem pathOf_of_path {a b : Project} (h : a.path = b.path) (location : String) :
    a.pathOf location = b.pathOf location := by
  simp only [Project.pathOf, Project.directory, h]

theorem Recorded.path {storage : σ} (h : Recorded i name s code storage j) :
    j.project.path = i.project.path := by
  rw [h.added]
  rfl

/-! ### Visiting -/

theorem visit_eq_ok_iff {children : List Source} :
    visit gateways network name s i = (j, .ok children) ↔
      (gateways.locate s = .ok none ∧ j = i.request gateways s ∧ children = []) ∨
        ∃ p, gateways.Finds s p ∧ (i.request gateways s).record name s p = (j, .ok ()) ∧
          children = imports network s p := by
  simp only [← Gateways.locate_eq_some_iff]
  unfold visit
  cases hl : gateways.locate s with
  | error e => simp
  | ok r =>
    cases r with
    | none =>
      simp only [Prod.mk.injEq, Except.ok.injEq, true_and, reduceCtorEq, false_and, exists_false,
        or_false]
      exact and_congr eq_comm eq_comm
    | some p =>
      simp only [Except.ok.injEq, Option.some.injEq, reduceCtorEq, false_and, false_or,
        exists_eq_left']
      cases hr : (i.request gateways s).record name s p with
      | mk k result =>
        cases result with
        | error e => simp
        | ok _ =>
          simp only [Prod.mk.injEq, Except.ok.injEq, and_true]
          exact and_congr Iff.rfl eq_comm

end Installation

end ContractProject
