import ContractProject.CoreContract
import ContractProject.Gateway
import ContractProject.Project
import ContractProject.Sha256

/-!
Installing dependencies. A contract is fetched from its source, written with its imports by name,
and recorded in the project; then the contracts that it imports from addresses are installed, each
once. What a contract imports may be fetched in any order, also beside a fetch that fails; here it
is installed one after the other in the order in which it is imported, up to the first failure.
-/

namespace ContractProject

open Cadence (Program)

/-- A project into which dependencies are installed, its files, and the accounts that were fetched
from networks. -/
structure Installation (σ : Type) where
  project : Project
  storage : σ
  requests : List (String × Address)

namespace Installation

/-- Where a contract is that was fetched from an address: core contracts are so on every standard
network. -/
def fetchedAliases (s : Source) : Aliases :=
  match CoreContract.find? s.network s.contract s.address with
  | some core => core.aliases
  | none => Aliases.add .empty s.network s.address

/-- The canonical name that a dependency has in the project so far. -/
def canonicalOf (p : Project) (name : String) : Option String :=
  (p.manifest.dependencies.get? name).bind Dependency.canonical

/-- The dependency on a source, under a name of the project's choice, with this code. -/
def dependency (p : Project) (name : String) (s : Source) (code : Bytes) : Dependency :=
  { name
    source := s
    hash := Sha256.hexDigest code
    aliases := fetchedAliases s
    canonical := canonicalOf p name }

/-- Adds a dependency and the contract that stands for it. -/
def addDependency (p : Project) (d : Dependency) : Project :=
  { p with
    manifest := { p.manifest with
      contracts := p.manifest.contracts.addDependency d d.source.network d.aliases
      dependencies := p.manifest.dependencies.insert d } }

variable {σ : Type} [Storage σ]

/-- Records a fetched program: its code is written unless a file is in its place, and the project is
saved. -/
def record (i : Installation σ) (name : String) (s : Source) (p : Program) :
    Installation σ × Except Error Unit :=
  match p.convertImports with
  | (_, .error e) => (i, .error e)
  | (p, .ok ()) =>
    let code := Utf8.encode p.code
    let d := dependency i.project name s code
    match Storage.writeOnce i.storage (i.project.pathOf d.location) code with
    | (storage, .error e) => ({ i with storage }, .error e)
    | (storage, .ok ()) =>
      let project := addDependency i.project d
      let (storage, saved) := project.save storage
      ({ i with project, storage }, saved)

/-- The sources of what a program imports from addresses, on the network chosen for imports or else
on that of the program itself. -/
def imports (network : Option String) (s : Source) (p : Program) : List Source :=
  p.deployedImports.map fun (address, contract) => ⟨network.getD s.network, address, contract⟩

/-- Notes that the account of a source is fetched, if there is a gateway for it. -/
def request (i : Installation σ) (gateways : Gateways) (s : Source) : Installation σ :=
  if gateways.contains s.network then
    { i with requests := i.requests ++ [(s.network, s.address)] }
  else i

/-- Installs the contract at a source by itself, and gives the sources of its imports. A contract
that its account does not have is passed over. -/
def visit (gateways : Gateways) (network : Option String) (name : String) (s : Source)
    (i : Installation σ) : Installation σ × Except Error (List Source) :=
  let i := i.request gateways s
  match gateways.locate s with
  | .error e => (i, .error e)
  | .ok none => (i, .ok [])
  | .ok (some p) =>
    match i.record name s p with
    | (i, .error e) => (i, .error e)
    | (i, .ok ()) => (i, .ok (imports network s p))

/-! ### Following imports -/

theorem mem_sources_of_visit {gateways : Gateways} {network : Option String} {name : String}
    {s : Source} {i j : Installation σ} {child : Source} {children : List Source}
    (h : visit gateways network name s i = (j, .ok (child :: children))) :
    s ∈ gateways.sources := by
  unfold visit at h
  split at h
  · simp at h
  · simp at h
  · next hp => exact Gateways.mem_sources hp

/-- How many sources are left to visit. -/
noncomputable def unvisited (gateways : Gateways) (visited : List Source) : Nat :=
  gateways.sources.countP fun s => s ∉ visited

theorem unvisited_cons_le (gateways : Gateways) (visited : List Source) (s : Source) :
    unvisited gateways (s :: visited) ≤ unvisited gateways visited :=
  List.countP_mono_left fun t _ h => by simp_all

theorem countP_lt_countP_of_mem {α : Type} {p q : α → Bool} {a : α} (hp : p a = false)
    (hq : q a = true) (hpq : ∀ x, p x = true → q x = true) :
    ∀ {xs : List α}, a ∈ xs → xs.countP p < xs.countP q
  | x :: xs, h => by
    have hle : xs.countP p ≤ xs.countP q := List.countP_mono_left fun y _ => hpq y
    rcases List.mem_cons.1 h with rfl | h
    · rw [List.countP_cons_of_neg (by simp [hp]), List.countP_cons_of_pos hq]
      exact Nat.lt_succ_of_le hle
    · have hlt := countP_lt_countP_of_mem hp hq hpq h
      rw [List.countP_cons, List.countP_cons]
      cases hpx : p x with
      | false => exact Nat.lt_of_lt_of_le hlt (Nat.le_add_right _ _)
      | true => rw [hpq x hpx]; exact Nat.add_lt_add_right hlt _

theorem unvisited_cons_lt {gateways : Gateways} {visited : List Source} {s : Source}
    (hs : s ∈ gateways.sources) (hv : s ∉ visited) :
    unvisited gateways (s :: visited) < unvisited gateways visited :=
  countP_lt_countP_of_mem (by simp) (by simpa using hv) (fun t h => by simp_all) hs

/-- Installs the sources that are pending, and before the others of them what each one imports,
passing over those that were visited. The first failure ends it, and the others that are pending
then are left out. This is one of the orders in which they may be fetched. -/
def visitAll (gateways : Gateways) (network : Option String) (visited : List Source) :
    List Source → Installation σ → Installation σ × Except Error Unit
  | [], i => (i, .ok ())
  | s :: pending, i =>
    if s ∈ visited then visitAll gateways network visited pending i
    else
      match _h : visit gateways network s.contract s i with
      | (i, .error e) => (i, .error e)
      | (i, .ok []) => visitAll gateways network (s :: visited) pending i
      | (i, .ok (child :: children)) =>
        visitAll gateways network (s :: visited) (child :: children ++ pending) i
termination_by pending => (unvisited gateways visited, pending.length)
decreasing_by
  · exact Prod.Lex.right _ (Nat.lt_succ_self _)
  · rcases Nat.eq_or_lt_of_le (unvisited_cons_le gateways visited s) with heq | hlt
    · rw [heq]
      exact Prod.Lex.right _ (Nat.lt_succ_self _)
    · exact Prod.Lex.left _ _ hlt
  · exact Prod.Lex.left _ _ (unvisited_cons_lt (mem_sources_of_visit _h) ‹_›)

/-- Installs the contract at a source under a name, and all that it imports, in the order of
`visitAll`. -/
def add (gateways : Gateways) (network : Option String) (name : String) (s : Source)
    (i : Installation σ) : Installation σ × Except Error Unit :=
  match visit gateways network name s i with
  | (i, .error e) => (i, .error e)
  | (i, .ok imported) => visitAll gateways network [{ s with contract := name }] imported i

def addAll (gateways : Gateways) (network : Option String) :
    List (String × Source) → Installation σ → Installation σ × Except Error Unit
  | [], i => (i, .ok ())
  | (name, s) :: rest, i =>
    match add gateways network name s i with
    | (i, .error e) => (i, .error e)
    | (i, .ok ()) => addAll gateways network rest i

/-- Installs every dependency that the project has at first, up to the first failure. -/
def install (gateways : Gateways) (network : Option String) (i : Installation σ) :
    Installation σ × Except Error Unit :=
  addAll gateways network
    (i.project.manifest.dependencies.toList.map fun d => (d.name, d.source)) i

end Installation

end ContractProject
