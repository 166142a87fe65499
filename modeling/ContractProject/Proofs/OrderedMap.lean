import ContractProject.Manifest.Basic
import ContractProject.Proofs.Collection
import Mathlib.Data.List.Nodup
import Mathlib.Logic.Function.Basic

/-!
The collections of a manifest as finite maps that know the order in which their keys came. Whatever
is done to a collection from when it is empty, it holds what the same steps make of a map.
-/

namespace ContractProject

/-- A finite map with its keys in the order in which they came. -/
structure OrderedMap (κ β : Type) where
  keys : List κ
  value? : κ → Option β
  nodup : keys.Nodup
  mem_keys : ∀ k, k ∈ keys ↔ (value? k).isSome

namespace OrderedMap

variable {κ β : Type} [DecidableEq κ]

def empty : OrderedMap κ β := ⟨[], fun _ => none, List.nodup_nil, by simp⟩

/-- Gives a value to a key, which keeps its place and comes last if it is new. -/
def set (m : OrderedMap κ β) (k : κ) (b : β) : OrderedMap κ β where
  keys := if k ∈ m.keys then m.keys else m.keys ++ [k]
  value? := Function.update m.value? k (some b)
  nodup := by
    split
    · exact m.nodup
    · next h =>
      have hne : ∀ k' ∈ m.keys, k' ≠ k := fun k' hk' => ne_of_mem_of_not_mem hk' h
      exact List.nodup_append.2 ⟨m.nodup, by simp, by simpa using hne⟩
  mem_keys k' := by
    by_cases h : k' = k
    · subst h
      split <;> simp_all
    · split <;> simp [h, m.mem_keys]

/-- Gives a value to a key that has none yet. -/
def setNew (m : OrderedMap κ β) (k : κ) (b : β) : OrderedMap κ β :=
  if k ∈ m.keys then m else m.set k b

/-- Drops a key, if it is there. The others keep their order. -/
def erase (m : OrderedMap κ β) (k : κ) : OrderedMap κ β where
  keys := m.keys.erase k
  value? := Function.update m.value? k none
  nodup := m.nodup.erase k
  mem_keys k' := by
    rw [m.nodup.mem_erase_iff]
    by_cases h : k' = k <;> simp [h, m.mem_keys]

/-- Changes the value that a key has, in its place. -/
def modify (m : OrderedMap κ β) (k : κ) (f : β → β) : OrderedMap κ β where
  keys := m.keys
  value? := Function.update m.value? k ((m.value? k).map f)
  nodup := m.nodup
  mem_keys k' := by
    by_cases h : k' = k
    · subst h
      simp [m.mem_keys]
    · simp [h, m.mem_keys]

end OrderedMap

/-! ### Collections as maps -/

/-- A collection has the keys of a map in the map's order, and under each the map's value. -/
structure Collection.Refines {α κ : Type} [Keyed α κ] [DecidableEq κ] (c : Collection α)
    (m : OrderedMap κ α) : Prop where
  keys : c.keys = m.keys
  get? : ∀ k, c.get? k = m.value? k

namespace Collection.Refines

variable {α κ : Type} [Keyed α κ] [DecidableEq κ] {c : Collection α} {m : OrderedMap κ α}

theorem empty : (Collection.empty : Collection α).Refines .empty := ⟨rfl, fun _ => rfl⟩

theorem nodup (h : c.Refines m) : c.keys.Nodup := h.keys ▸ m.nodup

theorem insert (h : c.Refines m) (a : α) : (c.insert a).Refines (m.set (key a) a) where
  keys := (map_key_put a c.toList).trans (by rw [← Collection.keys, h.keys]; rfl)
  get? k := by
    rw [get?_insert, h.get?]
    by_cases hk : k = key a
    · subst hk
      simp [OrderedMap.set]
    · simp [OrderedMap.set, hk, Ne.symm hk]

theorem insertNew (h : c.Refines m) (a : α) : (c.insertNew a).Refines (m.setNew (key a) a) := by
  by_cases hk : key a ∈ c.keys
  · rw [Collection.insertNew, if_pos (contains_iff.2 hk), OrderedMap.setNew, if_pos (h.keys ▸ hk)]
    exact h
  · have hput : c.insertNew a = c.insert a := by
      rw [Collection.insertNew, if_neg (contains_iff.not.2 hk), Collection.insert,
        put_of_not_mem hk]
    rw [hput, OrderedMap.setNew, if_neg (h.keys ▸ hk)]
    exact h.insert a

theorem filter_ne (h : c.Refines m) (k : κ) :
    (⟨c.toList.filter (key · ≠ k)⟩ : Collection α).Refines (m.erase k) where
  keys := by
    have hkeys : c.toList.map key = m.keys := h.keys
    have herase : (m.erase k).keys = m.keys.filter (· != k) := m.nodup.erase_eq_filter k
    rw [Collection.keys, map_key_filter_ne, hkeys, herase]
    exact List.filter_congr fun k' _ => by by_cases hk : k' = k <;> simp [hk]
  get? k' := by
    refine (lookup?_filter_ne k k' c.toList).trans ?_
    by_cases hk : k' = k
    · simp [OrderedMap.erase, hk]
    · rw [if_neg hk]
      have hother : (m.erase k).value? k' = m.value? k' := by simp [OrderedMap.erase, hk]
      exact (h.get? k').trans hother.symm

/-- Removing an entry fails exactly if its key is not there. -/
theorem remove (h : c.Refines m) (kind : EntityKind) (name : String) (k : κ) :
    (k ∈ m.keys → ∃ c', c.remove kind name k = .ok c' ∧ c'.Refines (m.erase k)) ∧
      (k ∉ m.keys → c.remove kind name k = .error (.notFound kind name)) := by
  rw [← h.keys, Collection.remove]
  constructor
  · intro hk
    rw [erase?_of_mem h.nodup hk]
    exact ⟨_, rfl, h.filter_ne k⟩
  · intro hk
    rw [erase?_eq_none_iff.2 hk]

theorem change (h : c.Refines m) (k : κ) (f : α → α) (hf : ∀ a, key (f a) = key a) :
    (c.change k f).Refines (m.modify k f) where
  keys := (map_key_change hf k c.toList).trans h.keys
  get? k' := by
    refine (lookup?_change hf k k' c.toList).trans ?_
    have hk' : lookup? k' c.toList = m.value? k' := h.get? k'
    have hk : lookup? k c.toList = m.value? k := h.get? k
    rw [hk', hk]
    by_cases hk : k' = k <;> simp [OrderedMap.modify, hk]

theorem foldl_insert (entries : List α) (h : c.Refines m) :
    (entries.foldl Collection.insert c).Refines
      (entries.foldl (fun m a => m.set (key a) a) m) := by
  induction entries generalizing c m with
  | nil => exact h
  | cons e entries ih => exact ih (h.insert e)

theorem ofList (entries : List α) :
    (Collection.ofList entries).Refines (entries.foldl (fun m a => m.set (key a) a) .empty) :=
  foldl_insert entries empty

end Collection.Refines

theorem Aliases.refines_ofPairs (pairs : List (String × Address)) :
    (ofPairs pairs).Refines
      (pairs.foldl (fun m (network, address) => m.setNew network ⟨network, address⟩) .empty) := by
  have hfold : ∀ {aliases : Aliases} {m : OrderedMap String Alias}, aliases.Refines m →
      (pairs.foldl (fun aliases (network, address) => aliases.add network address) aliases).Refines
        (pairs.foldl (fun m (network, address) => m.setNew network ⟨network, address⟩) m) := by
    induction pairs with
    | nil => exact id
    | cons pair pairs ih => exact fun h => ih (h.insertNew ⟨pair.1, pair.2⟩)
  exact hfold .empty

/-! ### Steps -/

/-- The steps of something that holds a collection, and what each does to the collection's map. -/
structure Keeping (S σ α κ : Type) where
  entries : σ → Collection α
  step : S → σ → Except Error σ
  effect : S → OrderedMap κ α → Except Error (OrderedMap κ α)

/-- Takes steps in turn and answers how each went. One that fails changes nothing. -/
def takeSteps {S σ : Type} (step : S → σ → Except Error σ) : List S → σ →
    σ × List (Except Error Unit)
  | [], s => (s, [])
  | st :: steps, s =>
    match step st s with
    | .ok s => ((takeSteps step steps s).1, .ok () :: (takeSteps step steps s).2)
    | .error e => ((takeSteps step steps s).1, .error e :: (takeSteps step steps s).2)

/-- What each step that succeeds keeps is kept by all of them. -/
theorem takeSteps_induct {S σ : Type} {step : S → σ → Except Error σ} {P : σ → Prop}
    {steps : List S} {s : σ} (start : P s)
    (kept : ∀ st ∈ steps, ∀ s s', P s → step st s = .ok s' → P s') :
    P (takeSteps step steps s).1 := by
  induction steps generalizing s with
  | nil => exact start
  | cons st steps ih =>
    have hrest := fun st hst => kept st (List.mem_cons_of_mem _ hst)
    rw [takeSteps]
    cases hst : step st s with
    | ok s' => exact ih (kept st List.mem_cons_self s s' start hst) hrest
    | error e => exact ih start hrest

namespace Keeping

variable {S σ α κ : Type} [Keyed α κ] [DecidableEq κ]

/-- Whatever steps are taken from `start`, its keys stay distinct, it holds what the steps make of
an empty map, and they fail where they fail on the map, with the same errors. -/
def Refines (k : Keeping S σ α κ) (start : σ) : Prop :=
  ∀ steps : List S,
    let held := takeSteps k.step steps start
    let map := takeSteps k.effect steps .empty
    (k.entries held.1).keys.Nodup ∧ (k.entries held.1).Refines map.1 ∧ held.2 = map.2

/-- A step goes as on the map. -/
inductive StepRefines (k : Keeping S σ α κ) :
    Except Error σ → Except Error (OrderedMap κ α) → Prop where
  | ok {s : σ} {m : OrderedMap κ α} (refines : (k.entries s).Refines m) :
    StepRefines k (.ok s) (.ok m)
  | error (e : Error) : StepRefines k (.error e) (.error e)

theorem refines_of_step {k : Keeping S σ α κ} {start : σ}
    (hstart : (k.entries start).Refines .empty)
    (hstep : ∀ st s m, (k.entries s).Refines m → k.StepRefines (k.step st s) (k.effect st m)) :
    k.Refines start := by
  have hrun : ∀ (steps : List S) {s : σ} {m : OrderedMap κ α}, (k.entries s).Refines m →
      (k.entries (takeSteps k.step steps s).1).Refines (takeSteps k.effect steps m).1 ∧
        (takeSteps k.step steps s).2 = (takeSteps k.effect steps m).2 := by
    intro steps
    induction steps with
    | nil => exact fun h => ⟨h, rfl⟩
    | cons st steps ih =>
      intro s m h
      have hst := hstep st s m h
      rw [takeSteps, takeSteps]
      generalize k.step st s = held at hst
      generalize k.effect st m = map at hst
      cases hst with
      | ok refines => exact ⟨(ih refines).1, congrArg _ (ih refines).2⟩
      | error e => exact ⟨(ih h).1, congrArg _ (ih h).2⟩
  intro steps
  obtain ⟨hmap, hanswers⟩ := hrun steps hstart
  exact ⟨hmap.nodup, hmap, hanswers⟩

end Keeping

/-- What can be done to a collection of any kind. -/
inductive EntryStep (α κ : Type) where
  | add (a : α)
  | collect (entries : List α)
  | remove (k : κ)

namespace EntryStep

variable {α κ : Type} [Keyed α κ] [DecidableEq κ]

def step (kind : EntityKind) (describe : κ → String) :
    EntryStep α κ → Collection α → Except Error (Collection α)
  | .add a, c => .ok (c.insert a)
  | .collect entries, _ => .ok (.ofList entries)
  | .remove k, c => c.remove kind (describe k) k

def effect (kind : EntityKind) (describe : κ → String) :
    EntryStep α κ → OrderedMap κ α → Except Error (OrderedMap κ α)
  | .add a, m => .ok (m.set (key a) a)
  | .collect entries, _ => .ok (entries.foldl (fun m a => m.set (key a) a) .empty)
  | .remove k, m =>
    if k ∈ m.keys then .ok (m.erase k) else .error (.notFound kind (describe k))

/-- A collection whose entries have a name or a like for errors. -/
def keeping (kind : EntityKind) (describe : κ → String) :
    Keeping (EntryStep α κ) (Collection α) α κ :=
  ⟨id, step kind describe, effect kind describe⟩

theorem stepRefines {S : Type} {k : Keeping S (Collection α) α κ} (hentries : k.entries = id)
    (kind : EntityKind) (describe : κ → String) (st : EntryStep α κ) {c : Collection α}
    {m : OrderedMap κ α} (h : c.Refines m) :
    k.StepRefines (st.step kind describe c) (st.effect kind describe m) := by
  have hok {c : Collection α} {m : OrderedMap κ α} (h : c.Refines m) :
      k.StepRefines (.ok c) (.ok m) := .ok (by rwa [hentries])
  cases st with
  | add a => exact hok (h.insert a)
  | collect entries => exact hok (.ofList entries)
  | remove key =>
    obtain ⟨hthere, hgone⟩ := h.remove kind (describe key) key
    rw [step, effect]
    by_cases hkey : key ∈ m.keys
    · obtain ⟨c', hc', hrefines⟩ := hthere hkey
      rw [hc', if_pos hkey]
      exact hok hrefines
    · rw [hgone hkey, if_neg hkey]
      exact .error _

end EntryStep

/-- What can be done to the contracts of a project. -/
inductive ContractStep where
  | entry (step : EntryStep Contract String)
  | addDependency (d : Dependency) (network : String) (aliases : Aliases)
  | relocate (name location : String)

namespace ContractStep

def step : ContractStep → Contracts → Except Error Contracts
  | .entry st, contracts => st.step .contract id contracts
  | .addDependency d network aliases, contracts =>
    .ok (contracts.addDependency d network aliases)
  | .relocate name location, contracts =>
    (contracts.find .contract name name).map fun _ => contracts.change name ({ · with location })

def effect : ContractStep → OrderedMap String Contract →
    Except Error (OrderedMap String Contract)
  | .entry st, m => st.effect .contract id m
  | .addDependency d network aliases, m => .ok (m.set d.name (d.toContract network aliases))
  | .relocate name location, m =>
    if name ∈ m.keys then .ok (m.modify name ({ · with location }))
    else .error (.notFound .contract name)

def keeping : Keeping ContractStep Contracts Contract String := ⟨id, step, effect⟩

end ContractStep

/-- What can be done to the deployments of a project. -/
inductive DeploymentStep where
  | entry (step : EntryStep Deployment (String × String))
  | addContract (account network : String) (c : DeployedContract)
  | removeContract (account network name : String)

namespace DeploymentStep

def step : DeploymentStep → Deployments → Except Error Deployments
  | .entry st, deployments =>
    st.step .deployment (fun (account, network) => Deployment.describe account network) deployments
  | .addContract account network c, deployments =>
    .ok (deployments.change (account, network) (·.add c))
  | .removeContract account network name, deployments =>
    .ok (deployments.change (account, network) (·.remove name))

def effect : DeploymentStep → OrderedMap (String × String) Deployment →
    Except Error (OrderedMap (String × String) Deployment)
  | .entry st, m =>
    st.effect .deployment (fun (account, network) => Deployment.describe account network) m
  | .addContract account network c, m => .ok (m.modify (account, network) (·.add c))
  | .removeContract account network name, m => .ok (m.modify (account, network) (·.remove name))

def keeping : Keeping DeploymentStep Deployments Deployment (String × String) := ⟨id, step, effect⟩

end DeploymentStep

/-- What can be done to the contracts of one deployment. -/
inductive DeployedStep where
  | add (c : DeployedContract)
  | remove (name : String)

namespace DeployedStep

def step : DeployedStep → Deployment → Except Error Deployment
  | .add c, d => .ok (d.add c)
  | .remove name, d => .ok (d.remove name)

def effect : DeployedStep → OrderedMap String DeployedContract →
    Except Error (OrderedMap String DeployedContract)
  | .add c, m => .ok (m.set c.name c)
  | .remove name, m => .ok (m.erase name)

def keeping : Keeping DeployedStep Deployment DeployedContract String :=
  ⟨Deployment.contracts, step, effect⟩

end DeployedStep

/-- What can be done to the aliases of a contract. -/
inductive AliasStep where
  | add (network : String) (address : Address)
  | collect (pairs : List (String × Address))

namespace AliasStep

def step : AliasStep → Aliases → Except Error Aliases
  | .add network address, aliases => .ok (aliases.add network address)
  | .collect pairs, _ => .ok (.ofPairs pairs)

def effect : AliasStep → OrderedMap String Alias → Except Error (OrderedMap String Alias)
  | .add network address, m => .ok (m.setNew network ⟨network, address⟩)
  | .collect pairs, _ =>
    .ok (pairs.foldl (fun m (network, address) => m.setNew network ⟨network, address⟩) .empty)

def keeping : Keeping AliasStep Aliases Alias String := ⟨id, step, effect⟩

end AliasStep

theorem EntryStep.refines {α κ : Type} [Keyed α κ] [DecidableEq κ] (kind : EntityKind)
    (describe : κ → String) : (keeping (α := α) kind describe).Refines .empty :=
  Keeping.refines_of_step .empty fun st _ _ h => stepRefines rfl kind describe st h

theorem ContractStep.refines : keeping.Refines .empty := by
  refine Keeping.refines_of_step .empty fun st contracts m h => ?_
  cases st with
  | entry st => exact st.stepRefines rfl .contract id h
  | addDependency d network aliases => exact .ok (h.insert _)
  | relocate name location =>
    change keeping.StepRefines (step (.relocate name location) contracts)
      (effect (.relocate name location) m)
    have hget : contracts.get? name = m.value? name := h.get? name
    rw [step, effect, Collection.find, hget]
    by_cases hname : name ∈ m.keys
    · obtain ⟨c, hc⟩ := Option.isSome_iff_exists.1 ((m.mem_keys name).1 hname)
      rw [hc, if_pos hname]
      exact .ok (h.change name ({ · with location }) fun _ => rfl)
    · have hnone := Option.not_isSome_iff_eq_none.1 ((m.mem_keys name).not.1 hname)
      rw [hnone, if_neg hname]
      exact .error _

theorem DeploymentStep.refines : keeping.Refines .empty := by
  refine Keeping.refines_of_step .empty fun st deployments m h => ?_
  cases st with
  | entry st => exact st.stepRefines rfl .deployment _ h
  | addContract account network c =>
    exact .ok (h.change (account, network) (·.add c) fun _ => rfl)
  | removeContract account network name =>
    exact .ok (h.change (account, network) (·.remove name) fun _ => rfl)

theorem DeployedStep.refines (network account : String) :
    keeping.Refines ⟨network, account, .empty⟩ := by
  refine Keeping.refines_of_step .empty fun st d m h => ?_
  cases st with
  | add c => exact .ok (h.insert c)
  | remove name => exact .ok (h.filter_ne name)

theorem AliasStep.refines : keeping.Refines .empty := by
  refine Keeping.refines_of_step .empty fun st aliases m h => ?_
  cases st with
  | add network address => exact .ok (h.insertNew ⟨network, address⟩)
  | collect pairs => exact .ok (Aliases.refines_ofPairs pairs)

/-- Every collection of a manifest is an insertion-ordered map, whatever is done to it from when it
is empty. Aliases keep the address that came first, the others the entry that came last. -/
theorem collections_refine :
    ContractStep.keeping.Refines .empty ∧
    (EntryStep.keeping (α := Dependency) .dependency id).Refines .empty ∧
    (EntryStep.keeping (α := Network) .network id).Refines .empty ∧
    (EntryStep.keeping (α := Account) .account id).Refines .empty ∧
    DeploymentStep.keeping.Refines .empty ∧
    (∀ network account, DeployedStep.keeping.Refines ⟨network, account, .empty⟩) ∧
    AliasStep.keeping.Refines .empty :=
  ⟨ContractStep.refines, EntryStep.refines .dependency id, EntryStep.refines .network id,
    EntryStep.refines .account id, DeploymentStep.refines, DeployedStep.refines, AliasStep.refines⟩

end ContractProject
