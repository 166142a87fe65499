import ContractProject.Cadence.Program
import ContractProject.Collection

/-!
Access to the accounts of networks, and finding a contract among those of an account.
-/

namespace ContractProject

open Cadence (Program)

structure FetchedContract where
  name : String
  code : Bytes
  address : Address
  deriving DecidableEq, Repr

/-- An account with its contracts in the order in which the network lists them. -/
structure FetchedAccount where
  address : Address
  contracts : List FetchedContract
  deriving DecidableEq, Repr

/-- What a network answers when asked for an account. -/
abbrev Gateway := Address → Except Error FetchedAccount

/-- Gateways by the names of their networks. -/
abbrev Gateways := Collection (String × Gateway)

/-- A network of its own: accounts and what is deployed there. -/
structure Ledger where
  accounts : Collection (Address × List FetchedContract)
  deriving BEq, Repr

namespace Ledger

def empty : Ledger := ⟨.empty⟩

/-- Deploys a contract as the last one of an account, in place of one with its name. -/
def deploy (l : Ledger) (address : Address) (name : String) (code : Bytes) : Ledger :=
  let before := ((l.accounts.get? address).map Prod.snd).getD []
  ⟨l.accounts.insert (address, before.filter (·.name ≠ name) ++ [⟨name, code, address⟩])⟩

def gateway (l : Ledger) : Gateway := fun address =>
  match l.accounts.get? address with
  | some (_, contracts) => .ok ⟨address, contracts⟩
  | none => .error (.fetch (.noAccount address))

end Ledger

/-- The program of a contract that was fetched from an address. -/
def FetchedContract.program (c : FetchedContract) (network : String) (address : Address) :
    Except Error Program :=
  Program.parse c.code [] (Source.toText ⟨network, address, c.name⟩)

/-- The name that a fetched contract declares, whatever it is deployed under. -/
def FetchedContract.declared (c : FetchedContract) (network : String) (address : Address) :
    Except Error (Program × String) := do
  let p ← c.program network address
  return (p, ← p.name)

/-- The first contract that declares the name. Those before it must declare some name. -/
def findDeclared (s : Source) : List FetchedContract → Except Error (Option Program)
  | [] => .ok none
  | c :: rest =>
    match c.declared s.network s.address with
    | .error e => .error e
    | .ok (p, name) => if name = s.contract then .ok (some p) else findDeclared s rest

namespace Gateways

def account (gateways : Gateways) (network : String) (address : Address) :
    Except Error FetchedAccount :=
  match gateways.get? network with
  | some (_, gateway) => gateway address
  | none => .error (.notFound .gateway network)

/-- The program that a source means, none if its account has no such contract. -/
def locate (gateways : Gateways) (s : Source) : Except Error (Option Program) :=
  match gateways.account s.network s.address with
  | .ok account => findDeclared s account.contracts
  | .error e => .error e

/-! ### Sources that can be located

There are finitely many, so following imports comes to an end. -/

/-- The sources of the contracts that an account has on a network. -/
def declaredSources (network : String) (address : Address) (contracts : List FetchedContract) :
    List Source :=
  contracts.filterMap fun c =>
    match c.declared network address with
    | .ok (_, name) => some ⟨network, address, name⟩
    | .error _ => none

/-- The sources of all contracts that can be fetched. -/
noncomputable def sources (gateways : Gateways) : List Source :=
  gateways.toList.flatMap fun (network, gateway) =>
    (List.finRange UInt64.size).flatMap fun value =>
      match gateway ⟨value⟩ with
      | .ok account => declaredSources network ⟨value⟩ account.contracts
      | .error _ => []

theorem mem_declaredSources {s : Source} {p : Program} :
    ∀ {contracts : List FetchedContract}, findDeclared s contracts = .ok (some p) →
      s ∈ declaredSources s.network s.address contracts
  | c :: rest, h => by
    unfold findDeclared at h
    unfold declaredSources
    split at h
    · cases h
    · next q name hc =>
      split at h
      · next hname =>
        subst hname
        rw [List.filterMap_cons, hc]
        exact List.mem_cons_self
      · rw [List.filterMap_cons, hc]
        exact List.mem_cons_of_mem _ (mem_declaredSources h)

theorem mem_sources {gateways : Gateways} {s : Source} {p : Program}
    (h : gateways.locate s = .ok (some p)) : s ∈ gateways.sources := by
  unfold locate account at h
  cases hg : gateways.get? s.network with
  | none => simp [hg] at h
  | some entry =>
    obtain ⟨network, gateway⟩ := entry
    have ⟨hmem, hkey⟩ := mem_of_lookup? hg
    cases ha : gateway s.address with
    | error e => simp [hg, ha] at h
    | ok account =>
      simp only [hg, ha] at h
      have hs := mem_declaredSources h
      have hkey : network = s.network := hkey
      refine List.mem_flatMap.2 ⟨_, hmem, List.mem_flatMap.2
        ⟨s.address.value, List.mem_finRange _, ?_⟩⟩
      simpa [ha, hkey] using hs

end Gateways

end ContractProject
