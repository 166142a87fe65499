import ContractProject.Gateway
import ContractProject.Proofs.Cadence.Steps
import ContractProject.Proofs.Collection

/-!
What locating a contract comes to: its account is fetched, and the contracts there are read in order
up to the first one that declares its name.
-/

namespace ContractProject

open Cadence (Program)

/-- The contract declares the name that a source asks for. -/
def FetchedContract.Declares (c : FetchedContract) (s : Source) (p : Program) : Prop :=
  c.declared s.network s.address = .ok (p, s.contract)

/-- The contract declares a single name. -/
def FetchedContract.Readable (c : FetchedContract) (network : String) (address : Address) : Prop :=
  ∃ p name, c.declared network address = .ok (p, name)

/-- Reading contracts in order comes to one that declares the name of a source. -/
def ScansTo (s : Source) (contracts : List FetchedContract) (p : Program) : Prop :=
  ∃ before c after, contracts = before ++ c :: after ∧ c.Declares s p ∧
    ∀ b ∈ before, b.Readable s.network s.address ∧ ∀ q, ¬ b.Declares s q

/-- All contracts can be read up to the one that declares the name of a source, and all of them if
none does. -/
def Scannable (s : Source) (contracts : List FetchedContract) : Prop :=
  ∀ before c after, contracts = before ++ c :: after → (∀ b ∈ before, ∀ q, ¬ b.Declares s q) →
    c.Readable s.network s.address

theorem scansTo_cons {s : Source} {c : FetchedContract} {rest : List FetchedContract}
    {p : Program} :
    ScansTo s (c :: rest) p ↔ c.Declares s p ∨
      (c.Readable s.network s.address ∧ (∀ q, ¬ c.Declares s q) ∧ ScansTo s rest p) := by
  constructor
  · rintro ⟨before, d, after, hcontracts, declares, passed⟩
    cases before with
    | nil =>
      obtain ⟨rfl, rfl⟩ := List.cons.inj hcontracts
      exact .inl declares
    | cons b before =>
      obtain ⟨rfl, rfl⟩ := List.cons.inj hcontracts
      obtain ⟨readable, other⟩ := passed c List.mem_cons_self
      exact .inr ⟨readable, other, before, d, after, rfl, declares,
        fun b hb => passed b (List.mem_cons_of_mem c hb)⟩
  · rintro (declares | ⟨readable, other, before, d, after, rfl, declares, passed⟩)
    · exact ⟨[], c, rest, rfl, declares, by simp⟩
    · refine ⟨c :: before, d, after, rfl, declares, fun b hb => ?_⟩
      rcases List.mem_cons.1 hb with rfl | hb
      · exact ⟨readable, other⟩
      · exact passed b hb

theorem scannable_cons {s : Source} {c : FetchedContract} {rest : List FetchedContract} :
    Scannable s (c :: rest) ↔ c.Readable s.network s.address ∧
      ((∀ q, ¬ c.Declares s q) → Scannable s rest) := by
  constructor
  · intro h
    refine ⟨h [] c rest rfl (by simp), fun other before d after hrest passed => ?_⟩
    refine h (c :: before) d after (by rw [hrest]; rfl) fun b hb => ?_
    rcases List.mem_cons.1 hb with rfl | hb
    · exact other
    · exact passed b hb
  · rintro ⟨readable, h⟩ before d after hcontracts passed
    cases before with
    | nil =>
      obtain ⟨rfl, rfl⟩ := List.cons.inj hcontracts
      exact readable
    | cons b before =>
      obtain ⟨rfl, rfl⟩ := List.cons.inj hcontracts
      exact h (passed c List.mem_cons_self) before d after rfl
        fun b hb => passed b (List.mem_cons_of_mem c hb)

theorem findDeclared_eq_some_iff {s : Source} {contracts : List FetchedContract} {p : Program} :
    findDeclared s contracts = .ok (some p) ↔ ScansTo s contracts p := by
  induction contracts with
  | nil => simp [findDeclared, ScansTo]
  | cons c rest ih =>
    rw [scansTo_cons, ← ih, findDeclared]
    unfold FetchedContract.Declares FetchedContract.Readable
    cases hc : c.declared s.network s.address with
    | error e => simp
    | ok r =>
      obtain ⟨q, name⟩ := r
      by_cases hname : name = s.contract <;> simp [hname]

theorem exists_findDeclared_iff {s : Source} {contracts : List FetchedContract} :
    (∃ r, findDeclared s contracts = .ok r) ↔ Scannable s contracts := by
  induction contracts with
  | nil => simp [findDeclared, Scannable]
  | cons c rest ih =>
    rw [scannable_cons, ← ih, findDeclared]
    unfold FetchedContract.Declares FetchedContract.Readable
    cases hc : c.declared s.network s.address with
    | error e => simp
    | ok r =>
      obtain ⟨q, name⟩ := r
      by_cases hname : name = s.contract <;> simp [hname]

namespace Gateways

/-- There is a gateway for the network of a source, and it has this account at the address. -/
def Fetches (gateways : Gateways) (s : Source) (account : FetchedAccount) : Prop :=
  ∃ gateway, gateways.get? s.network = some (s.network, gateway) ∧ gateway s.address = .ok account

/-- The contract of a source is on its account. -/
def Finds (gateways : Gateways) (s : Source) (p : Program) : Prop :=
  ∃ account, gateways.Fetches s account ∧ ScansTo s account.contracts p

/-- Whether the contract of a source is on its account can be told. -/
def Answers (gateways : Gateways) (s : Source) : Prop :=
  ∃ account, gateways.Fetches s account ∧ Scannable s account.contracts

theorem account_eq_ok_iff {gateways : Gateways} {s : Source} {account : FetchedAccount} :
    gateways.account s.network s.address = .ok account ↔ gateways.Fetches s account := by
  unfold Gateways.account Fetches
  cases hg : gateways.get? s.network with
  | none => simp
  | some entry =>
    obtain ⟨network, gateway⟩ := entry
    obtain rfl : network = s.network := (mem_of_lookup? hg).2
    simp

theorem locate_eq_some_iff {gateways : Gateways} {s : Source} {p : Program} :
    gateways.locate s = .ok (some p) ↔ gateways.Finds s p := by
  unfold locate Finds
  simp only [← account_eq_ok_iff, ← findDeclared_eq_some_iff]
  cases gateways.account s.network s.address <;> simp

theorem not_finds_of_locate {gateways : Gateways} {s : Source} {p : Program}
    (h : gateways.locate s = .ok none) : ¬ gateways.Finds s p := by
  simp [← locate_eq_some_iff, h]

theorem Finds.unique {gateways : Gateways} {s : Source} {p q : Program}
    (hp : gateways.Finds s p) (hq : gateways.Finds s q) : p = q := by
  rw [← locate_eq_some_iff] at hp hq
  simpa [hp] using hq

/-- What is computed of a contract that is found. -/
theorem finds_of_locate {β : Type} {gateways : Gateways} {s : Source} {f : Program → β} {b : β}
    (h : (gateways.locate s).toOption.map (Option.map f) = some (some b)) :
    (∃ p, gateways.Finds s p) ∧ ∀ p, gateways.Finds s p → f p = b := by
  obtain ⟨r, hr, hb⟩ := exists_ok_of_toOption h
  obtain ⟨p, rfl, rfl⟩ := Option.map_eq_some_iff.1 hb
  have found := locate_eq_some_iff.1 hr
  exact ⟨⟨p, found⟩, fun q hq => by rw [hq.unique found]⟩

theorem exists_locate_iff {gateways : Gateways} {s : Source} :
    (∃ r, gateways.locate s = .ok r) ↔ gateways.Answers s := by
  unfold locate Answers
  simp only [← account_eq_ok_iff, ← exists_findDeclared_iff]
  cases gateways.account s.network s.address <;> simp

/-- What is found has been read and is named as the source says. -/
theorem Finds.exists_parse {gateways : Gateways} {s : Source} {p : Program}
    (h : gateways.Finds s p) :
    (∃ code location, Program.parse code [] location = .ok p) ∧ p.name = .ok s.contract := by
  obtain ⟨account, -, before, c, after, -, declares, -⟩ := h
  unfold FetchedContract.Declares FetchedContract.declared at declares
  obtain ⟨q, hc, declares⟩ := bind_eq_ok_iff.1 declares
  obtain ⟨name, hn, declares⟩ := bind_eq_ok_iff.1 declares
  obtain ⟨rfl, rfl⟩ := Prod.mk.inj (Except.ok.inj declares)
  exact ⟨⟨_, _, hc⟩, hn⟩

end Gateways

end ContractProject
