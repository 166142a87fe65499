import ContractProject.Proofs.Installation.Outcome
import ContractProject.Proofs.Manifest.Dependencies

/-!
What calls to the installer leave of the project's own contracts. Each one stays as it is, in memory
and in what is written, unless something that is found is recorded under its name: that takes its
place, and the own contract is gone.
-/

namespace ContractProject.Installation

variable {σ : Type} {gateways : Gateways} {network : Option String}
  {permits : Nat} {i j k : Installation σ} {t : Target} {log : List Outcome}
  {r : Except Error Unit}

/-! ### Own contracts that stay -/

/-- The own contracts that are left are those under whose names nothing is recorded. -/
structure Leaves (gateways : Gateways) (i : Installation σ) (log : List Outcome)
    (j : Installation σ) : Prop where
  names : j.project.manifest.contracts.keys.Nodup
  path : j.project.path = i.project.path
  left : j.project.manifest.ownContracts.Sublist i.project.manifest.ownContracts
  kept : ∀ c ∈ i.project.manifest.ownContracts, ¬ Records gateways log c.name →
    c ∈ j.project.manifest.ownContracts

theorem Leaves.of_eq (names : i.project.manifest.contracts.keys.Nodup)
    (project : j.project = i.project) : Leaves gateways i log j := by
  refine ⟨?_, ?_, ?_, ?_⟩ <;> rw [project]
  · exact names
  · exact fun c hc _ => hc

theorem Leaves.append {earlier : List Outcome} (h : Leaves gateways i earlier k)
    (g : Leaves gateways k log j) : Leaves gateways i (earlier ++ log) j where
  names := g.names
  path := g.path.trans h.path
  left := g.left.trans h.left
  kept c hc unrecorded := by
    rw [records_append, not_or] at unrecorded
    exact g.kept c (h.kept c hc unrecorded.1) unrecorded.2

variable [Storage σ]

theorem Visited.leaves (visited : Visited gateways i t j r)
    (names : i.project.manifest.contracts.keys.Nodup) : Leaves gateways i [⟨t, r⟩] j := by
  cases visited with
  | unanswered _ project _ => exact .of_eq names project
  | absent _ project _ => exact .of_eq names project
  | unwritten _ _ project => exact .of_eq names project
  | @recorded p _ _ found _ added _ =>
    let d := dependency i.project t.name t.source (Utf8.encode p.unprocessed)
    have hmanifest : j.project.manifest = i.project.manifest.withDependency d := by rw [added]; rfl
    have hown := Manifest.ownContracts_withDependency names d
    refine ⟨?_, by rw [added]; rfl, ?_, fun c hc unrecorded => ?_⟩
    · rw [hmanifest]
      exact Manifest.nodup_keys_withDependency names d
    · rw [hmanifest, hown]
      exact List.filter_sublist
    · rw [hmanifest, hown]
      have hne : c.name ≠ d.name := fun h =>
        unrecorded (records_singleton.2 ⟨⟨p, found⟩, h.symm⟩)
      exact List.mem_filter.2 ⟨hc, by simpa using hne⟩

/-! ### What is written -/

/-- What is recorded takes the place of own contracts, and the file of the manifest tells the
project as it then is. -/
structure Replaces (gateways : Gateways) (i : Installation σ) (log : List Outcome)
    (j : Installation σ) : Prop where
  lost : ∀ n ∈ j.project.manifest.ownNames, ¬ Records gateways log n
  saved : (∃ n, Records gateways log n) →
    Storage.readAt j.storage i.project.path = .ok j.project.manifest.toBytes
  same : (¬ ∃ n, Records gateways log n) → j.project = i.project ∧ j.storage = i.storage

theorem Replaces.of_eq (unrecorded : ∀ n, ¬ Records gateways log n)
    (project : j.project = i.project) (storage : j.storage = i.storage) :
    Replaces gateways i log j where
  lost n _ := unrecorded n
  saved := fun ⟨n, h⟩ => absurd h (unrecorded n)
  same _ := ⟨project, storage⟩

theorem Replaces.append {earlier : List Outcome} (h : Replaces gateways i earlier k)
    (g : Replaces gateways k log j) (leaves : Leaves gateways k log j)
    (path : k.project.path = i.project.path) : Replaces gateways i (earlier ++ log) j := by
  constructor
  · intro n hn
    have hk : n ∈ k.project.manifest.ownNames := (leaves.left.map Contract.name).subset hn
    rw [records_append, not_or]
    exact ⟨h.lost n hk, g.lost n hn⟩
  · rintro ⟨n, hn⟩
    by_cases hlog : ∃ n, Records gateways log n
    · rw [← path]
      exact g.saved hlog
    · -- nothing was recorded later, so the file is as the earlier run has left it
      obtain ⟨project, storage⟩ := g.same hlog
      rw [records_append] at hn
      rw [project, storage]
      exact h.saved ⟨n, hn.resolve_right fun hn => hlog ⟨n, hn⟩⟩
  · intro hnone
    simp only [records_append, not_exists, not_or] at hnone
    obtain ⟨hproject, hstorage⟩ := h.same (not_exists.2 fun n => (hnone n).1)
    obtain ⟨gproject, gstorage⟩ := g.same (not_exists.2 fun n => (hnone n).2)
    exact ⟨gproject.trans hproject, gstorage.trans hstorage⟩

theorem Visited.replaces (visited : Visited gateways i t j r)
    (written : t.Found gateways → r = .ok ())
    (names : i.project.manifest.contracts.keys.Nodup)
    (separate : Storage.Separate σ (· = i.project.path)) : Replaces gateways i [⟨t, r⟩] j := by
  by_cases found : t.Found gateways
  · obtain rfl := written found
    obtain ⟨p, hp⟩ := found
    obtain ⟨storage, recorded⟩ := visited.exists_recorded hp
    let d := dependency i.project t.name t.source (Utf8.encode p.unprocessed)
    have hmanifest : j.project.manifest = i.project.manifest.withDependency d := by
      rw [recorded.added]
      rfl
    have hwritten : Storage.writeWithParent storage i.project.path j.project.manifest.toBytes =
        (j.storage, .ok ()) := recorded.path ▸ recorded.saved
    refine ⟨fun n hn h => ?_, fun _ => separate.written rfl hwritten, fun h => ?_⟩
    · obtain ⟨c, hc, rfl⟩ := List.mem_map.1 hn
      rw [hmanifest, Manifest.ownContracts_withDependency names d] at hc
      have hname : c.name ≠ t.name := by simpa [d, dependency] using (List.mem_filter.1 hc).2
      exact hname (records_singleton.1 h).2.symm
    · exact absurd ⟨t.name, records_singleton.2 ⟨⟨p, hp⟩, rfl⟩⟩ h
  · obtain ⟨project, storage⟩ := visited.same found
    exact .of_eq (fun n h => found (records_singleton.1 h).1) project storage

/-! ### Calls -/

theorem leaves_of_ends {targets : List Target}
    (ends : Ends gateways network permits targets i log j r)
    (names : i.project.manifest.contracts.keys.Nodup) : Leaves gateways i log j ∧
      (Written gateways log → Storage.Separate σ (· = i.project.path) →
        Replaces gateways i log j) := by
  refine holds_of_ends (fun i log j => i.project.manifest.contracts.keys.Nodup →
    Leaves gateways i log j ∧ (Written gateways log → Storage.Separate σ (· = i.project.path) →
      Replaces gateways i log j)) ?_ ?_ ?_ ends names
  · exact fun project storage names => ⟨.of_eq names project,
      fun _ _ => .of_eq records_nil project storage⟩
  · intro i k j earlier later hearlier hlater names
    obtain ⟨hleaves, hreplaces⟩ := hearlier names
    obtain ⟨hleaves', hreplaces'⟩ := hlater hleaves.names
    refine ⟨hleaves.append hleaves', fun written separate => ?_⟩
    rw [written_append] at written
    exact (hreplaces written.1 separate).append (hreplaces' written.2 (hleaves.path ▸ separate))
      hleaves' hleaves.path
  · intro first t i j r _ _ visited names
    refine ⟨visited.leaves names, fun written separate => ?_⟩
    exact visited.replaces (written_singleton.1 written) names separate

/-- Whether or not a call succeeds, and whatever the order of its fetches, an own contract stays as
it is if nothing is recorded under its name, and all that stay are written. If all could be written,
those under whose names something was recorded are gone, and what the file of the manifest holds is
the project as it then is. -/
theorem ownContracts_of_ends (c : Call) (permits : Nat)
    (names : i.project.manifest.contracts.keys.Nodup)
    (separate : Storage.Separate σ (· = i.project.path)) :
    (∀ log j r, c.Ends permits i log j r →
      (∀ own ∈ i.project.manifest.ownContracts, ¬ Records c.gateways log own.name →
        own ∈ j.project.manifest.ownContracts) ∧
      ("contracts", .object (j.project.manifest.ownContracts.map fun own =>
        (own.name, Manifest.contractJson own))) ∈ j.project.manifest.sections ∧
      (Written c.gateways log →
        (∀ own ∈ j.project.manifest.ownContracts, ¬ Records c.gateways log own.name) ∧
        ((∃ n, Records c.gateways log n) →
          Storage.readAt j.storage i.project.path = .ok j.project.manifest.toBytes) ∧
        ((¬ ∃ n, Records c.gateways log n) →
          j.project = i.project ∧ j.storage = i.storage))) ∧
    ∃ log, c.Ends permits i log (c.run i).1 (c.run i).2 := by
  refine ⟨fun log j r ends => ?_, c.exists_ends_run permits i⟩
  obtain ⟨leaves, replaces⟩ := leaves_of_ends ends names
  refine ⟨leaves.kept, Manifest.mem_sections_contracts leaves.names, fun written => ?_⟩
  have replaces := replaces written separate
  exact ⟨fun own hown => replaces.lost own.name (List.mem_map_of_mem hown), replaces.saved,
    replaces.same⟩

/-- A new project with a contract `Foo` of its own. -/
def fooInstallation : Installation MemoryStorage where
  project := ⟨Manifest.defaultPath,
    { Manifest.initial with contracts := ⟨[⟨"Foo", "./Foo.cdc", .empty, none, false⟩]⟩ }⟩
  storage := .ofFiles [] []
  requests := []

/-- A network with a contract `Foo`, and another one. -/
def fooGateways : Gateways :=
  ⟨[(testnet, ((Ledger.empty.deploy (.ofNat 1) "Foo" (Utf8.encode "contract Foo {}".toList)).deploy
      (.ofNat 1) "Bar" (Utf8.encode "contract Bar {}".toList)).gateway)]⟩

/-- Installs one of these contracts. -/
def fooCall (name : String) : Call := ⟨fooGateways, none, .add ⟨testnet, .ofNat 1, name⟩ none⟩

/-- The own contract stays when `Bar` is installed, and is written beside it. -/
theorem ownContracts_of_bar : ∃ j, (fooCall "Bar").run fooInstallation = (j, .ok ()) ∧
    j.project.manifest.contracts.keys = ["Foo", "Bar"] ∧
    j.project.manifest.ownContracts = fooInstallation.project.manifest.ownContracts ∧
    Storage.readAt j.storage Manifest.defaultPath = .ok j.project.manifest.toBytes := by
  have evaluated : (fun v : Installation MemoryStorage × Except Error (List Source) =>
      (v.2.toOption, v.1.project.manifest.contracts.keys, v.1.project.manifest.ownContracts))
        (visit fooGateways none "Bar" ⟨testnet, .ofNat 1, "Bar"⟩ fooInstallation) =
      (some [], ["Foo", "Bar"], fooInstallation.project.manifest.ownContracts) := by
    decide +kernel
  cases hv : visit fooGateways none "Bar" ⟨testnet, .ofNat 1, "Bar"⟩ fooInstallation with
  | mk j children =>
  simp only [hv, Prod.mk.injEq] at evaluated
  obtain ⟨hchildren, hkeys, hown⟩ := evaluated
  obtain rfl := eq_ok_of_toOption hchildren
  have hrun : (fooCall "Bar").run fooInstallation = (j, .ok ()) := add_of_visit hv
  obtain ⟨every, log, ends⟩ := ownContracts_of_ends (i := fooInstallation) (fooCall "Bar") 16
    (by decide) (MemoryStorage.separate fun a b ha hb _ => ha.trans hb.symm)
  rw [hrun] at ends
  obtain ⟨-, -, written⟩ := every log j (.ok ()) ends
  obtain ⟨-, saved, same⟩ := written (written_of_ends ends)
  refine ⟨j, hrun, hkeys, hown, saved ?_⟩
  by_contra hnone
  rw [(same hnone).1] at hkeys
  exact absurd hkeys (by decide)

/-- The own contract is gone when `Foo` is installed. -/
theorem not_ownContracts_kept : ¬ ∀ (c : Call) (i j : Installation MemoryStorage)
    (r : Except Error Unit), i.project.manifest.contracts.keys.Nodup → c.run i = (j, r) →
      ∀ own ∈ i.project.manifest.ownContracts, own ∈ j.project.manifest.ownContracts := by
  intro kept
  have evaluated : (fun v : Installation MemoryStorage × Except Error (List Source) =>
      (v.2.toOption, v.1.project.manifest.ownContracts))
        (visit fooGateways none "Foo" ⟨testnet, .ofNat 1, "Foo"⟩ fooInstallation) =
      (some [], []) := by
    decide +kernel
  cases hv : visit fooGateways none "Foo" ⟨testnet, .ofNat 1, "Foo"⟩ fooInstallation with
  | mk j children =>
  simp only [hv, Prod.mk.injEq] at evaluated
  obtain ⟨hchildren, hown⟩ := evaluated
  obtain rfl := eq_ok_of_toOption hchildren
  have hrun : (fooCall "Foo").run fooInstallation = (j, .ok ()) := add_of_visit hv
  have := kept (fooCall "Foo") fooInstallation j (.ok ()) (by decide) hrun _ List.mem_cons_self
  rw [hown] at this
  cases this

end ContractProject.Installation
