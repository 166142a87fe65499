import ContractProject.Proofs.Installation.Closure
import ContractProject.Proofs.Installation.Location
import ContractProject.Proofs.Manifest.Loading

/-!
A project is loaded as it is in memory after every call, whether or not it succeeds and whatever the
order of its fetches, as long as files can be written and nothing is recorded under the name of an
own contract. Each recording keeps this up, since it adds to the manifest what reading would add,
and ends with saving it.
-/

namespace ContractProject

namespace Installation

variable {σ : Type} [Storage σ] {gateways : Gateways} {network : Option String} {permits : Nat}
  {i j k : Installation σ} {first t : Target} {log : List Outcome} {r : Except Error Unit}

theorem nodup_fetchedAliases (s : Source) : (fetchedAliases s).keys.Nodup := by
  unfold fetchedAliases
  split
  · exact (by decide : [emulator, testnet, mainnet].Nodup)
  · exact List.nodup_singleton s.network

/-! ### Saved projects -/

/-- The project is saved as it is, and in a form that is read back. -/
structure Saved (i : Installation σ) : Prop where
  sound : i.project.manifest.Sound
  valid : i.project.manifest.selfCanonical? = none
  doubles : i.project.manifest.toJson.DoublesReadBack
  load : Project.load i.storage i.project.path = .ok i.project

theorem saved_of_load (h : Project.load i.storage i.project.path = .ok i.project)
    (doubles : i.project.manifest.toJson.DoublesReadBack) : Saved i :=
  have ⟨_, ⟨_, parsed⟩, valid⟩ := Project.exists_parse_of_load h
  ⟨Manifest.sound_of_parse parsed, valid, doubles, h⟩

/-- The project has been changed, if at all, without harm to its path and own contracts, and is
saved. -/
structure Resaved (i j : Installation σ) : Prop where
  saved : Saved j
  path : j.project.path = i.project.path
  own : j.project.manifest.ownNames = i.project.manifest.ownNames

theorem Resaved.trans (h : Resaved i j) (g : Resaved j k) : Resaved i k :=
  ⟨g.saved, g.path.trans h.path, g.own.trans h.own⟩

theorem Saved.of_eq (saved : Saved i) (project : j.project = i.project)
    (storage : j.storage = i.storage) : Resaved i j := by
  refine ⟨⟨?_, ?_, ?_, ?_⟩, by rw [project], by rw [project]⟩
  · exact project ▸ saved.sound
  · exact project ▸ saved.valid
  · exact project ▸ saved.doubles
  · rw [project, storage]
    exact saved.load

/-- Recording a source under a name that no own contract has. -/
theorem Saved.recorded {name : String} {s : Source} {code : Bytes} {storage : σ} (saved : Saved i)
    (separate : Storage.Separate σ (· = i.project.path))
    (recorded : Recorded i name s code storage j) (source : Source.read s.toText = .ok s)
    (new : name ∉ i.project.manifest.ownNames) : Resaved i j := by
  let d := dependency i.project name s code
  have hpath := recorded.path
  have hmanifest : j.project.manifest = i.project.manifest.withDependency d := by
    rw [recorded.added]
    rfl
  -- the dependency takes over the canonical name of one that has been read or checked before
  have hcanonical : d.canonical ≠ some "" ∧ Canonical.target? d ≠ some d.name := by
    have hcanonical : d.canonical =
        (i.project.manifest.dependencies.get? name).bind Dependency.canonical := rfl
    cases hold : i.project.manifest.dependencies.get? name with
    | none =>
      rw [hold] at hcanonical
      simp [Canonical.target?, Canonical.canonical, hcanonical]
    | some old =>
      obtain ⟨hmem, hname⟩ := mem_of_lookup? hold
      have hname : old.name = d.name := hname
      rw [hold, Option.bind_some] at hcanonical
      have htarget : Canonical.target? d = Canonical.target? old := by
        simp [Canonical.target?, Canonical.canonical, hcanonical]
      rw [hcanonical, htarget, ← hname]
      exact ⟨(saved.sound.dependency old hmem).canonical,
        (Manifest.selfCanonical?_eq_none_iff.1 saved.valid).2 old hmem⟩
  have hsound : j.project.manifest.Sound := by
    rw [hmanifest]
    exact saved.sound.withDependency new ⟨nodup_fetchedAliases s, hcanonical.1⟩ source
  have hdoubles : j.project.manifest.toJson.DoublesReadBack := by
    rw [hmanifest]
    exact Manifest.doubles_of_eq saved.doubles rfl rfl rfl
  have hvalid : j.project.manifest.selfCanonical? = none := by
    rw [hmanifest]
    exact Manifest.selfCanonical?_withDependency saved.valid hcanonical.2
  have hread : Storage.readAt j.storage j.project.path = .ok j.project.manifest.toBytes :=
    separate.written hpath recorded.saved
  have hown : j.project.manifest.ownContracts = i.project.manifest.ownContracts := by
    rw [hmanifest]
    exact saved.sound.ownContracts_withDependency new
  exact ⟨⟨hsound, hvalid, hdoubles, Project.load_of_sound hsound hdoubles hvalid hread⟩, hpath,
    congrArg (List.map Contract.name) hown⟩

/-- A target keeps a project saved, unless a file cannot be written or something is recorded under
the name of an own contract. -/
theorem Saved.visited (saved : Saved i) (separate : Storage.Separate σ (· = i.project.path))
    (visited : Visited gateways i t j r) (written : t.Found gateways → r = .ok ())
    (network : Source.IsNetwork t.source.network)
    (new : ∀ n ∈ i.project.manifest.ownNames, ¬ (t.Found gateways ∧ t.name = n)) :
    Resaved i j := by
  by_cases found : t.Found gateways
  · obtain rfl := written found
    have hnew : t.name ∉ i.project.manifest.ownNames := fun hmem => new t.name hmem ⟨found, rfl⟩
    obtain ⟨p, found⟩ := found
    obtain ⟨storage, recorded⟩ := visited.exists_recorded found
    have hname : t.source.contract ≠ "" := by
      intro hempty
      have := isName_of_finds found
      simp [hempty, Cadence.isName] at this
    exact saved.recorded separate recorded
      (Source.read_eq_ok_iff.2 (Source.parse_toText network hname)) hnew
  · obtain ⟨project, storage⟩ := visited.same found
    exact saved.of_eq project storage

/-! ### Calls -/

/-- Imports are fetched from the network that was chosen for them, or from that of the contract. -/
theorem ComesTo.isNetwork (comes : ComesTo gateways network first t)
    (source : Source.IsNetwork first.source.network)
    (chosen : ∀ n, network = some n → Source.IsNetwork n) :
    Source.IsNetwork t.source.network := by
  rcases comes.eq_first_or_own with rfl | ⟨-, hnetwork⟩
  · exact source
  · rw [hnetwork]
    cases network with
    | none => exact source
    | some n => exact chosen n rfl

theorem Saved.ends {targets : List Target} (saved : Saved i)
    (ends : Ends gateways network permits targets i log j r)
    (separate : Storage.Separate σ (· = i.project.path)) (written : Written gateways log)
    (sources : ∀ t ∈ targets, Source.IsNetwork t.source.network)
    (chosen : ∀ n, network = some n → Source.IsNetwork n)
    (new : ∀ n ∈ i.project.manifest.ownNames, ¬ Records gateways log n) : Resaved i j := by
  refine holds_of_ends (fun i log j => Saved i → Storage.Separate σ (· = i.project.path) →
    Written gateways log → (∀ n ∈ i.project.manifest.ownNames, ¬ Records gateways log n) →
      Resaved i j) ?_ ?_ ?_ ends saved separate written new
  · exact fun project storage saved _ _ _ => saved.of_eq project storage
  · intro i k j earlier later hearlier hlater saved separate written new
    rw [written_append] at written
    simp only [records_append, not_or] at new
    have resaved := hearlier saved separate written.1 fun n hn => (new n hn).1
    refine resaved.trans (hlater resaved.saved (resaved.path ▸ separate) written.2 fun n hn => ?_)
    rw [resaved.own] at hn
    exact (new n hn).2
  · intro first t i j r hfirst comes visited saved separate written new
    simp only [records_singleton] at new
    exact saved.visited separate visited (written_singleton.1 written)
      (comes.isNetwork (sources first hfirst) chosen) new

/-- The source of a call is one that can be given, and so is the network for imports. -/
structure Call.Proper (c : Call) : Prop where
  source : ∀ s name, c.request = .add s name → ∃ text, Source.read text = .ok s
  network : ∀ n, c.network = some n → Source.IsNetwork n

theorem Saved.call {c : Call} (saved : Saved i) (ends : c.Ends permits i log j r)
    (separate : Storage.Separate σ (· = i.project.path)) (proper : c.Proper)
    (written : Written c.gateways log)
    (new : ∀ n ∈ i.project.manifest.ownNames, ¬ Records c.gateways log n) : Resaved i j := by
  refine saved.ends ends separate written ?_ proper.network new
  obtain ⟨gateways, network, request⟩ := c
  cases request with
  | add source name =>
    obtain ⟨text, parsed⟩ := proper.source source name rfl
    simpa [Call.targets] using (Source.isNetwork_of_parse (Source.read_eq_ok_iff.1 parsed)).1
  | install =>
    refine List.forall_mem_map.2 fun d hd => ?_
    exact (Source.isNetwork_of_parse (Source.read_eq_ok_iff.1 (saved.sound.source d hd))).1

/-! ### One call after the other -/

/-- How calls may end that are made one after the other, whether or not they succeed: what has
settled in each of them, and what is installed then. -/
inductive Runs (permits : Nat) :
    Installation σ → List Call → List (List Outcome) → Installation σ → Prop where
  | nil {i : Installation σ} : Runs permits i [] [] i
  | cons {c : Call} {calls : List Call} {log : List Outcome} {logs : List (List Outcome)}
      {i j k : Installation σ} {r : Except Error Unit} : c.Ends permits i log k r →
      Runs permits k calls logs j → Runs permits i (c :: calls) (log :: logs) j

/-- Calls one after the other, each in the order of `add`. -/
def runAll (i : Installation σ) : List Call → Installation σ
  | [] => i
  | c :: calls => runAll (c.run i).1 calls

theorem exists_runs_runAll (permits : Nat) (i : Installation σ) (calls : List Call) :
    ∃ logs, Runs permits i calls logs (runAll i calls) := by
  induction calls generalizing i with
  | nil => exact ⟨[], .nil⟩
  | cons c calls ih =>
    obtain ⟨log, ends⟩ := c.exists_ends_run permits i
    obtain ⟨logs, runs⟩ := ih (c.run i).1
    exact ⟨log :: logs, .cons ends runs⟩

/-- What the calls have to write can be written, and they record nothing under these names. -/
def Undisturbed (names : List String) : List Call → List (List Outcome) → Prop :=
  List.Forall₂ fun c log => Written c.gateways log ∧ ∀ n ∈ names, ¬ Records c.gateways log n

theorem Saved.runs {calls : List Call} {logs : List (List Outcome)} (saved : Saved i)
    (runs : Runs permits i calls logs j) (separate : Storage.Separate σ (· = i.project.path))
    (proper : ∀ c ∈ calls, c.Proper)
    (undisturbed : Undisturbed i.project.manifest.ownNames calls logs) : Resaved i j := by
  induction runs with
  | nil => exact saved.of_eq rfl rfl
  | cons ends _ ih =>
    rw [List.forall_mem_cons] at proper
    obtain ⟨⟨written, new⟩, undisturbed⟩ := List.forall₂_cons.1 undisturbed
    have resaved := saved.call ends separate proper.1 written new
    rw [← resaved.own] at undisturbed
    exact resaved.trans (ih resaved.saved (resaved.path ▸ separate) proper.2 undisturbed)

/-- After any calls on a project that was loaded, loading it again gives what is in memory, whether
or not they have succeeded and whatever the order of their fetches. -/
theorem load_of_runs (i : Installation σ) (calls : List Call) (permits : Nat)
    (loaded : Project.load i.storage i.project.path = .ok i.project)
    (doubles : i.project.manifest.toJson.DoublesReadBack)
    (separate : Storage.Separate σ (· = i.project.path)) (proper : ∀ c ∈ calls, c.Proper) :
    (∀ logs j, Runs permits i calls logs j →
      Undisturbed i.project.manifest.ownNames calls logs →
      Project.load j.storage i.project.path = .ok j.project) ∧
    ∃ logs, Runs permits i calls logs (runAll i calls) := by
  refine ⟨fun logs j runs undisturbed => ?_, exists_runs_runAll permits i calls⟩
  have resaved := (saved_of_load loaded doubles).runs runs separate proper undisturbed
  have hload := resaved.saved.load
  rwa [resaved.path] at hload

/-- Files in memory with the manifest of a project that has one contract. -/
def ownedFiles : MemoryStorage :=
  let manifest : Json := .object [("contracts", .object [("Own", .string "./Own.cdc")])]
  .ofFiles [(Manifest.defaultPath, Utf8.encodeString manifest.pretty)] []

/-- Installs a contract under a name that differs from its own. -/
def renamingCall : Call := ⟨sampleGateways, none, .add (sampleSource 2 "B") (some "C")⟩

theorem load_of_runAll_owned : ∃ p, Project.load ownedFiles Manifest.defaultPath = .ok p ∧
    ∃ j, runAll ⟨p, ownedFiles, []⟩ [renamingCall] = j ∧
      j.project.manifest.contracts.keys = ["Own", "C"] ∧
      Project.load j.storage Manifest.defaultPath = .ok j.project := by
  let target : Target := ⟨"C", sampleSource 2 "B"⟩
  have evaluated : ((Project.load ownedFiles Manifest.defaultPath).toOption.map fun p =>
      let i : Installation MemoryStorage := ⟨p, ownedFiles, []⟩
      let visited := visit sampleGateways none target.name target.source i
      (i.project.manifest.ownNames, p.manifest.toJson.numbers, visited.2.toOption,
        visited.1.project.manifest.contracts.keys)) =
      some (["Own"], [], some [], ["Own", "C"]) := by
    decide +kernel
  obtain ⟨p, loaded, hp⟩ := exists_ok_of_toOption evaluated
  let i : Installation MemoryStorage := ⟨p, ownedFiles, []⟩
  simp only [Prod.mk.injEq] at hp
  obtain ⟨hown, hnumbers, hchildren, hkeys⟩ := hp
  obtain ⟨hpath, -, -⟩ := Project.exists_parse_of_load loaded
  -- the call is one visit: what it installs has no imports
  cases hv : visit sampleGateways none target.name target.source i with
  | mk j children =>
  rw [hv] at hchildren hkeys
  obtain rfl := eq_ok_of_toOption hchildren
  have hrun : renamingCall.run i = (j, .ok ()) := add_of_visit hv
  have only {t : Target} (comes : ComesTo sampleGateways none target t) : t = target := by
    have himports : (∃ p, sampleGateways.Finds target.source p) ∧
        ∀ p, sampleGateways.Finds target.source p → imports none target.source p = [] :=
      Gateways.finds_of_locate (by decide +kernel)
    induction comes with
    | first => rfl
    | imported _ found hc ih =>
      rw [ih] at found hc
      rw [himports.2 _ found] at hc
      cases hc
  have proper : ∀ c ∈ [renamingCall], c.Proper := by
    refine List.forall_mem_singleton.2 ⟨?_, nofun⟩
    rintro s name ⟨⟩
    exact ⟨"emulator://2.B", Source.read_eq_ok_iff.2 (by decide)⟩
  obtain ⟨every, logs, runs⟩ := load_of_runs i [renamingCall] 16 (by rw [hpath]; exact loaded)
    (by simp [Json.DoublesReadBack, hnumbers, i])
    (MemoryStorage.separate fun a b ha hb _ => ha.trans hb.symm) proper
  refine ⟨p, loaded, j, congrArg Prod.fst hrun, hkeys, ?_⟩
  have undisturbed : Undisturbed i.project.manifest.ownNames [renamingCall] logs := by
    cases runs with
    | cons ends runs =>
    cases runs with
    | nil =>
    obtain ⟨s, leads, -, rfl, -⟩ := exists_leads_of_ends (t := target) ends
    have start : i.storage.Free := rfl
    refine .cons ⟨written_of_accepts leads start (MemoryStorage.accepts _)
      fun t _ => MemoryStorage.accepts _, ?_⟩ .nil
    rintro n hn ⟨o, ho, -, rfl⟩
    rw [hown, only (comesTo_of_mem_log leads o ho)] at hn
    exact absurd hn (by decide)
  have h := every logs _ runs undisturbed
  rw [runAll, runAll, hrun] at h
  exact hpath ▸ h

end Installation

end ContractProject
