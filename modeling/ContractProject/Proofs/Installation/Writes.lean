import ContractProject.Proofs.Installation.Agreement
import ContractProject.Proofs.Storage.Filing
import ContractProject.Proofs.Storage.Watched

/-!
What calls to the installer write, whether or not they succeed and whatever the order of their
fetches. Beside the manifest they write contracts only, each in its place among the imports of the
project, and never over something that is there.
-/

namespace ContractProject

/-- The path is that of a source among the imports of a project: in the directory of an account,
which goes by sixteen digits, by a name that contracts can be declared with. -/
def Project.IsImportPath (p : Project) (path : String) : Prop :=
  ∃ digits name : String, digits.toList.length = 16 ∧
    (∀ c ∈ digits.toList, c ∈ "0123456789abcdef".toList) ∧ Cadence.isName name ∧
    (∀ c ∈ ['/', '\\', '.'], c ∉ name.toList) ∧
    path = p.pathOf ("imports/" ++ digits ++ "/" ++ name ++ ".cdc")

theorem Hex.digit_mem : ∀ n < 16, digit n ∈ "0123456789abcdef".toList := by decide

theorem Project.isImportPath_of_isName (p : Project) {s : Source} (h : Cadence.isName s.contract) :
    p.IsImportPath (p.pathOf s.location) := by
  refine ⟨s.address.toHex, s.contract, s.address.length_toHex, fun c hc => ?_, h, fun c hc => ?_,
    ?_⟩
  · rw [Address.toHex, String.toList_ofList] at hc
    obtain ⟨n, hn, rfl⟩ := Hex.exists_digit_of_mem hc
    exact Hex.digit_mem n hn
  · have hpart : Cadence.isNamePart c = false := by
      simp only [List.mem_cons, List.not_mem_nil, or_false] at hc
      rcases hc with rfl | rfl | rfl <;> decide
    exact not_mem_of_isName h hpart
  · rfl

namespace Installation

open Cadence (Program)

variable {τ σ : Type} [Storage τ] [Storage σ] {gateways : Gateways} {network : Option String}
  {permits : Nat} {t : Target} {log : List Outcome} {r : Except Error Unit}

/-! ### The same calls with another storage -/

def mapStorage (f : τ → σ) (i : Installation τ) : Installation σ :=
  { i with storage := f i.storage }

def Fetching.mapStorage (f : τ → σ) (s : Fetching τ) : Fetching σ :=
  { s with installation := s.installation.mapStorage f }

section MapStorage

variable {f : τ → σ} (simulates : Storage.Simulates f)

include simulates

theorem record_mapStorage (name : String) (s : Source) (p : Program) (i : Installation τ) :
    (i.mapStorage f).record name s p =
      ((i.record name s p).1.mapStorage f, (i.record name s p).2) := by
  unfold record
  cases p.convertImports with
  | mk q converted =>
    cases converted with
    | error e => rfl
    | ok _ =>
      dsimp only [mapStorage]
      rw [simulates.writeOnce]
      cases Storage.writeOnce i.storage (i.project.pathOf
        (dependency i.project name s (Utf8.encode q.code)).location) (Utf8.encode q.code) with
      | mk t written =>
        cases written with
        | error e => rfl
        | ok _ =>
          dsimp only [Project.save]
          rw [simulates.writeWithParent]

theorem settle_mapStorage (t : Target) (i : Installation τ) :
    settle gateways network t (i.mapStorage f) =
      ((settle gateways network t i).1.mapStorage f, (settle gateways network t i).2) := by
  unfold settle
  cases gateways.locate t.source with
  | error e => rfl
  | ok found =>
    cases found with
    | none => rfl
    | some p =>
      dsimp only
      rw [record_mapStorage simulates]
      cases i.record t.name t.source p with
      | mk j recorded => cases recorded <;> rfl

theorem exists_settle_of_mapStorage {i : Installation τ} {j : Installation σ}
    {result : Except Error (List Source)}
    (h : settle gateways network t (i.mapStorage f) = (j, result)) :
    ∃ k, settle gateways network t i = (k, result) ∧ k.mapStorage f = j := by
  rw [settle_mapStorage simulates] at h
  obtain ⟨rfl, rfl⟩ := Prod.mk.inj h
  exact ⟨_, rfl, rfl⟩

/-- Each step with the one storage is a step with the other. -/
theorem Step.exists_of_mapStorage {s : Fetching τ} {s' : Fetching σ}
    (step : Step gateways network permits (s.mapStorage f) s') :
    ∃ u, Step gateways network permits s u ∧ u.mapStorage f = s' := by
  cases step with
  | seen going old => exact ⟨_, .seen going old, rfl⟩
  | enter going new => exact ⟨_, .enter going new, rfl⟩
  | ask going served room =>
    refine ⟨_, .ask going served room, ?_⟩
    simp only [Fetching.mapStorage, request, if_pos served]
    rfl
  | unserved going unserved => exact ⟨_, .unserved going unserved, rfl⟩
  | answer going => exact ⟨_, .answer going, rfl⟩
  | settle going settled =>
    obtain ⟨k, hk, rfl⟩ := exists_settle_of_mapStorage simulates settled
    exact ⟨_, .settle going hk, rfl⟩
  | fail going settled =>
    obtain ⟨k, hk, rfl⟩ := exists_settle_of_mapStorage simulates settled
    exact ⟨_, .fail going hk, rfl⟩
  | abort going failed => exact ⟨_, .abort going failed, rfl⟩

theorem exists_leads_of_mapStorage {s : Fetching τ} {s' : Fetching σ}
    (leads : Leads gateways network permits (s.mapStorage f) s') :
    ∃ u, Leads gateways network permits s u ∧ u.mapStorage f = s' := by
  induction leads with
  | refl => exact ⟨s, .refl, rfl⟩
  | tail _ step ih =>
    obtain ⟨u, leads, rfl⟩ := ih
    obtain ⟨v, lifted, rfl⟩ := step.exists_of_mapStorage simulates
    exact ⟨v, leads.tail lifted, rfl⟩

theorem exists_ends_of_mapStorage {targets : List Target} {i : Installation τ} {j : Installation σ}
    (ends : Ends gateways network permits targets (i.mapStorage f) log j r) :
    ∃ k, Ends gateways network permits targets i log k r ∧ k.mapStorage f = j := by
  generalize hi : i.mapStorage f = i' at ends
  induction ends generalizing i with
  | done => exact ⟨i, .done, hi⟩
  | @fails t _ _ _ _ leads ended failed =>
    subst hi
    obtain ⟨u, lifted, rfl⟩ := exists_leads_of_mapStorage (s := .start t i) simulates leads
    exact ⟨_, .fails lifted ended failed, rfl⟩
  | @next t _ _ _ _ _ _ leads ended succeeded _ ih =>
    subst hi
    obtain ⟨u, lifted, rfl⟩ := exists_leads_of_mapStorage (s := .start t i) simulates leads
    obtain ⟨k, ends, hk⟩ := ih rfl
    exact ⟨k, .next lifted ended succeeded ends, hk⟩

end MapStorage

/-! ### What may change -/

theorem isImportPath_congr {p q : Project} (h : p.path = q.path) (path : String) :
    p.IsImportPath path ↔ q.IsImportPath path := by
  simp only [Project.IsImportPath, pathOf_of_path h]

/-- What calls to the installer may change: the manifest, what is at paths among the imports if
nothing is there, and the directories that these are in. -/
inductive Confined (p : Project) : Storage.Change σ → Prop
  | manifest {before : σ} {contents : Bytes} : Confined p (.write before p.path contents)
  | source {before : σ} {path : String} {contents : Bytes} : p.IsImportPath path →
      Storage.contains before path = false → Confined p (.write before path contents)
  | directory {before : σ} {path directory : String} : path = p.path ∨ p.IsImportPath path →
      Path.parent? path = some directory → Confined p (.createDirectories before directory)

section Files

variable {φ : Type} {file : String → φ} {paths : String → Prop}

/-- The paths of a project's own files and of its imports are among these. -/
structure Covers (paths : String → Prop) (p : Project) : Prop where
  manifest : paths p.path
  imports : ∀ path, p.IsImportPath path → paths path

theorem Covers.source {p : Project} (covers : Covers paths p) {q : Program}
    (found : gateways.Finds s q) : paths (p.pathOf s.location) :=
  covers.imports _ (p.isImportPath_of_isName (isName_of_finds found))

theorem confined_of_writesAt {p : Project} (filing : Storage.Filing σ file paths)
    (covers : Covers paths p) {storage : σ} {path : String} {contents : Bytes}
    (hpath : path = p.path ∨ p.IsImportPath path ∧ Storage.contains storage path = false)
    {c : Storage.Change σ} (h : Storage.Watched.WritesAt storage path contents c) :
    Confined p c := by
  cases h with
  | createDirectories hparent => exact .directory (hpath.imp_right And.left) hparent
  | write hcreated =>
    rcases hpath with rfl | ⟨himport, hnew⟩
    · exact .manifest
    · have hpaths := covers.imports path himport
      refine .source himport ?_
      rw [(filing.parent hpaths hpaths hcreated).contains, hnew]

theorem Covers.congr {p q : Project} (h : p.path = q.path) (covers : Covers paths p) :
    Covers paths q where
  manifest := h ▸ covers.manifest
  imports path himport := covers.imports path ((isImportPath_congr h path).2 himport)

theorem Confined.congr {p q : Project} (h : p.path = q.path) {c : Storage.Change σ}
    (confined : Confined p c) : Confined q c := by
  cases confined with
  | manifest => exact h ▸ .manifest
  | source himport hnew => exact .source ((isImportPath_congr h _).1 himport) hnew
  | directory hpath hparent =>
    exact .directory (hpath.imp (·.trans h) (isImportPath_congr h _).1) hparent

/-! ### Calls -/

theorem exists_changes_of_writeOnce {p : Project} {s : Source} {q : Program} {code : Bytes}
    {w v : Storage.Watched σ} (filing : Storage.Filing σ file paths) (covers : Covers paths p)
    (found : gateways.Finds s q) (h : Storage.writeOnce w (p.pathOf s.location) code = (v, r)) :
    ∃ new, v.changes = w.changes ++ new ∧ ∀ c ∈ new, Confined p c := by
  have himport := p.isImportPath_of_isName (isName_of_finds found)
  rcases Storage.writeOnce_cases h with ⟨-, rfl, -⟩ | ⟨hnew, hwrite⟩
  · exact ⟨[], by simp⟩
  · obtain ⟨new, hchanges, hall⟩ := Storage.Watched.exists_changes_of_writeWithParent hwrite
    exact ⟨new, hchanges, fun c hc =>
      confined_of_writesAt filing covers (.inr ⟨himport, hnew⟩) (hall c hc)⟩

/-- What is written down of the changes that a target makes is confined. -/
theorem Visited.exists_changes {i j : Installation (Storage.Watched σ)}
    (visited : Visited gateways i t j r) (filing : Storage.Filing σ file paths)
    (covers : Covers paths i.project) : ∃ new, j.storage.changes = i.storage.changes ++ new ∧
      ∀ c ∈ new, Confined i.project c := by
  have path := visited.path
  cases visited with
  | unanswered _ _ storage | absent _ _ storage => exact ⟨[], by simp [storage]⟩
  | unwritten found written _ => exact exists_changes_of_writeOnce filing covers found written
  | recorded found written _ saved =>
    obtain ⟨first, hfirst, hconfined⟩ := exists_changes_of_writeOnce filing covers found written
    rw [Project.save, path] at saved
    obtain ⟨new, hchanges, hall⟩ := Storage.Watched.exists_changes_of_writeWithParent saved
    refine ⟨first ++ new, by rw [hchanges, hfirst, List.append_assoc],
      List.forall_mem_append.2 ⟨hconfined, fun c hc => ?_⟩⟩
    exact confined_of_writesAt filing covers (.inl rfl) (hall c hc)

/-- A target changes no file that is there, but for the manifest. -/
theorem Visited.fileAt?_eq {i j : Installation σ} (visited : Visited gateways i t j r)
    (filing : Storage.Filing σ file paths) (covers : Covers paths i.project) {other : String}
    {contents : Bytes} (hother : paths other) (hne : file other ≠ file i.project.path)
    (hbefore : Storage.fileAt? i.storage other = some contents) :
    Storage.fileAt? j.storage other = some contents := by
  have path := visited.path
  cases visited with
  | unanswered _ _ storage | absent _ _ storage => rwa [storage]
  | unwritten found written _ =>
    exact filing.fileAt?_of_writeOnce (covers.source found) hother written hbefore
  | recorded found written _ saved =>
    rw [Project.save, path] at saved
    rw [(filing.sameAt_of_ne covers.manifest hother hne saved).file]
    exact filing.fileAt?_of_writeOnce (covers.source found) hother written hbefore

theorem exists_changes_of_ends {targets : List Target} {i j : Installation (Storage.Watched σ)}
    (ends : Ends gateways network permits targets i log j r)
    (filing : Storage.Filing σ file paths) (covers : Covers paths i.project) :
    ∃ new, j.storage.changes = i.storage.changes ++ new ∧ ∀ c ∈ new, Confined i.project c := by
  refine (holds_of_ends (fun i _ j => Covers paths i.project →
    j.project.path = i.project.path ∧ ∃ new, j.storage.changes = i.storage.changes ++ new ∧
      ∀ c ∈ new, Confined i.project c) ?_ ?_ ?_ ends covers).2
  · exact fun project storage _ => ⟨by rw [project], [], by simp [storage]⟩
  · intro i k j _ _ hearlier hlater covers
    obtain ⟨hpath, new, hnew, hconfined⟩ := hearlier covers
    obtain ⟨hpath', new', hnew', hconfined'⟩ := hlater (covers.congr hpath.symm)
    refine ⟨hpath'.trans hpath, new ++ new', by rw [hnew', hnew, List.append_assoc], ?_⟩
    exact List.forall_mem_append.2 ⟨hconfined, fun c hc => (hconfined' c hc).congr hpath⟩
  · exact fun _ _ visited covers => ⟨visited.path, visited.exists_changes filing covers⟩

theorem fileAt?_of_ends {targets : List Target} {i j : Installation σ}
    (ends : Ends gateways network permits targets i log j r)
    (filing : Storage.Filing σ file paths) (covers : Covers paths i.project) {other : String}
    {contents : Bytes} (hother : paths other) (hne : file other ≠ file i.project.path)
    (hbefore : Storage.fileAt? i.storage other = some contents) :
    Storage.fileAt? j.storage other = some contents := by
  refine (holds_of_ends (fun i _ j => Covers paths i.project →
    file other ≠ file i.project.path → j.project.path = i.project.path ∧
      (Storage.fileAt? i.storage other = some contents →
        Storage.fileAt? j.storage other = some contents)) ?_ ?_ ?_ ends covers hne).2 hbefore
  · exact fun project storage _ _ => ⟨by rw [project], fun h => storage ▸ h⟩
  · intro i k j _ _ hearlier hlater covers hne
    obtain ⟨hpath, hkept⟩ := hearlier covers hne
    obtain ⟨hpath', hkept'⟩ := hlater (covers.congr hpath.symm) (hpath ▸ hne)
    exact ⟨hpath'.trans hpath, fun h => hkept' (hkept h)⟩
  · exact fun _ _ visited covers hne =>
      ⟨visited.path, visited.fileAt?_eq filing covers hother hne⟩

/-- The installation with its storage watched. -/
def watched (i : Installation σ) : Installation (Storage.Watched σ) := i.mapStorage (⟨·, []⟩)

/-- Whatever is installed, in whatever order and however that ends, beside the manifest only paths
among the imports of the project are written, where there was nothing, and every file that was there
stays. Each call may be watched while it goes on; that makes no difference to what it does. -/
theorem writes_confined (filing : Storage.Filing σ file paths) (c : Call) (permits : Nat)
    (i : Installation σ) (covers : Covers paths i.project) :
    (∀ log k r, c.Ends permits i.watched log k r →
      ∀ change ∈ k.storage.changes, Confined i.project change) ∧
    (∀ log j r, c.Ends permits i log j r →
      (∃ k, c.Ends permits i.watched log k r ∧ j = k.mapStorage Storage.Watched.storage) ∧
      ∀ path contents, paths path → file path ≠ file i.project.path →
        Storage.read i.storage path = .ok contents →
        Storage.read j.storage path = .ok contents) ∧
    ∃ log, c.Ends permits i log (c.run i).1 (c.run i).2 := by
  refine ⟨fun log k r ends => ?_, fun log j r ends => ⟨?_, ?_⟩, c.exists_ends_run permits i⟩
  · obtain ⟨new, hnew, hconfined⟩ := exists_changes_of_ends ends filing covers
    have hnew : k.storage.changes = new := hnew
    rwa [hnew]
  · obtain ⟨k, ends, hk⟩ :=
      exists_ends_of_mapStorage (i := i.watched) Storage.Watched.simulates ends
    exact ⟨k, ends, hk.symm⟩
  · intro path contents hpath hne hread
    rw [← Storage.fileAt?_eq_some_iff] at hread ⊢
    exact fileAt?_of_ends ends filing covers hpath hne hread

end Files

/-- A new project beside a file that is in the place of a source. -/
def occupiedInstallation : Installation MemoryStorage :=
  ⟨.initial, .ofFiles [("imports/0000000000000002/B.cdc", Utf8.encode "own".toList)] [], []⟩

theorem writes_confined_of_occupied :
    Storage.read (Call.run ⟨linkedGateways, none, .add (sampleSource 1 "A") none⟩
      occupiedInstallation).1.storage "imports/0000000000000002/B.cdc" =
        .ok (Utf8.encode "own".toList) := by
  obtain ⟨-, every, log, ends⟩ := writes_confined MemoryStorage.filing
    ⟨linkedGateways, none, .add (sampleSource 1 "A") none⟩ 16 occupiedInstallation
    ⟨trivial, fun _ _ => trivial⟩
  exact (every log _ _ ends).2 _ _ trivial (by decide +kernel) (by decide +kernel)

end Installation

end ContractProject
