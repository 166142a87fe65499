import ContractProject.Proofs.Installation.Schedule

/-!
What calls to the installer do, whether they succeed or not and whatever the order of their fetches.
A call comes to one target after the other, up to the first that fails; the fetches of each go on in
any order, also beside one that has failed. What holds of every target that settles, and adds up,
holds of every call.
-/

namespace ContractProject.Installation

variable {σ : Type} [Storage σ] {gateways : Gateways} {network : Option String} {permits : Nat}
  {s s' : Fetching σ} {i j : Installation σ} {first t : Target} {log : List Outcome}
  {r : Except Error Unit}

/-! ### Steps -/

/-- What fetching a target comes to: the target, and what is imported, under its own name. -/
inductive ComesTo (gateways : Gateways) (network : Option String) (first : Target) :
    Target → Prop where
  | first : ComesTo gateways network first first
  | imported {t : Target} {c : Source} {p : Cadence.Program} : ComesTo gateways network first t →
      gateways.Finds t.source p → c ∈ imports network t.source p →
      ComesTo gateways network first (.own c)

theorem ComesTo.reachable (h : ComesTo gateways network first t) :
    Reachable gateways network first.source t.source := by
  induction h with
  | first => exact .root
  | imported _ found hc ih => exact ih.trans (reachable_of_mem_imports found hc)

/-- What is imported goes by its own name, and comes from the network that is chosen for imports. -/
theorem ComesTo.eq_first_or_own (h : ComesTo gateways network first t) :
    t = first ∨
      t = .own t.source ∧ t.source.network = network.getD first.source.network := by
  induction h with
  | first => exact .inl rfl
  | imported _ _ hc ih =>
    refine .inr ⟨rfl, (mem_imports.1 hc).1.trans ?_⟩
    rcases ih with rfl | ⟨-, hnetwork⟩
    · rfl
    · rw [hnetwork]
      cases network <;> rfl

/-- The fetches after a step are those from before, and of what one of these imports. -/
theorem Step.fetches (step : Step gateways network permits s s') {f : Fetch}
    (h : f ∈ s'.fetches) :
    (∃ g ∈ s.fetches, f.target = g.target) ∨
      ∃ g ∈ s.fetches, ∃ p, gateways.Finds g.target.source p ∧
        ∃ c ∈ imports network g.target.source p, f.target = .own c := by
  cases step with
  | seen going _ | abort going _ | fail going _ =>
    exact .inl ⟨f, going ▸ Multiset.mem_cons_of_mem h, rfl⟩
  | enter going _ | ask going _ _ | unserved going _ | answer going =>
    rw [going]
    rcases Multiset.mem_cons.1 h with rfl | h
    · exact .inl ⟨_, Multiset.mem_cons_self _ _, rfl⟩
    · exact .inl ⟨f, Multiset.mem_cons_of_mem h, rfl⟩
  | settle going settled =>
    rw [going]
    rcases Multiset.mem_add.1 h with h | h
    · obtain ⟨c, hc, rfl⟩ := mem_waitingFor_own.1 h
      obtain ⟨-, rfl⟩ | ⟨p, found, rfl⟩ := settle_eq_ok settled
      · cases hc
      · exact .inr ⟨_, Multiset.mem_cons_self _ _, p, found, c, hc, rfl⟩
    · exact .inl ⟨f, Multiset.mem_cons_of_mem h, rfl⟩

/-- A step leaves the project, its files and the log as they are, or one fetch settles. -/
theorem Step.installs (step : Step gateways network permits s s') :
    (s'.log = s.log ∧ s'.installation.project = s.installation.project ∧
        s'.installation.storage = s.installation.storage) ∨
      ∃ f ∈ s.fetches, ∃ r, s'.log = s.log ++ [⟨f.target, r⟩] ∧
        Visited gateways s.installation f.target s'.installation r := by
  cases step with
  | seen _ _ | enter _ _ | unserved _ _ | answer _ | abort _ _ => exact .inl ⟨rfl, rfl, rfl⟩
  | ask _ _ _ => exact .inl ⟨rfl, project_request _ _, storage_request _ _⟩
  | @settle t _ _ _ going settled | @fail t _ _ _ going settled =>
    refine .inr ⟨⟨.answered, t⟩, ?_, _, rfl, visited_of_settle settled⟩
    rw [going]
    exact Multiset.mem_cons_self _ _

theorem comesTo_of_leads (leads : Leads gateways network permits (.start first i) s) :
    ∀ f ∈ s.fetches, ComesTo gateways network first f.target := by
  induction leads with
  | refl =>
    intro f hf
    rw [show f = ⟨.waiting, first⟩ from Multiset.mem_singleton.1 hf]
    exact .first
  | tail _ step ih =>
    intro f hf
    rcases step.fetches hf with ⟨g, hg, htarget⟩ | ⟨g, hg, p, found, c, hc, htarget⟩
    · rw [htarget]
      exact ih g hg
    · rw [htarget]
      exact (ih g hg).imported found hc

/-! ### Calls -/

/-- How one target after the other may be fetched, up to the first that fails: what has settled on
the way, what is installed then, and what is told. -/
inductive Ends (gateways : Gateways) (network : Option String) (permits : Nat) :
    List Target → Installation σ → List Outcome → Installation σ → Except Error Unit → Prop where
  | done {i : Installation σ} : Ends gateways network permits [] i [] i (.ok ())
  | fails {t : Target} {rest : List Target} {i : Installation σ} {s : Fetching σ} {e : Error} :
      Leads gateways network permits (.start t i) s → s.fetches = 0 → e ∈ s.failures →
      Ends gateways network permits (t :: rest) i s.log s.installation (.error e)
  | next {t : Target} {rest : List Target} {log : List Outcome} {i j : Installation σ}
      {s : Fetching σ} {r : Except Error Unit} :
      Leads gateways network permits (.start t i) s → s.fetches = 0 → s.failures = [] →
      Ends gateways network permits rest s.installation log j r →
      Ends gateways network permits (t :: rest) i (s.log ++ log) j r

/-- Installing one target after the other in the order of `add` is one of these ways. -/
theorem exists_ends_of_addAll (permits : Nat) {targets : List Target}
    (h : addAll gateways network (targets.map fun t => (t.name, t.source)) i = (j, r)) :
    ∃ log, Ends gateways network permits targets i log j r := by
  induction targets generalizing i with
  | nil =>
    obtain ⟨rfl, rfl⟩ := Prod.mk.inj h
    exact ⟨[], .done⟩
  | cons t rest ih =>
    obtain ⟨s, leads, ended, hadd⟩ := exists_leads_of_add gateways network permits t i
    rw [List.map_cons, addAll, hadd] at h
    cases hs : s.failures with
    | nil =>
      rw [Fetching.result_eq_ok_iff.2 hs] at h
      obtain ⟨log, ends⟩ := ih h
      exact ⟨s.log ++ log, .next leads ended hs ends⟩
    | cons e failures =>
      have hresult : s.result = .error e := by rw [Fetching.result, hs]
      rw [hresult] at h
      obtain ⟨rfl, rfl⟩ := Prod.mk.inj h
      exact ⟨s.log, .fails leads ended (hs ▸ List.mem_cons_self)⟩

theorem exists_leads_of_ends (ends : Ends gateways network permits [t] i log j r) :
    ∃ s, Leads gateways network permits (.start t i) s ∧ s.fetches = 0 ∧ s.log = log ∧
      s.installation = j := by
  cases ends with
  | fails leads ended _ => exact ⟨_, leads, ended, rfl, rfl⟩
  | next leads ended _ rest =>
    cases rest with
    | done => exact ⟨_, leads, ended, (List.append_nil _).symm, rfl⟩

/-- What the installer is asked to do: to install a contract, under its own name unless another one
is given, or to install what the project depends on. -/
inductive Request where
  | add (source : Source) (name : Option String)
  | install

/-- A request with the networks as they are then, and the network chosen for imports. -/
structure Call where
  gateways : Gateways
  network : Option String
  request : Request

namespace Call

/-- What a call sets out to install into a project. -/
def targets (c : Call) (p : Project) : List Target :=
  match c.request with
  | .add source name => [⟨name.getD source.contract, source⟩]
  | .install => p.manifest.dependencies.toList.map fun d => ⟨d.name, d.source⟩

/-- Carries out a call in the order of `add`, which is one of the ways in which it may end. -/
def run (c : Call) (i : Installation σ) : Installation σ × Except Error Unit :=
  match c.request with
  | .add source name => add c.gateways c.network (name.getD source.contract) source i
  | .install => install c.gateways c.network i

/-- How a call may end, whatever the order of its fetches. -/
def Ends (c : Call) (permits : Nat) (i : Installation σ) (log : List Outcome)
    (j : Installation σ) (r : Except Error Unit) : Prop :=
  Installation.Ends c.gateways c.network permits (c.targets i.project) i log j r

theorem addAll_targets (c : Call) (i : Installation σ) :
    addAll c.gateways c.network ((c.targets i.project).map fun t => (t.name, t.source)) i =
      c.run i := by
  obtain ⟨gateways, network, request⟩ := c
  cases request with
  | add source name =>
    simp only [targets, List.map_cons, List.map_nil, addAll, run]
    rcases add gateways network (name.getD source.contract) source i with ⟨j, e | _⟩ <;> rfl
  | install =>
    rw [targets, List.map_map]
    rfl

theorem exists_ends_run (c : Call) (permits : Nat) (i : Installation σ) :
    ∃ log, c.Ends permits i log (c.run i).1 (c.run i).2 :=
  exists_ends_of_addAll permits (c.addAll_targets i)

end Call

/-! ### What holds of every call -/

section Induction

variable (holds : Installation σ → List Outcome → Installation σ → Prop)
  (same : ∀ {i j}, j.project = i.project → j.storage = i.storage → holds i [] j)
  (next : ∀ {i k j earlier later}, holds i earlier k → holds k later j →
    holds i (earlier ++ later) j)

include same next

theorem holds_of_leads
    (visited : ∀ {t i j r}, ComesTo gateways network first t → Visited gateways i t j r →
      holds i [⟨t, r⟩] j)
    (leads : Leads gateways network permits (.start first i) s) : holds i s.log s.installation := by
  induction leads with
  | refl => exact same rfl rfl
  | @tail s s' leads step ih =>
    rcases step.installs with ⟨hlog, project, storage⟩ | ⟨f, hf, r, hlog, settled⟩
    · rw [hlog, ← List.append_nil s.log]
      exact next ih (same project storage)
    · rw [hlog]
      exact next ih (visited (comesTo_of_leads leads f hf) settled)

theorem holds_of_ends {targets : List Target}
    (visited : ∀ {first t i j r}, first ∈ targets → ComesTo gateways network first t →
      Visited gateways i t j r → holds i [⟨t, r⟩] j)
    (ends : Ends gateways network permits targets i log j r) : holds i log j := by
  induction ends with
  | done => exact same rfl rfl
  | fails leads _ _ => exact holds_of_leads holds same next (visited List.mem_cons_self) leads
  | next leads _ _ _ ih =>
    refine next (holds_of_leads holds same next (visited List.mem_cons_self) leads) (ih ?_)
    exact fun hfirst => visited (List.mem_cons_of_mem _ hfirst)

end Induction

theorem comesTo_of_mem_log (leads : Leads gateways network permits (.start first i) s) :
    ∀ o ∈ s.log, ComesTo gateways network first o.target := by
  refine holds_of_leads (fun _ log _ => ∀ o ∈ log, ComesTo gateways network first o.target)
    ?_ ?_ ?_ leads
  · exact fun _ _ o ho => absurd ho List.not_mem_nil
  · exact fun earlier later => List.forall_mem_append.2 ⟨earlier, later⟩
  · exact fun comes _ => List.forall_mem_singleton.2 comes

/-- What was found could be written: whatever failed, failed before its contract was there. -/
def Written (gateways : Gateways) (log : List Outcome) : Prop :=
  ∀ o ∈ log, o.target.Found gateways → o.result = .ok ()

/-- A contract that is found is recorded under this name, if its files can be written. -/
def Records (gateways : Gateways) (log : List Outcome) (name : String) : Prop :=
  ∃ o ∈ log, o.target.Found gateways ∧ o.target.name = name

theorem written_append {earlier later : List Outcome} :
    Written gateways (earlier ++ later) ↔ Written gateways earlier ∧ Written gateways later :=
  List.forall_mem_append

@[simp] theorem written_singleton :
    Written gateways [⟨t, r⟩] ↔ (t.Found gateways → r = .ok ()) := by
  simp [Written]

omit [Storage σ] in
theorem written_of_failures (gateways : Gateways) (ok : s.failures = []) :
    Written gateways s.log :=
  fun o ho _ => Fetching.failures_eq_nil_iff.1 ok o ho

theorem written_of_ends {targets : List Target}
    (ends : Ends gateways network permits targets i log j (.ok ())) : Written gateways log := by
  generalize hr : Except.ok () = r at ends
  induction ends with
  | done => exact fun o ho => absurd ho List.not_mem_nil
  | fails _ _ _ => cases hr
  | next _ _ succeeded _ ih =>
    exact written_append.2 ⟨written_of_failures gateways succeeded, ih hr⟩

@[simp] theorem records_nil (name : String) : ¬ Records gateways [] name := by
  simp [Records]

@[simp] theorem records_singleton {name : String} :
    Records gateways [⟨t, r⟩] name ↔ t.Found gateways ∧ t.name = name := by
  simp [Records]

@[simp] theorem records_append {earlier later : List Outcome} {name : String} :
    Records gateways (earlier ++ later) name ↔
      Records gateways earlier name ∨ Records gateways later name := by
  simp [Records, or_and_right, exists_or]

end ContractProject.Installation
