import ContractProject.Proofs.Installation.Closure

/-!
Which accounts a call asks for, whatever the order of its fetches: none twice for one mark, and if
nothing fails those of all sources that the first one leads to.
-/

namespace ContractProject.Installation

variable {σ : Type} {gateways : Gateways} {network : Option String} {permits : Nat}
  {s s' : Fetching σ} {i : Installation σ} {m root : Source}

/-- How many fetches with a mark are about to ask. -/
def queuedAs (fetches : Multiset Fetch) (m : Source) : Nat :=
  fetches.countP fun f => f.phase = .queued ∧ f.target.mark = m

theorem queuedAs_cons (f : Fetch) (rest : Multiset Fetch) (m : Source) :
    queuedAs (f ::ₘ rest) m =
      queuedAs rest m + if f.phase = .queued ∧ f.target.mark = m then 1 else 0 :=
  Multiset.countP_cons ..

theorem queuedAs_waitingFor_add (targets : List Target) (rest : Multiset Fetch) (m : Source) :
    queuedAs (waitingFor targets + rest) m = queuedAs rest m := by
  rw [queuedAs, Multiset.countP_add, countP_waitingFor (fun t => by simp), Nat.zero_add]
  rfl

namespace Fetching

/-- With each mark at most one fetch is about to ask or has asked, and what has been requested since
the call began was requested by the fetches that have asked. -/
structure Counted (i : Installation σ) (s : Fetching σ) : Prop where
  once : ∀ m, queuedAs s.fetches m + s.calls.count m ≤ if m ∈ s.visited then 1 else 0
  requests : s.installation.requests = i.requests ++ s.calls.map fun m => (m.network, m.address)

theorem counted_start (t : Target) (i : Installation σ) : (start t i).Counted i where
  once m := by simp [start, queuedAs, countP_waitingFor]
  requests := by simp [start]

/-- The bound still holds with one fetch less. -/
theorem Counted.once_rest (counted : s.Counted i) {f : Fetch} {rest : Multiset Fetch}
    (going : s.fetches = f ::ₘ rest) (m : Source) :
    queuedAs rest m + s.calls.count m ≤ if m ∈ s.visited then 1 else 0 := by
  have hm := counted.once m
  rw [going, queuedAs_cons] at hm
  omega

theorem Counted.nodup (counted : s.Counted i) : s.calls.Nodup := by
  rw [List.nodup_iff_count_le_one]
  intro m
  have hm := counted.once m
  split at hm <;> omega

theorem Counted.visited (counted : s.Counted i) (h : m ∈ s.calls) : m ∈ s.visited := by
  have hm := counted.once m
  have hcount := List.count_pos_iff.2 h
  by_contra hnew
  rw [if_neg hnew] at hm
  omega

/-- Whoever is beyond asking has asked for its account, if there was anybody to ask, and so has what
has settled without an error. -/
structure Called (gateways : Gateways) (s : Fetching σ) : Prop where
  fetches : ∀ f ∈ s.fetches, f.phase = .asked ∨ f.phase = .answered →
    gateways.contains f.target.source.network → f.target.mark ∈ s.calls
  log : ∀ o ∈ s.log, o.result = .ok () → o.target.mark ∈ s.calls

theorem called_start (t : Target) (i : Installation σ) : (start t i).Called gateways where
  fetches := by
    intro f hf phase
    obtain ⟨t, -, rfl⟩ := mem_waitingFor.1 hf
    simp at phase
  log := by simp [start]

end Fetching

/-! ### Steps -/

variable [Storage σ]

/-- Only visiting asks for accounts, settling does not. -/
theorem requests_settle {t : Target} {i j : Installation σ} {r : Except Error (List Source)}
    (h : settle gateways network t i = (j, r)) : j.requests = i.requests := by
  have recorded (p : Cadence.Program) : (i.record t.name t.source p).1.requests = i.requests := by
    simp only [record]
    split
    · rfl
    · split <;> rfl
  obtain rfl : (settle gateways network t i).1 = j := congrArg Prod.fst h
  unfold settle
  split
  · rfl
  · rfl
  · next p hl =>
    rw [← recorded p]
    split <;> next hr => rw [hr]

namespace Step

theorem counted (step : Step gateways network permits s s') (counted : s.Counted i) :
    s'.Counted i := by
  cases step with
  | seen going _ | abort going _ => exact ⟨counted.once_rest going, counted.requests⟩
  | unserved going _ | answer going =>
    refine ⟨fun m => ?_, counted.requests⟩
    rw [queuedAs_cons, if_neg fun h => by cases h.1]
    exact counted.once_rest going m
  | settle going settled =>
    refine ⟨fun m => ?_, (requests_settle settled).trans counted.requests⟩
    rw [queuedAs_waitingFor_add]
    exact counted.once_rest going m
  | fail going settled =>
    exact ⟨counted.once_rest going, (requests_settle settled).trans counted.requests⟩
  | @enter t _ going new =>
    refine ⟨fun m => ?_, counted.requests⟩
    have hm := counted.once_rest going m
    by_cases h : t.mark = m
    · -- a mark that was not there has no other fetch that could ask
      subst h
      rw [if_neg new] at hm
      simp [queuedAs_cons]
      omega
    · simpa [queuedAs_cons, h, Ne.symm h] using hm
  | @ask t _ going served _ =>
    refine ⟨fun m => ?_, ?_⟩
    · have hm := counted.once m
      simp [going, queuedAs_cons] at hm
      simp [queuedAs_cons, List.count_append, List.count_singleton]
      omega
    · simp [request, served, counted.requests, Target.mark]

theorem called (step : Step gateways network permits s s') (h : s.Called gateways) :
    s'.Called gateways := by
  obtain ⟨fetches, log⟩ := h
  cases step with
  | seen going _ | abort going _ =>
    rw [going, Multiset.forall_mem_cons] at fetches
    exact ⟨fetches.2, log⟩
  | enter going _ =>
    rw [going, Multiset.forall_mem_cons] at fetches
    exact ⟨Multiset.forall_mem_cons.2 ⟨fun phase => by simp at phase, fetches.2⟩, log⟩
  | ask going _ _ =>
    rw [going, Multiset.forall_mem_cons] at fetches
    refine ⟨Multiset.forall_mem_cons.2 ⟨fun _ _ => by simp, fun f hf phase served => ?_⟩,
      fun o ho ok => List.mem_append_left _ (log o ho ok)⟩
    exact List.mem_append_left _ (fetches.2 f hf phase served)
  | unserved going unserved =>
    rw [going, Multiset.forall_mem_cons] at fetches
    exact ⟨Multiset.forall_mem_cons.2 ⟨fun _ served => absurd served unserved, fetches.2⟩, log⟩
  | answer going =>
    rw [going, Multiset.forall_mem_cons] at fetches
    exact ⟨Multiset.forall_mem_cons.2 ⟨fun _ => fetches.1 (.inl rfl), fetches.2⟩, log⟩
  | settle going settled =>
    rw [going, Multiset.forall_mem_cons] at fetches
    refine ⟨fun f hf phase => ?_, List.forall_mem_append.2 ⟨log, List.forall_mem_singleton.2 ?_⟩⟩
    · rcases Multiset.mem_add.1 hf with hf | hf
      · obtain ⟨c, -, rfl⟩ := mem_waitingFor_own.1 hf
        simp at phase
      · exact fetches.2 f hf phase
    · exact fun _ => fetches.1 (.inr rfl) (contains_of_settle settled)
  | fail going _ =>
    rw [going, Multiset.forall_mem_cons] at fetches
    exact ⟨fetches.2, List.forall_mem_append.2 ⟨log, by simp⟩⟩

end Step

/-! ### Schedules -/

theorem counted_of_leads {t : Target} (leads : Leads gateways network permits (.start t i) s) :
    s.Counted i := by
  induction leads with
  | refl => exact Fetching.counted_start t i
  | tail _ step ih => exact step.counted ih

theorem called_of_leads {t : Target} (leads : Leads gateways network permits (.start t i) s) :
    s.Called gateways := by
  induction leads with
  | refl => exact Fetching.called_start t i
  | tail _ step ih => exact step.called ih

/-- A call that has succeeded has asked for the account of every source that its own leads to, and
for no other. -/
theorem mem_calls_iff_reachable (leads : Leads gateways network permits (.start (.own root) i) s)
    (ended : s.fetches = 0) (ok : s.failures = []) :
    m ∈ s.calls ↔ Reachable gateways network root m := by
  constructor
  · intro called
    -- the fetch that asked has left its mark, and since then it has settled
    have visited := (counted_of_leads leads).visited called
    obtain ⟨o, ho, rfl⟩ := (mem_visited_iff leads ended ok).1 visited
    obtain ⟨u, reachable, rfl⟩ := (mem_log_iff_reachable leads ended ok).1 ho
    exact reachable
  · intro reachable
    have settled := (mem_log_iff_reachable leads ended ok).2 ⟨m, reachable, rfl⟩
    exact (called_of_leads leads).log ⟨.own m, .ok ()⟩ settled rfl

/-- The fetches of a call come to an end, whatever their order: none goes on for ever, and while
there are some, one can go on. No account is asked for twice for one mark, and these are all the
requests of the call. A call that installs a contract under its own name and succeeds has asked for
the accounts of exactly the sources that this one leads to. All this holds of `add`, which takes one
of these orders. -/
theorem schedules_end (gateways : Gateways) (network : Option String) (permits : Nat)
    (root : Source) (name : Option String) (i : Installation σ) :
    (WellFounded fun s' s : Fetching σ => Step gateways network permits s s') ∧
    (∀ s, Leads gateways network permits (.start ⟨name.getD root.contract, root⟩ i) s →
      (s.fetches = 0 ∨ ∃ s', Step gateways network permits s s') ∧
      s.calls.Nodup ∧
      s.installation.requests = i.requests ++ s.calls.map (fun m => (m.network, m.address)) ∧
      (name = none → s.fetches = 0 → s.result = .ok () →
        ∀ m, m ∈ s.calls ↔ Reachable gateways network root m)) ∧
    ∃ s, Leads gateways network permits (.start ⟨name.getD root.contract, root⟩ i) s ∧
      s.fetches = 0 ∧
      add gateways network (name.getD root.contract) root i = (s.installation, s.result) := by
  refine ⟨wellFounded_step, fun s leads => ?_, exists_leads_of_add ..⟩
  have counted := counted_of_leads leads
  refine ⟨exists_step gateways network permits s, counted.nodup, counted.requests, ?_⟩
  rintro rfl done ok m
  exact mem_calls_iff_reachable leads done (Fetching.result_eq_ok_iff.1 ok)

/-- Two contracts that import each other. -/
def cyclicGateways : Gateways :=
  ⟨[(emulator, ((Ledger.empty.deploy (.ofNat 1) "A"
      (Utf8.encode "import B from 0x2 contract A {}".toList)).deploy (.ofNat 2) "B"
      (Utf8.encode "import A from 0x1 contract B {}".toList)).gateway)]⟩

theorem finds_cyclic : ((∃ p, cyclicGateways.Finds (sampleSource 1 "A") p) ∧
      ∀ p, cyclicGateways.Finds (sampleSource 1 "A") p →
        imports none (sampleSource 1 "A") p = [sampleSource 2 "B"]) ∧
    (∃ p, cyclicGateways.Finds (sampleSource 2 "B") p) ∧
      ∀ p, cyclicGateways.Finds (sampleSource 2 "B") p →
        imports none (sampleSource 2 "B") p = [sampleSource 1 "A"] :=
  ⟨Gateways.finds_of_locate (by decide +kernel), Gateways.finds_of_locate (by decide +kernel)⟩

theorem reachable_cyclic {m : Source} : Reachable cyclicGateways none (sampleSource 1 "A") m ↔
    m = sampleSource 1 "A" ∨ m = sampleSource 2 "B" := by
  obtain ⟨⟨⟨p, found⟩, importsA⟩, -, importsB⟩ := finds_cyclic
  constructor
  · intro h
    induction h with
    | root => exact .inl rfl
    | step _ found hnetwork hfrom ih =>
      have hmem := mem_imports.2 ⟨hnetwork, hfrom⟩
      rcases ih with rfl | rfl
      · rw [importsA _ found] at hmem
        exact .inr (List.mem_singleton.1 hmem)
      · rw [importsB _ found] at hmem
        exact .inl (List.mem_singleton.1 hmem)
  · rintro (rfl | rfl)
    · exact .root
    · refine reachable_of_mem_imports found ?_
      rw [importsA p found]
      exact List.mem_singleton_self _

/-- The accounts of two contracts that import each other are asked for once each. -/
theorem requests_of_cycle : ∃ j,
    add cyclicGateways none "A" (sampleSource 1 "A") sampleInstallation = (j, .ok ()) ∧
      j.requests.Perm [(emulator, .ofNat 1), (emulator, .ofNat 2)] := by
  obtain ⟨-, every, s, leads, done, hadd⟩ :=
    schedules_end cyclicGateways none 1 (sampleSource 1 "A") none sampleInstallation
  obtain ⟨-, nodup, requests, called⟩ := every s leads
  have ok : s.result = .ok () := by
    refine Fetching.result_eq_ok_iff.2 (failures_sample leads fun t ht => ?_)
    obtain ⟨⟨foundA, -⟩, foundB, -⟩ := finds_cyclic
    rcases reachable_cyclic.1 ht with rfl | rfl
    · exact answers_of_found (t := .own _) foundA
    · exact answers_of_found (t := .own _) foundB
  have hcalls : s.calls.Perm [sampleSource 1 "A", sampleSource 2 "B"] := by
    refine (List.perm_ext_iff_of_nodup nodup (by decide)).2 fun m => ?_
    rw [called rfl done ok, reachable_cyclic]
    simp
  refine ⟨s.installation, ok ▸ hadd, ?_⟩
  rw [requests]
  exact hcalls.map fun m => (m.network, m.address)

end ContractProject.Installation
