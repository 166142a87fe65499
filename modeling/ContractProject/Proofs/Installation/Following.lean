import ContractProject.Proofs.Installation.Outcome

/-!
Which targets settle in a call that succeeds, whatever the order of its fetches: the first one
before all others, and then what it leads to, but for what goes by its mark.
-/

namespace ContractProject.Installation

variable {σ : Type} {gateways : Gateways} {network : Option String} {permits : Nat}
  {s s' : Fetching σ} {i : Installation σ} {first t : Target} {m root mark : Source}

/-- A fetch with this mark has yet to leave it. -/
def Awaits (fetches : Multiset Fetch) (m : Source) : Prop :=
  ∃ f ∈ fetches, f.phase = .waiting ∧ f.target.mark = m

/-- The fetch that has left this mark goes on. -/
def Pursues (fetches : Multiset Fetch) (m : Source) : Prop :=
  ∃ f ∈ fetches, f.phase ≠ .waiting ∧ f.target.mark = m

theorem not_awaits_zero : ¬ Awaits 0 m := by simp [Awaits]

theorem not_pursues_zero : ¬ Pursues 0 m := by simp [Pursues]

theorem awaits_cons {f : Fetch} {rest : Multiset Fetch} :
    Awaits (f ::ₘ rest) m ↔ (f.phase = .waiting ∧ f.target.mark = m) ∨ Awaits rest m := by
  simp [Awaits]

theorem pursues_cons {f : Fetch} {rest : Multiset Fetch} :
    Pursues (f ::ₘ rest) m ↔ (f.phase ≠ .waiting ∧ f.target.mark = m) ∨ Pursues rest m := by
  simp [Pursues]

theorem awaits_own_add {children : List Source} {rest : Multiset Fetch} :
    Awaits (waitingFor (children.map .own) + rest) m ↔ m ∈ children ∨ Awaits rest m := by
  simp [Awaits, or_and_right, exists_or]

theorem pursues_waitingFor_add {targets : List Target} {rest : Multiset Fetch} :
    Pursues (waitingFor targets + rest) m ↔ Pursues rest m := by
  simp [Pursues, or_and_right, exists_or]

theorem pursues_of_advance {a b : Phase} {rest : Multiset Fetch} (hb : b ≠ .waiting)
    (h : Pursues (⟨a, t⟩ ::ₘ rest) m) : Pursues (⟨b, t⟩ ::ₘ rest) m := by
  rw [pursues_cons] at h ⊢
  exact h.imp_left fun h => ⟨hb, h.2⟩

namespace Fetching

/-- A mark that has been left, or is about to be. -/
def Known (s : Fetching σ) (m : Source) : Prop := m ∈ s.visited ∨ Awaits s.fetches m

/-- A target with this mark has settled. -/
def HasSettled (s : Fetching σ) (m : Source) : Prop := ∃ o ∈ s.log, o.target.mark = m

/-- A fetch that goes on has left its mark, and so has what has settled. -/
structure Entered (s : Fetching σ) : Prop where
  fetches : ∀ f ∈ s.fetches, f.phase ≠ .waiting → f.target.mark ∈ s.visited
  settled : ∀ o ∈ s.log, o.target.mark ∈ s.visited

/-- Nothing else is fetched before the first target has settled, and nothing else that goes by its
mark. -/
inductive Ordered (first : Target) (s : Fetching σ) : Prop
  | before (log : s.log = [])
      (fetches : s.fetches = 0 ∨ ∃ phase, s.fetches = {⟨phase, first⟩})
  | after {r : Except Error Unit} {rest : List Outcome} (log : s.log = ⟨first, r⟩ :: rest)
      (marked : first.mark ∈ s.visited) (others : ∀ o ∈ rest, o.target.mark ≠ first.mark)
      (fetches : ∀ f ∈ s.fetches, f.phase ≠ .waiting → f.target.mark ≠ first.mark)

/-- Nothing is left out: the first target is known, what has left its mark is pursued until it has
settled, and then its imports are known. -/
structure Followed (gateways : Gateways) (network : Option String) (first : Target)
    (s : Fetching σ) : Prop where
  first : s.Known first.mark
  settled : ∀ m ∈ s.visited, Pursues s.fetches m ∨ s.HasSettled m
  imports : ∀ o ∈ s.log, ∀ p, gateways.Finds o.target.source p →
    ∀ c ∈ imports network o.target.source p, s.Known c

end Fetching

/-! ### Steps -/

variable [Storage σ]

namespace Step

theorem failures (step : Step gateways network permits s s') (ok : s'.failures = []) :
    s.failures = [] := by
  rw [Fetching.failures_eq_nil_iff] at ok ⊢
  rcases step.installs with ⟨hlog, -⟩ | ⟨f, -, r, hlog, -⟩
  · rwa [← hlog]
  · rw [hlog, List.forall_mem_append] at ok
    exact ok.1

/-- A step that is no failure keeps what is known. -/
theorem known (step : Step gateways network permits s s') (ok : s'.failures = [])
    (h : s.Known m) : s'.Known m := by
  unfold Fetching.Known at h ⊢
  cases step with
  | seen going old =>
    rw [going, awaits_cons] at h
    rcases h with h | ⟨-, rfl⟩ | h
    · exact .inl h
    · exact .inl old
    · exact .inr h
  | enter going _ =>
    rw [going, awaits_cons] at h
    rw [awaits_cons, Finset.mem_insert]
    rcases h with h | ⟨-, rfl⟩ | h
    · exact .inl (.inr h)
    · exact .inl (.inl rfl)
    · exact .inr (.inr h)
  | ask going _ _ | unserved going _ | answer going =>
    rw [going, awaits_cons] at h
    rw [awaits_cons]
    exact h.imp_right fun h => h.imp_left fun h => by cases h.1
  | settle going _ =>
    rw [going, awaits_cons] at h
    rw [awaits_own_add]
    exact h.imp_right fun h => .inr (h.resolve_left fun h => by cases h.1)
  | fail _ _ => simp at ok
  | abort _ failed => exact absurd ok failed

/-- A step that is no failure pursues a mark further, or its target settles. -/
theorem pursued (step : Step gateways network permits s s') (ok : s'.failures = [])
    (h : Pursues s.fetches m ∨ s.HasSettled m) : Pursues s'.fetches m ∨ s'.HasSettled m := by
  have later (h : s.HasSettled m) : s'.HasSettled m := by
    obtain ⟨o, ho, hmark⟩ := h
    rcases step.installs with ⟨hlog, -⟩ | ⟨f, -, r, hlog, -⟩
    · exact ⟨o, hlog ▸ ho, hmark⟩
    · exact ⟨o, hlog ▸ List.mem_append_left _ ho, hmark⟩
  rcases h with h | h
  · cases step with
    | seen going _ =>
      rw [going, pursues_cons] at h
      exact .inl (h.resolve_left fun h => h.1 rfl)
    | enter going _ =>
      rw [going, pursues_cons] at h
      exact .inl (pursues_cons.2 (.inr (h.resolve_left fun h => h.1 rfl)))
    | ask going _ _ | unserved going _ | answer going =>
      exact .inl (pursues_of_advance nofun (going ▸ h))
    | settle going _ =>
      rw [going, pursues_cons] at h
      rcases h with ⟨-, rfl⟩ | h
      · exact .inr ⟨_, List.mem_append_right _ List.mem_cons_self, rfl⟩
      · exact .inl (pursues_waitingFor_add.2 h)
    | fail _ _ => simp at ok
    | abort _ failed => exact absurd ok failed
  · exact .inr (later h)

theorem followed (step : Step gateways network permits s s') (ok : s'.failures = [])
    (h : s.Followed gateways network first) : s'.Followed gateways network first := by
  refine ⟨step.known ok h.first, fun m hm => ?_, fun o ho p found c hc => ?_⟩
  · have kept (hm : m ∈ s.visited) := step.pursued ok (h.settled m hm)
    cases step with
    | enter going _ =>
      rcases Finset.mem_insert.1 hm with rfl | hm
      · exact .inl (pursues_cons.2 (.inl ⟨nofun, rfl⟩))
      · exact kept hm
    | _ => exact kept hm
  · have kept (ho : o ∈ s.log) := step.known ok (h.imports o ho p found c hc)
    cases step with
    | settle going settled =>
      rcases List.mem_append.1 ho with ho | ho
      · exact kept ho
      · -- what has just settled has started the fetches of its imports
        rw [List.mem_singleton.1 ho] at found hc
        obtain ⟨hnone, -⟩ | ⟨q, hq, rfl⟩ := settle_eq_ok settled
        · exact absurd found (Gateways.not_finds_of_locate hnone)
        · obtain rfl := found.unique hq
          exact .inr (awaits_own_add.2 (.inl hc))
    | fail _ _ => simp at ok
    | _ => exact kept ho

theorem entered (step : Step gateways network permits s s') (h : s.Entered) : s'.Entered := by
  obtain ⟨fetches, settled⟩ := h
  cases step with
  | seen going _ | abort going _ =>
    rw [going, Multiset.forall_mem_cons] at fetches
    exact ⟨fetches.2, settled⟩
  | enter going _ =>
    rw [going, Multiset.forall_mem_cons] at fetches
    exact ⟨Multiset.forall_mem_cons.2 ⟨fun _ => Finset.mem_insert_self _ _,
      fun f hf phase => Finset.mem_insert_of_mem (fetches.2 f hf phase)⟩,
      fun o ho => Finset.mem_insert_of_mem (settled o ho)⟩
  | ask going _ _ | unserved going _ | answer going =>
    rw [going, Multiset.forall_mem_cons] at fetches
    exact ⟨Multiset.forall_mem_cons.2 ⟨fun _ => fetches.1 nofun, fetches.2⟩, settled⟩
  | settle going _ =>
    rw [going, Multiset.forall_mem_cons] at fetches
    refine ⟨fun f hf phase => ?_,
      List.forall_mem_append.2 ⟨settled, List.forall_mem_singleton.2 (fetches.1 nofun)⟩⟩
    rcases Multiset.mem_add.1 hf with hf | hf
    · obtain ⟨c, -, rfl⟩ := mem_waitingFor_own.1 hf
      exact absurd rfl phase
    · exact fetches.2 f hf phase
  | fail going _ =>
    rw [going, Multiset.forall_mem_cons] at fetches
    exact ⟨fetches.2,
      List.forall_mem_append.2 ⟨settled, List.forall_mem_singleton.2 (fetches.1 nofun)⟩⟩

theorem ordered (step : Step gateways network permits s s') (entered : s.Entered)
    (h : s.Ordered first) : s'.Ordered first := by
  cases h with
  | before log fetches =>
    -- as long as nothing has settled there is no fetch but that of the first target
    have alone {f : Fetch} {rest : Multiset Fetch} (going : s.fetches = f ::ₘ rest) :
        f.target = first ∧ rest = 0 := by
      obtain hnone | ⟨phase, hone⟩ := fetches
      · exact absurd (going.symm.trans hnone) (Multiset.cons_ne_zero)
      · obtain ⟨rfl, hrest⟩ := (Multiset.singleton_eq_cons_iff _).1 (hone.symm.trans going)
        exact ⟨rfl, hrest⟩
    cases step with
    | seen going _ | abort going _ => exact .before log (.inl (alone going).2)
    | enter going _ | ask going _ _ | unserved going _ | answer going =>
      obtain ⟨rfl, rfl⟩ := alone going
      exact .before log (.inr ⟨_, rfl⟩)
    | settle going _ =>
      have marked := entered.fetches ⟨.answered, _⟩ (going ▸ Multiset.mem_cons_self _ _) nofun
      obtain ⟨rfl, rfl⟩ := alone going
      refine .after (by rw [log]; rfl) marked (by simp) fun f hf phase => ?_
      obtain ⟨c, -, rfl⟩ := mem_waitingFor_own.1 ((add_zero (waitingFor _)) ▸ hf)
      exact absurd rfl phase
    | fail going _ =>
      have marked := entered.fetches ⟨.answered, _⟩ (going ▸ Multiset.mem_cons_self _ _) nofun
      obtain ⟨rfl, rfl⟩ := alone going
      exact .after (by rw [log]; rfl) marked (by simp) (by simp)
  | after log marked others fetches =>
    cases step with
    | seen going _ | abort going _ =>
      rw [going, Multiset.forall_mem_cons] at fetches
      exact .after log marked others fetches.2
    | enter going new =>
      rw [going, Multiset.forall_mem_cons] at fetches
      refine .after log (Finset.mem_insert_of_mem marked) others
        (Multiset.forall_mem_cons.2 ⟨fun _ hmark => ?_, fetches.2⟩)
      exact new (hmark ▸ marked)
    | ask going _ _ | unserved going _ | answer going =>
      rw [going, Multiset.forall_mem_cons] at fetches
      exact .after log marked others
        (Multiset.forall_mem_cons.2 ⟨fun _ => fetches.1 nofun, fetches.2⟩)
    | settle going _ =>
      rw [going, Multiset.forall_mem_cons] at fetches
      refine .after (by rw [log]; rfl) marked
        (List.forall_mem_append.2 ⟨others, by simpa using fetches.1 nofun⟩) fun f hf phase => ?_
      rcases Multiset.mem_add.1 hf with hf | hf
      · obtain ⟨c, -, rfl⟩ := mem_waitingFor_own.1 hf
        exact absurd rfl phase
      · exact fetches.2 f hf phase
    | fail going _ =>
      rw [going, Multiset.forall_mem_cons] at fetches
      exact .after (by rw [log]; rfl) marked
        (List.forall_mem_append.2 ⟨others, by simpa using fetches.1 nofun⟩) fetches.2

end Step

/-! ### Schedules -/

theorem entered_of_leads (leads : Leads gateways network permits (.start first i) s) :
    s.Entered := by
  induction leads with
  | refl =>
    refine ⟨fun f hf phase => ?_, fun o ho => absurd ho List.not_mem_nil⟩
    rw [show f = ⟨.waiting, first⟩ from Multiset.mem_singleton.1 hf] at phase
    exact absurd rfl phase
  | tail _ step ih => exact step.entered ih

theorem ordered_of_leads (leads : Leads gateways network permits (.start first i) s) :
    s.Ordered first := by
  induction leads with
  | refl => exact .before rfl (.inr ⟨.waiting, rfl⟩)
  | tail leads step ih => exact step.ordered (entered_of_leads leads) ih

theorem followed_of_leads (leads : Leads gateways network permits (.start first i) s)
    (ok : s.failures = []) : s.Followed gateways network first := by
  induction leads with
  | refl =>
    refine ⟨.inr ⟨_, Multiset.mem_singleton_self _, rfl, rfl⟩, fun m hm => ?_, fun o ho => ?_⟩
    · exact absurd hm (Finset.notMem_empty m)
    · exact absurd ho List.not_mem_nil
  | tail _ step ih => exact step.followed ok (ih (step.failures ok))

/-- The marks that a call has left, once it has succeeded, are those of what has settled. -/
theorem mem_visited_iff (leads : Leads gateways network permits (.start first i) s)
    (ended : s.fetches = 0) (ok : s.failures = []) : m ∈ s.visited ↔ s.HasSettled m := by
  constructor
  · intro hm
    exact ((followed_of_leads leads ok).settled m hm).resolve_left (ended ▸ not_pursues_zero)
  · rintro ⟨o, ho, rfl⟩
    exact (entered_of_leads leads).settled o ho

/-- What is fetched after a root that leaves this mark: what the root leads to, but for what goes by
the mark and what is led to by that alone. -/
structure Follows (gateways : Gateways) (network : Option String) (root mark : Source)
    (log : List Source) : Prop where
  reachable : ∀ s ∈ log, Reachable gateways network root s
  networks : ∀ s ∈ log, s.network = network.getD root.network
  unmarked : mark ∉ log
  closed : ∀ s, s = root ∨ s ∈ log → ∀ p, gateways.Finds s p → ∀ t ∈ imports network s p,
    t = mark ∨ t ∈ log

/-- What has settled once a call has succeeded: its target, and then what that leads to. -/
theorem exists_follows_of_leads (leads : Leads gateways network permits (.start first i) s)
    (ended : s.fetches = 0) (ok : s.failures = []) :
    ∃ sources : List Source, s.log = (first :: sources.map .own).map (Outcome.mk · (.ok ())) ∧
      Follows gateways network first.source first.mark sources := by
  have followed := followed_of_leads leads ok
  have comes := comesTo_of_mem_log leads
  have hasSettled {m : Source} (h : s.Known m) : s.HasSettled m :=
    (mem_visited_iff leads ended ok).1 (h.resolve_right (ended ▸ not_awaits_zero))
  rw [Fetching.failures_eq_nil_iff] at ok
  cases ordered_of_leads leads with
  | before log _ =>
    obtain ⟨o, ho, -⟩ := hasSettled followed.first
    rw [log] at ho
    cases ho
  | @after r rest log _ others _ =>
    rw [log, List.forall_mem_cons] at comes ok
    obtain rfl : r = .ok () := ok.1
    have own : ∀ o ∈ rest, o.target = .own o.target.source ∧
        o.target.source.network = network.getD first.source.network := by
      intro o ho
      refine (comes.2 o ho).eq_first_or_own.resolve_left fun h => others o ho ?_
      rw [h]
    refine ⟨rest.map fun o => o.target.source, ?_, ?_, ?_, ?_, ?_⟩
    · rw [log, List.map_cons, List.map_map, List.map_map]
      refine congrArg _ ((List.map_congr_left fun o ho => ?_).trans (List.map_id rest)).symm
      show Outcome.mk (.own o.target.source) (.ok ()) = o
      rw [← (own o ho).1, ← ok.2 o ho]
    · exact List.forall_mem_map.2 fun o ho => (comes.2 o ho).reachable
    · exact List.forall_mem_map.2 fun o ho => (own o ho).2
    · intro hmem
      obtain ⟨o, ho, hmark⟩ := List.mem_map.1 hmem
      refine others o ho ?_
      rw [(own o ho).1]
      exact hmark
    · -- what one of them imports has settled, the first target or one of the others
      intro u hu p found c hc
      obtain ⟨o, ho, rfl⟩ : ∃ o ∈ s.log, o.target.source = u := by
        rw [log]
        rcases hu with rfl | hu
        · exact ⟨_, List.mem_cons_self, rfl⟩
        · obtain ⟨o, ho, hsource⟩ := List.mem_map.1 hu
          exact ⟨o, List.mem_cons_of_mem _ ho, hsource⟩
      obtain ⟨v, hv, rfl⟩ := hasSettled (followed.imports o ho p found c hc)
      rw [log] at hv
      rcases List.mem_cons.1 hv with rfl | hv
      · exact .inl rfl
      · refine .inr (List.mem_map.2 ⟨v, hv, ?_⟩)
        conv_rhs => rw [(own v hv).1]
        rfl

/-- A root that goes by its own mark leaves out nothing that it leads to. -/
theorem Follows.mem_iff_reachable {log : List Source}
    (follows : Follows gateways network root root log) :
    m = root ∨ m ∈ log ↔ Reachable gateways network root m := by
  constructor
  · rintro (rfl | hm)
    · exact .root
    · exact follows.reachable m hm
  · intro h
    induction h with
    | root => exact .inl rfl
    | step _ found hnetwork himports ih =>
      exact follows.closed _ ih _ found _ (mem_imports.2 ⟨hnetwork, himports⟩)

/-- A call for a source under its own name has settled, once it has succeeded, what the source leads
to. -/
theorem mem_log_iff_reachable (leads : Leads gateways network permits (.start (.own root) i) s)
    (ended : s.fetches = 0) (ok : s.failures = []) {o : Outcome} :
    o ∈ s.log ↔ ∃ m, Reachable gateways network root m ∧ o = ⟨.own m, .ok ()⟩ := by
  obtain ⟨sources, hlog, follows⟩ := exists_follows_of_leads leads ended ok
  have follows : Follows gateways network root root sources := follows
  simp only [hlog, ← follows.mem_iff_reachable, ← List.mem_cons, ← List.map_cons, List.map_map,
    List.mem_map, Function.comp_apply]
  exact exists_congr fun m => and_congr_right fun _ => eq_comm

end ContractProject.Installation
