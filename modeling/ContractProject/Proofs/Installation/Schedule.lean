import ContractProject.Proofs.Installation.Trace
import Mathlib.Data.Finset.Card
import Mathlib.Data.Multiset.Count
import Mathlib.Data.Prod.Lex
import Mathlib.Logic.Relation

/-!
The fetches of one call in any order. Each target is a fetch of its own: it leaves its mark, waits
until it may ask for its account, asks, and once it has been answered records what it finds and
starts the fetches of what that imports. Fetches share the marks and the project, and their steps
come in any order; installing targets one after the other is one of these orders. After a failure
fetches may be dropped at any time, so that nothing is assumed of when the others hear of it.
-/

namespace ContractProject.Installation

/-- How far a fetch has come. -/
inductive Phase where
  /-- It has yet to leave its mark. -/
  | waiting
  /-- It has left its mark and is about to ask for its account. -/
  | queued
  | asked
  | answered
  deriving DecidableEq

/-- How many more steps of its own a fetch takes at most. -/
def Phase.remaining : Phase → Nat
  | .waiting => 4
  | .queued => 3
  | .asked => 2
  | .answered => 1

structure Fetch where
  phase : Phase
  target : Target

/-- Fetches that have yet to begin. -/
def waitingFor (targets : List Target) : Multiset Fetch := ↑(targets.map (Fetch.mk .waiting))

theorem waitingFor_cons (t : Target) (targets : List Target) :
    waitingFor (t :: targets) = ⟨.waiting, t⟩ ::ₘ waitingFor targets := rfl

theorem waitingFor_append (targets others : List Target) :
    waitingFor (targets ++ others) = waitingFor targets + waitingFor others := by
  rw [waitingFor, List.map_append, ← Multiset.coe_add]
  rfl

@[simp] theorem mem_waitingFor {f : Fetch} {targets : List Target} :
    f ∈ waitingFor targets ↔ ∃ t ∈ targets, ⟨.waiting, t⟩ = f := by
  simp [waitingFor]

theorem mem_waitingFor_own {f : Fetch} {sources : List Source} :
    f ∈ waitingFor (sources.map .own) ↔ ∃ c ∈ sources, ⟨.waiting, .own c⟩ = f := by
  simp

theorem countP_waitingFor {p : Fetch → Prop} [DecidablePred p] (h : ∀ t, ¬ p ⟨.waiting, t⟩)
    (targets : List Target) : (waitingFor targets).countP p = 0 := by
  rw [Multiset.countP_eq_zero]
  intro f hf
  obtain ⟨t, -, rfl⟩ := mem_waitingFor.1 hf
  exact h t

/-- A target that has settled, and how that ended. -/
structure Outcome where
  target : Target
  result : Except Error Unit

def Outcome.error? (o : Outcome) : Option Error :=
  match o.result with
  | .ok _ => none
  | .error e => some e

/-- A call while its fetches go on. -/
structure Fetching (σ : Type) where
  /-- The marks that were left. -/
  visited : Finset Source
  fetches : Multiset Fetch
  /-- The marks of the fetches that asked for their accounts, in order. -/
  calls : List Source
  /-- The targets that have settled, in order. -/
  log : List Outcome
  installation : Installation σ

namespace Fetching

variable {σ : Type}

/-- A call for one target. -/
def start (t : Target) (i : Installation σ) : Fetching σ := ⟨∅, waitingFor [t], [], [], i⟩

def failures (s : Fetching σ) : List Error := s.log.filterMap Outcome.error?

/-- How the call ends once all fetches have. -/
def result (s : Fetching σ) : Except Error Unit :=
  match s.failures with
  | [] => .ok ()
  | e :: _ => .error e

theorem failures_eq_nil_iff {s : Fetching σ} :
    s.failures = [] ↔ ∀ o ∈ s.log, o.result = .ok () := by
  rw [failures, List.filterMap_eq_nil_iff]
  refine forall₂_congr fun o _ => ?_
  rw [Outcome.error?]
  cases o.result <;> simp

@[simp] theorem failures_ne_nil {visited : Finset Source} {fetches : Multiset Fetch}
    {calls : List Source} {log : List Outcome} {t : Target} {e : Error} {i : Installation σ} :
    (mk visited fetches calls (log ++ [⟨t, .error e⟩]) i).failures ≠ [] := by
  rw [Ne, failures_eq_nil_iff]
  intro succeeded
  cases succeeded ⟨t, .error e⟩ (List.mem_append_right _ List.mem_cons_self)

theorem result_eq_ok_iff {s : Fetching σ} : s.result = .ok () ↔ s.failures = [] := by
  unfold result
  cases s.failures <;> simp

end Fetching

variable {σ : Type} [Storage σ] {gateways : Gateways} {network : Option String} {permits : Nat}

/-- A step of one fetch. At most `permits` fetches, and at least one, have asked for an account and
not been answered. -/
inductive Step (gateways : Gateways) (network : Option String) (permits : Nat) :
    Fetching σ → Fetching σ → Prop
  | seen {s : Fetching σ} {t : Target} {rest : Multiset Fetch}
      (going : s.fetches = ⟨.waiting, t⟩ ::ₘ rest) (old : t.mark ∈ s.visited) :
      Step gateways network permits s { s with fetches := rest }
  | enter {s : Fetching σ} {t : Target} {rest : Multiset Fetch}
      (going : s.fetches = ⟨.waiting, t⟩ ::ₘ rest) (new : t.mark ∉ s.visited) :
      Step gateways network permits s
        { s with visited := insert t.mark s.visited, fetches := ⟨.queued, t⟩ ::ₘ rest }
  | ask {s : Fetching σ} {t : Target} {rest : Multiset Fetch}
      (going : s.fetches = ⟨.queued, t⟩ ::ₘ rest) (served : gateways.contains t.source.network)
      (room : rest.countP (·.phase = .asked) < max permits 1) :
      Step gateways network permits s
        { s with
          fetches := ⟨.asked, t⟩ ::ₘ rest
          calls := s.calls ++ [t.mark]
          installation := s.installation.request gateways t.source }
  /-- Without a gateway there is nobody to ask. -/
  | unserved {s : Fetching σ} {t : Target} {rest : Multiset Fetch}
      (going : s.fetches = ⟨.queued, t⟩ ::ₘ rest)
      (unserved : ¬ gateways.contains t.source.network) :
      Step gateways network permits s { s with fetches := ⟨.answered, t⟩ ::ₘ rest }
  | answer {s : Fetching σ} {t : Target} {rest : Multiset Fetch}
      (going : s.fetches = ⟨.asked, t⟩ ::ₘ rest) :
      Step gateways network permits s { s with fetches := ⟨.answered, t⟩ ::ₘ rest }
  | settle {s : Fetching σ} {t : Target} {rest : Multiset Fetch} {j : Installation σ}
      {children : List Source} (going : s.fetches = ⟨.answered, t⟩ ::ₘ rest)
      (settled : settle gateways network t s.installation = (j, .ok children)) :
      Step gateways network permits s
        { s with
          fetches := waitingFor (children.map .own) + rest
          log := s.log ++ [⟨t, .ok ()⟩]
          installation := j }
  | fail {s : Fetching σ} {t : Target} {rest : Multiset Fetch} {j : Installation σ} {e : Error}
      (going : s.fetches = ⟨.answered, t⟩ ::ₘ rest)
      (settled : settle gateways network t s.installation = (j, .error e)) :
      Step gateways network permits s
        { s with fetches := rest, log := s.log ++ [⟨t, .error e⟩], installation := j }
  | abort {s : Fetching σ} {f : Fetch} {rest : Multiset Fetch}
      (going : s.fetches = f ::ₘ rest) (failed : s.failures ≠ []) :
      Step gateways network permits s { s with fetches := rest }

/-- What steps lead to. -/
abbrev Leads (gateways : Gateways) (network : Option String) (permits : Nat) :
    Fetching σ → Fetching σ → Prop :=
  Relation.ReflTransGen (Step gateways network permits)

/-- Settling succeeds only after an answer. -/
theorem contains_of_settle {t : Target} {i j : Installation σ} {children : List Source}
    (h : settle gateways network t i = (j, .ok children)) :
    gateways.contains t.source.network := by
  obtain ⟨account, ⟨gateway, hg, -⟩, -⟩ := (visited_of_settle h).answers
  rw [Collection.contains, hg]
  rfl

/-! ### Fetching ends -/

/-- What is imported by contracts that can be fetched. -/
noncomputable def importable (gateways : Gateways) (network : Option String) : Finset Source :=
  (gateways.sources.flatMap fun s =>
    match gateways.locate s with
    | .ok (some p) => imports network s p
    | _ => []).toFinset

theorem mem_importable {s c : Source} {p : Cadence.Program} (found : gateways.Finds s p)
    (hc : c ∈ imports network s p) : c ∈ importable gateways network := by
  rw [← Gateways.locate_eq_some_iff] at found
  rw [importable, List.mem_toFinset, List.mem_flatMap]
  exact ⟨s, Gateways.mem_sources found, by rwa [found]⟩

section Potential

omit [Storage σ]

variable {s s' : Fetching σ} {f : Fetch} {rest : Multiset Fetch}

/-- The marks that have yet to be left: those of fetches, and of what they may come to. -/
noncomputable def Fetching.unmarked (gateways : Gateways) (network : Option String)
    (s : Fetching σ) : Finset Source :=
  ((s.fetches.map fun f => f.target.mark).toFinset ∪ importable gateways network) \ s.visited

/-- The first number never grows, and becomes smaller where a fetch settles: then there is one less
that has left its mark, and what it starts has marks that were still to be left before. The second
number becomes smaller where a fetch comes further or is dropped. -/
noncomputable def Fetching.potential (gateways : Gateways) (network : Option String)
    (s : Fetching σ) : Nat ×ₗ Nat :=
  toLex ((s.unmarked gateways network).card + s.fetches.countP (·.phase ≠ .waiting),
    (s.fetches.map fun f => f.phase.remaining).sum)

theorem unmarked_subset (gateways : Gateways) (network : Option String)
    (going : s.fetches = f ::ₘ rest) (visited : s.visited ⊆ s'.visited) (fetches : ∀ g ∈ s'.fetches,
      g.target = f.target ∨ g ∈ rest ∨ g.target.mark ∈ importable gateways network) :
    s'.unmarked gateways network ⊆ s.unmarked gateways network := by
  intro m hm
  simp only [Fetching.unmarked, Finset.mem_sdiff, Finset.mem_union, Multiset.mem_toFinset,
    Multiset.mem_map] at hm ⊢
  refine ⟨?_, fun h => hm.2 (visited h)⟩
  rcases hm.1 with ⟨g, hg, rfl⟩ | hm
  · rcases fetches g hg with h | h | h
    · exact .inl ⟨f, by simp [going], by rw [h]⟩
    · exact .inl ⟨g, by simp [going, h], rfl⟩
    · exact .inr h
  · exact .inr hm

theorem potential_lt_of_drop (going : s.fetches = f ::ₘ rest) (fetches : s'.fetches = rest)
    (visited : s'.visited = s.visited) :
    s'.potential gateways network < s.potential gateways network := by
  have hmarks := Finset.card_le_card (unmarked_subset gateways network going visited.ge
    fun g hg => .inr (.inl (fetches ▸ hg)))
  have hsteps : 0 < f.phase.remaining := by cases f.phase <;> decide
  rw [Fetching.potential, Fetching.potential, Prod.Lex.toLex_lt_toLex']
  simp only [fetches, going, Multiset.countP_cons, Multiset.map_cons, Multiset.sum_cons]
  constructor <;> omega

theorem potential_lt_of_advance {a b : Phase} {t : Target} (going : s.fetches = ⟨a, t⟩ ::ₘ rest)
    (fetches : s'.fetches = ⟨b, t⟩ ::ₘ rest) (visited : s'.visited = s.visited)
    (marked : a ≠ .waiting) (further : b.remaining < a.remaining) :
    s'.potential gateways network < s.potential gateways network := by
  have hsubset : s'.unmarked gateways network ⊆ s.unmarked gateways network := by
    refine unmarked_subset gateways network going visited.ge fun g hg => ?_
    rw [fetches, Multiset.mem_cons] at hg
    exact hg.imp (fun h => by rw [h]) .inl
  have hmarks := Finset.card_le_card hsubset
  rw [Fetching.potential, Fetching.potential, Prod.Lex.toLex_lt_toLex']
  simp only [fetches, going, Multiset.countP_cons, Multiset.map_cons, Multiset.sum_cons]
  rw [if_pos marked]
  constructor
  · split <;> omega
  · intro
    omega

/-- A fetch that leaves its mark is one more that has left it, and its mark is one less to be
left. -/
theorem potential_lt_of_enter {t : Target} (going : s.fetches = ⟨.waiting, t⟩ ::ₘ rest)
    (new : t.mark ∉ s.visited) (fetches : s'.fetches = ⟨.queued, t⟩ ::ₘ rest)
    (visited : s'.visited = insert t.mark s.visited) :
    s'.potential gateways network < s.potential gateways network := by
  have hsubset : s'.unmarked gateways network ⊆ s.unmarked gateways network := by
    refine unmarked_subset gateways network going (visited ▸ Finset.subset_insert _ _)
      fun g hg => ?_
    rw [fetches, Multiset.mem_cons] at hg
    exact hg.imp (fun h => by rw [h]) .inl
  have hbefore : t.mark ∈ s.unmarked gateways network := by
    simp [Fetching.unmarked, going, new]
  have hafter : t.mark ∉ s'.unmarked gateways network := by
    simp [Fetching.unmarked, visited]
  have hmarks := Finset.card_lt_card
    (Finset.ssubset_iff_subset_ne.2 ⟨hsubset, fun h => hafter (h ▸ hbefore)⟩)
  rw [Fetching.potential, Fetching.potential, Prod.Lex.toLex_lt_toLex']
  simp only [fetches, going, Multiset.countP_cons, Multiset.map_cons, Multiset.sum_cons,
    Phase.remaining]
  simp
  omega

theorem potential_lt_of_settle {t : Target} {children : List Source}
    (going : s.fetches = ⟨.answered, t⟩ ::ₘ rest)
    (fetches : s'.fetches = waitingFor (children.map .own) + rest)
    (visited : s'.visited = s.visited) (known : ∀ c ∈ children, c ∈ importable gateways network) :
    s'.potential gateways network < s.potential gateways network := by
  have hsubset : s'.unmarked gateways network ⊆ s.unmarked gateways network := by
    refine unmarked_subset gateways network going visited.ge fun g hg => ?_
    rw [fetches, Multiset.mem_add, mem_waitingFor_own] at hg
    rcases hg with ⟨c, hc, rfl⟩ | hg
    · exact .inr (.inr (known c hc))
    · exact .inr (.inl hg)
  have hmarks := Finset.card_le_card hsubset
  rw [Fetching.potential, Fetching.potential, Prod.Lex.toLex_lt_toLex']
  simp only [fetches, going, Multiset.countP_cons, Multiset.countP_add]
  rw [countP_waitingFor fun t => by simp]
  simp
  omega

end Potential

variable {s s' : Fetching σ}

theorem Step.potential_lt (step : Step gateways network permits s s') :
    s'.potential gateways network < s.potential gateways network := by
  cases step with
  | seen going _ | fail going _ | abort going _ => exact potential_lt_of_drop going rfl rfl
  | ask going _ _ | unserved going _ | answer going =>
    exact potential_lt_of_advance going rfl rfl (by decide) (by decide)
  | enter going new => exact potential_lt_of_enter going new rfl rfl
  | settle going settled =>
    refine potential_lt_of_settle going rfl rfl fun c hc => ?_
    obtain ⟨-, rfl⟩ | ⟨p, found, rfl⟩ := settle_eq_ok settled
    · cases hc
    · exact mem_importable found hc

/-- No schedule goes on for ever, whichever contracts import each other. -/
theorem wellFounded_step :
    WellFounded fun s' s : Fetching σ => Step gateways network permits s s' :=
  (InvImage.wf (Fetching.potential gateways network) wellFounded_lt).mono
    fun _ _ step => step.potential_lt

/-- While there are fetches, one of them can go on: if one may not ask, another one has asked and
can be answered. -/
theorem exists_step (gateways : Gateways) (network : Option String) (permits : Nat)
    (s : Fetching σ) : s.fetches = 0 ∨ ∃ s', Step gateways network permits s s' := by
  rcases s.fetches.empty_or_exists_mem with hnone | ⟨⟨phase, t⟩, hmem⟩
  · exact .inl hnone
  obtain ⟨rest, going⟩ := Multiset.exists_cons_of_mem hmem
  refine .inr ?_
  cases phase with
  | waiting =>
    by_cases old : t.mark ∈ s.visited
    · exact ⟨_, .seen going old⟩
    · exact ⟨_, .enter going old⟩
  | queued =>
    by_cases served : gateways.contains t.source.network
    · by_cases room : rest.countP (·.phase = .asked) < max permits 1
      · exact ⟨_, .ask going served room⟩
      · have hasked : 0 < rest.countP (·.phase = .asked) := by omega
        obtain ⟨⟨phase, u⟩, hu, hphase⟩ := Multiset.countP_pos.1 hasked
        obtain rfl : phase = .asked := hphase
        have hu' : ⟨.asked, u⟩ ∈ s.fetches := by
          rw [going]
          exact Multiset.mem_cons_of_mem hu
        obtain ⟨others, hothers⟩ := Multiset.exists_cons_of_mem hu'
        exact ⟨_, .answer hothers⟩
    · exact ⟨_, .unserved going served⟩
  | asked => exact ⟨_, .answer going⟩
  | answered =>
    rcases hsettled : settle gateways network t s.installation with ⟨j, e | children⟩
    · exact ⟨_, .fail going hsettled⟩
    · exact ⟨_, .settle going hsettled⟩

/-! ### One order -/

/-- A target that has left no mark, and is the only one to ask, is answered. -/
theorem exists_leads_answered {t : Target} {visited : Finset Source} {rest : Multiset Fetch}
    (new : t.mark ∉ visited) (alone : rest.countP (·.phase = .asked) = 0) (calls : List Source)
    (log : List Outcome) (i : Installation σ) : ∃ calls', Leads gateways network permits
      ⟨visited, ⟨.waiting, t⟩ ::ₘ rest, calls, log, i⟩
      ⟨insert t.mark visited, ⟨.answered, t⟩ ::ₘ rest, calls', log,
        i.request gateways t.source⟩ := by
  have entered : Leads gateways network permits ⟨visited, ⟨.waiting, t⟩ ::ₘ rest, calls, log, i⟩
      ⟨insert t.mark visited, ⟨.queued, t⟩ ::ₘ rest, calls, log, i⟩ := .single (.enter rfl new)
  by_cases served : gateways.contains t.source.network
  · have room : rest.countP (·.phase = .asked) < max permits 1 := by omega
    exact ⟨_, (entered.tail (.ask rfl served room)).tail (.answer rfl)⟩
  · have hrequest : i.request gateways t.source = i := if_neg served
    rw [hrequest]
    exact ⟨_, entered.tail (.unserved rfl served)⟩

/-- After a failure everything else may be dropped. -/
theorem leads_of_failure (failed : s.failures ≠ []) :
    Leads gateways network permits s { s with fetches := 0 } := by
  generalize hfetches : s.fetches = fetches
  induction fetches using Multiset.induction_on generalizing s with
  | empty =>
    rw [← hfetches]
  | cons f rest ih =>
    have dropped : Step gateways network permits s { s with fetches := rest } :=
      .abort hfetches failed
    exact (Relation.ReflTransGen.single dropped).trans
      (ih (s := { s with fetches := rest }) failed rfl)

/-- Installing targets one after the other is a schedule of their fetches. -/
theorem exists_leads_of_trace (permits : Nat) {visited : List Source}
    {pending targets : List Target}
    {i j : Installation σ} {r : Except Error Unit}
    (trace : Trace gateways network visited pending i targets j r) (calls : List Source)
    {log : List Outcome} (succeeded : log.filterMap Outcome.error? = []) :
    ∃ s, Leads gateways network permits
        ⟨visited.toFinset, waitingFor pending, calls, log, i⟩ s ∧
      s.fetches = 0 ∧ s.installation = j ∧ s.result = r := by
  have alone (pending : List Target) : (waitingFor pending).countP (·.phase = .asked) = 0 :=
    countP_waitingFor (fun t => by simp) pending
  induction trace generalizing calls log with
  | done => exact ⟨_, .refl, rfl, rfl, Fetching.result_eq_ok_iff.2 succeeded⟩
  | seen old _ ih =>
    obtain ⟨s, leads, ended⟩ := ih calls succeeded
    exact ⟨s, leads.head (.seen (waitingFor_cons ..) (List.mem_toFinset.2 old)), ended⟩
  | @fails visited t pending i j e new hv =>
    obtain ⟨calls', answered⟩ := exists_leads_answered (mt List.mem_toFinset.1 new) (alone pending)
      calls log i
    rw [visit_eq_settle] at hv
    have failed : Leads gateways network permits _
        ⟨insert t.mark visited.toFinset, waitingFor pending, calls', log ++ [⟨t, .error e⟩], j⟩ :=
      answered.tail (.fail rfl hv)
    have failures : (log ++ [Outcome.mk t (.error e)]).filterMap Outcome.error? = [e] := by
      rw [List.filterMap_append, succeeded]
      rfl
    refine ⟨_, failed.trans (leads_of_failure Fetching.failures_ne_nil), rfl, rfl, ?_⟩
    simp only [Fetching.result, Fetching.failures, failures]
  | @visit visited children t pending targets i j k r new hv _ ih =>
    obtain ⟨calls', answered⟩ := exists_leads_answered (mt List.mem_toFinset.1 new) (alone pending)
      calls log i
    rw [visit_eq_settle] at hv
    have settled : Leads gateways network permits _
        ⟨insert t.mark visited.toFinset, waitingFor (children.map .own) + waitingFor pending,
          calls', log ++ [⟨t, .ok ()⟩], k⟩ := answered.tail (.settle rfl hv)
    have later : (log ++ [Outcome.mk t (.ok ())]).filterMap Outcome.error? = [] := by
      rw [List.filterMap_append, succeeded]
      rfl
    obtain ⟨s, leads, ended⟩ := ih calls' later
    rw [List.toFinset_cons, waitingFor_append] at leads
    exact ⟨s, settled.trans leads, ended⟩

/-- Installing a target and what it imports is one of the schedules. -/
theorem exists_leads_of_add (gateways : Gateways) (network : Option String) (permits : Nat)
    (t : Target) (i : Installation σ) :
    ∃ s, Leads gateways network permits (.start t i) s ∧ s.fetches = 0 ∧
      add gateways network t.name t.source i = (s.installation, s.result) := by
  rcases hadd : add gateways network t.name t.source i with ⟨j, r⟩
  obtain ⟨log, trace⟩ := exists_trace_of_add hadd
  obtain ⟨s, leads, done, rfl, rfl⟩ := exists_leads_of_trace permits trace [] List.filterMap_nil
  exact ⟨s, leads, done, rfl⟩

end ContractProject.Installation
