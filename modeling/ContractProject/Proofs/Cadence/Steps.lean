import ContractProject.Proofs.Cadence.Extent
import ContractProject.Proofs.Cadence.Unprocessed
import ContractProject.Proofs.ImportTable.Replacement

/-!
Programs that are changed step after step. A program is current if its outline and its unprocessed
form are those of its code. A step that succeeds keeps it so, and one that fails has put code in
place that has no outline.
-/

namespace ContractProject.Cadence.Program

/-- The outline and the unprocessed form are those of the code. -/
structure Current (p : Program) : Prop where
  outline : Outline.parse p.code = .ok p.outline
  unprocessed : p.unprocessed = unprocessedCode p.code p.outline

theorem MadeOf.current {p : Program} {ps : List Part} (made : p.MadeOf ps) : p.Current :=
  ⟨made.parse, made.unprocessed⟩

theorem Current.exists_madeOf {p : Program} (h : p.Current) : ∃ ps, p.MadeOf ps := by
  obtain ⟨ps, whole, code, imports⟩ := exists_whole_of_parse h.outline
  exact ⟨ps, whole, code, imports, h.unprocessed⟩

/-- The imports of a current program lie in its code, one behind the other. -/
theorem Current.spans {p : Program} (h : p.Current) :
    (∀ i ∈ p.outline.imports, i.span.Fits p.code) ∧
      p.outline.imports.Pairwise fun i j => i.span.stop ≤ j.span.start := by
  obtain ⟨spans, ordered⟩ := spans_of_parse h.outline
  exact ⟨fun i hi => (spans i hi).1, ordered⟩

/-- A change of a program. -/
inductive Step where
  | replace (location : String) (address : Address) (canonical : Option String)
  | convert
  | refresh
  deriving DecidableEq, Repr

def Step.apply (p : Program) : Step → Program × Except Error Unit
  | replace location address canonical => p.replaceImport location address canonical
  | convert => p.convertImports
  | refresh => (p.refreshUnprocessed, .ok ())

/-- The program after changes, whether they succeed or fail. -/
def run (p : Program) : List Step → Program
  | [] => p
  | step :: steps => run (step.apply p).1 steps

/-- All of the changes succeed. -/
def Succeeds (p : Program) : List Step → Prop
  | [] => True
  | step :: steps => (step.apply p).2 = .ok () ∧ Succeeds (step.apply p).1 steps

/-- A program is settled if it is current or its code has no outline. -/
def Settled (p : Program) : Prop :=
  p.Current ∨ ∃ fault, Outline.parse p.code = .error fault

theorem Settled.current_iff {p : Program} (h : p.Settled) :
    p.Current ↔ ∃ o, Outline.parse p.code = .ok o := by
  constructor
  · intro current
    exact ⟨_, current.outline⟩
  · rintro ⟨o, ho⟩
    rcases h with current | ⟨fault, hfault⟩
    · exact current
    · simp [ho] at hfault

/-- New code makes a program current exactly if it has an outline. -/
theorem withCode_cases (p : Program) (code : List Char) :
    ((p.withCode code).2 = .ok () ∧ (p.withCode code).1.Current) ∨
      ((p.withCode code).2 ≠ .ok () ∧
        ∃ fault, Outline.parse (p.withCode code).1.code = .error fault) := by
  unfold withCode
  cases hcode : Outline.parse code with
  | ok o => exact .inl ⟨rfl, hcode, rfl⟩
  | error fault => exact .inr ⟨by simp, fault, hcode⟩

/-- What a step does: it leaves the program as it is, recomputes the unprocessed form, or puts new
code in place. -/
theorem Step.apply_cases (p : Program) (step : Step) :
    step.apply p = (p, .ok ()) ∨ step.apply p = (p.refreshUnprocessed, .ok ()) ∨
      ∃ code, step.apply p = p.withCode code := by
  cases step with
  | replace location address canonical =>
    rcases ImportTable.replaceImport_eq_withCode p location address canonical with h | h
    · exact .inl h
    · exact .inr (.inr h)
  | convert => exact .inr (.inr ⟨p.unprocessed, rfl⟩)
  | refresh => exact .inr (.inl rfl)

theorem Current.refreshUnprocessed {p : Program} (h : p.Current) : p.refreshUnprocessed = p := by
  rw [Program.refreshUnprocessed, ← h.unprocessed]

/-- A step keeps a program settled. -/
theorem Settled.apply {p : Program} (h : p.Settled) (step : Step) : (step.apply p).1.Settled := by
  obtain hstep | hstep | ⟨code, hstep⟩ := step.apply_cases p
  · rwa [hstep]
  · rw [hstep]
    rcases h with current | unread
    · exact .inl (current.refreshUnprocessed.symm ▸ current)
    · exact .inr unread
  · rw [hstep]
    rcases p.withCode_cases code with ⟨-, current⟩ | ⟨-, unread⟩
    · exact .inl current
    · exact .inr unread

/-- A step keeps a program current exactly if it succeeds. -/
theorem Current.apply_iff {p : Program} (h : p.Current) (step : Step) :
    (step.apply p).1.Current ↔ (step.apply p).2 = .ok () := by
  obtain hstep | hstep | ⟨code, hstep⟩ := step.apply_cases p
  · simp [hstep, h]
  · simp [hstep, h.refreshUnprocessed, h]
  · rw [hstep]
    rcases p.withCode_cases code with ⟨succeeds, current⟩ | ⟨fails, fault, hfault⟩
    · simp [succeeds, current]
    · refine iff_of_false (fun current => ?_) fails
      have := current.outline
      simp [hfault] at this

theorem Settled.run {p : Program} (h : p.Settled) (steps : List Step) : (p.run steps).Settled := by
  induction steps generalizing p with
  | nil => exact h
  | cons step steps ih => exact ih (h.apply step)

theorem Current.run {p : Program} (h : p.Current) {steps : List Step}
    (succeeds : p.Succeeds steps) : (p.run steps).Current := by
  induction steps generalizing p with
  | nil => exact h
  | cons step steps ih => exact ih ((h.apply_iff step).2 succeeds.1) succeeds.2

/-- Only replacing can fail on a current program. -/
theorem Current.convertImports {p : Program} (h : p.Current) : p.convertImports.2 = .ok () := by
  obtain ⟨ps, made⟩ := h.exists_madeOf
  obtain ⟨q, hq, -⟩ := made.convertImports
  rw [hq]

end ContractProject.Cadence.Program
