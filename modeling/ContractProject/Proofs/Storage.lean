import ContractProject.Proofs.Collection
import ContractProject.Storage.Access
import ContractProject.Storage.Memory

/-!
What is asked of a storage: that files can be written and are there afterwards, and that those at
different paths do not affect each other.
-/

namespace ContractProject

variable {σ : Type} [Storage σ]

/-- A usable storage takes a file at this path, has it then, loses none, and stays usable. -/
structure Storage.Accepts (usable : σ → Prop) (path : String) : Prop where
  write : ∀ s contents, usable s → ∃ t,
    Storage.writeWithParent s path contents = (t, .ok ()) ∧ usable t ∧ Storage.contains t path ∧
      ∀ other, Storage.contains s other → Storage.contains t other

/-- What is to be written once is there afterwards, new or from before. -/
theorem Storage.Accepts.writeOnce {usable : σ → Prop} {path : String} (h : Accepts usable path)
    {s : σ} (hs : usable s) (contents : Bytes) :
    ∃ t, Storage.writeOnce s path contents = (t, .ok ()) ∧ usable t ∧ Storage.contains t path ∧
      ∀ other, Storage.contains s other → Storage.contains t other := by
  unfold Storage.writeOnce
  by_cases hpath : Storage.contains s path
  · exact ⟨s, if_pos hpath, hs, hpath, fun _ h => h⟩
  · rw [if_neg hpath]
    exact h.write s contents hs

/-- At each of these paths there is a file of its own: it holds what was written there last,
whatever is written at the others. -/
structure Storage.Separate (σ : Type) [Storage σ] (paths : String → Prop) : Prop where
  written : ∀ {s t : σ} {path : String} {contents : Bytes}, paths path →
    Storage.writeWithParent s path contents = (t, .ok ()) →
    Storage.readAt t path = .ok contents
  kept : ∀ {s t : σ} {path other : String} {contents : Bytes}, paths path → paths other →
    other ≠ path → Storage.writeWithParent s path contents = (t, .ok ()) →
    Storage.readAt t other = Storage.readAt s other ∧
      Storage.contains t other = Storage.contains s other

namespace MemoryStorage

theorem get?_put (s : MemoryStorage) (path other : String) (contents : Bytes) :
    (s.put path contents).get? other =
      if Path.clean path = Path.clean other then some contents else s.get? other := by
  unfold get? put
  rw [Collection.get?_insert]
  by_cases h : Path.clean path = Path.clean other
  · simp [key, h]
  · simp [key, h]

/-- Nothing is denied. -/
def Free (s : MemoryStorage) : Prop := s.denied = []

theorem writeWithParent_of_free {s : MemoryStorage} (free : s.Free) (path : String)
    (contents : Bytes) :
    Storage.writeWithParent s path contents = (s.put path contents, .ok ()) := by
  have hdenied (p : String) : s.isDenied p = false := by
    have free : s.denied = [] := free
    simp [isDenied, free]
  have hparent : Storage.createParent s path = (s, .ok ()) := by
    unfold Storage.createParent
    split
    · rfl
    · simp [Storage.createDirectories, hdenied]
  rw [Storage.writeWithParent, hparent]
  simp [Storage.writeAt, Storage.write, hdenied]

/-- There are no directories to create. -/
theorem createParent_fst (s : MemoryStorage) (path : String) :
    (Storage.createParent s path).1 = s := by
  unfold Storage.createParent
  split
  · rfl
  · simp only [Storage.createDirectories]
    split
    · next h => exact (Prod.mk.inj h).1.symm
    · next h => exact (Prod.mk.inj h).1.symm

theorem eq_put_of_write {s t : MemoryStorage} {path : String} {contents : Bytes}
    (h : Storage.write s path contents = .ok t) : t = s.put path contents := by
  simp only [Storage.write] at h
  by_cases hdenied : s.isDenied path
  · simp [hdenied] at h
  · simpa [hdenied, eq_comm] using h

theorem eq_put_of_writeWithParent {s t : MemoryStorage} {path : String} {contents : Bytes}
    (h : Storage.writeWithParent s path contents = (t, .ok ())) : t = s.put path contents := by
  have hparent := s.createParent_fst path
  unfold Storage.writeWithParent at h
  split at h
  · next u hu =>
    rw [hu] at hparent
    obtain rfl : u = s := hparent
    unfold Storage.writeAt at h
    split at h
    · next hwrite =>
      rw [← (Prod.mk.inj h).1]
      exact eq_put_of_write hwrite
    · simp at h
  · simp at h

/-- Memory keeps files apart whose paths have different normal forms. -/
theorem separate {paths : String → Prop}
    (injective : ∀ p q, paths p → paths q → Path.clean p = Path.clean q → p = q) :
    Storage.Separate MemoryStorage paths := by
  constructor
  · intro s t path contents _ hwrite
    obtain rfl := eq_put_of_writeWithParent hwrite
    simp [Storage.readAt, Storage.read, get?_put]
  · intro s t path other contents hpath hother hne hwrite
    obtain rfl := eq_put_of_writeWithParent hwrite
    have hclean : Path.clean path ≠ Path.clean other :=
      fun h => hne (injective path other hpath hother h).symm
    have hget : (s.put path contents).get? other = s.get? other := by
      rw [get?_put, if_neg hclean]
    exact ⟨by simp [Storage.readAt, Storage.read, hget], by simp [Storage.contains, hget]⟩

/-- Memory takes files wherever nothing is denied. -/
theorem accepts (path : String) : Storage.Accepts Free path := by
  refine ⟨fun s contents free => ?_⟩
  refine ⟨s.put path contents, writeWithParent_of_free free path contents, free, ?_, ?_⟩
  · show ((s.put path contents).get? path).isSome
    simp [get?_put]
  · intro other hother
    have hother : (s.get? other).isSome := hother
    show ((s.put path contents).get? other).isSome
    rw [get?_put]
    split
    · rfl
    · exact hother

end MemoryStorage

end ContractProject
