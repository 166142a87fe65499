import ContractProject.Storage.Access

/-!
A storage whose changes are written down. It answers as the storage does that it stands for, so what
is done to it can be told from the outside.
-/

namespace ContractProject

namespace Storage

/-- A change to a storage, with the storage as it was before. -/
inductive Change (σ : Type) where
  | write (before : σ) (path : String) (contents : Bytes)
  | createDirectories (before : σ) (path : String)

/-- A storage with the changes to it, in order. -/
structure Watched (σ : Type) where
  storage : σ
  changes : List (Change σ)

instance {σ : Type} [Storage σ] : Storage (Watched σ) where
  read w path := Storage.read w.storage path
  write w path contents := (Storage.write w.storage path contents).map fun storage =>
    ⟨storage, w.changes ++ [.write w.storage path contents]⟩
  createDirectories w path :=
    (⟨(Storage.createDirectories w.storage path).1,
      w.changes ++ [.createDirectories w.storage path]⟩,
      (Storage.createDirectories w.storage path).2)
  contains w path := Storage.contains w.storage path

variable {τ σ : Type} [Storage τ] [Storage σ]

/-- What is done to the one storage is done to the other, with the same answers. -/
structure Simulates (f : τ → σ) : Prop where
  read : ∀ s path, Storage.read (f s) path = Storage.read s path
  write : ∀ s path contents,
    Storage.write (f s) path contents = (Storage.write s path contents).map f
  createDirectories : ∀ s path, Storage.createDirectories (f s) path =
    (f (Storage.createDirectories s path).1, (Storage.createDirectories s path).2)
  contains : ∀ s path, Storage.contains (f s) path = Storage.contains s path

theorem Watched.simulates : Simulates (Watched.storage : Watched σ → σ) where
  read _ _ := rfl
  write w path contents := by
    simp only [Storage.write]
    cases Storage.write w.storage path contents <;> rfl
  createDirectories _ _ := rfl
  contains _ _ := rfl

namespace Simulates

variable {f : τ → σ} (h : Simulates f) (s : τ) (path : String) (contents : Bytes)

include h

theorem writeAt : Storage.writeAt (f s) path contents =
    (f (Storage.writeAt s path contents).1, (Storage.writeAt s path contents).2) := by
  unfold Storage.writeAt
  rw [h.write]
  cases Storage.write s path contents <;> rfl

theorem createParent : Storage.createParent (f s) path =
    (f (Storage.createParent s path).1, (Storage.createParent s path).2) := by
  unfold Storage.createParent
  cases (Path.parent? path).filter (· ≠ "") with
  | none => rfl
  | some parent =>
    dsimp only
    rw [h.createDirectories]
    cases Storage.createDirectories s parent with
    | mk t r => cases r <;> rfl

theorem writeWithParent : Storage.writeWithParent (f s) path contents =
    (f (Storage.writeWithParent s path contents).1,
      (Storage.writeWithParent s path contents).2) := by
  unfold Storage.writeWithParent
  rw [h.createParent]
  cases Storage.createParent s path with
  | mk t r =>
    cases r with
    | error e => rfl
    | ok _ => exact h.writeAt t path contents

theorem writeOnce : Storage.writeOnce (f s) path contents =
    (f (Storage.writeOnce s path contents).1, (Storage.writeOnce s path contents).2) := by
  unfold Storage.writeOnce
  rw [h.contains]
  split
  · rfl
  · exact h.writeWithParent s path contents

end Simulates

/-! ### What is written down -/

namespace Watched

/-- What writing at a path comes to: the directory that it is in may be created, and the path itself
may be written then. -/
inductive WritesAt (s : σ) (path : String) (contents : Bytes) : Change σ → Prop
  | createDirectories {directory : String} : Path.parent? path = some directory →
      WritesAt s path contents (.createDirectories s directory)
  | write {before : σ} {r : Except Error Unit} : Storage.createParent s path = (before, r) →
      WritesAt s path contents (.write before path contents)

theorem exists_changes_of_createParent {w v : Watched σ} {path : String}
    {r : Except Error Unit} (h : Storage.createParent w path = (v, r)) (contents : Bytes) :
    ∃ new, v.changes = w.changes ++ new ∧ ∀ c ∈ new, WritesAt w.storage path contents c := by
  unfold Storage.createParent at h
  split at h
  · obtain ⟨rfl, -⟩ := Prod.mk.inj h
    exact ⟨[], by simp⟩
  · next directory hparent =>
    have hchanges : v.changes = w.changes ++ [.createDirectories w.storage directory] := by
      split at h
      · next hcreate =>
        rw [← (Prod.mk.inj h).1, ← (Prod.mk.inj hcreate).1]
      · next hcreate =>
        rw [← (Prod.mk.inj h).1, ← (Prod.mk.inj hcreate).1]
    refine ⟨_, hchanges, fun c hc => ?_⟩
    rw [List.mem_singleton.1 hc]
    exact .createDirectories (Option.filter_eq_some_iff.1 hparent).1

theorem changes_of_write {w v : Watched σ} {path : String} {contents : Bytes}
    (h : Storage.write w path contents = .ok v) :
    v.changes = w.changes ++ [.write w.storage path contents] := by
  have h : (Storage.write w.storage path contents).map (fun storage => Watched.mk storage
      (w.changes ++ [.write w.storage path contents])) = .ok v := h
  cases hwrite : Storage.write w.storage path contents with
  | error e =>
    rw [hwrite] at h
    cases h
  | ok storage =>
    rw [hwrite] at h
    rw [← Except.ok.inj h]

theorem exists_changes_of_writeWithParent {w v : Watched σ} {path : String} {contents : Bytes}
    {r : Except Error Unit} (h : Storage.writeWithParent w path contents = (v, r)) :
    ∃ new, v.changes = w.changes ++ new ∧ ∀ c ∈ new, WritesAt w.storage path contents c := by
  unfold Storage.writeWithParent at h
  split at h
  · next u hparent =>
    obtain ⟨new, hnew, hall⟩ := exists_changes_of_createParent hparent contents
    unfold Storage.writeAt at h
    split at h
    · next t hwrite =>
      obtain ⟨rfl, -⟩ := Prod.mk.inj h
      have hbefore : Storage.createParent w.storage path = (u.storage, .ok ()) := by
        rw [simulates.createParent, hparent]
      refine ⟨new ++ [.write u.storage path contents], ?_, fun c hc => ?_⟩
      · rw [changes_of_write hwrite, hnew, List.append_assoc]
      · rcases List.mem_append.1 hc with hc | hc
        · exact hall c hc
        · rw [List.mem_singleton.1 hc]
          exact .write hbefore
    · obtain ⟨rfl, -⟩ := Prod.mk.inj h
      exact ⟨new, hnew, hall⟩
  · next hparent =>
    obtain ⟨rfl, -⟩ := Prod.mk.inj h
    exact exists_changes_of_createParent hparent contents

end Watched

end Storage

end ContractProject
