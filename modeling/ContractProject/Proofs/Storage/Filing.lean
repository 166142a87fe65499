import ContractProject.Proofs.Storage

/-!
Which file a path leads to. Writing at a path changes what is found at the paths that lead to the
same file, and nothing at others.
-/

namespace ContractProject

namespace Storage

variable {σ φ : Type} [Storage σ] {s t u : σ} {path other : String} {contents : Bytes}
  {r : Except Error Unit}

/-- What the file at a path holds, none if no file can be read there. -/
def fileAt? (s : σ) (path : String) : Option Bytes := (Storage.read s path).toOption

theorem fileAt?_eq_some_iff :
    fileAt? s path = some contents ↔ Storage.read s path = .ok contents := by
  unfold fileAt?
  cases Storage.read s path <;> simp [Except.toOption]

/-- Nothing has changed at a path. -/
structure SameAt (s t : σ) (path : String) : Prop where
  file : fileAt? t path = fileAt? s path
  contains : Storage.contains t path = Storage.contains s path

theorem SameAt.refl (s : σ) (path : String) : SameAt s s path := ⟨rfl, rfl⟩

theorem SameAt.trans (h : SameAt s t path) (g : SameAt t u path) : SameAt s u path :=
  ⟨g.file.trans h.file, g.contains.trans h.contains⟩

/-- Each of these paths leads to a file. Creating the directory of one does nothing to the files;
writing at one does something to the paths that lead to its file only. -/
structure Filing (σ : Type) [Storage σ] (file : String → φ) (paths : String → Prop) : Prop where
  parent : ∀ {s t : σ} {path other : String} {r : Except Error Unit}, paths path → paths other →
    createParent s path = (t, r) → SameAt s t other
  kept : ∀ {s t : σ} {path other : String} {contents : Bytes}, paths path → paths other →
    file other ≠ file path → Storage.write s path contents = .ok t → SameAt s t other
  written : ∀ {s t : σ} {path other : String} {contents : Bytes}, paths path → paths other →
    file other = file path → Storage.write s path contents = .ok t →
    fileAt? t other = some contents
  alike : ∀ {s : σ} {path other : String}, paths path → paths other → file other = file path →
    Storage.contains s other = Storage.contains s path
  there : ∀ {s : σ} {path : String}, paths path → (fileAt? s path).isSome →
    Storage.contains s path

theorem writeAt_cases (h : writeAt s path contents = (t, r)) :
    (r = .ok () ∧ Storage.write s path contents = .ok t) ∨ ((∃ e, r = .error e) ∧ t = s) := by
  unfold writeAt at h
  split at h
  · next u hu =>
    obtain ⟨rfl, rfl⟩ := Prod.mk.inj h
    exact .inl ⟨rfl, hu⟩
  · obtain ⟨rfl, rfl⟩ := Prod.mk.inj h
    exact .inr ⟨⟨_, rfl⟩, rfl⟩

/-- The directory is created first; if that fails, nothing is written. -/
theorem writeWithParent_cases (h : writeWithParent s path contents = (t, r)) :
    ((∃ e, r = .error e) ∧ createParent s path = (t, r)) ∨
      ∃ u, createParent s path = (u, .ok ()) ∧ writeAt u path contents = (t, r) := by
  unfold writeWithParent at h
  split at h
  · next u hu => exact .inr ⟨u, hu, h⟩
  · next u e hu =>
    obtain ⟨rfl, rfl⟩ := Prod.mk.inj h
    exact .inl ⟨⟨e, rfl⟩, hu⟩

theorem writeOnce_cases (h : writeOnce s path contents = (t, r)) :
    (Storage.contains s path ∧ t = s ∧ r = .ok ()) ∨
      (Storage.contains s path = false ∧ writeWithParent s path contents = (t, r)) := by
  unfold writeOnce at h
  split at h
  · next hpath =>
    obtain ⟨rfl, rfl⟩ := Prod.mk.inj h
    exact .inl ⟨hpath, rfl, rfl⟩
  · next hpath => exact .inr ⟨by simpa using hpath, h⟩

namespace Filing

variable {file : String → φ} {paths : String → Prop} (filing : Filing σ file paths)

include filing

/-- Other files stay, whether writing succeeds or not. -/
theorem sameAt_of_ne (hpath : paths path) (hother : paths other) (hne : file other ≠ file path)
    (h : writeWithParent s path contents = (t, r)) : SameAt s t other := by
  rcases writeWithParent_cases h with ⟨-, hparent⟩ | ⟨u, hparent, hwrite⟩
  · exact filing.parent hpath hother hparent
  · have hu := filing.parent hpath hother hparent
    rcases writeAt_cases hwrite with ⟨-, hwrite⟩ | ⟨-, rfl⟩
    · exact hu.trans (filing.kept hpath hother hne hwrite)
    · exact hu

theorem fileAt?_of_eq (hpath : paths path) (hother : paths other) (heq : file other = file path)
    (h : writeWithParent s path contents = (t, .ok ())) : fileAt? t other = some contents := by
  rcases writeWithParent_cases h with ⟨⟨e, he⟩, -⟩ | ⟨u, -, hwrite⟩
  · cases he
  · rcases writeAt_cases hwrite with ⟨-, hwrite⟩ | ⟨⟨e, he⟩, -⟩
    · exact filing.written hpath hother heq hwrite
    · cases he

/-- What is there stays there, whether writing succeeds or not. -/
theorem contains_of_writeWithParent (hpath : paths path) (hother : paths other)
    (h : writeWithParent s path contents = (t, r)) (hbefore : Storage.contains s other) :
    Storage.contains t other := by
  by_cases heq : file other = file path
  · cases r with
    | ok _ =>
      exact filing.there hother (by rw [filing.fileAt?_of_eq hpath hother heq h]; rfl)
    | error e =>
      rcases writeWithParent_cases h with ⟨-, hparent⟩ | ⟨u, hparent, hwrite⟩
      · rw [(filing.parent hpath hother hparent).contains, hbefore]
      · rcases writeAt_cases hwrite with ⟨he, -⟩ | ⟨-, rfl⟩
        · cases he
        · rw [(filing.parent hpath hother hparent).contains, hbefore]
  · rw [(filing.sameAt_of_ne hpath hother heq h).contains, hbefore]

theorem contains_of_writeOnce (hpath : paths path) (hother : paths other)
    (h : writeOnce s path contents = (t, r)) (hbefore : Storage.contains s other) :
    Storage.contains t other := by
  rcases writeOnce_cases h with ⟨-, rfl, -⟩ | ⟨-, hwrite⟩
  · exact hbefore
  · exact filing.contains_of_writeWithParent hpath hother hwrite hbefore

/-- Something is at the path when this succeeds, be it what was there before. -/
theorem contains_self_of_writeOnce (hpath : paths path)
    (h : writeOnce s path contents = (t, .ok ())) : Storage.contains t path := by
  rcases writeOnce_cases h with ⟨hold, rfl, -⟩ | ⟨-, hwrite⟩
  · exact hold
  · exact filing.there hpath (by rw [filing.fileAt?_of_eq hpath hpath rfl hwrite]; rfl)

/-- What is found at a path is found at all paths that lead to its file. -/
theorem contains_of_fileAt? (hpath : paths path) (hother : paths other)
    (heq : file other = file path) (h : fileAt? s other = some contents) :
    Storage.contains s path := by
  rw [← filing.alike hpath hother heq]
  exact filing.there hother (by rw [h]; rfl)

/-- What is written once changes no file that is there. -/
theorem fileAt?_of_writeOnce {before : Bytes} (hpath : paths path) (hother : paths other)
    (h : writeOnce s path contents = (t, r)) (hbefore : fileAt? s other = some before) :
    fileAt? t other = some before := by
  rcases writeOnce_cases h with ⟨-, rfl, -⟩ | ⟨hnew, hwrite⟩
  · exact hbefore
  · have hne : file other ≠ file path := fun heq => by
      have hthere := filing.contains_of_fileAt? hpath hother heq hbefore
      rw [hnew] at hthere
      cases hthere
    rw [(filing.sameAt_of_ne hpath hother hne hwrite).file, hbefore]

/-- Where nothing is, what is written once is there then. Where something is, nothing changes. -/
theorem writeOnce_ok_cases (hpath : paths path) (hother : paths other)
    (h : writeOnce s path contents = (t, .ok ())) :
    (SameAt s t other ∧ (file path = file other → Storage.contains s other)) ∨
      (file path = file other ∧ Storage.contains s other = false ∧
        fileAt? t other = some contents ∧ Storage.contains t other) := by
  rcases writeOnce_cases h with ⟨hold, rfl, -⟩ | ⟨hnew, hwrite⟩
  · exact .inl ⟨.refl t other, fun heq => by rwa [filing.alike hpath hother heq.symm]⟩
  · by_cases heq : file path = file other
    · have hcontents := filing.fileAt?_of_eq hpath hother heq.symm hwrite
      refine .inr ⟨heq, by rwa [filing.alike hpath hother heq.symm], hcontents, ?_⟩
      exact filing.there hother (by rw [hcontents]; rfl)
    · exact .inl ⟨filing.sameAt_of_ne hpath hother (Ne.symm heq) hwrite, fun h => absurd h heq⟩

end Filing

end Storage

namespace MemoryStorage

theorem fileAt?_eq (s : MemoryStorage) (path : String) :
    Storage.fileAt? s path = s.get? path := by
  simp only [Storage.fileAt?, Storage.read]
  cases s.get? path <;> rfl

theorem get?_congr (s : MemoryStorage) {path other : String}
    (h : Path.clean other = Path.clean path) : s.get? other = s.get? path := by
  rw [get?, get?, h]

/-- Memory files what it holds by the normal forms of paths. -/
theorem filing : Storage.Filing MemoryStorage Path.clean fun _ => True where
  parent := by
    intro s t path other r _ _ h
    obtain rfl : t = s := by
      rw [← s.createParent_fst path, h]
    exact .refl t other
  kept := by
    intro s t path other contents _ _ hne h
    obtain rfl := eq_put_of_write h
    have hget : (s.put path contents).get? other = s.get? other := by
      rw [get?_put, if_neg (Ne.symm hne)]
    exact ⟨by rw [fileAt?_eq, fileAt?_eq, hget], congrArg Option.isSome hget⟩
  written := by
    intro s t path other contents _ _ heq h
    obtain rfl := eq_put_of_write h
    rw [fileAt?_eq, get?_put, if_pos heq.symm]
  alike := by
    intro s path other _ _ heq
    exact congrArg Option.isSome (s.get?_congr heq)
  there := by
    intro s path _ h
    rwa [fileAt?_eq] at h

end MemoryStorage

end ContractProject
