import ContractProject.Proofs.Cadence.Writing
import ContractProject.Proofs.Installation.Visit
import ContractProject.Proofs.Path

/-!
Where dependencies are installed. Sources of contracts with names that can be declared have paths of
their own, none of them that of the manifest.
-/

namespace ContractProject

theorem Address.toHex_injective {a b : Address} (h : a.toHex = b.toHex) : a = b := by
  have hliteral : a.toLiteral = b.toLiteral := congrArg ("0x" ++ ·) h
  have := Address.parse_toLiteral b
  rw [← hliteral, Address.parse_toLiteral] at this
  exact Except.ok.inj this

theorem Address.length_toHex (a : Address) : a.toHex.toList.length = 16 := by
  rw [Address.toHex, String.toList_ofList, Hex.length_digits]

/-! ### Steps of names and digits -/

theorem not_mem_of_isName {name : String} (h : Cadence.isName name) {c : Char}
    (hc : Cadence.isNamePart c = false) : c ∉ name.toList := fun hmem => by
  rw [Cadence.isNamePart_of_isName h c hmem] at hc
  cases hc

theorem plain_of_isName {name : String} (h : Cadence.isName name) : Path.Plain name.toList := by
  refine Path.plain_of_not_mem ?_ (not_mem_of_isName h (by decide))
    (not_mem_of_isName h (by decide)) (not_mem_of_isName h (by decide))
  intro hempty
  simp [Cadence.isName, hempty] at h

theorem plain_toHex (a : Address) : Path.Plain a.toHex.toList := by
  have hdigits (c : Char) (hc : Text.isAsciiAlphanumeric c = false) : c ∉ a.toHex.toList := by
    intro hmem
    rw [Address.toHex, String.toList_ofList] at hmem
    rw [Hex.digits_isAsciiAlphanumeric _ _ c hmem] at hc
    cases hc
  refine Path.plain_of_length ?_ (hdigits _ (by decide)) (hdigits _ (by decide))
  rw [a.length_toHex]
  decide

theorem plain_append_sourceExtension {name : String} (h : Cadence.isName name) :
    Path.Plain (name ++ Path.sourceExtension).toList := by
  rw [String.toList_append]
  refine Path.plain_of_length ?_ ?_ ?_
  · have : Path.sourceExtension.toList.length = 4 := by decide
    rw [List.length_append, this]
    omega
  · exact List.not_mem_append (not_mem_of_isName h (by decide)) (by decide)
  · exact List.not_mem_append (not_mem_of_isName h (by decide)) (by decide)

namespace Source

/-- The directories between that of the project and the one that a source is installed in. -/
def directories (s : Source) : List (List Char) :=
  [importsDirectory.toList, s.address.toHex.toList]

/-- The name of the file that a source is installed in. -/
def fileName (s : Source) : List Char := (s.contract ++ Path.sourceExtension).toList

theorem plain_directories (s : Source) : ∀ step ∈ s.directories, Path.Plain step := by
  intro step hstep
  rcases List.mem_pair.1 hstep with h | h
  · rw [h]
    exact Path.plain_of_length (by decide) (by decide) (by decide)
  · rw [h]
    exact plain_toHex s.address

theorem plain_steps {s : Source} (h : Cadence.isName s.contract) :
    ∀ step ∈ s.directories ++ [s.fileName], Path.Plain step := by
  intro step hstep
  rcases List.mem_append.1 hstep with hstep | hstep
  · exact s.plain_directories step hstep
  · rw [List.mem_singleton.1 hstep]
    exact plain_append_sourceExtension h

theorem toList_location (s : Source) :
    s.location.toList = List.intercalate ['/'] (s.directories ++ [s.fileName]) := by
  simp [location, directories, fileName, List.intercalate_cons_cons]

theorem endsIn_location (s : Source) :
    Path.EndsIn (s.directories ++ [s.fileName]) s.location :=
  ⟨[], by rw [toList_location, List.nil_append], Path.open_nil⟩

/-- In the directory of an installed source no file that a source is installed in goes by a name
without extension. -/
theorem not_endsIn_fileName {s u : Source} {name path : String} (hu : Cadence.isName u.contract)
    (hname : Cadence.isName name) (h : Path.EndsIn (s.directories ++ [name.toList]) path) :
    ¬ Path.EndsIn (u.directories ++ [u.fileName]) path := by
  intro hends
  have hplain : ∀ step ∈ s.directories ++ [name.toList], Path.Plain step := by
    intro step hstep
    rcases List.mem_append.1 hstep with hstep | hstep
    · exact s.plain_directories step hstep
    · rw [List.mem_singleton.1 hstep]
      exact plain_of_isName hname
  have hsteps := hends.unique h (by simp [directories]) (plain_steps hu) hplain
  have hfile : u.fileName = name.toList :=
    List.singleton_inj.1 (List.append_inj' hsteps (by simp)).2
  have hdot : '.' ∈ u.fileName := by
    rw [fileName, String.toList_append]
    exact List.mem_append_right _ (by decide)
  rw [hfile] at hdot
  exact not_mem_of_isName hname (by decide) hdot

/-- Where a source is installed tells its address and name. -/
theorem eq_of_location {s t : Source} (h : s.location = t.location) :
    s.address = t.address ∧ s.contract = t.contract := by
  have h := congrArg String.toList h
  simp only [location, String.toList_append, List.append_assoc] at h
  have h := (List.append_inj (List.append_cancel_left (List.append_cancel_left h))
    (by rw [Address.length_toHex, Address.length_toHex])).imp id id
  obtain ⟨hhex, hname⟩ := h
  have hname := List.append_cancel_right (List.append_cancel_left hname)
  exact ⟨Address.toHex_injective (String.toList_inj.1 hhex), String.toList_inj.1 hname⟩

end Source

namespace Project

variable {p : Project}

theorem isRooted_location (s : Source) : Path.isRooted s.location.toList = false := by
  have hhead : s.location.toList.head? = importsDirectory.toList.head? := by
    simp only [Source.location, String.toList_append, List.append_assoc]
    rfl
  rw [Path.isRooted, hhead]
  decide

/-- The path of a source is its location behind something that depends on the project only. -/
theorem exists_pathOf_eq (p : Project) : ∃ front : String,
    p.directory.toList.length ≤ front.toList.length ∧
      ∀ s : Source, p.pathOf s.location = front ++ s.location := by
  unfold pathOf Path.join
  simp only [isRooted_location, Bool.false_eq_true, if_false]
  split
  · exact ⟨p.directory, le_rfl, fun s => rfl⟩
  · exact ⟨p.directory ++ "/", by simp, fun s => rfl⟩

theorem location_eq_of_pathOf {s t : Source} (h : p.pathOf s.location = p.pathOf t.location) :
    s.location = t.location := by
  obtain ⟨front, -, hpath⟩ := p.exists_pathOf_eq
  rw [hpath, hpath, ← String.toList_inj, String.toList_append, String.toList_append] at h
  exact String.toList_inj.1 (List.append_cancel_left h)

/-- No source is installed in the place of the manifest. -/
theorem pathOf_ne_path {s : Source} (hname : Cadence.isName s.contract) :
    p.pathOf s.location ≠ p.path := by
  intro h
  have hends : Path.EndsIn (s.directories ++ [s.fileName]) p.path :=
    h ▸ Path.join_endsIn _ s.endsIn_location
  obtain ⟨parent, hparent, hdirectories, hpath⟩ :=
    Path.exists_parent?_of_endsIn (by simp [Source.directories]) (Source.plain_steps hname) hends
  have hdirectory : p.directory = parent := by
    have hne : parent.isEmpty = false := by
      obtain ⟨before, step, hstep, plain⟩ :=
        hdirectories.exists_append (by simp [Source.directories]) s.plain_directories
      rw [Bool.eq_false_iff, ne_eq, String.isEmpty_iff]
      rintro rfl
      simp [plain.ne_nil] at hstep
    simp [directory, directoryOf, hparent, hne]
  -- the location has more steps than the manifest has behind its directory
  obtain ⟨front, hlength, hfront⟩ := p.exists_pathOf_eq
  rw [hfront] at h
  have hlen := congrArg (fun path => path.toList.length) h
  simp only [hpath, String.toList_append, List.length_append, Source.toList_location,
    Source.directories, List.cons_append, List.nil_append, List.intercalate_cons_cons,
    List.intercalate_singleton, List.length_cons, List.length_nil] at hlen
  rw [hdirectory] at hlength
  have := s.address.length_toHex
  omega

/-- The normalized path of an installed source, in which imports are looked up. -/
theorem endsIn_location {s : Source} (hname : Cadence.isName s.contract) :
    Path.EndsIn (s.directories ++ [s.fileName]) (p.location s.location) :=
  Path.clean_endsIn (by simp) (Source.plain_steps hname) (Path.join_endsIn _ s.endsIn_location)

end Project

/-- What is found has a name that can be declared. -/
theorem Installation.isName_of_finds {gateways : Gateways} {s : Source} {p : Cadence.Program}
    (found : gateways.Finds s p) : Cadence.isName s.contract := by
  obtain ⟨⟨code, location, parsed⟩, hname⟩ := found.exists_parse
  obtain ⟨ps, made⟩ := Cadence.Program.exists_madeOf_of_parse parsed
  unfold Cadence.Program.name at hname
  split at hname
  · cases hname
  · next d hd =>
    split at hname
    · rw [← Except.ok.inj hname]
      exact made.whole.isName_of_mem (by simp [hd])
    · cases hname
  · cases hname

end ContractProject
