import ContractProject.Proofs.Path.Route

/-!
Normal forms of paths. A normal route goes up before it goes down, and not at all from the root;
these are the routes that normalizing leaves as they are. So is the normal form of a path without
backslashes. A backslash becomes a separator last, and what it parts is normalized only when the
path is normalized once more.
-/

namespace ContractProject.Path

namespace Route

/-- The route goes up before it goes down, and not at all from the root. -/
def IsNormal (route : Route) : Prop :=
  ∃ climbs names, route.steps = List.replicate climbs up ++ names ∧ up ∉ names ∧
    (route.rooted → climbs = 0)

/-- From where one stands, what has not gone down yet goes further up. -/
theorem push_climbs (climbs : Nat) :
    push false (List.replicate climbs up) up = List.replicate (climbs + 1) up := by
  cases climbs <;> simp [push, List.replicate_succ]

theorem foldl_push_climbs (climbs : Nat) :
    (List.replicate climbs up).foldl (push false) [] = List.replicate climbs up := by
  induction climbs with
  | zero => rfl
  | succ climbs ih =>
    rw [List.replicate_succ', List.foldl_append, ih, ← List.replicate_succ']
    exact push_climbs climbs

/-- A step keeps a walk normal. -/
theorem IsNormal.push {rooted : Bool} {walk : List (List Char)}
    (h : IsNormal ⟨rooted, walk.reverse⟩) (step : List Char) :
    IsNormal ⟨rooted, (push rooted walk step).reverse⟩ := by
  obtain ⟨climbs, names, hwalk, down, root⟩ := h
  obtain rfl : walk = names.reverse ++ List.replicate climbs up := by
    simpa using congrArg List.reverse hwalk
  -- a step up undoes the last step down, if there is one
  by_cases hstep : step = up
  · subst hstep
    rcases List.eq_nil_or_concat names with rfl | ⟨names, name, rfl⟩
    · cases rooted with
      | true =>
        obtain rfl : climbs = 0 := root rfl
        exact ⟨0, [], rfl, by simp, by simp⟩
      | false =>
        refine ⟨climbs + 1, [], ?_, by simp, by simp⟩
        simp [push_climbs]
    · have hname : name ≠ up := by
        rintro rfl
        simp at down
      refine ⟨climbs, names, ?_, by simp_all, root⟩
      simp [Route.push, hname]
  · refine ⟨climbs, names ++ [step], ?_, ?_, root⟩
    · simp [Route.push, hstep]
    · simpa using ⟨down, Ne.symm hstep⟩

theorem IsNormal.foldl_push {rooted : Bool} {walk : List (List Char)}
    (h : IsNormal ⟨rooted, walk.reverse⟩) (steps : List (List Char)) :
    IsNormal ⟨rooted, (steps.foldl (Route.push rooted) walk).reverse⟩ := by
  induction steps generalizing walk with
  | nil => exact h
  | cons step steps ih => exact ih (h.push step)

theorem isNormal_normal (route : Route) : route.normal.IsNormal :=
  IsNormal.foldl_push ⟨0, [], rfl, by simp, by simp⟩ route.steps

theorem IsNormal.normal_eq {route : Route} (h : route.IsNormal) : route.normal = route := by
  obtain ⟨rooted, steps⟩ := route
  obtain ⟨climbs, names, rfl, down, root⟩ := h
  have hclimbs : (List.replicate climbs up).foldl (Route.push rooted) [] =
      List.replicate climbs up := by
    cases rooted with
    | true => rw [root rfl]; rfl
    | false => exact foldl_push_climbs climbs
  simp [normal, List.foldl_append, hclimbs, foldl_push_of_not_mem down]

end Route

/-- The path is in normal form: without backslashes, empty pieces and pieces `.`, and with `..` only
at the start of a path that is not rooted. -/
structure Normalized (path : String) : Prop where
  backslash : '\\' ∉ path.toList
  spelled : (Route.ofText path.toList).toText = path.toList
  normal : (Route.ofText path.toList).IsNormal

theorem backslash_not_mem_clean (path : String) : '\\' ∉ (clean path).toList := by
  rw [clean, String.toList_ofList]
  intro h
  obtain ⟨c, -, hc⟩ := List.mem_map.1 h
  split at hc
  · cases hc
  · contradiction

/-- The normal form of a path without backslashes is in normal form. -/
theorem normalized_clean {path : String} (h : '\\' ∉ path.toList) : Normalized (clean path) where
  backslash := backslash_not_mem_clean path
  spelled := by rw [ofText_clean h, clean_of_not_mem h, String.toList_ofList]
  normal := ofText_clean h ▸ Route.isNormal_normal _

/-- The paths that normalizing leaves as they are are those in normal form. -/
theorem clean_eq_self_iff {path : String} : clean path = path ↔ Normalized path := by
  constructor
  · intro h
    have hplain : '\\' ∉ path.toList := h ▸ backslash_not_mem_clean path
    exact h ▸ normalized_clean hplain
  · rintro ⟨hplain, htext, hnormal⟩
    rw [clean_of_not_mem hplain, hnormal.normal_eq, htext, String.ofList_toList]

/-- Normalizing again leaves a path as it is exactly if it is in normal form once the backslashes
are separators, and a third time it always does. Without backslashes once is enough, and a path that
is normalized once compares to one that is normalized twice as their normal routes do. -/
theorem clean_clean_eq_iff (path : String) :
    (clean (clean path) = clean path ↔ Normalized (clean path)) ∧
      clean (clean (clean path)) = clean (clean path) ∧
      ('\\' ∉ path.toList → Normalized (clean path) ∧
        ∀ other : String, '\\' ∉ other.toList → (clean other = clean (clean path) ↔
          (Route.ofText other.toList).normal = (Route.ofText path.toList).normal)) := by
  refine ⟨clean_eq_self_iff, clean_eq_self_iff.2 (normalized_clean (backslash_not_mem_clean path)),
    fun plain => ⟨normalized_clean plain, fun other plain' => ?_⟩⟩
  rw [clean_eq_self_iff.2 (normalized_clean plain), clean_eq_iff plain' plain]

theorem clean_clean_of_detour : '\\' ∉ "./a/../..//lib/Foo.cdc/".toList ∧
    Normalized (clean "./a/../..//lib/Foo.cdc/") ∧
    clean "../lib/./Foo.cdc" = clean (clean "./a/../..//lib/Foo.cdc/") := by
  have plain : '\\' ∉ "./a/../..//lib/Foo.cdc/".toList := by decide
  obtain ⟨normalized, same⟩ := (clean_clean_eq_iff "./a/../..//lib/Foo.cdc/").2.2 plain
  exact ⟨plain, normalized, (same "../lib/./Foo.cdc" (by decide)).2 (by decide +kernel)⟩

/-- What backslashes part is not normalized: the path `.\contracts\Foo.cdc` becomes
`./contracts/Foo.cdc`, and that `contracts/Foo.cdc`. -/
theorem not_clean_clean : ¬ ∀ path : String, clean (clean path) = clean path := by
  intro always
  exact absurd (always ".\\contracts\\Foo.cdc") (by decide +kernel)

end ContractProject.Path
