import ContractProject.Collection

/-!
Entries by key: what is found after entries have been put in, and entries with distinct keys, which
come out as they were put in.
-/

namespace ContractProject

variable {α κ : Type} [Keyed α κ] [DecidableEq κ]

@[simp] theorem key_pair {κ β : Type} (e : κ × β) : key e = e.1 := rfl

section Entries

@[simp] theorem lookup?_nil (k : κ) : lookup? k ([] : List α) = none := rfl

theorem lookup?_cons (k : κ) (x : α) (xs : List α) :
    lookup? k (x :: xs) = if key x = k then some x else lookup? k xs := rfl

theorem lookup?_eq_none_iff {k : κ} {xs : List α} : lookup? k xs = none ↔ k ∉ xs.map key := by
  induction xs with
  | nil => simp
  | cons x xs ih =>
    rw [lookup?_cons]
    by_cases h : key x = k
    · simp [h]
    · simp [h, Ne.symm h, ih]

theorem lookup?_append (k : κ) (xs ys : List α) :
    lookup? k (xs ++ ys) = (lookup? k xs).or (lookup? k ys) := by
  induction xs with
  | nil => rfl
  | cons x xs ih =>
    rw [List.cons_append, lookup?_cons, lookup?_cons, ih]
    by_cases h : key x = k <;> simp [h]

theorem lookup?_of_mem {a : α} {xs : List α} (nodup : (xs.map key).Nodup) (h : a ∈ xs) :
    lookup? (key a) xs = some a := by
  induction xs with
  | nil => cases h
  | cons x xs ih =>
    rw [List.map_cons, List.nodup_cons] at nodup
    rw [lookup?_cons]
    rcases List.mem_cons.1 h with rfl | h
    · rw [if_pos rfl]
    · have hx : key x ≠ key a := fun hx => nodup.1 (hx ▸ List.mem_map_of_mem h)
      rw [if_neg hx, ih nodup.2 h]

theorem lookup?_eq_find? (k : κ) (xs : List α) : lookup? k xs = xs.find? (key · = k) := by
  induction xs with
  | nil => rfl
  | cons x xs ih =>
    rw [lookup?_cons, List.find?_cons, ih]
    by_cases h : key x = k <;> simp [h]

/-- Among entries with distinct keys it makes no difference in which order they are. -/
theorem lookup?_perm {xs ys : List α} (perm : xs.Perm ys) (nodup : (xs.map key).Nodup) (k : κ) :
    lookup? k xs = lookup? k ys := by
  cases h : lookup? k xs with
  | none =>
    rw [lookup?_eq_none_iff, (perm.map key).mem_iff] at h
    exact (lookup?_eq_none_iff.2 h).symm
  | some a =>
    obtain ⟨hmem, rfl⟩ := mem_of_lookup? h
    exact (lookup?_of_mem ((perm.map key).nodup_iff.1 nodup) (perm.mem_iff.1 hmem)).symm

/-- An entry that is put in is found under its key, and every other one as before. -/
theorem lookup?_put (k : κ) (a : α) (xs : List α) :
    lookup? k (put a xs) = if key a = k then some a else lookup? k xs := by
  induction xs with
  | nil => rfl
  | cons x xs ih =>
    rw [put]
    by_cases hx : key x = key a
    · rw [if_pos hx, lookup?_cons, lookup?_cons, hx]
      by_cases ha : key a = k <;> simp [ha]
    · rw [if_neg hx, lookup?_cons, lookup?_cons, ih]
      by_cases hk : key x = k
      · have ha : key a ≠ k := fun h => hx (hk.trans h.symm)
        simp [hk, ha]
      · simp [hk]

theorem mem_put {a x : α} {xs : List α} (h : x ∈ put a xs) : x = a ∨ x ∈ xs := by
  induction xs with
  | nil => exact .inl (List.mem_singleton.1 h)
  | cons y ys ih =>
    rw [put] at h
    split at h
    · exact (List.mem_cons.1 h).imp_right (List.mem_cons_of_mem y)
    · rcases List.mem_cons.1 h with rfl | h
      · exact .inr List.mem_cons_self
      · exact (ih h).imp_right (List.mem_cons_of_mem y)

theorem put_ne_nil (a : α) (xs : List α) : put a xs ≠ [] := by
  cases xs with
  | nil => simp [put]
  | cons x xs =>
    rw [put]
    split <;> simp

theorem put_append_of_not_mem {a : α} {xs : List α} (h : key a ∉ xs.map key) (ys : List α) :
    put a (xs ++ ys) = xs ++ put a ys := by
  induction xs with
  | nil => rfl
  | cons x xs ih =>
    rw [List.map_cons, List.mem_cons, not_or] at h
    rw [List.cons_append, put, if_neg (Ne.symm h.1), ih h.2, List.cons_append]

/-- An entry with a new key goes to the end. -/
theorem put_of_not_mem {a : α} {xs : List α} (h : key a ∉ xs.map key) : put a xs = xs ++ [a] := by
  simpa [put] using put_append_of_not_mem h []

theorem map_key_put (a : α) (xs : List α) :
    (put a xs).map key = if key a ∈ xs.map key then xs.map key else xs.map key ++ [key a] := by
  induction xs with
  | nil => rfl
  | cons x xs ih =>
    rw [put]
    by_cases hx : key x = key a
    · simp [hx]
    · simp only [if_neg hx, List.map_cons, ih, List.mem_cons, Ne.symm hx, false_or]
      split <;> rfl

theorem nodup_put {a : α} {xs : List α} (h : (xs.map key).Nodup) :
    ((put a xs).map key).Nodup := by
  rw [map_key_put]
  split
  · exact h
  · next hmem => exact List.nodup_append.2 ⟨h, by simp, by simpa using hmem⟩

/-- Entries can be changed before one is put in among them, if they keep their keys. -/
theorem put_map {β : Type} [Keyed β κ] (f : α → β) (h : ∀ x, key (f x) = key x) (a : α)
    (xs : List α) : put (f a) (xs.map f) = (put a xs).map f := by
  induction xs with
  | nil => rfl
  | cons x xs ih =>
    rw [List.map_cons, put, put, h, h, ih]
    split <;> rfl

/-- If all entries with its key are kept, an entry can be put in before others are left out. -/
theorem filter_put_of_pos {p : α → Bool} {a : α} (h : ∀ x, key x = key a → p x = true)
    (xs : List α) : (put a xs).filter p = put a (xs.filter p) := by
  induction xs with
  | nil => simp [put, h]
  | cons x xs ih =>
    rw [put]
    by_cases hx : key x = key a
    · rw [if_pos hx, List.filter_cons_of_pos (h a rfl), List.filter_cons_of_pos (h x hx), put,
        if_pos hx]
    · rw [if_neg hx]
      by_cases hp : p x = true
      · rw [List.filter_cons_of_pos hp, List.filter_cons_of_pos hp, put, if_neg hx, ih]
      · rw [List.filter_cons_of_neg hp, List.filter_cons_of_neg hp, ih]

/-- Putting in an entry that is left out leaves out the one in whose place it comes, too. -/
theorem filter_put_of_neg {p : α → Bool} {a : α} (h : p a = false) {xs : List α}
    (nodup : (xs.map key).Nodup) :
    (put a xs).filter p = (xs.filter p).filter (fun x => key x ≠ key a) := by
  induction xs with
  | nil => simp [put, h]
  | cons x xs ih =>
    rw [List.map_cons, List.nodup_cons] at nodup
    rw [put]
    by_cases hx : key x = key a
    · have hothers : xs.filter p = (xs.filter p).filter (fun y => key y ≠ key a) := by
        refine (List.filter_eq_self.2 fun y hy => ?_).symm
        have hy : key y ∈ xs.map key := List.mem_map_of_mem (List.mem_filter.1 hy).1
        simpa using fun heq : key y = key a => nodup.1 (hx.trans heq.symm ▸ hy)
      rw [if_pos hx, List.filter_cons_of_neg (by simp [h])]
      by_cases hp : p x = true
      · rw [List.filter_cons_of_pos hp, List.filter_cons_of_neg (by simpa using hx), ← hothers]
      · rw [List.filter_cons_of_neg hp, ← hothers]
    · rw [if_neg hx]
      by_cases hp : p x = true
      · rw [List.filter_cons_of_pos hp, List.filter_cons_of_pos hp,
          List.filter_cons_of_pos (by simpa using hx), ih nodup.2]
      · rw [List.filter_cons_of_neg hp, List.filter_cons_of_neg hp, ih nodup.2]

theorem find?_of_unique {β : Type} {q : β → Prop} [DecidablePred q] {b : β} {xs : List β}
    (mem : b ∈ xs) (hb : q b) (unique : ∀ x ∈ xs, q x → x = b) :
    (xs.find? fun x => q x) = some b := by
  cases hfind : xs.find? fun x => q x with
  | none => exact absurd hb (by simpa using List.find?_eq_none.1 hfind b mem)
  | some x =>
    rw [unique x (List.mem_of_find?_eq_some hfind) (by simpa using List.find?_some hfind)]

theorem not_mem_of_nodup_append {β : Type} {b : β} {xs ys : List β} (h : (xs ++ b :: ys).Nodup) :
    b ∉ xs :=
  fun hmem => (List.nodup_append.1 h).2.2 b hmem b List.mem_cons_self rfl

theorem nodup_foldl_put (entries : List α) {xs : List α} (h : (xs.map key).Nodup) :
    ((entries.foldl (fun es e => put e es) xs).map key).Nodup := by
  induction entries generalizing xs with
  | nil => exact h
  | cons e entries ih => exact ih (nodup_put h)

/-- Entries with distinct new keys are put in as they are. -/
theorem foldl_put_of_nodup (entries : List α) {xs : List α}
    (h : ((xs ++ entries).map key).Nodup) :
    entries.foldl (fun es e => put e es) xs = xs ++ entries := by
  induction entries generalizing xs with
  | nil => simp
  | cons e entries ih =>
    have hnew : key e ∉ xs.map key := by
      rw [List.map_append, List.map_cons] at h
      exact not_mem_of_nodup_append h
    rw [List.foldl_cons, put_of_not_mem hnew, ih (by simpa using h), List.append_assoc]
    rfl

/-- Entries with distinct keys are put together as they are. -/
theorem foldl_put_nil_of_nodup {entries : List α} (h : (entries.map key).Nodup) :
    entries.foldl (fun es e => put e es) [] = entries :=
  foldl_put_of_nodup entries h

theorem mem_foldl_put {x : α} (entries : List α) {xs : List α}
    (h : x ∈ entries.foldl (fun es e => put e es) xs) : x ∈ entries ∨ x ∈ xs := by
  induction entries generalizing xs with
  | nil => exact .inr h
  | cons e entries ih =>
    rcases ih h with h | h
    · exact .inl (List.mem_cons_of_mem e h)
    · rcases mem_put h with rfl | h
      · exact .inl List.mem_cons_self
      · exact .inr h

/-! ### Removing and changing -/

theorem erase?_eq_none_iff {k : κ} {xs : List α} : erase? k xs = none ↔ k ∉ xs.map key := by
  induction xs with
  | nil => simp [erase?]
  | cons x xs ih =>
    rw [erase?]
    by_cases h : key x = k
    · simp [h]
    · simp [h, Ne.symm h, ih]

theorem erase?_sublist {k : κ} {xs ys : List α} (h : erase? k xs = some ys) : ys.Sublist xs := by
  induction xs generalizing ys with
  | nil => cases h
  | cons x xs ih =>
    rw [erase?] at h
    split at h
    · obtain rfl := Option.some.inj h
      exact List.sublist_cons_self x xs
    · obtain ⟨zs, hzs, rfl⟩ := Option.map_eq_some_iff.1 h
      exact (ih hzs).cons_cons x

/-- With distinct keys, removing an entry keeps exactly those with other keys. -/
theorem eq_filter_of_erase? {k : κ} {xs ys : List α} (nodup : (xs.map key).Nodup)
    (h : erase? k xs = some ys) : ys = xs.filter (key · ≠ k) := by
  induction xs generalizing ys with
  | nil => cases h
  | cons x xs ih =>
    rw [List.map_cons, List.nodup_cons] at nodup
    rw [erase?] at h
    by_cases hx : key x = k
    · rw [if_pos hx] at h
      obtain rfl := Option.some.inj h
      rw [List.filter_cons_of_neg (by simpa using hx)]
      refine (List.filter_eq_self.2 fun y hy => ?_).symm
      have hne : key y ≠ k := fun hk => nodup.1 (hx.trans hk.symm ▸ List.mem_map_of_mem hy)
      simpa using hne
    · rw [if_neg hx] at h
      obtain ⟨zs, hzs, rfl⟩ := Option.map_eq_some_iff.1 h
      rw [List.filter_cons_of_pos (by simpa using hx), ih nodup.2 hzs]

theorem map_key_filter_ne (k : κ) (xs : List α) :
    (xs.filter (key · ≠ k)).map key = (xs.map key).filter (· ≠ k) := by
  rw [List.filter_map]
  rfl

theorem lookup?_filter_ne (k k' : κ) (xs : List α) :
    lookup? k' (xs.filter (key · ≠ k)) = if k' = k then none else lookup? k' xs := by
  induction xs with
  | nil => simp
  | cons x xs ih =>
    by_cases hx : key x = k
    · rw [List.filter_cons_of_neg (by simpa using hx), ih, lookup?_cons, hx]
      by_cases hk : k' = k
      · simp [hk]
      · simp [hk, Ne.symm hk]
    · rw [List.filter_cons_of_pos (by simpa using hx), lookup?_cons, lookup?_cons, ih]
      by_cases hk : key x = k'
      · rw [if_pos hk, if_pos hk, if_neg (hk ▸ hx)]
      · rw [if_neg hk, if_neg hk]

theorem mem_change {k : κ} {f : α → α} {x : α} {xs : List α} (h : x ∈ change k f xs) :
    x ∈ xs ∨ ∃ y ∈ xs, f y = x := by
  induction xs with
  | nil => cases h
  | cons y ys ih =>
    rw [change] at h
    split at h
    · rcases List.mem_cons.1 h with rfl | h
      · exact .inr ⟨y, List.mem_cons_self, rfl⟩
      · exact .inl (List.mem_cons_of_mem y h)
    · rcases List.mem_cons.1 h with rfl | h
      · exact .inl List.mem_cons_self
      · rcases ih h with h | ⟨z, hz, rfl⟩
        · exact .inl (List.mem_cons_of_mem y h)
        · exact .inr ⟨z, List.mem_cons_of_mem y hz, rfl⟩

section Change

variable {f : α → α} (h : ∀ a, key (f a) = key a)

include h

theorem map_key_change (k : κ) (xs : List α) : (change k f xs).map key = xs.map key := by
  induction xs with
  | nil => rfl
  | cons x xs ih =>
    rw [change]
    split
    · rw [List.map_cons, List.map_cons, h]
    · rw [List.map_cons, List.map_cons, ih]

theorem lookup?_change (k k' : κ) (xs : List α) :
    lookup? k' (change k f xs) = if k' = k then (lookup? k xs).map f else lookup? k' xs := by
  induction xs with
  | nil => simp [change]
  | cons x xs ih =>
    rw [change]
    by_cases hx : key x = k
    · rw [if_pos hx, lookup?_cons, lookup?_cons, lookup?_cons, h, hx]
      by_cases hk : k' = k
      · simp [hk]
      · simp [hk, Ne.symm hk]
    · rw [if_neg hx, lookup?_cons, lookup?_cons, lookup?_cons, ih, if_neg hx]
      by_cases hk : key x = k'
      · rw [if_pos hk, if_pos hk, if_neg (hk ▸ hx)]
      · rw [if_neg hk, if_neg hk]

end Change

/-! ### Putting in again -/

theorem put_eq_self {a : α} {xs : List α} (h : lookup? (key a) xs = some a) : put a xs = xs := by
  induction xs with
  | nil => cases h
  | cons x xs ih =>
    rw [lookup?_cons] at h
    rw [put]
    by_cases hx : key x = key a
    · rw [if_pos hx] at h ⊢
      rw [Option.some.inj h]
    · rw [if_neg hx] at h ⊢
      rw [ih h]

theorem put_put_of_eq {a b : α} (h : key a = key b) (xs : List α) :
    put b (put a xs) = put b xs := by
  induction xs with
  | nil => simp [put, h]
  | cons x xs ih =>
    by_cases hx : key x = key a
    · simp [put, hx, h]
    · have hx' : key x ≠ key b := fun hb => hx (hb.trans h.symm)
      simp [put, hx, hx', ih]

/-- Entries with different keys can be put in in any order, if one of the keys is there. -/
theorem put_put_comm {a b : α} (h : key a ≠ key b) {xs : List α} (there : key a ∈ xs.map key) :
    put b (put a xs) = put a (put b xs) := by
  induction xs with
  | nil => cases there
  | cons x xs ih =>
    by_cases hx : key x = key a
    · simp [put, hx, h]
    · have there : key a ∈ xs.map key :=
        (List.mem_cons.1 there).resolve_left (Ne.symm hx)
      by_cases hb : key x = key b
      · simp [put, hb, Ne.symm h]
      · simp [put, hx, hb, ih there]

/-- An entry makes no difference if another one is put in later under its key, which is there. -/
theorem foldl_put_put {a : α} {entries : List α} (later : key a ∈ entries.map key) {xs : List α}
    (there : key a ∈ xs.map key) :
    entries.foldl (fun es e => put e es) (put a xs) = entries.foldl (fun es e => put e es) xs := by
  induction entries generalizing xs with
  | nil => cases later
  | cons e entries ih =>
    rw [List.foldl_cons, List.foldl_cons]
    by_cases he : key a = key e
    · rw [put_put_of_eq he]
    · have later : key a ∈ entries.map key := (List.mem_cons.1 later).resolve_left he
      have there' : key a ∈ (put e xs).map key := by
        rw [map_key_put]
        split
        · exact there
        · exact List.mem_append_left _ there
      rw [put_put_comm he there, ih later there']

/-- Under each key stands what was put in last. -/
theorem lookup?_foldl_put (k : κ) (entries xs : List α) :
    lookup? k (entries.foldl (fun es e => put e es) xs) =
      (lookup? k entries.reverse).or (lookup? k xs) := by
  induction entries generalizing xs with
  | nil => simp
  | cons e entries ih =>
    rw [List.foldl_cons, ih, lookup?_put, List.reverse_cons, lookup?_append, lookup?_cons,
      lookup?_nil, Option.or_assoc]
    by_cases h : key e = k <;> simp [h]

theorem exists_lookup?_reverse {k : κ} {entries : List α} (h : k ∈ entries.map key) :
    ∃ a, lookup? k entries.reverse = some a := by
  refine Option.ne_none_iff_exists'.1 fun hnone => ?_
  rw [lookup?_eq_none_iff, List.map_reverse, List.mem_reverse] at hnone
  exact hnone h

/-- Nothing changes if each key has the value already that is put in last. -/
theorem foldl_put_eq_self {entries xs : List α}
    (h : ∀ k ∈ entries.map key, lookup? k xs = lookup? k entries.reverse) :
    entries.foldl (fun es e => put e es) xs = xs := by
  induction entries with
  | nil => rfl
  | cons e entries ih =>
    have hlast (k : κ) : lookup? k (e :: entries).reverse =
        (lookup? k entries.reverse).or (if key e = k then some e else none) := by
      rw [List.reverse_cons, lookup?_append, lookup?_cons, lookup?_nil]
    have rest : ∀ k ∈ entries.map key, lookup? k xs = lookup? k entries.reverse := by
      intro k hk
      obtain ⟨a, ha⟩ := exists_lookup?_reverse hk
      rw [h k (List.mem_cons_of_mem _ hk), hlast, ha, Option.some_or]
    have hkey := h (key e) List.mem_cons_self
    rw [hlast, if_pos rfl] at hkey
    rw [List.foldl_cons]
    by_cases later : key e ∈ entries.map key
    · have there : key e ∈ xs.map key := by
        refine Classical.not_not.1 fun hnone => ?_
        rw [lookup?_eq_none_iff.2 hnone] at hkey
        simp at hkey
      rw [foldl_put_put later there, ih rest]
    · have hnone : lookup? (key e) entries.reverse = none := by
        rw [lookup?_eq_none_iff, List.map_reverse, List.mem_reverse]
        exact later
      rw [hnone, Option.none_or] at hkey
      rw [put_eq_self hkey, ih rest]

/-- Putting the same entries in once more changes nothing, whichever of them have keys in common. -/
theorem foldl_put_foldl_put (entries xs : List α) :
    entries.foldl (fun es e => put e es) (entries.foldl (fun es e => put e es) xs) =
      entries.foldl (fun es e => put e es) xs := by
  refine foldl_put_eq_self fun k hk => ?_
  obtain ⟨a, ha⟩ := exists_lookup?_reverse hk
  rw [lookup?_foldl_put, ha, Option.some_or]

end Entries

namespace Collection

theorem get?_insert (c : Collection α) (a : α) (k : κ) :
    (c.insert a).get? k = if key a = k then some a else c.get? k := lookup?_put k a c.toList

theorem get?_insertNew (c : Collection α) (a : α) (k : κ) :
    (c.insertNew a).get? k = (c.get? k).or (if key a = k then some a else none) := by
  unfold insertNew
  split
  · next h =>
    by_cases hk : key a = k
    · subst hk
      obtain ⟨x, hx⟩ := Option.isSome_iff_exists.1 h
      rw [hx, Option.some_or]
    · rw [if_neg hk, Option.or_none]
  · exact (lookup?_append k c.toList [a]).trans rfl

theorem get?_eq_none_iff {c : Collection α} {k : κ} : c.get? k = none ↔ k ∉ c.keys :=
  lookup?_eq_none_iff

theorem get?_of_mem {c : Collection α} (nodup : c.keys.Nodup) {a : α} (h : a ∈ c.toList) :
    c.get? (key a) = some a := lookup?_of_mem nodup h

theorem contains_iff {c : Collection α} {k : κ} : c.contains k ↔ k ∈ c.keys := by
  rw [contains, Option.isSome_iff_ne_none, ne_eq, get?_eq_none_iff, Classical.not_not]

theorem erase?_eq_none_iff {c : Collection α} {k : κ} : c.erase? k = none ↔ k ∉ c.keys := by
  rw [erase?, Option.map_eq_none_iff]
  exact ContractProject.erase?_eq_none_iff

/-- An entry whose key is there is removed with it, and no other one. -/
theorem erase?_of_mem {c : Collection α} (nodup : c.keys.Nodup) {k : κ} (h : k ∈ c.keys) :
    c.erase? k = some ⟨c.toList.filter (key · ≠ k)⟩ := by
  cases herase : ContractProject.erase? k c.toList with
  | none => exact absurd h (ContractProject.erase?_eq_none_iff.1 herase)
  | some rest => rw [erase?, herase, Option.map_some, eq_filter_of_erase? nodup herase]

theorem toList_foldl_insert (entries : List α) (c : Collection α) :
    (entries.foldl insert c).toList = entries.foldl (fun es e => put e es) c.toList := by
  induction entries generalizing c with
  | nil => rfl
  | cons e entries ih => exact ih (c.insert e)

/-- Putting the same entries in once more changes nothing. -/
theorem foldl_insert_foldl_insert (entries : List α) (c : Collection α) :
    entries.foldl insert (entries.foldl insert c) = entries.foldl insert c := by
  have h := foldl_put_foldl_put entries c.toList
  rw [← toList_foldl_insert, ← toList_foldl_insert] at h
  exact congrArg Collection.mk h

theorem nodup_keys_ofList (entries : List α) : (ofList entries).keys.Nodup := by
  rw [ofList, keys, toList_foldl_insert]
  exact nodup_foldl_put entries List.nodup_nil

/-- A collection of entries with distinct keys holds these entries. -/
theorem ofList_of_nodup {entries : List α} (h : (entries.map key).Nodup) :
    ofList entries = ⟨entries⟩ := by
  have htoList := toList_foldl_insert entries empty
  exact congrArg Collection.mk (htoList.trans (foldl_put_nil_of_nodup h))

theorem mem_keys_insert {c : Collection α} {a : α} {k : κ} :
    k ∈ (c.insert a).keys ↔ k = key a ∨ k ∈ c.keys := by
  rw [← contains_iff, ← contains_iff, contains, contains, get?_insert]
  by_cases h : key a = k
  · simp [h]
  · simp [h, Ne.symm h]

theorem mem_keys_insertNew {c : Collection α} {a : α} {k : κ} :
    k ∈ (c.insertNew a).keys ↔ k = key a ∨ k ∈ c.keys := by
  unfold insertNew
  by_cases h : c.contains (key a)
  · rw [if_pos h]
    rw [contains_iff] at h
    exact ⟨.inr, fun hk => hk.elim (fun he => he ▸ h) id⟩
  · rw [if_neg h]
    simp [keys, or_comm]

theorem nodup_keys_insertNew {c : Collection α} (h : c.keys.Nodup) (a : α) :
    (c.insertNew a).keys.Nodup := by
  unfold insertNew
  split
  · exact h
  · next hnew =>
    rw [contains_iff] at hnew
    rw [keys, List.map_append]
    exact List.nodup_append.2 ⟨h, by simp, fun k hk k' hk' => by
      rintro rfl
      rw [List.mem_singleton.1 hk'] at hk
      exact hnew hk⟩

theorem mem_insertNew {c : Collection α} {a x : α} (h : x ∈ (c.insertNew a).toList) :
    x = a ∨ x ∈ c.toList := by
  unfold insertNew at h
  split at h
  · exact .inr h
  · rcases List.mem_append.1 h with h | h
    · exact .inr h
    · exact .inl (List.mem_singleton.1 h)

theorem mem_keys_foldl_insert {entries : List α} {c : Collection α} {k : κ} :
    k ∈ (entries.foldl insert c).keys ↔ k ∈ entries.map key ∨ k ∈ c.keys := by
  induction entries generalizing c with
  | nil => simp
  | cons e entries ih => simp [ih, mem_keys_insert, or_left_comm, or_assoc]

theorem mem_keys_ofList {entries : List α} {k : κ} :
    k ∈ (ofList entries).keys ↔ k ∈ entries.map key := by
  rw [ofList, mem_keys_foldl_insert]
  simp [empty, keys]

theorem mem_ofList {entries : List α} {x : α} (h : x ∈ (ofList entries).toList) : x ∈ entries := by
  rw [ofList, toList_foldl_insert] at h
  exact (mem_foldl_put entries h).resolve_right (by simp [empty])

end Collection

end ContractProject
