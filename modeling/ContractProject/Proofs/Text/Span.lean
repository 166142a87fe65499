import ContractProject.Text.Span

/-!
Cutting and splicing a text that is known as a concatenation: the cuts fall between its parts.
-/

namespace ContractProject.Text

@[simp] theorem byteLength_nil : byteLength [] = 0 := rfl

@[simp] theorem byteLength_cons (c : Char) (text : List Char) :
    byteLength (c :: text) = c.utf8Size + byteLength text := rfl

@[simp] theorem byteLength_append (a b : List Char) :
    byteLength (a ++ b) = byteLength a + byteLength b := by
  induction a with
  | nil => simp
  | cons c a ih => simp [ih, Nat.add_assoc]

theorem length_le_byteLength (text : List Char) : text.length ≤ byteLength text := by
  induction text with
  | nil => simp
  | cons c text ih =>
    have := c.utf8Size_pos
    simp only [List.length_cons, byteLength_cons]
    omega

theorem splitAtByte_zero (text : List Char) : splitAtByte 0 text = ([], text) := by
  cases text with
  | nil => rfl
  | cons c text =>
    have := c.utf8Size_pos
    rw [splitAtByte, if_neg (by omega)]

@[simp] theorem splitAtByte_append (a b : List Char) :
    splitAtByte (byteLength a) (a ++ b) = (a, b) := by
  induction a with
  | nil => exact splitAtByte_zero b
  | cons c a ih => simp [splitAtByte, ih]

/-- The span cuts a stretch out of the text, between characters. -/
def Span.Fits (span : Span) (text : List Char) : Prop :=
  ∃ before inside after, text = before ++ (inside ++ after) ∧
    span = ⟨byteLength before, byteLength before + byteLength inside⟩

theorem fits_append (a b c : List Char) :
    Span.Fits ⟨byteLength a, byteLength a + byteLength b⟩ (a ++ (b ++ c)) :=
  ⟨a, b, c, rfl, rfl⟩

/-- The bytes between those of `a` and those of `c` are `b`. -/
theorem slice_append (a b c : List Char) :
    slice ⟨byteLength a, byteLength a + byteLength b⟩ (a ++ (b ++ c)) = b := by
  simp [slice]

/-- An edit of the bytes after `a` keeps `a` and goes on after what it replaces. -/
theorem spliceFrom_edit (position : Nat) (a old rest new : List Char) (edits : List Edit) :
    spliceFrom position (a ++ (old ++ rest))
        (⟨⟨position + byteLength a, position + byteLength a + byteLength old⟩, new⟩ :: edits) =
      a ++ new ++ spliceFrom (position + byteLength a + byteLength old) rest edits := by
  simp [spliceFrom]

theorem splice_insert (a b text : List Char) :
    splice (a ++ b) [⟨⟨byteLength a, byteLength a⟩, text⟩] = a ++ (text ++ b) := by
  simpa [splice, spliceFrom] using spliceFrom_edit 0 a [] b text []

end ContractProject.Text
