import ContractProject.Address
import ContractProject.Proofs.Result
import ContractProject.Proofs.Text.Letter
import ContractProject.Proofs.Text.Span
import ContractProject.Proofs.Text.Utf8

/-!
The digits of an address and its literal are read back as that address, and with more digits behind
it, a literal is none.
-/

namespace ContractProject

namespace Hex

def digitByte (n : Nat) : UInt8 := UInt8.ofNat (digit n).toNat

theorem utf8EncodeChar_digit : ∀ n < 16, String.utf8EncodeChar (digit n) = [digitByte n] := by
  decide

theorem value?_digitByte : ∀ n < 16, value? (Char.ofNat (digitByte n).toNat) = some n := by
  decide

theorem encode_digit {n : Nat} (h : n < 16) : Utf8.encode [digit n] = [digitByte n] := by
  simpa [Utf8.encode] using utf8EncodeChar_digit n h

theorem digit_isAsciiAlphanumeric : ∀ n < 16, Text.isAsciiAlphanumeric (digit n) := by
  decide

theorem digit_ne_x : ∀ n < 16, digit n ≠ 'x' := by decide

theorem digit_ne_X : ∀ n < 16, digit n ≠ 'X' := by decide

theorem length_digits (width n : Nat) : (digits width n).length = width := by
  induction width generalizing n with
  | zero => rfl
  | succ width ih => simp [digits, ih]

theorem exists_digit_of_mem {width n : Nat} {c : Char} (h : c ∈ digits width n) :
    ∃ d < 16, digit d = c := by
  induction width generalizing n with
  | zero => simp [digits] at h
  | succ width ih =>
    rcases List.mem_append.1 h with h | h
    · exact ih h
    · exact ⟨n % 16, Nat.mod_lt n (by decide), (List.mem_singleton.1 h).symm⟩

theorem digits_isAsciiAlphanumeric (width n : Nat) :
    ∀ c ∈ digits width n, Text.isAsciiAlphanumeric c := by
  intro c hc
  obtain ⟨d, hd, rfl⟩ := exists_digit_of_mem hc
  exact digit_isAsciiAlphanumeric d hd

theorem length_encode_digits (width n : Nat) :
    (Utf8.encode (digits width n)).length = width := by
  induction width generalizing n with
  | zero => rfl
  | succ width ih =>
    rw [digits, Utf8.encode_append, List.length_append, ih, encode_digit (Nat.mod_lt n (by decide)),
      List.length_singleton]

end Hex

namespace Address

/-- Digits are read in base sixteen. -/
theorem ofDigitBytes_digits (width m position n : Nat) (rest : Bytes) :
    ofDigitBytes position n (Utf8.encode (Hex.digits width m) ++ rest) =
      ofDigitBytes (position + width) (n * 16 ^ width + m % 16 ^ width) rest := by
  -- the last digit is written behind the others, and read after them
  induction width generalizing m rest with
  | zero => simp [Hex.digits, Utf8.encode, Nat.mod_one]
  | succ width ih =>
    have hlt : m % 16 < 16 := Nat.mod_lt m (by decide)
    have hm : m % 16 ^ (width + 1) = m % 16 + 16 * (m / 16 % 16 ^ width) := by
      rw [Nat.pow_succ, Nat.mul_comm, Nat.mod_mul]
    have hn : (n * 16 ^ width + m / 16 % 16 ^ width) * 16 + m % 16 =
        n * 16 ^ (width + 1) + m % 16 ^ (width + 1) := by
      rw [hm, Nat.pow_succ]
      ring
    rw [Hex.digits, Utf8.encode_append, List.append_assoc, ih, Hex.encode_digit hlt,
      List.singleton_append, ofDigitBytes, Hex.value?_digitByte _ hlt]
    simp only [hn, Nat.add_assoc]

theorem trim_eq_self {text : List Char} (h : ∀ c ∈ text, Text.isBlank c = false) :
    Text.trim text = text := by
  have drop (t : List Char) (ht : ∀ c ∈ t, Text.isBlank c = false) :
      t.dropWhile Text.isBlank = t := by
    cases t with
    | nil => rfl
    | cons c t => rw [List.dropWhile_cons_of_neg (by simp [ht c])]
  rw [Text.trim, drop text h, drop _ (by simpa using h), List.reverse_reverse]

theorem parse_literal {digits : List Char} (h : ∀ c ∈ digits, Text.isBlank c = false) :
    parse (String.ofList ('0' :: 'x' :: digits)) = ofPadded digits := by
  have hb : ∀ c ∈ '0' :: 'x' :: digits, Text.isBlank c = false := by
    have h0 : Text.isBlank '0' = false := by decide
    have hx : Text.isBlank 'x' = false := by decide
    simpa [h0, hx] using h
  rw [parse, String.toList_ofList, trim_eq_self hb]
  rfl

theorem digits_not_isBlank (a : Address) : ∀ c ∈ Hex.digits 16 a.toNat, Text.isBlank c = false :=
  fun c hc => Text.not_isBlank_of_isAsciiAlphanumeric (Hex.digits_isAsciiAlphanumeric _ _ c hc)

theorem ofPadded_digits (a : Address) : ofPadded (Hex.digits 16 a.toNat) = .ok a := by
  have hlen := Hex.length_digits 16 a.toNat
  have hbytes := Hex.length_encode_digits 16 a.toNat
  have hne : (Hex.digits 16 a.toNat).isEmpty = false := by
    rw [List.isEmpty_eq_false_iff, ← List.length_pos_iff]
    omega
  have hvalue := ofDigitBytes_digits 16 a.toNat 0 0 []
  rw [List.append_nil] at hvalue
  have hmod : a.toNat % 16 ^ 16 = a.toNat := Nat.mod_eq_of_lt a.value.isLt
  rw [ofPadded, if_neg (by simp [hne]), if_neg (by omega), hlen]
  simp only [Nat.sub_self, List.replicate_zero, List.nil_append, hbytes, hvalue, hmod]
  simp [ofDigitBytes, ofNat, toNat]

/-- An address is read back from its literal. -/
theorem parse_toLiteral (a : Address) : parse a.toLiteral = .ok a := by
  have hlit : a.toLiteral = String.ofList ('0' :: 'x' :: Hex.digits 16 a.toNat) := by
    rw [toLiteral, toHex, ← String.toList_inj]
    simp
  rw [hlit, parse_literal a.digits_not_isBlank, ofPadded_digits]

theorem unprefixed_digits (width n : Nat) :
    unprefixed (Hex.digits width n) = Hex.digits width n := by
  have hx : 'x' ∉ Hex.digits width n := fun h => by
    obtain ⟨d, hd, he⟩ := Hex.exists_digit_of_mem h
    exact Hex.digit_ne_x d hd he
  have hX : 'X' ∉ Hex.digits width n := fun h => by
    obtain ⟨d, hd, he⟩ := Hex.exists_digit_of_mem h
    exact Hex.digit_ne_X d hd he
  unfold unprefixed
  split
  · next h => exact absurd (h ▸ by simp) hx
  · next h => exact absurd (h ▸ by simp) hX
  · rfl

/-- An address is read back from its digits alone. -/
theorem parse_toHex (a : Address) : parse a.toHex = .ok a := by
  rw [parse, toHex, String.toList_ofList, trim_eq_self a.digits_not_isBlank, unprefixed_digits,
    ofPadded_digits]

/-- More digits than an address has make no address. -/
theorem parse_long_literal {digits : List Char} (h : ∀ c ∈ digits, Text.isBlank c = false)
    (long : 16 < digits.length) :
    parse (String.ofList ('0' :: 'x' :: digits)) = .error .tooLong := by
  have hlen : digits.length ≤ (Utf8.encode digits).length := by
    rw [Utf8.length_encode]
    exact Text.length_le_byteLength digits
  have hne : digits.isEmpty = false := by
    rw [List.isEmpty_eq_false_iff, ← List.length_pos_iff]
    omega
  rw [parse_literal h, ofPadded, if_neg (by simp [hne]), if_pos (by omega)]

end Address

end ContractProject
