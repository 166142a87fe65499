import ContractProject.Text.Span
import ContractProject.Text.Utf8
import Mathlib.Tactic

/-!
UTF-8 back and forth: what is encoded is decoded again, strictly and loosely.
-/

namespace ContractProject.Utf8

theorem encode_append (a b : List Char) : encode (a ++ b) = encode a ++ encode b :=
  List.flatMap_append

theorem length_encode (text : List Char) : (encode text).length = Text.byteLength text := by
  induction text with
  | nil => rfl
  | cons c text ih => simpa [encode, Text.byteLength] using ih

theorem toNat_ofNat {n : Nat} (h : n < 256) : (UInt8.ofNat n).toNat = n :=
  UInt8.toNat_ofNat_of_lt' h

theorem isContinuation_iff {b : UInt8} :
    isContinuation b ↔ 0x80 ≤ b.toNat ∧ b.toNat ≤ 0xBF := by
  simp [isContinuation, UInt8.le_iff_toNat_le]

/-- The low six bits of a value make a continuation byte. -/
theorem isContinuation_ofNat (n : Nat) : isContinuation (UInt8.ofNat (n % 64 + 128)) := by
  rw [isContinuation_iff, toNat_ofNat (by omega)]
  omega

/-- A character is no surrogate. -/
theorem toNat_range (c : Char) : c.toNat < 0xD800 ∨ 0xDFFF < c.toNat ∧ c.toNat < 0x110000 := c.valid

/-- Without overlong forms and surrogates the second byte is as it has to be. -/
theorem isSecondOfThree_ofNat {n : Nat} (low : 2047 < n) (high : n ≤ 65535)
    (valid : n < 0xD800 ∨ 0xDFFF < n) :
    isSecondOfThree (UInt8.ofNat (n / 4096 % 16 + 224)) (UInt8.ofNat (n / 64 % 64 + 128)) := by
  have hb : (UInt8.ofNat (n / 4096 % 16 + 224)).toNat = n / 4096 % 16 + 224 :=
    toNat_ofNat (by omega)
  unfold isSecondOfThree
  simp only [← UInt8.toNat_inj, hb]
  split
  · simp [UInt8.le_iff_toNat_le] at *
    omega
  · split
    · simp [UInt8.le_iff_toNat_le] at *
      omega
    · exact isContinuation_ofNat _

theorem isSecondOfFour_ofNat {n : Nat} (low : 65535 < n) (high : n < 0x110000) :
    isSecondOfFour (UInt8.ofNat (n / 262144 % 8 + 240)) (UInt8.ofNat (n / 4096 % 64 + 128)) := by
  have hb : (UInt8.ofNat (n / 262144 % 8 + 240)).toNat = n / 262144 % 8 + 240 :=
    toNat_ofNat (by omega)
  unfold isSecondOfFour
  simp only [← UInt8.toNat_inj, hb]
  split
  · simp [UInt8.le_iff_toNat_le] at *
    omega
  · split
    · simp [UInt8.le_iff_toNat_le] at *
      omega
    · exact isContinuation_ofNat _

theorem leadOfTwo_encode {c : Char} (high : c.toNat ≤ 2047) (rest : Bytes) :
    leadOfTwo (UInt8.ofNat (c.toNat / 64 % 32 + 192)) (UInt8.ofNat (c.toNat % 64 + 128) :: rest) =
      .char c rest := by
  have hvalue : (c.toNat / 64 % 32 + 192 - 192) * 64 + (c.toNat % 64 + 128 - 128) = c.toNat := by
    omega
  simp only [leadOfTwo, if_pos (isContinuation_ofNat _), scalar, List.foldl_cons, List.foldl_nil]
  rw [toNat_ofNat (by omega), toNat_ofNat (by omega), hvalue, Char.ofNat_toNat]

theorem leadOfThree_encode {c : Char} (low : 2047 < c.toNat) (high : c.toNat ≤ 65535)
    (rest : Bytes) :
    leadOfThree (UInt8.ofNat (c.toNat / 4096 % 16 + 224))
      (UInt8.ofNat (c.toNat / 64 % 64 + 128) :: UInt8.ofNat (c.toNat % 64 + 128) :: rest) =
      .char c rest := by
  have hsecond := isSecondOfThree_ofNat low high ((toNat_range c).imp_right And.left)
  have hvalue : ((c.toNat / 4096 % 16 + 224 - 224) * 64 + (c.toNat / 64 % 64 + 128 - 128)) * 64 +
      (c.toNat % 64 + 128 - 128) = c.toNat := by omega
  simp only [leadOfThree, if_pos hsecond, if_pos (isContinuation_ofNat _), scalar, List.foldl_cons,
    List.foldl_nil]
  rw [toNat_ofNat (by omega), toNat_ofNat (by omega), toNat_ofNat (by omega), hvalue,
    Char.ofNat_toNat]

theorem leadOfFour_encode {c : Char} (low : 65535 < c.toNat) (rest : Bytes) :
    leadOfFour (UInt8.ofNat (c.toNat / 262144 % 8 + 240))
      (UInt8.ofNat (c.toNat / 4096 % 64 + 128) :: UInt8.ofNat (c.toNat / 64 % 64 + 128) ::
        UInt8.ofNat (c.toNat % 64 + 128) :: rest) = .char c rest := by
  have high : c.toNat < 0x110000 := by
    have := toNat_range c
    omega
  have hsecond := isSecondOfFour_ofNat low high
  have hvalue : (((c.toNat / 262144 % 8 + 240 - 240) * 64 + (c.toNat / 4096 % 64 + 128 - 128)) *
      64 + (c.toNat / 64 % 64 + 128 - 128)) * 64 + (c.toNat % 64 + 128 - 128) = c.toNat := by
    omega
  simp only [leadOfFour, if_pos hsecond, if_pos (isContinuation_ofNat _), scalar, List.foldl_cons,
    List.foldl_nil]
  rw [toNat_ofNat (by omega), toNat_ofNat (by omega), toNat_ofNat (by omega),
    toNat_ofNat (by omega), hvalue, Char.ofNat_toNat]

/-! ### The first byte -/

theorem lead_one {c : Char} (high : c.toNat ≤ 127) (rest : Bytes) :
    lead (UInt8.ofNat c.toNat) rest = .char c rest := by
  have hb : (UInt8.ofNat c.toNat).toNat = c.toNat := toNat_ofNat (by omega)
  rw [lead, if_pos, hb, Char.ofNat_toNat]
  rw [UInt8.lt_iff_toNat_lt, hb]
  exact Nat.lt_succ_of_le high

theorem lead_two {n : Nat} (low : 127 < n) (high : n ≤ 2047) (rest : Bytes) :
    lead (UInt8.ofNat (n / 64 % 32 + 192)) rest =
      leadOfTwo (UInt8.ofNat (n / 64 % 32 + 192)) rest := by
  rw [lead, if_neg, if_pos]
  · simp [UInt8.le_iff_toNat_le]
    omega
  · simp [UInt8.lt_iff_toNat_lt]
    omega

theorem lead_three (n : Nat) (rest : Bytes) :
    lead (UInt8.ofNat (n / 4096 % 16 + 224)) rest =
      leadOfThree (UInt8.ofNat (n / 4096 % 16 + 224)) rest := by
  rw [lead, if_neg, if_neg, if_pos]
  · simp [UInt8.le_iff_toNat_le]
    omega
  · simp [UInt8.le_iff_toNat_le]
    omega
  · simp [UInt8.lt_iff_toNat_lt]
    omega

theorem lead_four {n : Nat} (high : n < 0x110000) (rest : Bytes) :
    lead (UInt8.ofNat (n / 262144 % 8 + 240)) rest =
      leadOfFour (UInt8.ofNat (n / 262144 % 8 + 240)) rest := by
  rw [lead, if_neg, if_neg, if_neg, if_pos]
  · simp [UInt8.le_iff_toNat_le]
    omega
  · simp [UInt8.le_iff_toNat_le]
    omega
  · simp [UInt8.le_iff_toNat_le]
    omega
  · simp [UInt8.lt_iff_toNat_lt]
    omega

/-- The bytes of a character lead to it. -/
theorem exists_lead_encode (c : Char) (rest : Bytes) : ∃ b bs,
    String.utf8EncodeChar c = b :: bs ∧ lead b (bs ++ rest) = .char c rest := by
  have hc : c.val.toNat = c.toNat := rfl
  unfold String.utf8EncodeChar
  simp only [hc]
  -- one case for each number of bytes
  by_cases h1 : c.toNat ≤ 127
  · exact ⟨_, _, if_pos h1, lead_one h1 rest⟩
  by_cases h2 : c.toNat ≤ 2047
  · refine ⟨_, _, by rw [if_neg h1, if_pos h2], ?_⟩
    exact (lead_two (by omega) h2 _).trans (leadOfTwo_encode h2 rest)
  by_cases h3 : c.toNat ≤ 65535
  · refine ⟨_, _, by rw [if_neg h1, if_neg h2, if_pos h3], ?_⟩
    exact (lead_three _ _).trans (leadOfThree_encode (by omega) h3 rest)
  · refine ⟨_, _, by rw [if_neg h1, if_neg h2, if_neg h3], ?_⟩
    have high : c.toNat < 0x110000 := by
      have := toNat_range c
      omega
    exact (lead_four high _).trans (leadOfFour_encode (by omega) rest)

/-! ### Texts -/

theorem exists_encode_cons (c : Char) (text : List Char) : ∃ b bs,
    encode (c :: text) = b :: bs ∧ lead b bs = .char c (encode text) := by
  obtain ⟨b, bs, hbytes, hlead⟩ := exists_lead_encode c (encode text)
  exact ⟨b, bs ++ encode text, by simp only [encode, List.flatMap_cons, hbytes, List.cons_append],
    hlead⟩

theorem decodeFrom_encode (index : Nat) (text : List Char) :
    decodeFrom index (encode text) = .ok text := by
  induction text generalizing index with
  | nil => simp [encode, decodeFrom]
  | cons c text ih =>
    obtain ⟨b, bs, hbytes, hlead⟩ := exists_encode_cons c text
    rw [hbytes, decodeFrom]
    split
    · next hl =>
      obtain ⟨rfl, rfl⟩ := Lead.char.inj (hlead.symm.trans hl)
      simp [ih, Except.map]
    · next hl => cases hlead.symm.trans hl
    · next hl => cases hlead.symm.trans hl

/-- What is encoded is decoded again. -/
@[simp] theorem decode_encode (text : List Char) : decode (encode text) = .ok text :=
  decodeFrom_encode 0 text

/-- What is encoded is decoded loosely without gaps. -/
@[simp] theorem decodeLoose_encode (text : List Char) :
    decodeLoose (encode text) = text.map some := by
  induction text with
  | nil => simp [encode, decodeLoose]
  | cons c text ih =>
    obtain ⟨b, bs, hbytes, hlead⟩ := exists_encode_cons c text
    rw [hbytes, decodeLoose]
    split
    · next hl =>
      obtain ⟨rfl, rfl⟩ := Lead.char.inj (hlead.symm.trans hl)
      simp [ih]
    · next hl => cases hlead.symm.trans hl
    · next hl => cases hlead.symm.trans hl

end ContractProject.Utf8
