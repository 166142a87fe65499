import ContractProject.Proofs.Address
import Mathlib.Data.Nat.Digits.Defs

/-!
Which texts are addresses, and which: one to sixteen hexadecimal digits in either case, after one
`0x` or `0X` or neither, with blanks around. The bytes of an address are the big-endian digits of
its value, so their order is that of the values.
-/

namespace ContractProject

/-- What digits in a base come to, the most significant first. -/
def bigEndian (base : Nat) (digits : List Nat) : Nat := Nat.ofDigits base digits.reverse

theorem bigEndian_nil (base : Nat) : bigEndian base [] = 0 := rfl

theorem bigEndian_cons (base digit : Nat) (digits : List Nat) :
    bigEndian base (digit :: digits) = digit * base ^ digits.length + bigEndian base digits := by
  rw [bigEndian, List.reverse_cons, Nat.ofDigits_append, Nat.ofDigits_singleton,
    List.length_reverse, Nat.mul_comm, Nat.add_comm]
  rfl

theorem bigEndian_lt {base : Nat} (hbase : 1 < base) {digits : List Nat}
    (h : ∀ d ∈ digits, d < base) : bigEndian base digits < base ^ digits.length := by
  have := Nat.ofDigits_lt_base_pow_length hbase (l := digits.reverse) (by simpa using h)
  rwa [List.length_reverse] at this

/-- Of digits that are as many, those that come first alphabetically come to less. -/
theorem bigEndian_lt_iff {base : Nat} (hbase : 1 < base) {a b : List Nat}
    (ha : ∀ d ∈ a, d < base) (hb : ∀ d ∈ b, d < base) (length : a.length = b.length) :
    bigEndian base a < bigEndian base b ↔ List.Lex (· < ·) a b := by
  induction a generalizing b with
  | nil =>
    obtain rfl := List.length_eq_zero_iff.1 length.symm
    simp
  | cons x a ih =>
    obtain ⟨y, b, rfl⟩ := List.exists_cons_of_length_eq_add_one length.symm
    rw [List.forall_mem_cons] at ha hb
    have hlength : a.length = b.length := Nat.succ.inj length
    have hxa := bigEndian_lt hbase ha.2
    have hyb := bigEndian_lt hbase hb.2
    rw [bigEndian_cons, bigEndian_cons, List.cons_lex_cons_iff, ← ih ha.2 hb.2 hlength, hlength]
    rw [hlength] at hxa
    -- the first digits decide, unless they are equal: what follows is less than one of them more
    rcases Nat.lt_trichotomy x y with h | rfl | h
    · have hstep := Nat.mul_le_mul_right (base ^ b.length) (Nat.succ_le_of_lt h)
      rw [Nat.succ_mul] at hstep
      simp only [h, true_or, iff_true]
      omega
    · simp
    · have hstep := Nat.mul_le_mul_right (base ^ b.length) (Nat.succ_le_of_lt h)
      rw [Nat.succ_mul] at hstep
      have hne : x ≠ y := by omega
      simp only [Nat.lt_asymm h, hne, false_and, or_false, iff_false]
      omega

namespace Hex

/-- The digits by value. -/
def numerals : List Char :=
  ['0', '1', '2', '3', '4', '5', '6', '7', '8', '9', 'a', 'b', 'c', 'd', 'e', 'f']

def IsNumeral (c : Char) : Prop := c.toLower ∈ numerals

instance : DecidablePred IsNumeral := fun c => inferInstanceAs (Decidable (c.toLower ∈ numerals))

def numeralValue (c : Char) : Nat := numerals.idxOf c.toLower

theorem value?_of_ascii : ∀ n < 128, value? (Char.ofNat n) =
    if IsNumeral (Char.ofNat n) then some (numeralValue (Char.ofNat n)) else none := by
  decide +kernel

theorem lt_of_mem_numerals : ∀ c ∈ numerals, c.toNat < 128 := by simp [numerals]

theorem IsNumeral.lt {c : Char} (h : IsNumeral c) : c.toNat < 128 := by
  by_contra hlarge
  have hlower : c.toLower = c := by
    refine dif_neg ?_
    rintro ⟨-, hz⟩
    have : c.toNat ≤ 'Z'.toNat := hz
    simp at this
    omega
  have := lt_of_mem_numerals c (by rwa [IsNumeral, hlower] at h)
  omega

theorem IsNumeral.value_lt {c : Char} (h : IsNumeral c) : numeralValue c < 16 :=
  List.idxOf_lt_length_of_mem h

theorem IsNumeral.not_isBlank {c : Char} (h : IsNumeral c) : Text.isBlank c = false := by
  have hgraphic : ∀ n < 128, IsNumeral (Char.ofNat n) → Text.isBlank (Char.ofNat n) = false := by
    decide +kernel
  have := hgraphic c.toNat h.lt
  rw [Char.ofNat_toNat] at this
  exact this h

end Hex

namespace Utf8

theorem utf8EncodeChar_of_lt {c : Char} (h : c.toNat < 128) :
    String.utf8EncodeChar c = [UInt8.ofNat c.toNat] :=
  if_pos (Nat.le_of_lt_succ h)

/-- A text of as many bytes as characters is ASCII. -/
theorem lt_of_byteLength_eq {text : List Char} (h : Text.byteLength text = text.length) :
    ∀ c ∈ text, c.toNat < 128 := by
  induction text with
  | nil => simp
  | cons c text ih =>
    have hpos := c.utf8Size_pos
    have hrest := Text.length_le_byteLength text
    rw [Text.byteLength_cons, List.length_cons] at h
    have hone : c.utf8Size = 1 := by omega
    refine List.forall_mem_cons.2 ⟨?_, ih (by omega)⟩
    have hle : c.toNat ≤ 127 := Char.utf8Size_eq_one_iff.1 hone
    omega

theorem byteLength_of_lt {text : List Char} (h : ∀ c ∈ text, c.toNat < 128) :
    Text.byteLength text = text.length := by
  induction text with
  | nil => rfl
  | cons c text ih =>
    rw [List.forall_mem_cons] at h
    have hone : c.utf8Size = 1 := Char.utf8Size_eq_one_iff.2 (Nat.le_of_lt_succ h.1)
    rw [Text.byteLength_cons, List.length_cons, ih h.2, hone, Nat.add_comm]

end Utf8

namespace Text

/-- What trimming takes off is blank. -/
theorem exists_trim (text : List Char) : ∃ before after, text = before ++ trim text ++ after ∧
    (∀ c ∈ before, isBlank c) ∧ ∀ c ∈ after, isBlank c := by
  refine ⟨text.takeWhile isBlank, ((text.dropWhile isBlank).reverse.takeWhile isBlank).reverse,
    ?_, ?_, ?_⟩
  · rw [trim, List.append_assoc, ← List.reverse_append, List.takeWhile_append_dropWhile,
      List.reverse_reverse, List.takeWhile_append_dropWhile]
  · exact fun c hc => List.all_eq_true.1 List.all_takeWhile c hc
  · exact fun c hc => List.all_eq_true.1 List.all_takeWhile c (List.mem_reverse.1 hc)

/-- Blanks around a text are taken off it. -/
theorem trim_append {before text after : List Char} (hbefore : ∀ c ∈ before, isBlank c)
    (hafter : ∀ c ∈ after, isBlank c) (hne : text ≠ []) (h : ∀ c ∈ text, isBlank c = false) :
    trim (before ++ text ++ after) = text := by
  have hstays (t rest : List Char) (hne : t ≠ []) (ht : ∀ c ∈ t, isBlank c = false) :
      (t ++ rest).dropWhile isBlank = t ++ rest := by
    obtain ⟨c, t, rfl⟩ := List.exists_cons_of_ne_nil hne
    rw [List.cons_append, List.dropWhile_cons_of_neg (by simp [ht c])]
  have hback := hstays text.reverse [] (by simpa using hne) (by simpa using h)
  rw [List.append_nil] at hback
  rw [trim, List.append_assoc, List.dropWhile_append_of_pos hbefore, hstays _ _ hne h,
    List.reverse_append, List.dropWhile_append_of_pos (by simpa using hafter), hback,
    List.reverse_reverse]

end Text

namespace Address

theorem length_bytes (a : Address) : a.bytes.length = 8 := by simp [bytes]

/-- The bytes are those of the value. -/
theorem bigEndian_bytes (a : Address) : bigEndian 256 (a.bytes.map UInt8.toNat) = a.toNat := by
  have hlt : a.toNat < 2 ^ 64 := a.value.isLt
  simp [bytes, List.range_succ, bigEndian_cons, bigEndian_nil, Nat.shiftRight_eq_div_pow]
  omega

theorem toNat_ofNat {n : Nat} (h : n < 2 ^ 64) : (ofNat n).toNat = n := Nat.mod_eq_of_lt h

theorem toNat_injective {a b : Address} (h : a.toNat = b.toNat) : a = b :=
  congrArg Address.mk (Fin.ext h)

/-! ### Reading digits -/

/-- Digits are read in base sixteen if all characters are digits, and not otherwise. -/
theorem ofDigitBytes_encode {digits : List Char} (ascii : ∀ c ∈ digits, c.toNat < 128)
    (position n m : Nat) : ofDigitBytes position n (Utf8.encode digits) = .ok m ↔
      (∀ c ∈ digits, Hex.IsNumeral c) ∧
        m = n * 16 ^ digits.length + bigEndian 16 (digits.map Hex.numeralValue) := by
  induction digits generalizing position n with
  | nil => simp [Utf8.encode, ofDigitBytes, bigEndian_nil, eq_comm]
  | cons c digits ih =>
    rw [List.forall_mem_cons] at ascii
    have hchar : Char.ofNat (UInt8.ofNat c.toNat).toNat = c := by
      rw [Utf8.toNat_ofNat (by omega), Char.ofNat_toNat]
    have hvalue := Hex.value?_of_ascii c.toNat ascii.1
    rw [Char.ofNat_toNat] at hvalue
    have hbytes : Utf8.encode (c :: digits) = UInt8.ofNat c.toNat :: Utf8.encode digits := by
      rw [Utf8.encode, List.flatMap_cons, Utf8.utf8EncodeChar_of_lt ascii.1]
      rfl
    rw [hbytes, ofDigitBytes, hchar, hvalue, List.forall_mem_cons]
    by_cases hc : Hex.IsNumeral c
    · have hsum : (n * 16 + Hex.numeralValue c) * 16 ^ digits.length +
            bigEndian 16 (digits.map Hex.numeralValue) =
          n * 16 ^ (c :: digits).length + bigEndian 16 ((c :: digits).map Hex.numeralValue) := by
        rw [List.map_cons, bigEndian_cons, List.length_map, List.length_cons, Nat.pow_succ]
        ring
      rw [if_pos hc, ← hsum]
      simpa [hc] using ih ascii.2 (position + 1) (n * 16 + Hex.numeralValue c)
    · simp [hc]

/-- Digits behind as many zeros as make them sixteen. -/
def padded (digits : List Char) : List Char :=
  List.replicate (16 - digits.length) '0' ++ digits

theorem length_encode_padded (digits : List Char) : (Utf8.encode (padded digits)).length =
    16 - digits.length + Text.byteLength digits := by
  have hzeros : Text.byteLength (List.replicate (16 - digits.length) '0') = 16 - digits.length := by
    rw [Utf8.byteLength_of_lt, List.length_replicate]
    intro c hc
    rw [List.eq_of_mem_replicate hc]
    decide
  rw [Utf8.length_encode, padded, Text.byteLength_append, hzeros]

theorem bigEndian_padded (digits : List Char) :
    bigEndian 16 ((padded digits).map Hex.numeralValue) =
      bigEndian 16 (digits.map Hex.numeralValue) := by
  have hzero : Hex.numeralValue '0' = 0 := by decide
  rw [padded, List.map_append, List.map_replicate, hzero, bigEndian, List.reverse_append,
    List.reverse_replicate, Nat.ofDigits_append_replicate_zero, bigEndian]

theorem lt_of_numerals {digits : List Char} (length : digits.length ≤ 16)
    (h : ∀ c ∈ digits, Hex.IsNumeral c) :
    bigEndian 16 (digits.map Hex.numeralValue) < 2 ^ 64 := by
  have hvalues : ∀ d ∈ digits.map Hex.numeralValue, d < 16 := by
    intro d hd
    obtain ⟨c, hc, rfl⟩ := List.mem_map.1 hd
    exact (h c hc).value_lt
  calc bigEndian 16 (digits.map Hex.numeralValue)
      < 16 ^ digits.length := by simpa using bigEndian_lt (by decide) hvalues
    _ ≤ 16 ^ 16 := Nat.pow_le_pow_right (by decide) length
    _ = 2 ^ 64 := by decide

/-- A length in bytes that is not the one in characters shows in the padded text, which then has
more than sixteen bytes. -/
theorem ofPadded_eq_ok_iff_bytes {digits : List Char} {a : Address} :
    ofPadded digits = .ok a ↔
      (digits ≠ [] ∧ digits.length ≤ 16 ∧ Text.byteLength digits = digits.length) ∧
        (ofDigitBytes 0 0 (Utf8.encode (padded digits))).map ofNat = .ok a := by
  have hle := Text.length_le_byteLength digits
  have hpadded := length_encode_padded digits
  unfold ofPadded
  rw [← padded]
  dsimp only
  rw [hpadded, Utf8.length_encode]
  split_ifs with hempty hlong hodd hwrong
  · simp [List.isEmpty_iff.1 hempty]
  · simp
    omega
  · simp
    omega
  · simp
    omega
  · have hne : digits ≠ [] := by simpa using hempty
    simp [hne]
    omega

theorem ofPadded_eq_ok_iff {digits : List Char} {a : Address} :
    ofPadded digits = .ok a ↔ (digits ≠ [] ∧ digits.length ≤ 16) ∧
      (∀ c ∈ digits, Hex.IsNumeral c) ∧ a.toNat = bigEndian 16 (digits.map Hex.numeralValue) := by
  have hpadded {p : Char → Prop} (hp : p '0') : (∀ c ∈ padded digits, p c) ↔ ∀ c ∈ digits, p c := by
    rw [padded, List.forall_mem_append]
    exact and_iff_right fun c hc => List.eq_of_mem_replicate hc ▸ hp
  rw [ofPadded_eq_ok_iff_bytes]
  constructor
  · rintro ⟨⟨hne, hlength, hbytes⟩, hread⟩
    have ascii := (hpadded (by decide)).2 (Utf8.lt_of_byteLength_eq hbytes)
    obtain ⟨m, hm, rfl⟩ := map_eq_ok_iff.1 hread
    obtain ⟨hnumerals, rfl⟩ := (ofDigitBytes_encode ascii 0 0 m).1 hm
    have hdigits := (hpadded (by decide)).1 hnumerals
    have hlt := lt_of_numerals hlength hdigits
    rw [Nat.zero_mul, Nat.zero_add, bigEndian_padded, toNat_ofNat hlt]
    exact ⟨⟨hne, hlength⟩, hdigits, rfl⟩
  · rintro ⟨⟨hne, hlength⟩, hdigits, hvalue⟩
    have ascii : ∀ c ∈ digits, c.toNat < 128 := fun c hc => (hdigits c hc).lt
    have hread := (ofDigitBytes_encode ((hpadded (by decide)).2 ascii) 0 0 a.toNat).2
      ⟨(hpadded (by decide)).2 hdigits, by rw [Nat.zero_mul, Nat.zero_add, bigEndian_padded, hvalue]⟩
    refine ⟨⟨hne, hlength, Utf8.byteLength_of_lt ascii⟩, ?_⟩
    rw [hread, map_ok]
    exact congrArg _ (toNat_injective (toNat_ofNat a.value.isLt))

/-! ### Spellings -/

/-- What may stand before the digits. -/
def marks : List (List Char) := [[], ['0', 'x'], ['0', 'X']]

/-- The text spells an address by these digits: they stand after a mark or none, with blanks around,
and are one to sixteen. -/
structure Spelling (text digits : List Char) : Prop where
  around : ∃ before after, ∃ mark ∈ marks, text = before ++ (mark ++ digits) ++ after ∧
    (∀ c ∈ before, Text.isBlank c) ∧ ∀ c ∈ after, Text.isBlank c
  numerals : ∀ c ∈ digits, Hex.IsNumeral c
  ne_nil : digits ≠ []
  length : digits.length ≤ 16

theorem exists_mark (text : List Char) : ∃ mark ∈ marks, text = mark ++ unprefixed text := by
  unfold unprefixed
  split
  · exact ⟨['0', 'x'], by decide, rfl⟩
  · exact ⟨['0', 'X'], by decide, rfl⟩
  · exact ⟨[], by decide, rfl⟩

/-- The mark is taken off, and digits do not begin like a mark. -/
theorem unprefixed_append {mark digits : List Char} (hmark : mark ∈ marks)
    (h : ∀ c ∈ digits, Hex.IsNumeral c) : unprefixed (mark ++ digits) = digits := by
  have hx : ¬ Hex.IsNumeral 'x' := by decide
  have hX : ¬ Hex.IsNumeral 'X' := by decide
  simp only [marks, List.mem_cons, List.not_mem_nil, or_false] at hmark
  rcases hmark with rfl | rfl | rfl
  · rw [List.nil_append]
    unfold unprefixed
    split
    · exact absurd (h 'x' (by simp)) hx
    · exact absurd (h 'X' (by simp)) hX
    · rfl
  · rfl
  · rfl

theorem spelling_iff {text digits : List Char} :
    Spelling text digits ↔ digits = unprefixed (Text.trim text) ∧ (∀ c ∈ digits, Hex.IsNumeral c) ∧
      digits ≠ [] ∧ digits.length ≤ 16 := by
  constructor
  · rintro ⟨⟨before, after, mark, hmark, rfl, hbefore, hafter⟩, hdigits, hne, hlength⟩
    have hmarks : ∀ mark ∈ marks, ∀ c ∈ mark, Text.isBlank c = false := by
      simp only [marks, List.forall_mem_cons, List.not_mem_nil, false_implies, implies_true]
      decide
    have hall : ∀ c ∈ mark ++ digits, Text.isBlank c = false :=
      List.forall_mem_append.2 ⟨hmarks mark hmark, fun c hc => (hdigits c hc).not_isBlank⟩
    rw [Text.trim_append hbefore hafter (by simp [hne]) hall, unprefixed_append hmark hdigits]
    exact ⟨rfl, hdigits, hne, hlength⟩
  · rintro ⟨rfl, hdigits, hne, hlength⟩
    obtain ⟨before, after, htext, hbefore, hafter⟩ := Text.exists_trim text
    obtain ⟨mark, hmark, htrim⟩ := exists_mark (Text.trim text)
    exact ⟨⟨before, after, mark, hmark, by rw [← htrim]; exact htext, hbefore, hafter⟩, hdigits,
      hne, hlength⟩

theorem parse_eq_ok_iff {text : String} {a : Address} : parse text = .ok a ↔
    ∃ digits, Spelling text.toList digits ∧
      a.toNat = bigEndian 16 (digits.map Hex.numeralValue) := by
  simp only [parse, ofPadded_eq_ok_iff, spelling_iff]
  constructor
  · rintro ⟨⟨hne, hlength⟩, hdigits, hvalue⟩
    exact ⟨_, ⟨rfl, hdigits, hne, hlength⟩, hvalue⟩
  · rintro ⟨_, ⟨rfl, hdigits, hne, hlength⟩, hvalue⟩
    exact ⟨⟨hne, hlength⟩, hdigits, hvalue⟩

/-- There is no point in an address. -/
theorem point_not_mem_of_parse {text : String} {a : Address} (h : parse text = .ok a) :
    '.' ∉ text.toList := by
  obtain ⟨digits, ⟨⟨before, after, mark, hmark, htext, hbefore, hafter⟩, hdigits, -, -⟩, -⟩ :=
    parse_eq_ok_iff.1 h
  have hmarks : ∀ mark ∈ marks, '.' ∉ mark := by decide
  have hblank : ¬ Text.isBlank '.' := by decide
  have hnumeral : ¬ Hex.IsNumeral '.' := by decide
  simp only [htext, List.mem_append, not_or]
  exact ⟨⟨fun h => hblank (hbefore _ h), hmarks mark hmark, fun h => hnumeral (hdigits _ h)⟩,
    fun h => hblank (hafter _ h)⟩

theorem lex_bytes_iff (a b : Address) :
    List.Lex (· < ·) (a.bytes.map UInt8.toNat) (b.bytes.map UInt8.toNat) ↔ a.toNat < b.toNat := by
  have hlt (a : Address) : ∀ d ∈ a.bytes.map UInt8.toNat, d < 256 := by
    intro d hd
    obtain ⟨byte, -, rfl⟩ := List.mem_map.1 hd
    exact byte.toNat_lt
  rw [← bigEndian_bytes a, ← bigEndian_bytes b]
  exact (bigEndian_lt_iff (by decide) (hlt a) (hlt b) (by simp [length_bytes])).symm

/-- A text is read exactly if it spells an address, as the address whose bytes are the big-endian
value of its digits. The digits of an address and its literal are read back, and addresses are
ordered by their values, which is the alphabetical order of their bytes. -/
theorem parse_iff_spelling :
    (∀ text : String, (∃ a, parse text = .ok a) ↔ ∃ digits, Spelling text.toList digits) ∧
    (∀ (text : String) (a : Address), parse text = .ok a ↔
      ∃ digits, Spelling text.toList digits ∧ a.bytes.length = 8 ∧
        bigEndian 256 (a.bytes.map UInt8.toNat) = bigEndian 16 (digits.map Hex.numeralValue)) ∧
    (∀ a : Address, parse a.toHex = .ok a ∧ parse a.toLiteral = .ok a) ∧
    ∀ a b : Address, (a ≤ b ↔ a.toNat ≤ b.toNat) ∧
      (a ≤ b ↔ ¬List.Lex (· < ·) (b.bytes.map UInt8.toNat) (a.bytes.map UInt8.toNat)) := by
  refine ⟨fun text => ?_, fun text a => ?_, fun a => ⟨a.parse_toHex, a.parse_toLiteral⟩,
    fun a b => ⟨Iff.rfl, ?_⟩⟩
  · constructor
    · rintro ⟨a, ha⟩
      obtain ⟨digits, hdigits, -⟩ := parse_eq_ok_iff.1 ha
      exact ⟨digits, hdigits⟩
    · rintro ⟨digits, hdigits⟩
      have hlt := lt_of_numerals hdigits.length hdigits.numerals
      exact ⟨ofNat _, parse_eq_ok_iff.2 ⟨digits, hdigits, toNat_ofNat hlt⟩⟩
  · simp only [parse_eq_ok_iff, length_bytes, bigEndian_bytes, true_and]
  · rw [lex_bytes_iff]
    exact Nat.not_lt.symm

end Address

end ContractProject
