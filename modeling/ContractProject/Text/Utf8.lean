/-!
UTF-8. `encode` writes a text, `decode` reads one strictly and says where the first fault is, and
`decodeLoose` reads any bytes, with a gap for each maximal run that no text can hold.
-/

namespace ContractProject

abbrev Bytes := List UInt8

namespace Utf8

def encode (text : List Char) : Bytes :=
  text.flatMap String.utf8EncodeChar

/-- What a byte and those after it begin with. -/
inductive Lead where
  | char (c : Char) (rest : Bytes)
  /-- The first `width` bytes start a sequence that the next byte cannot continue. -/
  | malformed (width : Nat) (rest : Bytes)
  /-- The bytes end inside a sequence that is sound so far. -/
  | truncated
  deriving Repr

def isContinuation (b : UInt8) : Bool := 0x80 ≤ b && b ≤ 0xBF

/-- The second byte of a three byte sequence excludes overlong forms and surrogates. -/
def isSecondOfThree (b c : UInt8) : Bool :=
  if b = 0xE0 then 0xA0 ≤ c && c ≤ 0xBF
  else if b = 0xED then 0x80 ≤ c && c ≤ 0x9F
  else isContinuation c

/-- The second byte of a four byte sequence excludes overlong forms and values past U+10FFFF. -/
def isSecondOfFour (b c : UInt8) : Bool :=
  if b = 0xF0 then 0x90 ≤ c && c ≤ 0xBF
  else if b = 0xF4 then 0x80 ≤ c && c ≤ 0x8F
  else isContinuation c

/-- The scalar value of a lead byte's payload followed by continuation bytes. -/
def scalar (payload : Nat) (tail : List UInt8) : Char :=
  Char.ofNat (tail.foldl (fun n b => n * 64 + (b.toNat - 0x80)) payload)

def leadOfTwo (b : UInt8) : Bytes → Lead
  | [] => .truncated
  | c :: rest =>
    if isContinuation c then .char (scalar (b.toNat - 0xC0) [c]) rest else .malformed 1 (c :: rest)

def leadOfThree (b : UInt8) : Bytes → Lead
  | [] => .truncated
  | c :: rest =>
    if isSecondOfThree b c then
      match rest with
      | [] => .truncated
      | d :: rest =>
        if isContinuation d then .char (scalar (b.toNat - 0xE0) [c, d]) rest
        else .malformed 2 (d :: rest)
    else .malformed 1 (c :: rest)

def leadOfFour (b : UInt8) : Bytes → Lead
  | [] => .truncated
  | c :: rest =>
    if isSecondOfFour b c then
      match rest with
      | [] => .truncated
      | d :: rest =>
        if isContinuation d then
          match rest with
          | [] => .truncated
          | e :: rest =>
            if isContinuation e then .char (scalar (b.toNat - 0xF0) [c, d, e]) rest
            else .malformed 3 (e :: rest)
        else .malformed 2 (d :: rest)
    else .malformed 1 (c :: rest)

def lead (b : UInt8) (rest : Bytes) : Lead :=
  if b < 0x80 then .char (Char.ofNat b.toNat) rest
  else if 0xC2 ≤ b && b ≤ 0xDF then leadOfTwo b rest
  else if 0xE0 ≤ b && b ≤ 0xEF then leadOfThree b rest
  else if 0xF0 ≤ b && b ≤ 0xF4 then leadOfFour b rest
  else .malformed 1 rest

theorem length_le_of_lead_char {b : UInt8} {bs rest : Bytes} {c : Char}
    (h : lead b bs = .char c rest) : rest.length ≤ bs.length := by
  unfold lead leadOfTwo leadOfThree leadOfFour at h
  repeat' split at h
  all_goals first
    | contradiction
    | (obtain ⟨-, rfl⟩ := Lead.char.inj h; simp; done)
    | (obtain ⟨-, rfl⟩ := Lead.char.inj h; simp only [List.length_cons]; omega)

theorem length_le_of_lead_malformed {b : UInt8} {bs rest : Bytes} {n : Nat}
    (h : lead b bs = .malformed n rest) : rest.length ≤ bs.length := by
  unfold lead leadOfTwo leadOfThree leadOfFour at h
  repeat' split at h
  all_goals first
    | contradiction
    | (obtain ⟨-, rfl⟩ := Lead.malformed.inj h; simp)

inductive Fault where
  | malformed (width index : Nat)
  | truncated (index : Nat)
  deriving DecidableEq, Repr

def Fault.message : Fault → String
  | .malformed width index => s!"invalid utf-8 sequence of {width} bytes from index {index}"
  | .truncated index => s!"incomplete utf-8 byte sequence from index {index}"

/-- Reads bytes of which `index` have been read before. -/
def decodeFrom (index : Nat) : Bytes → Except Fault (List Char)
  | [] => .ok []
  | b :: bs =>
    match h : lead b bs with
    | .char c rest =>
      have := length_le_of_lead_char h
      (decodeFrom (index + c.utf8Size) rest).map (c :: ·)
    | .malformed width _ => .error (.malformed width index)
    | .truncated => .error (.truncated index)
termination_by bs => bs.length
decreasing_by simp only [List.length_cons]; omega

def decode (bytes : Bytes) : Except Fault (List Char) := decodeFrom 0 bytes

def decodeLoose : Bytes → List (Option Char)
  | [] => []
  | b :: bs =>
    match h : lead b bs with
    | .char c rest =>
      have := length_le_of_lead_char h
      some c :: decodeLoose rest
    | .malformed _ rest =>
      have := length_le_of_lead_malformed h
      none :: decodeLoose rest
    | .truncated => [none]
termination_by bs => bs.length
decreasing_by all_goals simp only [List.length_cons]; omega

def decode? (bytes : Bytes) : Option String :=
  (decode bytes).toOption.map String.ofList

def encodeString (text : String) : Bytes := encode text.toList

end Utf8

end ContractProject
