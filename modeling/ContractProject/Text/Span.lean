/-!
Byte offsets into a text, and the replacement of spans of it. Offsets count the bytes of the
text's UTF-8 form.
-/

namespace ContractProject.Text

def byteLength : List Char → Nat
  | [] => 0
  | c :: text => c.utf8Size + byteLength text

/-- A range of bytes: the first one in it and the first one after it. -/
structure Span where
  start : Nat
  stop : Nat
  deriving DecidableEq, Repr

/-- Cuts a text after its first `n` bytes, or before the character that straddles the cut. -/
def splitAtByte (n : Nat) : List Char → List Char × List Char
  | [] => ([], [])
  | c :: text =>
    if c.utf8Size ≤ n then
      let (before, after) := splitAtByte (n - c.utf8Size) text
      (c :: before, after)
    else ([], c :: text)

def slice (span : Span) (text : List Char) : List Char :=
  (splitAtByte (span.stop - span.start) (splitAtByte span.start text).2).1

structure Edit where
  span : Span
  replacement : List Char
  deriving DecidableEq, Repr

/-- Carries out edits in order of their spans on the text from byte `position` on. -/
def spliceFrom (position : Nat) (text : List Char) : List Edit → List Char
  | [] => text
  | edit :: edits =>
    let (before, rest) := splitAtByte (edit.span.start - position) text
    let after := (splitAtByte (edit.span.stop - edit.span.start) rest).2
    before ++ edit.replacement ++ spliceFrom edit.span.stop after edits

/-- Replaces spans that do not overlap and come in increasing order. Spans of another text give a
result all the same, since each cut is made at a boundary between characters of this one or at its
end; such a result means nothing. -/
def splice (text : List Char) (edits : List Edit) : List Char := spliceFrom 0 text edits

end ContractProject.Text
