import ContractProject.Hex
import ContractProject.Text.Letter

/-!
Percent encoding: bytes that a part of a URL cannot show are written as `%` and two digits. Each
part has its own set of characters that it encodes; all encode what is not ASCII.
-/

namespace ContractProject.Url

def percentByte (b : UInt8) : List Char := '%' :: (Hex.digits 2 b.toNat).map Char.toUpper

/-- Encodes the characters that are in a set or not ASCII. -/
def percentEncode (encoded : Char → Bool) (text : List Char) : List Char :=
  text.flatMap fun c =>
    if c.toNat < 0x80 && !encoded c then [c] else (Utf8.encode [c]).flatMap percentByte

/-- The bytes of a text in which a `%` and two digits stand for one. -/
def percentDecode : List Char → Bytes
  | [] => []
  | '%' :: high :: low :: rest =>
    match Hex.value? high, Hex.value? low with
    | some h, some l => UInt8.ofNat (h * 16 + l) :: percentDecode rest
    | _, _ => Utf8.encode ['%'] ++ percentDecode (high :: low :: rest)
  | c :: rest => Utf8.encode [c] ++ percentDecode rest

def isControl (c : Char) : Bool := c.toNat < 0x20 || c.toNat = 0x7F

def encodedInFragment (c : Char) : Bool := isControl c || " \"<>\x60".toList.contains c

def encodedInPath (c : Char) : Bool := encodedInFragment c || "#?\x7b\x7d".toList.contains c

def encodedInUserinfo (c : Char) : Bool := encodedInPath c || "/:;=@[\\]^|".toList.contains c

def encodedInQuery (c : Char) : Bool := isControl c || " \"#<>\x27".toList.contains c

end ContractProject.Url
