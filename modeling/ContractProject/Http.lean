import ContractProject.AccessNode

/-!
Requests and responses of the protocol HTTP/1.1, as far as getting a document needs them.
-/

namespace ContractProject.Http

def lineEnd : List Char := ['\r', '\n']

/-- A request for what is at a URL, after which the connection is closed. -/
def requestText (u : Url) : String :=
  String.ofList
    ("GET ".toList ++ u.target ++ " HTTP/1.1".toList ++ lineEnd
      ++ "host: ".toList ++ u.host.toText ++ u.portText ++ lineEnd
      ++ "accept: */*".toList ++ lineEnd
      ++ "connection: close".toList ++ lineEnd ++ lineEnd)

def isLineEnd (bytes : Bytes) : Bool := bytes.take 2 = [13, 10]

/-- The first line, without its end, and the bytes after it. -/
def takeLine? : Bytes → Option (Bytes × Bytes)
  | [] => none
  | b :: rest =>
    if isLineEnd (b :: rest) then some ([], rest.drop 1)
    else (takeLine? rest).map fun (line, rest) => (b :: line, rest)

theorem length_lt_of_takeLine? {line rest : Bytes} :
    ∀ {bytes : Bytes}, takeLine? bytes = some (line, rest) → rest.length < bytes.length
  | b :: bytes, h => by
    unfold takeLine? at h
    split at h
    · cases h
      simp only [List.length_drop, List.length_cons]
      omega
    · obtain ⟨⟨l, r⟩, hr, heq⟩ := Option.map_eq_some_iff.1 h
      cases heq
      have := length_lt_of_takeLine? hr
      simp only [List.length_cons]
      omega

def latin (bytes : Bytes) : List Char := bytes.map fun b => Char.ofNat b.toNat

/-- The lines up to the first empty one, and the bytes after that. -/
def takeHead? (bytes : Bytes) : Option (List (List Char) × Bytes) :=
  match h : takeLine? bytes with
  | none => none
  | some ([], rest) => some ([], rest)
  | some (b :: line, rest) =>
    have := length_lt_of_takeLine? h
    (takeHead? rest).map fun (lines, body) => (latin (b :: line) :: lines, body)
termination_by bytes.length

def decimal? (digits : List Char) : Option Nat :=
  if digits.isEmpty || !digits.all Text.isAsciiDigit then none else Url.numberIn 10 digits

/-- The code in a status line. -/
def status? (line : List Char) : Option Nat :=
  if "HTTP/1.".toList.isPrefixOf line then decimal? (((Url.splitOn ' ' line)[1]?).getD []) else none

/-- The value of a header, whatever the case of its name. -/
def header? (name : String) (lines : List (List Char)) : Option (List Char) :=
  lines.findSome? fun line =>
    let found := line.takeWhile (· ≠ ':')
    if found.map Char.toLower = name.toList then some (Text.trim (line.drop (found.length + 1)))
    else none

/-- The contents of chunks, each after a line with its length. The last chunk is empty. -/
def chunks? (bytes : Bytes) : Option Bytes :=
  match h : takeLine? bytes with
  | none => none
  | some (line, rest) =>
    match Url.numberIn 16 ((latin line).takeWhile Text.isAsciiAlphanumeric) with
    | none => none
    | some 0 => some []
    | some length =>
      have := length_lt_of_takeLine? h
      if rest.length < length then none
      else (chunks? (rest.drop (length + 2))).map (rest.take length ++ ·)
termination_by bytes.length
decreasing_by simp only [List.length_drop]; omega

/-- Reads all that a server sent until it closed the connection. -/
def response? (bytes : Bytes) : Option AccessNode.Response := do
  let (lines, rest) ← takeHead? bytes
  let status ← status? (lines.headD [])
  let headers := lines.drop 1
  match header? "transfer-encoding" headers, (header? "content-length" headers).bind decimal? with
  | some coding, _ =>
    if coding.map Char.toLower = "chunked".toList then return ⟨status, ← chunks? rest⟩ else none
  | none, some length => if rest.length < length then none else return ⟨status, rest.take length⟩
  | none, none => return ⟨status, rest⟩

end ContractProject.Http
