import ContractProject.Base64
import ContractProject.Gateway
import ContractProject.Json.Record
import ContractProject.Manifest.Entities
import ContractProject.Url.Basic

/-!
Access nodes answer requests for accounts over the web. A network's node is at the network's host,
if that is a web address, and otherwise where the standard networks have theirs.
-/

namespace ContractProject

/-- The hosts that are web addresses begin like one, whatever follows. -/
def Network.hasWebHost (n : Network) : Bool :=
  Url.insecureScheme.isPrefixOf n.host.toList || Url.secureScheme.isPrefixOf n.host.toList

/-- The access nodes of the standard networks. -/
def standardNode? (network : String) : Option String :=
  if network = emulator then some "http://127.0.0.1:8888"
  else if network = testnet then some "https://rest-testnet.onflow.org"
  else if network = mainnet then some "https://rest-mainnet.onflow.org"
  else none

def Network.endpoint? (n : Network) : Option Url :=
  if n.hasWebHost then Url.parse? n.host else (standardNode? n.name).bind Url.parse?

def Network.endpoint (n : Network) : Except Error Url :=
  match n.endpoint? with
  | some url => .ok url
  | none => .error (.noEndpoint n.name n.host)

namespace AccessNode

/-- Where a node has an account with the code of its contracts. -/
def accountUrl (node : Url) (address : Address) : Url :=
  node.child ["v1", "accounts"] address.toHex "expand=contracts"

structure Response where
  status : Nat
  body : Bytes
  deriving DecidableEq, Repr

/-- What the web answers, none where nobody does. -/
abbrev Transport := Url → Option Response

def statusReasons : List (Nat × String) :=
  [(100, "Continue"), (101, "Switching Protocols"), (102, "Processing"), (200, "OK"),
    (201, "Created"), (202, "Accepted"), (203, "Non Authoritative Information"),
    (204, "No Content"), (205, "Reset Content"), (206, "Partial Content"), (207, "Multi-Status"),
    (208, "Already Reported"), (226, "IM Used"), (300, "Multiple Choices"),
    (301, "Moved Permanently"), (302, "Found"), (303, "See Other"), (304, "Not Modified"),
    (305, "Use Proxy"), (307, "Temporary Redirect"), (308, "Permanent Redirect"),
    (400, "Bad Request"), (401, "Unauthorized"), (402, "Payment Required"), (403, "Forbidden"),
    (404, "Not Found"), (405, "Method Not Allowed"), (406, "Not Acceptable"),
    (407, "Proxy Authentication Required"), (408, "Request Timeout"), (409, "Conflict"),
    (410, "Gone"), (411, "Length Required"), (412, "Precondition Failed"),
    (413, "Payload Too Large"), (414, "URI Too Long"), (415, "Unsupported Media Type"),
    (416, "Range Not Satisfiable"), (417, "Expectation Failed"), (418, "I'm a teapot"),
    (421, "Misdirected Request"), (422, "Unprocessable Entity"), (423, "Locked"),
    (424, "Failed Dependency"), (426, "Upgrade Required"), (428, "Precondition Required"),
    (429, "Too Many Requests"), (431, "Request Header Fields Too Large"),
    (451, "Unavailable For Legal Reasons"), (500, "Internal Server Error"),
    (501, "Not Implemented"), (502, "Bad Gateway"), (503, "Service Unavailable"),
    (504, "Gateway Timeout"), (505, "HTTP Version Not Supported"),
    (506, "Variant Also Negotiates"), (507, "Insufficient Storage"), (508, "Loop Detected"),
    (510, "Not Extended"), (511, "Network Authentication Required")]

def statusText (status : Nat) : String :=
  let reason := ((lookup? status statusReasons).map Prod.snd).getD "<unknown status code>"
  s!"{status} {reason}"

/-- An account as a node writes it: its address, and its contracts with their encoded code. -/
structure AccountRecord where
  address : String
  contracts : List (String × String)
  deriving DecidableEq, Repr

def AccountRecord.parse? (body : Bytes) : Option AccountRecord := do
  match ← Document.listedRecord? ["address", "contracts"] (← Document.parse? body) with
  | [some address, contracts] =>
    return ⟨← address.text?,
      ← Document.optional? (Document.mapping? Document.text?) [] contracts⟩
  | _ => none

def decodeContract (address : Address) (name code : String) : Except Error FetchedContract :=
  match Base64.decode? code with
  | some code => .ok ⟨name, code, address⟩
  | none => .error (.fetch (.badCode name))

def AccountRecord.account (r : AccountRecord) : Except Error FetchedAccount := do
  let address ← Address.read r.address
  return ⟨address, ← r.contracts.mapM fun (name, code) => decodeContract address name code⟩

/-- The account that was asked for, as a node's response gives it. -/
def readAccount (asked : Address) (r : Response) : Except Error FetchedAccount :=
  if r.status = 404 then .error (.fetch (.noAccount asked))
  else if r.status ≠ 200 then .error (.fetch (.badStatus asked (statusText r.status)))
  else
    match AccountRecord.parse? r.body with
    | some record => record.account
    | none => .error (.fetch (.badBody asked))

def gateway (web : Transport) (node : Url) : Gateway := fun address =>
  match web (accountUrl node address) with
  | some response => readAccount address response
  | none => .error (.fetch (.unreachable address (accountUrl node address).toText))

end AccessNode

/-- The gateways of the networks that have an access node. -/
def Gateways.ofNetworks (web : AccessNode.Transport) (networks : Networks) : Gateways :=
  .ofList (networks.toList.filterMap fun n =>
    n.endpoint?.map fun node => (n.name, AccessNode.gateway web node))

end ContractProject
