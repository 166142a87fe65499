import ContractProject.Address

/-!
Remote sources, `network://address.Contract`: where a deployed contract is fetched from.
-/

namespace ContractProject

structure Source where
  network : String
  address : Address
  contract : String
  deriving DecidableEq, Repr

namespace Source

def toText (s : Source) : String := s.network ++ "://" ++ s.address.toHex ++ "." ++ s.contract

/-- Why a text is no remote source. -/
inductive Fault where
  | noSeparator
  | emptyNetwork
  | emptyContract
  | badAddress (input : String) (fault : Address.Fault)
  deriving DecidableEq, Repr

def Fault.reason : Fault → String
  | .noSeparator => "expected network://address.ContractName"
  | .emptyNetwork => "network name is empty"
  | .emptyContract => "contract name is empty"
  | .badAddress input fault => s!"invalid address: invalid address {input}: {fault.reason}"

/-- The texts before and after the first occurrence of a separator. -/
def cut? (separator : List Char) : List Char → Option (List Char × List Char)
  | [] => if separator.isEmpty then some ([], []) else none
  | c :: text =>
    if separator.isPrefixOf (c :: text) then some ([], (c :: text).drop separator.length)
    else (cut? separator text).map fun (before, after) => (c :: before, after)

/-- The network ends at the first `://`, the address at the first point after it. -/
def parse (text : String) : Except Fault Source :=
  match cut? [':', '/', '/'] text.toList with
  | none => .error .noSeparator
  | some (network, rest) =>
    match cut? ['.'] rest with
    | none => .error .noSeparator
    | some (address, contract) =>
      if network.isEmpty then .error .emptyNetwork
      else if contract.isEmpty then .error .emptyContract
      else
        match Address.parse (String.ofList address) with
        | .ok address => .ok ⟨String.ofList network, address, String.ofList contract⟩
        | .error fault => .error (.badAddress (String.ofList address) fault)

end Source

end ContractProject
