import ContractProject.Manifest.Entities

/-!
The system contracts, which have well known addresses on every standard network.
-/

namespace ContractProject

structure CoreContract where
  name : String
  onEmulator : Address
  onTestnet : Address
  onMainnet : Address
  deriving DecidableEq, Repr

namespace CoreContract

/-- A row of the table. -/
def row (name : String) (onEmulator onTestnet onMainnet : Nat) : CoreContract :=
  ⟨name, .ofNat onEmulator, .ofNat onTestnet, .ofNat onMainnet⟩

def all : List CoreContract :=
  [row "FungibleToken" 0xee82856bf20e2aa6 0x9a0766d93b6608b7 0xf233dcee88fe0abe,
    row "FungibleTokenMetadataViews" 0xee82856bf20e2aa6 0x9a0766d93b6608b7 0xf233dcee88fe0abe,
    row "Burner" 0xf8d6e0586b0a20c7 0x9a0766d93b6608b7 0xf233dcee88fe0abe,
    row "FlowToken" 0x0ae53cb6e3f42a79 0x7e60df042a9c0868 0x1654653399040a61,
    row "FlowFees" 0xe5a8b7f23e8b548f 0x912d5440f7e3769e 0xf919ee77447b7497,
    row "FlowServiceAccount" 0xf8d6e0586b0a20c7 0x8c5303eaa26202d6 0xe467b9dd11fa00df,
    row "FlowStorageFees" 0xf8d6e0586b0a20c7 0x8c5303eaa26202d6 0xe467b9dd11fa00df,
    row "EVM" 0xf8d6e0586b0a20c7 0x8c5303eaa26202d6 0xe467b9dd11fa00df,
    row "NonFungibleToken" 0xf8d6e0586b0a20c7 0x631e88ae7f1d7c20 0x1d7e57aa55817448,
    row "MetadataViews" 0xf8d6e0586b0a20c7 0x631e88ae7f1d7c20 0x1d7e57aa55817448,
    row "ViewResolver" 0xf8d6e0586b0a20c7 0x631e88ae7f1d7c20 0x1d7e57aa55817448]

/-- The address on a network, if that is a standard one. -/
def address? (c : CoreContract) (network : String) : Option Address :=
  if network = emulator then some c.onEmulator
  else if network = testnet then some c.onTestnet
  else if network = mainnet then some c.onMainnet
  else none

def aliases (c : CoreContract) : Aliases :=
  .ofPairs [(emulator, c.onEmulator), (testnet, c.onTestnet), (mainnet, c.onMainnet)]

/-- The core contract with this name, if it has this address on the network. -/
def find? (network name : String) (address : Address) : Option CoreContract :=
  all.find? fun c => c.name = name && c.address? network = some address

end CoreContract

end ContractProject
