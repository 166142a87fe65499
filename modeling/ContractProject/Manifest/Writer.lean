import ContractProject.Manifest.Basic

/-!
Writing manifests. Each entry takes the shortest form that keeps all of it, dependencies always the
long one. Contracts that stand for dependencies are left out, and so are empty sections other than
the first two.
-/

namespace ContractProject.Manifest

def aliasesJson (aliases : Aliases) : Json :=
  Json.ofFields (aliases.toList.map fun a => (a.network, .string a.address.toHex))

def canonicalFields (canonical : Option String) : List (String × Json) :=
  canonical.toList.map fun name => ("canonical", .string name)

def contractJson (c : Contract) : Json :=
  if c.aliases.isEmpty && !Canonical.isAlias c then .string c.location
  else
    .object ([("source", .string c.location), ("aliases", aliasesJson c.aliases)]
      ++ canonicalFields c.canonical)

def dependencyJson (d : Dependency) : Json :=
  .object ([("source", .string d.source.toText), ("hash", .string d.hash),
    ("aliases", aliasesJson d.aliases)] ++ canonicalFields d.canonical)

def networkJson (n : Network) : Json :=
  match n.key with
  | some key => .object [("host", .string n.host), ("key", .string key)]
  | none => .string n.host

def accountJson (a : Account) : Json :=
  .object (("address", .string a.address.toHex)
    :: match a.key with
      | .null => []
      | key => [("key", key)])

def deployedJson (c : DeployedContract) : Json :=
  if c.args.isEmpty then .string c.name
  else .object [("name", .string c.name), ("args", .array c.args)]

/-- Deployments by network and account, in the order in which these first occur. -/
def groupDeployments (deployments : Deployments) :
    List (String × List (String × List DeployedContract)) :=
  deployments.toList.foldl
    (fun groups d =>
      let group := ((lookup? d.network groups).map Prod.snd).getD []
      put (d.network, put (d.account, d.contracts.toList) group) groups)
    []

def deploymentsJson (deployments : Deployments) : Json :=
  .object ((groupDeployments deployments).map fun (network, byAccount) =>
    (network, .object (byAccount.map fun (account, contracts) =>
      (account, .array (contracts.map deployedJson)))))

/-- A section that is left out when it is empty. -/
def unlessEmpty {α : Type} (entries : Collection α) (name : String) (json : Json) :
    List (String × Json) :=
  if entries.isEmpty then [] else [(name, json)]

/-- The contracts that are the project's own. -/
def ownContracts (m : Manifest) : List Contract := m.contracts.toList.filter (!·.isDependency)

def toJson (m : Manifest) : Json :=
  .object (
    [("contracts", Json.ofFields (m.ownContracts.map fun c => (c.name, contractJson c))),
      ("dependencies",
        Json.ofFields (m.dependencies.toList.map fun d => (d.name, dependencyJson d)))]
    ++ unlessEmpty m.networks "networks"
      (Json.ofFields (m.networks.toList.map fun n => (n.name, networkJson n)))
    ++ unlessEmpty m.accounts "accounts"
      (Json.ofFields (m.accounts.toList.map fun a => (a.name, accountJson a)))
    ++ unlessEmpty m.deployments "deployments" (deploymentsJson m.deployments))

/-- The written form, which ends with a line end. -/
def toText (m : Manifest) : String := m.toJson.pretty ++ "\n"

def toBytes (m : Manifest) : Bytes := Utf8.encodeString m.toText

end ContractProject.Manifest
