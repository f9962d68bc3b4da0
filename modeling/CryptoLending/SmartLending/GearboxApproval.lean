import CryptoLending.Lib.DecimalText
import CryptoLending.Lib.JsReading

namespace CryptoLending.SmartLending.GearboxApproval

open Lib Lib.JsValue Lib.JsReading Lib.DecimalText

def maxManagers : Nat := 64
def maxAccounts : Nat := 65536
def pageSize : Nat := 128

/-- The pages that hold a number of accounts. -/
def pageCount (accounts : Nat) : Nat := (accounts + (pageSize - 1)) / pageSize

def maxDataDepth : Nat := 18

def dataBounds : PlainBounds where
  nodes := 4000000
  bytes := 64 * 1024 * 1024
  keys := 32
  arrayLength := maxAccounts + maxManagers * 8 + pageCount maxAccounts + 32

section Manifest

/-- A text for each of the four static contracts. -/
structure Contracts where
  addressProvider : String
  contractsRegister : String
  pool : String
  underlying : String
  deriving DecidableEq

def contractKeys : List String := ["addressProvider", "contractsRegister", "pool", "underlying"]

def official : Contracts where
  addressProvider := "0x9ea7b04da02a5373317d745c1571c84aad03321d"
  contractsRegister := "0xa50d4e7d8946a7c90652339cdbd262c375d54d99"
  pool := "0xda00000035fef4082f78def6a8903bee419fbf8e"
  underlying := "0xa0b86991c6218b36c1d19d4a2e9eb0ce3606eb48"

def accountFactory : String := "0x444cd42baeddeb707eed823f7177b9abcc779c04"
def supportedContractVersion : String := "300"
def poolAndUnderlyingDecimals : Int := 6
def expectedChainId : String := "0x1"
def blockSelector : String := "finalized"
def blockBinding : String := "EIP1898_BLOCK_HASH_REQUIRE_CANONICAL"
def assetRegistryFingerprint : String :=
  "5058b141479f114c1e5f87ed8798fbb7a7ffcce7b502aa7e0794dc53ca1f767d"
def semanticsFingerprintSha256 : String :=
  "cb8505cdd5192fc9e02de42be49df4823b483717682979fdf069ef2f1587509e"

structure GearboxV3EthereumUSDCManifest where
  maximumBlockAgeSeconds : Nat
  contracts : Contracts
  runtimeCodeSha256 : Contracts
  deriving DecidableEq

def manifestKeys : List String :=
  ["schemaVersion", "providerId", "protocolId", "networkId", "expectedChainId", "blockSelector",
    "blockBinding", "maximumBlockAgeSeconds", "marketId", "deploymentModel", "contracts", "asset",
    "assetRegistry", "runtimeCodeSha256", "officialSource"]

/-- The fields of a record that are fixed texts. -/
def hasTexts (record : Record) (texts : List (String × String)) : Bool :=
  texts.all fun t => (record.get t.1).isText t.2

def manifestTexts : List (String × String) :=
  [("providerId", "gearbox"), ("protocolId", "gearbox-v3"), ("networkId", "eip155:1"),
    ("expectedChainId", expectedChainId), ("blockSelector", blockSelector),
    ("blockBinding", blockBinding), ("marketId", "gearbox-v3-ethereum-usdc"),
    ("deploymentModel", "DIRECT_IMMUTABLE_POOL_V3_00")]

def contractTexts : List (String × String) :=
  [("addressProvider", official.addressProvider),
    ("contractsRegister", official.contractsRegister), ("pool", official.pool),
    ("underlying", official.underlying)]

def officialSource : List (String × String) :=
  [("securityRepository", "Gearbox-protocol/security"),
    ("securityCommit", "684522eae18dea73a8aecda25d8743bfa724446a"),
    ("deploymentPath", "bug-bounty/v3-scope.md"), ("coreRepository", "Gearbox-protocol/core-v3"),
    ("coreCommit", "e16559ae82f0f24c3dc29693c444f40d676ebff9"),
    ("poolPath", "contracts/pool/PoolV3.sol"), ("interfacePath", "contracts/interfaces/IPoolV3.sol")]

def readBlockAge (v : Value) : Option Nat := do
  let text ← readText (fun cs => Text.isPositiveUint cs && decide (cs.length ≤ 4)) v
  guard (Text.decimalValue text.toList ≤ 3600)
  return Text.decimalValue text.toList

def parseGearboxV3EthereumUSDCManifest (value : Value) : Option GearboxV3EthereumUSDCManifest := do
  let row ← exactDataRecord value manifestKeys
  guard (isBoundedPlainData dataBounds maxDataDepth value = true)
  let contracts ← exactRecord (row.get "contracts") contractKeys
  let asset ← exactRecord (row.get "asset") ["symbol", "decimals"]
  let registry ← exactRecord (row.get "assetRegistry") ["environment", "version", "fingerprintSha256"]
  let hashes ← exactRecord (row.get "runtimeCodeSha256") contractKeys
  let source ← exactRecord (row.get "officialSource") (officialSource.map Prod.fst)
  guard ((row.get "schemaVersion").isNumber 1 ∧ hasTexts row manifestTexts)
  let maximumBlockAgeSeconds ← readBlockAge (row.get "maximumBlockAgeSeconds")
  guard (hasTexts contracts contractTexts ∧ hasTexts source officialSource)
  let addressProvider ← readText isSha256 (hashes.get "addressProvider")
  let contractsRegister ← readText isSha256 (hashes.get "contractsRegister")
  let pool ← readText isSha256 (hashes.get "pool")
  let underlying ← readText isSha256 (hashes.get "underlying")
  guard ((asset.get "symbol").isText "USDC" ∧ (asset.get "decimals").isNumber 6 ∧
    (registry.get "environment").isText "MAINNET" ∧ (registry.get "version").isNumber 1 ∧
      (registry.get "fingerprintSha256").isText assetRegistryFingerprint)
  return {
    maximumBlockAgeSeconds
    contracts := official
    runtimeCodeSha256 := { addressProvider, contractsRegister, pool, underlying } }

end Manifest

section Approval

structure ApprovedAccount where
  accountAddress : String
  runtimeCodeSha256 : String
  deriving DecidableEq

structure ApprovedManager where
  managerAddress : String
  managerRuntimeCodeSha256 : String
  facadeAddress : String
  facadeRuntimeCodeSha256 : String
  creditAccounts : List ApprovedAccount
  deriving DecidableEq

structure ApprovalRoot where
  accountFactoryAddress : String
  accountFactoryRuntimeCodeSha256 : String
  poolQuotaKeeperAddress : String
  poolQuotaKeeperRuntimeCodeSha256 : String
  deriving DecidableEq

structure Approval where
  manifestFingerprintSha256 : String
  semanticsFingerprintSha256 : String
  root : ApprovalRoot
  managers : List ApprovedManager
  deriving DecidableEq

def authorityKeys : List String :=
  ["mayEstablishRecommendationEligibility", "mayAuthorizeFinancialAction", "mayPersist",
    "mayCreatePositionSnapshot", "maySign", "mayAccessWalletPrivateKey"]

def approvalKeys : List String :=
  ["approvalVersion", "use"] ++ authorityKeys ++
    ["manifestFingerprintSha256", "semanticsFingerprintSha256", "root", "managers"]

def approvalUse : String :=
  "CALLER_SUPPLIED_GEARBOX_V3_ACCOUNT_POSITION_TOPOLOGY_APPROVAL_ONLY"

def pinnedStaticContractAddresses : List String :=
  [official.addressProvider, official.contractsRegister, official.pool, official.underlying]

def parseApprovalRoot (value : Value) : Option ApprovalRoot := do
  let record ← exactDataRecord value ["accountFactoryAddress", "accountFactoryRuntimeCodeSha256",
    "poolQuotaKeeperAddress", "poolQuotaKeeperRuntimeCodeSha256"]
  let accountFactoryAddress ← readText isLowerAddress (record.get "accountFactoryAddress")
  let accountFactoryRuntimeCodeSha256 ←
    readText isSha256 (record.get "accountFactoryRuntimeCodeSha256")
  let poolQuotaKeeperAddress ← readText isLowerAddress (record.get "poolQuotaKeeperAddress")
  let poolQuotaKeeperRuntimeCodeSha256 ←
    readText isSha256 (record.get "poolQuotaKeeperRuntimeCodeSha256")
  guard (accountFactoryAddress = accountFactory ∧ accountFactoryAddress ≠ poolQuotaKeeperAddress ∧
    accountFactoryAddress ∉ pinnedStaticContractAddresses ∧
      poolQuotaKeeperAddress ∉ pinnedStaticContractAddresses)
  return { accountFactoryAddress, accountFactoryRuntimeCodeSha256, poolQuotaKeeperAddress,
           poolQuotaKeeperRuntimeCodeSha256 }

/-- The accounts of a manager, with the identities and the number of accounts seen so far. -/
def parseApprovedAccounts : List Value → List String → Nat →
    Option (List ApprovedAccount × List String × Nat)
  | [], identities, accountCount => some ([], identities, accountCount)
  | value :: rest, identities, accountCount => do
    let record ← exactDataRecord value ["accountAddress", "runtimeCodeSha256"]
    let accountAddress ← readText isLowerAddress (record.get "accountAddress")
    guard (accountAddress ∉ identities ∧ accountCount + 1 ≤ maxAccounts)
    let runtimeCodeSha256 ← readText isSha256 (record.get "runtimeCodeSha256")
    let (accounts, identities, accountCount) ←
      parseApprovedAccounts rest (accountAddress :: identities) (accountCount + 1)
    return ({ accountAddress, runtimeCodeSha256 } :: accounts, identities, accountCount)

def parseApprovedManagers : List Value → List String → Nat → Option (List ApprovedManager)
  | [], _, _ => some []
  | value :: rest, identities, accountCount => do
    let record ← exactDataRecord value ["managerAddress", "managerRuntimeCodeSha256",
      "facadeAddress", "facadeRuntimeCodeSha256", "creditAccounts"]
    let managerAddress ← readText isLowerAddress (record.get "managerAddress")
    let facadeAddress ← readText isLowerAddress (record.get "facadeAddress")
    guard (managerAddress ≠ facadeAddress ∧ managerAddress ∉ identities ∧
      facadeAddress ∉ identities)
    let accountValues ← exactArray (record.get "creditAccounts") 0 (maxAccounts - accountCount)
    let (creditAccounts, identities, accountCount) ←
      parseApprovedAccounts accountValues (facadeAddress :: managerAddress :: identities) accountCount
    let managerRuntimeCodeSha256 ← readText isSha256 (record.get "managerRuntimeCodeSha256")
    let facadeRuntimeCodeSha256 ← readText isSha256 (record.get "facadeRuntimeCodeSha256")
    let managers ← parseApprovedManagers rest identities accountCount
    return { managerAddress, managerRuntimeCodeSha256, facadeAddress, facadeRuntimeCodeSha256,
             creditAccounts } :: managers

def parseApproval (value : Value) : Option Approval := do
  let record ← exactDataRecord value approvalKeys
  guard (isBoundedPlainData dataBounds maxDataDepth value = true)
  guard ((record.get "approvalVersion").isNumber 1 ∧ (record.get "use").isText approvalUse ∧
    authorityKeys.all fun key => isFalse (record.get key))
  let root ← parseApprovalRoot (record.get "root")
  let managerValues ← exactArray (record.get "managers") 0 maxManagers
  let managers ← parseApprovedManagers managerValues (pinnedStaticContractAddresses ++
    [root.accountFactoryAddress, root.poolQuotaKeeperAddress]) 0
  let manifestFingerprintSha256 ← readText isSha256 (record.get "manifestFingerprintSha256")
  let semanticsFingerprintSha256 ← readText isSha256 (record.get "semanticsFingerprintSha256")
  return { manifestFingerprintSha256, semanticsFingerprintSha256, root, managers }

end Approval

section ExecutionOrder

/-- The offset and the limit of each page. -/
def pageLimits (accounts : Nat) : List (Nat × Nat) :=
  (List.range (pageCount accounts)).map fun index =>
    (index * pageSize, min pageSize (accounts - index * pageSize))

def managerOperations (manager : ApprovedManager) : List String :=
  let managerName := "MANAGER:" ++ manager.managerAddress ++ ":"
  [managerName ++ "CODE_AND_TOPOLOGY",
    "FACADE:" ++ manager.facadeAddress ++ ":CODE_AND_REVERSE_LINK",
    managerName ++ "CREDIT_ACCOUNTS_LENGTH_BEFORE"] ++
  (pageLimits manager.creditAccounts.length).map (fun page =>
    managerName ++ "CREDIT_ACCOUNTS_PAGE:" ++ integerText page.1 ++ ":" ++ integerText page.2) ++
  manager.creditAccounts.map (fun account =>
    "ACCOUNT:" ++ account.accountAddress ++ ":CODE_TOPOLOGY_AND_DEBT") ++
  [managerName ++ "CREDIT_ACCOUNTS_LENGTH_AFTER"]

def executionOrder (approval : Approval) : List String :=
  ["CHAIN_ID_BEFORE", "SELECT_FINALIZED_BLOCK", "STATIC_CODE:ADDRESS_PROVIDER",
    "STATIC_CODE:CONTRACTS_REGISTER", "STATIC_CODE:POOL", "STATIC_CODE:UNDERLYING",
    "ROOT_DYNAMIC_CODE_AND_TOPOLOGY", "POOL_CREDIT_MANAGERS_BEFORE", "POOL_WALLET_SUPPLY"] ++
  approval.managers.flatMap managerOperations ++
  ["POOL_CREDIT_MANAGERS_AFTER", "CLOSEOUT_BLOCK", "CHAIN_ID_AFTER"]

end ExecutionOrder

end CryptoLending.SmartLending.GearboxApproval
