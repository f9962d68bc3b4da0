import CryptoLending.Lib.IsoText
import CryptoLending.SmartLending.GearboxApproval

namespace CryptoLending.SmartLending.GearboxTranscript

open Lib Lib.JsValue Lib.JsReading GearboxApproval

def maxUint256 : Nat := 2 ^ 256 - 1
def maxUint128 : Nat := 2 ^ 128 - 1
def maxUint64 : Nat := 2 ^ 64 - 1
def maxUint16 : Nat := 2 ^ 16 - 1
def maxQuotedTokens : Nat := 256

def transcriptUse : String :=
  "DORMANT_GEARBOX_V3_ACCOUNT_POSITION_TRANSCRIPT_VALIDATION_ONLY"

def transcriptKeys : List String :=
  ["transcriptVersion", "use"] ++ authorityKeys ++
    ["manifestFingerprintSha256", "semanticsFingerprintSha256", "approvalFingerprintSha256",
      "walletAddress", "evaluatedAt", "chainIdBefore", "blockSelector", "selectedBlock",
      "blockBinding", "continuityFloor", "staticCodeReads", "root", "managerAddressesBefore",
      "supply", "managers", "managerAddressesAfter", "closeoutBlock", "chainIdAfter",
      "executionOrder"]

section Records

/-- A block with the number of its numerals. -/
structure ParsedBlock where
  number : Nat
  hash : String
  parentHash : String
  stateRoot : String
  timestamp : Nat
  deriving DecidableEq

structure ContinuityFloor where
  blockNumber : Nat
  blockHash : String

structure CodeRead where
  role : String
  address : String
  blockHash : String
  observedRuntimeCodeSha256 : String
  deriving DecidableEq

structure Supply where
  blockHash : String
  walletAddress : String
  sharesAtomic : Nat
  totalAssetsAtomic : Nat
  totalSupplyAtomic : Nat

structure Page where
  offset : Nat
  limit : Nat
  accountAddresses : List String

structure AccountInfo where
  debtAtomic : Nat
  cumulativeIndexLastUpdate : Nat
  enabledTokensMask : Nat
  borrowerAddress : String

structure DebtOnly where
  debtAtomic : Nat
  cumulativeIndexLastUpdate : Nat
  accruedInterestAtomic : Nat
  accruedFeesAtomic : Nat
  enabledTokensMask : Nat
  poolQuotaKeeper : String

structure AccountRecord where
  accountAddress : String
  runtimeCodeSha256 : String
  creditManager : String
  factory : String
  creditAccountInfo : AccountInfo
  debtOnly : DebtOnly

structure ManagerRecord where
  managerAddress : String
  blockHash : String
  managerRuntimeCodeSha256 : String
  pool : String
  underlying : String
  addressProvider : String
  accountFactory : String
  creditFacade : String
  poolQuotaKeeper : String
  facadeRuntimeCodeSha256 : String
  facadeCreditManager : String
  creditAccountsLengthBefore : Nat
  creditAccountsLengthAfter : Nat
  pages : List Page
  accounts : List AccountRecord

end Records

section Reading

def readAddressArray (maximum : Nat) (value : Value) : Option (List String) := do
  let items ← exactArray value 0 maximum
  let values ← items.mapM (readText isLowerAddress)
  guard values.Nodup
  return values

def parseBlock (value : Value) : Option ParsedBlock := do
  let record ← exactDataRecord value ["number", "hash", "parentHash", "stateRoot", "timestamp"]
  let number ← readUint maxUint256 (record.get "number")
  let hash ← readText isEvmHash (record.get "hash")
  let parentHash ← readText isEvmHash (record.get "parentHash")
  let stateRoot ← readText isEvmHash (record.get "stateRoot")
  let timestamp ← readUint maxUint256 (record.get "timestamp")
  return { number, hash, parentHash, stateRoot, timestamp }

def readFloor (value : Value) : Option ContinuityFloor := do
  let record ← exactDataRecord value ["kind", "blockNumber", "blockHash"]
  guard ((record.get "kind").isText "EVM_BLOCK")
  let blockNumber ← readUint maxUint256 (record.get "blockNumber")
  let blockHash ← readText isEvmHash (record.get "blockHash")
  return { blockNumber, blockHash }

def readCodeRead (value : Value) : Option CodeRead := do
  let record ← exactDataRecord value
    ["role", "address", "blockHash", "requireCanonical", "observedRuntimeCodeSha256"]
  let role ← (record.get "role").string?
  let address ← readText isLowerAddress (record.get "address")
  let blockHash ← readText isEvmHash (record.get "blockHash")
  guard (isTrue (record.get "requireCanonical"))
  let observedRuntimeCodeSha256 ← readText isSha256 (record.get "observedRuntimeCodeSha256")
  return { role, address, blockHash, observedRuntimeCodeSha256 }

def readSupply (value : Value) : Option Supply := do
  let record ← exactDataRecord value ["blockHash", "requireCanonical", "walletAddress",
    "sharesAtomic", "totalAssetsAtomic", "totalSupplyAtomic"]
  let blockHash ← readText isEvmHash (record.get "blockHash")
  guard (isTrue (record.get "requireCanonical"))
  let walletAddress ← readText isLowerAddress (record.get "walletAddress")
  let sharesAtomic ← readUint maxUint256 (record.get "sharesAtomic")
  let totalAssetsAtomic ← readUint maxUint256 (record.get "totalAssetsAtomic")
  let totalSupplyAtomic ← readUint maxUint256 (record.get "totalSupplyAtomic")
  return { blockHash, walletAddress, sharesAtomic, totalAssetsAtomic, totalSupplyAtomic }

def readPage (value : Value) : Option Page := do
  let record ← exactDataRecord value ["offset", "limit", "accountAddresses"]
  let offset ← readUint maxAccounts (record.get "offset")
  let limit ← readUint pageSize (record.get "limit")
  let accountAddresses ← readAddressArray pageSize (record.get "accountAddresses")
  return { offset, limit, accountAddresses }

def readAccountInfo (value : Value) : Option AccountInfo := do
  let info ← exactDataRecord value ["debtAtomic", "cumulativeIndexLastUpdate",
    "cumulativeQuotaInterest", "quotaFees", "enabledTokensMask", "flags", "lastDebtUpdate",
    "borrowerAddress"]
  let debtAtomic ← readUint maxUint256 (info.get "debtAtomic")
  let cumulativeIndexLastUpdate ← readUint maxUint256 (info.get "cumulativeIndexLastUpdate")
  let _ ← readUint maxUint128 (info.get "cumulativeQuotaInterest")
  let _ ← readUint maxUint128 (info.get "quotaFees")
  let enabledTokensMask ← readUint maxUint256 (info.get "enabledTokensMask")
  let _ ← readUint maxUint16 (info.get "flags")
  let _ ← readUint maxUint64 (info.get "lastDebtUpdate")
  let borrowerAddress ← readText isLowerAddress (info.get "borrowerAddress")
  return { debtAtomic, cumulativeIndexLastUpdate, enabledTokensMask, borrowerAddress }

def readDebtOnly (value : Value) : Option DebtOnly := do
  let debtOnly ← exactDataRecord value ["debtAtomic", "cumulativeIndexNow",
    "cumulativeIndexLastUpdate", "cumulativeQuotaInterest", "accruedInterestAtomic",
    "accruedFeesAtomic", "totalDebtUsd", "totalValue", "totalValueUsd", "twvUsd",
    "enabledTokensMask", "quotedTokensMask", "quotedTokenAddresses", "poolQuotaKeeper"]
  let debtAtomic ← readUint maxUint256 (debtOnly.get "debtAtomic")
  let _ ← readUint maxUint256 (debtOnly.get "cumulativeIndexNow")
  let cumulativeIndexLastUpdate ← readUint maxUint256 (debtOnly.get "cumulativeIndexLastUpdate")
  let _ ← readUint maxUint128 (debtOnly.get "cumulativeQuotaInterest")
  let accruedInterestAtomic ← readUint maxUint256 (debtOnly.get "accruedInterestAtomic")
  let accruedFeesAtomic ← readUint maxUint256 (debtOnly.get "accruedFeesAtomic")
  let _ ← ["totalDebtUsd", "totalValue", "totalValueUsd", "twvUsd"].mapM fun key =>
    readUint maxUint256 (debtOnly.get key)
  let enabledTokensMask ← readUint maxUint256 (debtOnly.get "enabledTokensMask")
  let _ ← readUint maxUint256 (debtOnly.get "quotedTokensMask")
  let _ ← readAddressArray maxQuotedTokens (debtOnly.get "quotedTokenAddresses")
  let poolQuotaKeeper ← readText isLowerAddress (debtOnly.get "poolQuotaKeeper")
  return { debtAtomic, cumulativeIndexLastUpdate, accruedInterestAtomic, accruedFeesAtomic,
           enabledTokensMask, poolQuotaKeeper }

def readAccount (value : Value) : Option AccountRecord := do
  let record ← exactDataRecord value ["accountAddress", "runtimeCodeSha256", "creditManager",
    "factory", "version", "creditAccountInfo", "debtOnly"]
  let accountAddress ← readText isLowerAddress (record.get "accountAddress")
  let runtimeCodeSha256 ← readText isSha256 (record.get "runtimeCodeSha256")
  let creditManager ← readText isLowerAddress (record.get "creditManager")
  let factory ← readText isLowerAddress (record.get "factory")
  guard ((record.get "version").isText supportedContractVersion)
  let creditAccountInfo ← readAccountInfo (record.get "creditAccountInfo")
  let debtOnly ← readDebtOnly (record.get "debtOnly")
  return { accountAddress, runtimeCodeSha256, creditManager, factory, creditAccountInfo, debtOnly }

def readManager (value : Value) : Option ManagerRecord := do
  let record ← exactDataRecord value ["managerAddress", "blockHash", "requireCanonical",
    "managerRuntimeCodeSha256", "pool", "underlying", "addressProvider", "accountFactory",
    "creditFacade", "poolQuotaKeeper", "version", "facadeRuntimeCodeSha256",
    "facadeCreditManager", "facadeVersion", "creditAccountsLengthBefore", "pages", "accounts",
    "creditAccountsLengthAfter"]
  let managerAddress ← readText isLowerAddress (record.get "managerAddress")
  let blockHash ← readText isEvmHash (record.get "blockHash")
  guard (isTrue (record.get "requireCanonical"))
  let managerRuntimeCodeSha256 ← readText isSha256 (record.get "managerRuntimeCodeSha256")
  let pool ← readText isLowerAddress (record.get "pool")
  let underlying ← readText isLowerAddress (record.get "underlying")
  let addressProvider ← readText isLowerAddress (record.get "addressProvider")
  let accountFactory ← readText isLowerAddress (record.get "accountFactory")
  let creditFacade ← readText isLowerAddress (record.get "creditFacade")
  let poolQuotaKeeper ← readText isLowerAddress (record.get "poolQuotaKeeper")
  guard ((record.get "version").isText supportedContractVersion)
  let facadeRuntimeCodeSha256 ← readText isSha256 (record.get "facadeRuntimeCodeSha256")
  let facadeCreditManager ← readText isLowerAddress (record.get "facadeCreditManager")
  guard ((record.get "facadeVersion").isText supportedContractVersion)
  let creditAccountsLengthBefore ← readUint maxAccounts (record.get "creditAccountsLengthBefore")
  let creditAccountsLengthAfter ← readUint maxAccounts (record.get "creditAccountsLengthAfter")
  let pageValues ← exactArray (record.get "pages") 0 (pageCount creditAccountsLengthBefore)
  let pages ← pageValues.mapM readPage
  let accountValues ← exactArray (record.get "accounts") 0 creditAccountsLengthBefore
  let accounts ← accountValues.mapM readAccount
  return { managerAddress, blockHash, managerRuntimeCodeSha256, pool, underlying, addressProvider,
           accountFactory, creditFacade, poolQuotaKeeper, facadeRuntimeCodeSha256,
           facadeCreditManager, creditAccountsLengthBefore, creditAccountsLengthAfter, pages,
           accounts }

end Reading

section Transcript

structure Transcript where
  manifestFingerprintSha256 : String
  semanticsFingerprintSha256 : String
  approvalFingerprintSha256 : String
  walletAddress : String
  evaluatedAt : String
  evaluatedMilliseconds : Int
  selectedBlock : ParsedBlock
  closeoutBlock : ParsedBlock
  continuityFloor : ContinuityFloor
  staticCodeReads : List CodeRead
  root : Record
  managerAddressesBefore : List String
  managerAddressesAfter : List String
  supply : Supply
  managers : List ManagerRecord
  executionOrder : List String

def rootKeys : List String :=
  ["blockHash", "requireCanonical", "contractsRegisterFromAddressProvider",
    "accountFactoryFromAddressProvider", "poolRegistered", "poolAddressProvider",
    "poolUnderlying", "poolAsset", "poolVersion", "poolDecimals", "underlyingDecimals",
    "poolQuotaKeeper", "poolQuotaKeeperRuntimeCodeSha256", "poolQuotaKeeperPool",
    "poolQuotaKeeperUnderlying", "poolQuotaKeeperVersion", "accountFactoryRuntimeCodeSha256",
    "accountFactoryVersion"]

/-- Every failure is the same, so a transcript is read as a whole before it is compared with what
was approved. -/
def readTranscript (approval : Approval) (value : Value) : Option Transcript := do
  let record ← exactDataRecord value transcriptKeys
  guard (isBoundedPlainData dataBounds maxDataDepth value = true)
  guard ((record.get "transcriptVersion").isNumber 1 ∧ (record.get "use").isText transcriptUse ∧
    authorityKeys.all fun key => isFalse (record.get key))
  let manifestFingerprintSha256 ← readText isSha256 (record.get "manifestFingerprintSha256")
  let semanticsFingerprintSha256 ← readText isSha256 (record.get "semanticsFingerprintSha256")
  let approvalFingerprintSha256 ← readText isSha256 (record.get "approvalFingerprintSha256")
  guard ((record.get "chainIdBefore").isText expectedChainId ∧
    (record.get "chainIdAfter").isText expectedChainId ∧
      (record.get "blockSelector").isText blockSelector ∧
        (record.get "blockBinding").isText blockBinding)
  let walletAddress ← readText isLowerAddress (record.get "walletAddress")
  let evaluatedAt ← (record.get "evaluatedAt").string?
  let evaluatedMilliseconds ← IsoDate.parse evaluatedAt
  let selectedBlock ← parseBlock (record.get "selectedBlock")
  let closeoutBlock ← parseBlock (record.get "closeoutBlock")
  let continuityFloor ← readFloor (record.get "continuityFloor")
  let codeReadValues ← exactArray (record.get "staticCodeReads") 0 4
  let staticCodeReads ← codeReadValues.mapM readCodeRead
  let root ← exactDataRecord (record.get "root") rootKeys
  let managerAddressesBefore ← readAddressArray maxManagers (record.get "managerAddressesBefore")
  let managerAddressesAfter ← readAddressArray maxManagers (record.get "managerAddressesAfter")
  let supply ← readSupply (record.get "supply")
  let managerValues ← exactArray (record.get "managers") 0 maxManagers
  let managers ← managerValues.mapM readManager
  let operations ← exactArray (record.get "executionOrder") 0 (executionOrder approval).length
  let executionOrder ← operations.mapM Value.string?
  return { manifestFingerprintSha256, semanticsFingerprintSha256, approvalFingerprintSha256,
           walletAddress, evaluatedAt, evaluatedMilliseconds, selectedBlock, closeoutBlock,
           continuityFloor, staticCodeReads, root, managerAddressesBefore, managerAddressesAfter,
           supply, managers, executionOrder }

end Transcript

section Checks

/-- The reads that are expected of the static contracts, in their order. -/
def expectedCodeReads (manifest : GearboxV3EthereumUSDCManifest) (selectedBlockHash : String) :
    List CodeRead :=
  [⟨"ADDRESS_PROVIDER", manifest.contracts.addressProvider, selectedBlockHash,
      manifest.runtimeCodeSha256.addressProvider⟩,
    ⟨"CONTRACTS_REGISTER", manifest.contracts.contractsRegister, selectedBlockHash,
      manifest.runtimeCodeSha256.contractsRegister⟩,
    ⟨"POOL", manifest.contracts.pool, selectedBlockHash, manifest.runtimeCodeSha256.pool⟩,
    ⟨"UNDERLYING", manifest.contracts.underlying, selectedBlockHash,
      manifest.runtimeCodeSha256.underlying⟩]

/-- Each read is compared with the definition at its index. -/
def codeReadsMatch : List CodeRead → List CodeRead → Bool
  | [], _ => true
  | _ :: _, [] => false
  | read :: reads, definition :: definitions =>
    decide (read = definition) && codeReadsMatch reads definitions

def rootTexts (manifest : GearboxV3EthereumUSDCManifest) (root : ApprovalRoot)
    (selectedBlockHash : String) : List (String × String) :=
  [("blockHash", selectedBlockHash),
    ("contractsRegisterFromAddressProvider", manifest.contracts.contractsRegister),
    ("accountFactoryFromAddressProvider", root.accountFactoryAddress),
    ("poolAddressProvider", manifest.contracts.addressProvider),
    ("poolUnderlying", manifest.contracts.underlying),
    ("poolAsset", manifest.contracts.underlying), ("poolVersion", supportedContractVersion),
    ("poolQuotaKeeper", root.poolQuotaKeeperAddress),
    ("poolQuotaKeeperRuntimeCodeSha256", root.poolQuotaKeeperRuntimeCodeSha256),
    ("poolQuotaKeeperPool", manifest.contracts.pool),
    ("poolQuotaKeeperUnderlying", manifest.contracts.underlying),
    ("poolQuotaKeeperVersion", supportedContractVersion),
    ("accountFactoryRuntimeCodeSha256", root.accountFactoryRuntimeCodeSha256),
    ("accountFactoryVersion", supportedContractVersion)]

def rootMatches (manifest : GearboxV3EthereumUSDCManifest) (approval : Approval)
    (selectedBlockHash : String) (record : Record) : Bool :=
  hasTexts record (rootTexts manifest approval.root selectedBlockHash) &&
    isTrue (record.get "requireCanonical") && isTrue (record.get "poolRegistered") &&
      (record.get "poolDecimals").isNumber poolAndUnderlyingDecimals &&
        (record.get "underlyingDecimals").isNumber poolAndUnderlyingDecimals

structure SupplyProjection where
  sharesAtomic : Nat
  totalAssetsAtomic : Nat
  totalSupplyAtomic : Nat
  exactNumerator : Nat
  denominator : Nat
  fractionalRemainder : Nat
  suppliedUnderlyingAtomic : Nat

def projectDieselSharesToUnderlyingDown (shares totalAssets totalSupply : Nat) :
    Option SupplyProjection := do
  guard (shares ≤ totalSupply)
  if totalSupply = 0 then return ⟨shares, totalAssets, 0, 0, 1, 0, 0⟩
  else
    let numerator := shares * totalAssets
    let supplied := numerator / totalSupply
    guard (supplied ≤ maxUint256)
    return ⟨shares, totalAssets, totalSupply, numerator, totalSupply, numerator % totalSupply,
      supplied⟩

def parseSupply (supply : Supply) (walletAddress selectedBlockHash : String) :
    Option SupplyProjection := do
  guard (supply.blockHash = selectedBlockHash ∧ supply.walletAddress = walletAddress)
  projectDieselSharesToUnderlyingDown supply.sharesAtomic supply.totalAssetsAtomic
    supply.totalSupplyAtomic

def projectCreditAccountDebt (principal interest fees : Nat) : Option Nat := do
  guard (principal + interest ≤ maxUint256)
  guard (principal + interest + fees ≤ maxUint256)
  return principal + interest + fees

/-- The borrower of an account and what it owes. -/
def parseAccount (record : AccountRecord) (approvedAccount : ApprovedAccount)
    (manager : ApprovedManager) (approval : Approval) : Option (String × Nat) := do
  guard (record.accountAddress = approvedAccount.accountAddress ∧
    record.runtimeCodeSha256 = approvedAccount.runtimeCodeSha256 ∧
      record.creditManager = manager.managerAddress ∧
        record.factory = approval.root.accountFactoryAddress)
  let info := record.creditAccountInfo
  let debtOnly := record.debtOnly
  guard (info.debtAtomic = debtOnly.debtAtomic ∧
    info.cumulativeIndexLastUpdate = debtOnly.cumulativeIndexLastUpdate ∧
      info.enabledTokensMask = debtOnly.enabledTokensMask ∧
        debtOnly.poolQuotaKeeper = approval.root.poolQuotaKeeperAddress)
  let debt ← projectCreditAccountDebt debtOnly.debtAtomic debtOnly.accruedInterestAtomic
    debtOnly.accruedFeesAtomic
  return (info.borrowerAddress, debt)

/-- The accounts of a manager, each against the account that was approved at its index. -/
def parseAccounts (manager : ApprovedManager) (approval : Approval) :
    List AccountRecord → List ApprovedAccount → Option (List (String × Nat))
  | _, [] => some []
  | [], _ :: _ => none
  | record :: records, account :: accounts => do
    let parsed ← parseAccount record account manager approval
    let rest ← parseAccounts manager approval records accounts
    return parsed :: rest

/-- The pages of a manager have the expected offsets and are full. -/
def pagesMatch (beforeLength : Nat) (pages : List Page) : Bool :=
  decide (pages.map (fun page => (page.offset, page.limit)) = pageLimits beforeLength) &&
    decide (pages.map (·.accountAddresses.length) = (pageLimits beforeLength).map Prod.snd)

def managerMatches (record : ManagerRecord) (approvedManager : ApprovedManager)
    (approval : Approval) (manifest : GearboxV3EthereumUSDCManifest) (selectedBlockHash : String) :
    Bool :=
  decide (record.managerAddress = approvedManager.managerAddress ∧
    record.blockHash = selectedBlockHash ∧
    record.managerRuntimeCodeSha256 = approvedManager.managerRuntimeCodeSha256 ∧
    record.pool = manifest.contracts.pool ∧ record.underlying = manifest.contracts.underlying ∧
    record.addressProvider = manifest.contracts.addressProvider ∧
    record.accountFactory = approval.root.accountFactoryAddress ∧
    record.creditFacade = approvedManager.facadeAddress ∧
    record.poolQuotaKeeper = approval.root.poolQuotaKeeperAddress ∧
    record.facadeRuntimeCodeSha256 = approvedManager.facadeRuntimeCodeSha256 ∧
    record.facadeCreditManager = approvedManager.managerAddress)

structure ParsedManagers where
  walletDebts : List Nat
  totalAccountCount : Nat

def parseManager (record : ManagerRecord) (approvedManager : ApprovedManager) (approval : Approval)
    (manifest : GearboxV3EthereumUSDCManifest) (selectedBlockHash walletAddress : String)
    (parsed : ParsedManagers) : Option ParsedManagers := do
  guard (managerMatches record approvedManager approval manifest selectedBlockHash = true)
  let beforeLength := record.creditAccountsLengthBefore
  guard (beforeLength = approvedManager.creditAccounts.length ∧
    record.creditAccountsLengthAfter = beforeLength)
  let totalAccountCount := parsed.totalAccountCount + beforeLength
  guard (totalAccountCount ≤ maxAccounts)
  guard (pagesMatch beforeLength record.pages = true)
  guard (record.pages.flatMap (·.accountAddresses) =
    approvedManager.creditAccounts.map (·.accountAddress))
  guard (record.accounts.length = beforeLength)
  let accounts ← parseAccounts approvedManager approval record.accounts
    approvedManager.creditAccounts
  let walletDebts := (accounts.filter fun account => account.1 = walletAddress).map Prod.snd
  return { walletDebts := parsed.walletDebts ++ walletDebts, totalAccountCount }

/-- The managers in their order, with what was collected from those before. -/
def parseManagers (approval : Approval) (manifest : GearboxV3EthereumUSDCManifest)
    (selectedBlockHash walletAddress : String) :
    List ManagerRecord → List ApprovedManager → ParsedManagers → Option ParsedManagers
  | [], [], parsed => some parsed
  | record :: records, manager :: managers, parsed => do
    let parsed ← parseManager record manager approval manifest selectedBlockHash walletAddress parsed
    parseManagers approval manifest selectedBlockHash walletAddress records managers parsed
  | _, _, _ => none

def aggregateCreditAccountDebtAtomic (debts : List Nat) : Option Nat := do
  guard (debts.length ≤ maxAccounts)
  debts.foldlM (fun total debt => do
    guard (total + debt ≤ maxUint256)
    return total + debt) 0

end Checks

section Evaluation

/-- The digests of canonical texts, which a hash function computes. -/
structure Fingerprints where
  manifest : GearboxV3EthereumUSDCManifest → String
  approval : Approval → String
  transcript : Value → String

structure DormantGearboxV3AccountPositionTranscriptEvaluator where
  manifest : GearboxV3EthereumUSDCManifest
  manifestFingerprintSha256 : String
  approval : Approval
  approvalFingerprintSha256 : String

structure DormantGearboxV3AccountPositionTranscriptResult where
  walletAddress : String
  evaluatedAt : String
  blockNumber : Nat
  blockHash : String
  managerCount : Nat
  creditAccountCount : Nat
  walletOwnedCreditAccountCount : Nat
  suppliedUnderlyingAtomicFloor : Nat
  borrowedUnderlyingAtomic : Nat
  supplyProjection : SupplyProjection
  manifestFingerprintSha256 : String
  semanticsFingerprintSha256 : String
  approvalFingerprintSha256 : String
  transcriptFingerprintSha256 : String

variable (F : Fingerprints)

def newEvaluator (manifestValue requiredManifestFingerprintSha256
    requiredSemanticsFingerprintSha256 approvalValue requiredApprovalFingerprintSha256 : Value) :
    Option DormantGearboxV3AccountPositionTranscriptEvaluator := do
  let manifest ← parseGearboxV3EthereumUSDCManifest manifestValue
  let approval ← parseApproval approvalValue
  let requiredManifest ← readText isSha256 requiredManifestFingerprintSha256
  let requiredApproval ← readText isSha256 requiredApprovalFingerprintSha256
  guard (requiredManifest = F.manifest manifest ∧
    requiredSemanticsFingerprintSha256.isText semanticsFingerprintSha256 ∧
      requiredApproval = F.approval approval ∧
        approval.manifestFingerprintSha256 = F.manifest manifest ∧
          approval.semanticsFingerprintSha256 = semanticsFingerprintSha256)
  return {
    manifest
    manifestFingerprintSha256 := F.manifest manifest
    approval
    approvalFingerprintSha256 := F.approval approval }

variable (e : DormantGearboxV3AccountPositionTranscriptEvaluator)

/-- The selected block is recent, was closed out and does not lie behind the floor. -/
def blockMatches (t : Transcript) : Bool :=
  let selectedTimeMilliseconds : Int := t.selectedBlock.timestamp * 1000
  let maximumAgeMilliseconds : Int := e.manifest.maximumBlockAgeSeconds * 1000
  decide (t.selectedBlock = t.closeoutBlock) &&
    decide (¬(t.selectedBlock.number = 0 ∨ t.evaluatedMilliseconds < selectedTimeMilliseconds ∨
      maximumAgeMilliseconds ≤ t.evaluatedMilliseconds - selectedTimeMilliseconds)) &&
    decide (¬(t.selectedBlock.number < t.continuityFloor.blockNumber ∨
      (t.selectedBlock.number = t.continuityFloor.blockNumber ∧
        t.selectedBlock.hash ≠ t.continuityFloor.blockHash)))

def evaluate (transcriptValue : Value) : Option DormantGearboxV3AccountPositionTranscriptResult := do
  let t ← readTranscript e.approval transcriptValue
  guard (t.manifestFingerprintSha256 = e.manifestFingerprintSha256 ∧
    t.semanticsFingerprintSha256 = semanticsFingerprintSha256 ∧
      t.approvalFingerprintSha256 = e.approvalFingerprintSha256)
  guard (blockMatches e t = true)
  let selectedBlockHash := t.selectedBlock.hash
  guard (codeReadsMatch t.staticCodeReads (expectedCodeReads e.manifest selectedBlockHash) = true)
  guard (rootMatches e.manifest e.approval selectedBlockHash t.root = true)
  let approvedManagers := e.approval.managers.map (·.managerAddress)
  guard (t.managerAddressesBefore = approvedManagers ∧ t.managerAddressesAfter = approvedManagers)
  let supplyProjection ← parseSupply t.supply t.walletAddress selectedBlockHash
  let managers ← parseManagers e.approval e.manifest selectedBlockHash t.walletAddress t.managers
    e.approval.managers ⟨[], 0⟩
  guard (t.executionOrder = executionOrder e.approval)
  let debt ← aggregateCreditAccountDebtAtomic managers.walletDebts
  return {
    walletAddress := t.walletAddress
    evaluatedAt := t.evaluatedAt
    blockNumber := t.selectedBlock.number
    blockHash := selectedBlockHash
    managerCount := e.approval.managers.length
    creditAccountCount := managers.totalAccountCount
    walletOwnedCreditAccountCount := managers.walletDebts.length
    suppliedUnderlyingAtomicFloor := supplyProjection.suppliedUnderlyingAtomic
    borrowedUnderlyingAtomic := debt
    supplyProjection
    manifestFingerprintSha256 := e.manifestFingerprintSha256
    semanticsFingerprintSha256
    approvalFingerprintSha256 := e.approvalFingerprintSha256
    transcriptFingerprintSha256 := F.transcript transcriptValue }

end Evaluation

end CryptoLending.SmartLending.GearboxTranscript
