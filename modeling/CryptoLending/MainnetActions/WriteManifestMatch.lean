import CryptoLending.Lib.Hex
import CryptoLending.MainnetActions.WriteManifest

namespace CryptoLending.MainnetActions.WriteManifestMatch

open Lib Lib.Bytes Lib.Hex Lib.Identifier Lib.JsValue Lib.Text Intent WriteManifest
open Blockchain.LaunchNetwork (MainnetLaunchNetworkId)
open SolanaPublicKey (decodeCanonicalSolanaPublicKey)
open SolanaSignedTransaction (MessageVersion)

section Fields

/-- The fields of an intent that a manifest can refer to. -/
inductive IntentField where
  | walletAddress
  | assetIdentity
  | marketId
  | amountAtomic
  | allowanceAmountAtomic
  deriving DecidableEq

def intentField (intent : DormantMainnetFinancialActionIntent) : IntentField → String
  | .walletAddress => intent.walletAddress
  | .assetIdentity => intent.assetIdentity
  | .marketId => intent.marketId
  | .amountAtomic => intent.amountAtomic
  | .allowanceAmountAtomic => intent.allowanceAmountAtomic

/-- The field behind a source. Whatever is no known text is the market. -/
def addressField (source : Value) : IntentField :=
  if source.isText "INTENT_WALLET_ADDRESS" then .walletAddress
  else if source.isText "INTENT_ASSET_IDENTITY" then .assetIdentity
  else .marketId

def addressFromIntent (intent : DormantMainnetFinancialActionIntent) (source : Value) : String :=
  intentField intent (addressField source)

def unsignedIntegerField (source : Value) : IntentField :=
  if source.isText "INTENT_AMOUNT_ATOMIC" then .amountAtomic else .allowanceAmountAtomic

def unsignedIntegerFromIntent (intent : DormantMainnetFinancialActionIntent) (source : Value) :
    String :=
  intentField intent (unsignedIntegerField source)

end Fields

section Encoding

variable (P : Platform)

def canonicalUnsignedInteger (bits : Nat) (value : String) : Except MatchCode Nat :=
  if fitsBits bits value.toList then .ok (decimalValue value.toList)
  else .error .invalidWriteManifest

def uint256Word (bits : Nat) (value : String) : Except MatchCode (List Char) := do
  let parsed ← canonicalUnsignedInteger bits value
  return hexWord 64 parsed

def addressWord (value : String) : Except MatchCode (List Char) := do
  failWhen (!isPrefixedHex 40 value.toList) .invalidWriteManifest
  return (value.toList.drop 2).leftpad 64 '0'

def bytes32Word (value : String) : Except MatchCode (List Char) := do
  failWhen (!isPrefixedHex 64 value.toList) .signedCommandMismatch
  return value.toList.drop 2

def ethereumArgumentWord (intent : DormantMainnetFinancialActionIntent) :
    EthereumWriteManifestArgument → Except MatchCode (List Char)
  | .addressStatic value => addressWord value.text
  | .address source => addressWord (addressFromIntent intent source)
  | .uintStatic width value => uint256Word width.bits value.text
  | .uint width source => uint256Word width.bits (unsignedIntegerFromIntent intent source)
  | .bytes32Static value => bytes32Word value.text
  | .bytes32MarketId => bytes32Word intent.marketId
  | .bool value => .ok (List.replicate 63 '0' ++ [if value then '1' else '0'])

/-- The first four bytes of the hash of a signature. -/
def selector (functionSignature : String) : List Char :=
  ((P.keccak256 (utf8 functionSignature)).text.toList.drop 2).take 8

def expectedEthereumCalldata (manifest : EthereumWriteManifest)
    (intent : DormantMainnetFinancialActionIntent) : Except MatchCode String := do
  let words ← manifest.arguments.mapM (ethereumArgumentWord intent)
  return String.ofList ('0' :: 'x' :: (selector P manifest.functionSignature ++ words.flatten))

/-- The lowest bytes of a number, lowest first. -/
def littleEndian : Nat → Nat → List UInt8
  | 0, _ => []
  | width + 1, n => UInt8.ofNat n :: littleEndian width (n / 256)

def littleEndianU64 (value : String) : Except MatchCode (List UInt8) := do
  let parsed ← canonicalUnsignedInteger 64 value
  return littleEndian 8 parsed

def publicKeyBytes (address : String) : Except MatchCode (List UInt8) := do
  let bytes ← orFail (decodeCanonicalSolanaPublicKey (.string address)).toOption
    .invalidWriteManifest
  return bytes.map UInt8.ofNat

def solanaDataChunk (intent : DormantMainnetFinancialActionIntent) :
    SolanaWriteManifestDataSegment → Except MatchCode (List UInt8)
  | .staticHex value => .ok (hexBytes value.text.toList)
  | .u64Static value => littleEndianU64 value.text
  | .u64 source => littleEndianU64 (unsignedIntegerFromIntent intent source)
  | .publicKeyStatic value => publicKeyBytes value.text
  | .publicKey source => publicKeyBytes (addressFromIntent intent source)

def expectedSolanaData (segments : List SolanaWriteManifestDataSegment)
    (intent : DormantMainnetFinancialActionIntent) : Except MatchCode String := do
  let chunks ← segments.mapM (solanaDataChunk intent)
  return String.ofList (toHex chunks.flatten)

end Encoding

section Commands

structure VerifiedSolanaInstructionAccount where
  address : String
  isSigner : Bool
  isWritable : Bool
  deriving DecidableEq

structure VerifiedSolanaInstruction where
  programId : String
  accounts : List VerifiedSolanaInstructionAccount
  dataHex : String
  deriving DecidableEq

/-- The evidence of a verified command that its binding holds. -/
structure SignedCommandEvidence where
  transactionId : String
  signedEnvelopeSha256 : String
  signingPayloadSha256 : String
  signatureEvidenceSha256 : String
  chainReplayIdentitySha256 : String

structure VerifiedEthereumMainnetSignedTransaction extends SignedCommandEvidence where
  transactionTarget : String
  maximumNetworkFeeAtomic : String
  calldata : String

structure VerifiedSolanaMainnetSignedTransaction extends SignedCommandEvidence where
  messageVersion : MessageVersion
  instructions : List VerifiedSolanaInstruction

/-- The kind of a command tells its network. -/
inductive VerifiedSignedCommand where
  | ethereum (command : VerifiedEthereumMainnetSignedTransaction)
  | solana (command : VerifiedSolanaMainnetSignedTransaction)

def VerifiedSignedCommand.evidence : VerifiedSignedCommand → SignedCommandEvidence
  | .ethereum command => command.toSignedCommandEvidence
  | .solana command => command.toSignedCommandEvidence

end Commands

section Matching

variable (P : Platform)

def expectedAddress (intent : DormantMainnetFinancialActionIntent) : AccountSource → String
  | .static address => address.text
  | .intent source => addressFromIntent intent source

def accountMatches (actual : VerifiedSolanaInstructionAccount)
    (expected : SolanaWriteManifestAccount) (intent : DormantMainnetFinancialActionIntent) : Bool :=
  actual.address == expectedAddress intent expected.source &&
    actual.isSigner == expected.isSigner && actual.isWritable == expected.isWritable

def matchInstruction (intent : DormantMainnetFinancialActionIntent)
    (actual : VerifiedSolanaInstruction) (expected : SolanaWriteManifestInstruction) :
    Except MatchCode Unit := do
  failWhen (actual.programId ≠ expected.programId.text ∨
    actual.accounts.length ≠ expected.accounts.length) .signedCommandMismatch
  let data ← expectedSolanaData expected.data intent
  failWhen (actual.dataHex ≠ data) .signedCommandMismatch
  failWhen (!(actual.accounts.zip expected.accounts).all
    (fun pair => accountMatches pair.1 pair.2 intent)) .signedCommandMismatch

/-- Instruction by instruction, for as many as both sides have. -/
def matchInstructions (intent : DormantMainnetFinancialActionIntent) :
    List VerifiedSolanaInstruction → List SolanaWriteManifestInstruction → Except MatchCode Unit
  | actual :: actuals, expected :: expecteds => do
    matchInstruction intent actual expected
    matchInstructions intent actuals expecteds
  | _, _ => .ok ()

def matchCommand (manifest : MainnetFinancialActionWriteManifest)
    (intent : DormantMainnetFinancialActionIntent) (command : VerifiedSignedCommand) :
    Except MatchCode Unit :=
  match manifest, command with
  | .ethereum manifest, .ethereum command => do
    failWhen (command.transactionTarget ≠ manifest.transactionTarget.text ∨
      command.maximumNetworkFeeAtomic ≠ intent.maximumNetworkFeeAtomic) .signedCommandMismatch
    let calldata ← expectedEthereumCalldata P manifest intent
    failWhen (command.calldata ≠ calldata) .signedCommandMismatch
  | .solana manifest, .solana command => do
    failWhen (command.messageVersion ≠ manifest.messageVersion ∨
      command.instructions.length ≠ manifest.instructions.length) .signedCommandMismatch
    matchInstructions intent command.instructions manifest.instructions
  | _, _ => .error .signedCommandMismatch

end Matching

section Registry

variable (P : Platform)

section Json

def staticArgument (encoding : String) (value : Value) : Value :=
  ofFields [("encoding", .string encoding), ("source", .string "STATIC"), ("value", value)]

def boundArgument (encoding : String) (source : Value) : Value :=
  ofFields [("encoding", .string encoding), ("source", source)]

def normalizedEthereumArgument : EthereumWriteManifestArgument → Value
  | .addressStatic value => staticArgument "ADDRESS" (.string value.text)
  | .address source => boundArgument "ADDRESS" source
  | .uintStatic width value => staticArgument width.encoding (.string value.text)
  | .uint width source => boundArgument width.encoding source
  | .bytes32Static value => staticArgument "BYTES32" (.string value.text)
  | .bytes32MarketId => boundArgument "BYTES32" (.string "INTENT_MARKET_ID")
  | .bool value => staticArgument "BOOL" (.boolean value)

def normalizedSolanaAccount (account : SolanaWriteManifestAccount) : Value :=
  match account.source with
  | .static address => ofFields [("source", .string "STATIC"), ("address", .string address.text),
      ("isSigner", .boolean account.isSigner), ("isWritable", .boolean account.isWritable)]
  | .intent source => ofFields [("source", source), ("isSigner", .boolean account.isSigner),
      ("isWritable", .boolean account.isWritable)]

def normalizedSolanaDataSegment : SolanaWriteManifestDataSegment → Value
  | .staticHex value =>
    ofFields [("encoding", .string "STATIC_HEX"), ("value", .string value.text)]
  | .u64Static value => staticArgument "U64_LE" (.string value.text)
  | .u64 source => boundArgument "U64_LE" source
  | .publicKeyStatic value => staticArgument "PUBLIC_KEY" (.string value.text)
  | .publicKey source => boundArgument "PUBLIC_KEY" source

def normalizedSolanaInstruction (instruction : SolanaWriteManifestInstruction) : Value :=
  ofFields [("programId", .string instruction.programId.text),
    ("accounts", ofItems (instruction.accounts.map normalizedSolanaAccount)),
    ("data", ofItems (instruction.data.map normalizedSolanaDataSegment))]

def commonFields (common : WriteManifestCommon) (kind networkId marketId assetIdentity : String) :
    List (String × Value) :=
  [("schemaVersion", .integer 1), ("manifestId", .string common.manifestId.text),
    ("kind", .string kind), ("networkId", .string networkId),
    ("providerId", .string common.providerId), ("protocolId", .string common.protocolId),
    ("marketId", .string marketId),
    ("assetRegistryVersion", .integer common.assetRegistryVersion),
    ("assetRegistryFingerprintSha256", .string common.assetRegistryFingerprintSha256.text),
    ("assetSymbol", .string common.assetSymbol), ("assetIdentity", .string assetIdentity),
    ("action", .string common.action)]

def messageVersionValue : MessageVersion → Value
  | .legacy => .string "legacy"
  | .v0 => .integer 0

/-- The fields of a manifest in the order in which they are hashed. -/
def normalizedValue : MainnetFinancialActionWriteManifest → Value
  | .ethereum manifest => ofFields (commonFields manifest.toWriteManifestCommon
      "ETHEREUM_EIP1559_ABI_CALL" "eip155:1" manifest.marketId.text manifest.assetIdentity.text ++
      [("transactionTarget", .string manifest.transactionTarget.text),
        ("functionSignature", .string manifest.functionSignature),
        ("arguments", ofItems (manifest.arguments.map normalizedEthereumArgument))])
  | .solana manifest => ofFields (commonFields manifest.toWriteManifestCommon
      "SOLANA_STATIC_INSTRUCTION_SEQUENCE" "solana:5eykt4UsFv8P8NJdTREpY1vzqKqZKvdp"
      manifest.marketId.text manifest.assetIdentity.text ++
      [("messageVersion", messageVersionValue manifest.messageVersion),
        ("instructions", ofItems (manifest.instructions.map normalizedSolanaInstruction))])

end Json

def fingerprintMainnetFinancialActionWriteManifest (draft : Value) : Except MatchCode String := do
  let normalized ← normalizedManifest P draft false
  return sha256Framed P "CLMA-PROVIDER-WRITE-MANIFEST-1" [P.stringify (normalizedValue normalized)]

/-- The other fields of an object. -/
def withoutKey (key : String) : Value → Value
  | .object proxy properties => .object proxy (properties.filter (fun p => p.1 ≠ .text key))
  | value => value

structure ReviewedManifest where
  manifest : MainnetFinancialActionWriteManifest
  reviewedManifestFingerprintSha256 : String

/-- A normalized manifest whose fingerprint is that of its draft. -/
def reviewedManifest (value : Value) : Except MatchCode ReviewedManifest := do
  let manifest ← normalizedManifest P value true
  let calculated ← fingerprintMainnetFinancialActionWriteManifest P
    (withoutKey "reviewedManifestFingerprintSha256" value)
  failWhen (!(ownValue value "reviewedManifestFingerprintSha256").any (·.isText calculated))
    .invalidWriteManifest
  return ⟨manifest, calculated⟩

def commonMatches (manifest : MainnetFinancialActionWriteManifest)
    (intent : DormantMainnetFinancialActionIntent) : Bool :=
  let fieldsMatch (common : WriteManifestCommon) (networkId : MainnetLaunchNetworkId)
      (marketId assetIdentity : String) : Bool :=
    networkId == intent.networkId && common.providerId == intent.providerId.text &&
      common.protocolId == intent.protocolId.text && marketId == intent.marketId &&
      common.assetRegistryVersion == intent.assetRegistryVersion &&
      common.assetRegistryFingerprintSha256.text == intent.assetRegistryFingerprintSha256 &&
      common.assetSymbol == intent.assetSymbol.text && assetIdentity == intent.assetIdentity &&
      common.action == intent.action.text
  match manifest with
  | .ethereum manifest => fieldsMatch manifest.toWriteManifestCommon .eip155
      manifest.marketId.text manifest.assetIdentity.text
  | .solana manifest => fieldsMatch manifest.toWriteManifestCommon .solana
      manifest.marketId.text manifest.assetIdentity.text

def fingerprintDormantMainnetSignedVerificationIntent (intentRecordFingerprintSha256 : String)
    (intent : DormantMainnetFinancialActionIntent) : Except MatchCode String := do
  failWhen (!isCanonicalSha256 intentRecordFingerprintSha256.toList) .invalidWriteManifest
  return sha256Framed P "CLMA-SIGNED-VERIFICATION-INTENT-1" [
    intentRecordFingerprintSha256,
    "1",
    "DORMANT_MAINNET_FINANCIAL_ACTION_INTENT_VALIDATION_ONLY",
    "false",
    intent.intentId,
    intent.accountId,
    intent.walletRegistrationId,
    intent.replayProtectionId,
    intent.idempotencyKeyDigestSha256,
    intent.networkId.text,
    intent.walletAddress,
    intent.providerId.text,
    intent.protocolId.text,
    intent.marketId,
    toString intent.assetRegistryVersion,
    intent.assetRegistryFingerprintSha256,
    intent.assetSymbol.text,
    intent.assetIdentity,
    toString intent.assetDecimals,
    intent.action.text,
    intent.amountAtomic,
    intent.requestedValueUsdMicros,
    intent.maximumNetworkFeeAtomic,
    toString intent.maximumNetworkFeeBasisPoints,
    intent.minimumPostActionNativeBalanceAtomic,
    "EXACT",
    intent.allowanceAmountAtomic,
    intent.issuedAt.text,
    intent.expiresAt.text,
    "USER_WALLET_ONLY",
    "USER_WALLET_ONLY",
    "false",
    "false",
    "false",
    "false",
    "false",
    "false"]

structure MainnetFinancialActionWriteManifestMatch where
  providerWriteManifestFingerprintSha256 : String
  providerActionBindingSha256 : String

def matchMainnetFinancialActionWriteManifest (intentRecordFingerprintSha256 : String)
    (intent : DormantMainnetFinancialActionIntent) (command : VerifiedSignedCommand)
    (registry : List Value) : Except MatchCode MainnetFinancialActionWriteManifestMatch := do
  let manifests ← registry.mapM (reviewedManifest P)
  let reviewed ← match manifests.filter (fun entry => commonMatches entry.manifest intent) with
    | [] => .error .writeManifestUnavailable
    | [reviewed] => .ok reviewed
    | _ => .error .invalidWriteManifest
  matchCommand P reviewed.manifest intent command
  let verificationIntentFingerprintSha256 ←
    fingerprintDormantMainnetSignedVerificationIntent P intentRecordFingerprintSha256 intent
  let evidence := command.evidence
  return {
    providerWriteManifestFingerprintSha256 := reviewed.reviewedManifestFingerprintSha256
    providerActionBindingSha256 := sha256Framed P "CLMA-PROVIDER-ACTION-BINDING-1" [
      verificationIntentFingerprintSha256,
      reviewed.reviewedManifestFingerprintSha256,
      evidence.transactionId,
      evidence.signedEnvelopeSha256,
      evidence.signingPayloadSha256,
      evidence.signatureEvidenceSha256,
      evidence.chainReplayIdentitySha256] }

end Registry

end CryptoLending.MainnetActions.WriteManifestMatch
