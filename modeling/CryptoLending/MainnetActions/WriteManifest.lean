import CryptoLending.Lib.JsReading
import CryptoLending.MainnetActions.Intent
import CryptoLending.MainnetActions.SignedVerificationDigest
import CryptoLending.MainnetActions.SolanaKeyAgreement
import CryptoLending.MainnetActions.SolanaSignedTransaction

namespace CryptoLending.MainnetActions.WriteManifest

open Lib Lib.Bytes Lib.Identifier Lib.JsValue Lib.LengthPrefixed Lib.Text
open SolanaPublicKey (decodeCanonicalSolanaPublicKey)
open SolanaSignedTransaction (MessageVersion)

inductive MatchCode where
  | invalidWriteManifest
  | writeManifestUnavailable
  | signedCommandMismatch
  deriving DecidableEq

section Texts

def isCanonicalSha256 (cs : List Char) : Bool := cs.length == 64 && cs.all isLowerHex

def isManifestIdStart (c : Char) : Bool := ('a' ≤ c && c ≤ 'z') || isDigit c

def isManifestId (cs : List Char) : Bool :=
  cs.head?.any isManifestIdStart && cs.length ≤ 128 &&
    cs.tail.all (fun c => isManifestIdStart c || ['.', '_', ':', '-'].contains c)

/-- Lower-case digits of whole bytes. -/
def isHexBytes (cs : List Char) : Bool := cs.all isLowerHex && cs.length % 2 == 0

/-- `0x` and as many lower-case digits. -/
def isPrefixedHex (count : Nat) (cs : List Char) : Bool :=
  (hexDigits? cs).any (fun ds => ds.length == count && ds.all isLowerHex)

def fitsBits (bits : Nat) (cs : List Char) : Bool :=
  isCanonicalUint cs && decimalValue cs < 2 ^ bits

def isCanonicalSolanaAddress (cs : List Char) : Bool :=
  (decodeCanonicalSolanaPublicKey (.string (String.ofList cs))).toOption.isSome

abbrev EvmAddress := Matching (isPrefixedHex 40)

abbrev Bytes32 := Matching (isPrefixedHex 64)

abbrev SolanaAddress := Matching isCanonicalSolanaAddress

/-- `canonicalUnsignedInteger` of a width. -/
abbrev UnsignedInteger (bits : Nat) := Matching (fitsBits bits)

end Texts

/-- What comes from outside: the text of a value and its JSON, which may both run a
function that the value holds, and the hashes. -/
structure Platform where
  stringOf : Value → Option String
  stringify : Value → String
  sha256 : List UInt8 → Matching isCanonicalSha256
  keccak256 : List UInt8 → Bytes32

/-- The frame of a domain and its fields. No text of a program is too long for it. -/
def framed (domain : String) (fields : List String) : List UInt8 :=
  (domain :: fields).flatMap (fun value => sized (bigEndian 8) (utf8 value))

def sha256Framed (P : Platform) (domain : String) (fields : List String) : String :=
  (P.sha256 (framed domain fields)).text

section Manifest

inductive UintWidth where
  | uint16
  | uint64
  | uint256
  deriving DecidableEq

def UintWidth.bits : UintWidth → Nat
  | .uint16 => 16
  | .uint64 => 64
  | .uint256 => 256

def UintWidth.encoding : UintWidth → String
  | .uint16 => "UINT16"
  | .uint64 => "UINT64"
  | .uint256 => "UINT256"

def UintWidth.typeName : UintWidth → String
  | .uint16 => "uint16"
  | .uint64 => "uint64"
  | .uint256 => "uint256"

/-- An argument of a call. A source that is no constant is kept as it was written. -/
inductive EthereumWriteManifestArgument where
  | addressStatic (value : EvmAddress)
  | address (source : Value)
  | uintStatic (width : UintWidth) (value : UnsignedInteger width.bits)
  | uint (width : UintWidth) (source : Value)
  | bytes32Static (value : Bytes32)
  | bytes32MarketId
  | bool (value : Bool)

def EthereumWriteManifestArgument.typeName : EthereumWriteManifestArgument → String
  | .addressStatic _ | .address _ => "address"
  | .uintStatic width _ | .uint width _ => width.typeName
  | .bytes32Static _ | .bytes32MarketId => "bytes32"
  | .bool _ => "bool"

inductive AccountSource where
  | static (address : SolanaAddress)
  | intent (source : Value)

structure SolanaWriteManifestAccount where
  source : AccountSource
  isSigner : Bool
  isWritable : Bool

inductive SolanaWriteManifestDataSegment where
  | staticHex (value : Matching isHexBytes)
  | u64Static (value : UnsignedInteger 64)
  | u64 (source : Value)
  | publicKeyStatic (value : SolanaAddress)
  | publicKey (source : Value)

structure SolanaWriteManifestInstruction where
  programId : SolanaAddress
  accounts : List SolanaWriteManifestAccount
  data : List SolanaWriteManifestDataSegment

structure WriteManifestCommon where
  manifestId : Matching isManifestId
  providerId : String
  protocolId : String
  assetRegistryVersion : Nat
  assetRegistryFingerprintSha256 : Matching isCanonicalSha256
  assetSymbol : String
  action : String

def isIdentifierStart (c : Char) : Bool :=
  ('A' ≤ c && c ≤ 'Z') || ('a' ≤ c && c ≤ 'z') || c == '_'

/-- A name with the types of the arguments. -/
def isFunctionSignature (types : List String) (cs : List Char) : Bool :=
  let name := cs.takeWhile (· != '(')
  name.head?.any isIdentifierStart && name.all (fun c => isIdentifierStart c || isDigit c) &&
    cs == name ++ '(' :: ([','].intercalate (types.map String.toList) ++ [')'])

structure EthereumWriteManifest extends WriteManifestCommon where
  marketId : EvmAddress
  assetIdentity : EvmAddress
  transactionTarget : EvmAddress
  functionSignature : String
  arguments : List EthereumWriteManifestArgument
  signed : isFunctionSignature (arguments.map EthereumWriteManifestArgument.typeName)
    functionSignature.toList = true

structure SolanaWriteManifest extends WriteManifestCommon where
  marketId : SolanaAddress
  assetIdentity : SolanaAddress
  messageVersion : MessageVersion
  instructions : List SolanaWriteManifestInstruction

/-- A manifest without its fingerprint. -/
inductive MainnetFinancialActionWriteManifest where
  | ethereum (manifest : EthereumWriteManifest)
  | solana (manifest : SolanaWriteManifest)

end Manifest

section PlainData

mutual

/-- Nothing but plain objects and arrays with data, however deep. A function is no object. -/
def isPlainData : Value → Bool
  | .array items => arePlainItems items
  | .object proxy properties => !proxy && arePlainFields properties
  | .date _ => false
  | _ => true

def arePlainItems : List (Property Value) → Bool
  | [] => true
  | item :: items => isPlainProperty item && arePlainItems items

def arePlainFields : List (Key × Property Value) → Bool
  | [] => true
  | field :: fields => isPlainField field && arePlainFields fields

/-- Fields behind symbols are not looked at. -/
def isPlainField : Key × Property Value → Bool
  | (.text _, property) => isPlainProperty property
  | (.symbol, _) => true

def isPlainProperty : Property Value → Bool
  | .data value _ => isPlainData value
  | .accessor => false

end

def enumerableKeys (properties : List (Key × Property Value)) : List String :=
  properties.filterMap fun property => match property with
    | (.text key, .data _ true) => some key
    | _ => none

/-- A plain object with the given enumerable keys in any order. -/
def exactKeys (value : Value) (keys : List String) : Option Record := do
  let properties ← dataDescriptors value
  guard (!isProxy value && (enumerableKeys properties).isPerm keys)
  keys.mapM (fun key => (dataValue properties key).map (key, ·))

/-- The items of an array within a length. -/
def itemsUpTo (maximum : Nat) (value : Value) : Option (List Value) :=
  match value with
  | .array items => do
    guard (items.length ≤ maximum)
    items.mapM (fun item => match item with
      | .data item _ => some item
      | .accessor => none)
  | _ => none

end PlainData

section Validation

variable (P : Platform)

def addressBindings : List String :=
  ["INTENT_WALLET_ADDRESS", "INTENT_ASSET_IDENTITY", "INTENT_MARKET_ID"]

def unsignedIntegerBindings : List String :=
  ["INTENT_AMOUNT_ATOMIC", "INTENT_ALLOWANCE_AMOUNT_ATOMIC"]

/-- A source whose text is one of the names. -/
def bindingOf (names : List String) (source : Value) : Option Value :=
  if (P.stringOf source).any names.contains then some source else none

def isStatic (value : Value) : Bool := (ownValue value "source").any (·.isText "STATIC")

def boolean? : Value → Option Bool
  | .boolean b => some b
  | _ => none

def validateUint (width : UintWidth) (isStatic : Bool) (record : Record) :
    Option EthereumWriteManifestArgument :=
  if isStatic then
    (Matching.ofValue (fitsBits width.bits) (record.get "value")).map (.uintStatic width)
  else (bindingOf P unsignedIntegerBindings (record.get "source")).map (.uint width)

def validateEthereumArgument (argument : Value) : Option EthereumWriteManifestArgument := do
  let isStatic := isStatic argument
  let record ← exactKeys argument
    (if isStatic then ["encoding", "source", "value"] else ["encoding", "source"])
  let encoding ← (record.get "encoding").string?
  if encoding = "ADDRESS" then
    if isStatic then (Matching.ofValue (isPrefixedHex 40) (record.get "value")).map .addressStatic
    else (bindingOf P addressBindings (record.get "source")).map .address
  else if encoding = UintWidth.uint16.encoding then validateUint P .uint16 isStatic record
  else if encoding = UintWidth.uint64.encoding then validateUint P .uint64 isStatic record
  else if encoding = UintWidth.uint256.encoding then validateUint P .uint256 isStatic record
  else if encoding = "BYTES32" then
    if isStatic then (Matching.ofValue (isPrefixedHex 64) (record.get "value")).map .bytes32Static
    else if (record.get "source").isText "INTENT_MARKET_ID" then some .bytes32MarketId
    else none
  else if encoding = "BOOL" ∧ isStatic then (boolean? (record.get "value")).map .bool
  else none

def validateSolanaAccount (account : Value) : Option SolanaWriteManifestAccount := do
  let isStatic := isStatic account
  let record ← exactKeys account (if isStatic then ["source", "address", "isSigner", "isWritable"]
    else ["source", "isSigner", "isWritable"])
  let isSigner ← boolean? (record.get "isSigner")
  let isWritable ← boolean? (record.get "isWritable")
  let source ←
    if isStatic then
      (Matching.ofValue isCanonicalSolanaAddress (record.get "address")).map AccountSource.static
    else (bindingOf P addressBindings (record.get "source")).map AccountSource.intent
  return { source, isSigner, isWritable }

def validateSolanaDataSegment (segment : Value) : Option SolanaWriteManifestDataSegment :=
  if (ownValue segment "encoding").any (·.isText "STATIC_HEX") then do
    let record ← exactKeys segment ["encoding", "value"]
    (Matching.ofValue isHexBytes (record.get "value")).map .staticHex
  else do
    let isStatic := isStatic segment
    let record ← exactKeys segment
      (if isStatic then ["encoding", "source", "value"] else ["encoding", "source"])
    if (record.get "encoding").isText "U64_LE" then
      if isStatic then (Matching.ofValue (fitsBits 64) (record.get "value")).map .u64Static
      else (bindingOf P unsignedIntegerBindings (record.get "source")).map .u64
    else if (record.get "encoding").isText "PUBLIC_KEY" then
      if isStatic then
        (Matching.ofValue isCanonicalSolanaAddress (record.get "value")).map .publicKeyStatic
      else (bindingOf P addressBindings (record.get "source")).map .publicKey
    else none

def validateSolanaInstruction (instruction : Value) : Option SolanaWriteManifestInstruction := do
  let record ← exactKeys instruction ["programId", "accounts", "data"]
  let programId ← Matching.ofValue isCanonicalSolanaAddress (record.get "programId")
  let accounts ← itemsUpTo 64 (record.get "accounts")
  let data ← itemsUpTo 64 (record.get "data")
  return { programId, accounts := ← accounts.mapM (validateSolanaAccount P),
           data := ← data.mapM (validateSolanaDataSegment P) }

def maxSafeInteger : Int := 9007199254740991

def validateCommon (manifest : Record) (hasFingerprint : Bool) : Option WriteManifestCommon := do
  guard ((manifest.get "schemaVersion").isNumber 1)
  let manifestId ← Matching.ofValue isManifestId (manifest.get "manifestId")
  let providerId ← (manifest.get "providerId").string?
  let protocolId ← (manifest.get "protocolId").string?
  let assetRegistryVersion ← (manifest.get "assetRegistryVersion").integer?
  guard (0 < assetRegistryVersion ∧ assetRegistryVersion ≤ maxSafeInteger)
  let assetRegistryFingerprintSha256 ←
    Matching.ofValue isCanonicalSha256 (manifest.get "assetRegistryFingerprintSha256")
  let assetSymbol ← (manifest.get "assetSymbol").string?
  let action ← (manifest.get "action").string?
  guard (!hasFingerprint || (Matching.ofValue isCanonicalSha256
    (manifest.get "reviewedManifestFingerprintSha256")).isSome)
  return { manifestId, providerId, protocolId, assetRegistryFingerprintSha256, assetSymbol, action,
           assetRegistryVersion := assetRegistryVersion.toNat }

def commonKeys (hasFingerprint : Bool) : List String :=
  ["schemaVersion", "manifestId"] ++
    (if hasFingerprint then ["reviewedManifestFingerprintSha256"] else []) ++
    ["kind", "networkId", "providerId", "protocolId", "marketId", "assetRegistryVersion",
      "assetRegistryFingerprintSha256", "assetSymbol", "assetIdentity", "action"]

def normalizedEthereum (value : Value) (hasFingerprint : Bool) :
    Option EthereumWriteManifest := do
  let record ← exactKeys value
    (commonKeys hasFingerprint ++ ["transactionTarget", "functionSignature", "arguments"])
  let common ← validateCommon record hasFingerprint
  guard ((record.get "networkId").isText "eip155:1")
  let marketId ← Matching.ofValue (isPrefixedHex 40) (record.get "marketId")
  let assetIdentity ← Matching.ofValue (isPrefixedHex 40) (record.get "assetIdentity")
  let transactionTarget ← Matching.ofValue (isPrefixedHex 40) (record.get "transactionTarget")
  let items ← itemsUpTo 32 (record.get "arguments")
  let arguments ← items.mapM (validateEthereumArgument P)
  let functionSignature ← (record.get "functionSignature").string?
  if h : isFunctionSignature (arguments.map EthereumWriteManifestArgument.typeName)
      functionSignature.toList = true then
    some { common with marketId, assetIdentity, transactionTarget, functionSignature, arguments,
                       signed := h }
  else none

def messageVersionOf (value : Value) : Option MessageVersion :=
  if value.isText "legacy" then some .legacy
  else if value.isNumber 0 then some .v0
  else none

def normalizedSolana (value : Value) (hasFingerprint : Bool) : Option SolanaWriteManifest := do
  let record ← exactKeys value (commonKeys hasFingerprint ++ ["messageVersion", "instructions"])
  let common ← validateCommon record hasFingerprint
  guard ((record.get "networkId").isText "solana:5eykt4UsFv8P8NJdTREpY1vzqKqZKvdp")
  let messageVersion ← messageVersionOf (record.get "messageVersion")
  let items ← itemsUpTo 64 (record.get "instructions")
  guard (items ≠ [])
  let marketId ← Matching.ofValue isCanonicalSolanaAddress (record.get "marketId")
  let assetIdentity ← Matching.ofValue isCanonicalSolanaAddress (record.get "assetIdentity")
  let instructions ← items.mapM (validateSolanaInstruction P)
  return { common with marketId, assetIdentity, messageVersion, instructions }

/-- The manifest that a candidate is, by its kind. -/
def normalizedManifest (candidate : Value) (hasFingerprint : Bool) :
    Except MatchCode MainnetFinancialActionWriteManifest :=
  let kind := (ownValue candidate "kind").getD .undefined
  orFail (if !isPlainData candidate then none
    else if kind.isText "ETHEREUM_EIP1559_ABI_CALL" then
      (normalizedEthereum P candidate hasFingerprint).map .ethereum
    else if kind.isText "SOLANA_STATIC_INSTRUCTION_SEQUENCE" then
      (normalizedSolana P candidate hasFingerprint).map .solana
    else none) .invalidWriteManifest

end Validation

end CryptoLending.MainnetActions.WriteManifest
