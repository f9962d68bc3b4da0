import CryptoLending.Lib.Wire
import CryptoLending.MainnetActions.SolanaPublicKey

namespace CryptoLending.MainnetActions.SolanaSignedTransaction

open Lib Lib.Wire SolanaPublicKey
open Wallets.Base58 (decodeCharacters)

inductive SolanaMainnetSignedTransactionVerificationCode where
  | invalidSolanaSignedTransaction
  | unsupportedSolanaTransaction
  | solanaSignerMismatch
  deriving DecidableEq

inductive MessageVersion where
  | legacy
  | v0
  deriving DecidableEq

structure CompiledInstruction where
  programIdIndex : Nat
  accountKeyIndexes : List Nat
  data : List UInt8

structure ParsedSolanaEnvelope where
  version : MessageVersion
  signature : List UInt8
  messageBytes : List UInt8
  staticAccountKeys : List (List UInt8)
  recentBlockhash : String
  compiledInstructions : List CompiledInstruction
  isAccountSigner : Nat → Bool
  isAccountWritable : Nat → Bool

section Parser

abbrev EnvelopeReader := Reader UInt8 SolanaMainnetSignedTransactionVerificationCode

def byte : EnvelopeReader Nat := do
  let bytes ← take 1 .invalidSolanaSignedTransaction
  return (bytes.headD 0).toNat

/-- The bytes of a length from a given one on, when some are left of the three. -/
def shortVectorLengthFrom (left index value : Nat) : EnvelopeReader Nat :=
  match left with
  | 0 => reject .invalidSolanaSignedTransaction
  | left + 1 => do
    let next ← byte
    let payload := next &&& 0x7f
    rejectWhen ((index = 2 ∧ next > 3) ∨ (index > 0 ∧ payload = 0 ∧ next < 0x80))
      .invalidSolanaSignedTransaction
    if next < 0x80 then return value + payload * 2 ^ (index * 7)
    else shortVectorLengthFrom left (index + 1) (value + payload * 2 ^ (index * 7))

def shortVectorLength : EnvelopeReader Nat := shortVectorLengthFrom 3 0 0

/-- Bytes behind their length. -/
def shortVector : EnvelopeReader (List UInt8) := do
  let length ← shortVectorLength
  take length .invalidSolanaSignedTransaction

def compiledInstruction : EnvelopeReader CompiledInstruction := do
  let programIdIndex ← byte
  let accountKeyIndexes ← shortVector
  let data ← shortVector
  return ⟨programIdIndex, accountKeyIndexes.map UInt8.toNat, data⟩

/-- A versioned message ends with its address tables, of which there must be none. -/
def addressTables (version : MessageVersion) : EnvelopeReader Unit :=
  match version with
  | .legacy => pure ()
  | .v0 => do
    let count ← shortVectorLength
    rejectWhen (count ≠ 0) .unsupportedSolanaTransaction

def blockhashText (blockhash : List UInt8) : String :=
  String.ofList (encodeSolanaBase58 (blockhash.map UInt8.toNat))

def CompiledInstruction.isOutside (keyCount : Nat) (instruction : CompiledInstruction) : Bool :=
  instruction.programIdIndex == 0 || instruction.programIdIndex ≥ keyCount ||
    instruction.accountKeyIndexes.any (fun index => index ≥ keyCount)

/-- The byte of the version also counts the signatures of a legacy message. -/
def requiredSignatures (versionByte : Nat) : EnvelopeReader Nat :=
  if versionByte = 0x80 then byte else pure versionByte

/-- The version and the number of unsigned accounts that are read only. -/
def messageHeader : EnvelopeReader (MessageVersion × Nat) := do
  let versionByte ← byte
  rejectWhen (versionByte > 0x80) .invalidSolanaSignedTransaction
  let requiredSignatures ← requiredSignatures versionByte
  let readonlySignedAccounts ← byte
  let readonlyUnsignedAccounts ← byte
  rejectWhen (requiredSignatures ≠ 1 ∨ readonlySignedAccounts ≠ 0) .unsupportedSolanaTransaction
  return (if versionByte = 0x80 then .v0 else .legacy, readonlyUnsignedAccounts)

def compiledInstructions : EnvelopeReader (List CompiledInstruction) := do
  let instructionCount ← shortVectorLength
  let remaining ← unread
  rejectWhen (instructionCount > remaining.length) .invalidSolanaSignedTransaction
  times instructionCount compiledInstruction

def envelope : EnvelopeReader ParsedSolanaEnvelope := do
  let signatureCount ← shortVectorLength
  rejectWhen (signatureCount ≠ 1) .unsupportedSolanaTransaction
  let signature ← take 64 .invalidSolanaSignedTransaction
  let messageBytes ← unread
  let (version, readonlyUnsignedAccounts) ← messageHeader
  let keyCount ← shortVectorLength
  rejectWhen (keyCount < 1 ∨ keyCount > 256 ∨ readonlyUnsignedAccounts > keyCount - 1)
    .invalidSolanaSignedTransaction
  let staticAccountKeys ← times keyCount (take 32 .invalidSolanaSignedTransaction)
  let blockhash ← take 32 .invalidSolanaSignedTransaction
  let compiledInstructions ← compiledInstructions
  addressTables version
  let rest ← unread
  rejectWhen (rest ≠ []) .invalidSolanaSignedTransaction
  rejectWhen (compiledInstructions.any (·.isOutside keyCount) = true)
    .invalidSolanaSignedTransaction
  return {
    version := version
    signature := signature
    messageBytes := messageBytes
    staticAccountKeys := staticAccountKeys
    recentBlockhash := blockhashText blockhash
    compiledInstructions := compiledInstructions
    isAccountSigner := fun index => index == 0
    isAccountWritable := fun index => index < keyCount - readonlyUnsignedAccounts }

def parseSignedEnvelope (serialized : List UInt8) :
    Except SolanaMainnetSignedTransactionVerificationCode ParsedSolanaEnvelope := do
  let (parsed, _) ← envelope serialized
  return parsed

end Parser

section Format

/-- A length in one to three bytes, seven bits in each, the lowest first. -/
def compactU16 (n : Nat) : List UInt8 :=
  if n < 0x80 then [UInt8.ofNat n]
  else if n < 0x4000 then [UInt8.ofNat (n % 0x80 + 0x80), UInt8.ofNat (n / 0x80)]
  else [UInt8.ofNat (n % 0x80 + 0x80), UInt8.ofNat (n / 0x80 % 0x80 + 0x80),
    UInt8.ofNat (n / 0x4000)]

def serializeVector (bytes : List UInt8) : List UInt8 := compactU16 bytes.length ++ bytes

def serializeInstruction (instruction : CompiledInstruction) : List UInt8 :=
  UInt8.ofNat instruction.programIdIndex ::
    (serializeVector (instruction.accountKeyIndexes.map UInt8.ofNat) ++
      serializeVector instruction.data)

def serializeVersion : MessageVersion → List UInt8
  | .legacy => []
  | .v0 => [0x80]

def serializeTables : MessageVersion → List UInt8
  | .legacy => []
  | .v0 => compactU16 0

def blockhashBytes (text : String) : List UInt8 :=
  ((decodeCharacters text.toList).getD []).map UInt8.ofNat

namespace ParsedSolanaEnvelope

variable (e : ParsedSolanaEnvelope)

/-- How many keys at the end of the list are not writable. -/
def readonlyUnsignedAccounts : Nat :=
  (List.range e.staticAccountKeys.length).countP (fun index => !e.isAccountWritable index)

/-- One signer, which is writable, then the keys, the block hash and the instructions. -/
def serializeMessage : List UInt8 :=
  serializeVersion e.version ++ [1, 0, UInt8.ofNat e.readonlyUnsignedAccounts] ++
    compactU16 e.staticAccountKeys.length ++ e.staticAccountKeys.flatten ++
    blockhashBytes e.recentBlockhash ++ compactU16 e.compiledInstructions.length ++
    e.compiledInstructions.flatMap serializeInstruction ++ serializeTables e.version

def serialize : List UInt8 := compactU16 1 ++ e.signature ++ e.serializeMessage

end ParsedSolanaEnvelope

/-- The indexes of an instruction point at keys, and its lists fit their lengths. -/
structure CompiledInstruction.WellFormed (keyCount : Nat) (instruction : CompiledInstruction) :
    Prop where
  program : 0 < instruction.programIdIndex ∧ instruction.programIdIndex < keyCount
  accountCount : instruction.accountKeyIndexes.length < 65536
  accounts : ∀ index ∈ instruction.accountKeyIndexes, index < keyCount
  dataLength : instruction.data.length < 65536

/-- An envelope with one signer, within the limits of the format. -/
structure ParsedSolanaEnvelope.WellFormed (e : ParsedSolanaEnvelope) : Prop where
  signature : e.signature.length = 64
  keyCount : 1 ≤ e.staticAccountKeys.length ∧ e.staticAccountKeys.length ≤ 256
  keys : ∀ key ∈ e.staticAccountKeys, key.length = 32
  blockhash : ∃ blockhash : List UInt8, blockhash.length = 32 ∧
    e.recentBlockhash = blockhashText blockhash
  instructionCount : e.compiledInstructions.length < 65536
  instructions : ∀ instruction ∈ e.compiledInstructions,
    instruction.WellFormed e.staticAccountKeys.length
  signer : e.isAccountSigner = fun index => index == 0
  writable : ∃ readonly, readonly < 256 ∧ readonly < e.staticAccountKeys.length ∧
    e.isAccountWritable = fun index => decide (index < e.staticAccountKeys.length - readonly)
  message : e.messageBytes = e.serializeMessage

end Format

end CryptoLending.MainnetActions.SolanaSignedTransaction
