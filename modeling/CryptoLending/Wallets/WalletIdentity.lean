import CryptoLending.Lib.JsReading
import CryptoLending.Lib.JsValue
import CryptoLending.Lib.Transaction
import CryptoLending.Wallets.Base58

namespace CryptoLending.Wallets.WalletIdentity

open Lib Lib.Identifier Lib.JsValue Base58

inductive WalletIdentityValidationCode where
  | invalidWalletChainId
  | invalidWalletAddress
  | invalidWalletAccountId
  deriving DecidableEq

inductive WalletOwnershipChainId where
  | eip155_1
  | eip155_8453
  | eip155_42161
  | eip155_11155111
  | eip155_84532
  | eip155_421614
  | solanaMainnet
  | solanaDevnet
  deriving DecidableEq

def WalletOwnershipChainId.text : WalletOwnershipChainId → String
  | .eip155_1 => "eip155:1"
  | .eip155_8453 => "eip155:8453"
  | .eip155_42161 => "eip155:42161"
  | .eip155_11155111 => "eip155:11155111"
  | .eip155_84532 => "eip155:84532"
  | .eip155_421614 => "eip155:421614"
  | .solanaMainnet => "solana:5eykt4UsFv8P8NJdTREpY1vzqKqZKvdp"
  | .solanaDevnet => "solana:EtWTRABZaYq6iMfeYKouRu166VU2xqa1"

def walletOwnershipChainIds : List WalletOwnershipChainId :=
  [.eip155_1, .eip155_8453, .eip155_42161, .eip155_11155111, .eip155_84532, .eip155_421614,
    .solanaMainnet, .solanaDevnet]

inductive WalletNamespace where
  | eip155
  | solana
  deriving DecidableEq

def parseWalletChainId (value : Value) : Except WalletIdentityValidationCode WalletOwnershipChainId :=
  orFail (walletOwnershipChainIds.find? (fun id => value.isText id.text)) .invalidWalletChainId

/-- The namespace before the colon of a chain identifier. -/
def walletNamespaceOf : WalletOwnershipChainId → WalletNamespace
  | .solanaMainnet | .solanaDevnet => .solana
  | _ => .eip155

def zeroEvmAddress : String := "0x0000000000000000000000000000000000000000"

def zeroSolanaAddress : String := "11111111111111111111111111111111"

def isEvmAddressPattern (cs : List Char) : Bool :=
  (hexDigits? cs).any (fun ds => ds.length == 40 && ds.all isHex)

def isSolanaAddressPattern (cs : List Char) : Bool :=
  decide (32 ≤ cs.length ∧ cs.length ≤ 44) && isBase58 cs

/-- `isAddress` stands for the strict checksum test of the wallet library. -/
def parseEvmWalletAddress (isAddress : String → Bool) (value : Value) :
    Except WalletIdentityValidationCode String := do
  let text ← orFail value.string? .invalidWalletAddress
  failWhen (!isEvmAddressPattern text.toList || !isAddress text ||
    toLowerCase text == zeroEvmAddress) .invalidWalletAddress
  return toLowerCase text

def parseSolanaWalletAddress (value : Value) : Except WalletIdentityValidationCode String := do
  let text ← orFail value.string? .invalidWalletAddress
  failWhen (text == zeroSolanaAddress) .invalidWalletAddress
  let decoded ← orFail (decodeBase58 isSolanaAddressPattern text.toList) .invalidWalletAddress
  failWhen (decoded.length ≠ 32 ∨ encodeBase58 decoded ≠ text.toList) .invalidWalletAddress
  return text

def solanaWalletAddressBytes (addressValue : Value) :
    Except WalletIdentityValidationCode (List Nat) := do
  let address ← parseSolanaWalletAddress addressValue
  let decoded ← orFail (decodeBase58 isSolanaAddressPattern address.toList) .invalidWalletAddress
  failWhen (decoded.length ≠ 32) .invalidWalletAddress
  return decoded

def parseWalletAddress (isAddress : String → Bool) (chainIdValue addressValue : Value) :
    Except WalletIdentityValidationCode String := do
  let chainId ← parseWalletChainId chainIdValue
  match walletNamespaceOf chainId with
  | .eip155 => parseEvmWalletAddress isAddress addressValue
  | .solana => parseSolanaWalletAddress addressValue

def formatWalletAccountId (isAddress : String → Bool) (chainIdValue addressValue : Value) :
    Except WalletIdentityValidationCode String := do
  let chainId ← parseWalletChainId chainIdValue
  let address ← parseWalletAddress isAddress (.string chainId.text) addressValue
  return chainId.text ++ ":" ++ address

example : (parseSolanaWalletAddress (.string "EPjFWdd5AufqSSqeM2qN1xzybapC8G4wEGGkZwyTDt1v")).toOption =
    some "EPjFWdd5AufqSSqeM2qN1xzybapC8G4wEGGkZwyTDt1v" := by decide

end CryptoLending.Wallets.WalletIdentity
