import CryptoLending.Lib.JsMap
import CryptoLending.Lib.JsReading
import CryptoLending.Lib.JsValue
import CryptoLending.Wallets.WalletIdentity

namespace CryptoLending.Blockchain.LaunchNetwork

open Lib.JsValue

inductive MainnetLaunchNetworkId where
  | eip155
  | solana
  deriving DecidableEq

def MainnetLaunchNetworkId.text : MainnetLaunchNetworkId → String
  | .eip155 => "eip155:1"
  | .solana => "solana:5eykt4UsFv8P8NJdTREpY1vzqKqZKvdp"

def mainnetLaunchNetworkIds : List MainnetLaunchNetworkId := [.eip155, .solana]

/-- The launch network named by a text. -/
def ofText (text : String) : Option MainnetLaunchNetworkId :=
  mainnetLaunchNetworkIds.find? (fun n => n.text == text)

def isMainnetLaunchNetwork (text : String) : Bool := (ofText text).isSome

theorem text_injective {m n : MainnetLaunchNetworkId} (h : m.text = n.text) : m = n := by
  cases m <;> cases n <;> first | rfl | exact absurd h (by decide)

theorem ofText_text (n : MainnetLaunchNetworkId) : ofText n.text = some n := by
  cases n <;> decide

theorem ofText_eq_some {text : String} {n : MainnetLaunchNetworkId} :
    ofText text = some n ↔ n.text = text := by
  refine ⟨fun h => by simpa using List.find?_some h, ?_⟩
  rintro rfl
  exact ofText_text n

end CryptoLending.Blockchain.LaunchNetwork

namespace CryptoLending.Blockchain.AssetRegistry

open Lib Lib.Identifier Wallets.Base58 Wallets.WalletIdentity

inductive SupportedStablecoin where
  | usdc
  | usdt
  | pyusd
  deriving DecidableEq

def SupportedStablecoin.text : SupportedStablecoin → String
  | .usdc => "USDC"
  | .usdt => "USDT"
  | .pyusd => "PYUSD"

inductive AssetIdentityKind where
  | evmContract
  | solanaMint
  deriving DecidableEq

inductive RegistryActivationState where
  | active
  | inactive
  deriving DecidableEq

structure SupportedNetwork where
  networkId : String
  identityKind : AssetIdentityKind
  activationState : RegistryActivationState

structure SupportedStablecoinAsset where
  stablecoin : SupportedStablecoin
  networkId : String
  identity : String
  decimals : Nat
  activationState : RegistryActivationState

structure SupportedAssetRegistrySnapshot where
  version : Nat
  fingerprintSha256 : String
  networks : List SupportedNetwork
  assets : List SupportedStablecoinAsset

/-- The number of bytes of a base 58 text: one for each leading `1`, and those of its value. -/
def solanaPublicKeyByteLength (cs : List Char) : Option Nat := do
  let value ← cs.foldlM (fun n c => (base58Alphabet.idxOf? c).map (n * 58 + ·)) 0
  return (cs.takeWhile (· == '1')).length + ((Nat.digits 16 value).length + 1) / 2

def normalizeIdentity (kind : AssetIdentityKind) (value : String) : Option String :=
  match kind with
  | .evmContract =>
    if isHexQuantity isHex [40] value.toList then some (toLowerCase value) else none
  | .solanaMint =>
    if isSolanaAddressPattern value.toList && value != zeroSolanaAddress &&
        solanaPublicKeyByteLength value.toList == some 32 then some value else none

/-- The configured asset with an identity, also when it is inactive. -/
def SupportedAssetRegistrySnapshot.identifyAsset (registry : SupportedAssetRegistrySnapshot)
    (networkId identity : String) : Option SupportedStablecoinAsset := do
  let network ← registry.networks.find? (fun n => n.networkId == networkId)
  let identity ← normalizeIdentity network.identityKind identity
  registry.assets.find? (fun a => a.networkId == network.networkId && a.identity == identity)

def ethereum : String := "eip155:1"
def base : String := "eip155:8453"
def arbitrum : String := "eip155:42161"
def solana : String := "solana:5eykt4UsFv8P8NJdTREpY1vzqKqZKvdp"

/-- The latest mainnet snapshot. Its fingerprint is the digest of its canonical text. -/
def mainnetSupportedAssetRegistry : SupportedAssetRegistrySnapshot where
  version := 1
  fingerprintSha256 := "5058b141479f114c1e5f87ed8798fbb7a7ffcce7b502aa7e0794dc53ca1f767d"
  networks :=
    [⟨ethereum, .evmContract, .active⟩, ⟨base, .evmContract, .active⟩,
      ⟨arbitrum, .evmContract, .active⟩, ⟨solana, .solanaMint, .active⟩]
  assets :=
    [⟨.usdc, ethereum, "0xa0b86991c6218b36c1d19d4a2e9eb0ce3606eb48", 6, .active⟩,
      ⟨.usdc, base, "0x833589fcd6edb6e08f4c7c32d4f71b54bda02913", 6, .active⟩,
      ⟨.usdc, arbitrum, "0xaf88d065e77c8cc2239327c5edb3a432268e5831", 6, .active⟩,
      ⟨.usdc, solana, "EPjFWdd5AufqSSqeM2qN1xzybapC8G4wEGGkZwyTDt1v", 6, .active⟩,
      ⟨.usdt, ethereum, "0xdac17f958d2ee523a2206206994597c13d831ec7", 6, .active⟩,
      ⟨.usdt, solana, "Es9vMFrzaCERmJfrF4H2FYD4KCoNkY11McCe8BenwNYB", 6, .active⟩,
      ⟨.pyusd, ethereum, "0x6c3ea9036406852006290770bedfcaba0e23a0e8", 6, .active⟩,
      ⟨.pyusd, arbitrum, "0x46850ad61c2b7d64d08c9c754f45254596696984", 6, .active⟩,
      ⟨.pyusd, solana, "2b1kV6DkPAnxd5ixfnxCpjxmKwqjjaYmCZfHsFu24GXo", 6, .active⟩]

def ethereumSepolia : String := "eip155:11155111"
def baseSepolia : String := "eip155:84532"
def arbitrumSepolia : String := "eip155:421614"
def solanaDevnet : String := "solana:EtWTRABZaYq6iMfeYKouRu166VU2xqa1"

/-- The latest testnet snapshot. -/
def testnetSupportedAssetRegistry : SupportedAssetRegistrySnapshot where
  version := 1
  fingerprintSha256 := "89c158de188fcde7d01642aadef226f3c93724bfe5b53a7f3fcce096180d5ca7"
  networks :=
    [⟨ethereumSepolia, .evmContract, .active⟩, ⟨baseSepolia, .evmContract, .active⟩,
      ⟨arbitrumSepolia, .evmContract, .active⟩, ⟨solanaDevnet, .solanaMint, .active⟩]
  assets :=
    [⟨.usdc, ethereumSepolia, "0x1c7d4b196cb0c7b01d743fbc6116a902379c7238", 6, .active⟩,
      ⟨.usdc, baseSepolia, "0x036cbd53842c5426634e7929541ec2318f3dcf7e", 6, .active⟩,
      ⟨.usdc, arbitrumSepolia, "0x75faf114eafb1bdbe2f0316df893fd58ce46aa4d", 6, .active⟩,
      ⟨.usdc, solanaDevnet, "4zMMC9srt5Ri5X14GAgXhaHii3GnPAEERYPJgZJDncDU", 6, .active⟩,
      ⟨.pyusd, ethereumSepolia, "0xcac524bca292aaade2df8a05cc58f0a65b1b3bb9", 6, .active⟩,
      ⟨.pyusd, arbitrumSepolia, "0x637a1259c6afd7e3adf63993ca7e58bb438ab1b1", 6, .active⟩,
      ⟨.pyusd, solanaDevnet, "CXk2AMBfi3TwaEL2468s6zP8xq9NxTXjp9gjMgzeUynM", 6, .active⟩]

/-- The active asset with an identity on an active network. -/
def SupportedAssetRegistrySnapshot.normalizeAsset (registry : SupportedAssetRegistrySnapshot)
    (networkId identity : String) : Option SupportedStablecoinAsset := do
  let asset ← registry.identifyAsset networkId identity
  let network ← registry.networks.find? (fun n => n.networkId == networkId)
  if asset.activationState = .active ∧ network.activationState = .active then some asset else none

end CryptoLending.Blockchain.AssetRegistry
