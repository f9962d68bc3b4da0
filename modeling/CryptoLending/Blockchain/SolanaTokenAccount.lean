import CryptoLending.Lib.Bytes
import CryptoLending.Lib.JsValue
import CryptoLending.Lib.Transaction
import CryptoLending.Wallets.Base58

namespace CryptoLending.Blockchain.SolanaTokenAccount

open Lib Lib.JsValue Lib.Radix Lib.ByteSlice
open Wallets.Base58 (base58Alphabet indices symbols)

inductive SolanaTokenAccountValidationCode where
  | invalidPublicKey
  | invalidTokenProgram
  | invalidAccountData
  | invalidAccountLength
  | invalidAccountType
  | invalidCoption
  | invalidAccountState
  | ownerMismatch
  deriving DecidableEq

def solanaPublicKeyBytes : Nat := 32

def isZero (bytes : List Nat) : Bool := bytes.all (· == 0)

/-- The digits of the number of the bytes, behind one character for each leading zero. -/
def encodeBase58 (bytes : List Nat) : List Char :=
  let numericValue := bytes.foldl (fun n byte => n * 256 + byte) 0
  let encoded := (Nat.digits 58 numericValue).reverse.filterMap (base58Alphabet[·]?)
  List.replicate (bytes.takeWhile (· == 0)).length '1' ++ encoded

/-- A character outside the alphabet ends the loop, so counting characters decides the length. -/
def decodeSolanaPublicKey (publicKey : Value) :
    Except SolanaTokenAccountValidationCode (List Nat) := do
  let text ← orFail publicKey.string? .invalidPublicKey
  let characters := text.toList
  failWhen (characters.length < 32 ∨ 44 < characters.length) .invalidPublicKey
  let numericValue ← orFail (characters.foldlM
    (fun n c => (base58Alphabet.idxOf? c).map (fun digit => n * 58 + digit)) 0) .invalidPublicKey
  let reversedBytes := Nat.digits 256 numericValue
  let decoded := List.replicate (characters.takeWhile (· == '1')).length 0 ++ reversedBytes.reverse
  failWhen (decoded.length ≠ solanaPublicKeyBytes ∨ isZero decoded = true ∨
    encodeBase58 decoded ≠ characters) .invalidPublicKey
  return decoded

theorem encodeBase58_eq (bytes : List Nat) :
    encodeBase58 bytes = Wallets.Base58.encodeBase58 bytes := by
  rw [Wallets.Base58.encodeBase58, Wallets.Base58.significant_foldl_mulAdd (by omega) (by omega)]
  rfl

theorem decoded_eq {cs : List Char} {ds : List Nat} (h : indices cs = some ds) :
    List.replicate (cs.takeWhile (· == '1')).length 0 ++ (Nat.digits 256 (number 58 ds)).reverse =
      convert 58 256 ds := by
  obtain ⟨hds, rfl⟩ := Wallets.Base58.indices_eq_some.mp h
  rw [Wallets.Base58.zeros_symbols hds, convert]

/-- The texts of the keys that are not all zero, with their bytes. -/
theorem decodeSolanaPublicKey_ok {publicKey : Value} {bytes : List Nat} :
    decodeSolanaPublicKey publicKey = .ok bytes ↔
      ∃ text, publicKey = .string text ∧ Wallets.Base58.encodeBase58 bytes = text.toList ∧
        (∀ b ∈ bytes, b < 256) ∧ bytes.length = 32 ∧ isZero bytes = false := by
  simp only [decodeSolanaPublicKey, except_bind_ok, orFail_ok, failWhen_ok, except_pure_ok,
    Value.string?_eq_some, Wallets.Base58.foldlM_idxOf, Option.map_eq_some_iff, encodeBase58_eq,
    solanaPublicKeyBytes]
  constructor
  · rintro ⟨text, rfl, -, -, -, ⟨ds, hds, rfl⟩, -, hdecoded, rfl⟩
    rw [decoded_eq hds] at hdecoded ⊢
    simp only [not_or, not_not, Bool.not_eq_true] at hdecoded
    obtain ⟨hlength, hzero, hencode⟩ := hdecoded
    exact ⟨text, rfl, hencode, fun b hb => lt_of_mem_convert (by omega) hb, hlength, hzero⟩
  · rintro ⟨text, rfl, hencode, hbytes, hlength, hzero⟩
    have hge := Wallets.Base58.length_le_encodeBase58 hbytes
    have hle := Wallets.Base58.length_encodeBase58_le hbytes hlength
    have hdecode := Wallets.Base58.decodeCharacters_eq_some.mpr ⟨hbytes, hencode⟩
    rw [Wallets.Base58.decodeCharacters_eq, Option.map_eq_some_iff] at hdecode
    obtain ⟨ds, hds, rfl⟩ := hdecode
    rw [hencode] at hge hle
    refine ⟨text, rfl, (), by omega, _, ⟨ds, hds, rfl⟩, (), ?_, decoded_eq hds⟩
    rw [decoded_eq hds]
    simp only [not_or, not_not, Bool.not_eq_true]
    exact ⟨hlength, hzero, hencode⟩

inductive SolanaTokenProgramId where
  | legacy
  | token2022
  deriving DecidableEq

def SolanaTokenProgramId.text : SolanaTokenProgramId → String
  | .legacy => "TokenkegQfeZyiNwAJbNbGKPFXCWuBvf9Ss623VQ5DA"
  | .token2022 => "TokenzQdBNbLqP5VEhdkAS6EPFLC1PHnBqCXEpPxuEb"

inductive SolanaTokenAccountState where
  | uninitialized
  | active
  | frozen
  deriving DecidableEq

def splTokenAccountBytes : Nat := 165
def token2022AccountTypeOffset : Nat := splTokenAccountBytes
def token2022AccountType : UInt8 := 2
def maxSolanaTokenAccountBytes : Nat := 4096

structure ParsedSolanaTokenAccount where
  mint : String
  owner : String
  amountBaseUnits : Nat
  state : SolanaTokenAccountState
  tokenProgramId : SolanaTokenProgramId
  deriving DecidableEq

/-- The data is absent where it is no array of bytes. -/
structure ParseSolanaTokenAccountInput where
  data : Option (List UInt8)
  tokenProgramId : String
  expectedOwner : Option Value

def keyText (bytes : List UInt8) : String := String.ofList (encodeBase58 (bytes.map (·.toNat)))

def isZeroBytes (bytes : List UInt8) : Bool := bytes.all (· == 0)

def normalizeSolanaPublicKey (publicKey : Value) :
    Except SolanaTokenAccountValidationCode String := do
  let bytes ← decodeSolanaPublicKey publicKey
  return String.ofList (encodeBase58 bytes)

def readPublicKey (data : List UInt8) (offset : Nat) :
    Except SolanaTokenAccountValidationCode String := do
  let bytes := slice data offset solanaPublicKeyBytes
  failWhen (isZeroBytes bytes = true) .invalidPublicKey
  return keyText bytes

def validateCOption (data : List UInt8) (offset valueBytes : Nat) :
    Except SolanaTokenAccountValidationCode Unit := do
  let discriminator := littleEndian (slice data offset 4)
  failWhen (discriminator ≠ 0 ∧ discriminator ≠ 1) .invalidCoption
  failWhen (discriminator = 0 ∧ isZeroBytes (slice data (offset + 4) valueBytes) = false)
    .invalidCoption

def validateLayout (data : List UInt8) :
    SolanaTokenProgramId → Except SolanaTokenAccountValidationCode Unit
  | .legacy => failWhen (data.length ≠ splTokenAccountBytes) .invalidAccountLength
  | .token2022 => do
    failWhen (data.length < splTokenAccountBytes ∨ maxSolanaTokenAccountBytes < data.length)
      .invalidAccountLength
    failWhen (data.length ≠ splTokenAccountBytes ∧
      data[token2022AccountTypeOffset]? ≠ some token2022AccountType) .invalidAccountType

def normalizeTokenProgramId (tokenProgramId : String) : Option SolanaTokenProgramId :=
  if tokenProgramId = SolanaTokenProgramId.legacy.text then some .legacy
  else if tokenProgramId = SolanaTokenProgramId.token2022.text then some .token2022
  else none

def parseState : Option UInt8 → Option SolanaTokenAccountState
  | some 0 => some .uninitialized
  | some 1 => some .active
  | some 2 => some .frozen
  | _ => none

/-- Where an owner is expected, it has to be a key and the one of the account. -/
def checkOwner (owner : String) :
    Option Value → Except SolanaTokenAccountValidationCode Unit
  | some expectedOwner => do
    let expected ← normalizeSolanaPublicKey expectedOwner
    failWhen (owner ≠ expected) .ownerMismatch
  | none => pure ()

/-- The owner is checked before the mint is read, and the state last. -/
def parseSolanaTokenAccount (input : ParseSolanaTokenAccountInput) :
    Except SolanaTokenAccountValidationCode ParsedSolanaTokenAccount := do
  let data ← orFail input.data .invalidAccountData
  let tokenProgramId ← orFail (normalizeTokenProgramId input.tokenProgramId) .invalidTokenProgram
  validateLayout data tokenProgramId
  validateCOption data 72 32
  validateCOption data 109 8
  validateCOption data 129 32
  let owner ← readPublicKey data 32
  checkOwner owner input.expectedOwner
  let mint ← readPublicKey data 0
  let state ← orFail (parseState data[108]?) .invalidAccountState
  return {
    mint
    owner
    amountBaseUnits := littleEndian (slice data 64 8)
    state
    tokenProgramId }

section Layout

/-- An optional field: its tag, and nothing behind the tag of none. -/
structure HoldsOption (data : List UInt8) (offset valueBytes : Nat) : Prop where
  tag : littleEndian (slice data offset 4) ≤ 1
  empty : littleEndian (slice data offset 4) = 0 →
    ∀ b ∈ slice data (offset + 4) valueBytes, b = 0

/-- The length that a program gives its accounts, and the marker behind a longer one. -/
def HasLayout (data : List UInt8) : SolanaTokenProgramId → Prop
  | .legacy => data.length = 165
  | .token2022 => 165 ≤ data.length ∧ data.length ≤ 4096 ∧
    (data.length = 165 ∨ data[165]? = some 2)

def stateByte : SolanaTokenAccountState → UInt8
  | .uninitialized => 0
  | .active => 1
  | .frozen => 2

/-- The bytes of an account and what its fields say. -/
structure IsTokenAccount (data : List UInt8) (p : ParsedSolanaTokenAccount) : Prop where
  layout : HasLayout data p.tokenProgramId
  delegate : HoldsOption data 72 32
  native : HoldsOption data 109 8
  closeAuthority : HoldsOption data 129 32
  mint : p.mint = keyText (slice data 0 32) ∧ ∃ b ∈ slice data 0 32, b ≠ 0
  owner : p.owner = keyText (slice data 32 32) ∧ ∃ b ∈ slice data 32 32, b ≠ 0
  amount : p.amountBaseUnits = littleEndian (slice data 64 8)
  state : data[108]? = some (stateByte p.state)

variable {data : List UInt8}

theorem isZeroBytes_iff {bytes : List UInt8} : isZeroBytes bytes = true ↔ ∀ b ∈ bytes, b = 0 := by
  simp [isZeroBytes]

theorem readPublicKey_ok {offset : Nat} {key : String} : readPublicKey data offset = .ok key ↔
    key = keyText (slice data offset 32) ∧ ∃ b ∈ slice data offset 32, b ≠ 0 := by
  rw [readPublicKey, except_bind_ok]
  simp only [failWhen_ok, isZeroBytes_iff, solanaPublicKeyBytes, except_pure_ok, not_forall,
    exists_prop, exists_const]
  tauto

theorem validateCOption_ok {offset valueBytes : Nat} {u : Unit} :
    validateCOption data offset valueBytes = .ok u ↔ HoldsOption data offset valueBytes := by
  rw [validateCOption, except_bind_ok]
  simp only [failWhen_ok, exists_const]
  constructor
  · rintro ⟨htag, hempty⟩
    refine ⟨by omega, fun hzero => ?_⟩
    exact isZeroBytes_iff.1 (Bool.eq_true_of_not_eq_false fun hfalse => hempty ⟨hzero, hfalse⟩)
  · rintro ⟨htag, hempty⟩
    refine ⟨by omega, fun ⟨hzero, hfalse⟩ => ?_⟩
    rw [isZeroBytes_iff.2 (hempty hzero)] at hfalse
    cases hfalse

theorem validateLayout_ok {program : SolanaTokenProgramId} {u : Unit} :
    validateLayout data program = .ok u ↔ HasLayout data program := by
  cases program with
  | legacy =>
    rw [validateLayout, failWhen_ok, not_not]
    rfl
  | token2022 =>
    rw [validateLayout, except_bind_ok]
    simp only [failWhen_ok, exists_const]
    rw [not_or, Nat.not_lt, Nat.not_lt, not_and_or, not_not, not_not, and_assoc]
    rfl

theorem parseState_iff {b : Option UInt8} {state : SolanaTokenAccountState} :
    parseState b = some state ↔ b = some (stateByte state) := by
  constructor
  · intro h
    unfold parseState at h
    split at h
    · obtain rfl := Option.some.inj h
      rfl
    · obtain rfl := Option.some.inj h
      rfl
    · obtain rfl := Option.some.inj h
      rfl
    · cases h
  · rintro rfl
    cases state <;> rfl

theorem normalizeTokenProgramId_iff {text : String} {program : SolanaTokenProgramId} :
    normalizeTokenProgramId text = some program ↔ text = program.text := by
  constructor
  · intro h
    rw [normalizeTokenProgramId] at h
    split_ifs at h with hlegacy htoken2022
    · obtain rfl := Option.some.inj h
      exact hlegacy
    · obtain rfl := Option.some.inj h
      exact htoken2022
  · rintro rfl
    cases program <;> decide

/-- The accounts that are accepted are those of the layout. -/
theorem parseSolanaTokenAccount_ok {input : ParseSolanaTokenAccountInput}
    {p : ParsedSolanaTokenAccount} : parseSolanaTokenAccount input = .ok p ↔
      ∃ data, input.data = some data ∧ input.tokenProgramId = p.tokenProgramId.text ∧
        IsTokenAccount data p ∧
        ∀ expected, input.expectedOwner = some expected →
          normalizeSolanaPublicKey expected = .ok p.owner := by
  constructor
  · intro h
    obtain ⟨data, hdata, h⟩ := except_bind_ok.mp h
    obtain ⟨program, hprogram, h⟩ := except_bind_ok.mp h
    obtain ⟨_, hlayout, h⟩ := except_bind_ok.mp h
    obtain ⟨_, hdelegate, h⟩ := except_bind_ok.mp h
    obtain ⟨_, hnative, h⟩ := except_bind_ok.mp h
    obtain ⟨_, hclose, h⟩ := except_bind_ok.mp h
    obtain ⟨owner, howner, h⟩ := except_bind_ok.mp h
    obtain ⟨_, hexpected, h⟩ := except_bind_ok.mp h
    obtain ⟨mint, hmint, h⟩ := except_bind_ok.mp h
    obtain ⟨state, hstate, h⟩ := except_bind_ok.mp h
    obtain rfl := Except.ok.inj h
    refine ⟨data, orFail_ok.mp hdata, normalizeTokenProgramId_iff.1 (orFail_ok.mp hprogram), ?_, ?_⟩
    · exact ⟨validateLayout_ok.1 hlayout, validateCOption_ok.1 hdelegate,
        validateCOption_ok.1 hnative, validateCOption_ok.1 hclose, readPublicKey_ok.1 hmint,
        readPublicKey_ok.1 howner, rfl, parseState_iff.1 (orFail_ok.mp hstate)⟩
    · intro expected hsome
      rw [hsome] at hexpected
      obtain ⟨key, hkey, hsame⟩ := except_bind_ok.mp hexpected
      rw [not_not.mp (failWhen_ok.mp hsame)]
      exact hkey
  · rintro ⟨data, hdata, hprogram, h, hexpected⟩
    refine except_bind_ok.mpr ⟨data, orFail_ok.mpr hdata, ?_⟩
    refine except_bind_ok.mpr ⟨_, orFail_ok.mpr (normalizeTokenProgramId_iff.2 hprogram), ?_⟩
    refine except_bind_ok.mpr ⟨(), validateLayout_ok.2 h.layout, ?_⟩
    refine except_bind_ok.mpr ⟨(), validateCOption_ok.2 h.delegate, ?_⟩
    refine except_bind_ok.mpr ⟨(), validateCOption_ok.2 h.native, ?_⟩
    refine except_bind_ok.mpr ⟨(), validateCOption_ok.2 h.closeAuthority, ?_⟩
    refine except_bind_ok.mpr ⟨p.owner, readPublicKey_ok.2 h.owner, ?_⟩
    refine except_bind_ok.mpr ⟨(), ?_, ?_⟩
    · cases hsome : input.expectedOwner with
      | none => rfl
      | some expected =>
        exact except_bind_ok.mpr ⟨p.owner, hexpected expected hsome, failWhen_ok.mpr (by simp)⟩
    · refine except_bind_ok.mpr ⟨p.mint, readPublicKey_ok.2 h.mint, ?_⟩
      refine except_bind_ok.mpr ⟨p.state, orFail_ok.mpr (parseState_iff.2 h.state), ?_⟩
      rw [← h.amount]
      rfl

end Layout

end CryptoLending.Blockchain.SolanaTokenAccount
