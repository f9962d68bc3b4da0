import CryptoLending.Blockchain.SolanaTokenAccount
import CryptoLending.MainnetActions.Lifecycle
import CryptoLending.MainnetActions.SolanaPublicKey

namespace CryptoLending.MainnetActions.SolanaKeyAgreement

open Lib Lib.JsValue Wallets.Base58 Wallets.WalletIdentity Lifecycle SolanaPublicKey
open Blockchain.SolanaTokenAccount (decodeSolanaPublicKey decodeSolanaPublicKey_ok isZero)

variable {ε : Type}

/-- The encoder of the wallets, which returns at once on no bytes. -/
def walletEncodeBase58 (bytes : List Nat) : List Char :=
  if bytes.length = 0 then [] else encodeBase58 bytes

theorem walletEncodeBase58_eq (bytes : List Nat) :
    walletEncodeBase58 bytes = encodeBase58 bytes := by
  rw [walletEncodeBase58]
  split
  · next h => rw [List.length_eq_zero_iff.mp h]; rfl
  · rfl

theorem isNonemptyBase58_encodeBase58 {bytes : List Nat} (h : ∀ b ∈ bytes, b < 256) :
    isNonemptyBase58 (encodeBase58 bytes) = true ↔ bytes ≠ [] := by
  have hge := length_le_encodeBase58 h
  rw [isNonemptyBase58, isBase58_encodeBase58, Bool.and_true, Bool.not_eq_true',
    List.isEmpty_eq_false_iff, Ne, Ne, not_iff_not]
  constructor
  · intro hnil
    rw [hnil, List.length_nil] at hge
    exact List.length_eq_zero_iff.mp (by omega)
  · rintro rfl
    rfl

theorem isSolanaAddressPattern_encodeBase58 (bytes : List Nat) :
    isSolanaAddressPattern (encodeBase58 bytes) = true ↔
      32 ≤ (encodeBase58 bytes).length ∧ (encodeBase58 bytes).length ≤ 44 := by
  rw [isSolanaAddressPattern, isBase58_encodeBase58, Bool.and_true, decide_eq_true_eq]

/-- What the texts of public keys stand for. -/
structure SolanaKey where
  bytes : List Nat
  lt : ∀ b ∈ bytes, b < 256
  length : bytes.length = 32

namespace SolanaKey

def text (key : SolanaKey) : String := String.ofList (encodeBase58 key.bytes)

def zero : SolanaKey := ⟨List.replicate 32 0, by decide, rfl⟩

def IsZero (key : SolanaKey) : Prop := isZero key.bytes = true

@[simp] theorem toList_text (key : SolanaKey) : key.text.toList = encodeBase58 key.bytes :=
  String.toList_ofList

theorem ext_bytes {key other : SolanaKey} (h : key.bytes = other.bytes) : key = other := by
  cases key
  cases other
  cases h
  rfl

theorem text_injective : Function.Injective text := by
  intro key other h
  have hlist := congrArg String.toList h
  rw [toList_text, toList_text] at hlist
  exact ext_bytes (encodeBase58_inj key.lt other.lt hlist)

theorem eq_zero_iff (key : SolanaKey) : key = zero ↔ key.IsZero := by
  constructor
  · rintro rfl
    rw [IsZero]
    decide
  · intro h
    apply ext_bytes
    apply List.eq_replicate_iff.mpr
    refine ⟨key.length, fun b hb => ?_⟩
    exact beq_iff_eq.mp (List.all_eq_true.mp h b hb)

theorem text_zero : zero.text = zeroSolanaAddress := by decide

theorem matches_pattern (key : SolanaKey) :
    isSolanaAddressPattern (encodeBase58 key.bytes) = true := by
  have hge := length_le_encodeBase58 key.lt
  rw [key.length] at hge
  exact (isSolanaAddressPattern_encodeBase58 _).mpr ⟨hge, length_encodeBase58_le key.lt key.length⟩

theorem read_text (key : SolanaKey) : isSolanaAddressPattern key.text.toList = true ∧
    (∀ b ∈ key.bytes, b < 256) ∧ encodeBase58 key.bytes = key.text.toList := by
  rw [toList_text]
  exact ⟨key.matches_pattern, key.lt, rfl⟩

theorem isNonempty (key : SolanaKey) : isNonemptyBase58 (encodeBase58 key.bytes) = true := by
  apply (isNonemptyBase58_encodeBase58 key.lt).mpr
  intro hnil
  have hlength := key.length
  rw [hnil, List.length_nil] at hlength
  omega

end SolanaKey

section Parsers

variable {value : Value} {text : String} {bytes : List Nat} {code : ε}

theorem exists_key_iff (value : Value) (bytes : List Nat) (P : List Nat → Prop) :
    (∃ key : SolanaKey, key.bytes = bytes ∧ P key.bytes ∧ value = .string key.text) ↔
      ∃ text, value = .string text ∧ encodeBase58 bytes = text.toList ∧ (∀ b ∈ bytes, b < 256) ∧
        bytes.length = 32 ∧ P bytes := by
  constructor
  · rintro ⟨key, rfl, hkey, rfl⟩
    exact ⟨key.text, rfl, key.toList_text.symm, key.lt, key.length, hkey⟩
  · rintro ⟨text, rfl, hencode, hlt, hlength, hbytes⟩
    refine ⟨⟨bytes, hlt, hlength⟩, rfl, hbytes, ?_⟩
    rw [SolanaKey.text, hencode, String.ofList_toList]

theorem isCanonicalBase58_iff :
    isCanonicalBase58 32 text.toList = true ↔ ∃ key : SolanaKey, ¬key.IsZero ∧ key.text = text := by
  rw [isCanonicalBase58, Bool.and_eq_true, Option.any_eq_true, decide_eq_true_eq]
  constructor
  · rintro ⟨-, bytes, hdecode, hbytes⟩
    simp only [Bool.and_eq_true, beq_iff_eq, Bool.not_eq_true'] at hbytes
    obtain ⟨-, hlt, -⟩ := decodeBase58_eq_some.mp hdecode
    refine ⟨⟨bytes, hlt, hbytes.1.1⟩, ?_, ?_⟩
    · exact ne_true_of_eq_false hbytes.2
    · rw [SolanaKey.text, hbytes.1.2, String.ofList_toList]
  · rintro ⟨key, hzero, rfl⟩
    have hle := length_encodeBase58_le key.lt key.length
    rw [SolanaKey.toList_text]
    refine ⟨by omega, key.bytes, decodeBase58_eq_some.mpr ⟨key.isNonempty, key.lt, rfl⟩, ?_⟩
    simp only [Bool.and_eq_true, beq_iff_eq, Bool.not_eq_true']
    exact ⟨⟨key.length, trivial⟩, eq_false_of_ne_true hzero⟩

/-- The lifecycle accepts the texts of the keys that are not zero. -/
theorem canonicalBase58_ok : canonicalBase58 value 32 code = .ok text ↔
    ∃ key : SolanaKey, ¬key.IsZero ∧ key.text = text ∧ value = .string key.text := by
  rw [canonicalBase58, Intent.textOf_ok, isCanonicalBase58_iff]
  constructor
  · rintro ⟨rfl, key, hzero, rfl⟩
    exact ⟨key, hzero, rfl, rfl⟩
  · rintro ⟨key, hzero, rfl, rfl⟩
    exact ⟨rfl, key, hzero, rfl⟩

theorem parseSolanaWalletAddress_ok : parseSolanaWalletAddress value = .ok text ↔
    ∃ key : SolanaKey, ¬key.IsZero ∧ key.text = text ∧ value = .string key.text := by
  simp only [parseSolanaWalletAddress, except_bind_ok, orFail_ok, failWhen_ok, except_pure_ok,
    Value.string?_eq_some, decodeBase58_eq_some, beq_iff_eq, not_or, not_not]
  constructor
  · rintro ⟨_, rfl, -, hzero, bytes, ⟨-, hlt, hencode⟩, -, ⟨hlength, -⟩, rfl⟩
    refine ⟨⟨bytes, hlt, hlength⟩, ?_, ?_, ?_⟩
    · rw [← SolanaKey.eq_zero_iff]
      intro hkey
      apply hzero
      rw [← SolanaKey.text_zero, ← hkey, SolanaKey.text, hencode, String.ofList_toList]
    · rw [SolanaKey.text, hencode, String.ofList_toList]
    · rw [SolanaKey.text, hencode, String.ofList_toList]
  · rintro ⟨key, hzero, rfl, rfl⟩
    have hencode := key.toList_text.symm
    refine ⟨key.text, rfl, (), ?_, key.bytes, key.read_text, (), ⟨key.length, hencode⟩, rfl⟩
    intro htext
    rw [← SolanaKey.text_zero] at htext
    exact hzero ((SolanaKey.eq_zero_iff key).mp (SolanaKey.text_injective htext))

/-- The wallets accept the texts of the keys that are not zero. -/
theorem solanaWalletAddressBytes_ok : solanaWalletAddressBytes value = .ok bytes ↔
    ∃ key : SolanaKey, key.bytes = bytes ∧ ¬key.IsZero ∧ value = .string key.text := by
  simp only [solanaWalletAddressBytes, except_bind_ok, orFail_ok, failWhen_ok, except_pure_ok,
    parseSolanaWalletAddress_ok, decodeBase58_eq_some, not_not]
  constructor
  · rintro ⟨_, ⟨key, hzero, rfl, rfl⟩, _, ⟨-, hlt, hencode⟩, -, -, rfl⟩
    rw [SolanaKey.toList_text] at hencode
    exact ⟨key, encodeBase58_inj key.lt hlt hencode.symm, hzero, rfl⟩
  · rintro ⟨key, rfl, hzero, rfl⟩
    exact ⟨key.text, ⟨key, hzero, rfl, rfl⟩, key.bytes, key.read_text, (), key.length, rfl⟩

/-- The token accounts accept the texts of the keys that are not zero. -/
theorem decodeSolanaPublicKey_ok_iff : decodeSolanaPublicKey value = .ok bytes ↔
    ∃ key : SolanaKey, key.bytes = bytes ∧ ¬key.IsZero ∧ value = .string key.text := by
  rw [decodeSolanaPublicKey_ok]
  simp only [← Bool.not_eq_true]
  exact (exists_key_iff value bytes (fun bytes => ¬isZero bytes = true)).symm

/-- The codec accepts the texts of all keys. -/
theorem decodeCanonicalSolanaPublicKey_ok_iff : decodeCanonicalSolanaPublicKey value = .ok bytes ↔
    ∃ key : SolanaKey, key.bytes = bytes ∧ value = .string key.text := by
  rw [decodeCanonicalSolanaPublicKey_ok]
  have hkeys := exists_key_iff value bytes (fun _ => True)
  simp only [true_and, and_true] at hkeys
  exact hkeys.symm

end Parsers

/-- Every decoder reads back what its encoder writes, within the lengths it admits, and
nothing else. The parsers of keys agree, but for the key of zeros. -/
theorem base58_implementations_agree (bytes : List Nat) (cs : List Char) (value : Value)
    (text : String) (code : ε) :
    (walletEncodeBase58 bytes = encodeBase58 bytes ∧
      Blockchain.SolanaTokenAccount.encodeBase58 bytes = encodeBase58 bytes ∧
      encodeSolanaBase58 bytes = encodeBase58 bytes) ∧
    (decodeBase58 isNonemptyBase58 cs = some bytes ↔
      (∀ b ∈ bytes, b < 256) ∧ encodeBase58 bytes = cs ∧ bytes ≠ []) ∧
    (decodeBase58 isSolanaAddressPattern cs = some bytes ↔
      (∀ b ∈ bytes, b < 256) ∧ encodeBase58 bytes = cs ∧ 32 ≤ cs.length ∧ cs.length ≤ 44) ∧
    (decodeSolanaPublicKey value = .ok bytes ↔
      ∃ key : SolanaKey, key.bytes = bytes ∧ ¬key.IsZero ∧ value = .string key.text) ∧
    (solanaWalletAddressBytes value = .ok bytes ↔ decodeSolanaPublicKey value = .ok bytes) ∧
    (canonicalBase58 value 32 code = .ok text ∧
        decodeBase58 isNonemptyBase58 text.toList = some bytes ↔
      decodeSolanaPublicKey value = .ok bytes ∧ value = .string text) ∧
    (decodeCanonicalSolanaPublicKey value = .ok bytes ↔
      decodeSolanaPublicKey value = .ok bytes ∨
        bytes = List.replicate 32 0 ∧ value = .string zeroSolanaAddress) := by
  refine ⟨⟨?_, ?_, ?_⟩, ?_, ?_, ?_, ?_, ?_, ?_⟩
  · exact walletEncodeBase58_eq bytes
  · exact Blockchain.SolanaTokenAccount.encodeBase58_eq bytes
  · exact encodeSolanaBase58_eq bytes
  · rw [decodeBase58_eq_some]
    constructor
    · rintro ⟨hpattern, hlt, rfl⟩
      exact ⟨hlt, rfl, (isNonemptyBase58_encodeBase58 hlt).mp hpattern⟩
    · rintro ⟨hlt, rfl, hne⟩
      exact ⟨(isNonemptyBase58_encodeBase58 hlt).mpr hne, hlt, rfl⟩
  · rw [decodeBase58_eq_some]
    constructor
    · rintro ⟨hpattern, hlt, rfl⟩
      exact ⟨hlt, rfl, (isSolanaAddressPattern_encodeBase58 bytes).mp hpattern⟩
    · rintro ⟨hlt, rfl, hlength⟩
      exact ⟨(isSolanaAddressPattern_encodeBase58 bytes).mpr hlength, hlt, rfl⟩
  · exact decodeSolanaPublicKey_ok_iff
  · rw [solanaWalletAddressBytes_ok, decodeSolanaPublicKey_ok_iff]
  · rw [canonicalBase58_ok, decodeSolanaPublicKey_ok_iff, decodeBase58_eq_some]
    constructor
    · rintro ⟨⟨key, hzero, rfl, rfl⟩, -, hlt, hencode⟩
      rw [SolanaKey.toList_text] at hencode
      exact ⟨⟨key, encodeBase58_inj key.lt hlt hencode.symm, hzero, rfl⟩, rfl⟩
    · rintro ⟨⟨key, rfl, hzero, rfl⟩, htext⟩
      obtain rfl := Value.string.inj htext
      rw [SolanaKey.toList_text]
      exact ⟨⟨key, hzero, rfl, rfl⟩, key.isNonempty, key.lt, rfl⟩
  · rw [decodeCanonicalSolanaPublicKey_ok_iff, decodeSolanaPublicKey_ok_iff]
    constructor
    · rintro ⟨key, rfl, rfl⟩
      by_cases hzero : key.IsZero
      · obtain rfl := (SolanaKey.eq_zero_iff key).mpr hzero
        exact Or.inr ⟨rfl, congrArg Value.string SolanaKey.text_zero⟩
      · exact Or.inl ⟨key, rfl, hzero, rfl⟩
    · rintro (⟨key, rfl, -, rfl⟩ | ⟨rfl, rfl⟩)
      · exact ⟨key, rfl, rfl⟩
      · exact ⟨SolanaKey.zero, rfl, congrArg Value.string SolanaKey.text_zero.symm⟩

/-- Neither the empty text nor a short one is decoded everywhere. -/
theorem short_texts_not_decoded :
    ¬ ∀ bytes : List Nat, (∀ b ∈ bytes, b < 256) →
      decodeBase58 isNonemptyBase58 (encodeBase58 bytes) = some bytes ∧
        decodeBase58 isSolanaAddressPattern (encodeBase58 bytes) = some bytes := by
  intro h
  have hempty := (h [] (by simp)).1
  revert hempty
  decide

end CryptoLending.MainnetActions.SolanaKeyAgreement
