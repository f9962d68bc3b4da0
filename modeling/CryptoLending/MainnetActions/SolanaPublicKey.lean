import CryptoLending.Lib.JsValue
import CryptoLending.Lib.Transaction
import CryptoLending.Wallets.WalletIdentity

namespace CryptoLending.MainnetActions.SolanaPublicKey

open Lib Lib.JsValue Lib.Radix
open Wallets.Base58 (base58Alphabet indices symbols)
open Wallets.WalletIdentity (isSolanaAddressPattern)

inductive SolanaPublicKeyCode where
  | invalidSolanaPublicKey
  deriving DecidableEq

/-- The bytes of an even number of hexadecimal digits. -/
def bytesOfHex : List Nat → List Nat
  | high :: low :: digits => (high * 16 + low) :: bytesOfHex digits
  | _ => []

def encodeSolanaBase58 (bytes : List Nat) : List Char :=
  let leadingZeros := (bytes.takeWhile (· == 0)).length
  let integer := bytes.foldl (fun n byte => n * 256 + byte) 0
  let result := (Nat.digits 58 integer).reverse.filterMap (base58Alphabet[·]?)
  List.replicate leadingZeros '1' ++ result

/-- The integer of the text, written with 64 hexadecimal digits. -/
def decodeCanonicalSolanaPublicKey (value : Value) : Except SolanaPublicKeyCode (List Nat) := do
  let text ← orFail value.string? .invalidSolanaPublicKey
  failWhen (isSolanaAddressPattern text.toList = false) .invalidSolanaPublicKey
  let integer ← orFail (text.toList.foldlM
    (fun n c => (base58Alphabet.idxOf? c).map (fun digit => n * 58 + digit)) 0)
    .invalidSolanaPublicKey
  failWhen (integer ≥ 2 ^ 256) .invalidSolanaPublicKey
  let bytes := bytesOfHex ((Nat.digits 16 integer).reverse.leftpad 64 0)
  failWhen (encodeSolanaBase58 bytes ≠ text.toList) .invalidSolanaPublicKey
  return bytes

theorem encodeSolanaBase58_eq (bytes : List Nat) :
    encodeSolanaBase58 bytes = Wallets.Base58.encodeBase58 bytes := by
  rw [Wallets.Base58.encodeBase58, Wallets.Base58.significant_foldl_mulAdd (by omega) (by omega)]
  rfl

section Hex

theorem length_bytesOfHex (digits : List Nat) : (bytesOfHex digits).length = digits.length / 2 := by
  fun_induction bytesOfHex digits with
  | case1 high low digits ih =>
    rw [List.length_cons, ih, List.length_cons, List.length_cons]
    omega
  | case2 digits h =>
    have hshort : digits.length < 2 := by
      by_contra hlong
      obtain ⟨high, rest, rfl⟩ := List.exists_cons_of_length_pos (show 0 < digits.length by omega)
      rw [List.length_cons] at hlong
      obtain ⟨low, rest, rfl⟩ := List.exists_cons_of_length_pos (show 0 < rest.length by omega)
      exact h high low rest rfl
    rw [List.length_nil]
    omega

theorem lt_of_mem_bytesOfHex {digits : List Nat} (h : ∀ d ∈ digits, d < 16) :
    ∀ b ∈ bytesOfHex digits, b < 256 := by
  fun_induction bytesOfHex digits with
  | case1 high low digits ih =>
    rw [List.forall_mem_cons, List.forall_mem_cons] at h
    rw [List.forall_mem_cons]
    exact ⟨by omega, ih h.2.2⟩
  | case2 digits _ => simp

theorem foldl_bytesOfHex (pairs : Nat) {digits : List Nat} (h : digits.length = 2 * pairs)
    (n : Nat) : (bytesOfHex digits).foldl (fun n byte => n * 256 + byte) n =
      digits.foldl (fun n d => n * 16 + d) n := by
  induction pairs generalizing digits n with
  | zero =>
    obtain rfl := List.length_eq_zero_iff.mp h
    rfl
  | succ pairs ih =>
    cases digits with
    | nil => rw [List.length_nil] at h; omega
    | cons high digits =>
      cases digits with
      | nil => rw [List.length_singleton] at h; omega
      | cons low digits =>
        rw [List.length_cons, List.length_cons] at h
        rw [bytesOfHex, List.foldl_cons, List.foldl_cons, List.foldl_cons, ih (by omega)]
        congr 1
        ring

/-- The bytes behind the hexadecimal text of an integer. -/
def hexBytes (integer : Nat) : List Nat :=
  bytesOfHex ((Nat.digits 16 integer).reverse.leftpad 64 0)

theorem length_hexDigits {integer : Nat} (h : integer < 2 ^ 256) :
    ((Nat.digits 16 integer).reverse.leftpad 64 0).length = 64 := by
  have hle : (Nat.digits 16 integer).length ≤ 64 := by
    rw [Nat.digits_length_le_iff (by omega)]
    exact lt_of_lt_of_eq h (by norm_num)
  rw [List.length_leftpad, List.length_reverse]
  omega

theorem length_hexBytes {integer : Nat} (h : integer < 2 ^ 256) :
    (hexBytes integer).length = 32 := by
  rw [hexBytes, length_bytesOfHex, length_hexDigits h]

theorem lt_of_mem_hexBytes {integer : Nat} : ∀ b ∈ hexBytes integer, b < 256 := by
  apply lt_of_mem_bytesOfHex
  intro d hd
  rw [List.leftpad, List.mem_append, List.mem_replicate, List.mem_reverse] at hd
  cases hd with
  | inl hd => omega
  | inr hd => exact Nat.digits_lt_base (by omega) hd

theorem number_hexBytes {integer : Nat} (h : integer < 2 ^ 256) :
    number 256 (hexBytes integer) = integer := by
  have hlength := length_hexDigits h
  rw [hexBytes, number, foldl_bytesOfHex 32 hlength]
  change number 16 _ = _
  rw [List.leftpad, number_replicate_zero_append, number_eq_ofDigits, List.reverse_reverse,
    Nat.ofDigits_digits]

end Hex

/-- The texts of all keys, the key of zeros among them. -/
theorem decodeCanonicalSolanaPublicKey_ok {value : Value} {bytes : List Nat} :
    decodeCanonicalSolanaPublicKey value = .ok bytes ↔
      ∃ text, value = .string text ∧ Wallets.Base58.encodeBase58 bytes = text.toList ∧
        (∀ b ∈ bytes, b < 256) ∧ bytes.length = 32 := by
  simp only [decodeCanonicalSolanaPublicKey, except_bind_ok, orFail_ok, failWhen_ok,
    except_pure_ok, Value.string?_eq_some, Wallets.Base58.foldlM_idxOf, Option.map_eq_some_iff,
    encodeSolanaBase58_eq]
  constructor
  · rintro ⟨text, rfl, -, -, integer, ⟨ds, hds, rfl⟩, -, hinteger, -, hencode, rfl⟩
    rw [not_not] at hencode
    exact ⟨text, rfl, hencode, lt_of_mem_hexBytes, length_hexBytes (not_le.mp hinteger)⟩
  · rintro ⟨text, rfl, hencode, hbytes, hlength⟩
    have hge := Wallets.Base58.length_le_encodeBase58 hbytes
    have hle := Wallets.Base58.length_encodeBase58_le hbytes hlength
    have halphabet := Wallets.Base58.isBase58_encodeBase58 bytes
    have hdecode := Wallets.Base58.decodeCharacters_eq_some.mpr ⟨hbytes, hencode⟩
    rw [Wallets.Base58.decodeCharacters_eq, Option.map_eq_some_iff] at hdecode
    obtain ⟨ds, hds, hconvert⟩ := hdecode
    rw [hencode] at hge hle halphabet
    have hnumber : number 58 ds = number 256 bytes := by rw [← hconvert, number_convert]
    have hlt : number 58 ds < 2 ^ 256 := by
      have hlt := number_lt (by omega) hbytes
      rw [hlength] at hlt
      rw [hnumber]
      exact lt_of_lt_of_eq hlt (by norm_num)
    have hhex : hexBytes (number 58 ds) = bytes := by
      apply number_inj (b := 256) (by omega) _ lt_of_mem_hexBytes hbytes
      · rw [number_hexBytes hlt, hnumber]
      · rw [length_hexBytes hlt, hlength]
    have hpattern : isSolanaAddressPattern text.toList = true := by
      rw [isSolanaAddressPattern, halphabet, Bool.and_true, decide_eq_true_eq]
      omega
    refine ⟨text, rfl, (), by rw [hpattern]; decide, _, ⟨ds, hds, rfl⟩, (), not_le.mpr hlt, (),
      ?_, hhex⟩
    rw [not_not]
    change Wallets.Base58.encodeBase58 (hexBytes _) = _
    rw [hhex, hencode]

end CryptoLending.MainnetActions.SolanaPublicKey
