import Mathlib
import CryptoLending.Lib.Hex
import CryptoLending.Lib.IsoText
import CryptoLending.Lib.JsString
import CryptoLending.Lib.JsReading
import CryptoLending.Wallets.WalletIdentity

namespace CryptoLending.Wallets.WalletOwnershipProof

open Lib Lib.Hex Lib.Identifier Lib.IsoText Lib.JsValue Lib.Text WalletIdentity

inductive WalletOwnershipValidationCode where
  | invalidChallengeId
  | invalidChallengeNonce
  | invalidDigest
  | invalidOrigin
  | invalidUri
  | invalidOperation
  | invalidChallengeTime
  | invalidChallengeRecord
  deriving DecidableEq

inductive Failure where
  | identity (code : WalletIdentityValidationCode)
  | ownership (code : WalletOwnershipValidationCode)
  deriving DecidableEq

def isDigest (cs : List Char) : Bool := cs.length == 64 && cs.all isLowerHex

abbrev WalletDigest := Matching isDigest

abbrev WalletChallengeNonce := Matching isDigest

abbrev WalletChallengeId := Matching isUuidV4

/-- The parts of a parsed address that are read. -/
structure Url where
  protocol : String
  hostname : String
  host : String
  username : String
  password : String
  pathname : String
  search : String
  hash : String
  origin : String
  href : String

/-- What comes from outside: the wallet library's strict checksum test, the URL parser
and the hash. -/
structure Platform where
  isAddress : String → Bool
  parseUrl : String → Option Url
  sha256 : List UInt8 → WalletDigest

variable (P : Platform)

section Parsing

def ownDataRecord (value : Value) (allowedKeys : List String)
    (code : WalletOwnershipValidationCode) : Except Failure Record :=
  match value with
  | .object _ properties =>
    orFail (properties.mapM fun property => match property with
      | (.text key, .data value _) => if allowedKeys.contains key then some (key, value) else none
      | _ => none) (.ownership code)
  | _ => .error (.ownership code)

/-- A time from the epoch on. -/
structure EpochMilliseconds where
  time : TimeValue
  nonnegative : 0 ≤ time.milliseconds

def EpochMilliseconds.ofInteger (n : Int) : Option EpochMilliseconds :=
  (TimeValue.ofMilliseconds n).bind fun time =>
    if h : 0 ≤ time.milliseconds then some ⟨time, h⟩ else none

def parseSafeEpochMilliseconds (value : Value) : Except Failure EpochMilliseconds :=
  orFail (value.integer?.bind EpochMilliseconds.ofInteger) (.ownership .invalidChallengeTime)

def walletOwnershipMaxTtlMilliseconds : Int := 5 * 60 * 1000

def IsChallengeWindow (issuedAt expiresAt : EpochMilliseconds) : Prop :=
  issuedAt.time.milliseconds < expiresAt.time.milliseconds ∧
    expiresAt.time.milliseconds - issuedAt.time.milliseconds ≤ walletOwnershipMaxTtlMilliseconds

instance (issuedAt expiresAt : EpochMilliseconds) :
    Decidable (IsChallengeWindow issuedAt expiresAt) :=
  inferInstanceAs (Decidable (_ ∧ _))

def parseWalletChallengeId (value : Value) : Except Failure WalletChallengeId :=
  orFail (Matching.ofValue isUuidV4 value) (.ownership .invalidChallengeId)

def parseWalletChallengeNonce (value : Value) : Except Failure WalletChallengeNonce :=
  orFail (Matching.ofValue isDigest value) (.ownership .invalidChallengeNonce)

def parseWalletDigest (value : Value) : Except Failure WalletDigest :=
  orFail (Matching.ofValue isDigest value) (.ownership .invalidDigest)

def isLocalHttp (url : Url) : Bool :=
  url.protocol == "http:" &&
    (url.hostname == "localhost" || url.hostname == "127.0.0.1" || url.hostname == "[::1]")

def isOriginUrl (url : Url) (text : String) : Bool :=
  (url.protocol == "https:" || isLocalHttp url) && url.username == "" && url.password == "" &&
    url.pathname == "/" && url.search == "" && url.hash == "" && url.origin == text

def isUriUrl (url : Url) (expectedOrigin text : String) : Bool :=
  url.username == "" && url.password == "" && url.hash == "" && url.origin == expectedOrigin &&
    url.href == text

structure WalletOrigin where
  text : String
  url : Url
  parsed : P.parseUrl text = some url
  bounded : JsString.utf16Length text ≤ 255
  valid : isOriginUrl url text = true

structure WalletUri (expectedOrigin : String) where
  text : String
  url : Url
  parsed : P.parseUrl text = some url
  bounded : JsString.utf16Length text ≤ 1024
  valid : isUriUrl url expectedOrigin text = true

variable {P}

def WalletOrigin.ofText (text : String) : Option (WalletOrigin P) :=
  match h : P.parseUrl text with
  | none => none
  | some url =>
    if hv : JsString.utf16Length text ≤ 255 ∧ isOriginUrl url text = true then
      some ⟨text, url, h, hv.1, hv.2⟩
    else none

def WalletUri.ofText {expectedOrigin : String} (text : String) :
    Option (WalletUri P expectedOrigin) :=
  match h : P.parseUrl text with
  | none => none
  | some url =>
    if hv : JsString.utf16Length text ≤ 1024 ∧ isUriUrl url expectedOrigin text = true then
      some ⟨text, url, h, hv.1, hv.2⟩
    else none

variable (P)

def parseWalletOrigin (value : Value) : Except Failure (WalletOrigin P) :=
  orFail (value.string?.bind WalletOrigin.ofText) (.ownership .invalidOrigin)

/-- The address of a page of an origin that was parsed before. -/
def parseWalletUri (value : Value) (expectedOrigin : String) :
    Except Failure (WalletUri P expectedOrigin) :=
  orFail (value.string?.bind WalletUri.ofText) (.ownership .invalidUri)

inductive WalletOwnershipOperation where
  | registerWallet
  deriving DecidableEq

def WalletOwnershipOperation.text : WalletOwnershipOperation → String
  | .registerWallet => "REGISTER_WALLET"

def parseWalletOwnershipOperation (value : Value) : Except Failure WalletOwnershipOperation :=
  orFail (if value.isText "REGISTER_WALLET" then some .registerWallet else none)
    (.ownership .invalidOperation)

/-- An address that was read from a value of a request. -/
structure ParsedAddress (chainId : WalletOwnershipChainId) where
  text : String
  source : ∃ value, parseWalletAddress P.isAddress (.string chainId.text) value = .ok text

def parseAddress (chainId : WalletOwnershipChainId) (value : Value) :
    Except Failure (ParsedAddress P chainId) :=
  match h : parseWalletAddress P.isAddress (.string chainId.text) value with
  | .ok text => .ok ⟨text, value, h⟩
  | .error code => .error (.identity code)

/-- An address of a chain in its canonical form. -/
structure WalletAccount where
  chainId : WalletOwnershipChainId
  address : String
  canonical : parseWalletAddress P.isAddress (.string chainId.text) (.string address) = .ok address

variable {P}

def WalletAccount.accountId (account : WalletAccount P) : String :=
  account.chainId.text ++ ":" ++ account.address

theorem parseWalletChainId_text (chainId : WalletOwnershipChainId) :
    parseWalletChainId (.string chainId.text) = .ok chainId := by
  cases chainId <;> rfl

theorem formatWalletAccountId_ok {isAddress : String → Bool} {chainId : WalletOwnershipChainId}
    {value : Value} {accountId : String} :
    formatWalletAccountId isAddress (.string chainId.text) value = .ok accountId ↔
      ∃ address, parseWalletAddress isAddress (.string chainId.text) value = .ok address ∧
        chainId.text ++ ":" ++ address = accountId := by
  simp only [formatWalletAccountId, parseWalletChainId_text, except_bind_ok, except_pure_ok,
    Except.ok.injEq, exists_eq_left']

theorem toLower_toLower (c : Char) : c.toLower.toLower = c.toLower := by
  simp only [Char.toLower]
  split
  · rename_i hupper
    split
    · rename_i hlower
      have hshift : ('a'.val - 'A'.val).toNat = 32 := rfl
      have hlast : 'Z'.val.toNat = 90 := rfl
      have hfirst : 'A'.val.toNat = 65 := rfl
      simp only [ge_iff_le, UInt32.le_iff_toNat_le, UInt32.toNat_add] at hupper hlower
      omega
    · rfl
  · rfl

theorem toLowerCase_toLowerCase (s : String) : toLowerCase (toLowerCase s) = toLowerCase s := by
  rw [toLowerCase, toLowerCase, String.toList_ofList, List.map_map]
  apply congrArg String.ofList
  exact List.map_congr_left fun c _ => toLower_toLower c

/-- An address that was read before is read as itself, whenever it is read. -/
theorem parseWalletAddress_again {isAddress : String → Bool} {chainId : WalletOwnershipChainId}
    {value : Value} {text again : String}
    (h : parseWalletAddress isAddress (.string chainId.text) value = .ok text)
    (hagain : parseWalletAddress isAddress (.string chainId.text) (.string text) = .ok again) :
    again = text := by
  simp only [parseWalletAddress, parseWalletChainId_text, except_ok_bind] at h hagain
  cases hnamespace : walletNamespaceOf chainId with
  | eip155 =>
    simp only [hnamespace, parseEvmWalletAddress, except_bind_ok, except_pure_ok, orFail_ok,
      Value.string?_eq_some, Value.string.injEq] at h hagain
    obtain ⟨source, _, _, _, rfl⟩ := h
    obtain ⟨_, rfl, _, _, rfl⟩ := hagain
    exact toLowerCase_toLowerCase source
  | solana =>
    simp only [hnamespace, parseSolanaWalletAddress, except_bind_ok, except_pure_ok, orFail_ok,
      Value.string?_eq_some, Value.string.injEq] at hagain
    obtain ⟨_, rfl, _, _, _, _, _, _, rfl⟩ := hagain
    rfl

theorem canonical_of_format {chainId : WalletOwnershipChainId} (address : ParsedAddress P chainId)
    {accountId : String}
    (h : formatWalletAccountId P.isAddress (.string chainId.text) (.string address.text) =
      .ok accountId) :
    parseWalletAddress P.isAddress (.string chainId.text) (.string address.text) =
      .ok address.text := by
  obtain ⟨again, hagain, _⟩ := formatWalletAccountId_ok.1 h
  obtain ⟨value, hvalue⟩ := address.source
  rw [hagain, parseWalletAddress_again hvalue hagain]

/-- The account whose identifier is formatted. -/
def formatAccount {chainId : WalletOwnershipChainId} (address : ParsedAddress P chainId) :
    Except Failure (WalletAccount P) :=
  match h : formatWalletAccountId P.isAddress (.string chainId.text) (.string address.text) with
  | .ok _ => .ok ⟨chainId, address.text, canonical_of_format address h⟩
  | .error code => .error (.identity code)

variable (P)

/-- The account is that of the first chain identifier before a colon of the text. -/
def parseWalletAccountId (value : Value) : Except WalletIdentityValidationCode String := do
  let text ← orFail value.string? .invalidWalletAccountId
  failWhen (128 < JsString.utf16Length text) .invalidWalletAccountId
  let chainId ← orFail (walletOwnershipChainIds.find?
    fun id => (id.text ++ ":").toList.isPrefixOf text.toList) .invalidWalletAccountId
  let address := String.ofList (text.toList.drop (chainId.text ++ ":").toList.length)
  let canonical ← formatWalletAccountId P.isAddress (.string chainId.text) (.string address)
  failWhen (canonical ≠ text) .invalidWalletAccountId
  return canonical

end Parsing

section Message

/-- The fields of a record that its message shows. -/
structure ChallengeTerms where
  challengeId : WalletChallengeId
  subjectBindingDigest : WalletDigest
  account : WalletAccount P
  origin : WalletOrigin P
  uri : WalletUri P origin.text
  operation : WalletOwnershipOperation
  issuedAt : EpochMilliseconds
  expiresAt : EpochMilliseconds
  window : IsChallengeWindow issuedAt expiresAt

structure WalletOwnershipChallengeRecord extends ChallengeTerms P where
  nonceDigest : WalletDigest
  messageDigest : WalletDigest

/-- The reference after `eip155:`, or the whole identifier of another chain. -/
def messageChainReference (chainId : WalletOwnershipChainId) : String :=
  match walletNamespaceOf chainId with
  | .eip155 => String.ofList (chainId.text.toList.drop "eip155:".toList.length)
  | .solana => chainId.text

def namespaceLabel (chainId : WalletOwnershipChainId) : String :=
  match walletNamespaceOf chainId with
  | .eip155 => "Ethereum"
  | .solana => "Solana"

def subjectBindingResourcePrefix : String :=
  "urn:crypto-lending:wallet-subject-binding:hmac-sha-256:"

def operationResource : String := "urn:crypto-lending:wallet-operation:register-wallet"

def policyResource : String := "urn:crypto-lending:wallet-ownership:v1"

def ownershipStatement : String :=
  "Verify this wallet for Bonsai Lending. This proof does not authorize login, transactions, transfers, or loans."

variable {P}

def canonicalLines (terms : ChallengeTerms P) (nonce : WalletChallengeNonce) : List String :=
  let issuedAt := terms.issuedAt.time.toISOString
  let expiresAt := terms.expiresAt.time.toISOString
  [terms.origin.url.host ++ " wants you to sign in with your " ++
      namespaceLabel terms.account.chainId ++ " account:",
    terms.account.address,
    "",
    ownershipStatement,
    "",
    "URI: " ++ terms.uri.text,
    "Version: 1",
    "Chain ID: " ++ messageChainReference terms.account.chainId,
    "Nonce: " ++ nonce.text,
    "Issued At: " ++ issuedAt,
    "Expiration Time: " ++ expiresAt,
    "Not Before: " ++ issuedAt,
    "Request ID: " ++ terms.challengeId.text,
    "Resources:",
    "- " ++ policyResource,
    "- " ++ subjectBindingResourcePrefix ++ terms.subjectBindingDigest.text,
    "- " ++ operationResource]

def createCanonicalMessage (terms : ChallengeTerms P) (nonce : WalletChallengeNonce) : JsString :=
  JsString.encode (['\n'].intercalate ((canonicalLines terms nonce).map String.toList))

end Message

section Bounded

def maxMessageBytes : Nat := 4096

/-- A high surrogate at the very end is not noticed: every comparison with the missing
next unit is false. -/
def containsUnpairedSurrogate : JsString → Bool
  | [] => false
  | [u] => !JsString.isHigh u && JsString.isLow u
  | u :: v :: us =>
    if JsString.isHigh u then !JsString.isLow v || containsUnpairedSurrogate us
    else JsString.isLow u || containsUnpairedSurrogate (v :: us)

def isBoundedMessage (message : JsString) : Bool :=
  !message.isEmpty && !message.contains 13 && !message.contains 0 &&
    !containsUnpairedSurrogate message && JsString.utf8Length message ≤ maxMessageBytes

def parseBoundedMessage (message : JsString) : Except Failure JsString :=
  if isBoundedMessage message then .ok message else .error (.ownership .invalidChallengeRecord)

end Bounded

section Digests

/-- A domain, a zero byte and the bytes. -/
def sha256 (domain : String) (bytes : List UInt8) : WalletDigest :=
  P.sha256 (Bytes.utf8 domain ++ 0 :: bytes)

def hashWalletChallengeNonce (nonce : WalletChallengeNonce) : WalletDigest :=
  sha256 P "crypto-lending:wallet-challenge-nonce:v1" (hexBytes nonce.text.toList)

def hashWalletOwnershipMessage (message : JsString) : Except Failure WalletDigest := do
  let message ← parseBoundedMessage message
  return sha256 P "crypto-lending:wallet-ownership-message:v1" (JsString.utf8 message)

def timingSafeDigestEqual (left right : WalletDigest) : Bool :=
  hexBytes left.text.toList == hexBytes right.text.toList

end Digests

section Challenge

inductive MessageFormat where
  | siwe
  | siws
  deriving DecidableEq

structure PublicWalletOwnershipChallenge where
  challengeId : WalletChallengeId
  messageFormat : MessageFormat
  account : WalletAccount P
  message : JsString
  expiresAt : String

structure CreatedWalletOwnershipChallenge where
  publicChallenge : PublicWalletOwnershipChallenge P
  record : WalletOwnershipChallengeRecord P

def challengeWindow (issuedAt expiresAt : EpochMilliseconds) :
    Except Failure (PLift (IsChallengeWindow issuedAt expiresAt)) :=
  if h : IsChallengeWindow issuedAt expiresAt then .ok ⟨h⟩
  else .error (.ownership .invalidChallengeTime)

def createChallengeKeys : List String :=
  ["challengeId", "subjectBindingDigest", "chainId", "address", "origin", "uri", "operation",
    "nonce", "issuedAtEpochMilliseconds", "expiresAtEpochMilliseconds"]

/-- The checked fields of a request for a challenge. -/
def parseChallengeInput (input : Value) :
    Except Failure (ChallengeTerms P × WalletChallengeNonce) := do
  let inputRecord ← ownDataRecord input createChallengeKeys .invalidChallengeRecord
  let challengeId ← parseWalletChallengeId (inputRecord.get "challengeId")
  let subjectBindingDigest ← parseWalletDigest (inputRecord.get "subjectBindingDigest")
  let chainId ← (parseWalletChainId (inputRecord.get "chainId")).mapError .identity
  let address ← parseAddress P chainId (inputRecord.get "address")
  let account ← formatAccount address
  let origin ← parseWalletOrigin P (inputRecord.get "origin")
  let uri ← parseWalletUri P (inputRecord.get "uri") origin.text
  let operation ← parseWalletOwnershipOperation (inputRecord.get "operation")
  let nonce ← parseWalletChallengeNonce (inputRecord.get "nonce")
  let issuedAt ← parseSafeEpochMilliseconds (inputRecord.get "issuedAtEpochMilliseconds")
  let expiresAt ← parseSafeEpochMilliseconds (inputRecord.get "expiresAtEpochMilliseconds")
  let window ← challengeWindow issuedAt expiresAt
  return (⟨challengeId, subjectBindingDigest, account, origin, uri, operation, issuedAt, expiresAt,
    window.down⟩, nonce)

def createWalletOwnershipChallenge (input : Value) :
    Except Failure (CreatedWalletOwnershipChallenge P) := do
  let (terms, nonce) ← parseChallengeInput P input
  let message := createCanonicalMessage terms nonce
  let messageDigest ← hashWalletOwnershipMessage P message
  let record : WalletOwnershipChallengeRecord P :=
    { terms with nonceDigest := hashWalletChallengeNonce P nonce, messageDigest }
  let messageFormat := match walletNamespaceOf terms.account.chainId with
    | .eip155 => MessageFormat.siwe
    | .solana => MessageFormat.siws
  let publicChallenge : PublicWalletOwnershipChallenge P :=
    { challengeId := terms.challengeId, messageFormat, account := terms.account, message,
      expiresAt := terms.expiresAt.time.toISOString }
  return { publicChallenge, record }

def challengeRecordKeys : List String :=
  ["version", "challengeId", "subjectBindingDigest", "chainId", "address", "accountId", "origin",
    "uri", "operation", "issuedAtEpochMilliseconds", "expiresAtEpochMilliseconds", "nonceDigest",
    "messageDigest"]

def parseWalletOwnershipChallengeRecord (value : Value) :
    Except Failure (WalletOwnershipChallengeRecord P) := do
  let record ← ownDataRecord value challengeRecordKeys .invalidChallengeRecord
  failWhen (!(record.get "version").isNumber 1) (.ownership .invalidChallengeRecord)
  let challengeId ← parseWalletChallengeId (record.get "challengeId")
  let subjectBindingDigest ← parseWalletDigest (record.get "subjectBindingDigest")
  let chainId ← (parseWalletChainId (record.get "chainId")).mapError .identity
  let address ← parseAddress P chainId (record.get "address")
  let accountId ← (parseWalletAccountId P (record.get "accountId")).mapError .identity
  let account ← formatAccount address
  failWhen (accountId ≠ account.accountId) (.ownership .invalidChallengeRecord)
  let origin ← parseWalletOrigin P (record.get "origin")
  let uri ← parseWalletUri P (record.get "uri") origin.text
  let operation ← parseWalletOwnershipOperation (record.get "operation")
  let issuedAt ← parseSafeEpochMilliseconds (record.get "issuedAtEpochMilliseconds")
  let expiresAt ← parseSafeEpochMilliseconds (record.get "expiresAtEpochMilliseconds")
  let window ← challengeWindow issuedAt expiresAt
  let nonceDigest ← parseWalletDigest (record.get "nonceDigest")
  let messageDigest ← parseWalletDigest (record.get "messageDigest")
  return { challengeId, subjectBindingDigest, account, origin, uri, operation, issuedAt, expiresAt,
           window := window.down, nonceDigest, messageDigest }

/-- The fields of a record as they are stored. -/
def WalletOwnershipChallengeRecord.toValue {P : Platform}
    (record : WalletOwnershipChallengeRecord P) : Value :=
  ofFields [("version", .integer 1),
    ("challengeId", .string record.challengeId.text),
    ("subjectBindingDigest", .string record.subjectBindingDigest.text),
    ("chainId", .string record.account.chainId.text),
    ("address", .string record.account.address),
    ("accountId", .string record.account.accountId),
    ("origin", .string record.origin.text),
    ("uri", .string record.uri.text),
    ("operation", .string record.operation.text),
    ("issuedAtEpochMilliseconds", .integer record.issuedAt.time.milliseconds),
    ("expiresAtEpochMilliseconds", .integer record.expiresAt.time.milliseconds),
    ("nonceDigest", .string record.nonceDigest.text),
    ("messageDigest", .string record.messageDigest.text)]

end Challenge

section Verification

variable {P}

/-- The text of a string after a text in front of it. -/
def stripText (text : String) (us : JsString) : Option String :=
  if (JsString.encode text.toList).isPrefixOf us then
    (JsString.decode (us.drop (JsString.encode text.toList).length)).map String.ofList
  else none

def nonceLineText : String := "Nonce: "

def validateAndExtractNonce (message : JsString) (record : WalletOwnershipChallengeRecord P) :
    Option WalletChallengeNonce := do
  guard (isBoundedMessage message)
  let lines := message.splitOn 10
  guard (lines.length = 17)
  let nonceLine ← lines[8]?
  let nonce ← (stripText nonceLineText nonceLine).bind (Matching.ofText isDigest)
  guard (createCanonicalMessage record.toChallengeTerms nonce = message)
  guard (timingSafeDigestEqual (hashWalletChallengeNonce P nonce) record.nonceDigest)
  let messageDigest ← (hashWalletOwnershipMessage P message).toOption
  guard (timingSafeDigestEqual messageDigest record.messageDigest)
  return nonce

end Verification

end CryptoLending.Wallets.WalletOwnershipProof
