import CryptoLending.Wallets.ChallengeMessage

namespace CryptoLending.Wallets.ChallengeBinding

open Lib Lib.Hex Lib.Identifier Lib.IsoText Lib.JsString Lib.JsValue Lib.Text WalletIdentity
  WalletOwnershipProof ChallengeMessage

section Digests

theorem timingSafeDigestEqual_iff {left right : WalletDigest} :
    timingSafeDigestEqual left right = true ↔ left = right := by
  rw [timingSafeDigestEqual, beq_iff_eq]
  constructor
  · intro h
    obtain ⟨hlength, hall⟩ := Bool.and_eq_true_iff.mp left.passes
    obtain ⟨hlength', hall'⟩ := Bool.and_eq_true_iff.mp right.passes
    have hl := beq_iff_eq.mp hlength
    have hr := beq_iff_eq.mp hlength'
    apply Matching.ext_text
    exact String.toList_inj.mp (hexBytes_inj hall hall' (by omega) (by omega) h)
  · exact congrArg fun digest : WalletDigest => hexBytes digest.text.toList

end Digests

section Acceptance

variable {P : Platform}

theorem stripText_map_unit {text rest : String} (htext : text.toList.all isAscii = true)
    (hrest : rest.toList.all isAscii = true) :
    stripText text ((text ++ rest).toList.map unit) = some rest := by
  rw [String.toList_append, List.map_append, stripText, encode_ascii htext,
    List.isPrefixOf_iff_prefix.mpr (List.prefix_append _ _), if_pos rfl, List.drop_left,
    decode_ascii hrest, Option.map_some, String.ofList_toList]

theorem hashWalletOwnershipMessage_ok {message : JsString} {digest : WalletDigest} :
    hashWalletOwnershipMessage P message = .ok digest ↔ isBoundedMessage message = true ∧
      sha256 P "crypto-lending:wallet-ownership-message:v1" (utf8 message) = digest := by
  rw [hashWalletOwnershipMessage, except_bind_ok, parseBoundedMessage]
  constructor
  · rintro ⟨_, hmessage, hdigest⟩
    by_cases hbounded : isBoundedMessage message = true
    · rw [if_pos hbounded] at hmessage
      obtain rfl := Except.ok.inj hmessage
      exact ⟨hbounded, except_pure_ok.mp hdigest⟩
    · rw [if_neg hbounded] at hmessage
      cases hmessage
  · rintro ⟨hbounded, hdigest⟩
    rw [if_pos hbounded]
    exact ⟨message, rfl, except_pure_ok.mpr hdigest⟩

/-- A message is accepted with a nonce when it is canonical for it and both digests are
the stored ones. -/
theorem validateAndExtractNonce_iff (hlaws : UrlLaws P.parseUrl)
    {record : WalletOwnershipChallengeRecord P} {message : JsString}
    {nonce : WalletChallengeNonce} :
    validateAndExtractNonce message record = some nonce ↔
      message = createCanonicalMessage record.toChallengeTerms nonce ∧
        hashWalletChallengeNonce P nonce = record.nonceDigest ∧
        hashWalletOwnershipMessage P message = .ok record.messageDigest := by
  simp only [validateAndExtractNonce, Option.bind_eq_bind, Option.bind_eq_some_iff,
    Option.guard_eq_some', timingSafeDigestEqual_iff, toOption_eq_some, Option.pure_def,
    Option.some.injEq]
  constructor
  · rintro ⟨_, _, _, _, _, _, found, _, _, hmessage, _, hnonce, digest, hdigest, _, rfl, rfl⟩
    exact ⟨hmessage.symm, hnonce, hdigest⟩
  · rintro ⟨rfl, hnonce, hdigest⟩
    have hsplit := splitOn_createCanonicalMessage hlaws record.toChallengeTerms nonce
    have hprintable := (digest_printable nonce.passes).1
    have hstrip : stripText nonceLineText ((nonceLineText ++ nonce.text).toList.map unit) =
        some nonce.text := stripText_map_unit (by decide) (all_isAscii hprintable)
    refine ⟨(), createCanonicalMessage_bounded hlaws _ _, (), ?_,
      (nonceLineText ++ nonce.text).toList.map unit, ?_, nonce,
      ⟨nonce.text, hstrip, Matching.ofText_text nonce⟩, (), rfl, (), hnonce, record.messageDigest,
      hdigest, (), rfl, rfl⟩
    · rw [hsplit, List.length_map]
      rfl
    · rw [hsplit, List.getElem?_map]
      rfl

end Acceptance

section Created

variable {P : Platform}

/-- A request whose fields are valid gets its challenge. -/
theorem createWalletOwnershipChallenge_ok (hlaws : UrlLaws P.parseUrl) {input : Value}
    {terms : ChallengeTerms P} {nonce : WalletChallengeNonce}
    (h : parseChallengeInput P input = .ok (terms, nonce)) :
    ∃ created, createWalletOwnershipChallenge P input = .ok created ∧
      created.record.toChallengeTerms = terms ∧
      created.record.nonceDigest = hashWalletChallengeNonce P nonce ∧
      created.publicChallenge.message = createCanonicalMessage terms nonce ∧
      hashWalletOwnershipMessage P created.publicChallenge.message =
        .ok created.record.messageDigest := by
  have hbounded := createCanonicalMessage_bounded hlaws terms nonce
  have hdigest := (hashWalletOwnershipMessage_ok (P := P)).mpr ⟨hbounded, rfl⟩
  rw [createWalletOwnershipChallenge, h, except_ok_bind]
  dsimp only
  rw [hdigest, except_ok_bind]
  exact ⟨_, rfl, rfl, rfl, rfl, hdigest⟩

theorem ofInteger_milliseconds (time : EpochMilliseconds) :
    EpochMilliseconds.ofInteger time.time.milliseconds = some time := by
  have htime : TimeValue.ofMilliseconds time.time.milliseconds = some time.time :=
    TimeValue.ofMilliseconds_eq_some.mpr rfl
  rw [EpochMilliseconds.ofInteger, htime, Option.bind_some, dif_pos time.nonnegative]

theorem ofText_origin (origin : WalletOrigin P) : WalletOrigin.ofText origin.text = some origin := by
  rw [WalletOrigin.ofText]
  split
  · rename_i h
    rw [origin.parsed] at h
    cases h
  · rename_i url h
    obtain rfl := Option.some.inj (origin.parsed.symm.trans h)
    rw [dif_pos ⟨origin.bounded, origin.valid⟩]

theorem ofText_uri {expectedOrigin : String} (uri : WalletUri P expectedOrigin) :
    WalletUri.ofText uri.text = some uri := by
  rw [WalletUri.ofText]
  split
  · rename_i h
    rw [uri.parsed] at h
    cases h
  · rename_i url h
    obtain rfl := Option.some.inj (uri.parsed.symm.trans h)
    rw [dif_pos ⟨uri.bounded, uri.valid⟩]

theorem parseAddress_canonical (account : WalletAccount P) :
    ∃ address, parseAddress P account.chainId (.string account.address) = .ok address ∧
      formatAccount address = .ok account := by
  refine ⟨⟨account.address, _, account.canonical⟩, ?_, ?_⟩
  · rw [parseAddress]
    split
    · rename_i text h
      obtain rfl := Except.ok.inj (account.canonical.symm.trans h)
      rfl
    · rename_i code h
      rw [account.canonical] at h
      cases h
  · have hformat := formatWalletAccountId_ok.mpr ⟨account.address, account.canonical, rfl⟩
    rw [formatAccount]
    split
    · rfl
    · rename_i code h
      rw [hformat] at h
      cases h

/-- No chain's identifier with its colon starts another's. -/
theorem chainText_unique {c d : WalletOwnershipChainId} {cs : List Char}
    (hc : (c.text ++ ":").toList <+: cs) (hd : (d.text ++ ":").toList <+: cs) : c = d := by
  have hall : ∀ c ∈ walletOwnershipChainIds, ∀ d ∈ walletOwnershipChainIds,
      (c.text ++ ":").toList.isPrefixOf (d.text ++ ":").toList = true → c = d := by decide
  have hmem : ∀ c, c ∈ walletOwnershipChainIds := by
    intro c
    cases c <;> decide
  obtain h | h := List.prefix_or_prefix_of_prefix hc hd
  · exact hall c (hmem c) d (hmem d) (List.isPrefixOf_iff_prefix.mpr h)
  · exact (hall d (hmem d) c (hmem c) (List.isPrefixOf_iff_prefix.mpr h)).symm

theorem toList_accountId (account : WalletAccount P) : account.accountId.toList =
    (account.chainId.text ++ ":").toList ++ account.address.toList := String.toList_append

theorem findChain_accountId (account : WalletAccount P) :
    walletOwnershipChainIds.find? (fun id =>
      (id.text ++ ":").toList.isPrefixOf account.accountId.toList) = some account.chainId := by
  have hown : (account.chainId.text ++ ":").toList <+: account.accountId.toList := by
    rw [toList_accountId]
    exact List.prefix_append _ _
  cases hfind : walletOwnershipChainIds.find? (fun id =>
      (id.text ++ ":").toList.isPrefixOf account.accountId.toList) with
  | none =>
    have hmem : account.chainId ∈ walletOwnershipChainIds := by
      cases account.chainId <;> decide
    exact absurd (List.isPrefixOf_iff_prefix.mpr hown) (List.find?_eq_none.mp hfind _ hmem)
  | some found =>
    have hfound : (found.text ++ ":").toList.isPrefixOf account.accountId.toList = true := by
      simpa only using List.find?_some hfind
    rw [chainText_unique (List.isPrefixOf_iff_prefix.mp hfound) hown]

theorem chainText_shown (chainId : WalletOwnershipChainId) : Shows 40 (chainId.text ++ ":") := by
  cases chainId <;> decide

theorem parseWalletAccountId_accountId (account : WalletAccount P) :
    parseWalletAccountId P (.string account.accountId) = .ok account.accountId := by
  have hshown : Shows 84 account.accountId :=
    shows_append (chainText_shown account.chainId) (address_printable account)
  have hlength : ¬128 < utf16Length account.accountId := by
    rw [utf16Length_ascii (all_isAscii hshown.1)]
    have hle := hshown.2
    omega
  have hdrop : String.ofList (account.accountId.toList.drop
      (account.chainId.text ++ ":").toList.length) = account.address := by
    rw [toList_accountId, List.drop_left, String.ofList_toList]
  have hformat := formatWalletAccountId_ok.mpr ⟨account.address, account.canonical, rfl⟩
  simp only [parseWalletAccountId, except_bind_ok, orFail_ok, failWhen_ok, except_pure_ok]
  exact ⟨account.accountId, rfl, (), hlength, account.chainId, findChain_accountId account,
    account.accountId, by rwa [hdrop], (), fun h => h rfl, rfl⟩

theorem ownDataRecord_ofFields {fields : List (String × Value)} {allowedKeys : List String}
    {code : WalletOwnershipValidationCode} (h : fields.map Prod.fst = allowedKeys) :
    ownDataRecord (ofFields fields) allowedKeys code = .ok fields := by
  simp only [ownDataRecord, ofFields]
  rw [orFail_ok, ListOption.mapM_eq_some, List.forall₂_map_left_iff, List.forall₂_same]
  intro field hfield
  have hkey : field.1 ∈ allowedKeys := h ▸ List.mem_map_of_mem hfield
  exact if_pos (List.contains_iff_mem.mpr hkey)

theorem ofValue_matching {p : List Char → Bool} (x : Matching p)
    (code : WalletOwnershipValidationCode) :
    orFail (Matching.ofValue p (.string x.text)) (Failure.ownership code) = .ok x :=
  orFail_ok.mpr x.ofValue_text

/-- A record that was stored is read as it was. -/
theorem parse_toValue (record : WalletOwnershipChallengeRecord P) :
    parseWalletOwnershipChallengeRecord P record.toValue = .ok record := by
  obtain ⟨address, haddress, hformat⟩ := parseAddress_canonical record.account
  have hchain : (parseWalletChainId (.string record.account.chainId.text)).mapError
      Failure.identity = .ok record.account.chainId :=
    mapError_ok.mpr (parseWalletChainId_text _)
  have haccount : (parseWalletAccountId P (.string record.account.accountId)).mapError
      Failure.identity = .ok record.account.accountId :=
    mapError_ok.mpr (parseWalletAccountId_accountId _)
  have horigin : parseWalletOrigin P (.string record.origin.text) = .ok record.origin :=
    orFail_ok.mpr (ofText_origin _)
  have huri : parseWalletUri P (.string record.uri.text) record.origin.text = .ok record.uri :=
    orFail_ok.mpr (ofText_uri _)
  have hissued : parseSafeEpochMilliseconds (.integer record.issuedAt.time.milliseconds) =
      .ok record.issuedAt := orFail_ok.mpr (ofInteger_milliseconds _)
  have hexpires : parseSafeEpochMilliseconds (.integer record.expiresAt.time.milliseconds) =
      .ok record.expiresAt := orFail_ok.mpr (ofInteger_milliseconds _)
  have hoperation : parseWalletOwnershipOperation (.string record.operation.text) =
      .ok record.operation := by
    cases record.operation
    rfl
  have hwindow : challengeWindow record.issuedAt record.expiresAt = .ok ⟨record.window⟩ :=
    dif_pos record.window
  have hkeys : ownDataRecord record.toValue challengeRecordKeys .invalidChallengeRecord =
      .ok _ := ownDataRecord_ofFields rfl
  have hversion : ¬(!(Value.integer 1).isNumber 1) = true := by decide
  simp only [parseWalletOwnershipChallengeRecord, except_bind_ok, except_pure_ok, failWhen_ok]
  refine ⟨_, hkeys, (), hversion, record.challengeId, ofValue_matching _ _,
    record.subjectBindingDigest, ofValue_matching _ _, record.account.chainId, hchain, address,
    haddress, record.account.accountId, haccount, record.account, hformat, (), fun h => h rfl,
    record.origin, horigin, record.uri, huri, record.operation, hoperation, record.issuedAt,
    hissued, record.expiresAt, hexpires, ⟨record.window⟩, hwindow, record.nonceDigest,
    ofValue_matching _ _, record.messageDigest, ofValue_matching _ _, rfl⟩

end Created

section Binding

variable {P : Platform}

/-- What two messages agree in when they are equal. -/
structure SameTerms (terms terms' : ChallengeTerms P) : Prop where
  challengeId : terms.challengeId = terms'.challengeId
  subjectBindingDigest : terms.subjectBindingDigest = terms'.subjectBindingDigest
  chainId : terms.account.chainId = terms'.account.chainId
  address : terms.account.address = terms'.account.address
  origin : terms.origin.text = terms'.origin.text
  uri : terms.uri.text = terms'.uri.text
  issuedAt : terms.issuedAt.time = terms'.issuedAt.time
  expiresAt : terms.expiresAt.time = terms'.expiresAt.time

/-- A page lies on one origin only. -/
theorem origin_of_uri {origin origin' : String} (uri : WalletUri P origin)
    (uri' : WalletUri P origin') (h : uri.text = uri'.text) : origin = origin' := by
  have hurl : some uri.url = some uri'.url := by rw [← uri.parsed, ← uri'.parsed, h]
  have hvalid := uri.valid
  have hvalid' := uri'.valid
  simp only [isUriUrl, Bool.and_eq_true, beq_iff_eq] at hvalid hvalid'
  rw [← hvalid.1.2, ← hvalid'.1.2, Option.some.inj hurl]

theorem sameTerms_of_message (hlaws : UrlLaws P.parseUrl) {terms terms' : ChallengeTerms P}
    {nonce nonce' : WalletChallengeNonce}
    (h : createCanonicalMessage terms nonce = createCanonicalMessage terms' nonce') :
    SameTerms terms terms' := by
  have hlines := canonicalLines_inj hlaws terms nonce h
  simp only [canonicalLines, List.cons.injEq, String.append_right_inj, true_and, and_true]
    at hlines
  obtain ⟨_, haddress, huri, hchain, _, hissued, hexpires, _, hid, hsubject⟩ := hlines
  exact { challengeId := Matching.ext_text hid
          subjectBindingDigest := Matching.ext_text hsubject
          chainId := chainReference_injective hchain
          address := haddress
          origin := origin_of_uri terms.uri terms'.uri huri
          uri := huri
          issuedAt := TimeValue.toISOString_injective hissued
          expiresAt := TimeValue.toISOString_injective hexpires }

/-- A created challenge is accepted with the nonce that was issued, also after its record
was stored. A message is accepted exactly when it is the canonical one of a nonce with the
stored digests. Records that differ have no message in common. -/
theorem wallet_challenge_binding (hlaws : UrlLaws P.parseUrl) :
    (∀ input terms nonce, parseChallengeInput P input = .ok (terms, nonce) →
      ∃ created, createWalletOwnershipChallenge P input = .ok created ∧
        created.record.toChallengeTerms = terms ∧
        validateAndExtractNonce created.publicChallenge.message created.record = some nonce ∧
        parseWalletOwnershipChallengeRecord P created.record.toValue = .ok created.record) ∧
    (∀ (record : WalletOwnershipChallengeRecord P) (message : JsString),
      (validateAndExtractNonce message record).isSome = true ↔
        ∃ nonce, message = createCanonicalMessage record.toChallengeTerms nonce ∧
          hashWalletChallengeNonce P nonce = record.nonceDigest ∧
          hashWalletOwnershipMessage P message = .ok record.messageDigest) ∧
    ∀ (record record' : WalletOwnershipChallengeRecord P) (nonce nonce' : WalletChallengeNonce),
      (record.challengeId ≠ record'.challengeId ∨
        record.subjectBindingDigest ≠ record'.subjectBindingDigest ∨
        record.account.chainId ≠ record'.account.chainId ∨
        record.account.address ≠ record'.account.address ∨
        record.origin.text ≠ record'.origin.text ∨ record.uri.text ≠ record'.uri.text ∨
        record.issuedAt.time ≠ record'.issuedAt.time ∨
        record.expiresAt.time ≠ record'.expiresAt.time) →
      createCanonicalMessage record.toChallengeTerms nonce ≠
        createCanonicalMessage record'.toChallengeTerms nonce' := by
  refine ⟨?_, ?_, ?_⟩
  · intro input terms nonce hinput
    obtain ⟨created, hcreated, hterms, hnonce, hmessage, hdigest⟩ :=
      createWalletOwnershipChallenge_ok hlaws hinput
    have haccepted := (validateAndExtractNonce_iff hlaws).mpr
      ⟨by rw [hterms, hmessage], hnonce.symm, hdigest⟩
    exact ⟨created, hcreated, hterms, haccepted, parse_toValue created.record⟩
  · intro record message
    rw [Option.isSome_iff_exists]
    exact exists_congr fun nonce => validateAndExtractNonce_iff hlaws
  · intro record record' nonce nonce' hdiffer hmessage
    have hsame := sameTerms_of_message hlaws hmessage
    obtain h | h | h | h | h | h | h | h := hdiffer
    · exact h hsame.challengeId
    · exact h hsame.subjectBindingDigest
    · exact h hsame.chainId
    · exact h hsame.address
    · exact h hsame.origin
    · exact h hsame.uri
    · exact h hsame.issuedAt
    · exact h hsame.expiresAt

end Binding

section Sample

def sampleOriginUrl : Url :=
  { protocol := "https:", hostname := "app.example", host := "app.example", username := "",
    password := "", pathname := "/", search := "", hash := "", origin := "https://app.example",
    href := "https://app.example/" }

def samplePageUrl : Url :=
  { sampleOriginUrl with pathname := "/wallets", href := "https://app.example/wallets" }

/-- A platform that knows one origin and one page of it. -/
def samplePlatform : Platform where
  isAddress address := address == toLowerCase address
  parseUrl text :=
    if text = "https://app.example" then some sampleOriginUrl
    else if text = "https://app.example/wallets" then some samplePageUrl
    else none
  sha256 bytes :=
    if bytes.length = 73 then
      ⟨"1777c6b065a03d7f413fa475fa6812e5e58288e048f65d92dfbf32a82099f1e7",
        by rw [String.toList_ofList]; decide⟩
    else ⟨"7666d470f3ca2c6ace92d9096051414ea478377aac702412b99da2a295de3f5b",
        by rw [String.toList_ofList]; decide⟩

theorem samplePlatform_url {text : String} {url : Url}
    (h : samplePlatform.parseUrl text = some url) : url = sampleOriginUrl ∨ url = samplePageUrl := by
  simp only [samplePlatform, ite_eq_iff, Option.some.injEq] at h
  obtain ⟨_, h⟩ | ⟨_, ⟨_, h⟩ | ⟨_, h⟩⟩ := h
  · exact .inl h.symm
  · exact .inr h.symm
  · cases h

theorem samplePlatform_laws : UrlLaws samplePlatform.parseUrl where
  host_printable h := by
    obtain rfl | rfl := samplePlatform_url h
    · decide
    · decide
  href_printable h := by
    obtain rfl | rfl := samplePlatform_url h
    · decide
    · decide
  origin_eq h _ := by
    obtain rfl | rfl := samplePlatform_url h
    · decide
    · decide

def sampleInput : Value :=
  ofFields [("challengeId", .string "11111111-1111-4111-8111-111111111111"),
    ("subjectBindingDigest",
      .string "5c5c5c5c5c5c5c5c5c5c5c5c5c5c5c5c5c5c5c5c5c5c5c5c5c5c5c5c5c5c5c5c"),
    ("chainId", .string "eip155:1"),
    ("address", .string "0xabababababababababababababababababababab"),
    ("origin", .string "https://app.example"),
    ("uri", .string "https://app.example/wallets"),
    ("operation", .string "REGISTER_WALLET"),
    ("nonce", .string "4f4f4f4f4f4f4f4f4f4f4f4f4f4f4f4f4f4f4f4f4f4f4f4f4f4f4f4f4f4f4f4f"),
    ("issuedAtEpochMilliseconds", .integer 1784505600000),
    ("expiresAtEpochMilliseconds", .integer 1784505900000)]

theorem sampleInput_valid : (parseChallengeInput samplePlatform sampleInput).toOption.isSome = true := by
  decide

theorem sample_challenge_binding : ∃ created nonce,
    createWalletOwnershipChallenge samplePlatform sampleInput = .ok created ∧
      validateAndExtractNonce created.publicChallenge.message created.record = some nonce := by
  obtain ⟨⟨terms, nonce⟩, h⟩ := Option.isSome_iff_exists.mp sampleInput_valid
  obtain ⟨created, hcreated, _, haccepted, _⟩ :=
    (wallet_challenge_binding samplePlatform_laws).1 sampleInput terms nonce (toOption_eq_some.mp h)
  exact ⟨created, nonce, hcreated, haccepted⟩

end Sample

end CryptoLending.Wallets.ChallengeBinding
