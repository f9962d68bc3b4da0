import CryptoLending.Wallets.WalletOwnershipProof

namespace CryptoLending.Wallets.ChallengeMessage

open Lib Lib.Identifier Lib.IsoText Lib.JsString Lib.JsValue Lib.Text Base58 WalletIdentity
  WalletOwnershipProof

section Printable

theorem isPrintable_of_isDigit {c : Char} (h : isDigit c = true) : isPrintable c = true := by
  have hc := (isDigit_iff c).mp h
  apply isPrintable_iff.mpr
  omega

theorem isPrintable_of_isLowerHex {c : Char} (h : isLowerHex c = true) : isPrintable c = true := by
  obtain h | h := Bool.or_eq_true_iff.mp h
  · exact isPrintable_of_isDigit h
  · obtain ⟨hl, hu⟩ := Bool.and_eq_true_iff.mp h
    have hlow : 97 ≤ c.toNat := of_decide_eq_true hl
    have hhigh : c.toNat ≤ 102 := of_decide_eq_true hu
    apply isPrintable_iff.mpr
    omega

theorem isPrintable_of_isHex {c : Char} (h : isHex c = true) : isPrintable c = true := by
  obtain h | h := Bool.or_eq_true_iff.mp h
  · exact isPrintable_of_isLowerHex h
  · obtain ⟨hl, hu⟩ := Bool.and_eq_true_iff.mp h
    have hlow : 65 ≤ c.toNat := of_decide_eq_true hl
    have hhigh : c.toNat ≤ 70 := of_decide_eq_true hu
    apply isPrintable_iff.mpr
    omega

theorem all_isPrintable {p : Char → Bool} (hp : ∀ c, p c = true → isPrintable c = true)
    {cs : List Char} (h : cs.all p = true) : cs.all isPrintable = true := by
  rw [List.all_eq_true] at h ⊢
  exact fun c hc => hp c (h c hc)

/-- A text of a shape is printable when every class of the shape is. -/
theorem matchesShape_printable {ps : List (Char → Bool)} {cs : List Char}
    (hps : ∀ p ∈ ps, ∀ c, p c = true → isPrintable c = true) (h : matchesShape ps cs = true) :
    cs.all isPrintable = true ∧ cs.length = ps.length := by
  induction ps generalizing cs with
  | nil =>
    cases cs with
    | nil => exact ⟨rfl, rfl⟩
    | cons c cs => cases h
  | cons p ps ih =>
    cases cs with
    | nil => cases h
    | cons c cs =>
      obtain ⟨hc, hcs⟩ := Bool.and_eq_true_iff.mp h
      obtain ⟨hp, hrest⟩ := List.forall_mem_cons.mp hps
      obtain ⟨hall, hlength⟩ := ih hrest hcs
      rw [List.all_cons, hp c hc, hall, List.length_cons, List.length_cons, hlength]
      exact ⟨rfl, rfl⟩

theorem isPrintable_of_eq {d : Char} (hd : isPrintable d = true) (c : Char)
    (h : (c == d) = true) : isPrintable c = true := by
  rwa [beq_iff_eq.mp h]

theorem uuid_printable {cs : List Char} (h : isUuidV4 cs = true) :
    cs.all isPrintable = true ∧ cs.length = 36 := by
  apply matchesShape_printable _ h
  have hhex := fun c => isPrintable_of_isLowerHex (c := c)
  have hdash := isPrintable_of_eq (d := '-') (by decide)
  have hfour := isPrintable_of_eq (d := '4') (by decide)
  have hvariant : ∀ c, ['8', '9', 'a', 'b'].contains c = true → isPrintable c = true := by
    intro c hc
    have hall : ['8', '9', 'a', 'b'].all isPrintable = true := by decide
    exact List.all_eq_true.mp hall c (List.contains_iff_mem.mp hc)
  intro p hp
  simp only [uuidV4Shape, List.mem_append, List.mem_cons, List.not_mem_nil, or_false,
    List.mem_replicate] at hp
  obtain (((((((⟨_, rfl⟩ | rfl) | ⟨_, rfl⟩) | rfl | rfl) | ⟨_, rfl⟩) | rfl | rfl) | ⟨_, rfl⟩) |
    rfl) | ⟨_, rfl⟩ := hp
  · exact hhex
  · exact hdash
  · exact hhex
  · exact hdash
  · exact hfour
  · exact hhex
  · exact hdash
  · exact hvariant
  · exact hhex
  · exact hdash
  · exact hhex

theorem digest_printable {cs : List Char} (h : isDigest cs = true) :
    cs.all isPrintable = true ∧ cs.length = 64 := by
  obtain ⟨hlength, hall⟩ := Bool.and_eq_true_iff.mp h
  refine ⟨all_isPrintable ?_ hall, beq_iff_eq.mp hlength⟩
  exact fun c => isPrintable_of_isLowerHex

theorem padded_printable (width n : Nat) : (padded width n).all isPrintable = true := by
  apply all_isPrintable _ (padded_digits width n)
  exact fun c => isPrintable_of_isDigit

theorem yearText_printable (year : Int) :
    (yearText year).all isPrintable = true ∧ (yearText year).length ≤ 7 := by
  rw [yearText]
  by_cases h : 0 ≤ year ∧ year ≤ 9999
  · rw [if_pos h, length_padded]
    exact ⟨padded_printable 4 _, by decide⟩
  · have hsign : isPrintable (yearSign year) = true := by
      rw [yearSign]
      by_cases hneg : year < 0
      · rw [if_pos hneg]
        decide
      · rw [if_neg hneg]
        decide
    rw [if_neg h, List.all_cons, hsign, padded_printable, List.length_cons, length_padded]
    exact ⟨rfl, le_refl 7⟩

/-- The text of an instant is printable and short. -/
theorem toISOString_printable (t : TimeValue) :
    t.toISOString.toList.all isPrintable = true ∧ t.toISOString.toList.length ≤ 27 := by
  obtain ⟨hyear, hlength⟩ := yearText_printable t.year
  rw [TimeValue.toISOString, String.toList_ofList, TimeValue.characters, dayText, timeText]
  constructor
  · simp only [List.all_append, List.all_cons, List.all_nil, padded_printable, hyear]
    decide
  · simp only [List.length_append, List.length_cons, List.length_nil, length_padded]
    omega

theorem base58_printable {cs : List Char} (h : isBase58 cs = true) :
    cs.all isPrintable = true := by
  apply all_isPrintable _ h
  intro c hc
  have hall : base58Alphabet.all isPrintable = true := by decide
  exact List.all_eq_true.mp hall c (List.contains_iff_mem.mp hc)

theorem evm_printable {cs : List Char} (h : isEvmAddressPattern cs = true) :
    cs.all isPrintable = true ∧ cs.length ≤ 44 := by
  obtain ⟨ds, hds, h⟩ := (Option.any_eq_true _ _).mp h
  obtain ⟨hlength, hall⟩ := Bool.and_eq_true_iff.mp h
  have hprintable := all_isPrintable (fun c => isPrintable_of_isHex) hall
  rw [hexDigits?.eq_def] at hds
  split at hds
  · obtain rfl := Option.some.inj hds
    rw [List.all_cons, List.all_cons, hprintable, List.length_cons, List.length_cons,
      beq_iff_eq.mp hlength]
    exact ⟨by decide, by decide⟩
  · cases hds

end Printable

section Account

variable {P : Platform} (account : WalletAccount P)

theorem address_printable : account.address.toList.all isPrintable = true ∧
    account.address.toList.length ≤ 44 := by
  have h := account.canonical
  simp only [parseWalletAddress, parseWalletChainId_text, except_ok_bind] at h
  cases hnamespace : walletNamespaceOf account.chainId with
  | eip155 =>
    simp only [hnamespace, parseEvmWalletAddress, except_bind_ok, orFail_ok, failWhen_ok,
      Value.string?_eq_some, Value.string.injEq, Bool.or_eq_true, Bool.not_eq_true', not_or,
      Bool.not_eq_false] at h
    obtain ⟨_, rfl, _, ⟨⟨hpattern, _⟩, _⟩, _⟩ := h
    exact evm_printable hpattern
  | solana =>
    simp only [hnamespace, parseSolanaWalletAddress, except_bind_ok, orFail_ok,
      Value.string?_eq_some, Value.string.injEq] at h
    obtain ⟨_, rfl, _, _, _, hdecode, _⟩ := h
    obtain ⟨hpattern, _⟩ := decodeBase58_eq_some.mp hdecode
    obtain ⟨hlength, hall⟩ := Bool.and_eq_true_iff.mp hpattern
    exact ⟨base58_printable hall, (of_decide_eq_true hlength).2⟩

theorem chainReference_printable (chainId : WalletOwnershipChainId) :
    (messageChainReference chainId).toList.all isPrintable = true ∧
      (messageChainReference chainId).toList.length ≤ 39 := by
  cases chainId <;> decide

theorem chainReference_injective : Function.Injective messageChainReference := by
  intro c d h
  have hall : ∀ c ∈ walletOwnershipChainIds, ∀ d ∈ walletOwnershipChainIds,
      messageChainReference c = messageChainReference d → c = d := by decide
  have hmem : ∀ c, c ∈ walletOwnershipChainIds := by
    intro c
    cases c <;> decide
  exact hall c (hmem c) d (hmem d) h

theorem namespaceLabel_printable (chainId : WalletOwnershipChainId) :
    (namespaceLabel chainId).toList.all isPrintable = true ∧
      (namespaceLabel chainId).toList.length ≤ 8 := by
  cases chainId <;> decide

end Account

section Lines

/-- What the URL parser promises of the parts that are shown: they are escaped, and the
origin of a web address is its scheme with its host. -/
structure UrlLaws (parseUrl : String → Option Url) : Prop where
  host_printable : ∀ {text url}, parseUrl text = some url →
    url.host.toList.all isPrintable = true
  href_printable : ∀ {text url}, parseUrl text = some url →
    url.href.toList.all isPrintable = true
  origin_eq : ∀ {text url}, parseUrl text = some url →
    url.protocol = "https:" ∨ url.protocol = "http:" →
      url.origin = url.protocol ++ "//" ++ url.host

/-- A printable text of a bounded length. -/
def Shows (bound : Nat) (s : String) : Prop :=
  s.toList.all isPrintable = true ∧ s.toList.length ≤ bound

instance (bound : Nat) (s : String) : Decidable (Shows bound s) :=
  inferInstanceAs (Decidable (_ ∧ _))

theorem shows_append {j k : Nat} {s t : String} (hs : Shows j s) (ht : Shows k t) :
    Shows (j + k) (s ++ t) := by
  rw [Shows, String.toList_append, List.all_append, List.length_append, hs.1, ht.1]
  exact ⟨rfl, Nat.add_le_add hs.2 ht.2⟩

variable {P : Platform}

theorem uri_shown (hlaws : UrlLaws P.parseUrl) {expectedOrigin : String}
    (uri : WalletUri P expectedOrigin) : Shows 1024 uri.text := by
  have hvalid := uri.valid
  rw [isUriUrl, Bool.and_eq_true, beq_iff_eq] at hvalid
  have hprintable := hlaws.href_printable uri.parsed
  rw [hvalid.2] at hprintable
  refine ⟨hprintable, ?_⟩
  rw [← utf16Length_ascii (all_isAscii hprintable)]
  exact uri.bounded

theorem host_shown (hlaws : UrlLaws P.parseUrl) (origin : WalletOrigin P) :
    Shows 255 origin.url.host := by
  have hvalid := origin.valid
  simp only [isOriginUrl, isLocalHttp, Bool.and_eq_true, Bool.or_eq_true, beq_iff_eq] at hvalid
  obtain ⟨⟨⟨⟨⟨⟨hprotocol, _⟩, _⟩, _⟩, _⟩, _⟩, horigin⟩ := hvalid
  have hweb : origin.url.protocol = "https:" ∨ origin.url.protocol = "http:" :=
    hprotocol.imp_right And.left
  have htext := horigin.symm.trans (hlaws.origin_eq origin.parsed hweb)
  have hprintable := hlaws.host_printable origin.parsed
  refine ⟨hprintable, ?_⟩
  have hscheme : origin.url.protocol.toList.all isPrintable = true := by
    obtain h | h := hweb
    · rw [h]
      decide
    · rw [h]
      decide
  have hall : origin.text.toList.all isPrintable = true := by
    rw [htext, String.toList_append, String.toList_append, List.all_append, List.all_append,
      hscheme, hprintable]
    decide
  have hbounded := origin.bounded
  rw [utf16Length_ascii (all_isAscii hall), htext, String.toList_append, List.length_append]
    at hbounded
  omega

/-- The most characters that the lines of a message have. -/
def lineBounds : List Nat :=
  [304, 44, 0, 120, 0, 1029, 10, 49, 71, 38, 44, 39, 48, 10, 40, 121, 56]

theorem canonicalLines_shown (hlaws : UrlLaws P.parseUrl) (terms : ChallengeTerms P)
    (nonce : WalletChallengeNonce) : List.Forall₂ Shows lineBounds (canonicalLines terms nonce) := by
  have hissued := toISOString_printable terms.issuedAt.time
  have hexpires := toISOString_printable terms.expiresAt.time
  have hid := uuid_printable terms.challengeId.passes
  have hsubject := digest_printable terms.subjectBindingDigest.passes
  have hnonce := digest_printable nonce.passes
  refine .cons ?_ (.cons ?_ (.cons ?_ (.cons ?_ (.cons ?_ (.cons ?_ (.cons ?_ (.cons ?_ (.cons ?_
    (.cons ?_ (.cons ?_ (.cons ?_ (.cons ?_ (.cons ?_ (.cons ?_ (.cons ?_ (.cons ?_
    .nil))))))))))))))))
  · have hwants : Shows 32 " wants you to sign in with your " := by decide
    have haccount : Shows 9 " account:" := by decide
    exact shows_append (shows_append (shows_append (host_shown hlaws _) hwants)
      (namespaceLabel_printable _)) haccount
  · exact address_printable _
  · decide
  · decide
  · decide
  · exact shows_append (j := 5) (by decide) (uri_shown hlaws _)
  · decide
  · exact shows_append (j := 10) (by decide) (chainReference_printable _)
  · exact shows_append (j := 7) (by decide) ⟨hnonce.1, hnonce.2.le⟩
  · exact shows_append (j := 11) (by decide) hissued
  · exact shows_append (j := 17) (by decide) hexpires
  · exact shows_append (j := 12) (by decide) hissued
  · exact shows_append (j := 12) (by decide) ⟨hid.1, hid.2.le⟩
  · decide
  · decide
  · exact shows_append (j := 57) (by decide) ⟨hsubject.1, hsubject.2.le⟩
  · decide

theorem all_printable_of_shown {bounds : List Nat} {lines : List String}
    (h : List.Forall₂ Shows bounds lines) : ∀ line ∈ lines, line.toList.all isPrintable = true := by
  induction h with
  | nil => exact List.forall_mem_nil _
  | cons hline _ ih => exact List.forall_mem_cons.mpr ⟨hline.1, ih⟩

theorem line_printable (hlaws : UrlLaws P.parseUrl) {terms : ChallengeTerms P}
    {nonce : WalletChallengeNonce} {line : String} (h : line ∈ canonicalLines terms nonce) :
    line.toList.all isPrintable = true :=
  all_printable_of_shown (canonicalLines_shown hlaws terms nonce) line h

theorem lines_length_le {bounds : List Nat} {lines : List String}
    (h : List.Forall₂ Shows bounds lines) :
    (lines.map (fun line => line.toList.length + 1)).sum ≤ (bounds.map (· + 1)).sum := by
  induction h with
  | nil => exact le_refl 0
  | cons hline _ ih =>
    have hlength := hline.2
    rw [List.map_cons, List.map_cons, List.sum_cons, List.sum_cons]
    omega

end Lines

section Message

variable {P : Platform} (hlaws : UrlLaws P.parseUrl) (terms : ChallengeTerms P)
  (nonce : WalletChallengeNonce)

def messageCharacters (terms : ChallengeTerms P) (nonce : WalletChallengeNonce) : List Char :=
  ['\n'].intercalate ((canonicalLines terms nonce).map String.toList)

include hlaws

theorem messageCharacters_all {p : Char → Bool} (hp : ∀ c, isPrintable c = true → p c = true)
    (hnewline : p '\n' = true) : (messageCharacters terms nonce).all p = true := by
  apply all_intercalate
  · rw [List.all_cons, hnewline]
    rfl
  · refine List.forall_mem_map.mpr ?_
    intro line hline
    have hall := line_printable hlaws hline
    rw [List.all_eq_true] at hall ⊢
    exact fun c hc => hp c (hall c hc)

theorem messageCharacters_ascii : (messageCharacters terms nonce).all isAscii = true :=
  messageCharacters_all hlaws terms nonce (fun _ => isAscii_of_isPrintable) (by decide)

theorem createCanonicalMessage_eq :
    createCanonicalMessage terms nonce = (messageCharacters terms nonce).map unit :=
  encode_ascii (messageCharacters_ascii hlaws terms nonce)

/-- The lines of a message are found again. -/
theorem splitOn_createCanonicalMessage : (createCanonicalMessage terms nonce).splitOn 10 =
    (canonicalLines terms nonce).map (fun line => line.toList.map unit) := by
  have hunits : ((canonicalLines terms nonce).map String.toList).map encode =
      (canonicalLines terms nonce).map (fun line => line.toList.map unit) := by
    rw [List.map_map]
    apply List.map_congr_left
    intro line hline
    exact encode_ascii (all_isAscii (line_printable hlaws hline))
  have hnewline : encode ['\n'] = [10] := rfl
  rw [createCanonicalMessage, encode_intercalate, hunits, hnewline]
  apply List.splitOn_intercalate
  · refine List.forall_mem_map.mpr ?_
    intro line hline
    apply notMem_map_unit
    intro c hc
    have hprintable := List.all_eq_true.mp (line_printable hlaws hline) c hc
    have hbounds := isPrintable_iff.mp hprintable
    refine ⟨isAscii_of_isPrintable hprintable, ?_⟩
    change c.toNat ≠ 10
    omega
  · exact List.cons_ne_nil _ _

/-- A message determines its lines. -/
theorem canonicalLines_inj {terms' : ChallengeTerms P} {nonce' : WalletChallengeNonce}
    (h : createCanonicalMessage terms nonce = createCanonicalMessage terms' nonce') :
    canonicalLines terms nonce = canonicalLines terms' nonce' := by
  have hsplit := congrArg (List.splitOn 10) h
  rw [splitOn_createCanonicalMessage hlaws, splitOn_createCanonicalMessage hlaws,
    ← List.forall₂_eq_eq_eq, List.forall₂_map_left_iff, List.forall₂_map_right_iff] at hsplit
  rw [← List.forall₂_eq_eq_eq]
  refine (List.forall₂_iff_get.mpr ⟨hsplit.length_eq, ?_⟩)
  intro i hi hi'
  have hline := line_printable hlaws (List.get_mem (canonicalLines terms nonce) ⟨i, hi⟩)
  have hline' := line_printable hlaws (List.get_mem (canonicalLines terms' nonce') ⟨i, hi'⟩)
  apply String.toList_inj.mp
  exact map_unit_inj (all_isAscii hline) (all_isAscii hline') (hsplit.get hi hi')

omit hlaws in
theorem containsUnpairedSurrogate_ascii {cs : List Char} (h : cs.all isAscii = true) :
    containsUnpairedSurrogate (cs.map unit) = false := by
  induction cs with
  | nil => rfl
  | cons c cs ih =>
    obtain ⟨hc, hcs⟩ := Bool.and_eq_true_iff.mp h
    cases cs with
    | nil =>
      rw [List.map_singleton, containsUnpairedSurrogate, isHigh_unit hc, isLow_unit hc]
      rfl
    | cons d cs =>
      have hrest := ih hcs
      rw [List.map_cons] at hrest ⊢
      rw [List.map_cons, containsUnpairedSurrogate, isHigh_unit hc, isLow_unit hc, hrest]
      rfl

theorem notMem_createCanonicalMessage {u : UInt16} (hu : u.toNat < 0x20) (hne : u.toNat ≠ 10) :
    u ∉ createCanonicalMessage terms nonce := by
  rw [createCanonicalMessage_eq hlaws]
  apply notMem_map_unit
  intro c hc
  have hp : ∀ d, isPrintable d = true →
      (fun d : Char => decide (d.toNat = 10 ∨ 0x20 ≤ d.toNat)) d = true := by
    intro d hd
    apply decide_eq_true
    exact .inr (isPrintable_iff.mp hd).1
  have hall := messageCharacters_all hlaws terms nonce hp rfl
  have hascii := List.all_eq_true.mp (messageCharacters_ascii hlaws terms nonce) c hc
  have hrange := of_decide_eq_true (List.all_eq_true.mp hall c hc)
  refine ⟨hascii, ?_⟩
  omega

theorem utf8Length_createCanonicalMessage :
    utf8Length (createCanonicalMessage terms nonce) ≤ maxMessageBytes := by
  have hascii := messageCharacters_ascii hlaws terms nonce
  rw [createCanonicalMessage_eq hlaws, utf8Length_ascii hascii, messageCharacters]
  have hlength := length_intercalate_le ['\n'] ((canonicalLines terms nonce).map String.toList)
  have hlines := lines_length_le (canonicalLines_shown hlaws terms nonce)
  rw [List.map_map] at hlength
  have hbounds : (lineBounds.map (· + 1)).sum ≤ maxMessageBytes := by decide
  exact hlength.trans (hlines.trans hbounds)

/-- Every canonical message passes the check of messages. -/
theorem createCanonicalMessage_bounded :
    isBoundedMessage (createCanonicalMessage terms nonce) = true := by
  have hempty : createCanonicalMessage terms nonce ≠ [] := by
    intro h
    have hsplit := congrArg List.length (splitOn_createCanonicalMessage hlaws terms nonce)
    rw [h] at hsplit
    cases hsplit
  have hreturn := notMem_createCanonicalMessage hlaws terms nonce (u := 13) (by decide) (by decide)
  have hzero := notMem_createCanonicalMessage hlaws terms nonce (u := 0) (by decide) (by decide)
  have hsurrogate := containsUnpairedSurrogate_ascii (messageCharacters_ascii hlaws terms nonce)
  rw [← createCanonicalMessage_eq hlaws] at hsurrogate
  have hlength := utf8Length_createCanonicalMessage hlaws terms nonce
  simp only [isBoundedMessage, Bool.and_eq_true, Bool.not_eq_true', List.isEmpty_eq_false_iff,
    List.contains_eq_mem, decide_eq_false_iff_not, decide_eq_true_eq]
  exact ⟨⟨⟨⟨hempty, hreturn⟩, hzero⟩, hsurrogate⟩, hlength⟩

end Message

end CryptoLending.Wallets.ChallengeMessage
