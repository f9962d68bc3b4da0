import CryptoLending.Lib.Bytes
import CryptoLending.SmartLending.GearboxTranscript

namespace CryptoLending.SmartLending.GearboxCompleteness

open Lib Lib.JsValue Lib.JsReading GearboxApproval GearboxTranscript

section Statement

/-- What an account owes: principal, interest and fees. -/
def accountDebt (a : AccountRecord) : Nat :=
  a.debtOnly.debtAtomic + a.debtOnly.accruedInterestAtomic + a.debtOnly.accruedFeesAtomic

/-- What the accounts of a borrower owe. -/
def walletDebt (walletAddress : String) (managers : List ManagerRecord) : Nat :=
  (((managers.flatMap (·.accounts)).filter fun a =>
    a.creditAccountInfo.borrowerAddress = walletAddress).map accountDebt).sum

/-- The pages follow each other from an offset on, and each is full. -/
def IsGapless : Nat → List Page → Prop
  | _, [] => True
  | offset, page :: pages =>
    page.offset = offset ∧ page.accountAddresses.length = page.limit ∧
      IsGapless (offset + page.limit) pages

/-- A record of a manager covers what was approved for the manager. -/
structure CoversManager (selectedBlockHash : String) (record : ManagerRecord)
    (manager : ApprovedManager) : Prop where
  managerAddress : record.managerAddress = manager.managerAddress
  runtimeCode : record.managerRuntimeCodeSha256 = manager.managerRuntimeCodeSha256
  blockHash : record.blockHash = selectedBlockHash
  accounts : record.accounts.map (fun a => (a.accountAddress, a.runtimeCodeSha256)) =
    manager.creditAccounts.map fun a => (a.accountAddress, a.runtimeCodeSha256)
  pages : record.pages.flatMap (·.accountAddresses) =
    manager.creditAccounts.map (·.accountAddress)
  gapless : IsGapless 0 record.pages

/-- A transcript shows everything that was approved, at the selected block. -/
structure IsComplete (e : DormantGearboxV3AccountPositionTranscriptEvaluator) (t : Transcript)
    (r : DormantGearboxV3AccountPositionTranscriptResult) : Prop where
  codeReads : ∀ c ∈ expectedCodeReads e.manifest r.blockHash, t.staticCodeReads.count c = 1
  managers : List.Forall₂ (CoversManager r.blockHash) t.managers e.approval.managers
  block : r.blockNumber = t.selectedBlock.number ∧ r.blockHash = t.selectedBlock.hash
  closeout : t.selectedBlock = t.closeoutBlock
  floor : t.continuityFloor.blockNumber ≤ t.selectedBlock.number ∧
    (t.selectedBlock.number = t.continuityFloor.blockNumber →
      t.selectedBlock.hash = t.continuityFloor.blockHash)
  borrowed : r.borrowedUnderlyingAtomic = walletDebt t.walletAddress t.managers
  supplied : r.suppliedUnderlyingAtomicFloor = if t.supply.totalSupplyAtomic = 0 then 0
    else t.supply.sharesAtomic * t.supply.totalAssetsAtomic / t.supply.totalSupplyAtomic

/-- The transcript lists all four static code reads. -/
def HasAllCodeReads (v : Value) : Prop :=
  ∃ record items, exactDataRecord v transcriptKeys = some record ∧
    exactArray (record.get "staticCodeReads") 0 4 = some items ∧ items.length = 4

end Statement

section CodeReads

theorem codeReadsMatch_prefix {reads definitions : List CodeRead}
    (h : codeReadsMatch reads definitions = true) : reads <+: definitions := by
  induction reads generalizing definitions with
  | nil => exact List.nil_prefix
  | cons read reads ih =>
    cases definitions with
    | nil => cases h
    | cons definition definitions =>
      rw [codeReadsMatch, Bool.and_eq_true, decide_eq_true_eq] at h
      exact List.cons_prefix_cons.mpr ⟨h.1, ih h.2⟩

theorem expectedCodeReads_nodup (manifest : GearboxV3EthereumUSDCManifest) (hash : String) :
    (expectedCodeReads manifest hash).Nodup := by
  apply List.Nodup.of_map (·.role)
  have hroles : (expectedCodeReads manifest hash).map (·.role) =
      ["ADDRESS_PROVIDER", "CONTRACTS_REGISTER", "POOL", "UNDERLYING"] := rfl
  rw [hroles]
  decide

/-- The expected reads all occur once exactly when none was left out. -/
theorem codeReads_iff {manifest : GearboxV3EthereumUSDCManifest} {hash : String}
    {reads : List CodeRead} (h : codeReadsMatch reads (expectedCodeReads manifest hash) = true) :
    (∀ c ∈ expectedCodeReads manifest hash, reads.count c = 1) ↔ reads.length = 4 := by
  have hnodup := expectedCodeReads_nodup manifest hash
  have hinitial := codeReadsMatch_prefix h
  constructor
  · intro hcount
    have hsubset : expectedCodeReads manifest hash ⊆ reads := fun c hc =>
      List.count_pos_iff.mp (hcount c hc ▸ Nat.one_pos)
    exact Nat.le_antisymm hinitial.length_le (List.subperm_of_subset hnodup hsubset).length_le
  · intro hlength c hc
    rw [hinitial.eq_of_length hlength]
    exact List.count_eq_one_of_mem hnodup hc

end CodeReads

section Pages

theorem pageLimit_full {accounts index : Nat} (h : index + 1 < pageCount accounts) :
    min pageSize (accounts - index * pageSize) = pageSize := by
  rw [pageCount, Nat.lt_div_iff_mul_lt (by decide)] at h
  simp only [pageSize] at *
  omega

theorem isGapless_of_limits {accounts index count : Nat} {pages : List Page}
    (hcount : index + count ≤ pageCount accounts)
    (hlimits : pages.map (fun page => (page.offset, page.limit)) =
      (List.range' index count).map fun i =>
        (i * pageSize, min pageSize (accounts - i * pageSize)))
    (hlengths : ∀ page ∈ pages, page.accountAddresses.length = page.limit) :
    IsGapless (index * pageSize) pages := by
  induction count generalizing index pages with
  | zero =>
    obtain rfl : pages = [] := List.map_eq_nil_iff.mp hlimits
    exact trivial
  | succ count ih =>
    cases pages with
    | nil => cases hlimits
    | cons page pages =>
      rw [List.range'_succ, List.map_cons, List.map_cons, List.cons.injEq, Prod.mk.injEq] at hlimits
      obtain ⟨⟨hoffset, hlimit⟩, hrest⟩ := hlimits
      obtain ⟨hlength, hlengths⟩ := List.forall_mem_cons.mp hlengths
      refine ⟨hoffset, hlength, ?_⟩
      cases pages with
      | nil => exact trivial
      | cons next pages =>
        have hpositive : 0 < count := by
          by_contra hzero
          obtain rfl : count = 0 := by omega
          cases hrest
        rw [hlimit, pageLimit_full (by omega), ← Nat.succ_mul]
        exact ih (by omega) hrest hlengths

theorem isGapless_of_pagesMatch {beforeLength : Nat} {pages : List Page}
    (h : pagesMatch beforeLength pages = true) : IsGapless 0 pages := by
  rw [pagesMatch, Bool.and_eq_true, decide_eq_true_eq, decide_eq_true_eq] at h
  obtain ⟨hlimits, hlengths⟩ := h
  have hpages : ∀ page ∈ pages, page.accountAddresses.length = page.limit := by
    rw [← hlimits, List.map_map] at hlengths
    exact List.map_inj_left.mp hlengths
  rw [pageLimits, List.range_eq_range'] at hlimits
  exact @isGapless_of_limits beforeLength 0 _ pages (Nat.zero_add _).le hlimits hpages

end Pages

section Managers

variable {approval : Approval} {manifest : GearboxV3EthereumUSDCManifest}
  {selectedBlockHash walletAddress : String}

theorem parseAccount_some {record : AccountRecord} {account : ApprovedAccount}
    {manager : ApprovedManager} {parsed : String × Nat}
    (h : parseAccount record account manager approval = some parsed) :
    record.accountAddress = account.accountAddress ∧
      record.runtimeCodeSha256 = account.runtimeCodeSha256 ∧
        parsed = (record.creditAccountInfo.borrowerAddress, accountDebt record) := by
  simp only [parseAccount, projectCreditAccountDebt, Option.bind_eq_bind, Option.bind_eq_some_iff,
    Option.guard_eq_some', Option.pure_def, Option.some.injEq] at h
  obtain ⟨_, ⟨haddress, hcode, _⟩, _, _, _, ⟨_, _, _, _, rfl⟩, rfl⟩ := h
  exact ⟨haddress, hcode, rfl⟩

theorem parseAccounts_some {manager : ApprovedManager} {records : List AccountRecord}
    {accounts : List ApprovedAccount} {parsed : List (String × Nat)}
    (hlength : records.length = accounts.length)
    (h : parseAccounts manager approval records accounts = some parsed) :
    records.map (fun a => (a.accountAddress, a.runtimeCodeSha256)) =
        accounts.map (fun a => (a.accountAddress, a.runtimeCodeSha256)) ∧
      parsed = records.map fun a => (a.creditAccountInfo.borrowerAddress, accountDebt a) := by
  induction records generalizing accounts parsed with
  | nil =>
    obtain rfl := List.length_eq_zero_iff.mp hlength.symm
    exact ⟨rfl, (Option.some.inj h).symm⟩
  | cons record records ih =>
    cases accounts with
    | nil => cases hlength
    | cons account accounts =>
      simp only [parseAccounts, Option.bind_eq_bind, Option.bind_eq_some_iff, Option.pure_def,
        Option.some.injEq] at h
      obtain ⟨first, hfirst, rest, hrest, rfl⟩ := h
      obtain ⟨haddress, hcode, rfl⟩ := parseAccount_some hfirst
      obtain ⟨hrecords, rfl⟩ := ih (Nat.succ.inj hlength) hrest
      rw [List.map_cons, List.map_cons, haddress, hcode, hrecords]
      exact ⟨rfl, rfl⟩

/-- The debts of the wallet with a manager. -/
def managerDebts (walletAddress : String) (record : ManagerRecord) : List Nat :=
  (record.accounts.filter fun a =>
    a.creditAccountInfo.borrowerAddress = walletAddress).map accountDebt

theorem parseManager_some {record : ManagerRecord} {manager : ApprovedManager}
    {parsed parsed' : ParsedManagers}
    (h : parseManager record manager approval manifest selectedBlockHash walletAddress parsed =
      some parsed') :
    CoversManager selectedBlockHash record manager ∧
      parsed'.walletDebts = parsed.walletDebts ++ managerDebts walletAddress record := by
  simp only [parseManager, Option.bind_eq_bind, Option.bind_eq_some_iff, Option.guard_eq_some',
    Option.pure_def, Option.some.injEq] at h
  obtain ⟨_, hmatches, _, ⟨hbefore, _⟩, _, _, _, hpages, _, haddresses, _, hlength, accounts,
    haccounts, rfl⟩ := h
  rw [managerMatches, decide_eq_true_eq] at hmatches
  obtain ⟨haddress, hblock, hcode, _⟩ := hmatches
  obtain ⟨hrecords, rfl⟩ := parseAccounts_some (hlength.trans hbefore) haccounts
  refine ⟨⟨haddress, hcode, hblock, hrecords, haddresses, isGapless_of_pagesMatch hpages⟩, ?_⟩
  rw [managerDebts, List.filter_map, List.map_map]
  rfl

theorem parseManagers_some {records : List ManagerRecord} {managers : List ApprovedManager}
    {parsed parsed' : ParsedManagers}
    (h : parseManagers approval manifest selectedBlockHash walletAddress records managers parsed =
      some parsed') :
    List.Forall₂ (CoversManager selectedBlockHash) records managers ∧
      parsed'.walletDebts =
        parsed.walletDebts ++ records.flatMap (managerDebts walletAddress) := by
  induction records generalizing managers parsed with
  | nil =>
    cases managers with
    | nil =>
      obtain rfl := Option.some.inj h
      exact ⟨.nil, (List.append_nil _).symm⟩
    | cons manager managers => cases h
  | cons record records ih =>
    cases managers with
    | nil => cases h
    | cons manager managers =>
      obtain ⟨next, hnext, h⟩ := Option.bind_eq_some_iff.mp h
      obtain ⟨hcovers, hdebts⟩ := parseManager_some hnext
      obtain ⟨hrest, hrestDebts⟩ := ih h
      rw [hdebts, List.append_assoc] at hrestDebts
      exact ⟨.cons hcovers hrest, hrestDebts⟩

theorem aggregate_fold {debts : List Nat} {start total : Nat}
    (h : debts.foldlM (fun total debt => do
      guard (total + debt ≤ maxUint256)
      return total + debt) start = some total) : total = start + debts.sum := by
  induction debts generalizing start with
  | nil => exact (Option.some.inj h).symm
  | cons debt debts ih =>
    rw [List.foldlM_cons] at h
    obtain ⟨next, hnext, h⟩ := Option.bind_eq_some_iff.mp h
    obtain ⟨_, _, hnext⟩ := Option.bind_eq_some_iff.mp hnext
    obtain rfl := Option.some.inj hnext
    rw [ih h, List.sum_cons, Nat.add_assoc]

theorem aggregate_some {debts : List Nat} {total : Nat}
    (h : aggregateCreditAccountDebtAtomic debts = some total) : total = debts.sum := by
  obtain ⟨_, _, h⟩ := Option.bind_eq_some_iff.mp h
  rw [aggregate_fold h, Nat.zero_add]

theorem walletDebt_eq {managers : List ManagerRecord} :
    walletDebt walletAddress managers = (managers.flatMap (managerDebts walletAddress)).sum := by
  rw [walletDebt, List.filter_flatMap, List.map_flatMap]
  rfl

end Managers

section Result

variable {F : Fingerprints} {e : DormantGearboxV3AccountPositionTranscriptEvaluator}
  {t : Transcript}

theorem project_some {shares totalAssets totalSupply : Nat} {p : SupplyProjection}
    (h : projectDieselSharesToUnderlyingDown shares totalAssets totalSupply = some p) :
    p.suppliedUnderlyingAtomic =
      if totalSupply = 0 then 0 else shares * totalAssets / totalSupply := by
  obtain ⟨_, _, h⟩ := Option.bind_eq_some_iff.mp h
  split at h
  case isTrue hzero =>
    obtain rfl := Option.some.inj h
    rw [if_pos hzero]
  case isFalse hzero =>
    obtain ⟨_, _, h⟩ := Option.bind_eq_some_iff.mp h
    obtain rfl := Option.some.inj h
    rw [if_neg hzero]

theorem parseSupply_some {supply : Supply} {walletAddress selectedBlockHash : String}
    {p : SupplyProjection} (h : parseSupply supply walletAddress selectedBlockHash = some p) :
    p.suppliedUnderlyingAtomic = if supply.totalSupplyAtomic = 0 then 0
      else supply.sharesAtomic * supply.totalAssetsAtomic / supply.totalSupplyAtomic := by
  obtain ⟨_, _, h⟩ := Option.bind_eq_some_iff.mp h
  exact project_some h

theorem blockMatches_closeout (h : blockMatches e t = true) : t.selectedBlock = t.closeoutBlock := by
  simp only [blockMatches, Bool.and_eq_true, decide_eq_true_eq] at h
  exact h.1.1

theorem blockMatches_floor (h : blockMatches e t = true) :
    t.continuityFloor.blockNumber ≤ t.selectedBlock.number ∧
      (t.selectedBlock.number = t.continuityFloor.blockNumber →
        t.selectedBlock.hash = t.continuityFloor.blockHash) := by
  simp only [blockMatches, Bool.and_eq_true, decide_eq_true_eq] at h
  obtain ⟨_, hfloor⟩ := h
  rw [not_or, not_and, not_not] at hfloor
  exact ⟨not_lt.mp hfloor.1, hfloor.2⟩

theorem readTranscript_codeReads {approval : Approval} {v : Value}
    (h : readTranscript approval v = some t) :
    ∃ record items, exactDataRecord v transcriptKeys = some record ∧
      exactArray (record.get "staticCodeReads") 0 4 = some items ∧
        items.mapM readCodeRead = some t.staticCodeReads := by
  obtain ⟨record, hrecord, h⟩ := Option.bind_eq_some_iff.mp h
  iterate 12 obtain ⟨_, _, h⟩ := Option.bind_eq_some_iff.mp h
  obtain ⟨items, hitems, h⟩ := Option.bind_eq_some_iff.mp h
  obtain ⟨reads, hreads, h⟩ := Option.bind_eq_some_iff.mp h
  iterate 8 obtain ⟨_, _, h⟩ := Option.bind_eq_some_iff.mp h
  obtain rfl := Option.some.inj h
  exact ⟨record, items, hrecord, hitems, hreads⟩

theorem hasAllCodeReads_iff {approval : Approval} {v : Value}
    (h : readTranscript approval v = some t) :
    HasAllCodeReads v ↔ t.staticCodeReads.length = 4 := by
  obtain ⟨record, items, hrecord, hitems, hreads⟩ := readTranscript_codeReads h
  rw [ListOption.length_mapM hreads]
  constructor
  · rintro ⟨record', items', hrecord', hitems', hlength⟩
    obtain rfl := Option.some.inj (hrecord'.symm.trans hrecord)
    obtain rfl := Option.some.inj (hitems'.symm.trans hitems)
    exact hlength
  · intro hlength
    exact ⟨record, items, hrecord, hitems, hlength⟩

/-- Where the reads match what was approved, everything but their number is as required. -/
theorem evaluate_some {v : Value} {r : DormantGearboxV3AccountPositionTranscriptResult}
    (h : evaluate F e v = some r) :
    ∃ t, readTranscript e.approval v = some t ∧
      codeReadsMatch t.staticCodeReads (expectedCodeReads e.manifest r.blockHash) = true ∧
        ((∀ c ∈ expectedCodeReads e.manifest r.blockHash, t.staticCodeReads.count c = 1) →
          IsComplete e t r) := by
  obtain ⟨t, ht, h⟩ := Option.bind_eq_some_iff.mp h
  obtain ⟨_, _, h⟩ := Option.bind_eq_some_iff.mp h
  obtain ⟨_, hblock, h⟩ := Option.bind_eq_some_iff.mp h
  obtain ⟨_, hreads, h⟩ := Option.bind_eq_some_iff.mp h
  iterate 2 obtain ⟨_, _, h⟩ := Option.bind_eq_some_iff.mp h
  obtain ⟨supply, hsupply, h⟩ := Option.bind_eq_some_iff.mp h
  obtain ⟨managers, hmanagers, h⟩ := Option.bind_eq_some_iff.mp h
  obtain ⟨_, _, h⟩ := Option.bind_eq_some_iff.mp h
  obtain ⟨debt, hdebt, h⟩ := Option.bind_eq_some_iff.mp h
  obtain rfl := Option.some.inj h
  have hblock := (Option.guard_eq_some' _).mp hblock
  obtain ⟨hcovers, hdebts⟩ := parseManagers_some hmanagers
  refine ⟨t, ht, (Option.guard_eq_some' _).mp hreads, fun hcodes => ?_⟩
  exact {
    codeReads := hcodes
    managers := hcovers
    block := ⟨rfl, rfl⟩
    closeout := blockMatches_closeout hblock
    floor := blockMatches_floor hblock
    borrowed := by
      change debt = walletDebt t.walletAddress t.managers
      rw [aggregate_some hdebt, hdebts, walletDebt_eq, List.nil_append]
    supplied := parseSupply_some hsupply }

/-- A result covers everything that was approved exactly when no code read was left out. -/
theorem evaluate_complete_iff (F : Fingerprints)
    (e : DormantGearboxV3AccountPositionTranscriptEvaluator) (v : Value)
    (r : DormantGearboxV3AccountPositionTranscriptResult) (h : evaluate F e v = some r) :
    (∃ t, readTranscript e.approval v = some t ∧ IsComplete e t r) ↔ HasAllCodeReads v := by
  obtain ⟨t, ht, hreads, hcomplete⟩ := evaluate_some h
  rw [hasAllCodeReads_iff ht, ← codeReads_iff hreads]
  constructor
  · rintro ⟨t', ht', hcomplete'⟩
    obtain rfl := Option.some.inj (ht'.symm.trans ht)
    exact hcomplete'.codeReads
  · intro hcodes
    exact ⟨t, ht, hcomplete hcodes⟩

end Result

section Sample

def sampleCode : String := "1111111111111111111111111111111111111111111111111111111111111111"
def sampleHash : String := "0x" ++ sampleCode
def sampleWallet : String := "0x1111111111111111111111111111111111111111"
def sampleQuotaKeeper : String := "0x2222222222222222222222222222222222222222"
def sampleManagerAddress : String := "0x3333333333333333333333333333333333333333"
def sampleFacade : String := "0x4444444444444444444444444444444444444444"
def sampleAccount : String := "0x5555555555555555555555555555555555555555"

def manifestFingerprint : String :=
  "0939abef65b6975089cd65390ab410f7878fa0ce8c11e2bf1c90fb04c6eebd89"

def approvalFingerprint : String :=
  "7ac3cc219e8d121167514b258b03898c3d7189ac536df3887e1e4053d2357505"

/-- The digests of the sample manifest and approval. -/
def sampleFingerprints : Fingerprints where
  manifest := fun _ => manifestFingerprint
  approval := fun _ => approvalFingerprint
  transcript := fun _ => sampleCode

def ofTexts (texts : List (String × String)) : List (String × Value) :=
  texts.map fun t => (t.1, .string t.2)

def sampleManifest : Value :=
  ofFields ([("schemaVersion", .integer 1), ("maximumBlockAgeSeconds", .string "3600"),
    ("contracts", ofFields (ofTexts contractTexts)),
    ("asset", ofFields [("symbol", .string "USDC"), ("decimals", .integer 6)]),
    ("assetRegistry", ofFields [("environment", .string "MAINNET"), ("version", .integer 1),
      ("fingerprintSha256", .string assetRegistryFingerprint)]),
    ("runtimeCodeSha256", ofFields (contractKeys.map fun key => (key, .string sampleCode))),
    ("officialSource", ofFields (ofTexts officialSource))] ++ ofTexts manifestTexts)

def noAuthority : List (String × Value) := authorityKeys.map fun key => (key, .boolean false)

def sampleFingerprintFields : List (String × Value) :=
  ofTexts [("manifestFingerprintSha256", manifestFingerprint),
    ("semanticsFingerprintSha256", semanticsFingerprintSha256)]

/-- One manager with one account. -/
def sampleApproval : Value :=
  ofFields ([("approvalVersion", .integer 1), ("use", .string approvalUse)] ++ noAuthority ++
    sampleFingerprintFields ++
    [("root", ofFields (ofTexts [("accountFactoryAddress", accountFactory),
      ("accountFactoryRuntimeCodeSha256", sampleCode),
      ("poolQuotaKeeperAddress", sampleQuotaKeeper),
      ("poolQuotaKeeperRuntimeCodeSha256", sampleCode)])),
    ("managers", ofItems [ofFields (ofTexts [("managerAddress", sampleManagerAddress),
      ("managerRuntimeCodeSha256", sampleCode), ("facadeAddress", sampleFacade),
      ("facadeRuntimeCodeSha256", sampleCode)] ++
      [("creditAccounts", ofItems [ofFields (ofTexts [("accountAddress", sampleAccount),
        ("runtimeCodeSha256", sampleCode)])])])])])

def sampleEvaluator : Option DormantGearboxV3AccountPositionTranscriptEvaluator :=
  newEvaluator sampleFingerprints sampleManifest (.string manifestFingerprint)
    (.string semanticsFingerprintSha256) sampleApproval (.string approvalFingerprint)

def sampleBlock : Value :=
  ofFields (ofTexts [("number", "100"), ("hash", sampleHash), ("parentHash", sampleHash),
    ("stateRoot", sampleHash), ("timestamp", "1000")])

def sampleCodeRead (role address : String) : Value :=
  ofFields (("requireCanonical", .boolean true) :: ofTexts [("role", role), ("address", address),
    ("blockHash", sampleHash), ("observedRuntimeCodeSha256", sampleCode)])

def sampleCodeReads : List Value :=
  [sampleCodeRead "ADDRESS_PROVIDER" official.addressProvider,
    sampleCodeRead "CONTRACTS_REGISTER" official.contractsRegister,
    sampleCodeRead "POOL" official.pool, sampleCodeRead "UNDERLYING" official.underlying]

def sampleRoot : Value :=
  ofFields ([("requireCanonical", .boolean true), ("poolRegistered", .boolean true),
    ("poolDecimals", .integer 6), ("underlyingDecimals", .integer 6)] ++
    ofTexts [("blockHash", sampleHash),
      ("contractsRegisterFromAddressProvider", official.contractsRegister),
      ("accountFactoryFromAddressProvider", accountFactory),
      ("poolAddressProvider", official.addressProvider), ("poolUnderlying", official.underlying),
      ("poolAsset", official.underlying), ("poolVersion", "300"),
      ("poolQuotaKeeper", sampleQuotaKeeper), ("poolQuotaKeeperRuntimeCodeSha256", sampleCode),
      ("poolQuotaKeeperPool", official.pool), ("poolQuotaKeeperUnderlying", official.underlying),
      ("poolQuotaKeeperVersion", "300"), ("accountFactoryRuntimeCodeSha256", sampleCode),
      ("accountFactoryVersion", "300")])

def sampleAccountRecord : Value :=
  ofFields (ofTexts [("accountAddress", sampleAccount), ("runtimeCodeSha256", sampleCode),
    ("creditManager", sampleManagerAddress), ("factory", accountFactory), ("version", "300")] ++
    [("creditAccountInfo", ofFields (ofTexts [("debtAtomic", "5"),
      ("cumulativeIndexLastUpdate", "12"), ("cumulativeQuotaInterest", "3"), ("quotaFees", "4"),
      ("enabledTokensMask", "5"), ("flags", "0"), ("lastDebtUpdate", "900"),
      ("borrowerAddress", sampleWallet)])),
    ("debtOnly", ofFields (("quotedTokenAddresses", ofItems []) :: ofTexts [("debtAtomic", "5"),
      ("cumulativeIndexNow", "13"), ("cumulativeIndexLastUpdate", "12"),
      ("cumulativeQuotaInterest", "3"), ("accruedInterestAtomic", "2"), ("accruedFeesAtomic", "1"),
      ("totalDebtUsd", "0"), ("totalValue", "0"), ("totalValueUsd", "0"), ("twvUsd", "0"),
      ("enabledTokensMask", "5"), ("quotedTokensMask", "0"),
      ("poolQuotaKeeper", sampleQuotaKeeper)]))])

def sampleManagerRecord : Value :=
  ofFields ([("requireCanonical", .boolean true),
    ("pages", ofItems [ofFields [("offset", .string "0"), ("limit", .string "1"),
      ("accountAddresses", ofItems [.string sampleAccount])]]),
    ("accounts", ofItems [sampleAccountRecord])] ++
    ofTexts [("managerAddress", sampleManagerAddress), ("blockHash", sampleHash),
      ("managerRuntimeCodeSha256", sampleCode), ("pool", official.pool),
      ("underlying", official.underlying), ("addressProvider", official.addressProvider),
      ("accountFactory", accountFactory), ("creditFacade", sampleFacade),
      ("poolQuotaKeeper", sampleQuotaKeeper), ("version", "300"),
      ("facadeRuntimeCodeSha256", sampleCode), ("facadeCreditManager", sampleManagerAddress),
      ("facadeVersion", "300"), ("creditAccountsLengthBefore", "1"),
      ("creditAccountsLengthAfter", "1")])

/-- A transcript of the sample approval with some code reads. -/
def sampleTranscript (codeReads : List Value) : Value :=
  ofFields ([("transcriptVersion", .integer 1), ("use", .string transcriptUse)] ++ noAuthority ++
    sampleFingerprintFields ++
    ofTexts [("approvalFingerprintSha256", approvalFingerprint), ("walletAddress", sampleWallet),
      ("evaluatedAt", "1970-01-01T00:20:00.000Z"), ("chainIdBefore", expectedChainId),
      ("chainIdAfter", expectedChainId), ("blockSelector", blockSelector),
      ("blockBinding", blockBinding)] ++
    [("selectedBlock", sampleBlock), ("closeoutBlock", sampleBlock),
      ("continuityFloor", ofFields (ofTexts [("kind", "EVM_BLOCK"), ("blockNumber", "99"),
        ("blockHash", sampleHash)])),
      ("staticCodeReads", ofItems codeReads), ("root", sampleRoot),
      ("managerAddressesBefore", ofItems [.string sampleManagerAddress]),
      ("managerAddressesAfter", ofItems [.string sampleManagerAddress]),
      ("supply", ofFields (("requireCanonical", .boolean true) :: ofTexts [
        ("blockHash", sampleHash), ("walletAddress", sampleWallet), ("sharesAtomic", "3"),
        ("totalAssetsAtomic", "10"), ("totalSupplyAtomic", "4")])),
      ("managers", ofItems [sampleManagerRecord]),
      ("executionOrder", ofItems (((parseApproval sampleApproval).map executionOrder).getD []
        |>.map .string))])

def sampleEvaluation (codeReads : List Value) :
    Option DormantGearboxV3AccountPositionTranscriptResult :=
  sampleEvaluator.bind fun e => evaluate sampleFingerprints e (sampleTranscript codeReads)

theorem sampleEvaluations_isSome : ((sampleEvaluation sampleCodeReads).isSome &&
    (sampleEvaluation []).isSome) = true := by
  -- The kernel reads a text faster from its bytes.
  delta sampleEvaluation sampleTranscript sampleEvaluator newEvaluator
    parseGearboxV3EthereumUSDCManifest readBlockAge parseApproval parseApprovalRoot
    parseApprovedManagers parseApprovedAccounts evaluate readTranscript readAddressArray
    parseBlock readFloor readCodeRead readSupply readManager readPage readAccount readAccountInfo
    readDebtOnly
  simp only [readUint, readText, Bytes.toList_eq_characters]
  decide +kernel

theorem sampleEvaluation_isSome : (sampleEvaluation sampleCodeReads).isSome = true :=
  (Bool.and_eq_true _ _).mp sampleEvaluations_isSome |>.1

theorem sampleEvaluation_nil_isSome : (sampleEvaluation []).isSome = true :=
  (Bool.and_eq_true _ _).mp sampleEvaluations_isSome |>.2

theorem sampleEvaluation_some {codeReads : List Value}
    (h : (sampleEvaluation codeReads).isSome = true) :
    ∃ e r, sampleEvaluator = some e ∧
      evaluate sampleFingerprints e (sampleTranscript codeReads) = some r := by
  obtain ⟨r, hr⟩ := Option.isSome_iff_exists.mp h
  obtain ⟨e, he, hr⟩ := Option.bind_eq_some_iff.mp hr
  exact ⟨e, r, he, hr⟩

theorem readTranscript_sample_nil {approval : Approval} {t : Transcript}
    (h : readTranscript approval (sampleTranscript []) = some t) : ¬t.staticCodeReads.length = 4 := by
  obtain ⟨record, items, hrecord, hitems, hreads⟩ := readTranscript_codeReads h
  have hnone : ((exactDataRecord (sampleTranscript []) transcriptKeys).bind fun record =>
      exactArray (record.get "staticCodeReads") 0 4).map List.length = some 0 := by decide
  rw [hrecord, Option.bind_some, hitems] at hnone
  have hlength : items.length = 0 := Option.some.inj hnone
  rw [ListOption.length_mapM hreads, hlength]
  decide

theorem sampleTranscript_complete : ∃ e r, sampleEvaluator = some e ∧
    evaluate sampleFingerprints e (sampleTranscript sampleCodeReads) = some r ∧
      ((∃ t, readTranscript e.approval (sampleTranscript sampleCodeReads) = some t ∧
        IsComplete e t r) ↔ HasAllCodeReads (sampleTranscript sampleCodeReads)) := by
  obtain ⟨e, r, he, hr⟩ := sampleEvaluation_some sampleEvaluation_isSome
  exact ⟨e, r, he, hr, evaluate_complete_iff sampleFingerprints e _ r hr⟩

/-- A transcript without any code read of the static contracts gives a result. -/
theorem sampleTranscript_without_codeReads : ∃ e r, sampleEvaluator = some e ∧
    evaluate sampleFingerprints e (sampleTranscript []) = some r ∧
      ¬∃ t, readTranscript e.approval (sampleTranscript []) = some t ∧ IsComplete e t r := by
  obtain ⟨e, r, he, hr⟩ := sampleEvaluation_some sampleEvaluation_nil_isSome
  refine ⟨e, r, he, hr, ?_⟩
  rintro ⟨t, ht, hcomplete⟩
  obtain ⟨t', ht', hreads, _⟩ := evaluate_some hr
  obtain rfl := Option.some.inj (ht'.symm.trans ht)
  exact readTranscript_sample_nil ht ((codeReads_iff hreads).mp hcomplete.codeReads)

end Sample

end CryptoLending.SmartLending.GearboxCompleteness
