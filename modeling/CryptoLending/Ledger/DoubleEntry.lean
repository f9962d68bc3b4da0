import CryptoLending.Ledger.LedgerInput
import CryptoLending.Lib.Bookkeeping
import Mathlib.Algebra.Order.BigOperators.Group.List

namespace CryptoLending.Ledger.DoubleEntry

open Lib Lib.JsValue Lib.Text Lib.Bookkeeping LedgerJournal LedgerInput

/-- The decimal numeral of a number, without leading zeros. -/
def Denotes (text : String) (n : Nat) : Prop :=
  isCanonicalUint text.toList = true ∧ decimalValue text.toList = n

instance (text : String) (n : Nat) : Decidable (Denotes text n) :=
  inferInstanceAs (Decidable (_ ∧ _))

def amount (p : PostingInput) : Nat := decimalValue p.amountAtomic.toList

/-- The sum of the amounts on one side of an asset. -/
def sideTotal (side : LedgerPostingSide) (asset : LedgerAssetRevisionId)
    (postings : List PostingInput) : Nat :=
  ((postings.filter (fun p => p.assetRevisionId = asset ∧ p.side = side)).map amount).sum

/-- The postings of a balanced journal. -/
structure IsDoubleEntry (postings : List PostingInput) : Prop where
  length : 2 ≤ postings.length ∧ postings.length ≤ 64
  amounts : ∀ p ∈ postings, ∃ n, Denotes p.amountAtomic n ∧ 1 ≤ n ∧ n ≤ 2 ^ 256 - 1
  accounts : ∃ p ∈ postings, ∃ q ∈ postings, p.accountId ≠ q.accountId
  balanced : ∀ p ∈ postings, sideTotal .debit p.assetRevisionId postings =
    sideTotal .credit p.assetRevisionId postings

section Amounts

variable {text : String}

theorem maxAtomicAmount_value : decimalValue maxAtomicAmount.toList = 2 ^ 256 - 1 := by
  set_option maxRecDepth 4000 in decide

theorem maxAtomicAmount_length : maxAtomicAmount.length = 78 := by decide

theorem maxAtomicAmount_digits : maxAtomicAmount.toList.all isDigit = true := by decide

/-- The comparison of texts is a comparison of numbers. -/
theorem maxAtomicAmount_lt_iff (hd : text.toList.all isDigit = true) (hl : text.length = 78) :
    maxAtomicAmount < text ↔ 2 ^ 256 - 1 < decimalValue text.toList := by
  rw [String.lt_iff_toList_lt, decimalValue_lt_iff maxAtomicAmount_digits hd, maxAtomicAmount_value]
  rw [String.length_toList, String.length_toList, maxAtomicAmount_length, hl]

theorem isAtomicAmount_iff : isAtomicAmount text = true ↔
    ∃ n, Denotes text n ∧ 1 ≤ n ∧ n ≤ 2 ^ 256 - 1 := by
  have hlen : text.toList.length = text.length := String.length_toList
  simp only [isAtomicAmount, maxAtomicAmount_length, Bool.and_eq_true, Bool.not_eq_true',
    Bool.or_eq_false_iff, Bool.and_eq_false_iff, decide_eq_true_eq, decide_eq_false_iff_not,
    beq_eq_false_iff_ne]
  constructor
  · rintro ⟨⟨hp, hl⟩, -, hmax⟩
    have hc : isCanonicalUint text.toList = true := by simp [isCanonicalUint, hp]
    have hd := isCanonicalUint_digits hc
    have hlow := isPositiveUint_le hp
    have hhigh := decimalValue_lt hd
    have hpow : 0 < 10 ^ (text.toList.length - 1) := by positivity
    refine ⟨_, ⟨hc, rfl⟩, by omega, ?_⟩
    by_cases h78 : text.length = 78
    · obtain h | h := hmax
      · exact absurd h78 h
      · rwa [maxAtomicAmount_lt_iff hd h78, Nat.not_lt] at h
    · have hle : 10 ^ text.toList.length ≤ 10 ^ 77 := Nat.pow_le_pow_right (by omega) (by omega)
      omega
  · rintro ⟨n, ⟨hc, rfl⟩, hlow, hhigh⟩
    have hd := isCanonicalUint_digits hc
    have hp : isPositiveUint text.toList = true := by
      simp only [isCanonicalUint, Bool.or_eq_true, beq_iff_eq] at hc
      obtain h | h := hc
      · rw [h] at hlow
        simp [decimalValue, digitValue] at hlow
      · exact h
    have hl : text.length ≤ 78 := by
      by_contra hlt
      have hle := isPositiveUint_le hp
      have hpow : 10 ^ 78 ≤ 10 ^ (text.toList.length - 1) :=
        Nat.pow_le_pow_right (by omega) (by omega)
      omega
    refine ⟨⟨hp, hl⟩, by omega, ?_⟩
    by_cases h78 : text.length = 78
    · right
      rwa [maxAtomicAmount_lt_iff hd h78, Nat.not_lt]
    · exact .inl h78

end Amounts

section Balances

variable (postings : List LedgerPosting)

/-- Folding the postings of an asset adds each side up. -/
theorem foldl_add (asset : LedgerAssetRevisionId) (b : AssetBalance) :
    (postings.filter (fun p => p.assetRevisionId = asset)).foldl AssetBalance.add b =
      ⟨b.debit + sideTotal .debit asset (postings.map PostingInput.ofPosting),
        b.credit + sideTotal .credit asset (postings.map PostingInput.ofPosting)⟩ := by
  induction postings generalizing b with
  | nil => simp [sideTotal]
  | cons p rest ih =>
    by_cases hasset : p.assetRevisionId = asset
    · rw [List.filter_cons_of_pos (by simpa using hasset), List.foldl_cons, ih]
      cases hside : p.side <;>
        simp [AssetBalance.add, sideTotal, PostingInput.ofPosting, hside, hasset, amount,
          AtomicAmount.value, Nat.add_assoc]
    · rw [List.filter_cons_of_neg (by simpa using hasset), ih]
      simp [sideTotal, PostingInput.ofPosting, hasset]

theorem get_balances (asset : LedgerAssetRevisionId) : (balances postings).get asset =
    if asset ∈ postings.map LedgerPosting.assetRevisionId then
      some ⟨sideTotal .debit asset (postings.map PostingInput.ofPosting),
        sideTotal .credit asset (postings.map PostingInput.ofPosting)⟩
    else none := by
  rw [balances, JsMap.get_accumulate, foldl_add]
  simp

variable {postings}

theorem amount_le_sideTotal {ps : List PostingInput} {p : PostingInput} (h : p ∈ ps) :
    amount p ≤ sideTotal p.side p.assetRevisionId ps := by
  apply List.single_le_sum (fun _ _ => Nat.zero_le _)
  apply List.mem_map_of_mem
  simpa using h

theorem one_le_amount (p : LedgerPosting) : 1 ≤ amount (.ofPosting p) := by
  obtain ⟨n, ⟨-, hn⟩, h, -⟩ := isAtomicAmount_iff.1 p.amountAtomic.isAtomic
  rw [← hn] at h
  exact h

theorem two_le_accountIds : 2 ≤ (accountIds postings).length ↔
    ∃ p ∈ postings, ∃ q ∈ postings, p.accountId ≠ q.accountId := by
  rw [accountIds, ← List.card_toFinset, ← Nat.lt_iff_add_one_le, Finset.one_lt_card]
  simp

theorem isUnbalanced_eq_false : isUnbalanced postings = false ↔
    (∃ p ∈ postings, ∃ q ∈ postings, p.accountId ≠ q.accountId) ∧
      ∀ p ∈ postings,
        sideTotal .debit p.assetRevisionId (postings.map PostingInput.ofPosting) =
          sideTotal .credit p.assetRevisionId (postings.map PostingInput.ofPosting) := by
  simp only [isUnbalanced, Bool.or_eq_false_iff, decide_eq_false_iff_not, Nat.not_lt,
    two_le_accountIds, List.any_eq_false, Bool.or_eq_true, beq_iff_eq, bne_iff_ne, not_or,
    not_not, JsMap.mem_values, get_balances, Option.ite_none_right_eq_some, List.mem_map]
  refine and_congr_right fun _ => ⟨fun h p hp => ?_, fun h b hb => ?_⟩
  · exact (h _ ⟨_, ⟨p, hp, rfl⟩, rfl⟩).2
  · obtain ⟨asset, ⟨p, hp, rfl⟩, hb⟩ := hb
    rw [← Option.some.inj hb]
    refine ⟨fun hzero => ?_, h p hp⟩
    -- A posting of the asset adds at least one to its own side.
    have hle := amount_le_sideTotal (List.mem_map_of_mem (f := PostingInput.ofPosting) hp)
    have hone := one_le_amount p
    have heq := h p hp
    dsimp only at hzero
    cases hside : p.side <;> simp only [PostingInput.ofPosting, hside] at hle hone <;> omega

end Balances

section Acceptance

def Accepts (value : Value) : Prop := ∃ j, normalizePostLedgerJournalInput value = .ok j

/-- A reason that fits the event, and dates whose texts are in order. -/
structure WellFormed (i : PostLedgerJournalInput) : Prop where
  validReason : validReasonForEvent i.economicEventType i.reason = true
  inOrder : ¬i.observedAt.toISOString < i.effectiveAt.toISOString

variable {i : PostLedgerJournalInput} {j : ValidatedPostLedgerJournal} {v w : Value}

theorem wellFormed_of_yields (h : i.Yields j) : WellFormed i where
  validReason := by
    rw [← h.economicEventType, ← h.reason]
    exact j.validReason
  inOrder := by
    have ho := h.inOrder
    rw [h.effectiveAt, h.observedAt] at ho
    exact ho

theorem isDoubleEntry_of_yields (h : i.Yields j) : IsDoubleEntry i.postings := by
  obtain ⟨haccounts, hbalanced⟩ := isUnbalanced_eq_false.1 j.postings.balanced
  obtain ⟨p, hp, q, hq, hne⟩ := haccounts
  refine ⟨h.length, ?_, ?_, ?_⟩
  · rw [h.postings, List.forall_mem_map]
    exact fun p _ => isAtomicAmount_iff.1 p.amountAtomic.isAtomic
  · rw [h.postings]
    exact ⟨_, List.mem_map_of_mem hp, _, List.mem_map_of_mem hq, hne⟩
  · rw [h.postings, List.forall_mem_map]
    exact hbalanced

/-- Postings with amounts in range are read. -/
theorem exists_postings {ps : List PostingInput}
    (h : ∀ p ∈ ps, ∃ n, Denotes p.amountAtomic n ∧ 1 ≤ n ∧ n ≤ 2 ^ 256 - 1) :
    ∃ postings : List LedgerPosting, postings.map PostingInput.ofPosting = ps := by
  have hrange : ps ∈ Set.range (List.map PostingInput.ofPosting) := by
    rw [Set.range_list_map]
    exact fun p hp => ⟨⟨p.accountId, p.assetRevisionId, p.side, p.amountAtomic,
      isAtomicAmount_iff.2 (h p hp)⟩, rfl⟩
  exact hrange

theorem accepts_iff_isDoubleEntry (hread : i.ReadFrom v) (hwell : WellFormed i) :
    Accepts v ↔ IsDoubleEntry i.postings := by
  constructor
  · rintro ⟨j, hj⟩
    obtain ⟨k, hk, hyields⟩ := normalizePostLedgerJournalInput_ok.mp hj
    rw [PostLedgerJournalInput.readFrom_unique hread hk]
    exact isDoubleEntry_of_yields hyields
  · intro h
    obtain ⟨postings, hpostings⟩ := exists_postings h.amounts
    have haccounts := h.accounts
    have hbalanced := h.balanced
    rw [← hpostings] at haccounts hbalanced
    have hunbalanced : isUnbalanced postings = false := by
      rw [isUnbalanced_eq_false]
      refine ⟨?_, List.forall_mem_map.mp hbalanced⟩
      obtain ⟨_, hp, _, hq, hne⟩ := haccounts
      obtain ⟨p, hpmem, rfl⟩ := List.mem_map.mp hp
      obtain ⟨q, hqmem, rfl⟩ := List.mem_map.mp hq
      exact ⟨p, hpmem, q, hqmem, hne⟩
    exact ⟨⟨i.bookId, i.transactionId, i.legId, i.economicEventType, .ofInstant i.effectiveAt,
      .ofInstant i.observedAt, i.reason, ⟨postings, hunbalanced⟩, hwell.validReason⟩,
      normalizePostLedgerJournalInput_ok.mpr ⟨i, hread, rfl, rfl, rfl, rfl, rfl, rfl, rfl,
        hpostings.symm, h.length, hwell.inOrder⟩⟩

theorem sideTotal_perm (side : LedgerPostingSide) (asset : LedgerAssetRevisionId)
    {ps qs : List PostingInput} (h : ps.Perm qs) : sideTotal side asset ps = sideTotal side asset qs :=
  ((h.filter _).map _).sum_eq

theorem IsDoubleEntry.perm {ps qs : List PostingInput} (hps : IsDoubleEntry ps) (h : ps.Perm qs) :
    IsDoubleEntry qs := by
  obtain ⟨p, hp, q, hq, hne⟩ := hps.accounts
  refine ⟨?_, fun p hp => hps.amounts p (h.mem_iff.mpr hp),
    ⟨p, h.mem_iff.mp hp, q, h.mem_iff.mp hq, hne⟩, fun p hp => ?_⟩
  · rw [← h.length_eq]
    exact hps.length
  · rw [← sideTotal_perm _ _ h, ← sideTotal_perm _ _ h]
    exact hps.balanced p (h.mem_iff.mpr hp)

/-- The order of the postings is free, everything else is the same. -/
def PostingsReordered (key : String) (v w : Value) : Prop :=
  if key = "postings" then Reordered v w else v = w

theorem postingsReordered_symm (key : String) (v w : Value) (h : PostingsReordered key v w) :
    PostingsReordered key w v := by
  by_cases hk : key = "postings"
  · rw [PostingsReordered, if_pos hk] at h ⊢
    exact h.symm
  · rw [PostingsReordered, if_neg hk] at h ⊢
    exact h.symm

theorem postingsReordered_refl (key : String) (v : Value) : PostingsReordered key v v := by
  by_cases hk : key = "postings"
  · rw [PostingsReordered, if_pos hk]
    exact .same v
  · rw [PostingsReordered, if_neg hk]

/-- A journal with reordered postings is read with the same fields and reordered postings. -/
theorem readFrom_reordered (h : RelatedFields PostingsReordered v w) (hread : i.ReadFrom v)
    (hlength : 2 ≤ i.postings.length ∧ i.postings.length ≤ maxLedgerPostings) :
    ∃ postings, i.postings.Perm postings ∧
      PostLedgerJournalInput.ReadFrom { i with postings } w := by
  obtain ⟨items, hitems, hpostings⟩ := hread
  rw [← hpostings.length_eq] at hlength
  have hrecord := exactRecord_related postingsReordered_refl h postLedgerJournalKeys
  rw [hitems] at hrecord
  cases hw : exactRecord w postLedgerJournalKeys with
  | none =>
    rw [hw] at hrecord
    cases hrecord
  | some record =>
    rw [hw, Option.rel_some_some] at hrecord
    have hfields : ∀ key ≠ "postings",
        record.get key = Record.get (i.fields (ofItems items)) key := by
      intro key hkey
      have hsame := hrecord key
      rw [PostingsReordered, if_neg hkey] at hsame
      exact hsame.symm
    have hreordered := hrecord "postings"
    rw [PostingsReordered, if_pos rfl] at hreordered
    have harray := exactArray_reordered hreordered 2 maxLedgerPostings
    have hget : Record.get (i.fields (ofItems items)) "postings" = ofItems items := rfl
    rw [hget, exactArray_ofItems hlength] at harray
    cases hitems' : exactArray (record.get "postings") 2 maxLedgerPostings with
    | none =>
      rw [hitems'] at harray
      cases harray
    | some items' =>
      rw [hitems', Option.rel_some_some] at harray
      obtain ⟨postings, hread, hperm⟩ := List.perm_comp_forall₂ harray.symm hpostings
      refine ⟨postings, hperm.symm, items', ?_, hread⟩
      have hr := record_eq_map (by decide) (keys_of_exactRecord hw)
      rw [hw, hr]
      simp only [postLedgerJournalKeys, List.map_cons, List.map_nil,
        (exactArray_eq_some.mp hitems').1]
      rw [hfields "bookId" (by decide), hfields "transactionId" (by decide),
        hfields "legId" (by decide), hfields "economicEventType" (by decide),
        hfields "effectiveAt" (by decide), hfields "observedAt" (by decide),
        hfields "reason" (by decide)]
      rfl

theorem accepts_reordered (h : RelatedFields PostingsReordered v w) (hv : Accepts v) :
    Accepts w := by
  obtain ⟨j, hj⟩ := hv
  obtain ⟨i, hread, hyields⟩ := normalizePostLedgerJournalInput_ok.mp hj
  obtain ⟨postings, hperm, hread⟩ := readFrom_reordered h hread hyields.length
  have hwell := wellFormed_of_yields hyields
  rw [accepts_iff_isDoubleEntry hread ⟨hwell.validReason, hwell.inOrder⟩]
  exact (isDoubleEntry_of_yields hyields).perm hperm

end Acceptance

section Conservation

/-- Debits count up, credits count down. -/
def entry (p : LedgerPosting) : Entry LedgerAccountId LedgerAssetRevisionId where
  account := p.accountId
  asset := p.assetRevisionId
  amount := match p.side with
    | .debit => p.amountAtomic.value
    | .credit => -p.amountAtomic.value

/-- The books after a sequence of journals. -/
noncomputable def booksAfter (journals : List ValidatedPostLedgerJournal) :
    Books LedgerAccountId LedgerAssetRevisionId :=
  (journals.map (fun j => j.postings.postings.map entry)).foldl bookAll (fun _ => 0)

theorem net_entries (asset : LedgerAssetRevisionId) (postings : List LedgerPosting) :
    net asset (postings.map entry) =
      sideTotal .debit asset (postings.map PostingInput.ofPosting) -
        sideTotal .credit asset (postings.map PostingInput.ofPosting) := by
  induction postings with
  | nil => rfl
  | cons p rest ih =>
    by_cases hasset : p.assetRevisionId = asset
    · cases hside : p.side <;>
        simp [net, sideTotal, entry, PostingInput.ofPosting, hasset, hside, amount,
          AtomicAmount.value] at ih ⊢ <;> omega
    · simpa [net, sideTotal, entry, PostingInput.ofPosting, hasset] using ih

theorem balanced_entries (b : BalancedPostings) : Balanced (b.postings.map entry) := by
  intro asset
  rw [net_entries]
  by_cases h : ∃ p ∈ b.postings, p.assetRevisionId = asset
  · obtain ⟨p, hp, rfl⟩ := h
    rw [(isUnbalanced_eq_false.1 b.balanced).2 p hp, Int.sub_self]
  · have hnone : ∀ side,
        sideTotal side asset (b.postings.map PostingInput.ofPosting) = 0 := by
      intro side
      have hempty : (b.postings.map PostingInput.ofPosting).filter
          (fun p => p.assetRevisionId = asset ∧ p.side = side) = [] := by
        rw [List.filter_eq_nil_iff, List.forall_mem_map]
        intro p hp hpa
        exact h ⟨p, hp, (of_decide_eq_true hpa).1⟩
      rw [sideTotal, hempty]
      rfl
    rw [hnone, hnone]
    rfl

end Conservation

/-- A well-formed journal is accepted when it has 2 to 64 postings of amounts in range, between two
accounts at least, that balance in every asset; their order is free; and accepted journals leave
the sum over all accounts of every asset at zero. -/
theorem normalizePostLedgerJournalInput_doubleEntry :
    (∀ value, Accepts value → ∃ i : PostLedgerJournalInput, i.ReadFrom value ∧ WellFormed i) ∧
      (∀ (value : Value) (i : PostLedgerJournalInput), i.ReadFrom value → WellFormed i →
        (Accepts value ↔ IsDoubleEntry i.postings)) ∧
      (∀ v w, RelatedFields PostingsReordered v w → (Accepts v ↔ Accepts w)) ∧
      ∀ values journals,
        List.Forall₂ (fun v j => normalizePostLedgerJournalInput v = .ok j) values journals →
        ∀ asset, total (booksAfter journals) asset = 0 := by
  refine ⟨?_, fun value i => accepts_iff_isDoubleEntry, fun v w h => ?_, ?_⟩
  · rintro value ⟨j, hj⟩
    obtain ⟨i, hread, hyields⟩ := normalizePostLedgerJournalInput_ok.mp hj
    exact ⟨i, hread, wellFormed_of_yields hyields⟩
  · exact ⟨accepts_reordered h,
      accepts_reordered (h.symm postingsReordered_symm)⟩
  · intro values journals _ asset
    rw [booksAfter, total_run _ (List.forall_mem_map.mpr fun j _ => balanced_entries j.postings),
      total_zero]

end CryptoLending.Ledger.DoubleEntry
