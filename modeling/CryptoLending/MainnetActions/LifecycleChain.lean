import CryptoLending.MainnetActions.LifecycleHistory

namespace CryptoLending.MainnetActions.LifecycleChain

open Lib Intent LifecycleData Lifecycle LifecycleSteps LifecycleInvariant LifecycleProgress
  LifecycleUniqueness LifecycleHistory

/-- A later observation goes on where an earlier one left the chain. -/
structure Follows (x y : Reconciliation) : Prop where
  observed : x.observedAt.milliseconds ≤ y.observedAt.milliseconds
  position : x.finalized.position.value ≤ y.finalized.position.value
  block : y.outcome ≠ .reorgedOut → x.finalized.position = y.finalized.position →
    x.finalized.blockId = y.finalized.blockId
  transaction : ∀ t u, x.transaction = some t → y.transaction = some u → t = u

/-- A final outcome names a transaction that is not after the finalized position. -/
def Finalizes (x : Reconciliation) : Prop :=
  x.outcome = .finalizedSuccess ∨ x.outcome = .finalizedFailure →
    ∃ t, x.transaction = some t ∧ t.position.value ≤ x.finalized.position.value

/-- How an observation in the record stands to the last seen fields. -/
structure Seen (r : LifecycleRecord) (x : Reconciliation) : Prop where
  observed : ∃ last, r.lastReconciliationObservedAt = some last ∧
    x.observedAt.milliseconds ≤ last.milliseconds
  finalized : ∃ last, r.lastFinalized = some last ∧
    x.finalized.position.value ≤ last.position.value ∧
    (r.current.terminal = false → x.finalized.position = last.position →
      x.finalized.blockId = last.blockId)
  transaction : r.current.terminal = false → ∀ t, x.transaction = some t →
    r.lastTransaction = some t
  outcome : r.current.terminal = false → x.outcome ≠ .reorgedOut

/-- The observations of a record, and what its last seen fields say about them. -/
structure RecordChain (r : LifecycleRecord) : Prop where
  seen : ∀ x ∈ observations r, Seen r x
  ordered : (observations r).Pairwise Follows
  shaped : ∀ x ∈ observations r, x.isMisshapen = false
  source : ∀ t, r.lastTransaction = some t → ∃ x ∈ observations r, x.transaction = some t

theorem contradicts_eq_false {r : LifecycleRecord} {y : Reconciliation} {last : ChainPointer}
    (h : r.contradicts y = false) (hlast : r.lastFinalized = some last) :
    last.position.value ≤ y.finalized.position.value ∧
      (y.outcome ≠ .reorgedOut → y.finalized.position = last.position →
        y.finalized.blockId = last.blockId) ∧
      (y.outcome ≠ .reorgedOut → ∀ t u, y.transaction = some t → r.lastTransaction = some u →
        t = u) := by
  simp only [LifecycleRecord.contradicts, hlast, Option.any_some, Bool.or_eq_false_iff,
    decide_eq_false_iff_not, not_lt] at h
  obtain ⟨⟨hposition, hblock⟩, htransaction⟩ := h
  refine ⟨hposition, fun ho hp => ?_, fun ho t u ht hu => ?_⟩
  · by_contra hb
    simp [ho, hp, hb] at hblock
  · by_contra htu
    simp [ho, ht, hu, htu] at htransaction

/-- A new observation that passes the checks follows every one in the record. -/
theorem Seen.follows {r : LifecycleRecord} {x y : Reconciliation} (h : Seen r x)
    (live : r.current.terminal = false)
    (later : ∀ last, r.lastReconciliationObservedAt = some last →
      last.milliseconds ≤ y.observedAt.milliseconds)
    (consistent : r.contradicts y = false)
    (reorged : y.outcome = .reorgedOut → ∀ last, r.lastTransaction = some last →
      y.transaction = some last) : Follows x y := by
  obtain ⟨time, htime, hle⟩ := h.observed
  obtain ⟨last, hlast, hposition, hblock⟩ := h.finalized
  obtain ⟨hpositions, hblocks, htransactions⟩ := contradicts_eq_false consistent hlast
  constructor
  case observed => exact hle.trans (later time htime)
  case position => exact hposition.trans hpositions
  case block =>
    intro ho hp
    rw [hp] at hposition
    have hl : y.finalized.position = last.position :=
      Uint64Text.ext_value (Nat.le_antisymm hposition hpositions)
    rw [hblocks ho hl, hblock live (hp.trans hl)]
  case transaction =>
    intro t u ht hu
    have htlast := h.transaction live t ht
    by_cases ho : y.outcome = .reorgedOut
    · have hy := reorged ho t htlast
      rw [hu, Option.some.injEq] at hy
      exact hy.symm
    · exact (htransactions ho u t hu htlast).symm

theorem not_reorgedOut {o : ReconciliationOutcome} (h : isTerminalStage o.stage = false) :
    o ≠ .reorgedOut := by
  rintro rfl
  cases h

section Record

variable {r : LifecycleRecord} {x y : Reconciliation} {fingerprint : String}
  {snapshot : LifecycleSnapshot}

theorem Seen.reconciled (h : Seen r x) (hxy : Follows x y) (live : r.current.terminal = false)
    (hterminal : snapshot.terminal = isTerminalStage y.outcome.stage) :
    Seen (r.withReconciliation y fingerprint snapshot) x where
  observed := ⟨y.observedAt, rfl, hxy.observed⟩
  finalized := by
    refine ⟨y.finalized, rfl, hxy.position, fun ht => ?_⟩
    exact hxy.block (not_reorgedOut (hterminal.symm.trans ht))
  transaction := by
    intro ht t hx
    have hlast := h.transaction live t hx
    rw [LifecycleRecord.withReconciliation]
    cases hy : y.transaction with
    | none => simpa using hlast
    | some u =>
      have ho := not_reorgedOut (hterminal.symm.trans ht)
      simp [ho, hxy.transaction t u hx hy]
  outcome := fun _ => h.outcome live

theorem seen_new (hterminal : snapshot.terminal = isTerminalStage y.outcome.stage) :
    Seen (r.withReconciliation y fingerprint snapshot) y where
  observed := ⟨y.observedAt, rfl, le_rfl⟩
  finalized := ⟨y.finalized, rfl, le_rfl, fun _ _ => rfl⟩
  transaction := by
    intro ht t hy
    have ho := not_reorgedOut (hterminal.symm.trans ht)
    simp [LifecycleRecord.withReconciliation, hy, ho]
  outcome := fun ht => not_reorgedOut (hterminal.symm.trans ht)

/-- Recording an observation that passes the checks keeps the chain. -/
theorem RecordChain.reconciled (h : RecordChain r) {chainQualifiedTransactionId : String}
    (first : r.reconciliationReplays.get y.observationId = none)
    (live : r.current.terminal = false)
    (later : ∀ last, r.lastReconciliationObservedAt = some last →
      last.milliseconds ≤ y.observedAt.milliseconds)
    (consistent : r.contradicts y = false)
    (reorged : y.outcome = .reorgedOut → ∀ last, r.lastTransaction = some last →
      y.transaction = some last)
    (shaped : y.isMisshapen = false)
    (hs : snapshot.reconciliation = some ⟨y, chainQualifiedTransactionId⟩)
    (hterminal : snapshot.terminal = isTerminalStage y.outcome.stage) :
    RecordChain (r.withReconciliation y fingerprint snapshot) := by
  have hobservations : observations (r.withReconciliation y fingerprint snapshot) =
      observations r ++ [y] := observations_withReconciliation first hs
  have hfollows : ∀ x ∈ observations r, Follows x y := fun x hx =>
    (h.seen x hx).follows live later consistent reorged
  constructor
  case seen =>
    intro x hx
    rw [hobservations, List.mem_append, List.mem_singleton] at hx
    obtain hx | rfl := hx
    · exact (h.seen x hx).reconciled (hfollows x hx) live hterminal
    · exact seen_new hterminal
  case ordered =>
    rw [hobservations, List.pairwise_append]
    refine ⟨h.ordered, List.pairwise_singleton _ _, fun x hx z hz => ?_⟩
    rw [List.mem_singleton.mp hz]
    exact hfollows x hx
  case shaped =>
    intro x hx
    rw [hobservations, List.mem_append, List.mem_singleton] at hx
    obtain hx | rfl := hx
    · exact h.shaped x hx
    · exact shaped
  case source =>
    intro t ht
    rw [hobservations]
    simp only [LifecycleRecord.withReconciliation] at ht
    split at ht
    · exact ⟨y, by simp, ht⟩
    · obtain ⟨x, hx, hxt⟩ := h.source t ht
      exact ⟨x, List.mem_append_left _ hx, hxt⟩

/-- Only reconciliation touches the chain. -/
theorem RecordChain.of_live {r' : LifecycleRecord} (h : RecordChain r)
    (live : r.current.terminal = false)
    (hreplays : r'.reconciliationReplays = r.reconciliationReplays)
    (htransaction : r'.lastTransaction = r.lastTransaction)
    (hfinalized : r'.lastFinalized = r.lastFinalized)
    (hobserved : r'.lastReconciliationObservedAt = r.lastReconciliationObservedAt) :
    RecordChain r' := by
  have hobservations : observations r' = observations r := by
    rw [observations, hreplays, ← observations]
  constructor
  case seen =>
    intro x hx
    rw [hobservations] at hx
    have hseen := h.seen x hx
    obtain ⟨last, hlast, hposition, hblock⟩ := hseen.finalized
    refine ⟨hobserved ▸ hseen.observed, ⟨last, hfinalized ▸ hlast, hposition, fun _ => hblock live⟩,
      fun _ => htransaction ▸ hseen.transaction live, fun _ => hseen.outcome live⟩
  case ordered => exact hobservations ▸ h.ordered
  case shaped => exact hobservations ▸ h.shaped
  case source => exact hobservations ▸ htransaction ▸ h.source

end Record

def ChainInvariant (s : State) : Prop :=
  ∀ id r, s.records.get id = some r → RecordChain r

theorem ChainInvariant.set {s s' : State} (h : ChainInvariant s) {id : String}
    {r : LifecycleRecord} (hs : s'.records = s.records.set id r) (hr : RecordChain r) :
    ChainInvariant s' := by
  intro j q hq
  rw [hs, JsMap.get_set] at hq
  split at hq
  · rw [← Option.some.inj hq]
    exact hr
  · exact h j q hq

variable {P : Platform}

theorem recordChain_prepared (snapshot : LifecycleSnapshot) : RecordChain (.ofPrepared snapshot) where
  seen := fun x hx => by cases hx
  ordered := .nil
  shaped := fun x hx => by cases hx
  source := fun t ht => by cases ht

theorem step_chain {s s' : State} {call : Call} {snapshot : LifecycleSnapshot}
    (hstep : Step P s call snapshot s') (hI : Invariant P s) (h : ChainInvariant s) :
    ChainInvariant s' := by
  cases hstep with
  | prepared => exact h.set rfl (recordChain_prepared _)
  | preparedAgain => exact h
  | bound reads _ _ _ _ stage =>
    have hlive := (hI.records _ _ reads.found).terminal
    rw [stage] at hlive
    exact h.set rfl ((h _ _ reads.found).of_live hlive rfl rfl rfl rfl)
  | boundAgain => exact h
  | broadcast reads _ _ _ _ stage =>
    have hlive := (hI.records _ _ reads.found).terminal
    rw [stage] at hlive
    exact h.set rfl ((h _ _ reads.found).of_live hlive rfl rfl rfl rfl)
  | broadcastAgain => exact h
  | reconciled reads first _ live _ later consistent reorged _ made =>
    obtain ⟨input, _, _, _, _, hparse⟩ := reads.reads
    exact h.set rfl ((h _ _ reads.found).reconciled first live later consistent reorged
      (parseReconciliation_shape hparse) made.reconciliation_eq made.terminal_eq)
  | reconciledAgain => exact h
  | read => exact h

theorem protocol_chainInvariant :
    (protocol P).Invariant (fun s => Invariant P s ∧ ChainInvariant s) where
  initial := ⟨protocol_invariant.initial, fun id r hr => by cases hr⟩
  step := fun s call h => by
    refine ⟨protocol_invariant.step s call h.1, ?_⟩
    obtain ⟨_, _, hs⟩ | ⟨_, _, hstep⟩ := protocol_step (P := P) s call
    · rw [hs]
      exact h.2
    · exact step_chain hstep h.1 h.2

theorem finalizes_of_shape {x : Reconciliation} (h : x.isMisshapen = false) : Finalizes x := by
  intro ho
  simp only [Reconciliation.isMisshapen, Bool.or_eq_false_iff] at h
  obtain ⟨⟨⟨⟨⟨⟨⟨⟨_, hsome⟩, _⟩, hposition⟩, _⟩, _⟩, _⟩, _⟩, _⟩ := h
  cases ht : x.transaction with
  | none => obtain ho | ho := ho <;> simp [ho, ht] at hsome
  | some t =>
    refine ⟨t, rfl, ?_⟩
    obtain ho | ho := ho <;> simpa [ho, ht] using hposition

/-- In every run the accepted observations of an intent follow one another, and a final one names a
transaction at or below its finalized position. -/
theorem protocol_chain (P : Platform) (cs : List Call) (id : String) :
    (history P cs id).Pairwise Follows ∧ ∀ x ∈ history P cs id, Finalizes x := by
  rw [history_eq, observationsOf]
  cases hr : ((protocol P).reached cs).records.get id with
  | none => exact ⟨.nil, fun x hx => by cases hx⟩
  | some r =>
    have hchain := (protocol_chainInvariant.reached (M := protocol P) cs).2 id r hr
    exact ⟨hchain.ordered, fun x hx => finalizes_of_shape (hchain.shaped x hx)⟩

end CryptoLending.MainnetActions.LifecycleChain
