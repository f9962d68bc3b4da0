import CryptoLending.MainnetActions.LifecycleChain

namespace CryptoLending.MainnetActions.LifecycleHeights

open Lib Intent LifecycleData Lifecycle LifecycleSteps LifecycleInvariant LifecycleProgress
  LifecycleUniqueness LifecycleHistory LifecycleChain

/-- The blocks that an observation attributes to positions. -/
def pointers (x : Reconciliation) : List ChainPointer := x.finalized :: x.transaction.toList

/-- No two observations attribute different blocks to one position. What was reorganised out of
the chain does not count. -/
def OneBlockPerHeight (xs : List Reconciliation) : Prop :=
  ∀ x ∈ xs, ∀ y ∈ xs, x.outcome ≠ .reorgedOut → y.outcome ≠ .reorgedOut →
    ∀ u ∈ pointers x, ∀ v ∈ pointers y, u.position = v.position → u.blockId = v.blockId

/-- An observation with a transaction fits the finalized positions recorded so far and its own, one
without a transaction fits the last seen one. -/
def Fits (r : LifecycleRecord) (y : Reconciliation) : Prop :=
  (∀ t, y.transaction = some t → ∀ f ∈ y.finalized :: (observations r).map (·.finalized),
    f.position = t.position → f.blockId = t.blockId) ∧
  (y.transaction = none → ∀ t, r.lastTransaction = some t → t.position = y.finalized.position →
    t.blockId = y.finalized.blockId)

theorem OneBlockPerHeight.left {xs ys : List Reconciliation} (h : OneBlockPerHeight (xs ++ ys)) :
    OneBlockPerHeight xs := fun x hx y hy =>
  h x (List.mem_append_left _ hx) y (List.mem_append_left _ hy)

theorem mem_pointers {x : Reconciliation} {u : ChainPointer} :
    u ∈ pointers x ↔ u = x.finalized ∨ x.transaction = some u := by
  rw [pointers, List.mem_cons, Option.mem_toList]

/-- One block for each position of the observations of either of two kinds and across them. -/
theorem oneBlockPerHeight_snoc {xs : List Reconciliation} {y : Reconciliation}
    (h : OneBlockPerHeight xs)
    (hself : y.outcome ≠ .reorgedOut → ∀ t, y.transaction = some t →
      y.finalized.position = t.position → y.finalized.blockId = t.blockId)
    (hcross : y.outcome ≠ .reorgedOut → ∀ x ∈ xs, x.outcome ≠ .reorgedOut → ∀ u ∈ pointers x,
      ∀ v ∈ pointers y, u.position = v.position → u.blockId = v.blockId) :
    OneBlockPerHeight (xs ++ [y]) := by
  intro x hx z hz hxo hzo u hu v hv huv
  rw [List.mem_append, List.mem_singleton] at hx hz
  obtain hx | rfl := hx
  · obtain hz | rfl := hz
    · exact h x hx z hz hxo hzo u hu v hv huv
    · exact hcross hzo x hx hxo u hu v hv huv
  · obtain hz | rfl := hz
    · exact (hcross hxo z hz hzo v hv u hu huv.symm).symm
    · obtain rfl | hu := mem_pointers.1 hu
      · obtain rfl | hv := mem_pointers.1 hv
        · rfl
        · exact hself hxo v hv huv
      · obtain rfl | hv := mem_pointers.1 hv
        · exact (hself hxo u hu huv.symm).symm
        · rw [Option.some.inj (hu.symm.trans hv)]

section Record

variable {r : LifecycleRecord} {y : Reconciliation}

/-- What the code does not check is all that one block for each position needs. -/
theorem fits_iff (h : RecordChain r) (live : r.current.terminal = false)
    (hfollows : ∀ x ∈ observations r, Follows x y) (hr : OneBlockPerHeight (observations r)) :
    OneBlockPerHeight (observations r ++ [y]) ↔ y.outcome ≠ .reorgedOut → Fits r y := by
  have hy : y ∈ observations r ++ [y] := List.mem_append_right _ List.mem_cons_self
  have hfinalized : y.finalized ∈ pointers y := mem_pointers.2 (.inl rfl)
  constructor
  · intro hone ho
    constructor
    · intro t ht f hf hposition
      have htp : t ∈ pointers y := mem_pointers.2 (.inr ht)
      obtain rfl | hf := List.mem_cons.mp hf
      · exact hone y hy y hy ho ho _ hfinalized t htp hposition
      · obtain ⟨x, hx, rfl⟩ := List.mem_map.mp hf
        exact hone x (List.mem_append_left _ hx) y hy ((h.seen x hx).outcome live) ho _
          (mem_pointers.2 (.inl rfl)) t htp hposition
    · intro _ t ht hposition
      obtain ⟨x, hx, hxt⟩ := h.source t ht
      exact hone x (List.mem_append_left _ hx) y hy ((h.seen x hx).outcome live) ho t
        (mem_pointers.2 (.inr hxt)) _ hfinalized hposition
  · intro hfits
    apply oneBlockPerHeight_snoc hr
    case hself => exact fun ho t ht => (hfits ho).1 t ht _ List.mem_cons_self
    case hcross =>
      intro ho x hx _ u hu v hv huv
      obtain ⟨htransaction, hnone⟩ := hfits ho
      have hxy := hfollows x hx
      have hfx : ∀ f, f = x.finalized → f ∈ y.finalized :: (observations r).map (·.finalized) := by
        rintro f rfl
        exact List.mem_cons_of_mem _ (List.mem_map_of_mem hx)
      obtain hu | hu := mem_pointers.1 hu
      · obtain hv | hv := mem_pointers.1 hv
        · rw [hu, hv] at huv ⊢
          exact hxy.block ho huv
        · exact htransaction v hv u (hfx u hu) huv
      · obtain rfl | hv := mem_pointers.1 hv
        · cases ht : y.transaction with
          | none => exact hnone ht u ((h.seen x hx).transaction live u hu) huv
          | some t =>
            obtain rfl := hxy.transaction u t hu ht
            exact (htransaction u ht _ List.mem_cons_self huv.symm).symm
        · rw [hxy.transaction u v hu hv]

end Record

variable (P : Platform)

/-- What a call newly reports of an intent fits the record. -/
def CallFits (id : String) (s : State) (call : Call) : Prop :=
  ∀ y r, Reads P s call (.reconciliation y) → y.intentId = id → s.records.get id = some r →
    r.reconciliationReplays.get y.observationId = none → y.outcome ≠ .reorgedOut → Fits r y

variable {P}

/-- What a step newly recorded passed the checks against its record. -/
theorem step_follows {s s' : State} {call : Call} {snapshot : LifecycleSnapshot}
    (hstep : Step P s call snapshot s') (hC : ChainInvariant s) {y : Reconciliation}
    {r : LifecycleRecord} (hy : Reads P s call (.reconciliation y))
    (hr : s.records.get y.intentId = some r)
    (hfirst : r.reconciliationReplays.get y.observationId = none) :
    r.current.terminal = false ∧ ∀ x ∈ observations r, Follows x y := by
  cases hy with
  | reconciliation hread =>
    cases hstep with
    | reconciled reads _ _ live _ later consistent reorged =>
      obtain ⟨rfl, rfl⟩ := readsReconciliation_unique reads hread
      rw [reads.found, Option.some.injEq] at hr
      subst hr
      exact ⟨live, fun x hx =>
        ((hC _ _ reads.found).seen x hx).follows live later consistent reorged⟩
    | reconciledAgain reads replayed =>
      obtain ⟨rfl, rfl⟩ := readsReconciliation_unique reads hread
      rw [reads.found, Option.some.injEq] at hr
      rw [← hr, replayed] at hfirst
      cases hfirst

/-- A call keeps one block for each position if and only if it fits. -/
theorem step_heights {s s' : State} {call : Call} {snapshot : LifecycleSnapshot}
    (hstep : Step P s call snapshot s') (hI : Invariant P s) (hC : ChainInvariant s) (id : String)
    (h : OneBlockPerHeight (observationsOf s id)) :
    OneBlockPerHeight (observationsOf s' id) ↔ CallFits P id s call := by
  have hrecorded := fun y => recorded_iff hstep hI id (y := y)
  rw [step_observations hstep hI id]
  cases hnew : recorded id ⟨s, call, .ok snapshot, s'⟩ with
  | none =>
    have hfits : CallFits P id s call := fun y r hy hid hr hfirst => by
      have hsome := (hrecorded y).mpr ⟨r, hy, hid, hr, hfirst⟩
      rw [hnew] at hsome
      cases hsome
    exact iff_of_true ((List.append_nil _).symm ▸ h) hfits
  | some y =>
    obtain ⟨r, hy, rfl, hr, hfirst⟩ := (hrecorded y).mp hnew
    obtain ⟨live, hfollows⟩ := step_follows hstep hC hy hr hfirst
    have hobservations : observationsOf s y.intentId = observations r := by
      rw [observationsOf, hr]
      rfl
    rw [hobservations] at h ⊢
    rw [Option.toList_some, fits_iff (hC _ r hr) live hfollows h]
    constructor
    · intro hfits z q hz hid hq hzfirst
      have hzy := (hrecorded z).mpr ⟨q, hz, hid, hq, hzfirst⟩
      rw [hnew, Option.some.injEq] at hzy
      rw [hr, Option.some.injEq] at hq
      rw [← hzy, ← hq]
      exact hfits
    · exact fun hfits => hfits y r hy rfl hr hfirst

/-- A run attributes one block to each position if and only if every accepted call fits the record
it found. -/
theorem protocol_heights (P : Platform) (cs : List Call) (id : String) :
    OneBlockPerHeight (history P cs id) ↔
      ∀ e ∈ (protocol P).trace cs, (∃ snapshot, e.outcome = .ok snapshot) →
        CallFits P id e.before e.call := by
  rw [history_eq]
  apply Machine.history_induction protocol_chainInvariant
    (J := fun es s => OneBlockPerHeight (observationsOf s id) ↔
      ∀ e ∈ es, (∃ snapshot, e.outcome = .ok snapshot) → CallFits P id e.before e.call)
  case hnil => exact iff_of_true (fun x hx => by cases hx) (fun e he => by cases he)
  case hsnoc =>
    intro es s call hI ih
    simp only [List.forall_mem_append, List.forall_mem_singleton, ← ih]
    obtain ⟨e, he, hs⟩ | ⟨snapshot, hok, hstep⟩ := protocol_step (P := P) s call
    · rw [hs]
      refine ⟨fun h => ⟨h, ?_⟩, fun h => h.1⟩
      rintro ⟨snapshot, hok⟩
      cases he.symm.trans hok
    · constructor
      · intro h
        have hleft : OneBlockPerHeight (observationsOf s id) := by
          rw [step_observations hstep hI.1 id] at h
          exact h.left
        exact ⟨hleft, fun _ => (step_heights hstep hI.1 hI.2 id hleft).mp h⟩
      · rintro ⟨hleft, hfits⟩
        exact (step_heights hstep hI.1 hI.2 id hleft).mpr (hfits ⟨snapshot, hok⟩)

/-- The finalized block and the block of the transaction are different, at one position. -/
theorem sampleRun_two_blocks :
    ¬OneBlockPerHeight (history samplePlatform sampleRun sampleIntentId) := by
  intro hone
  obtain ⟨x, _, hx, hfields, _⟩ := List.map_eq_cons_iff.mp (Prod.mk.inj sampleRun_evaluated).2
  obtain ⟨ho, ht, hf⟩ : x.outcome = .finalizedSuccess ∧
      x.transaction = some sampleTransactionPointer ∧ x.finalized = sampleFinalizedPointer := by
    simpa only [Prod.mk.injEq] using hfields
  have hmem : x ∈ history samplePlatform sampleRun sampleIntentId := hx ▸ List.mem_cons_self
  have hlive : x.outcome ≠ .reorgedOut := by
    rw [ho]
    decide
  have hblocks := hone x hmem x hmem hlive hlive _ (mem_pointers.2 (.inl rfl)) _
    (mem_pointers.2 (.inr ht)) (by rw [hf]; rfl)
  rw [hf] at hblocks
  exact absurd hblocks (by decide)

end CryptoLending.MainnetActions.LifecycleHeights
