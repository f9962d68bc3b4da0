import CryptoLending.Lib.Apportionment
import CryptoLending.LocalDemo.YieldProjection

namespace CryptoLending.LocalDemo.CapitalDistribution

open Lib Apportionment YieldProjection

/-- What the distribution of capital throws. -/
inductive Failure where
  | invalidAllocationWeights
  | invalidAmountDistribution
  | invalidZeroWeightDistribution
  | missingAllocationAmount
  | invalidOpportunityCapacities
  | invalidOpportunitySelection
  | noMatchingYieldOpportunities
  | missingCapitalBucket
  deriving DecidableEq

section Distributing

/-- The loop that `distribute` and `distributeByAmounts` share. -/
def largestRemainders (total : Int) (weights : List Int) (denominator : Int) (failure : Failure) :
    Except Failure (List Int) := do
  let amounts := sharesOf total weights denominator
  let handed ← orFail (handOut (remainderOrder total weights denominator) amounts
    (total - amounts.sum)) .missingAllocationAmount
  failWhen (handed.2 ≠ 0) failure
  return handed.1

def distribute (total : Int) (basisPoints : List Int) : Except Failure (List Int) := do
  failWhen (total < 0 ∨ (∃ basisPoint ∈ basisPoints, basisPoint < 0 ∨ 10000 < basisPoint) ∨
    basisPoints.sum ≠ 10000) .invalidAllocationWeights
  largestRemainders total basisPoints 10000 .invalidAllocationWeights

def distributeByAmounts (total : Int) (weights : List Int) : Except Failure (List Int) := do
  let denominator := weights.sum
  failWhen (total < 0 ∨ weights.length < 1 ∨ ∃ weight ∈ weights, weight < 0)
    .invalidAmountDistribution
  if denominator = 0 then
    failWhen (total ≠ 0) .invalidZeroWeightDistribution
    return weights.map fun _ => 0
  largestRemainders total weights denominator .invalidAmountDistribution

variable {total : Int} {weights : List Int} {denominator : Int} {failure : Failure}

theorem largestRemainders_ok (htotal : 0 ≤ total) (hweights : ∀ weight ∈ weights, 0 ≤ weight)
    (hsum : weights.sum = denominator) (hd : 0 < denominator) :
    ∃ amounts, largestRemainders total weights denominator failure = .ok amounts ∧
      Apportioned total weights denominator amounts := by
  obtain ⟨amounts, heq, happortioned⟩ := apportion_spec htotal hweights hsum hd
  refine ⟨amounts, ?_, happortioned⟩
  rw [apportion, Option.bind_eq_bind, Option.bind_eq_some_iff] at heq
  obtain ⟨⟨handed, left⟩, hhanded, heven⟩ := heq
  have hzero : left = 0 := by
    by_contra hnot
    simp [hnot] at heven
  obtain rfl : handed = amounts := by simpa [hzero] using heven
  simp only [largestRemainders, hhanded]
  simp [orFail, failWhen, hzero, bind, Except.bind, pure, Except.pure]

/-- Valid weights are always distributed, exactly and fairly; any others are refused. -/
theorem distribute_apportions (total : Int) (basisPoints : List Int) :
    let valid := 0 ≤ total ∧ (∀ basisPoint ∈ basisPoints, 0 ≤ basisPoint ∧ basisPoint ≤ 10000) ∧
      basisPoints.sum = 10000
    (valid → ∃ amounts, distribute total basisPoints = .ok amounts ∧
        Apportioned total basisPoints 10000 amounts) ∧
      (¬valid → distribute total basisPoints = .error .invalidAllocationWeights) := by
  intro valid
  have hvalid : valid ↔ ¬(total < 0 ∨ (∃ basisPoint ∈ basisPoints,
      basisPoint < 0 ∨ 10000 < basisPoint) ∨ basisPoints.sum ≠ 10000) := by
    simp only [valid, not_or, not_lt, not_exists, not_and, not_not]
  constructor
  · intro h
    obtain ⟨htotal, hweights, hsum⟩ := h
    obtain ⟨amounts, hok, happortioned⟩ := largestRemainders_ok htotal
      (fun weight hweight => (hweights weight hweight).1) hsum (by decide)
    refine ⟨amounts, ?_, happortioned⟩
    rw [distribute, failWhen, if_neg (hvalid.mp ⟨htotal, hweights, hsum⟩)]
    exact hok
  · intro h
    rw [distribute, failWhen, if_pos (not_not.mp (mt hvalid.mpr h))]
    rfl

/-- Amounts of at least one weight are distributed in proportion; no positive total is distributed
over nothing. -/
theorem distributeByAmounts_apportions (total : Int) (weights : List Int) :
    let valid := 0 ≤ total ∧ 1 ≤ weights.length ∧ ∀ weight ∈ weights, 0 ≤ weight
    (valid → 0 < weights.sum → ∃ amounts, distributeByAmounts total weights = .ok amounts ∧
        Apportioned total weights weights.sum amounts) ∧
      (valid → weights.sum = 0 → distributeByAmounts total weights =
        if total = 0 then .ok (weights.map fun _ => 0) else .error .invalidZeroWeightDistribution) ∧
      (¬valid → distributeByAmounts total weights = .error .invalidAmountDistribution) := by
  intro valid
  have hvalid : valid ↔ ¬(total < 0 ∨ weights.length < 1 ∨ ∃ weight ∈ weights, weight < 0) := by
    simp only [valid, not_or, not_lt, not_exists, not_and]
  refine ⟨fun h hpos => ?_, fun h hzero => ?_, fun h => ?_⟩
  · obtain ⟨htotal, hlength, hweights⟩ := h
    obtain ⟨amounts, hok, happortioned⟩ := largestRemainders_ok htotal hweights rfl hpos
    refine ⟨amounts, ?_, happortioned⟩
    simp only [distributeByAmounts]
    rw [failWhen, if_neg (hvalid.mp ⟨htotal, hlength, hweights⟩), except_ok_bind, if_neg hpos.ne']
    exact hok
  · simp only [distributeByAmounts]
    rw [failWhen, if_neg (hvalid.mp h), except_ok_bind, if_pos hzero]
    by_cases htotal : total = 0
    · simp [htotal, failWhen, bind, Except.bind, pure, Except.pure]
    · simp [htotal, failWhen, bind, Except.bind]
  · simp only [distributeByAmounts]
    rw [failWhen, if_pos (not_not.mp (mt hvalid.mpr h))]
    rfl

variable {amounts : List Int}

theorem distributeByAmounts_ok (h : distributeByAmounts total weights = .ok amounts) :
    amounts.length = weights.length ∧ amounts.sum = total := by
  obtain ⟨hpositive, hzero, hinvalid⟩ := distributeByAmounts_apportions total weights
  by_cases hvalid : 0 ≤ total ∧ 1 ≤ weights.length ∧ ∀ weight ∈ weights, 0 ≤ weight
  · obtain hpos | heq := (List.sum_nonneg hvalid.2.2).lt_or_eq
    · obtain ⟨amounts', hok, happortioned⟩ := hpositive hvalid hpos
      obtain rfl := Except.ok.inj (h.symm.trans hok)
      exact ⟨happortioned.length, happortioned.sum⟩
    · have hresult := h.symm.trans (hzero hvalid heq.symm)
      split at hresult
      · rename_i htotal
        obtain rfl := Except.ok.inj hresult
        exact ⟨List.length_map _, by simp [htotal]⟩
      · cases hresult
  · cases h.symm.trans (hinvalid hvalid)

/-- Nothing is distributed to a weight of nothing. -/
theorem weight_pos_of_distributed (h : distributeByAmounts total weights = .ok amounts) {i : Nat}
    {weight amount : Int} (hweight : weights[i]? = some weight) (hamount : amounts[i]? = some amount)
    (hne : amount ≠ 0) : 0 < weight := by
  obtain ⟨hpositive, hzero, hinvalid⟩ := distributeByAmounts_apportions total weights
  by_cases hvalid : 0 ≤ total ∧ 1 ≤ weights.length ∧ ∀ weight ∈ weights, 0 ≤ weight
  · obtain hpos | heq := (List.sum_nonneg hvalid.2.2).lt_or_eq
    · obtain ⟨amounts', hok, happortioned⟩ := hpositive hvalid hpos
      obtain rfl := Except.ok.inj (h.symm.trans hok)
      have hnonneg := hvalid.2.2 weight (List.mem_of_getElem? hweight)
      have hshare := (happortioned.share i weight amount hweight hamount).2
      by_contra hle
      obtain rfl : weight = 0 := le_antisymm (not_lt.mp hle) hnonneg
      rw [mul_zero, sub_zero, abs_mul, abs_of_pos hpos] at hshare
      have hone : 1 ≤ |amount| := Int.one_le_abs hne
      nlinarith
    · have hresult := h.symm.trans (hzero hvalid heq.symm)
      split at hresult
      · obtain rfl := Except.ok.inj hresult
        rw [List.getElem?_map, hweight, Option.map_some, Option.some.injEq] at hamount
        exact absurd hamount.symm hne
      · cases hresult
  · cases h.symm.trans (hinvalid hvalid)

theorem distribute_ok {basisPoints : List Int} (h : distribute total basisPoints = .ok amounts) :
    Apportioned total basisPoints 10000 amounts := by
  obtain ⟨hvalid, hinvalid⟩ := distribute_apportions total basisPoints
  by_cases hv : 0 ≤ total ∧ (∀ basisPoint ∈ basisPoints, 0 ≤ basisPoint ∧ basisPoint ≤ 10000) ∧
      basisPoints.sum = 10000
  · obtain ⟨amounts', hok, happortioned⟩ := hvalid hv
    obtain rfl := Except.ok.inj (h.symm.trans hok)
    exact happortioned
  · cases h.symm.trans (hinvalid hv)

end Distributing

section Filling

/-- What remains is added as the capacities allow, in their order. -/
def fill : List (Int × Int) → Int → List Int × Int
  | [], remaining => ([], remaining)
  | (current, capacity) :: rest, remaining =>
    if 0 < remaining then
      let availableCapacity := capacity - current
      let additional := if remaining < availableCapacity then remaining else availableCapacity
      let filled := fill rest (remaining - additional)
      ((current + additional) :: filled.1, filled.2)
    else (current :: rest.map Prod.fst, remaining)

def distributeLocalDemoCapitalWithinCapacities (total : Int) (basisPoints capacities : List Int) :
    Except Failure (List Int) := do
  failWhen (total < 0 ∨ capacities.length ≠ basisPoints.length ∨ capacities.length < 1 ∨
    2 < capacities.length ∨ ∃ capacity ∈ capacities, capacity < 0) .invalidOpportunityCapacities
  let desiredAmounts ← distribute total basisPoints
  let amounts := List.zipWith (fun desired capacity =>
    if desired < capacity then desired else capacity) desiredAmounts capacities
  let filled := fill (amounts.zip capacities) (total - amounts.sum)
  failWhen (0 < filled.2) .noMatchingYieldOpportunities
  return filled.1

variable {l : List (Int × Int)} {current capacity total remaining : Int}
  {basisPoints capacities : List Int}

/-- What is added takes all that remains, or fills up. -/
theorem fill_cons_pos (l : List (Int × Int)) (hpos : 0 < remaining)
    (hcapacity : current ≤ capacity) : ∃ additional,
      0 ≤ additional ∧ additional ≤ remaining ∧ current + additional ≤ capacity ∧
      (additional = remaining ∨ current + additional = capacity) ∧
      fill ((current, capacity) :: l) remaining =
        ((current + additional) :: (fill l (remaining - additional)).1,
          (fill l (remaining - additional)).2) := by
  by_cases hlt : remaining < capacity - current
  · refine ⟨remaining, hpos.le, le_rfl, by omega, .inl rfl, ?_⟩
    simp only [fill, if_pos hpos, if_pos hlt]
  · refine ⟨capacity - current, by omega, by omega, by omega, .inr (by omega), ?_⟩
    simp only [fill, if_pos hpos, if_neg hlt]

theorem sum_fst_le (hl : ∀ p ∈ l, p.1 ≤ p.2) : (l.map Prod.fst).sum ≤ (l.map Prod.snd).sum :=
  List.sum_le_sum hl

/-- What filling leaves behind: the capacities are kept, nothing is lost, and something remains only
when everything is full. -/
theorem fill_spec (hl : ∀ p ∈ l, p.1 ≤ p.2) (hremaining : 0 ≤ remaining) :
    List.Forall₂ (fun p amount => p.1 ≤ amount ∧ amount ≤ p.2) l (fill l remaining).1 ∧
      (fill l remaining).1.sum + (fill l remaining).2 = (l.map Prod.fst).sum + remaining ∧
      0 ≤ (fill l remaining).2 ∧
      (0 < (fill l remaining).2 → (fill l remaining).1 = l.map Prod.snd) := by
  induction l generalizing remaining with
  | nil => simp [fill, hremaining]
  | cons p l ih =>
    obtain ⟨current, capacity⟩ := p
    have hcapacity : current ≤ capacity := hl _ List.mem_cons_self
    have hrest : ∀ p ∈ l, p.1 ≤ p.2 := fun p hp => hl p (List.mem_cons_of_mem _ hp)
    by_cases hpos : 0 < remaining
    · obtain ⟨additional, hnonneg, hle, hfits, htaken, hfill⟩ := fill_cons_pos l hpos hcapacity
      obtain ⟨hwithin, hsum, hleft, hfull⟩ := ih hrest (sub_nonneg.mpr hle)
      rw [hfill]
      refine ⟨.cons ⟨by omega, hfits⟩ hwithin, ?_, hleft, fun hover => ?_⟩
      · rw [List.sum_cons, List.map_cons, List.sum_cons]
        linarith
      · obtain hall | hcap := htaken
        · exfalso
          have hmono := sum_fst_le hrest
          rw [hfull hover, hall, sub_self] at hsum
          rw [hall, sub_self] at hover
          linarith
        · rw [List.map_cons, hcap, hfull hover]
    · have hfill : fill ((current, capacity) :: l) remaining =
          (current :: l.map Prod.fst, remaining) := by
        rw [fill, if_neg hpos]
      rw [hfill]
      refine ⟨.cons ⟨le_rfl, hcapacity⟩ ?_, by rw [List.map_cons], hremaining,
        fun hover => absurd hover hpos⟩
      rw [List.forall₂_map_right_iff, List.forall₂_same]
      exact fun p hp => ⟨le_rfl, hrest p hp⟩

/-- The amounts fit their capacities, add up to the total, and fall short of the weighted shares
only where a capacity does. -/
structure WithinCapacities (total : Int) (basisPoints capacities amounts : List Int) : Prop where
  length : amounts.length = capacities.length
  sum : amounts.sum = total
  within : ∀ (i : Nat) (amount capacity : Int), amounts[i]? = some amount →
    capacities[i]? = some capacity → 0 ≤ amount ∧ amount ≤ capacity
  share : ∃ desiredAmounts, Apportioned total basisPoints 10000 desiredAmounts ∧
    ∀ (i : Nat) (amount desired capacity : Int), amounts[i]? = some amount →
      desiredAmounts[i]? = some desired → capacities[i]? = some capacity →
        min desired capacity ≤ amount

/-- What every caller passes: one or two capacities, and weights that add up. -/
structure Routed (total : Int) (basisPoints capacities : List Int) : Prop where
  total_nonneg : 0 ≤ total
  same_length : capacities.length = basisPoints.length
  length_pos : 1 ≤ capacities.length
  length_le : capacities.length ≤ 2
  capacities_nonneg : ∀ capacity ∈ capacities, 0 ≤ capacity
  weights : ∀ basisPoint ∈ basisPoints, 0 ≤ basisPoint ∧ basisPoint ≤ 10000
  weights_sum : basisPoints.sum = 10000

/-- What the capacities leave of the desired amounts, each with its capacity. -/
def capped (desiredAmounts capacities : List Int) : List (Int × Int) :=
  (List.zipWith (fun desired capacity => if desired < capacity then desired else capacity)
    desiredAmounts capacities).zip capacities

variable {desiredAmounts : List Int}

theorem capped_eq (desiredAmounts capacities : List Int) : capped desiredAmounts capacities =
    (desiredAmounts.zip capacities).map fun p => (min p.1 p.2, p.2) := by
  induction desiredAmounts generalizing capacities with
  | nil => rfl
  | cons desired desiredAmounts ih =>
    cases capacities with
    | nil => rfl
    | cons capacity capacities =>
      have hrest := ih capacities
      rw [capped] at hrest ⊢
      rw [List.zipWith_cons_cons, List.zip_cons_cons, List.zip_cons_cons, List.map_cons, hrest]
      congr 2
      split <;> omega

theorem mem_capped {p : Int × Int} (hp : p ∈ capped desiredAmounts capacities) : p.1 ≤ p.2 := by
  rw [capped_eq] at hp
  obtain ⟨q, _, rfl⟩ := List.mem_map.mp hp
  exact min_le_right _ _

theorem snd_capped (hlength : desiredAmounts.length = capacities.length) :
    (capped desiredAmounts capacities).map Prod.snd = capacities := by
  rw [capped_eq, List.map_map]
  exact List.map_snd_zip hlength.ge

theorem sum_fst_capped_le (hlength : desiredAmounts.length = capacities.length) :
    ((capped desiredAmounts capacities).map Prod.fst).sum ≤ desiredAmounts.sum := by
  have hfst : (desiredAmounts.zip capacities).map Prod.fst = desiredAmounts :=
    List.map_fst_zip hlength.le
  rw [capped_eq, List.map_map]
  conv_rhs => rw [← hfst]
  exact List.sum_le_sum fun p _ => min_le_left _ _

theorem fst_capped (hlength : desiredAmounts.length = capacities.length) :
    (capped desiredAmounts capacities).map Prod.fst =
      List.zipWith (fun desired capacity => if desired < capacity then desired else capacity)
        desiredAmounts capacities := by
  rw [capped]
  apply List.map_fst_zip
  rw [List.length_zipWith, hlength, min_self]

theorem getElem?_capped {i : Nat} {desired : Int} (hdesired : desiredAmounts[i]? = some desired)
    (hcapacity : capacities[i]? = some capacity) :
    (capped desiredAmounts capacities)[i]? = some (min desired capacity, capacity) := by
  have hzip : (desiredAmounts.zip capacities)[i]? = some (desired, capacity) :=
    List.getElem?_zip_eq_some.mpr ⟨hdesired, hcapacity⟩
  rw [capped_eq, List.getElem?_map, hzip, Option.map_some]

theorem forall₂_getElem? {α β : Type} {R : α → β → Prop} {l : List α} {m : List β}
    (h : List.Forall₂ R l m) {i : Nat} {a : α} {b : β} (ha : l[i]? = some a) (hb : m[i]? = some b) :
    R a b := by
  obtain ⟨hi, rfl⟩ := List.getElem?_eq_some_iff.mp ha
  obtain ⟨hj, rfl⟩ := List.getElem?_eq_some_iff.mp hb
  exact (List.forall₂_iff_get.mp h).2 i hi hj

theorem failWhen_then {α : Type} (p : Prop) [Decidable p] (failure : Failure) (a : α) :
    (do failWhen p failure; return a) = if p then .error failure else Except.ok a := by
  rw [failWhen]
  split <;> rfl

/-- The capped amounts, filled with what they leave of the total. -/
def filling (total : Int) (desiredAmounts capacities : List Int) : List Int × Int :=
  fill (capped desiredAmounts capacities)
    (total - ((capped desiredAmounts capacities).map Prod.fst).sum)

theorem distributeLocalDemoCapitalWithinCapacities_eq (h : Routed total basisPoints capacities) :
    ∃ desiredAmounts, Apportioned total basisPoints 10000 desiredAmounts ∧
      distributeLocalDemoCapitalWithinCapacities total basisPoints capacities =
        if 0 < (filling total desiredAmounts capacities).2 then
          .error .noMatchingYieldOpportunities
        else .ok (filling total desiredAmounts capacities).1 := by
  obtain ⟨desiredAmounts, hdesired, happortioned⟩ :=
    (distribute_apportions total basisPoints).1 ⟨h.total_nonneg, h.weights, h.weights_sum⟩
  refine ⟨desiredAmounts, happortioned, ?_⟩
  have hvalid : ¬(total < 0 ∨ capacities.length ≠ basisPoints.length ∨ capacities.length < 1 ∨
      2 < capacities.length ∨ ∃ capacity ∈ capacities, capacity < 0) := by
    simp only [not_or, not_lt, not_exists, not_and, not_not]
    exact ⟨h.total_nonneg, h.same_length, h.length_pos, h.length_le, h.capacities_nonneg⟩
  rw [distributeLocalDemoCapitalWithinCapacities, failWhen, if_neg hvalid, except_ok_bind,
    hdesired, except_ok_bind, filling,
    fst_capped (happortioned.length.trans h.same_length.symm)]
  exact failWhen_then _ _ _

/-- Filling up to the capacities finds room for the total exactly when there is room. -/
theorem fill_capped (h : Routed total basisPoints capacities)
    (hdesired : Apportioned total basisPoints 10000 desiredAmounts) :
    (total ≤ capacities.sum → ¬0 < (filling total desiredAmounts capacities).2 ∧
        WithinCapacities total basisPoints capacities
          (filling total desiredAmounts capacities).1) ∧
      (capacities.sum < total → 0 < (filling total desiredAmounts capacities).2) := by
  have hlength := hdesired.length.trans h.same_length.symm
  have hroom := sum_fst_capped_le hlength
  rw [hdesired.sum] at hroom
  obtain ⟨hwithin, hsum, hleft, hfull⟩ :=
    fill_spec (fun p hp => mem_capped hp) (sub_nonneg.mpr hroom)
  rw [← filling] at hwithin hsum hleft hfull
  generalize filling total desiredAmounts capacities = filled at *
  rw [add_sub_cancel] at hsum
  rw [snd_capped hlength] at hfull
  constructor
  · intro hle
    have hnone : ¬0 < filled.2 := by
      intro hover
      rw [hfull hover] at hsum
      linarith
    have hat : ∀ (i : Nat) (amount desired capacity : Int), filled.1[i]? = some amount →
        desiredAmounts[i]? = some desired → capacities[i]? = some capacity →
          min desired capacity ≤ amount ∧ amount ≤ capacity :=
      fun i amount desired capacity hamount hd hc =>
        forall₂_getElem? hwithin (getElem?_capped hd hc) hamount
    refine ⟨hnone, ?_, by linarith, ?_, desiredAmounts, hdesired, ?_⟩
    · rw [← hwithin.length_eq, ← List.length_map (f := Prod.snd), snd_capped hlength]
    · intro i amount capacity hamount hc
      obtain ⟨hi, -⟩ := List.getElem?_eq_some_iff.mp hc
      obtain ⟨desired, hd⟩ : ∃ desired, desiredAmounts[i]? = some desired :=
        ⟨_, List.getElem?_eq_getElem (hlength.symm ▸ hi)⟩
      obtain ⟨basisPoint, hw⟩ : ∃ basisPoint, basisPoints[i]? = some basisPoint :=
        ⟨_, List.getElem?_eq_getElem (h.same_length ▸ hi)⟩
      obtain ⟨hlow, hhigh⟩ := hat i amount desired capacity hamount hd hc
      have hnonneg := (hdesired.share i _ _ hw hd).1
      have hcapacity := h.capacities_nonneg capacity (List.mem_of_getElem? hc)
      exact ⟨(le_min hnonneg hcapacity).trans hlow, hhigh⟩
    · exact fun i amount desired capacity hamount hd hc =>
        (hat i amount desired capacity hamount hd hc).1
  · intro hlt
    have hover : filled.1.sum ≤ capacities.sum := by
      rw [← snd_capped hlength]
      apply List.Forall₂.sum_le_sum
      rw [List.forall₂_map_right_iff]
      exact hwithin.flip.imp fun _ _ hp => hp.2
    linarith

theorem fits_of_room (h : Routed total basisPoints capacities) (hle : total ≤ capacities.sum) :
    ∃ amounts,
      distributeLocalDemoCapitalWithinCapacities total basisPoints capacities = .ok amounts ∧
        WithinCapacities total basisPoints capacities amounts := by
  obtain ⟨desiredAmounts, hdesired, heq⟩ := distributeLocalDemoCapitalWithinCapacities_eq h
  obtain ⟨hnone, hwithin⟩ := (fill_capped h hdesired).1 hle
  refine ⟨_, ?_, hwithin⟩
  rw [heq, if_neg hnone]

theorem noMatching_of_shortage (h : Routed total basisPoints capacities)
    (hlt : capacities.sum < total) :
    distributeLocalDemoCapitalWithinCapacities total basisPoints capacities =
      .error .noMatchingYieldOpportunities := by
  obtain ⟨desiredAmounts, hdesired, heq⟩ := distributeLocalDemoCapitalWithinCapacities_eq h
  rw [heq, if_pos ((fill_capped h hdesired).2 hlt)]

theorem refused_of_not_routed (h : ¬Routed total basisPoints capacities) : ∃ failure,
    distributeLocalDemoCapitalWithinCapacities total basisPoints capacities = .error failure ∧
      failure ≠ .noMatchingYieldOpportunities := by
  by_cases hvalid : total < 0 ∨ capacities.length ≠ basisPoints.length ∨ capacities.length < 1 ∨
      2 < capacities.length ∨ ∃ capacity ∈ capacities, capacity < 0
  · refine ⟨.invalidOpportunityCapacities, ?_, by decide⟩
    rw [distributeLocalDemoCapitalWithinCapacities, failWhen, if_pos hvalid]
    rfl
  · refine ⟨.invalidAllocationWeights, ?_, by decide⟩
    rw [distributeLocalDemoCapitalWithinCapacities, failWhen, if_neg hvalid, except_ok_bind]
    simp only [not_or, not_lt, not_exists, not_and, not_not] at hvalid
    obtain ⟨htotal, hsame, hpos, hle, hcapacities⟩ := hvalid
    rw [(distribute_apportions total basisPoints).2 fun hweights =>
      h ⟨htotal, hsame, hpos, hle, hcapacities, hweights.2.1, hweights.2.2⟩]
    rfl

/-- The capacities are enough exactly when they hold the total, and no other failure says so. -/
theorem distributeLocalDemoCapitalWithinCapacities_fits (total : Int)
    (basisPoints capacities : List Int) :
    (Routed total basisPoints capacities → total ≤ capacities.sum → ∃ amounts,
        distributeLocalDemoCapitalWithinCapacities total basisPoints capacities = .ok amounts ∧
          WithinCapacities total basisPoints capacities amounts) ∧
      (Routed total basisPoints capacities → capacities.sum < total →
        distributeLocalDemoCapitalWithinCapacities total basisPoints capacities =
          .error .noMatchingYieldOpportunities) ∧
      (¬Routed total basisPoints capacities → ∃ failure,
        distributeLocalDemoCapitalWithinCapacities total basisPoints capacities = .error failure ∧
          failure ≠ .noMatchingYieldOpportunities) :=
  ⟨fits_of_room, noMatching_of_shortage, refused_of_not_routed⟩

theorem sampleCapacities_routed {total : Int} (h : 0 ≤ total) :
    Routed total [6000, 4000] [50000, 65000] where
  total_nonneg := h
  same_length := rfl
  length_pos := by decide
  length_le := by decide
  capacities_nonneg := by decide
  weights := by decide
  weights_sum := rfl

/-- Two capacities hold one total, of which the first cannot take its share, and not another. -/
theorem sampleCapacities_fit :
    (∃ amounts, distributeLocalDemoCapitalWithinCapacities 100000 [6000, 4000] [50000, 65000] =
      .ok amounts ∧ WithinCapacities 100000 [6000, 4000] [50000, 65000] amounts) ∧
    distributeLocalDemoCapitalWithinCapacities 115001 [6000, 4000] [50000, 65000] =
      .error .noMatchingYieldOpportunities :=
  ⟨(distributeLocalDemoCapitalWithinCapacities_fits 100000 [6000, 4000] [50000, 65000]).1
      (sampleCapacities_routed (by decide)) (by decide),
    (distributeLocalDemoCapitalWithinCapacities_fits 115001 [6000, 4000] [50000, 65000]).2.1
      (sampleCapacities_routed (by decide)) (by decide)⟩

end Filling

section Routing

inductive LocalDemoEcosystem where
  | evm
  | solana
  deriving DecidableEq

structure RoutedOpportunity extends LocalDemoYieldOpportunitySummary where
  ecosystem : LocalDemoEcosystem
  exitLiquidity : Int
  tvl : Int

structure EcosystemCapital where
  ecosystem : LocalDemoEcosystem
  amountUsdMinor : Int

def RoutedOpportunity.capacity (opportunity : RoutedOpportunity) : Int :=
  if opportunity.exitLiquidity < opportunity.tvl then opportunity.exitLiquidity
  else opportunity.tvl

def requiredCapitalBuckets (total liquidReserveBasisPoints : Int) : Except Failure (Int × Int) := do
  let amounts ← distribute total [liquidReserveBasisPoints, 10000 - liquidReserveBasisPoints]
  let liquidReserve ← orFail amounts[0]? .missingCapitalBucket
  let managedYield ← orFail amounts[1]? .missingCapitalBucket
  return (liquidReserve, managedYield)

def apportionAcrossEcosystems (total : Int) (sourceCapital : List EcosystemCapital) :
    Except Failure (List EcosystemCapital) := do
  let amounts ← distributeByAmounts total (sourceCapital.map EcosystemCapital.amountUsdMinor)
  return (sourceCapital.zip amounts).map fun p => ⟨p.1.ecosystem, p.2⟩

/-- What one ecosystem's capital is put into. -/
def positionsOf (opportunities : List RoutedOpportunity) (source : EcosystemCapital) :
    Except Failure (List InternalYieldPosition) := do
  let candidates := opportunities.filter fun opportunity =>
    opportunity.ecosystem = source.ecosystem
  if source.amountUsdMinor = 0 then return []
  failWhen (candidates.length < 1 ∨ 2 < candidates.length) .invalidOpportunitySelection
  let weights := if candidates.length = 1 then [10000] else [6000, 4000]
  let amounts ← distributeLocalDemoCapitalWithinCapacities source.amountUsdMinor weights
    (candidates.map RoutedOpportunity.capacity)
  return (candidates.zip amounts).map fun p => ⟨p.1.toLocalDemoYieldOpportunitySummary, p.2⟩

def positionsForCapital (opportunities : List RoutedOpportunity)
    (managedCapitalByEcosystem : List EcosystemCapital) :
    Except Failure (List InternalYieldPosition) := do
  let positions ← managedCapitalByEcosystem.mapM (positionsOf opportunities)
  return positions.flatten

variable {total : Int} {basisPoints capacities amounts : List Int}

theorem within_of_ok (h : distributeLocalDemoCapitalWithinCapacities total basisPoints capacities =
    .ok amounts) : WithinCapacities total basisPoints capacities amounts := by
  by_cases hrouted : Routed total basisPoints capacities
  · obtain hle | hlt := le_or_gt total capacities.sum
    · obtain ⟨amounts', hok, hwithin⟩ := fits_of_room hrouted hle
      obtain rfl := Except.ok.inj (h.symm.trans hok)
      exact hwithin
    · cases h.symm.trans (noMatching_of_shortage hrouted hlt)
  · obtain ⟨failure, hfailure, -⟩ := refused_of_not_routed hrouted
    cases h.symm.trans hfailure

variable {opportunities : List RoutedOpportunity} {source : EcosystemCapital}
  {sources : List EcosystemCapital} {positions : List InternalYieldPosition}

/-- A position is in an opportunity of the ecosystem, which can take all of it and let it out. -/
def IsRouted (opportunities : List RoutedOpportunity) (ecosystem : LocalDemoEcosystem)
    (position : InternalYieldPosition) : Prop :=
  0 ≤ position.amountUsdMinor ∧ ∃ opportunity ∈ opportunities,
    opportunity.ecosystem = ecosystem ∧
      opportunity.toLocalDemoYieldOpportunitySummary = position.opportunity ∧
      position.amountUsdMinor ≤ opportunity.exitLiquidity ∧
      position.amountUsdMinor ≤ opportunity.tvl

theorem positionsOf_ok (h : positionsOf opportunities source = .ok positions) :
    (positions.map (·.amountUsdMinor)).sum = source.amountUsdMinor ∧
      ∀ position ∈ positions, source.amountUsdMinor ≠ 0 ∧
        IsRouted opportunities source.ecosystem position := by
  simp only [positionsOf] at h
  by_cases hzero : source.amountUsdMinor = 0
  · rw [if_pos hzero] at h
    obtain rfl := except_pure_ok.mp h
    exact ⟨hzero.symm, fun _ hmem => absurd hmem List.not_mem_nil⟩
  · rw [if_neg hzero] at h
    obtain ⟨_, -, h⟩ := except_bind_ok.mp h
    obtain ⟨amounts, hamounts, h⟩ := except_bind_ok.mp h
    obtain rfl := except_pure_ok.mp h
    have hwithin := within_of_ok hamounts
    have hlength := hwithin.length
    rw [List.length_map] at hlength
    constructor
    · rw [List.map_map, ← hwithin.sum]
      exact congrArg List.sum (List.map_snd_zip hlength.le)
    · intro position hposition
      obtain ⟨⟨opportunity, amount⟩, hmem, rfl⟩ := List.mem_map.mp hposition
      obtain ⟨i, hi⟩ := List.mem_iff_getElem?.mp hmem
      obtain ⟨hopportunity, hamount⟩ := List.getElem?_zip_eq_some.mp hi
      have hcapacity := congrArg (Option.map RoutedOpportunity.capacity) hopportunity
      rw [← List.getElem?_map, Option.map_some] at hcapacity
      obtain ⟨hnonneg, hle⟩ := hwithin.within i amount _ hamount hcapacity
      obtain ⟨hlisted, hecosystem⟩ := List.mem_filter.mp (List.mem_of_getElem? hopportunity)
      refine ⟨hzero, hnonneg, opportunity, hlisted, of_decide_eq_true hecosystem, rfl, ?_⟩
      rw [RoutedOpportunity.capacity] at hle
      split at hle <;> constructor <;> simp only at * <;> omega

theorem flatten_positions {parts : List (List InternalYieldPosition)}
    (h : List.Forall₂ (fun source part => positionsOf opportunities source = .ok part) sources
      parts) :
    (parts.flatten.map (·.amountUsdMinor)).sum = (sources.map (·.amountUsdMinor)).sum ∧
      ∀ position ∈ parts.flatten, ∃ source ∈ sources, source.amountUsdMinor ≠ 0 ∧
        IsRouted opportunities source.ecosystem position := by
  induction h with
  | nil => exact ⟨rfl, fun _ hmem => absurd hmem List.not_mem_nil⟩
  | @cons source part sources parts hpart _ ih =>
    obtain ⟨hsum, hrouted⟩ := positionsOf_ok hpart
    obtain ⟨hsums, hrouteds⟩ := ih
    constructor
    · rw [List.flatten_cons, List.map_append, List.sum_append, hsum, hsums, List.map_cons,
        List.sum_cons]
    · intro position hposition
      rw [List.flatten_cons, List.mem_append] at hposition
      obtain hmem | hmem := hposition
      · exact ⟨source, List.mem_cons_self, hrouted position hmem⟩
      · obtain ⟨source', hsource', hrouted'⟩ := hrouteds position hmem
        exact ⟨source', List.mem_cons_of_mem _ hsource', hrouted'⟩

/-- No capital is lost or made up on its way into positions, and none is put where it does not
fit. -/
theorem positionsForCapital_conserves
    (h : positionsForCapital opportunities sources = .ok positions) :
    (positions.map (·.amountUsdMinor)).sum = (sources.map (·.amountUsdMinor)).sum ∧
      ∀ position ∈ positions, ∃ source ∈ sources, source.amountUsdMinor ≠ 0 ∧
        IsRouted opportunities source.ecosystem position := by
  obtain ⟨parts, hparts, h⟩ := except_bind_ok.mp h
  obtain rfl := except_pure_ok.mp h
  exact flatten_positions (except_mapM_ok.mp hparts)

variable {liquidReserveBasisPoints liquidReserve managedYield : Int}
  {sourceCapital : List EcosystemCapital}

theorem requiredCapitalBuckets_ok
    (h : requiredCapitalBuckets total liquidReserveBasisPoints =
      .ok (liquidReserve, managedYield)) :
    liquidReserve + managedYield = total ∧ 0 ≤ liquidReserve ∧ 0 ≤ managedYield ∧
      |liquidReserve * 10000 - total * liquidReserveBasisPoints| < 10000 := by
  obtain ⟨amounts, hamounts, h⟩ := except_bind_ok.mp h
  obtain ⟨reserve, hreserve, h⟩ := except_bind_ok.mp h
  obtain ⟨managed, hmanaged, h⟩ := except_bind_ok.mp h
  obtain ⟨rfl, rfl⟩ := Prod.mk.inj (except_pure_ok.mp h)
  have happortioned := distribute_ok hamounts
  have hfirst := happortioned.share 0 _ reserve rfl (orFail_ok.mp hreserve)
  have hsecond := happortioned.share 1 _ managed rfl (orFail_ok.mp hmanaged)
  refine ⟨?_, hfirst.1, hsecond.1, hfirst.2⟩
  obtain ⟨a, b, rfl⟩ := List.length_eq_two.mp happortioned.length
  obtain rfl : a = reserve := Option.some.inj (orFail_ok.mp hreserve)
  obtain rfl : b = managed := Option.some.inj (orFail_ok.mp hmanaged)
  rw [← happortioned.sum, List.sum_cons, List.sum_cons, List.sum_nil, add_zero]

theorem apportionAcrossEcosystems_ok
    (h : apportionAcrossEcosystems total sourceCapital = .ok sources) :
    (sources.map (·.amountUsdMinor)).sum = total ∧
      ∀ source ∈ sources, source.amountUsdMinor ≠ 0 → ∃ funded ∈ sourceCapital,
        funded.ecosystem = source.ecosystem ∧ 0 < funded.amountUsdMinor := by
  obtain ⟨amounts, hamounts, h⟩ := except_bind_ok.mp h
  obtain rfl := except_pure_ok.mp h
  obtain ⟨hlength, hsum⟩ := distributeByAmounts_ok hamounts
  rw [List.length_map] at hlength
  constructor
  · rw [List.map_map, ← hsum]
    exact congrArg List.sum (List.map_snd_zip hlength.le)
  · intro source hsource hne
    obtain ⟨⟨funded, amount⟩, hmem, rfl⟩ := List.mem_map.mp hsource
    obtain ⟨i, hi⟩ := List.mem_iff_getElem?.mp hmem
    obtain ⟨hfunded, hamount⟩ := List.getElem?_zip_eq_some.mp hi
    have hweight := congrArg (Option.map EcosystemCapital.amountUsdMinor) hfunded
    rw [← List.getElem?_map, Option.map_some] at hweight
    exact ⟨funded, List.mem_of_getElem? hfunded, rfl,
      weight_pos_of_distributed hamounts hweight hamount hne⟩

/-- Split into a reserve and ecosystems, and put into positions, all of the capital is accounted
for: the reserve and the positions add up to it, no position is larger than its opportunity, and
none is in an ecosystem without capital. -/
theorem capital_accounted
    (hbuckets : requiredCapitalBuckets total liquidReserveBasisPoints =
      .ok (liquidReserve, managedYield))
    (hsources : apportionAcrossEcosystems managedYield sourceCapital = .ok sources)
    (hpositions : positionsForCapital opportunities sources = .ok positions) :
    liquidReserve + (positions.map (·.amountUsdMinor)).sum = total ∧
      |liquidReserve * 10000 - total * liquidReserveBasisPoints| < 10000 ∧
      ∀ position ∈ positions, ∃ source ∈ sourceCapital, 0 < source.amountUsdMinor ∧
        IsRouted opportunities source.ecosystem position := by
  obtain ⟨hsplit, -, -, hreserve⟩ := requiredCapitalBuckets_ok hbuckets
  obtain ⟨hmanaged, hfunded⟩ := apportionAcrossEcosystems_ok hsources
  obtain ⟨hsum, hrouted⟩ := positionsForCapital_conserves hpositions
  refine ⟨by rw [hsum, hmanaged, hsplit], hreserve, fun position hposition => ?_⟩
  obtain ⟨source, hsource, hne, hroute⟩ := hrouted position hposition
  obtain ⟨funded, hmem, heq, hpos⟩ := hfunded source hsource hne
  exact ⟨funded, hmem, hpos, heq ▸ hroute⟩

/-- Two routes of one ecosystem, the first of which is nearly full, and one of the other. -/
def sampleOpportunities : List RoutedOpportunity :=
  [⟨⟨"0.0454"⟩, .evm, 50000, 900000⟩, ⟨⟨"0.04"⟩, .evm, 70000, 65000⟩,
    ⟨⟨"0.05"⟩, .solana, 45000, 41000⟩]

def sampleCapital : List EcosystemCapital := [⟨.evm, 250000⟩, ⟨.solana, 100001⟩]

def sampleManaged : List EcosystemCapital := [⟨.evm, 100000⟩, ⟨.solana, 40001⟩]

def sampleRouting : List InternalYieldPosition :=
  [⟨⟨"0.0454"⟩, 50000⟩, ⟨⟨"0.04"⟩, 50000⟩, ⟨⟨"0.05"⟩, 40001⟩]

theorem sampleRouting_accounted :
    positionsForCapital sampleOpportunities sampleManaged = .ok sampleRouting ∧
      60000 + (sampleRouting.map (·.amountUsdMinor)).sum = 200001 ∧
      |(60000 : Int) * 10000 - 200001 * 3000| < 10000 ∧
      ∀ position ∈ sampleRouting, ∃ source ∈ sampleCapital, 0 < source.amountUsdMinor ∧
        IsRouted sampleOpportunities source.ecosystem position := by
  have hbuckets : requiredCapitalBuckets 200001 3000 = .ok (60000, 140001) := rfl
  have hsources : apportionAcrossEcosystems 140001 sampleCapital = .ok sampleManaged := rfl
  have hpositions : positionsForCapital sampleOpportunities sampleManaged = .ok sampleRouting := rfl
  exact ⟨hpositions, capital_accounted hbuckets hsources hpositions⟩

end Routing

end CryptoLending.LocalDemo.CapitalDistribution
