import Mathlib
import CryptoLending.Lib.Sorting

namespace CryptoLending.Lib.Apportionment

open Sorting

section Handing

/-- One more for each index in turn, as long as anything is left; nothing if an index is missing. -/
def handOut : List Nat → List Int → Int → Option (List Int × Int)
  | [], amounts, undistributed => some (amounts, undistributed)
  | index :: rest, amounts, undistributed =>
    if undistributed = 0 then some (amounts, undistributed)
    else do
      let amount ← amounts[index]?
      handOut rest (amounts.set index (amount + 1)) (undistributed - 1)

/-- What some indices get of one more each. -/
def raised (indices : List Nat) (amounts : List Int) : List Int :=
  amounts.mapIdx fun i amount => if i ∈ indices then amount + 1 else amount

variable {indices : List Nat} {amounts : List Int}

theorem raised_nil (amounts : List Int) : raised [] amounts = amounts := by
  apply List.ext_getElem?
  intro i
  simp [raised, List.getElem?_mapIdx]

theorem raised_cons {index : Nat} {amount : Int} (hnot : index ∉ indices)
    (h : amounts[index]? = some amount) :
    raised indices (amounts.set index (amount + 1)) = raised (index :: indices) amounts := by
  apply List.ext_getElem?
  intro i
  simp only [raised, List.getElem?_mapIdx, List.getElem?_set, List.mem_cons]
  by_cases hi : index = i
  · subst hi
    obtain ⟨hlt, rfl⟩ := List.getElem?_eq_some_iff.mp h
    simp [hlt, hnot]
  · simp [hi, Ne.symm hi]

theorem length_raised : (raised indices amounts).length = amounts.length := List.length_mapIdx

theorem sum_raised (hnodup : indices.Nodup) (hlt : ∀ i ∈ indices, i < amounts.length) :
    (raised indices amounts).sum = amounts.sum + indices.length := by
  induction indices generalizing amounts with
  | nil => simp [raised_nil]
  | cons index indices ih =>
    obtain ⟨hnot, hrest⟩ := List.nodup_cons.mp hnodup
    have hindex := hlt index List.mem_cons_self
    have hget := List.getElem?_eq_getElem hindex
    rw [← raised_cons hnot hget, ih hrest]
    · rw [List.sum_set', dif_pos hindex, List.length_cons, Nat.cast_add, Nat.cast_one]
      ring
    · intro i hi
      rw [List.length_set]
      exact hlt i (List.mem_cons_of_mem _ hi)

theorem handOut_eq (hnodup : indices.Nodup) (hlt : ∀ i ∈ indices, i < amounts.length) {n : Nat}
    (hn : n ≤ indices.length) :
    handOut indices amounts n = some (raised (indices.take n) amounts, 0) := by
  induction indices generalizing amounts n with
  | nil =>
    obtain rfl := Nat.le_zero.mp hn
    rw [List.take_nil, raised_nil]
    rfl
  | cons index indices ih =>
    obtain ⟨hnot, hrest⟩ := List.nodup_cons.mp hnodup
    cases n with
    | zero =>
      rw [List.take_zero, raised_nil]
      rfl
    | succ n =>
      obtain ⟨amount, hget⟩ : ∃ amount, amounts[index]? = some amount :=
        ⟨_, List.getElem?_eq_getElem (hlt index List.mem_cons_self)⟩
      have hset : ∀ i ∈ indices, i < (amounts.set index (amount + 1)).length := by
        intro i hi
        rw [List.length_set]
        exact hlt i (List.mem_cons_of_mem _ hi)
      have hnext := ih hrest hset (Nat.le_of_succ_le_succ hn)
      rw [raised_cons (fun hmem => hnot (List.mem_of_mem_take hmem)) hget] at hnext
      have hcast : ((n + 1 : Nat) : Int) - 1 = n := by omega
      rw [handOut, if_neg (by omega), hget, Option.bind_eq_bind, Option.bind_some, hcast,
        List.take_succ_cons, hnext]

end Handing

section Sharing

variable (total : Int) (weights : List Int) (denominator : Int)

def sharesOf : List Int := weights.map fun weight => (total * weight).tdiv denominator

def remaindersOf : List (Nat × Int) :=
  weights.mapIdx fun index weight => (index, (total * weight).tmod denominator)

/-- The larger remainder comes first, or else the earlier index. -/
def compareRemainders (left right : Nat × Int) : Ordering :=
  if left.2 = right.2 then compare left.1 right.1
  else if right.2 < left.2 then .lt
  else .gt

/-- The indices in the order in which they get one more. -/
def remainderOrder : List Nat :=
  (sortBy compareRemainders (remaindersOf total weights denominator)).map Prod.fst

/-- The largest-remainder method: the shares rounded down, and one more each for the largest
remainders, as long as anything is left; nothing if that does not come out even. -/
def apportion : Option (List Int) := do
  let amounts := sharesOf total weights denominator
  let (amounts, undistributed) ← handOut (remainderOrder total weights denominator) amounts
    (total - amounts.sum)
  if undistributed = 0 then some amounts else none

variable {total weights denominator}

theorem ranksBy_remainders (l : List (Nat × Int)) :
    RanksBy compareRemainders (fun p => toLex (-p.2, p.1)) l := by
  intro a _ b _
  rw [compareRemainders, Prod.Lex.toLex_le_toLex]
  split
  · rename_i h
    rw [h]
    simp [compare_gt_iff_gt]
  · rename_i h
    split
    · rename_i hlt
      simp [hlt]
    · rename_i hge
      have hgt : a.2 < b.2 := lt_of_le_of_ne (not_lt.mp hge) h
      simp [h, hgt.le]

theorem mem_remaindersOf {p : Nat × Int} : p ∈ remaindersOf total weights denominator ↔
    ∃ weight, weights[p.1]? = some weight ∧ p.2 = (total * weight).tmod denominator := by
  rw [remaindersOf, List.mem_mapIdx]
  constructor
  · rintro ⟨i, hi, rfl⟩
    exact ⟨weights[i], List.getElem?_eq_getElem hi, rfl⟩
  · rintro ⟨weight, hweight, hp⟩
    obtain ⟨hi, rfl⟩ := List.getElem?_eq_some_iff.mp hweight
    exact ⟨p.1, hi, Prod.ext rfl hp.symm⟩

theorem fst_remaindersOf :
    (remaindersOf total weights denominator).map Prod.fst = List.range weights.length := by
  apply List.ext_getElem
  · simp [remaindersOf]
  · intro i _ _
    simp [remaindersOf]

theorem snd_remaindersOf : (remaindersOf total weights denominator).map Prod.snd =
    weights.map fun weight => (total * weight).tmod denominator := by
  apply List.ext_getElem
  · simp [remaindersOf]
  · intro i _ _
    simp [remaindersOf]

theorem sum_sharesOf : denominator * (sharesOf total weights denominator).sum +
    (weights.map fun weight => (total * weight).tmod denominator).sum = total * weights.sum := by
  induction weights with
  | nil => simp [sharesOf]
  | cons weight weights ih =>
    have hdivision := Int.mul_tdiv_add_tmod (total * weight) denominator
    simp only [sharesOf, List.map_cons, List.sum_cons] at ih ⊢
    linarith [mul_add denominator ((total * weight).tdiv denominator)
      (weights.map fun weight => (total * weight).tdiv denominator).sum,
      mul_add total weight weights.sum]

variable (total weights denominator) in
theorem remainderOrder_perm :
    (remainderOrder total weights denominator).Perm (List.range weights.length) := by
  rw [← fst_remaindersOf]
  exact (sortBy_perm _ _).map Prod.fst

end Sharing

section Results

/-- The amounts add up to the total, each is within one unit of its exact share, and whoever is
rounded up has the larger remainder, or else the earlier index, than who is not. -/
structure Apportioned (total : Int) (weights : List Int) (denominator : Int) (amounts : List Int) :
    Prop where
  length : amounts.length = weights.length
  sum : amounts.sum = total
  share : ∀ (i : Nat) (weight amount : Int), weights[i]? = some weight → amounts[i]? = some amount →
    0 ≤ amount ∧ |amount * denominator - total * weight| < denominator
  fair : ∀ (i j : Nat) (weight weight' amount amount' : Int), weights[i]? = some weight →
    weights[j]? = some weight' → amounts[i]? = some amount → amounts[j]? = some amount' →
    total * weight < amount * denominator → amount' * denominator < total * weight' →
      total * weight' % denominator < total * weight % denominator ∨
        total * weight' % denominator = total * weight % denominator ∧ i < j

variable {total : Int} {weights : List Int} {denominator : Int}

/-- What is left after rounding down is less than a unit for each weight. -/
theorem sum_bounds {l : List Int} (hl : ∀ r ∈ l, 0 ≤ r ∧ r < denominator) :
    0 ≤ l.sum ∧ l.sum ≤ l.length * (denominator - 1) := by
  induction l with
  | nil => simp
  | cons r l ih =>
    obtain ⟨hnonneg, hle⟩ := ih fun r hr => hl r (List.mem_cons_of_mem _ hr)
    obtain ⟨hr, hlt⟩ := hl r List.mem_cons_self
    rw [List.sum_cons, List.length_cons, Nat.cast_add, Nat.cast_one]
    constructor
    · linarith
    · linarith [add_mul (l.length : Int) 1 (denominator - 1)]

/-- Only what has a remainder gets one more. -/
theorem taken_pos {l : List (Nat × Int)} {n : Nat} (hl : ∀ p ∈ l, 0 ≤ p.2 ∧ p.2 < denominator)
    (hsorted : l.Pairwise fun a b => b.2 ≤ a.2) (hsum : (l.map Prod.snd).sum = denominator * n) :
    ∀ p ∈ l.take n, 0 < p.2 := by
  intro p hp
  by_contra hnot
  have hbounds : ∀ {m : List (Nat × Int)}, (∀ p ∈ m, 0 ≤ p.2 ∧ p.2 < denominator) →
      ∀ r ∈ m.map Prod.snd, 0 ≤ r ∧ r < denominator := by
    intro m hm r hr
    obtain ⟨p, hp, rfl⟩ := List.mem_map.mp hr
    exact hm p hp
  rw [← List.take_append_drop n l, List.pairwise_append] at hsorted
  have hdrop : ((l.drop n).map Prod.snd).sum ≤ 0 := by
    have hle := List.sum_le_card_nsmul ((l.drop n).map Prod.snd) 0 fun r hr => by
      obtain ⟨q, hq, rfl⟩ := List.mem_map.mp hr
      exact (hsorted.2.2 p hp q hq).trans (not_lt.mp hnot)
    rwa [nsmul_zero] at hle
  have htake := (sum_bounds (hbounds (m := l.take n) fun p hp => hl p (List.mem_of_mem_take hp))).2
  have hlength : ((l.take n).map Prod.snd).length ≤ n := by
    rw [List.length_map]
    exact List.length_take_le n l
  have hpos : 0 < denominator := (hl p (List.mem_of_mem_take hp)).1.trans_lt
    (hl p (List.mem_of_mem_take hp)).2
  have hn : 0 < n := by
    cases n with
    | zero => simp at hp
    | succ n => exact Nat.succ_pos n
  rw [← List.take_append_drop n l, List.map_append, List.sum_append] at hsum
  have hle : (((l.take n).map Prod.snd).length : Int) * (denominator - 1) ≤
      n * (denominator - 1) :=
    mul_le_mul_of_nonneg_right (by exact_mod_cast hlength) (by omega)
  have hcast : (0 : Int) < n := by exact_mod_cast hn
  linarith [mul_sub (n : Int) denominator 1, mul_comm (n : Int) denominator]

variable (total weights denominator) in
theorem pairwise_remainders : (sortBy compareRemainders
    (remaindersOf total weights denominator)).Pairwise
      fun a b => b.2 < a.2 ∨ b.2 = a.2 ∧ a.1 ≤ b.1 := by
  refine (ranksBy_remainders _).pairwise.imp ?_
  intro a b h
  rw [Prod.Lex.toLex_le_toLex] at h
  obtain hlt | ⟨heq, hle⟩ := h
  · exact .inl (neg_lt_neg_iff.mp hlt)
  · exact .inr ⟨(neg_inj.mp heq).symm, hle⟩

/-- Where the weights add up to the denominator, the method never fails. -/
theorem apportion_eq (htotal : 0 ≤ total) (hweights : ∀ weight ∈ weights, 0 ≤ weight)
    (hsum : weights.sum = denominator) (hd : 0 < denominator) :
    ∃ n : Nat, apportion total weights denominator = some (raised
        ((remainderOrder total weights denominator).take n) (sharesOf total weights denominator)) ∧
      (raised ((remainderOrder total weights denominator).take n)
        (sharesOf total weights denominator)).sum = total ∧
      ((remaindersOf total weights denominator).map Prod.snd).sum = denominator * n := by
  have hrem : ∀ r ∈ (remaindersOf total weights denominator).map Prod.snd,
      0 ≤ r ∧ r < denominator := by
    rw [snd_remaindersOf]
    intro r hr
    obtain ⟨weight, hweight, rfl⟩ := List.mem_map.mp hr
    exact ⟨Int.tmod_nonneg _ (mul_nonneg htotal (hweights weight hweight)),
      Int.tmod_lt_of_pos _ hd⟩
  obtain ⟨hnonneg, hle⟩ := sum_bounds hrem
  have hdivision : denominator * (sharesOf total weights denominator).sum +
      ((remaindersOf total weights denominator).map Prod.snd).sum = total * denominator := by
    rw [snd_remaindersOf, sum_sharesOf, hsum]
  have hleft : ((remaindersOf total weights denominator).map Prod.snd).sum =
      denominator * (total - (sharesOf total weights denominator).sum) := by
    linarith [mul_sub denominator total (sharesOf total weights denominator).sum,
      mul_comm total denominator]
  obtain ⟨n, hn⟩ : ∃ n : Nat, total - (sharesOf total weights denominator).sum = n := by
    apply Int.eq_ofNat_of_zero_le
    rw [hleft] at hnonneg
    exact nonneg_of_mul_nonneg_right hnonneg hd
  rw [hn] at hleft
  have hperm := remainderOrder_perm total weights denominator
  have hlength : (remainderOrder total weights denominator).length = weights.length := by
    rw [hperm.length_eq, List.length_range]
  have hbound : n ≤ (remainderOrder total weights denominator).length := by
    rw [hlength]
    rw [hleft, snd_remaindersOf, List.length_map] at hle
    by_contra hlt
    have hcast : (weights.length : Int) + 1 ≤ n := by exact_mod_cast not_le.mp hlt
    have hmul := mul_le_mul_of_nonneg_left hcast hd.le
    linarith [mul_sub (weights.length : Int) denominator 1,
      mul_add denominator (weights.length : Int) 1, mul_comm (weights.length : Int) denominator]
  have hnodup : (remainderOrder total weights denominator).Nodup :=
    hperm.nodup_iff.mpr List.nodup_range
  have hindex : ∀ i ∈ remainderOrder total weights denominator,
      i < (sharesOf total weights denominator).length := by
    intro i hi
    rw [sharesOf, List.length_map]
    exact List.mem_range.mp (hperm.mem_iff.mp hi)
  refine ⟨n, ?_, ?_, hleft⟩
  · simp only [apportion]
    rw [hn, handOut_eq hnodup hindex hbound]
    rfl
  · rw [sum_raised (hnodup.sublist (List.take_sublist _ _))
      fun i hi => hindex i (List.mem_of_mem_take hi), List.length_take_of_le hbound, ← hn]
    omega

/-- The largest-remainder method shares out its total. -/
theorem apportion_spec (htotal : 0 ≤ total) (hweights : ∀ weight ∈ weights, 0 ≤ weight)
    (hsum : weights.sum = denominator) (hd : 0 < denominator) :
    ∃ amounts, apportion total weights denominator = some amounts ∧
      Apportioned total weights denominator amounts := by
  obtain ⟨n, heq, htotalled, hleft⟩ := apportion_eq htotal hweights hsum hd
  let chosen := (remainderOrder total weights denominator).take n
  have hquotient : ∀ {i : Nat} {weight amount : Int}, weights[i]? = some weight →
      (raised chosen (sharesOf total weights denominator))[i]? = some amount →
        amount = total * weight / denominator + if i ∈ chosen then 1 else 0 := by
    intro i weight amount hweight hamount
    have hnonneg := mul_nonneg htotal (hweights weight (List.mem_of_getElem? hweight))
    rw [raised, sharesOf, List.getElem?_mapIdx, List.getElem?_map, hweight, Option.map_some,
      Option.map_some, Option.some.injEq, Int.tdiv_eq_ediv_of_nonneg hnonneg] at hamount
    rw [← hamount]
    split
    · rfl
    · rw [add_zero]
  have hremainder : ∀ p ∈ remaindersOf total weights denominator, ∃ weight,
      weights[p.1]? = some weight ∧ p.2 = total * weight % denominator := by
    intro p hp
    obtain ⟨weight, hweight, hp⟩ := mem_remaindersOf.mp hp
    have hnonneg := mul_nonneg htotal (hweights weight (List.mem_of_getElem? hweight))
    exact ⟨weight, hweight, hp.trans (Int.tmod_eq_emod_of_nonneg hnonneg)⟩
  let sorted := sortBy compareRemainders (remaindersOf total weights denominator)
  have hsorted := pairwise_remainders total weights denominator
  have hbounds : ∀ p ∈ sorted, 0 ≤ p.2 ∧ p.2 < denominator := by
    intro p hp
    obtain ⟨weight, hweight, hp⟩ := hremainder p (mem_sortBy.mp hp)
    rw [hp]
    exact ⟨Int.emod_nonneg _ hd.ne', Int.emod_lt_of_pos _ hd⟩
  have hpositive : ∀ p ∈ sorted.take n, 0 < p.2 := by
    refine taken_pos hbounds (hsorted.imp fun h => h.elim le_of_lt fun h => h.1.le) ?_
    rw [((sortBy_perm _ _).map Prod.snd).sum_eq, hleft]
  have hchosen : ∀ {i : Nat} {weight : Int}, weights[i]? = some weight → i ∈ chosen →
      (i, total * weight % denominator) ∈ sorted.take n := by
    intro i weight hweight hi
    have hmem : i ∈ (sorted.take n).map Prod.fst := by
      rw [List.map_take]
      exact hi
    obtain ⟨p, hp, rfl⟩ := List.mem_map.mp hmem
    obtain ⟨weight', hweight', hp'⟩ := hremainder p (mem_sortBy.mp (List.mem_of_mem_take hp))
    obtain rfl := Option.some.inj (hweight.symm.trans hweight')
    rwa [← hp']
  have hdivision : ∀ weight : Int, denominator * (total * weight / denominator) +
      total * weight % denominator = total * weight ∧ 0 ≤ total * weight % denominator ∧
        total * weight % denominator < denominator := fun weight =>
    ⟨Int.mul_ediv_add_emod _ _, Int.emod_nonneg _ hd.ne', Int.emod_lt_of_pos _ hd⟩
  refine ⟨_, heq, ?_, htotalled, ?_, ?_⟩
  · rw [length_raised, sharesOf, List.length_map]
  · intro i weight amount hweight hamount
    have hnonneg : 0 ≤ total * weight / denominator :=
      Int.ediv_nonneg (mul_nonneg htotal (hweights weight (List.mem_of_getElem? hweight))) hd.le
    obtain ⟨hparts, hlow, hhigh⟩ := hdivision weight
    rw [hquotient hweight hamount, add_mul, mul_comm (total * weight / denominator), abs_lt]
    split
    · rename_i hi
      have hpos : 0 < total * weight % denominator := hpositive _ (hchosen hweight hi)
      refine ⟨by omega, ?_, ?_⟩
      · linarith
      · linarith
    · refine ⟨by omega, ?_, ?_⟩
      · linarith
      · linarith
  · intro i j weight weight' amount amount' hweight hweight' hamount hamount' hup hdown
    obtain ⟨hparts, hlow, hhigh⟩ := hdivision weight
    obtain ⟨hparts', hlow', hhigh'⟩ := hdivision weight'
    rw [hquotient hweight hamount, add_mul, mul_comm (total * weight / denominator)] at hup
    rw [hquotient hweight' hamount', add_mul, mul_comm (total * weight' / denominator)] at hdown
    have hi : i ∈ chosen := by
      by_contra hi
      rw [if_neg hi] at hup
      linarith
    have hj : j ∉ chosen := by
      intro hj
      rw [if_pos hj] at hdown
      linarith
    have htaken := hchosen hweight hi
    have hdropped : (j, total * weight' % denominator) ∈ sorted.drop n := by
      have hnonneg := mul_nonneg htotal (hweights weight' (List.mem_of_getElem? hweight'))
      have hmem : (j, total * weight' % denominator) ∈ sorted :=
        mem_sortBy.mpr (mem_remaindersOf.mpr
          ⟨weight', hweight', (Int.tmod_eq_emod_of_nonneg hnonneg).symm⟩)
      rw [← List.take_append_drop n sorted, List.mem_append] at hmem
      refine hmem.resolve_left fun htake => hj ?_
      have hfst := List.mem_map_of_mem (f := Prod.fst) htake
      rwa [List.map_take] at hfst
    have hpairs := hsorted
    rw [← List.take_append_drop n (sortBy _ _), List.pairwise_append] at hpairs
    obtain hlt | ⟨heq, hle⟩ := hpairs.2.2 _ htaken _ hdropped
    · exact .inl hlt
    · refine .inr ⟨heq, lt_of_le_of_ne hle fun hij => hj ?_⟩
      rw [← show i = j from hij]
      exact hi

end Results

end CryptoLending.Lib.Apportionment
