import Mathlib
import CryptoLending.Lib.JsMap
import CryptoLending.Lib.JsString
import CryptoLending.Lib.Sorting
import CryptoLending.Lib.Transaction

namespace CryptoLending.Lib.Grouping

open JsString Sorting

variable {α κ : Type}

/-- The order of texts by their code units. -/
def compareCodeUnits (a b : String) : Ordering :=
  if ofString a < ofString b then .lt else if ofString a = ofString b then .eq else .gt

/-- The keys that occur, in the order of their texts. -/
def sortedKeys [BEq κ] (text : κ → String) (keys : List κ) : List κ :=
  sortBy (fun a b => compareCodeUnits (text a) (text b)) keys.eraseDups

section Keys

variable [BEq κ] [LawfulBEq κ]

theorem nodup_eraseDups (l : List κ) : l.eraseDups.Nodup := by
  induction hn : l.length using Nat.strongRecOn generalizing l with
  | ind n ih =>
    cases l with
    | nil => exact List.nodup_nil
    | cons k l =>
      rw [List.eraseDups_cons]
      have hlt : (l.filter fun j => !j == k).length < n := by
        have hle := List.length_filter_le (fun j => !j == k) l
        rw [List.length_cons] at hn
        omega
      refine List.nodup_cons.mpr ⟨fun hmem => ?_, ih _ hlt _ rfl⟩
      have hfilter := (List.mem_filter.mp (List.mem_eraseDups.mp hmem)).2
      simp at hfilter

theorem nodup_sortedKeys (text : κ → String) (keys : List κ) : (sortedKeys text keys).Nodup :=
  (sortBy_perm _ _).nodup_iff.mpr (nodup_eraseDups keys)

theorem mem_sortedKeys {text : κ → String} {keys : List κ} {k : κ} :
    k ∈ sortedKeys text keys ↔ k ∈ keys := by
  rw [sortedKeys, mem_sortBy, List.mem_eraseDups]

end Keys

section Fibers

variable [DecidableEq κ]

/-- One more item raises the sum of the group that it belongs to. -/
theorem sum_bump {keys : List κ} (hkeys : keys.Nodup) {key : κ} (hkey : key ∈ keys) (n : Nat)
    (f : κ → Nat) :
    (keys.map fun k => (if key = k then n else 0) + f k).sum = n + (keys.map f).sum := by
  induction keys with
  | nil => exact absurd hkey List.not_mem_nil
  | cons k keys ih =>
    obtain ⟨hnot, hnodup⟩ := List.nodup_cons.mp hkeys
    rw [List.map_cons, List.sum_cons, List.map_cons, List.sum_cons]
    by_cases h : key = k
    · have hrest : (keys.map fun j => (if key = j then n else 0) + f j) = keys.map f := by
        apply List.map_congr_left
        intro j hj
        have hne : key ≠ j := fun hkj => hnot (h ▸ hkj ▸ hj)
        rw [if_neg hne, Nat.zero_add]
      rw [if_pos h, hrest, Nat.add_assoc]
    · rw [if_neg h, ih hnodup ((List.mem_cons.mp hkey).resolve_left h)]
      omega

/-- The sums of all groups add up to the sum of the items. -/
theorem sum_groups (keyOf : α → κ) (weight : α → Nat) {keys : List κ} (hkeys : keys.Nodup)
    {l : List α} (h : ∀ a ∈ l, keyOf a ∈ keys) :
    (keys.map fun k => ((l.filter fun a => keyOf a = k).map weight).sum).sum =
      (l.map weight).sum := by
  induction l with
  | nil => simp
  | cons a l ih =>
    obtain ⟨ha, hl⟩ := List.forall_mem_cons.mp h
    have hgroup : ∀ k, (((a :: l).filter fun a => keyOf a = k).map weight).sum =
        (if keyOf a = k then weight a else 0) + ((l.filter fun a => keyOf a = k).map weight).sum := by
      intro k
      by_cases hk : keyOf a = k
      · simp [hk]
      · simp [hk]
    simp only [hgroup]
    rw [sum_bump hkeys ha, ih hl, List.map_cons, List.sum_cons]

end Fibers

end CryptoLending.Lib.Grouping

namespace CryptoLending.Lib.Tally

open JsMap

variable {κ α β ε : Type} [DecidableEq κ]

/-- Book each item on the entry of its key. A missing entry or a refused step fails. -/
def tally (key : β → κ) (step : α → β → Except ε α) (missing : ε) (m : JsMap κ α)
    (items : List β) : Except ε (JsMap κ α) :=
  items.foldlM (fun m b => do
    let a ← orFail (m.get (key b)) missing
    let a' ← step a b
    return m.set (key b) a') m

variable {key : β → κ} {step : α → β → Except ε α} {missing : ε}

/-- The items of one key. -/
def itemsOf (key : β → κ) (k : κ) (items : List β) : List β := items.filter fun b => key b = k

theorem itemsOf_cons_self (b : β) (items : List β) :
    itemsOf key (key b) (b :: items) = b :: itemsOf key (key b) items :=
  List.filter_cons_of_pos (decide_eq_true rfl)

theorem itemsOf_cons_ne {b : β} {k : κ} (h : key b ≠ k) (items : List β) :
    itemsOf key k (b :: items) = itemsOf key k items :=
  List.filter_cons_of_neg (by simpa using h)

theorem mem_of_mem_itemsOf {b : β} {k : κ} {items : List β} (h : b ∈ itemsOf key k items) :
    b ∈ items := List.mem_of_mem_filter h

theorem length_itemsOf_le (key : β → κ) (k : κ) (items : List β) :
    (itemsOf key k items).length ≤ items.length := List.length_filter_le _ _

/-- The items of one key, when the key stands for what it was made from. -/
theorem itemsOf_comp {ι : Type} [DecidableEq ι] {encode : ι → κ} {id : β → ι} {i : ι}
    {items : List β} (h : ∀ b ∈ items, encode (id b) = encode i → id b = i) :
    itemsOf (fun b => encode (id b)) (encode i) items = itemsOf id i items := by
  apply List.filter_congr
  intro b hb
  have hiff : encode (id b) = encode i ↔ id b = i := ⟨h b hb, congrArg encode⟩
  simp only [hiff]

theorem keys_set {m : JsMap κ α} {k : κ} (h : k ∈ m.keys) (a : α) : (m.set k a).keys = m.keys := by
  rw [keys, JsMap.set, setEntries_keys]
  exact if_pos h

theorem keys_foldl_set (l : List (κ × α)) (m : JsMap κ α)
    (h : (m.keys ++ l.map Prod.fst).Nodup) :
    (l.foldl (fun m e => m.set e.1 e.2) m).keys = m.keys ++ l.map Prod.fst := by
  induction l generalizing m with
  | nil => exact (List.append_nil _).symm
  | cons e l ih =>
    have hfresh : e.1 ∉ m.keys := fun hmem =>
      (List.nodup_append.mp h).2.2 e.1 hmem e.1 List.mem_cons_self rfl
    have hkeys : (m.set e.1 e.2).keys = m.keys ++ [e.1] := by
      rw [keys, JsMap.set, setEntries_keys]
      exact if_neg hfresh
    rw [List.map_cons, List.append_cons, ← hkeys] at h
    rw [List.foldl_cons, ih _ h, hkeys, List.append_assoc]
    rfl

theorem keys_ofEntries {ι : Type} {l : List ι} {key : ι → κ} {f : ι → α}
    (h : (l.map key).Nodup) : (ofEntries (l.map fun i => (key i, f i))).keys = l.map key := by
  have hmap : (l.map fun i => (key i, f i)).map Prod.fst = l.map key := by
    rw [List.map_map]
    rfl
  rw [ofEntries, keys_foldl_set _ empty (by rw [hmap]; exact h), hmap]
  rfl

/-- Every item was booked, each on the entry of its key and on no other. -/
structure IsTally (key : β → κ) (step : α → β → Except ε α) (m : JsMap κ α) (items : List β)
    (m' : JsMap κ α) : Prop where
  keys : m'.keys = m.keys
  present : ∀ b ∈ items, key b ∈ m.keys
  get : ∀ k a, m.get k = some a →
    ∃ a', m'.get k = some a' ∧ (itemsOf key k items).foldlM step a = .ok a'

theorem tally_ok {m m' : JsMap κ α} {items : List β}
    (h : tally key step missing m items = .ok m') : IsTally key step m items m' := by
  induction items generalizing m with
  | nil =>
    obtain rfl := Except.ok.inj h
    exact ⟨rfl, fun b hb => absurd hb List.not_mem_nil, fun k a ha => ⟨a, ha, rfl⟩⟩
  | cons b items ih =>
    obtain ⟨m₁, hm₁, h⟩ := except_bind_ok.mp h
    obtain ⟨a₀, ha₀, hm₁⟩ := except_bind_ok.mp hm₁
    obtain ⟨a₁, ha₁, hm₁⟩ := except_bind_ok.mp hm₁
    obtain rfl := Except.ok.inj hm₁
    have hget := orFail_ok.mp ha₀
    have hkeys := keys_set (mem_keys_of_get hget) a₁
    obtain ⟨hk, hpresent, hrest⟩ := ih h
    refine ⟨hk.trans hkeys, ?_, fun k a ha => ?_⟩
    · exact List.forall_mem_cons.mpr ⟨mem_keys_of_get hget, fun c hc => hkeys ▸ hpresent c hc⟩
    · by_cases hbk : key b = k
      · subst hbk
        obtain rfl : a₀ = a := Option.some.inj (hget.symm.trans ha)
        obtain ⟨a', ha', hfold⟩ := hrest (key b) a₁ (get_set_self m (key b) a₁)
        refine ⟨a', ha', ?_⟩
        rw [itemsOf_cons_self, List.foldlM_cons, ha₁]
        exact hfold
      · obtain ⟨a', ha', hfold⟩ := hrest k a ((get_set_ne m (Ne.symm hbk) a₁).trans ha)
        refine ⟨a', ha', ?_⟩
        rwa [itemsOf_cons_ne hbk]

/-- Booking fails for a missing entry or because the items of one key cannot be booked. -/
theorem tally_error {m : JsMap κ α} {items : List β} {e : ε}
    (h : tally key step missing m items = .error e) :
    e = missing ∨ ∃ k a, m.get k = some a ∧ (itemsOf key k items).foldlM step a = .error e := by
  induction items generalizing m with
  | nil => cases h
  | cons b items ih =>
    cases hget : m.get (key b) with
    | none =>
      rw [tally, List.foldlM_cons, hget] at h
      exact .inl (Except.error.inj h).symm
    | some a₀ =>
      cases hstep : step a₀ b with
      | error e' =>
        rw [tally, List.foldlM_cons, hget, orFail, except_ok_bind, hstep] at h
        refine .inr ⟨key b, a₀, hget, ?_⟩
        obtain rfl : e' = e := Except.error.inj h
        rw [itemsOf_cons_self, List.foldlM_cons, hstep]
        rfl
      | ok a₁ =>
        rw [tally, List.foldlM_cons, hget, orFail, except_ok_bind, hstep] at h
        obtain h | ⟨k, a, ha, hfold⟩ := ih h
        · exact .inl h
        · by_cases hbk : key b = k
          · subst hbk
            obtain rfl : a₁ = a := Option.some.inj ((get_set_self m (key b) a₁).symm.trans ha)
            refine .inr ⟨key b, a₀, hget, ?_⟩
            rw [itemsOf_cons_self, List.foldlM_cons, hstep]
            exact hfold
          · rw [get_set_ne m (Ne.symm hbk)] at ha
            refine .inr ⟨k, a, ha, ?_⟩
            rwa [itemsOf_cons_ne hbk]

/-- The values of a map are those of its keys, in their order. -/
theorem values_eq_map {ι : Type} {m : JsMap κ α} {l : List ι} {key : ι → κ} {f : ι → α}
    (hkeys : m.keys = l.map key) (hget : ∀ i ∈ l, m.get (key i) = some (f i)) :
    m.values = l.map f := by
  have hvalue : ∀ e ∈ m.entries, ∀ i ∈ l, e.1 = key i → e.2 = f i := by
    intro e he i hi hk
    have hsome := (get_eq_some_iff m).mpr he
    rw [hk, hget i hi] at hsome
    exact (Option.some.inj hsome).symm
  have hpairs : List.Forall₂ (fun e i => e.1 = key i) m.entries l := by
    have heq : List.Forall₂ (· = ·) m.keys (l.map key) := by
      rw [List.forall₂_eq_eq_eq]
      exact hkeys
    rw [keys, List.forall₂_map_left_iff, List.forall₂_map_right_iff] at heq
    exact heq
  rw [values, ← List.forall₂_eq_eq_eq, List.forall₂_map_left_iff, List.forall₂_map_right_iff]
  generalize m.entries = entries at hvalue hpairs
  clear hkeys hget
  induction hpairs with
  | nil => exact .nil
  | @cons e i entries l hk _ ih =>
    refine .cons (hvalue e List.mem_cons_self i List.mem_cons_self hk) (ih fun e' he' i' hi' => ?_)
    exact hvalue e' (List.mem_cons_of_mem e he') i' (List.mem_cons_of_mem i hi')

end CryptoLending.Lib.Tally

namespace CryptoLending.Lib.KeyedSums

open Sorting

variable {ι κ ε : Type} [DecidableEq κ] (key : ι → κ) (amount : ι → Nat)

/-- The sum of the items under a key. -/
def keySum (k : κ) (l : List ι) : Nat := ((l.filter (fun i => key i = k)).map amount).sum

/-- Add an item to the sum under its key, within a bound. -/
def addTo (bound : Nat) (e : ε) (m : JsMap κ Nat) (i : ι) : Except ε (JsMap κ Nat) := do
  let next := (m.get (key i)).getD 0 + amount i
  failWhen (next > bound) e
  return m.set (key i) next

variable {key amount}

theorem keySum_cons (k : κ) (i : ι) (l : List ι) :
    keySum key amount k (i :: l) = (if key i = k then amount i else 0) + keySum key amount k l := by
  by_cases hk : key i = k
  · simp [keySum, hk]
  · simp [keySum, hk]

theorem keySum_perm (k : κ) {l m : List ι} (h : l.Perm m) :
    keySum key amount k l = keySum key amount k m := ((h.filter _).map amount).sum_eq

theorem keySum_map_pairs (k : κ) (l : List ι) :
    keySum Prod.fst Prod.snd k (l.map fun i => (key i, amount i)) = keySum key amount k l := by
  rw [keySum, keySum, List.filter_map, List.map_map]
  rfl

section Folding

variable {bound : Nat} {e : ε}

theorem getD_set (m : JsMap κ Nat) (i : ι) (k : κ) :
    ((m.set (key i) ((m.get (key i)).getD 0 + amount i)).get k).getD 0 =
      (m.get k).getD 0 + if key i = k then amount i else 0 := by
  rw [JsMap.get_set]
  by_cases hk : k = key i
  · rw [if_pos hk, if_pos hk.symm, hk]
    rfl
  · rw [if_neg hk, if_neg (Ne.symm hk)]
    rfl

/-- As long as no sum passes the bound, the items are added up under their keys. -/
theorem foldlM_addTo_ok {l : List ι} {m : JsMap κ Nat}
    (h : ∀ k, (m.get k).getD 0 + keySum key amount k l ≤ bound) :
    l.foldlM (addTo key amount bound e) m =
      .ok (l.foldl (fun m i => m.set (key i) ((m.get (key i)).getD 0 + amount i)) m) := by
  induction l generalizing m with
  | nil => rfl
  | cons i l ih =>
    have hnext : ¬(m.get (key i)).getD 0 + amount i > bound := by
      have hi := h (key i)
      rw [keySum_cons, if_pos rfl] at hi
      omega
    have hadd : addTo key amount bound e m i =
        .ok (m.set (key i) ((m.get (key i)).getD 0 + amount i)) :=
      except_bind_ok.mpr ⟨(), failWhen_ok.mpr hnext, rfl⟩
    rw [List.foldlM_cons, hadd, except_ok_bind, List.foldl_cons]
    apply ih
    intro k
    rw [getD_set, Nat.add_assoc, ← keySum_cons]
    exact h k

/-- The first sum that passes the bound stops the addition. -/
theorem foldlM_addTo_error {l : List ι} {m : JsMap κ Nat} (hm : ∀ k, (m.get k).getD 0 ≤ bound)
    {k : κ} (h : bound < (m.get k).getD 0 + keySum key amount k l) :
    l.foldlM (addTo key amount bound e) m = .error e := by
  induction l generalizing m with
  | nil =>
    have hk := hm k
    rw [keySum, List.filter_nil, List.map_nil, List.sum_nil] at h
    omega
  | cons i l ih =>
    rw [List.foldlM_cons]
    by_cases hnext : (m.get (key i)).getD 0 + amount i > bound
    · have hadd : addTo key amount bound e m i = .error e :=
        except_bind_error.mpr (.inl (failWhen_error.mpr ⟨hnext, rfl⟩))
      rw [hadd]
      rfl
    · have hadd : addTo key amount bound e m i =
          .ok (m.set (key i) ((m.get (key i)).getD 0 + amount i)) :=
        except_bind_ok.mpr ⟨(), failWhen_ok.mpr hnext, rfl⟩
      rw [hadd, except_ok_bind]
      apply ih
      · intro j
        rw [getD_set]
        split
        · rename_i hj
          rw [← hj]
          omega
        · exact hm j
      · rw [getD_set, Nat.add_assoc, ← keySum_cons]
        exact h

/-- Adding up succeeds exactly when all sums are within the bound. -/
theorem foldlM_addTo_eq (l : List ι) :
    ((∀ k, keySum key amount k l ≤ bound) ∧ l.foldlM (addTo key amount bound e) .empty =
      .ok (JsMap.accumulate key (fun n i => n + amount i) 0 l)) ∨
    ((∃ k, bound < keySum key amount k l) ∧
      l.foldlM (addTo key amount bound e) .empty = .error e) := by
  by_cases h : ∀ k, keySum key amount k l ≤ bound
  · left
    refine ⟨h, foldlM_addTo_ok fun k => ?_⟩
    rw [JsMap.get_empty, Option.getD_none, Nat.zero_add]
    exact h k
  · right
    obtain ⟨k, hk⟩ := Classical.not_forall.mp h
    rw [Nat.not_le] at hk
    refine ⟨⟨k, hk⟩, foldlM_addTo_error (k := k) (fun j => Nat.zero_le _) ?_⟩
    rw [JsMap.get_empty, Option.getD_none, Nat.zero_add]
    exact hk

end Folding

section Sums

theorem foldl_add (l : List ι) (n : Nat) :
    l.foldl (fun n i => n + amount i) n = n + (l.map amount).sum := by
  induction l generalizing n with
  | nil => rfl
  | cons i l ih => rw [List.foldl_cons, ih, List.map_cons, List.sum_cons, Nat.add_assoc]

/-- The entries of the map of sums. -/
theorem mem_accumulate {l : List ι} {k : κ} {n : Nat} :
    (k, n) ∈ (JsMap.accumulate key (fun n i => n + amount i) 0 l).entries ↔
      k ∈ l.map key ∧ n = keySum key amount k l := by
  rw [← JsMap.get_eq_some_iff, JsMap.get_accumulate]
  by_cases hk : k ∈ l.map key
  · rw [if_pos hk, foldl_add, Nat.zero_add, Option.some.injEq]
    exact ⟨fun h => ⟨hk, h.symm⟩, fun h => h.2.symm⟩
  · rw [if_neg hk]
    exact ⟨fun h => (by cases h), fun h => absurd h.1 hk⟩

omit [DecidableEq κ] in
/-- Sorted by their keys the entries of a map ascend strictly. -/
theorem entries_ascending {α : Type} [LinearOrder κ] (m : JsMap κ α)
    {compare : κ × α → κ × α → Ordering} (h : RanksBy compare Prod.fst m.entries) :
    (sortBy compare m.entries).Pairwise (fun a b => a.1 < b.1) := by
  have hnodup : ((sortBy compare m.entries).map Prod.fst).Nodup :=
    ((sortBy_perm compare m.entries).map Prod.fst).nodup_iff.mpr m.keys_nodup
  refine (h.pairwise.and (List.pairwise_map.mp hnodup)).imp ?_
  rintro a b ⟨hle, hne⟩
  exact lt_of_le_of_ne hle hne

end Sums

end CryptoLending.Lib.KeyedSums
