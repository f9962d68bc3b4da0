import Mathlib.Data.List.Dedup
import Mathlib.Data.List.Nodup
import Mathlib.Data.List.Perm.Basic

namespace CryptoLending.Lib

/-- A map that remembers the order in which its keys were first set. -/
structure JsMap (κ α : Type) where
  entries : List (κ × α)
  keys_nodup : (entries.map Prod.fst).Nodup

namespace JsMap

variable {κ α β : Type} [DecidableEq κ]

instance [DecidableEq α] : DecidableEq (JsMap κ α) := fun m n =>
  decidable_of_iff (m.entries = n.entries) ⟨fun h => by cases m; cases n; simp_all, fun h => h ▸ rfl⟩

def empty : JsMap κ α := ⟨[], by simp⟩

def get (m : JsMap κ α) (k : κ) : Option α := m.entries.lookup k

def values (m : JsMap κ α) : List α := m.entries.map Prod.snd

/-- Replace the value of a present key, append an absent one. -/
def setEntries (k : κ) (v : α) : List (κ × α) → List (κ × α)
  | [] => [(k, v)]
  | e :: rest => if e.1 = k then (k, v) :: rest else e :: setEntries k v rest

theorem setEntries_keys (k : κ) (v : α) (l : List (κ × α)) :
    (setEntries k v l).map Prod.fst =
      if k ∈ l.map Prod.fst then l.map Prod.fst else l.map Prod.fst ++ [k] := by
  induction l with
  | nil => simp [setEntries]
  | cons e rest ih =>
    by_cases h : e.1 = k
    · simp [setEntries, h]
    · simp only [setEntries, h, if_false, List.map_cons, ih, List.mem_cons, Ne.symm h, false_or]
      split <;> simp

theorem lookup_cons_ne {j i : κ} (h : j ≠ i) (w : α) (l : List (κ × α)) :
    ((i, w) :: l).lookup j = l.lookup j := by
  simp [List.lookup_cons, beq_false_of_ne h]

theorem lookup_setEntries (k j : κ) (v : α) (l : List (κ × α)) :
    (setEntries k v l).lookup j = if j = k then some v else l.lookup j := by
  induction l with
  | nil =>
    by_cases h : j = k
    · simp [setEntries, h]
    · simp [setEntries, h, lookup_cons_ne h]
  | cons e rest ih =>
    obtain ⟨i, w⟩ := e
    by_cases hi : i = k
    · subst hi
      by_cases hj : j = i
      · simp [setEntries, hj]
      · simp [setEntries, hj, lookup_cons_ne hj]
    · by_cases hj : j = i
      · subst hj
        simp [setEntries, hi]
      · simp [setEntries, hi, lookup_cons_ne hj, ih]

def set (m : JsMap κ α) (k : κ) (v : α) : JsMap κ α where
  entries := setEntries k v m.entries
  keys_nodup := by
    rw [setEntries_keys]
    split
    · exact m.keys_nodup
    · exact List.Nodup.append m.keys_nodup (by simp) (List.disjoint_singleton.mpr ‹_›)

@[simp] theorem get_empty (k : κ) : (empty : JsMap κ α).get k = none := rfl

theorem get_set (m : JsMap κ α) (k j : κ) (v : α) :
    (m.set k v).get j = if j = k then some v else m.get j := lookup_setEntries k j v m.entries

@[simp] theorem get_set_self (m : JsMap κ α) (k : κ) (v : α) : (m.set k v).get k = some v := by
  simp [get_set]

theorem get_set_ne (m : JsMap κ α) {k j : κ} (h : j ≠ k) (v : α) : (m.set k v).get j = m.get j := by
  simp [get_set, h]

theorem setEntries_fresh {k : κ} {l : List (κ × α)} (h : l.lookup k = none) (v : α) :
    setEntries k v l = l ++ [(k, v)] := by
  induction l with
  | nil => rfl
  | cons e rest ih =>
    obtain ⟨i, w⟩ := e
    by_cases hk : k = i
    · simp [hk] at h
    · rw [lookup_cons_ne hk] at h
      rw [setEntries, if_neg (Ne.symm hk), ih h, List.cons_append]

/-- An absent key is set after all others. -/
theorem values_set_fresh {m : JsMap κ α} {k : κ} (h : m.get k = none) (v : α) :
    (m.set k v).values = m.values ++ [v] := by
  have hset : (m.set k v).entries = m.entries ++ [(k, v)] := setEntries_fresh h v
  rw [values, hset, List.map_append]
  rfl

/-- The map built from a list of entries; a later entry replaces an earlier one. -/
def ofEntries (l : List (κ × α)) : JsMap κ α := l.foldl (fun m e => m.set e.1 e.2) empty

theorem get_foldl_set (l : List (κ × α)) (m : JsMap κ α) (hl : (l.map Prod.fst).Nodup) (k : κ) :
    (l.foldl (fun m e => m.set e.1 e.2) m).get k = (l.lookup k).or (m.get k) := by
  induction l generalizing m with
  | nil => simp
  | cons e rest ih =>
    obtain ⟨i, w⟩ := e
    simp only [List.map_cons, List.nodup_cons] at hl
    rw [List.foldl_cons, ih _ hl.2, get_set]
    by_cases hk : k = i
    · subst hk
      have hn : rest.lookup k = none := by
        rw [List.lookup_eq_none_iff]
        intro p hp
        rw [bne_iff_ne]
        rintro rfl
        exact hl.1 (List.mem_map_of_mem hp)
      simp [hn]
    · simp [lookup_cons_ne hk, hk]

theorem get_ofEntries (l : List (κ × α)) (hl : (l.map Prod.fst).Nodup) (k : κ) :
    (ofEntries l).get k = l.lookup k := by
  simp [ofEntries, get_foldl_set l empty hl k]

theorem lookup_of_mem {l : List (κ × α)} (hl : (l.map Prod.fst).Nodup) {k : κ} {v : α}
    (h : (k, v) ∈ l) : l.lookup k = some v := by
  induction l with
  | nil => simp at h
  | cons e rest ih =>
    obtain ⟨i, w⟩ := e
    simp only [List.map_cons, List.nodup_cons] at hl
    rcases List.mem_cons.mp h with he | hr
    · simp_all
    · have hk : k ≠ i := fun hki => hl.1 (hki ▸ List.mem_map_of_mem (f := Prod.fst) hr)
      rw [lookup_cons_ne hk]
      exact ih hl.2 hr

/-- A map indexing distinct items by a key finds exactly the item with that key. -/
theorem get_ofEntries_map (key : β → κ) (value : β → α) (l : List β) (hl : (l.map key).Nodup)
    {b : β} (hb : b ∈ l) : (ofEntries (l.map (fun x => (key x, value x)))).get (key b) =
      some (value b) := by
  have hn : ((l.map (fun x => (key x, value x))).map Prod.fst).Nodup := by
    simpa [Function.comp_def] using hl
  rw [get_ofEntries _ hn]
  exact lookup_of_mem hn (List.mem_map_of_mem (f := fun x => (key x, value x)) hb)

theorem get_ofEntries_map_none (key : β → κ) (value : β → α) (l : List β) (hl : (l.map key).Nodup)
    {k : κ} (hk : ∀ b ∈ l, key b ≠ k) :
    (ofEntries (l.map (fun x => (key x, value x)))).get k = none := by
  rw [get_ofEntries _ (by simpa [Function.comp_def] using hl), List.lookup_eq_none_iff]
  intro p hp
  obtain ⟨b, hb, rfl⟩ := List.mem_map.mp hp
  exact bne_iff_ne.mpr (hk b hb).symm

theorem mem_of_get_ofEntries_map {key : β → κ} {value : β → α} {l : List β} {k : κ} {v : α}
    (hl : (l.map key).Nodup)
    (h : (ofEntries (l.map (fun x => (key x, value x)))).get k = some v) :
    ∃ b ∈ l, key b = k ∧ value b = v := by
  by_cases hk : ∃ b ∈ l, key b = k
  · obtain ⟨b, hb, rfl⟩ := hk
    rw [get_ofEntries_map key value l hl hb, Option.some.injEq] at h
    exact ⟨b, hb, rfl, h⟩
  · rw [get_ofEntries_map_none key value l hl (fun b hb hbk => hk ⟨b, hb, hbk⟩)] at h
    cases h

/-- Reordering the items does not change what an index by a key finds. -/
theorem get_ofEntries_map_perm (key : β → κ) (value : β → α) {l m : List β} (h : l.Perm m)
    (hl : (l.map key).Nodup) (k : κ) :
    (ofEntries (l.map (fun x => (key x, value x)))).get k =
      (ofEntries (m.map (fun x => (key x, value x)))).get k := by
  have hm : (m.map key).Nodup := (h.map key).nodup_iff.mp hl
  by_cases hk : ∃ b ∈ l, key b = k
  · obtain ⟨b, hb, rfl⟩ := hk
    rw [get_ofEntries_map key value l hl hb, get_ofEntries_map key value m hm (h.mem_iff.mp hb)]
  · have hnl : ∀ b ∈ l, key b ≠ k := fun b hb hbk => hk ⟨b, hb, hbk⟩
    rw [get_ofEntries_map_none key value l hl hnl,
      get_ofEntries_map_none key value m hm (fun b hb => hnl b (h.mem_iff.mpr hb))]

def keys (m : JsMap κ α) : List κ := m.entries.map Prod.fst

/-- Collect the items of a list under their keys. -/
def groupInto (key : α → κ) (l : List α) : JsMap κ (List α) :=
  l.foldl (fun m a => m.set (key a) ((m.get (key a)).getD [] ++ [a])) empty

theorem get_foldl_group (key : α → κ) (l : List α) (m : JsMap κ (List α)) (k : κ) :
    ((l.foldl (fun m a => m.set (key a) ((m.get (key a)).getD [] ++ [a])) m).get k).getD [] =
      (m.get k).getD [] ++ l.filter (fun a => key a = k) := by
  induction l generalizing m with
  | nil => simp
  | cons a rest ih =>
    rw [List.foldl_cons, ih, get_set]
    by_cases hk : k = key a
    · subst hk; simp
    · simp [hk, Ne.symm hk]

theorem get_eq_some_iff (m : JsMap κ α) {k : κ} {v : α} :
    m.get k = some v ↔ (k, v) ∈ m.entries := by
  refine ⟨fun h => ?_, lookup_of_mem m.keys_nodup⟩
  obtain ⟨l₁, l₂, hs, _⟩ := List.lookup_eq_some_iff.mp h
  simp [hs]

theorem mem_keys_of_get {m : JsMap κ α} {k : κ} {v : α} (h : m.get k = some v) : k ∈ m.keys :=
  List.mem_map_of_mem (f := Prod.fst) ((get_eq_some_iff m).mp h)

theorem mem_groupInto {key : α → κ} {l : List α} {k : κ} {g : List α}
    (h : (k, g) ∈ (groupInto key l).entries) : g = l.filter (fun a => key a = k) := by
  have hg := get_foldl_group key l empty k
  rw [show l.foldl (fun m a => m.set (key a) ((m.get (key a)).getD [] ++ [a])) empty =
    groupInto key l from rfl, (get_eq_some_iff _).mpr h] at hg
  simpa using hg

theorem values_groupInto (key : α → κ) (l : List α) :
    (groupInto key l).values =
      (groupInto key l).keys.map (fun k => l.filter (fun a => key a = k)) := by
  rw [values, keys, List.map_map]
  exact List.map_congr_left fun e he => mem_groupInto he

theorem mem_keys_foldl_group (key : α → κ) (l : List α) (m : JsMap κ (List α)) (k : κ) :
    k ∈ (l.foldl (fun m a => m.set (key a) ((m.get (key a)).getD [] ++ [a])) m).keys ↔
      k ∈ m.keys ∨ k ∈ l.map key := by
  induction l generalizing m with
  | nil => simp
  | cons a rest ih =>
    rw [List.foldl_cons, ih, keys, set, setEntries_keys, List.map_cons, List.mem_cons]
    split
    · have hm : key a ∈ m.keys := ‹_›
      rw [keys] at hm ⊢
      constructor
      · rintro (h | h) <;> simp [h]
      · rintro (h | rfl | h) <;> simp_all
    · simp [keys, or_assoc]

theorem mem_keys_groupInto (key : α → κ) (l : List α) (k : κ) :
    k ∈ (groupInto key l).keys ↔ k ∈ l.map key := by
  rw [groupInto, mem_keys_foldl_group]
  simp [keys, empty]

/-- Different groups hold items with different keys. -/
theorem groupInto_pairwise (key : α → κ) (l : List α) :
    (groupInto key l).values.Pairwise (fun g h => ∀ a ∈ g, ∀ b ∈ h, key a ≠ key b) := by
  have hn := (groupInto key l).keys_nodup
  rw [List.nodup_iff_pairwise_ne, List.pairwise_map] at hn
  rw [values, List.pairwise_map]
  refine hn.imp_of_mem ?_
  rintro ⟨k, g⟩ ⟨j, h⟩ hg hh hkj a ha b hb hab
  rw [mem_groupInto hg] at ha
  rw [mem_groupInto hh] at hb
  simp only [List.mem_filter, decide_eq_true_eq] at ha hb
  exact hkj (ha.2.symm.trans (hab.trans hb.2))

theorem mem_of_mem_groupInto {key : α → κ} {l : List α} {g : List α}
    (hg : g ∈ (groupInto key l).values) : g ⊆ l := by
  obtain ⟨⟨k, g'⟩, he, rfl⟩ := List.mem_map.mp hg
  rw [mem_groupInto he]
  exact List.filter_subset_self _

/-- Fold the items of a list under their keys, each from the same start. -/
def accumulate (key : β → κ) (step : α → β → α) (start : α) (l : List β) : JsMap κ α :=
  l.foldl (fun m b => m.set (key b) (step ((m.get (key b)).getD start) b)) empty

theorem get_foldl_accumulate (key : β → κ) (step : α → β → α) (start : α) (l : List β)
    (m : JsMap κ α) (k : κ) :
    (l.foldl (fun m b => m.set (key b) (step ((m.get (key b)).getD start) b)) m).get k =
      if k ∈ l.map key then
        some ((l.filter (fun b => key b = k)).foldl step ((m.get k).getD start))
      else m.get k := by
  induction l generalizing m with
  | nil => simp
  | cons b rest ih =>
    rw [List.foldl_cons, ih, get_set]
    by_cases hk : k = key b
    · subst hk
      by_cases hr : key b ∈ rest.map key
      · simp [hr]
      · have hn : rest.filter (fun c => key c = key b) = [] := by
          rw [List.filter_eq_nil_iff]
          intro c hc hcb
          exact hr (of_decide_eq_true hcb ▸ List.mem_map_of_mem (f := key) hc)
        simp [hr, hn]
    · simp [hk, Ne.symm hk]

theorem get_accumulate (key : β → κ) (step : α → β → α) (start : α) (l : List β) (k : κ) :
    (accumulate key step start l).get k =
      if k ∈ l.map key then some ((l.filter (fun b => key b = k)).foldl step start) else none :=
  get_foldl_accumulate key step start l empty k

theorem mem_values {m : JsMap κ α} {v : α} : v ∈ m.values ↔ ∃ k, m.get k = some v := by
  simp [values, get_eq_some_iff]

end JsMap

end CryptoLending.Lib

namespace CryptoLending.Lib.JsMap

variable {κ α : Type} [DecidableEq κ]

def size (m : JsMap κ α) : Nat := m.entries.length

def delete (m : JsMap κ α) (k : κ) : JsMap κ α where
  entries := m.entries.filter (fun e => e.1 ≠ k)
  keys_nodup := m.keys_nodup.sublist ((List.filter_sublist).map Prod.fst)

/-- The key that was set before all others. -/
def firstKey (m : JsMap κ α) : Option κ := m.keys.head?

variable (m : JsMap κ α)

omit [DecidableEq κ] in
theorem length_keys : m.keys.length = m.size := List.length_map _

theorem keys_delete (k : κ) : (m.delete k).keys = m.keys.erase k := by
  have hfilter : (m.delete k).keys = m.keys.filter (fun j => j ≠ k) := by
    rw [keys, keys, delete, List.filter_map]
    rfl
  have hnodup : m.keys.Nodup := m.keys_nodup
  rw [hfilter, hnodup.erase_eq_filter]
  exact List.filter_congr fun j _ => by simp [bne, beq_eq_decide]

theorem get_delete (k j : κ) : (m.delete k).get j = if j = k then none else m.get j := by
  have hlookup : ∀ l : List (κ × α),
      (l.filter (fun e => e.1 ≠ k)).lookup j = if j = k then none else l.lookup j := by
    intro l
    induction l with
    | nil => simp
    | cons e l ih =>
      obtain ⟨i, v⟩ := e
      by_cases hi : i = k
      · rw [List.filter_cons_of_neg (by simp [hi]), ih]
        by_cases hj : j = k
        · rw [if_pos hj, if_pos hj]
        · rw [if_neg hj, if_neg hj, lookup_cons_ne (hi ▸ hj)]
      · rw [List.filter_cons_of_pos (by simp [hi])]
        by_cases hj : j = i
        · rw [hj, if_neg hi, List.lookup_cons_self, List.lookup_cons_self]
        · rw [lookup_cons_ne hj, lookup_cons_ne hj, ih]
  exact hlookup m.entries

theorem get_eq_none_iff {k : κ} : m.get k = none ↔ k ∉ m.keys := by
  constructor
  · intro h hk
    obtain ⟨⟨j, v⟩, hmem, rfl⟩ := List.mem_map.mp hk
    rw [(get_eq_some_iff m).mpr hmem] at h
    cases h
  · intro h
    cases hget : m.get k with
    | none => rfl
    | some v => exact absurd (mem_keys_of_get hget) h

/-- A key that is set anew comes after all others. -/
theorem keys_set_fresh {k : κ} (h : m.get k = none) (v : α) : (m.set k v).keys = m.keys ++ [k] := by
  have hset : (m.set k v).entries = m.entries ++ [(k, v)] := setEntries_fresh h v
  rw [keys, hset, List.map_append]
  rfl

section Values

variable {β : Type}

/-- The map with a function applied to its values. -/
def mapValues (f : α → β) : JsMap κ β where
  entries := m.entries.map fun e => (e.1, f e.2)
  keys_nodup := by
    rw [List.map_map]
    exact m.keys_nodup

theorem get_mapValues (f : α → β) (k : κ) : (m.mapValues f).get k = (m.get k).map f := by
  have hlookup : ∀ l : List (κ × α),
      (l.map fun e => (e.1, f e.2)).lookup k = (l.lookup k).map f := by
    intro l
    induction l with
    | nil => rfl
    | cons e l ih =>
      rw [List.map_cons, List.lookup_cons, List.lookup_cons, ih]
      cases k == e.1 <;> rfl
  exact hlookup m.entries

theorem get_foldl_delete (keys : List κ) (m : JsMap κ α) (k : κ) :
    (keys.foldl delete m).get k = if k ∈ keys then none else m.get k := by
  induction keys generalizing m with
  | nil => rfl
  | cons j keys ih =>
    rw [List.foldl_cons, ih, get_delete]
    by_cases hk : k = j
    · simp [hk]
    · simp [hk]

omit [DecidableEq κ] in
theorem size_mapValues (f : α → β) : (m.mapValues f).size = m.size := List.length_map _

theorem size_delete_le (k : κ) : (m.delete k).size ≤ m.size := List.length_filter_le _ _

theorem size_foldl_delete_le (keys : List κ) (m : JsMap κ α) :
    (keys.foldl delete m).size ≤ m.size := by
  induction keys generalizing m with
  | nil => exact Nat.le_refl _
  | cons k keys ih => exact Nat.le_trans (ih (m.delete k)) (size_delete_le m k)

theorem size_set {k : κ} {v : α} (h : m.get k = some v) (w : α) : (m.set k w).size = m.size := by
  have hkeys : (m.set k w).keys = m.keys :=
    (setEntries_keys k w m.entries).trans (if_pos (mem_keys_of_get h))
  rw [← length_keys, hkeys, length_keys]

theorem size_set_fresh {k : κ} (h : m.get k = none) (v : α) : (m.set k v).size = m.size + 1 := by
  rw [← length_keys, ← length_keys, keys_set_fresh m h, List.length_append]
  rfl

theorem get_of_size {m : JsMap κ α} (h : m.size = 0) (k : κ) : m.get k = none := by
  have hentries : m.entries = [] := List.length_eq_zero_iff.mp h
  rw [get, hentries]
  rfl

end Values

end CryptoLending.Lib.JsMap
