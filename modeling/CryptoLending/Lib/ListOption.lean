import Mathlib.Data.Option.Basic
import Mathlib.Data.List.Forall2
import Mathlib.Data.List.Perm.Basic

namespace CryptoLending.Lib.ListOption

variable {α β γ : Type}

theorem mapM_eq_some {f : α → Option β} {l : List α} {r : List β} :
    l.mapM f = some r ↔ List.Forall₂ (fun a b => f a = some b) l r := by
  induction l generalizing r with
  | nil => cases r <;> simp
  | cons a l ih =>
    cases hf : f a with
    | none => cases r <;> simp [hf]
    | some b =>
      cases hl : l.mapM f with
      | none =>
        cases r with
        | nil => simp [hf, hl]
        | cons c r =>
          have hn : ¬ List.Forall₂ (fun a b => f a = some b) l r := fun h => by
            simp [ih.mpr h] at hl
          simp [hf, hl, hn]
      | some s =>
        cases r with
        | nil => simp [hf, hl]
        | cons c r =>
          have hs := ih (r := r)
          rw [hl, Option.some.injEq] at hs
          simp [hf, hl, ← hs]

theorem mapM_eq_none {f : α → Option β} {l : List α} :
    l.mapM f = none ↔ ∃ a ∈ l, f a = none := by
  induction l with
  | nil => simp
  | cons a l ih =>
    cases hf : f a with
    | none => simp [hf]
    | some b => cases hl : l.mapM f <;> simp [hf, hl, ← ih]

/-- A fold that reads every item first is a fold over what is read. -/
theorem foldlM_map (g : α → Option β) (f : γ → β → γ) (l : List α) (init : γ) :
    l.foldlM (fun acc a => (g a).map (f acc)) init = (l.mapM g).map (List.foldl f init) := by
  induction l generalizing init with
  | nil => rfl
  | cons a l ih =>
    rw [List.foldlM_cons, List.mapM_cons]
    cases g a with
    | none => rfl
    | some b =>
      change l.foldlM (fun acc a => (g a).map (f acc)) (f init b) = _
      rw [ih]
      cases l.mapM g <;> rfl

theorem exists_of_mem_right {R : α → β → Prop} {l : List α} {r : List β} (h : List.Forall₂ R l r)
    {b : β} (hb : b ∈ r) : ∃ a ∈ l, R a b := by
  induction h with
  | nil => exact absurd hb List.not_mem_nil
  | @cons a c l r hab _ ih =>
    obtain rfl | hb := List.mem_cons.mp hb
    · exact ⟨a, List.mem_cons_self, hab⟩
    · obtain ⟨a', ha', hrel⟩ := ih hb
      exact ⟨a', List.mem_cons_of_mem a ha', hrel⟩

/-- Every result of a successful traversal comes from an item. -/
theorem mem_of_mapM {f : α → Option β} {l : List α} {r : List β} (h : l.mapM f = some r)
    {b : β} (hb : b ∈ r) : ∃ a ∈ l, f a = some b := by
  have h2 := mapM_eq_some.1 h
  induction h2 with
  | nil => simp at hb
  | cons hab _ ih =>
    rcases List.mem_cons.mp hb with rfl | hb
    · exact ⟨_, by simp, hab⟩
    · obtain ⟨a, ha, hf⟩ := ih (mapM_eq_some.2 ‹_›) hb
      exact ⟨a, by simp [ha], hf⟩

theorem mapM_of_mem {f : α → Option β} {l : List α} {r : List β} (h : l.mapM f = some r)
    {a : α} (ha : a ∈ l) : ∃ b ∈ r, f a = some b := by
  have h2 := mapM_eq_some.1 h
  induction h2 with
  | nil => simp at ha
  | cons hab _ ih =>
    rcases List.mem_cons.mp ha with rfl | ha
    · exact ⟨_, by simp, hab⟩
    · obtain ⟨b, hb, hf⟩ := ih (mapM_eq_some.2 ‹_›) ha
      exact ⟨b, by simp [hb], hf⟩

theorem mapM_map {f : α → Option β} {l : List α} {r : List β} (h : l.mapM f = some r)
    (g : α → γ) (k : β → γ) (hgk : ∀ a b, f a = some b → k b = g a) : r.map k = l.map g := by
  have h2 := mapM_eq_some.1 h
  induction h2 with
  | nil => rfl
  | cons hab _ ih => simp [hgk _ _ hab, ih (mapM_eq_some.2 ‹_›)]

theorem length_mapM {f : α → Option β} {l : List α} {r : List β} (h : l.mapM f = some r) :
    r.length = l.length := ((mapM_eq_some.1 h).length_eq).symm

/-- A traversal of a reordered list succeeds together with the original one and
returns its results reordered. -/
theorem mapM_perm (f : α → Option β) {l m : List α} (h : l.Perm m) :
    Option.Rel List.Perm (l.mapM f) (m.mapM f) := by
  cases hl : l.mapM f with
  | none =>
    obtain ⟨a, ha, hf⟩ := mapM_eq_none.1 hl
    rw [mapM_eq_none.2 ⟨a, h.mem_iff.mp ha, hf⟩]
    exact .none
  | some r =>
    cases hm : m.mapM f with
    | none =>
      obtain ⟨a, ha, hf⟩ := mapM_eq_none.1 hm
      rw [mapM_eq_none.2 ⟨a, h.mem_iff.mpr ha, hf⟩] at hl
      cases hl
    | some s =>
      obtain ⟨t, ht, hts⟩ := List.perm_comp_forall₂ h (mapM_eq_some.1 hm)
      rw [← mapM_eq_some, hl, Option.some.injEq] at ht
      exact .some (ht ▸ hts)

/-- Go on with a proof of a condition, or fail. -/
def ensure (c : Prop) [Decidable c] : Option (PLift c) := if h : c then some ⟨h⟩ else none

theorem ensure_pos {c : Prop} [Decidable c] (h : c) : ensure c = some ⟨h⟩ := dif_pos h

variable {δ : Type} {R : α → β → Prop} {S : γ → δ → Prop}

theorem rel_bind {o : Option α} {p : Option β} {f : α → Option γ} {g : β → Option δ}
    (h : Option.Rel R o p) (hfg : ∀ a b, R a b → Option.Rel S (f a) (g b)) :
    Option.Rel S (o.bind f) (p.bind g) := by
  cases h with
  | none => exact .none
  | some hab => exact hfg _ _ hab

theorem rel_bind_same {o : Option α} {f : α → Option γ} {g : α → Option δ}
    (hfg : ∀ a, Option.Rel S (f a) (g a)) : Option.Rel S (o.bind f) (o.bind g) := by
  cases o with
  | none => exact .none
  | some a => exact hfg a

theorem rel_guard {p q : Prop} [Decidable p] [Decidable q] (h : p ↔ q) :
    Option.Rel Eq (guard p : Option Unit) (guard q) := by
  by_cases hp : p
  · have hq := h.mp hp
    simp [guard, hp, hq]
  · have hq := mt h.mpr hp
    simp only [guard, hp, hq, if_false]
    exact .none

theorem rel_pmap {P : α → Prop} {Q : β → Prop} {o : Option α} {p : Option β}
    (h : Option.Rel R o p) (ho : ∀ a, o = some a → P a) (hp : ∀ b, p = some b → Q b) :
    Option.Rel (fun a b => R a.1 b.1) (o.pmap (Subtype.mk (p := P)) ho)
      (p.pmap (Subtype.mk (p := Q)) hp) := by
  cases h with
  | none => exact .none
  | some hab => exact .some hab

end CryptoLending.Lib.ListOption
