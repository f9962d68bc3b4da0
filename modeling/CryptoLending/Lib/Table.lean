import Mathlib.Data.List.Basic

namespace CryptoLending.Lib.Table

variable {ρ κ : Type}

/-- Change the rows that meet a condition. -/
def updateWhere (p : ρ → Bool) (f : ρ → ρ) (rows : List ρ) : List ρ :=
  rows.map (fun row => if p row then f row else row)

variable {p : ρ → Bool} {f : ρ → ρ} {rows : List ρ}

theorem mem_updateWhere {row : ρ} : row ∈ updateWhere p f rows ↔
    (∃ old ∈ rows, p old = true ∧ f old = row) ∨ (row ∈ rows ∧ p row = false) := by
  rw [updateWhere, List.mem_map]
  constructor
  · rintro ⟨old, hold, rfl⟩
    cases hp : p old with
    | true => exact Or.inl ⟨old, hold, hp, (if_pos rfl).symm⟩
    | false =>
      rw [if_neg Bool.false_ne_true]
      exact Or.inr ⟨hold, hp⟩
  · rintro (⟨old, hold, hp, rfl⟩ | ⟨hrow, hp⟩)
    · exact ⟨old, hold, if_pos hp⟩
    · exact ⟨row, hrow, if_neg (ne_true_of_eq_false hp)⟩

/-- What holds of every row stays when the update keeps it. -/
theorem forall_updateWhere {P Q : ρ → Prop} (h : ∀ row ∈ rows, P row)
    (hchanged : ∀ row ∈ rows, p row = true → P row → Q (f row))
    (hkept : ∀ row ∈ rows, p row = false → P row → Q row) : ∀ row ∈ updateWhere p f rows, Q row := by
  intro row hrow
  cases mem_updateWhere.1 hrow with
  | inl hnew =>
    obtain ⟨old, hold, hp, rfl⟩ := hnew
    exact hchanged old hold hp (h old hold)
  | inr hsame => exact hkept row hsame.1 hsame.2 (h row hsame.1)

/-- An update that keeps the key of a row keeps the keys of all rows. -/
theorem map_updateWhere {key : ρ → κ} (hkey : ∀ row, key (f row) = key row) :
    (updateWhere p f rows).map key = rows.map key := by
  rw [updateWhere, List.map_map]
  apply List.map_congr_left
  intro row _
  rw [Function.comp_apply]
  split
  · exact hkey row
  · rfl

/-- An update that keeps keys does not touch the rows of a key that it does not select. -/
theorem mem_updateWhere_of_key {key : ρ → κ} (hkey : ∀ row, key (f row) = key row) {k : κ}
    (h : ∀ row ∈ rows, key row = k → p row = false) {row : ρ} (hrow : key row = k) :
    row ∈ updateWhere p f rows ↔ row ∈ rows := by
  rw [mem_updateWhere]
  constructor
  · rintro (⟨old, hold, hp, rfl⟩ | ⟨hmem, _⟩)
    · rw [hkey] at hrow
      rw [h old hold hrow] at hp
      cases hp
    · exact hmem
  · intro hmem
    exact Or.inr ⟨hmem, h row hmem hrow⟩

end CryptoLending.Lib.Table
