import Mathlib.Data.List.Chain

namespace CryptoLending.Lib.HashChain

/-- A block of a chain whose blocks name their parents by hash. -/
structure Block (H : Type) where
  position : Nat
  hash : H
  parentHash : H
  deriving DecidableEq

variable {H : Type} {a b c : Block H}

/-- The next block of a chain. -/
structure Succeeds (b c : Block H) : Prop where
  position : c.position = b.position + 1
  parent : c.parentHash = b.hash

/-- A block stays or is followed by its next block. -/
def Extends (b c : Block H) : Prop := c = b ∨ Succeeds b c

/-- A block does not contradict an earlier one: it is not below it, equals it at its position,
and names it as parent at the next position. -/
structure Fits (anchor b : Block H) : Prop where
  above : anchor.position ≤ b.position
  same : b.position = anchor.position → b = anchor
  next : b.position = anchor.position + 1 → b.parentHash = anchor.hash

theorem Fits.refl (b : Block H) : Fits b b where
  above := Nat.le_refl _
  same _ := rfl
  next h := by omega

theorem Succeeds.fits (h : Succeeds b c) : Fits b c where
  above := by
    have hp := h.position
    omega
  same hp := by
    have hp' := h.position
    omega
  next _ := h.parent

/-- What fits an anchor goes on fitting it as the chain grows. -/
theorem Fits.extends (h : Fits a b) (hbc : Extends b c) : Fits a c := by
  obtain rfl | hs := hbc
  · exact h
  · have hp := hs.position
    have ha := h.above
    constructor
    · omega
    · intro hc
      omega
    · intro hc
      rw [hs.parent, h.same (by omega)]

instance [DecidableEq H] (anchor b : Block H) : Decidable (Fits anchor b) :=
  decidable_of_iff (anchor.position ≤ b.position ∧ (b.position = anchor.position → b = anchor) ∧
      (b.position = anchor.position + 1 → b.parentHash = anchor.hash))
    ⟨fun h => ⟨h.1, h.2.1, h.2.2⟩, fun h => ⟨h.above, h.same, h.next⟩⟩

end CryptoLending.Lib.HashChain
