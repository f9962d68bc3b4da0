import Mathlib.Algebra.BigOperators.Ring.List
import Mathlib.Algebra.Order.Floor.Div
import Mathlib.Tactic.Linarith
import Mathlib.Tactic.Ring

namespace CryptoLending.Lib.SharePool

/-- What a pool holds and the shares that claim it. -/
structure Pool where
  assets : Nat
  shares : Nat

/-- Assets and shares that are counted on top of those of a pool. -/
structure Offsets where
  assets : Nat
  shares : Nat
  assets_pos : 0 < assets
  shares_pos : 0 < shares

variable (o : Offsets)

/-- What shares are worth, rounded down. -/
def worth (p : Pool) (shares : Nat) : Nat := shares * (p.assets + o.assets) / (p.shares + o.shares)

/-- What shares owe, rounded up. -/
def debt (p : Pool) (shares : Nat) : Nat :=
  (shares * (p.assets + o.assets) + (p.shares + o.shares - 1)) / (p.shares + o.shares)

/-- The shares that are minted for a fee which is part of the assets. -/
def feeShares (p : Pool) (fee : Nat) : Nat :=
  fee * (p.shares + o.shares) / (p.assets - fee + o.assets)

def addAssets (p : Pool) (interest : Nat) : Pool := { p with assets := p.assets + interest }

/-- The pool after interest was earned and shares were minted for the fee. -/
def accrue (p : Pool) (interest fee : Nat) : Pool where
  assets := p.assets + interest
  shares := p.shares + feeShares o (addAssets p interest) fee

variable {o}

theorem worth_mono {p : Pool} {s t : Nat} (h : s ≤ t) : worth o p s ≤ worth o p t :=
  Nat.div_le_div_right (Nat.mul_le_mul_right _ h)

theorem feeShares_mul_le {p : Pool} (fee : Nat) :
    feeShares o p fee * (p.assets - fee + o.assets) ≤ fee * (p.shares + o.shares) :=
  Nat.div_mul_le_self _ _

/-- The shares that are minted take no more than the fee from the others. -/
theorem feeShares_price {p : Pool} {interest fee : Nat} (h : fee ≤ interest) :
    feeShares o (addAssets p interest) fee * (p.assets + o.assets) ≤
      interest * (p.shares + o.shares) := by
  have hle : p.assets + o.assets ≤ (addAssets p interest).assets - fee + o.assets := by
    rw [addAssets]
    dsimp only
    omega
  calc feeShares o (addAssets p interest) fee * (p.assets + o.assets)
      ≤ feeShares o (addAssets p interest) fee *
          ((addAssets p interest).assets - fee + o.assets) := Nat.mul_le_mul_left _ hle
    _ ≤ fee * ((addAssets p interest).shares + o.shares) := feeShares_mul_le fee
    _ ≤ interest * (p.shares + o.shares) := Nat.mul_le_mul_right _ h

/-- Interest never dilutes a share, as long as the fee is part of the interest. -/
theorem worth_le_accrue {p : Pool} {interest fee : Nat} (h : fee ≤ interest) (s : Nat) :
    worth o p s ≤ worth o (accrue o p interest fee) s := by
  have hprice := feeShares_price (o := o) (p := p) h
  have hshares := o.shares_pos
  rw [worth, worth, Nat.le_div_iff_mul_le (by omega)]
  refine Nat.le_of_mul_le_mul_right ?_ (show 0 < p.shares + o.shares by omega)
  have hdown := Nat.div_mul_le_self (s * (p.assets + o.assets)) (p.shares + o.shares)
  generalize s * (p.assets + o.assets) / (p.shares + o.shares) = w at hdown ⊢
  rw [accrue] at *
  dsimp only at *
  generalize feeShares o (addAssets p interest) fee = minted at hprice ⊢
  calc w * (p.shares + minted + o.shares) * (p.shares + o.shares)
      = w * (p.shares + o.shares) * (p.shares + minted + o.shares) := by ring
    _ ≤ s * (p.assets + o.assets) * (p.shares + minted + o.shares) :=
        Nat.mul_le_mul_right _ hdown
    _ = s * ((p.assets + o.assets) * (p.shares + o.shares) + minted * (p.assets + o.assets)) := by
        ring
    _ ≤ s * ((p.assets + o.assets) * (p.shares + o.shares) + interest * (p.shares + o.shares)) :=
        Nat.mul_le_mul_left _ (Nat.add_le_add_left hprice _)
    _ = s * (p.assets + interest + o.assets) * (p.shares + o.shares) := by ring

/-- The shares that are minted for a fee are worth no more than the fee. -/
theorem worth_feeShares_le {p : Pool} {interest fee : Nat} (h : fee ≤ p.assets + interest) :
    worth o (accrue o p interest fee) (feeShares o (addAssets p interest) fee) ≤ fee := by
  have hminted := feeShares_mul_le (o := o) (p := addAssets p interest) fee
  have hassets : (addAssets p interest).assets - fee + o.assets + fee =
      p.assets + interest + o.assets := by
    rw [addAssets]
    dsimp only
    omega
  rw [worth]
  apply Nat.div_le_of_le_mul
  rw [accrue, ← hassets]
  dsimp only
  generalize feeShares o (addAssets p interest) fee = minted at hminted ⊢
  calc minted * ((addAssets p interest).assets - fee + o.assets + fee)
      = minted * ((addAssets p interest).assets - fee + o.assets) + minted * fee :=
        Nat.mul_add _ _ _
    _ ≤ fee * ((addAssets p interest).shares + o.shares) + minted * fee :=
        Nat.add_le_add_right hminted _
    _ = (p.shares + minted + o.shares) * fee := by
        rw [addAssets]
        ring

theorem sum_div_le (l : List Nat) (d : Nat) : (l.map (· / d)).sum ≤ l.sum / d := by
  induction l with
  | nil => exact Nat.zero_le _
  | cons n l ih =>
    rw [List.map_cons, List.sum_cons, List.sum_cons]
    exact (Nat.add_le_add_left ih _).trans Nat.div_add_div_le_add_div

/-- Parts of some shares are together worth no more than these. -/
theorem sum_worth_le_worth (p : Pool) (l : List Nat) : (l.map (worth o p)).sum ≤ worth o p l.sum := by
  have hle := sum_div_le (l.map (· * (p.assets + o.assets))) (p.shares + o.shares)
  rw [List.map_map, List.sum_map_mul_right, List.map_id'] at hle
  exact hle

/-- Shares that are no more than those of the pool are together worth less than what it holds and
its virtual assets. -/
theorem sum_worth_lt {p : Pool} {l : List Nat} (h : l.sum ≤ p.shares) :
    (l.map (worth o p)).sum < p.assets + o.assets := by
  have hassets := o.assets_pos
  have hshares := o.shares_pos
  refine (sum_worth_le_worth p l).trans_lt ((Nat.div_lt_iff_lt_mul (by omega)).mpr ?_)
  rw [Nat.mul_comm]
  exact Nat.mul_lt_mul_of_pos_left (by omega) (by omega)

/-- Shares that are no more than those of the pool are together worth no more than its assets. -/
theorem sum_worth_le {p : Pool} {l : List Nat} (ho : o.assets = 1) (h : l.sum ≤ p.shares) :
    (l.map (worth o p)).sum ≤ p.assets := by
  have hlt := sum_worth_lt (o := o) h
  omega

/-- Where a share is worth at least one asset, the virtual assets are not needed. -/
theorem sum_worth_le_of_shares_le {p : Pool} {l : List Nat} (ho : o.assets = o.shares)
    (h : l.sum ≤ p.shares) (hp : p.shares ≤ p.assets) : (l.map (worth o p)).sum ≤ p.assets := by
  have hshares := o.shares_pos
  refine (sum_worth_le_worth p l).trans (Nat.div_le_of_le_mul ?_)
  calc l.sum * (p.assets + o.assets) ≤ p.shares * (p.assets + o.assets) := Nat.mul_le_mul_right _ h
    _ = p.shares * p.assets + p.shares * o.shares := by rw [ho, Nat.mul_add]
    _ ≤ p.shares * p.assets + p.assets * o.shares :=
        Nat.add_le_add_left (Nat.mul_le_mul_right _ hp) _
    _ = (p.shares + o.shares) * p.assets := by ring

/-- More assets and fewer other shares never make shares worth less. -/
theorem worth_le_worth {p q : Pool} {s t : Nat} (hst : s ≤ t) (hassets : p.assets ≤ q.assets)
    (hshares : q.shares ≤ p.shares) : worth o p s ≤ worth o q t := by
  have hpos := o.shares_pos
  calc worth o p s ≤ t * (q.assets + o.assets) / (p.shares + o.shares) :=
        Nat.div_le_div_right (Nat.mul_le_mul hst (Nat.add_le_add_right hassets _))
    _ ≤ worth o q t := Nat.div_le_div_left (Nat.add_le_add_right hshares _) (by omega)

/-- What is owed is the least number of assets that covers the shares. -/
theorem debt_isLeast (p : Pool) (s : Nat) :
    IsLeast {n | s * (p.assets + o.assets) ≤ n * (p.shares + o.shares)} (debt o p s) := by
  have hshares := o.shares_pos
  have hceil : debt o p s = s * (p.assets + o.assets) ⌈/⌉ (p.shares + o.shares) := by
    rw [debt, Nat.ceilDiv_eq_add_pred_div]
    congr 1
    omega
  have hiff : ∀ n, debt o p s ≤ n ↔ s * (p.assets + o.assets) ≤ n * (p.shares + o.shares) := by
    intro n
    rw [hceil, ceilDiv_le_iff_le_mul (by omega), Nat.mul_comm n]
  exact ⟨(hiff _).mp le_rfl, fun n hn => (hiff n).mpr hn⟩

theorem debt_mono {p q : Pool} (h : p.assets ≤ q.assets) (hs : p.shares = q.shares) (s : Nat) :
    debt o p s ≤ debt o q s := by
  rw [debt, debt, hs]
  exact Nat.div_le_div_right (Nat.add_le_add_right (Nat.mul_le_mul_left _
    (Nat.add_le_add_right h _)) _)

end CryptoLending.Lib.SharePool

namespace CryptoLending.Lib.DebtIndex

/-- A debt that grew with an index, rounded down. -/
def grown (debt now before : Nat) : Nat := debt * now / before

theorem le_grown {debt now before : Nat} (hpos : 0 < before) (h : before ≤ now) :
    debt ≤ grown debt now before := by
  rw [grown, Nat.le_div_iff_mul_le hpos]
  exact Nat.mul_le_mul_left _ h

/-- A debt that grows in two steps is no more than one that grows in one step. -/
theorem grown_grown_le {debt before now later : Nat} (hbefore : 0 < before) (hnow : 0 < now) :
    grown (grown debt now before) later now ≤ grown debt later before := by
  have hfirst : grown debt now before * before ≤ debt * now := Nat.div_mul_le_self _ _
  have hsecond : grown (grown debt now before) later now * now ≤ grown debt now before * later :=
    Nat.div_mul_le_self _ _
  generalize grown debt now before = d at hfirst hsecond ⊢
  generalize grown d later now = e at hsecond ⊢
  rw [grown, Nat.le_div_iff_mul_le hbefore]
  refine Nat.le_of_mul_le_mul_right ?_ hnow
  calc e * before * now = e * now * before := by ring
    _ ≤ d * later * before := Nat.mul_le_mul_right _ hsecond
    _ = d * before * later := by ring
    _ ≤ debt * now * later := Nat.mul_le_mul_right _ hfirst
    _ = debt * later * now := by ring

end CryptoLending.Lib.DebtIndex

namespace CryptoLending.Lib.FlooredRate

section Divided

/-- An amount divided by a rate that was rounded down. -/
def divided (x num den : Nat) : Nat := x / (num / den)

variable {x num den : Nat}

/-- A divisor that was rounded down rounds the quotient up. -/
theorem le_divided (h : 0 < num / den) : x * den / num ≤ divided x num den := by
  have hden : 0 < den := Nat.pos_of_ne_zero fun h0 => by simp [h0] at h
  have hrate : num / den * den ≤ num := Nat.div_mul_le_self _ _
  have hexact : x * den / num * num ≤ x * den := Nat.div_mul_le_self _ _
  generalize x * den / num = q at hexact ⊢
  rw [divided, Nat.le_div_iff_mul_le h]
  refine Nat.le_of_mul_le_mul_right ?_ hden
  calc q * (num / den) * den = q * (num / den * den) := Nat.mul_assoc _ _ _
    _ ≤ q * num := Nat.mul_le_mul_left _ hrate
    _ ≤ x * den := hexact

/-- The quotient is too large by no more than the rate lost. -/
theorem divided_mul_le (hden : 0 < den) :
    divided x num den * (num + 1) ≤ x * den + divided x num den * den := by
  have hrate : num + 1 ≤ num / den * den + den := by
    have hmod := Nat.mod_lt num hden
    have hdiv := Nat.div_add_mod' num den
    omega
  have hquotient : divided x num den * (num / den) ≤ x := Nat.div_mul_le_self _ _
  generalize divided x num den = q at hquotient ⊢
  calc q * (num + 1) ≤ q * (num / den * den + den) := Nat.mul_le_mul_left _ hrate
    _ = q * (num / den) * den + q * den := by ring
    _ ≤ x * den + q * den := Nat.add_le_add_right (Nat.mul_le_mul_right _ hquotient) _

end Divided

section Scaled

/-- An amount multiplied by a rate that was rounded down, in units of the scale. -/
def scaled (x num den scale : Nat) : Nat := x * (num / den) / scale

variable {x num den scale : Nat}

theorem scaled_mul_le (hscale : 0 < scale) (num' : Nat) (hnum : num = num' * scale) :
    scaled x num den scale * den ≤ x * num' := by
  have hrate : num / den * den ≤ num := Nat.div_mul_le_self _ _
  have hfloor : scaled x num den scale * scale ≤ x * (num / den) := Nat.div_mul_le_self _ _
  generalize scaled x num den scale = q at hfloor ⊢
  refine Nat.le_of_mul_le_mul_right ?_ hscale
  calc q * den * scale = q * scale * den := by ring
    _ ≤ x * (num / den) * den := Nat.mul_le_mul_right _ hfloor
    _ = x * (num / den * den) := Nat.mul_assoc _ _ _
    _ ≤ x * num := Nat.mul_le_mul_left _ hrate
    _ = x * num' * scale := by rw [hnum, Nat.mul_assoc]

/-- Both floors together lose less than one unit of each. -/
theorem le_scaled_mul (hden : 0 < den) (hscale : 0 < scale) :
    x * num ≤ den * (scale * scaled x num den scale + (scale - 1)) + x * (den - 1) := by
  have hrate : num ≤ den * (num / den) + (den - 1) := by
    have hmod := Nat.mod_lt num hden
    have hdiv := Nat.div_add_mod num den
    omega
  have hfloor : x * (num / den) ≤ scale * scaled x num den scale + (scale - 1) := by
    have hmod := Nat.mod_lt (x * (num / den)) hscale
    have hdiv := Nat.div_add_mod (x * (num / den)) scale
    rw [scaled]
    omega
  calc x * num ≤ x * (den * (num / den) + (den - 1)) := Nat.mul_le_mul_left _ hrate
    _ = den * (x * (num / den)) + x * (den - 1) := by ring
    _ ≤ den * (scale * scaled x num den scale + (scale - 1)) + x * (den - 1) :=
        Nat.add_le_add_right (Nat.mul_le_mul_left _ hfloor) _

/-- A rate of at least one never makes an amount smaller. -/
theorem le_scaled (hden : 0 < den) (hscale : 0 < scale) (h : den * scale ≤ num) :
    x ≤ scaled x num den scale := by
  rw [scaled, Nat.le_div_iff_mul_le hscale]
  refine Nat.mul_le_mul_left _ ((Nat.le_div_iff_mul_le hden).mpr ?_)
  rwa [Nat.mul_comm]

end Scaled

end CryptoLending.Lib.FlooredRate
