import Mathlib.Algebra.BigOperators.Finsupp.Basic

namespace CryptoLending.Lib.Bookkeeping

variable {ι κ : Type}

/-- A signed amount of an asset, booked on an account. -/
structure Entry (ι κ : Type) where
  account : ι
  asset : κ
  amount : Int

/-- What each account holds of each asset. -/
abbrev Books (ι κ : Type) := κ → ι →₀ Int

/-- The sum over all accounts of an asset. -/
noncomputable def total (b : Books ι κ) (k : κ) : Int := (b k).sum (fun _ n => n)

@[simp] theorem total_zero (k : κ) : total (fun _ => 0 : Books ι κ) k = 0 := Finsupp.sum_zero_index

variable [DecidableEq κ]

/-- The sum of the entries of an asset. -/
def net (k : κ) (es : List (Entry ι κ)) : Int :=
  ((es.filter (fun e => e.asset = k)).map Entry.amount).sum

def Balanced (es : List (Entry ι κ)) : Prop := ∀ k, net k es = 0

noncomputable section

def book (b : Books ι κ) (e : Entry ι κ) : Books ι κ :=
  Function.update b e.asset (b e.asset + Finsupp.single e.account e.amount)

/-- Book all entries of a journal. -/
def bookAll (b : Books ι κ) (es : List (Entry ι κ)) : Books ι κ := es.foldl book b

end

theorem total_book (b : Books ι κ) (e : Entry ι κ) (k : κ) :
    total (book b e) k = total b k + net k [e] := by
  by_cases hk : e.asset = k
  · subst hk
    rw [total, book, Function.update_self, Finsupp.sum_add_index' (fun _ => rfl)
      (fun _ _ _ => rfl), Finsupp.sum_single_index rfl]
    simp [total, net]
  · rw [total, book, Function.update_of_ne (Ne.symm hk)]
    simp [total, net, hk]

theorem total_bookAll (b : Books ι κ) (es : List (Entry ι κ)) (k : κ) :
    total (bookAll b es) k = total b k + net k es := by
  induction es generalizing b with
  | nil => simp [bookAll, net]
  | cons e es ih =>
    have hnet : net k (e :: es) = net k [e] + net k es := by
      by_cases hk : e.asset = k <;> simp [net, hk]
    have hcons : bookAll b (e :: es) = bookAll (book b e) es := rfl
    rw [hcons, ih, total_book, hnet, Int.add_assoc]

/-- Balanced journals keep the total of every asset. -/
theorem total_run (b : Books ι κ) {journals : List (List (Entry ι κ))}
    (h : ∀ es ∈ journals, Balanced es) (k : κ) : total (journals.foldl bookAll b) k = total b k := by
  induction journals generalizing b with
  | nil => rfl
  | cons es journals ih =>
    rw [List.forall_mem_cons] at h
    rw [List.foldl_cons, ih _ h.2, total_bookAll, h.1 k, Int.add_zero]

end CryptoLending.Lib.Bookkeeping
