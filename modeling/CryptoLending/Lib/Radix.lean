import Mathlib.Data.Nat.Digits.Lemmas

namespace CryptoLending.Lib.Radix

/-- The number that digits denote, the highest digit first. -/
def number (b : Nat) (ds : List Nat) : Nat := ds.foldl (fun n d => n * b + d) 0

def zeros (ds : List Nat) : Nat := (ds.takeWhile (· == 0)).length

/-- Digits in another base, where every leading zero stays one digit. -/
def convert (b c : Nat) (ds : List Nat) : List Nat :=
  List.replicate (zeros ds) 0 ++ (Nat.digits c (number b ds)).reverse

theorem number_append_singleton (b : Nat) (ds : List Nat) (d : Nat) :
    number b (ds ++ [d]) = number b ds * b + d := by
  rw [number, List.foldl_append]
  rfl

theorem number_eq_ofDigits (b : Nat) (ds : List Nat) : number b ds = Nat.ofDigits b ds.reverse := by
  induction ds using List.reverseRecOn with
  | nil => rfl
  | append_singleton ds d ih =>
    rw [number_append_singleton, ih, List.reverse_append, List.reverse_singleton,
      List.singleton_append, Nat.ofDigits_cons]
    ring

theorem number_lt {b : Nat} (hb : 1 < b) {ds : List Nat} (h : ∀ d ∈ ds, d < b) :
    number b ds < b ^ ds.length := by
  rw [number_eq_ofDigits, ← List.length_reverse]
  exact Nat.ofDigits_lt_base_pow_length hb (fun d hd => h d (List.mem_reverse.mp hd))

theorem number_inj {b : Nat} (hb : 1 < b) {ds es : List Nat} (hlength : ds.length = es.length)
    (hds : ∀ d ∈ ds, d < b) (hes : ∀ e ∈ es, e < b) (h : number b ds = number b es) : ds = es := by
  rw [number_eq_ofDigits, number_eq_ofDigits] at h
  apply List.reverse_injective
  apply Nat.ofDigits_inj_of_len_eq hb
  · rw [List.length_reverse, List.length_reverse, hlength]
  · exact fun d hd => hds d (List.mem_reverse.mp hd)
  · exact fun e he => hes e (List.mem_reverse.mp he)
  · exact h

theorem number_replicate_zero_append (b z : Nat) (ds : List Nat) :
    number b (List.replicate z 0 ++ ds) = number b ds := by
  have hzeros : number b (List.replicate z 0) = 0 := by
    induction z with
    | zero => rfl
    | succ z ih => rw [List.replicate_succ', number_append_singleton, ih, Nat.zero_mul]
  rw [number, List.foldl_append]
  change List.foldl _ (number b (List.replicate z 0)) ds = _
  rw [hzeros]
  rfl

theorem replicate_zeros_append (ds : List Nat) :
    List.replicate (zeros ds) 0 ++ ds.dropWhile (· == 0) = ds := by
  have hzeros : ds.takeWhile (· == 0) = List.replicate (zeros ds) 0 := by
    apply List.eq_replicate_of_mem
    intro d hd
    exact beq_iff_eq.mp (List.all_eq_true.mp List.all_takeWhile d hd)
  rw [← hzeros, List.takeWhile_append_dropWhile]

theorem head_dropWhile_ne (ds : List Nat) : (ds.dropWhile (· == 0)).head? ≠ some 0 := by
  intro h
  have hhead := List.head?_dropWhile_not (· == 0) ds
  rw [h] at hhead
  simp at hhead

theorem zeros_replicate_append {z : Nat} {ds : List Nat} (h : ds.head? ≠ some 0) :
    zeros (List.replicate z 0 ++ ds) = z := by
  rw [zeros, List.takeWhile_append_of_pos (by simp)]
  cases ds with
  | nil => simp
  | cons d ds =>
    have hd : d ≠ 0 := fun hd => h (by rw [hd, List.head?_cons])
    simp [hd]

/-- Digits without a leading zero are the digits of their number. -/
theorem digits_number {b : Nat} (hb : 1 < b) {ds : List Nat} (h : ∀ d ∈ ds, d < b)
    (hhead : ds.head? ≠ some 0) : (Nat.digits b (number b ds)).reverse = ds := by
  rw [number_eq_ofDigits, Nat.digits_ofDigits b hb, List.reverse_reverse]
  · exact fun d hd => h d (List.mem_reverse.mp hd)
  · intro hne hlast
    rw [List.getLast_reverse] at hlast
    apply hhead
    rw [List.head?_eq_some_head (List.reverse_ne_nil_iff.mp hne), hlast]

theorem head_digits_ne (c n : Nat) : (Nat.digits c n).reverse.head? ≠ some 0 := by
  intro h
  rw [List.head?_reverse] at h
  have hne : Nat.digits c n ≠ [] := by
    intro hnil
    rw [hnil] at h
    cases h
  have hn := Nat.digits_ne_nil_iff_ne_zero.mp hne
  rw [List.getLast?_eq_some_getLast hne] at h
  exact Nat.getLast_digit_ne_zero c hn (Option.some.inj h)

section Convert

variable {b c : Nat}

theorem zeros_convert (ds : List Nat) : zeros (convert b c ds) = zeros ds :=
  zeros_replicate_append (head_digits_ne c _)

theorem number_convert (ds : List Nat) : number c (convert b c ds) = number b ds := by
  rw [convert, number_replicate_zero_append, number_eq_ofDigits, List.reverse_reverse,
    Nat.ofDigits_digits]

theorem lt_of_mem_convert (hc : 1 < c) {ds : List Nat} {d : Nat} (h : d ∈ convert b c ds) :
    d < c := by
  rw [convert, List.mem_append, List.mem_replicate, List.mem_reverse] at h
  cases h with
  | inl h => omega
  | inr h => exact Nat.digits_lt_base hc h

/-- Digits are the leading zeros and the digits of the number. -/
theorem eq_convert_self (hb : 1 < b) {ds : List Nat} (h : ∀ d ∈ ds, d < b) :
    convert b b ds = ds := by
  have hrest := digits_number hb
    (fun d hd => h d ((List.dropWhile_sublist _).subset hd)) (head_dropWhile_ne ds)
  have hnumber := number_replicate_zero_append b (zeros ds) (ds.dropWhile (· == 0))
  rw [replicate_zeros_append] at hnumber
  rw [convert, hnumber, hrest, replicate_zeros_append]

/-- A conversion is undone by the conversion back. -/
theorem convert_convert (hb : 1 < b) {ds : List Nat} (h : ∀ d ∈ ds, d < b) :
    convert c b (convert b c ds) = ds := by
  have hself := eq_convert_self hb h
  rw [convert] at hself
  rw [convert, zeros_convert, number_convert, hself]

theorem length_convert (ds : List Nat) :
    (convert b c ds).length = zeros ds + (Nat.digits c (number b ds)).length := by
  rw [convert, List.length_append, List.length_replicate, List.length_reverse]

/-- A larger base needs no more digits. -/
theorem length_convert_ge (hc : 1 < c) (hbc : c ≤ b) {ds : List Nat} (h : ∀ d ∈ ds, d < b) :
    ds.length ≤ (convert b c ds).length := by
  have hself := congrArg List.length (eq_convert_self (lt_of_lt_of_le hc hbc) h)
  rw [length_convert] at hself
  rw [length_convert]
  have hle : (Nat.digits b (number b ds)).length ≤ (Nat.digits c (number b ds)).length := by
    rw [Nat.digits_length_le_iff (lt_of_lt_of_le hc hbc)]
    calc number b ds < c ^ (Nat.digits c (number b ds)).length := Nat.lt_base_pow_length_digits hc
      _ ≤ b ^ (Nat.digits c (number b ds)).length := Nat.pow_le_pow_left hbc _
  omega

/-- A number below a power of the base has at most that many digits. -/
theorem length_convert_le (extra : Nat) (hb : 1 < b) (hc : 1 < c) {ds : List Nat}
    (h : ∀ d ∈ ds, d < b) (hfit : ∀ k ≤ ds.length, b ^ k ≤ c ^ (k + extra)) :
    (convert b c ds).length ≤ ds.length + extra := by
  have hnumber := number_replicate_zero_append b (zeros ds) (ds.dropWhile (· == 0))
  have hlength := congrArg List.length (replicate_zeros_append ds)
  rw [replicate_zeros_append] at hnumber
  rw [List.length_append, List.length_replicate] at hlength
  have hlt := number_lt hb
    (fun d hd => h d ((List.dropWhile_sublist (· == 0)).subset hd))
  rw [length_convert, hnumber]
  have hdigits : (Nat.digits c (number b (ds.dropWhile (· == 0)))).length ≤
      (ds.dropWhile (· == 0)).length + extra := by
    rw [Nat.digits_length_le_iff hc]
    exact lt_of_lt_of_le hlt (hfit _ (by omega))
  omega

end Convert

section Carrying

/-- One step of a multiplication with carry, the lowest digit first. -/
theorem digits_mul_add {base : Nat} (hbase : 1 < base) (carry d factor : Nat) (n : Nat)
    (h : carry + factor * (d + base * n) ≠ 0) :
    Nat.digits base (carry + factor * (d + base * n)) =
      (carry + d * factor) % base ::
        Nat.digits base ((carry + d * factor) / base + factor * n) := by
  have hsplit : carry + factor * (d + base * n) = carry + d * factor + base * (factor * n) := by
    ring
  rw [Nat.digits_def' hbase (Nat.pos_of_ne_zero h), hsplit, Nat.add_mul_mod_self_left,
    Nat.add_mul_div_left _ _ (by omega)]

end Carrying

end CryptoLending.Lib.Radix
