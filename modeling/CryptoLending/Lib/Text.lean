import Mathlib.Data.List.Induction
import Mathlib.Data.Nat.Digits.Defs
import Mathlib.Data.String.Basic

namespace CryptoLending.Lib.Text

/-- A text matches a shape when it has one character for each class of the shape. -/
def matchesShape : List (Char → Bool) → List Char → Bool
  | [], [] => true
  | p :: ps, c :: cs => p c && matchesShape ps cs
  | _, _ => false

def isDigit (c : Char) : Bool := '0' ≤ c && c ≤ '9'

def isLowerHex (c : Char) : Bool := isDigit c || ('a' ≤ c && c ≤ 'f')

/-- Visible characters, without the blank. -/
def isVisible (c : Char) : Bool := '\x21' ≤ c && c ≤ '\x7e'

/-- A numeral without a leading zero. -/
def isPositiveUint (cs : List Char) : Bool := cs.all isDigit && cs.head?.any (· != '0')

/-- A canonical unsigned numeral: zero, or no leading zero. -/
def isCanonicalUint (cs : List Char) : Bool := cs == ['0'] || isPositiveUint cs

def digitValue (c : Char) : Nat := c.toNat - '0'.toNat

/-- The number a sequence of decimal digits denotes. -/
def decimalValue (cs : List Char) : Nat := cs.foldl (fun n c => 10 * n + digitValue c) 0

theorem decimalValue_append_singleton (cs : List Char) (c : Char) :
    decimalValue (cs ++ [c]) = 10 * decimalValue cs + digitValue c := by
  simp [decimalValue]

theorem isDigit_iff (c : Char) : isDigit c = true ↔ 48 ≤ c.toNat ∧ c.toNat ≤ 57 := by
  simp only [isDigit, Bool.and_eq_true, decide_eq_true_eq]
  exact Iff.rfl

theorem digitValue_lt {c : Char} (h : isDigit c = true) : digitValue c < 10 := by
  have hc := (isDigit_iff c).mp h
  change c.toNat - 48 < 10
  omega

theorem digitValue_injective {c d : Char} (hc : isDigit c = true) (hd : isDigit d = true)
    (h : digitValue c = digitValue d) : c = d := by
  have hc' := (isDigit_iff c).mp hc
  have hd' := (isDigit_iff d).mp hd
  change c.toNat - 48 = d.toNat - 48 at h
  exact Char.ext (UInt32.toNat_inj.mp (by change c.toNat = d.toNat; omega))

theorem decimalValue_lt {cs : List Char} (h : cs.all isDigit = true) :
    decimalValue cs < 10 ^ cs.length := by
  induction cs using List.reverseRecOn with
  | nil => simp [decimalValue]
  | append_singleton cs c ih =>
    simp only [List.all_append, List.all_cons, List.all_nil, Bool.and_true, Bool.and_eq_true] at h
    have hv := ih h.1
    have hc := digitValue_lt h.2
    rw [decimalValue_append_singleton, List.length_append, List.length_singleton, pow_succ]
    omega

theorem isCanonicalUint_digits {cs : List Char} (h : isCanonicalUint cs = true) :
    cs.all isDigit = true := by
  simp only [isCanonicalUint, isPositiveUint, Bool.or_eq_true, beq_iff_eq, Bool.and_eq_true] at h
  rcases h with rfl | h
  · decide
  · exact h.1

theorem decimalValue_cons (c : Char) (cs : List Char) :
    decimalValue (c :: cs) = digitValue c * 10 ^ cs.length + decimalValue cs := by
  induction cs using List.reverseRecOn with
  | nil => simp [decimalValue]
  | append_singleton cs d ih =>
    rw [← List.cons_append, decimalValue_append_singleton, ih, decimalValue_append_singleton,
      List.length_append, List.length_singleton, pow_succ]
    ring

theorem decimalValue_injective {cs ds : List Char} (hc : cs.all isDigit = true)
    (hd : ds.all isDigit = true) (hl : cs.length = ds.length)
    (h : decimalValue cs = decimalValue ds) : cs = ds := by
  induction cs generalizing ds with
  | nil => exact (List.length_eq_zero_iff.mp hl.symm).symm
  | cons c cs ih =>
    cases ds with
    | nil => simp at hl
    | cons d ds =>
      simp only [List.all_cons, Bool.and_eq_true] at hc hd
      simp only [List.length_cons, Nat.add_right_cancel_iff] at hl
      rw [decimalValue_cons, decimalValue_cons, hl] at h
      have hcs := hl ▸ decimalValue_lt hc.2
      have hds := decimalValue_lt hd.2
      have hpos : 0 < 10 ^ ds.length := by positivity
      have hdiv := congrArg (· / 10 ^ ds.length) h
      have hmod := congrArg (· % 10 ^ ds.length) h
      simp only [Nat.add_comm (_ * _), Nat.add_mul_div_right _ _ hpos, Nat.div_eq_of_lt hcs,
        Nat.div_eq_of_lt hds, Nat.zero_add] at hdiv
      simp only [Nat.add_comm (_ * _), Nat.add_mul_mod_self_right, Nat.mod_eq_of_lt hcs,
        Nat.mod_eq_of_lt hds] at hmod
      rw [digitValue_injective hc.1 hd.1 hdiv, ih hc.2 hd.2 hl hmod]

theorem digit_lt_iff {c d : Char} (hc : isDigit c = true) (hd : isDigit d = true) :
    c < d ↔ digitValue c < digitValue d := by
  have hc' := (isDigit_iff c).mp hc
  have hd' := (isDigit_iff d).mp hd
  change c.toNat < d.toNat ↔ c.toNat - 48 < d.toNat - 48
  omega

/-- Numerals of one length are ordered like the numbers they denote. -/
theorem decimalValue_lt_iff {cs ds : List Char} (hc : cs.all isDigit = true)
    (hd : ds.all isDigit = true) (hl : cs.length = ds.length) :
    cs < ds ↔ decimalValue cs < decimalValue ds := by
  induction cs generalizing ds with
  | nil =>
    obtain rfl := List.length_eq_zero_iff.mp hl.symm
    exact iff_of_false (List.lt_irrefl []) (Nat.lt_irrefl _)
  | cons c cs ih =>
    cases ds with
    | nil => simp at hl
    | cons d ds =>
      simp only [List.all_cons, Bool.and_eq_true] at hc hd
      simp only [List.length_cons, Nat.add_right_cancel_iff] at hl
      have hcs := decimalValue_lt hc.2
      have hds := decimalValue_lt hd.2
      rw [List.cons_lt_cons_iff, ih hc.2 hd.2 hl, digit_lt_iff hc.1 hd.1, decimalValue_cons,
        decimalValue_cons, hl]
      rw [hl] at hcs
      have hinj : c = d ↔ digitValue c = digitValue d :=
        ⟨congrArg digitValue, digitValue_injective hc.1 hd.1⟩
      rw [hinj]
      generalize decimalValue cs = m at hcs
      generalize decimalValue ds = n at hds
      generalize 10 ^ ds.length = p at hcs hds
      constructor
      · rintro (h | ⟨h, h'⟩)
        · calc digitValue c * p + m < (digitValue c + 1) * p := by rw [Nat.add_one_mul]; omega
            _ ≤ digitValue d * p := Nat.mul_le_mul_right p h
            _ ≤ digitValue d * p + n := Nat.le_add_right _ _
        · rw [h]
          omega
      · intro h
        obtain hlt | heq | hgt := lt_trichotomy (digitValue c) (digitValue d)
        · exact .inl hlt
        · rw [heq] at h
          exact .inr ⟨heq, by omega⟩
        · have hp : (digitValue d + 1) * p ≤ digitValue c * p := Nat.mul_le_mul_right p hgt
          rw [Nat.add_one_mul] at hp
          omega

/-- Texts of one length are ordered by their first difference. -/
theorem append_lt_append_iff {cs ds us vs : List Char} (hl : cs.length = ds.length) :
    cs ++ us < ds ++ vs ↔ cs < ds ∨ cs = ds ∧ us < vs := by
  induction cs generalizing ds with
  | nil =>
    obtain rfl := List.length_eq_zero_iff.mp hl.symm
    simp
  | cons c cs ih =>
    cases ds with
    | nil => simp at hl
    | cons d ds =>
      simp only [List.length_cons, Nat.add_right_cancel_iff] at hl
      simp only [List.cons_append, List.cons_lt_cons_iff, ih hl, List.cons.injEq]
      tauto

theorem isPositiveUint_le {cs : List Char} (h : isPositiveUint cs = true) :
    10 ^ (cs.length - 1) ≤ decimalValue cs := by
  cases cs with
  | nil => simp [isPositiveUint] at h
  | cons c cs =>
    simp only [isPositiveUint, List.all_cons, List.head?_cons, Option.any_some, Bool.and_eq_true,
      bne_iff_ne] at h
    have hv : digitValue c ≠ 0 := fun h0 => h.2 (digitValue_injective h.1.1 (by decide) h0)
    rw [decimalValue_cons, List.length_cons, Nat.add_sub_cancel]
    calc 10 ^ cs.length = 1 * 10 ^ cs.length := (Nat.one_mul _).symm
      _ ≤ digitValue c * 10 ^ cs.length := Nat.mul_le_mul_right _ (by omega)
      _ ≤ _ := Nat.le_add_right _ _

/-- A canonical numeral is determined by its value. -/
theorem isCanonicalUint_injective {cs ds : List Char} (hc : isCanonicalUint cs = true)
    (hd : isCanonicalUint ds = true) (h : decimalValue cs = decimalValue ds) : cs = ds := by
  have hl : cs.length = ds.length := by
    have hcd := isCanonicalUint_digits hc
    have hdd := isCanonicalUint_digits hd
    simp only [isCanonicalUint, Bool.or_eq_true, beq_iff_eq] at hc hd
    have hlen : ∀ {as bs : List Char}, as.all isDigit = true → isPositiveUint bs = true →
        decimalValue as = decimalValue bs → bs.length ≤ as.length := by
      intro as bs ha hb hv
      by_contra hlt
      have h1 := decimalValue_lt ha
      have h2 := isPositiveUint_le hb
      have h3 : 10 ^ as.length ≤ 10 ^ (bs.length - 1) := Nat.pow_le_pow_right (by omega) (by omega)
      omega
    rcases hc with rfl | hc <;> rcases hd with rfl | hd
    · rfl
    · have h1 := hlen hcd hd h
      have h2 : ds ≠ [] := by rintro rfl; simp [isPositiveUint] at hd
      have h3 := List.length_pos_iff.mpr h2
      simp only [List.length_singleton] at h1 ⊢
      omega
    · have h1 := hlen hdd hc h.symm
      have h2 : cs ≠ [] := by rintro rfl; simp [isPositiveUint] at hc
      have h3 := List.length_pos_iff.mpr h2
      simp only [List.length_singleton] at h1 ⊢
      omega
    · exact Nat.le_antisymm (hlen hdd hc h.symm) (hlen hcd hd h)
  exact decimalValue_injective (isCanonicalUint_digits hc) (isCanonicalUint_digits hd) hl h

end CryptoLending.Lib.Text
