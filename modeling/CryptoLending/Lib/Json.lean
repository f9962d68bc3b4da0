import Mathlib.Data.List.Lookmap
import Mathlib.Data.Nat.Digits.Defs
import CryptoLending.Lib.Text

namespace CryptoLending.Lib.Json

open Lib.Text

/-- The items of a flat array. -/
inductive Scalar where
  | null
  | number (n : Nat)
  | string (s : String)
  deriving DecidableEq

/-- Characters with a two-character escape. -/
def shortEscapes : List (Char × Char) :=
  [('"', '"'), ('\\', '\\'), ('\x08', 'b'), ('\t', 't'), ('\n', 'n'), ('\x0c', 'f'), ('\r', 'r')]

def escape (c : Char) : List Char :=
  match shortEscapes.lookup c with
  | some x => ['\\', x]
  | none =>
    if c.toNat < 32 then
      ['\\', 'u', '0', '0', Nat.digitChar (c.toNat / 16), Nat.digitChar (c.toNat % 16)]
    else [c]

def quote (s : String) : List Char := '"' :: (s.toList.flatMap escape ++ ['"'])

def Scalar.text : Scalar → List Char
  | .null => ['n', 'u', 'l', 'l']
  | .number n => Nat.toDigits 10 n
  | .string s => quote s

/-- What follows the first item of an array. -/
def tailText : List Scalar → List Char
  | [] => [']']
  | x :: xs => ',' :: (x.text ++ tailText xs)

def arrayText : List Scalar → List Char
  | [] => ['[', ']']
  | x :: xs => '[' :: (x.text ++ tailText xs)

/-- The text of a flat array without blanks. -/
def stringify (items : List Scalar) : String := String.ofList (arrayText items)

example : stringify [.number 10, .null, .string "a\"b\n"] = "[10,null,\"a\\\"b\\n\"]" := by
  decide

theorem shortEscapes_injective : ∀ p ∈ shortEscapes, ∀ q ∈ shortEscapes, p.2 = q.2 → p.1 = q.1 := by
  decide

theorem shortEscapes_ne_u : ∀ p ∈ shortEscapes, p.2 ≠ 'u' := by decide

theorem mem_shortEscapes {c x : Char} (h : shortEscapes.lookup c = some x) :
    (c, x) ∈ shortEscapes := by
  obtain ⟨l₁, l₂, hs, _⟩ := List.lookup_eq_some_iff.mp h
  simp [hs]

theorem digitChar_injective : ∀ a < 16, ∀ b < 16, Nat.digitChar a = Nat.digitChar b → a = b := by
  decide

/-- The three shapes of an escaped character. -/
inductive Escaped (c : Char) : List Char → Prop
  | short {x : Char} (h : (c, x) ∈ shortEscapes) : Escaped c ['\\', x]
  | control (h : c.toNat < 32) :
      Escaped c ['\\', 'u', '0', '0', Nat.digitChar (c.toNat / 16), Nat.digitChar (c.toNat % 16)]
  | plain (hq : c ≠ '"') (hb : c ≠ '\\') : Escaped c [c]

theorem escape_escaped (c : Char) : Escaped c (escape c) := by
  unfold escape
  split
  · exact .short (mem_shortEscapes ‹_›)
  · split
    · exact .control ‹_›
    · have hl : shortEscapes.lookup c = none := ‹_›
      exact .plain (by rintro rfl; simp [shortEscapes] at hl) (by rintro rfl; simp [shortEscapes] at hl)

/-- Escapes are a prefix code. -/
theorem escaped_append_cancel {c d : Char} {u v r s : List Char} (hc : Escaped c u)
    (hd : Escaped d v) (h : u ++ r = v ++ s) : c = d ∧ r = s := by
  cases hc with
  | short hcx =>
    cases hd with
    | short hdx =>
      simp only [List.cons_append, List.nil_append, List.cons.injEq, true_and] at h
      exact ⟨shortEscapes_injective _ hcx _ hdx h.1, h.2⟩
    | control => simp [shortEscapes_ne_u _ hcx] at h
    | plain _ hb => simp [hb.symm] at h
  | control hc =>
    cases hd with
    | short hdx => simp [(shortEscapes_ne_u _ hdx).symm] at h
    | control hd =>
      simp only [List.cons_append, List.nil_append, List.cons.injEq, true_and] at h
      have hq := digitChar_injective _ (by omega) _ (by omega) h.1
      have hr := digitChar_injective _ (by omega) _ (by omega) h.2.1
      exact ⟨Char.ext (UInt32.toNat_inj.mp (by change c.toNat = d.toNat; omega)), h.2.2⟩
    | plain _ hb => simp [hb.symm] at h
  | plain _ hcb =>
    cases hd with
    | short => simp [hcb] at h
    | control => simp [hcb] at h
    | plain => simpa using h

theorem escape_append_ne (c : Char) (r s : List Char) : escape c ++ r ≠ '"' :: s := by
  have h := escape_escaped c
  generalize escape c = u at h
  cases h with
  | short => simp
  | control => simp
  | plain hq => simp [hq]

theorem body_append_cancel {s t : List Char} {u v : List Char}
    (h : s.flatMap escape ++ '"' :: u = t.flatMap escape ++ '"' :: v) : s = t ∧ u = v := by
  induction s generalizing t with
  | nil =>
    cases t with
    | nil => simpa using h
    | cons d t =>
      rw [List.flatMap_cons, List.append_assoc] at h
      exact absurd h.symm (escape_append_ne d _ _)
  | cons c s ih =>
    cases t with
    | nil =>
      rw [List.flatMap_cons, List.append_assoc] at h
      exact absurd h (escape_append_ne c _ _)
    | cons d t =>
      rw [List.flatMap_cons, List.flatMap_cons, List.append_assoc, List.append_assoc] at h
      obtain ⟨rfl, hr⟩ := escaped_append_cancel (escape_escaped c) (escape_escaped d) h
      obtain ⟨rfl, huv⟩ := ih hr
      exact ⟨rfl, huv⟩

/-- What may follow an item. -/
def Closes (r : List Char) : Prop := ∃ c u, r = c :: u ∧ c.isDigit = false

theorem closes_tailText (xs : List Scalar) : Closes (tailText xs) := by
  cases xs with
  | nil => exact ⟨_, _, rfl, rfl⟩
  | cons x xs => exact ⟨_, _, rfl, rfl⟩

theorem digits_append_cancel {cs ds r s : List Char} (hc : ∀ c ∈ cs, c.isDigit = true)
    (hd : ∀ d ∈ ds, d.isDigit = true) (hr : Closes r) (hs : Closes s) (h : cs ++ r = ds ++ s) :
    cs = ds ∧ r = s := by
  induction cs generalizing ds with
  | nil =>
    cases ds with
    | nil => exact ⟨rfl, h⟩
    | cons d ds =>
      obtain ⟨c, u, rfl, hcu⟩ := hr
      rw [List.nil_append, List.cons_append, List.cons.injEq] at h
      rw [h.1, hd d List.mem_cons_self] at hcu
      cases hcu
  | cons c cs ih =>
    cases ds with
    | nil =>
      obtain ⟨d, u, rfl, hdu⟩ := hs
      rw [List.nil_append, List.cons_append, List.cons.injEq] at h
      rw [← h.1, hc c List.mem_cons_self] at hdu
      cases hdu
    | cons d ds =>
      rw [List.cons_append, List.cons_append, List.cons.injEq] at h
      obtain ⟨rfl, hrs⟩ := ih (fun x hx => hc x (List.mem_cons_of_mem _ hx))
        (fun x hx => hd x (List.mem_cons_of_mem _ hx)) h.2
      exact ⟨by rw [h.1], hrs⟩

theorem isDigit_of_mem_number {n : Nat} {c : Char} (h : c ∈ Nat.toDigits 10 n) :
    c.isDigit = true := Nat.isDigit_of_mem_toDigits (by omega) (by omega) h

theorem number_text (n : Nat) : ∃ c cs, (Scalar.number n).text = c :: cs ∧ c.isDigit = true := by
  cases h : Nat.toDigits 10 n with
  | nil => exact absurd h Nat.toDigits_ne_nil
  | cons c cs =>
    have hc : c ∈ Nat.toDigits 10 n := by simp [h]
    exact ⟨c, cs, h, isDigit_of_mem_number hc⟩

/-- An item is determined by its text in front of anything that may follow it. -/
theorem scalar_append_cancel {x y : Scalar} {r s : List Char} (hr : Closes r) (hs : Closes s)
    (h : x.text ++ r = y.text ++ s) : x = y ∧ r = s := by
  cases x with
  | null =>
    cases y with
    | null => simpa [Scalar.text] using h
    | number n =>
      obtain ⟨c, cs, hn, hc⟩ := number_text n
      rw [hn] at h
      obtain rfl : 'n' = c := by simpa [Scalar.text] using congrArg List.head? h
      cases hc
    | string t => simp [Scalar.text, quote] at h
  | number m =>
    cases y with
    | null =>
      obtain ⟨c, cs, hm, hc⟩ := number_text m
      rw [hm] at h
      obtain rfl : c = 'n' := by simpa [Scalar.text] using congrArg List.head? h
      cases hc
    | number n =>
      obtain ⟨hd, hrs⟩ := digits_append_cancel (fun c hc => isDigit_of_mem_number hc)
        (fun c hc => isDigit_of_mem_number hc) hr hs h
      have hv := congrArg (Nat.ofDigitChars 10 · 0) hd
      simp only [Nat.ofDigitChars_ten_toDigits] at hv
      exact ⟨by rw [hv], hrs⟩
    | string t =>
      obtain ⟨c, cs, hm, hc⟩ := number_text m
      rw [hm] at h
      obtain rfl : c = '"' := by simpa [Scalar.text, quote] using congrArg List.head? h
      cases hc
  | string t =>
    cases y with
    | null => simp [Scalar.text, quote] at h
    | number n =>
      obtain ⟨c, cs, hn, hc⟩ := number_text n
      rw [hn] at h
      obtain rfl : '"' = c := by simpa [Scalar.text, quote] using congrArg List.head? h
      cases hc
    | string u =>
      simp only [Scalar.text, quote, List.cons_append, List.append_assoc, List.nil_append,
        List.cons.injEq, true_and] at h
      obtain ⟨hs, hrs⟩ := body_append_cancel h
      exact ⟨by rw [String.toList_inj.mp hs], hrs⟩

theorem tailText_injective {xs ys : List Scalar} (h : tailText xs = tailText ys) : xs = ys := by
  induction xs generalizing ys with
  | nil =>
    cases ys with
    | nil => rfl
    | cons y ys => simp [tailText] at h
  | cons x xs ih =>
    cases ys with
    | nil => simp [tailText] at h
    | cons y ys =>
      simp only [tailText, List.cons.injEq, true_and] at h
      obtain ⟨rfl, ht⟩ := scalar_append_cancel (closes_tailText xs) (closes_tailText ys) h
      rw [ih ht]

theorem text_append_ne (x : Scalar) (r : List Char) : x.text ++ r ≠ [']'] := by
  cases x with
  | null => simp [Scalar.text]
  | number n =>
    obtain ⟨c, cs, hn, hc⟩ := number_text n
    rw [hn]
    rintro h
    obtain ⟨rfl, _⟩ : c = ']' ∧ cs ++ r = [] := by simpa using h
    cases hc
  | string s => simp [Scalar.text, quote]

/-- A flat array is determined by its text. -/
theorem stringify_injective {xs ys : List Scalar} (h : stringify xs = stringify ys) : xs = ys := by
  have ha : arrayText xs = arrayText ys := String.ofList_injective h
  cases xs with
  | nil =>
    cases ys with
    | nil => rfl
    | cons y ys =>
      simp only [arrayText, List.cons.injEq, true_and] at ha
      exact absurd ha.symm (text_append_ne y _)
  | cons x xs =>
    cases ys with
    | nil =>
      simp only [arrayText, List.cons.injEq, true_and] at ha
      exact absurd ha (text_append_ne x _)
    | cons y ys =>
      simp only [arrayText, List.cons.injEq, true_and] at ha
      obtain ⟨rfl, ht⟩ := scalar_append_cancel (closes_tailText xs) (closes_tailText ys) ha
      rw [tailText_injective ht]

end CryptoLending.Lib.Json
