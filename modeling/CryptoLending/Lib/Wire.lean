import Mathlib.Data.List.Basic
import Mathlib.Data.List.Forall2

namespace CryptoLending.Lib.Wire

variable {β ε α γ : Type}

/-- A reader moves over the bytes that are not read yet, and may fail. -/
abbrev Reader (β ε : Type) := StateT (List β) (Except ε)

def reject (e : ε) : Reader β ε α := fun _ => .error e

/-- Fail when a condition holds. -/
def rejectWhen (c : Prop) [Decidable c] (e : ε) : Reader β ε Unit :=
  if c then reject e else pure ()

def unread : Reader β ε (List β) := get

/-- The next bytes, as many as asked for. -/
def take (length : Nat) (e : ε) : Reader β ε (List β) := fun bytes =>
  if length > bytes.length then .error e else .ok (bytes.take length, bytes.drop length)

/-- One reader several times. -/
def times (n : Nat) (read : Reader β ε α) : Reader β ε (List α) :=
  match n with
  | 0 => pure []
  | n + 1 => do
    let a ← read
    let as ← times n read
    return a :: as

/-- A reader succeeds exactly on the texts of the valid items, and stops behind them. -/
def Reads (read : Reader β ε α) (valid : α → Prop) (write : α → List β) : Prop :=
  ∀ bytes a rest, read bytes = .ok (a, rest) ↔ valid a ∧ bytes = write a ++ rest

section Steps

variable {bytes rest : List β} {e : ε}

theorem pure_ok {a b : α} : (pure a : Reader β ε α) bytes = .ok (b, rest) ↔ a = b ∧ bytes = rest := by
  change Except.ok (a, bytes) = Except.ok (b, rest) ↔ _
  rw [Except.ok.injEq, Prod.mk.injEq]

theorem bind_ok {read : Reader β ε α} {f : α → Reader β ε γ} {c : γ} :
    (read >>= f) bytes = .ok (c, rest) ↔
      ∃ a mid, read bytes = .ok (a, mid) ∧ f a mid = .ok (c, rest) := by
  change (read bytes >>= fun p => f p.1 p.2) = _ ↔ _
  cases hread : read bytes with
  | error e =>
    constructor
    · intro h
      cases h
    · rintro ⟨a, mid, h, -⟩
      cases h
  | ok p =>
    constructor
    · intro h
      exact ⟨p.1, p.2, rfl, h⟩
    · rintro ⟨a, mid, h, hf⟩
      obtain rfl := Except.ok.inj h
      exact hf

theorem reject_ok {a : α} : (reject e : Reader β ε α) bytes = .ok (a, rest) ↔ False := by
  constructor
  · intro h
    cases h
  · exact False.elim

theorem rejectWhen_ok {c : Prop} [Decidable c] {u : Unit} :
    (rejectWhen c e : Reader β ε Unit) bytes = .ok (u, rest) ↔ ¬c ∧ bytes = rest := by
  by_cases hc : c
  · rw [rejectWhen, if_pos hc, reject_ok]
    exact ⟨False.elim, fun h => h.1 hc⟩
  · rw [rejectWhen, if_neg hc, pure_ok]
    exact ⟨fun h => ⟨hc, h.2⟩, fun h => ⟨rfl, h.2⟩⟩

theorem unread_ok {seen : List β} :
    (unread : Reader β ε (List β)) bytes = .ok (seen, rest) ↔ seen = bytes ∧ bytes = rest := by
  change Except.ok (bytes, bytes) = Except.ok (seen, rest) ↔ _
  rw [Except.ok.injEq, Prod.mk.injEq]
  exact ⟨fun h => ⟨h.1.symm, h.2⟩, fun h => ⟨h.1.symm, h.2⟩⟩

end Steps

section Laws

variable {read : Reader β ε α} {valid : α → Prop} {write : α → List β}

theorem reads_take (length : Nat) (e : ε) :
    Reads (take length e : Reader β ε (List β)) (fun bytes => bytes.length = length) id := by
  intro bytes a rest
  rw [take]
  by_cases h : length > bytes.length
  · rw [if_pos h]
    constructor
    · intro hok
      cases hok
    · rintro ⟨rfl, rfl⟩
      rw [id, List.length_append] at h
      omega
  · rw [if_neg h, Except.ok.injEq, Prod.mk.injEq]
    constructor
    · rintro ⟨rfl, rfl⟩
      exact ⟨List.length_take_of_le (by omega), (List.take_append_drop length bytes).symm⟩
    · rintro ⟨rfl, rfl⟩
      exact ⟨List.take_left, List.drop_left⟩

/-- Reading several items reads the texts of the items one after the other. -/
theorem Reads.times (h : Reads read valid write) (n : Nat) :
    Reads (times n read) (fun as => as.length = n ∧ ∀ a ∈ as, valid a)
      (fun as => as.flatMap write) := by
  induction n with
  | zero =>
    intro bytes as rest
    rw [Wire.times, pure_ok]
    constructor
    · rintro ⟨rfl, rfl⟩
      exact ⟨⟨rfl, by simp⟩, rfl⟩
    · rintro ⟨⟨hlength, -⟩, rfl⟩
      obtain rfl := List.length_eq_zero_iff.mp hlength
      exact ⟨rfl, rfl⟩
  | succ n ih =>
    intro bytes as rest
    simp only [Wire.times, bind_ok, pure_ok]
    constructor
    · rintro ⟨a, mid, hread, as, rest, htimes, rfl, rfl⟩
      obtain ⟨ha, rfl⟩ := (h _ _ _).mp hread
      obtain ⟨⟨hlength, has⟩, rfl⟩ := (ih _ _ _).mp htimes
      refine ⟨⟨by rw [List.length_cons, hlength], List.forall_mem_cons.mpr ⟨ha, has⟩⟩, ?_⟩
      rw [List.flatMap_cons, List.append_assoc]
    · rintro ⟨⟨hlength, has⟩, rfl⟩
      cases as with
      | nil => cases hlength
      | cons a as =>
        rw [List.forall_mem_cons] at has
        rw [List.flatMap_cons, List.append_assoc]
        exact ⟨a, _, (h _ _ _).mpr ⟨has.1, rfl⟩, as, rest,
          (ih _ _ _).mpr ⟨⟨Nat.succ.inj hlength, has.2⟩, rfl⟩, rfl, rfl⟩

/-- Two items have one text only when they are one item. -/
theorem Reads.inj (h : Reads read valid write) {a b : α} (ha : valid a) (hb : valid b)
    (hab : write a = write b) : a = b := by
  have hread := (h (write a ++ []) a []).mpr ⟨ha, rfl⟩
  rw [hab, (h (write b ++ []) b []).mpr ⟨hb, rfl⟩] at hread
  exact (congrArg Prod.fst (Except.ok.inj hread)).symm

end Laws

end CryptoLending.Lib.Wire

namespace CryptoLending.Lib.LengthPrefixed

variable {α : Type}

/-- A text is cut at the first occurrence of a mark in one way only. -/
theorem append_mark_inj {us vs r s : List α} {m : α} (h : us ++ m :: r = vs ++ m :: s)
    (hu : m ∉ us) (hv : m ∉ vs) : us = vs ∧ r = s := by
  induction us generalizing vs with
  | nil =>
    cases vs with
    | nil => exact ⟨rfl, (List.cons.inj h).2⟩
    | cons v vs =>
      have hm := (List.cons.inj h).1
      exact absurd hm (List.ne_of_not_mem_cons hv)
  | cons u us ih =>
    cases vs with
    | nil =>
      have hm := (List.cons.inj h).1
      exact absurd hm.symm (List.ne_of_not_mem_cons hu)
    | cons v vs =>
      obtain ⟨rfl, htail⟩ := List.cons.inj h
      obtain ⟨rfl, hr⟩ := ih htail (List.not_mem_of_not_mem_cons hu) (List.not_mem_of_not_mem_cons hv)
      exact ⟨rfl, hr⟩

/-- How a length is written, and the mark that ends it. -/
structure Framing (α : Type) where
  length : Nat → List α
  mark : α
  length_injective : Function.Injective length
  mark_notMem : ∀ n, mark ∉ length n

namespace Framing

variable (f : Framing α)

def frame (bytes : List α) : List α := f.length bytes.length ++ f.mark :: bytes

def frames (fields : List (List α)) : List α := fields.flatMap f.frame

/-- A frame can be cut off the front of a text in one way only. -/
theorem frame_append_inj {x y r s : List α} (h : f.frame x ++ r = f.frame y ++ s) :
    x = y ∧ r = s := by
  simp only [frame, List.append_assoc, List.cons_append] at h
  obtain ⟨hl, hrest⟩ := append_mark_inj h (f.mark_notMem _) (f.mark_notMem _)
  exact List.append_inj hrest (f.length_injective hl)

/-- The fields can be read back from their frames. -/
theorem frames_injective : Function.Injective f.frames := by
  intro xs
  induction xs with
  | nil =>
    intro ys h
    cases ys with
    | nil => rfl
    | cons y ys => exact absurd h.symm (by simp [frames, frame])
  | cons x xs ih =>
    intro ys h
    cases ys with
    | nil => exact absurd h (by simp [frames, frame])
    | cons y ys =>
      obtain ⟨rfl, hrest⟩ := f.frame_append_inj h
      rw [ih hrest]

/-- The framing with a letter in front of every field. -/
def preceded (letter : α) (h : f.mark ≠ letter) : Framing α where
  length n := letter :: f.length n
  mark := f.mark
  length_injective := fun _ _ hmn => f.length_injective (List.cons.inj hmn).2
  mark_notMem := fun n => List.not_mem_cons_of_ne_of_not_mem h (f.mark_notMem n)

end Framing

section Separates

variable {β : Type}

/-- The texts of valid items can be cut off the front of a text in one way only. -/
def Separates (valid : α → Prop) (write : α → List β) : Prop :=
  ∀ ⦃x y⦄, valid x → valid y → ∀ ⦃r s⦄, write x ++ r = write y ++ s → x = y ∧ r = s

variable {valid : α → Prop} {write : α → List β}

theorem Separates.inj (h : Separates valid write) {x y : α} (hx : valid x) (hy : valid y)
    (hxy : write x = write y) : x = y := by
  have hnil : write x ++ [] = write y ++ [] := by rw [hxy]
  exact (h hx hy hnil).1

/-- Items are read back from their texts when none of the texts is empty. -/
theorem Separates.flatMap (h : Separates valid write) (hne : ∀ x, write x ≠ [])
    {xs ys : List α} (hxs : ∀ x ∈ xs, valid x) (hys : ∀ y ∈ ys, valid y)
    (hxy : xs.flatMap write = ys.flatMap write) : xs = ys := by
  induction xs generalizing ys with
  | nil =>
    cases ys with
    | nil => rfl
    | cons y ys =>
      rw [List.flatMap_nil, List.flatMap_cons] at hxy
      exact absurd (List.append_eq_nil_iff.mp hxy.symm).1 (hne y)
  | cons x xs ih =>
    cases ys with
    | nil =>
      rw [List.flatMap_nil, List.flatMap_cons] at hxy
      exact absurd (List.append_eq_nil_iff.mp hxy).1 (hne x)
    | cons y ys =>
      rw [List.forall_mem_cons] at hxs hys
      rw [List.flatMap_cons, List.flatMap_cons] at hxy
      obtain ⟨rfl, hrest⟩ := h hxs.1 hys.1 hxy
      rw [ih hxs.2 hys.2 hrest]

/-- A length of fixed width in front of a text. -/
def sized (length : Nat → List β) (bytes : List β) : List β := length bytes.length ++ bytes

/-- Texts within the range of a fixed-width length are separated by it. -/
theorem separates_sized {length : Nat → List β} {width bound : Nat}
    (hwidth : ∀ n, (length n).length = width)
    (hinj : ∀ m n, m < bound → n < bound → length m = length n → m = n) :
    Separates (fun bytes => bytes.length < bound) (sized length) := by
  intro x y hx hy r s h
  rw [sized, sized, List.append_assoc, List.append_assoc] at h
  obtain ⟨hlength, hrest⟩ := List.append_inj h (by rw [hwidth, hwidth])
  exact List.append_inj hrest (hinj _ _ hx hy hlength)

end Separates

end CryptoLending.Lib.LengthPrefixed

namespace CryptoLending.Lib.Layout

variable {σ α β : Type} (length : σ → Nat) (read : σ → List α → β)

/-- Pieces of known lengths that stand one after another. -/
def readAll : List σ → List α → List β
  | [], _ => []
  | s :: ss, xs => read s (xs.take (length s)) :: readAll ss (xs.drop (length s))

variable {length read}

/-- Pieces that have their lengths are read one by one. -/
theorem readAll_flatten {ss : List σ} {pieces : List (List α)} {value : σ → β}
    (h : List.Forall₂ (fun s piece => piece.length = length s ∧ read s piece = value s) ss pieces) :
    readAll length read ss pieces.flatten = ss.map value := by
  induction h with
  | nil => rfl
  | cons hpiece _ ih =>
    rw [List.flatten_cons, readAll, ← hpiece.1, List.take_left, List.drop_left, hpiece.2, ih,
      List.map_cons]

end CryptoLending.Lib.Layout
