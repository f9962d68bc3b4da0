import Mathlib.Data.List.Perm.Basic

namespace CryptoLending.Lib

/-- A computation over a mutable state that may throw. What it wrote before it threw
stays written. -/
abbrev Transaction (σ ε : Type) := ExceptT ε (StateM σ)

/-- Throw when a condition holds. -/
def failWhen {ε : Type} (c : Prop) [Decidable c] (e : ε) : Except ε Unit :=
  if c then .error e else .ok ()

theorem failWhen_ok {ε : Type} {c : Prop} [Decidable c] {e : ε} {u : Unit} :
    failWhen c e = .ok u ↔ ¬c := by
  by_cases h : c <;> simp [failWhen, h]

/-- Read a present value or throw. -/
def orFail {ε α : Type} (o : Option α) (e : ε) : Except ε α :=
  match o with
  | some a => .ok a
  | none => .error e

theorem orFail_ok {ε α : Type} {o : Option α} {e : ε} {a : α} :
    orFail o e = .ok a ↔ o = some a := by
  cases o <;> simp [orFail]

theorem except_bind_ok {ε α β : Type} {x : Except ε α} {f : α → Except ε β} {b : β} :
    (x >>= f) = .ok b ↔ ∃ a, x = .ok a ∧ f a = .ok b := by
  cases x with
  | error e => simp [bind, Except.bind]
  | ok a => simp [bind, Except.bind]

theorem except_ok_bind {ε α β : Type} (a : α) (f : α → Except ε β) : (.ok a >>= f) = f a := rfl

theorem except_pure_ok {ε α : Type} {a b : α} : (pure a : Except ε α) = .ok b ↔ a = b := by
  simp [pure, Except.pure]

theorem toOption_eq_some {ε α : Type} {x : Except ε α} {a : α} :
    x.toOption = some a ↔ x = .ok a := by
  cases x with
  | error e => exact ⟨fun h => (by cases h), fun h => (by cases h)⟩
  | ok b => rw [Except.toOption, Option.some.injEq, Except.ok.injEq]

theorem except_mapM_ok {ε α β : Type} {f : α → Except ε β} {l : List α} {r : List β} :
    l.mapM f = .ok r ↔ List.Forall₂ (fun a b => f a = .ok b) l r := by
  induction l generalizing r with
  | nil => cases r <;> simp [pure, Except.pure]
  | cons a l ih =>
    simp only [List.mapM_cons, except_bind_ok, except_pure_ok, ih]
    constructor
    · rintro ⟨b, hb, bs, hbs, rfl⟩
      exact .cons hb hbs
    · rintro (_ | ⟨hb, hbs⟩)
      exact ⟨_, hb, _, hbs, rfl⟩

/-- A traversal of a reordered list gives its results reordered. -/
theorem except_mapM_perm {ε α β : Type} {f : α → Except ε β} {l m : List α} {r : List β}
    (h : l.Perm m) (hr : l.mapM f = .ok r) : ∃ s, m.mapM f = .ok s ∧ r.Perm s := by
  obtain ⟨s, hs, hperm⟩ := List.perm_comp_forall₂ h.symm (except_mapM_ok.1 hr)
  exact ⟨s, except_mapM_ok.2 hs, hperm.symm⟩

theorem except_mapM_map {ε α β : Type} {f : α → Except ε β} {g : α → β} {l : List α}
    (h : ∀ a ∈ l, f a = .ok (g a)) : l.mapM f = .ok (l.map g) := by
  rw [except_mapM_ok, List.forall₂_map_right_iff, List.forall₂_same]
  exact h

theorem except_exists_of_isOk {ε α : Type} {x : Except ε α} (h : x.isOk = true) :
    ∃ a, x = .ok a := by
  cases x with
  | error e => cases h
  | ok a => exact ⟨a, rfl⟩

theorem except_bind_isOk {ε α β : Type} {x : Except ε α} {f : α → Except ε β}
    (hx : ∃ a, x = .ok a) (hf : ∀ a, ∃ b, f a = .ok b) : ∃ b, (x >>= f) = .ok b := by
  obtain ⟨a, rfl⟩ := hx
  exact hf a

theorem except_bind_exists {ε α β : Type} {x : Except ε α} {f : α → Except ε β} {a : α}
    (hx : x = .ok a) (hf : ∃ b, f a = .ok b) : ∃ b, (x >>= f) = .ok b := by
  rwa [hx, except_ok_bind]

theorem except_mapM_isOk {ε α β : Type} {f : α → Except ε β} {l : List α}
    (h : ∀ a ∈ l, ∃ b, f a = .ok b) : ∃ r, l.mapM f = .ok r := by
  induction l with
  | nil => exact ⟨[], rfl⟩
  | cons a l ih =>
    obtain ⟨⟨b, hb⟩, hl⟩ := List.forall_mem_cons.mp h
    obtain ⟨bs, hbs⟩ := ih hl
    refine ⟨b :: bs, ?_⟩
    rw [List.mapM_cons, hb, except_ok_bind, hbs]
    rfl

theorem except_bind_error {ε α β : Type} {x : Except ε α} {f : α → Except ε β} {e : ε} :
    (x >>= f) = .error e ↔ x = .error e ∨ ∃ a, x = .ok a ∧ f a = .error e := by
  cases x with
  | error d => simp [bind, Except.bind]
  | ok a => simp [bind, Except.bind]

theorem except_mapM_error {ε α β : Type} {f : α → Except ε β} {l : List α} {e : ε}
    (h : l.mapM f = .error e) : ∃ a ∈ l, f a = .error e := by
  induction l with
  | nil => cases h
  | cons a l ih =>
    rw [List.mapM_cons] at h
    obtain h | ⟨b, _, h⟩ := except_bind_error.1 h
    · exact ⟨a, List.mem_cons_self, h⟩
    · obtain h | ⟨bs, _, h⟩ := except_bind_error.1 h
      · obtain ⟨a', ha', h⟩ := ih h
        exact ⟨a', List.mem_cons_of_mem a ha', h⟩
      · cases h

theorem except_bind_ne_error {ε α β : Type} {x : Except ε α} {f : α → Except ε β} {e : ε}
    (hx : x ≠ .error e) (hf : ∀ a, f a ≠ .error e) : (x >>= f) ≠ .error e := by
  cases x with
  | error d =>
    intro h
    exact hx (congrArg Except.error (Except.error.inj h))
  | ok a => exact hf a

theorem except_mapM_ne_error {ε α β : Type} {f : α → Except ε β} {e : ε}
    (hf : ∀ a, f a ≠ .error e) (l : List α) : l.mapM f ≠ .error e := by
  induction l with
  | nil => exact fun h => nomatch h
  | cons a l ih =>
    rw [List.mapM_cons]
    exact except_bind_ne_error (hf a) fun b => except_bind_ne_error ih fun bs h => nomatch h

theorem orFail_ne_error {ε α : Type} {o : Option α} {d e : ε} (h : d ≠ e) :
    orFail o d ≠ .error e := by
  cases o with
  | none => exact fun he => h (Except.error.inj he)
  | some a => exact fun he => nomatch he

theorem mapError_ok {ε δ α : Type} {f : ε → δ} {x : Except ε α} {a : α} :
    x.mapError f = .ok a ↔ x = .ok a := by
  cases x with
  | error e =>
    constructor
    · intro h
      cases h
    · intro h
      cases h
  | ok b =>
    constructor
    · intro h
      cases h
      rfl
    · intro h
      cases h
      rfl

theorem failWhen_error {ε : Type} {c : Prop} [Decidable c] {d e : ε} :
    failWhen c d = .error e ↔ c ∧ d = e := by
  by_cases h : c <;> simp [failWhen, h]

theorem orFail_error {ε α : Type} {o : Option α} {d e : ε} :
    orFail o d = .error e ↔ o = none ∧ d = e := by
  cases o <;> simp [orFail]

theorem mapError_error {ε δ α : Type} {f : ε → δ} {x : Except ε α} {e : δ}
    (h : x.mapError f = .error e) : ∃ d, f d = e := by
  cases x with
  | error d =>
    obtain rfl := Except.error.inj h
    exact ⟨d, rfl⟩
  | ok a => cases h

namespace Transaction

variable {σ ε α β : Type}

/-- The outcome and the state after running from a state. -/
def exec (m : Transaction σ ε α) (s : σ) : Except ε α × σ := (StateT.run (ExceptT.run m) s).run

/-- Running from a state returns a value and leaves a state. -/
def Returns (m : Transaction σ ε α) (s : σ) (a : α) (s' : σ) : Prop := exec m s = (.ok a, s')

theorem exec_bind_ok {m : Transaction σ ε α} {s s' : σ} {a : α} (h : exec m s = (.ok a, s'))
    (f : α → Transaction σ ε β) : exec (m >>= f) s = exec (f a) s' := by
  change exec (ExceptT.bind m f) s = _
  simp only [exec, ExceptT.bind, ExceptT.run, ExceptT.mk, StateT.run] at h ⊢
  simp only [bind, StateT.bind, ExceptT.bindCont, Id.run] at h ⊢
  rw [h]

theorem exec_bind_error {m : Transaction σ ε α} {s s' : σ} {e : ε}
    (h : exec m s = (.error e, s')) (f : α → Transaction σ ε β) :
    exec (m >>= f) s = (.error e, s') := by
  change exec (ExceptT.bind m f) s = _
  simp only [exec, ExceptT.bind, ExceptT.run, ExceptT.mk, StateT.run] at h ⊢
  simp only [bind, StateT.bind, ExceptT.bindCont, Id.run] at h ⊢
  rw [h]
  rfl

theorem exec_pure (a : α) (s : σ) : exec (pure a : Transaction σ ε α) s = (.ok a, s) := rfl

theorem exec_lift (x : Except ε α) (s : σ) :
    exec (liftM x : Transaction σ ε α) s = (x, s) := rfl

theorem exec_get (s : σ) : exec (get : Transaction σ ε σ) s = (.ok s, s) := rfl

theorem exec_modify (f : σ → σ) (s : σ) :
    exec (modify f : Transaction σ ε PUnit) s = (.ok ⟨⟩, f s) := rfl

theorem exec_cases (m : Transaction σ ε α) (s : σ) :
    (∃ a t, exec m s = (.ok a, t)) ∨ ∃ e t, exec m s = (.error e, t) := by
  cases h : exec m s with
  | mk x t =>
    cases x with
    | ok a => exact .inl ⟨a, t, rfl⟩
    | error e => exact .inr ⟨e, t, rfl⟩

theorem returns_bind {m : Transaction σ ε α} {f : α → Transaction σ ε β} {s s' : σ} {b : β} :
    Returns (m >>= f) s b s' ↔ ∃ a t, Returns m s a t ∧ Returns (f a) t b s' := by
  simp only [Returns]
  obtain ⟨a, t, hx⟩ | ⟨e, t, hx⟩ := exec_cases m s
  · rw [exec_bind_ok hx, hx]
    constructor
    · exact fun h => ⟨a, t, rfl, h⟩
    · rintro ⟨_, _, h, hf⟩
      cases h
      exact hf
  · simp [exec_bind_error hx, hx]

theorem returns_pure {a b : α} {s s' : σ} :
    Returns (pure a : Transaction σ ε α) s b s' ↔ a = b ∧ s = s' := by
  simp [Returns, exec_pure]

theorem returns_lift {x : Except ε α} {a : α} {s s' : σ} :
    Returns (liftM x : Transaction σ ε α) s a s' ↔ x = .ok a ∧ s = s' := by
  simp [Returns, exec_lift]

theorem returns_get {a s s' : σ} :
    Returns (get : Transaction σ ε σ) s a s' ↔ s = a ∧ s = s' := by
  simp [Returns, exec_get]

theorem returns_modify {f : σ → σ} {u : PUnit} {s s' : σ} :
    Returns (modify f : Transaction σ ε PUnit) s u s' ↔ f s = s' := by
  simp [Returns, exec_modify]

/-- Neither a return nor a throw changes the state. -/
def ReadOnly (m : Transaction σ ε α) : Prop := ∀ s, (exec m s).2 = s

/-- Never throws. -/
def Total (m : Transaction σ ε α) : Prop := ∀ s, ∃ a s', exec m s = (.ok a, s')

/-- A throw leaves the state as it was. -/
def Atomic (m : Transaction σ ε α) : Prop := ∀ s e s', exec m s = (.error e, s') → s' = s

section Rules

variable {m : Transaction σ ε α} {f : α → Transaction σ ε β}

theorem readOnly_pure (a : α) : ReadOnly (pure a : Transaction σ ε α) := fun _ => rfl

theorem readOnly_lift (x : Except ε α) : ReadOnly (liftM x : Transaction σ ε α) := fun _ => rfl

theorem readOnly_get : ReadOnly (get : Transaction σ ε σ) := fun _ => rfl

theorem readOnly_bind (hm : ReadOnly m) (hf : ∀ a, ReadOnly (f a)) : ReadOnly (m >>= f) := by
  intro s
  have hs := hm s
  obtain ⟨a, t, hx⟩ | ⟨e, t, hx⟩ := exec_cases m s
  · rw [hx] at hs
    rw [exec_bind_ok hx, hf a]
    exact hs
  · rw [hx] at hs
    rw [exec_bind_error hx]
    exact hs

theorem ReadOnly.atomic (hm : ReadOnly m) : Atomic m := by
  intro s e s' h
  have hs := hm s
  rw [h] at hs
  exact hs

theorem total_pure (a : α) : Total (pure a : Transaction σ ε α) := fun s => ⟨a, s, rfl⟩

theorem total_modify (g : σ → σ) : Total (modify g : Transaction σ ε PUnit) :=
  fun s => ⟨⟨⟩, g s, rfl⟩

theorem total_bind (hm : Total m) (hf : ∀ a, Total (f a)) : Total (m >>= f) := by
  intro s
  obtain ⟨a, t, h⟩ := hm s
  rw [exec_bind_ok h]
  exact hf a t

theorem Total.atomic (hm : Total m) : Atomic m := by
  intro s e s' h
  obtain ⟨a, t, ha⟩ := hm s
  rw [ha] at h
  cases h

/-- Reads may come before anything atomic. -/
theorem atomic_bind (hm : ReadOnly m) (hf : ∀ a, Atomic (f a)) : Atomic (m >>= f) := by
  intro s e s' h
  have hs := hm s
  obtain ⟨a, t, hx⟩ | ⟨d, t, hx⟩ := exec_cases m s
  · rw [hx] at hs
    rw [exec_bind_ok hx] at h
    exact (hf a t e s' h).trans hs
  · rw [hx] at hs
    rw [exec_bind_error hx, Prod.mk.injEq] at h
    exact h.2.symm.trans hs

end Rules

section Views

variable {τ : Type} {view : σ → τ} {m : Transaction σ ε α} {f : α → Transaction σ ε β}

/-- Neither a return nor a throw changes a part of the state. -/
def Keeps (view : σ → τ) (m : Transaction σ ε α) : Prop := ∀ s, view (exec m s).2 = view s

/-- A throw leaves a part of the state as it was. -/
def AtomicOn (view : σ → τ) (m : Transaction σ ε α) : Prop :=
  ∀ s e s', exec m s = (.error e, s') → view s' = view s

theorem ReadOnly.keeps (hm : ReadOnly m) : Keeps view m := fun s => congrArg view (hm s)

theorem keeps_bind (hm : Keeps view m) (hf : ∀ a, Keeps view (f a)) : Keeps view (m >>= f) := by
  intro s
  have hs := hm s
  obtain ⟨a, t, hx⟩ | ⟨e, t, hx⟩ := exec_cases m s
  · rw [hx] at hs
    rw [exec_bind_ok hx, hf a]
    exact hs
  · rw [hx] at hs
    rw [exec_bind_error hx]
    exact hs

theorem Keeps.atomicOn (hm : Keeps view m) : AtomicOn view m := by
  intro s e s' h
  have hs := hm s
  rw [h] at hs
  exact hs

theorem Total.atomicOn (hm : Total m) : AtomicOn view m := by
  intro s e s' h
  obtain ⟨a, t, ha⟩ := hm s
  rw [ha] at h
  cases h

theorem atomicOn_bind (hm : Keeps view m) (hf : ∀ a, AtomicOn view (f a)) :
    AtomicOn view (m >>= f) := by
  intro s e s' h
  have hs := hm s
  obtain ⟨a, t, hx⟩ | ⟨d, t, hx⟩ := exec_cases m s
  · rw [hx] at hs
    rw [exec_bind_ok hx] at h
    exact (hf a t e s' h).trans hs
  · rw [hx] at hs
    rw [exec_bind_error hx, Prod.mk.injEq] at h
    exact congrArg view h.2.symm |>.trans hs

end Views

end Transaction

end CryptoLending.Lib
