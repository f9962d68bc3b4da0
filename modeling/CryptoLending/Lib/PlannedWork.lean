import CryptoLending.Lib.Transaction

namespace CryptoLending.Lib.Transaction

/-- The state after the changes of a plan, one after the other. -/
def after {τ : Type} (plan : List (τ → τ)) (t : τ) : τ := plan.foldl (fun t f => f t) t

theorem after_append {τ : Type} (plan rest : List (τ → τ)) (t : τ) :
    after (plan ++ rest) t = after rest (after plan t) := List.foldl_append

variable {σ τ ε α β : Type}

/-- From a view of the state, work that returns has carried out its plan, and work that throws only
an initial part of it, with an error that may occur. -/
structure Performs (view : σ → τ) (mayThrow : ε → Prop) (t : τ) (plan : List (τ → τ))
    (result : α → Prop) (m : Transaction σ ε α) : Prop where
  returned : ∀ s a s', view s = t → exec m s = (.ok a, s') → result a ∧ view s' = after plan t
  threw : ∀ s e s', view s = t → exec m s = (.error e, s') →
    mayThrow e ∧ ∃ part, part <+: plan ∧ view s' = after part t

theorem exec_tryCatch_ok {m : Transaction σ ε α} {s s' : σ} {a : α} (h : exec m s = (.ok a, s'))
    (f : ε → Transaction σ ε α) : exec (tryCatch m f) s = (.ok a, s') := by
  change exec (ExceptT.tryCatch m f) s = _
  simp only [exec, ExceptT.tryCatch, ExceptT.run, ExceptT.mk, StateT.run] at h ⊢
  simp only [bind, StateT.bind, Id.run] at h ⊢
  rw [h]
  rfl

theorem exec_tryCatch_error {m : Transaction σ ε α} {s s' : σ} {e : ε}
    (h : exec m s = (.error e, s')) (f : ε → Transaction σ ε α) :
    exec (tryCatch m f) s = exec (f e) s' := by
  change exec (ExceptT.tryCatch m f) s = _
  simp only [exec, ExceptT.tryCatch, ExceptT.run, ExceptT.mk, StateT.run] at h ⊢
  simp only [bind, StateT.bind, Id.run] at h ⊢
  rw [h]

theorem exec_throw (e : ε) (s : σ) :
    exec (throw e : Transaction σ ε α) s = (.error e, s) := rfl

theorem returns_tryCatch {m : Transaction σ ε α} {f : ε → Transaction σ ε α} {s s' : σ} {a : α} :
    Returns (tryCatch m f) s a s' ↔
      Returns m s a s' ∨ ∃ e t, exec m s = (.error e, t) ∧ Returns (f e) t a s' := by
  simp only [Returns]
  obtain ⟨b, t, hm⟩ | ⟨e, t, hm⟩ := exec_cases m s
  · rw [exec_tryCatch_ok hm, hm]
    constructor
    · exact .inl
    · rintro (h | ⟨d, u, h, _⟩)
      · exact h
      · cases h
  · rw [exec_tryCatch_error hm, hm]
    constructor
    · exact fun h => .inr ⟨e, t, rfl, h⟩
    · rintro (h | ⟨d, u, h, hf⟩)
      · cases h
      · cases h
        exact hf

theorem exec_bind_threw {m : Transaction σ ε α} {f : α → Transaction σ ε β} {s s' : σ} {e : ε} :
    exec (m >>= f) s = (.error e, s') ↔
      exec m s = (.error e, s') ∨ ∃ a t, Returns m s a t ∧ exec (f a) t = (.error e, s') := by
  simp only [Returns]
  obtain ⟨a, t, hm⟩ | ⟨d, t, hm⟩ := exec_cases m s
  · rw [exec_bind_ok hm, hm]
    constructor
    · exact fun h => .inr ⟨a, t, rfl, h⟩
    · rintro (h | ⟨b, u, h, hf⟩)
      · cases h
      · cases h
        exact hf
  · rw [exec_bind_error hm, hm]
    constructor
    · intro h
      cases h
      exact .inl rfl
    · rintro (h | ⟨b, u, h, _⟩)
      · cases h
        rfl
      · cases h

section Rules

variable {view : σ → τ} {mayThrow : ε → Prop} {t : τ} {plan rest : List (τ → τ)}
  {P : α → Prop} {Q : β → Prop} {m : Transaction σ ε α} {f : α → Transaction σ ε β}

theorem performs_pure {a : α} (h : P a) :
    Performs view mayThrow t [] P (pure a : Transaction σ ε α) where
  returned := by
    intro s b s' hs hm
    cases hm
    exact ⟨h, hs⟩
  threw := fun s e s' hs hm => (by cases hm)

theorem performs_throw {e : ε} (h : mayThrow e) :
    Performs view mayThrow t plan P (throw e : Transaction σ ε α) where
  returned := fun s a s' hs hm => (by cases hm)
  threw := by
    intro s d s' hs hm
    cases hm
    exact ⟨h, [], List.nil_prefix, hs⟩

theorem performs_lift {x : Except ε α} (hok : ∀ a, x = .ok a → P a)
    (herror : ∀ e, x = .error e → mayThrow e) :
    Performs view mayThrow t [] P (liftM x : Transaction σ ε α) where
  returned := by
    intro s a s' hs hm
    cases hm
    exact ⟨hok a rfl, hs⟩
  threw := by
    intro s e s' hs hm
    cases hm
    exact ⟨herror e rfl, [], List.nil_prefix, hs⟩

theorem performs_get :
    Performs view mayThrow t [] (fun s => view s = t) (get : Transaction σ ε σ) where
  returned := by
    intro s a s' hs hm
    cases hm
    exact ⟨hs, hs⟩
  threw := fun s e s' hs hm => (by cases hm)

theorem performs_modify {g : σ → σ} {c : τ → τ} (h : ∀ s, view (g s) = c (view s)) :
    Performs view mayThrow t [c] (fun _ => True) (modify g : Transaction σ ε PUnit) where
  returned := by
    intro s a s' hs hm
    cases hm
    exact ⟨trivial, (h s).trans (congrArg c hs)⟩
  threw := fun s e s' hs hm => (by cases hm)

/-- Work that does not touch the view. -/
theorem performs_modify_same {g : σ → σ} (h : ∀ s, view (g s) = view s) :
    Performs view mayThrow t [] (fun _ => True) (modify g : Transaction σ ε PUnit) where
  returned := by
    intro s a s' hs hm
    cases hm
    exact ⟨trivial, (h s).trans hs⟩
  threw := fun s e s' hs hm => (by cases hm)

theorem performs_bind (hm : Performs view mayThrow t plan P m)
    (hf : ∀ a, P a → Performs view mayThrow (after plan t) rest Q (f a)) :
    Performs view mayThrow t (plan ++ rest) Q (m >>= f) where
  returned := by
    intro s b s' hs h
    obtain ⟨a, u, hx⟩ | ⟨e, u, hx⟩ := exec_cases m s
    · obtain ⟨ha, hu⟩ := hm.returned s a u hs hx
      rw [exec_bind_ok hx] at h
      rw [after_append]
      exact (hf a ha).returned u b s' hu h
    · rw [exec_bind_error hx] at h
      cases h
  threw := by
    intro s e s' hs h
    obtain ⟨a, u, hx⟩ | ⟨d, u, hx⟩ := exec_cases m s
    · obtain ⟨ha, hu⟩ := hm.returned s a u hs hx
      rw [exec_bind_ok hx] at h
      obtain ⟨he, part, hpart, hs'⟩ := (hf a ha).threw u e s' hu h
      refine ⟨he, plan ++ part, (List.prefix_append_right_inj plan).mpr hpart, ?_⟩
      rw [after_append, hs']
    · rw [exec_bind_error hx] at h
      cases h
      obtain ⟨he, part, hpart, hs'⟩ := hm.threw s e s' hs hx
      exact ⟨he, part, hpart.trans (List.prefix_append plan rest), hs'⟩

theorem Performs.imp {R : α → Prop} (hm : Performs view mayThrow t plan P m)
    (h : ∀ a, P a → R a) : Performs view mayThrow t plan R m where
  returned := fun s a s' hs hx => (hm.returned s a s' hs hx).imp_left (h a)
  threw := hm.threw

/-- First something that leaves the view as it is. -/
theorem performs_first (hm : Performs view mayThrow t [] P m)
    (hf : ∀ a, P a → Performs view mayThrow t plan Q (f a)) :
    Performs view mayThrow t plan Q (m >>= f) := performs_bind hm hf

/-- Then something that leaves the view as it is. -/
theorem performs_last (hm : Performs view mayThrow t plan P m)
    (hf : ∀ a, P a → Performs view mayThrow (after plan t) [] Q (f a)) :
    Performs view mayThrow t plan Q (m >>= f) := by
  have h := performs_bind hm hf
  rwa [List.append_nil] at h

end Rules

end CryptoLending.Lib.Transaction
