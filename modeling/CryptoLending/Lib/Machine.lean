import Mathlib.Data.List.Basic
import Mathlib.Data.List.Induction

namespace CryptoLending.Lib

/-- A machine whose calls have an outcome and a next state. -/
structure Machine (ι ο σ : Type) where
  initial : σ
  step : σ → ι → ο × σ

namespace Machine

/-- One call of a run, between the states around it. -/
structure Event (ι ο σ : Type) where
  before : σ
  call : ι
  outcome : ο
  after : σ

variable {ι ο σ : Type} (M : Machine ι ο σ)

def event (s : σ) (c : ι) : Event ι ο σ := ⟨s, c, (M.step s c).1, (M.step s c).2⟩

def run (s : σ) : List ι → σ
  | [] => s
  | c :: cs => run (M.step s c).2 cs

def events (s : σ) : List ι → List (Event ι ο σ)
  | [] => []
  | c :: cs => M.event s c :: events (M.step s c).2 cs

/-- The state after the given calls. -/
def reached (cs : List ι) : σ := M.run M.initial cs

/-- The calls of a run from the initial state with their outcomes. -/
def trace (cs : List ι) : List (Event ι ο σ) := M.events M.initial cs

variable {M}

theorem run_cons {s s' : σ} {c : ι} {o : ο} (h : M.step s c = (o, s')) (cs : List ι) :
    M.run s (c :: cs) = M.run s' cs := by
  rw [run, h]

theorem events_cons {s s' : σ} {c : ι} {o : ο} (h : M.step s c = (o, s')) (cs : List ι) :
    M.events s (c :: cs) = ⟨s, c, o, s'⟩ :: M.events s' cs := by
  rw [events, event, h]

theorem run_append (s : σ) (cs ds : List ι) : M.run s (cs ++ ds) = M.run (M.run s cs) ds := by
  induction cs generalizing s with
  | nil => rfl
  | cons c cs ih => exact ih _

theorem events_append (s : σ) (cs ds : List ι) :
    M.events s (cs ++ ds) = M.events s cs ++ M.events (M.run s cs) ds := by
  induction cs generalizing s with
  | nil => rfl
  | cons c cs ih => exact congrArg (M.event s c :: ·) (ih _)

theorem reached_append (cs ds : List ι) : M.reached (cs ++ ds) = M.run (M.reached cs) ds :=
  run_append _ _ _

theorem reached_snoc (cs : List ι) (c : ι) : M.reached (cs ++ [c]) = (M.step (M.reached cs) c).2 :=
  run_append _ _ _

theorem trace_snoc (cs : List ι) (c : ι) :
    M.trace (cs ++ [c]) = M.trace cs ++ [M.event (M.reached cs) c] := events_append _ _ _

/-- An event of a run splits its calls. -/
theorem mem_events {s : σ} {cs : List ι} {e : Event ι ο σ} (h : e ∈ M.events s cs) :
    ∃ ds es, cs = ds ++ e.call :: es ∧ e = M.event (M.run s ds) e.call := by
  induction cs generalizing s with
  | nil => simp [events] at h
  | cons c cs ih =>
    obtain rfl | h := List.mem_cons.mp h
    · exact ⟨[], cs, rfl, rfl⟩
    · obtain ⟨ds, es, hcs, he⟩ := ih h
      exact ⟨c :: ds, es, by rw [hcs, List.cons_append], he⟩

/-- The events before an event of a run are the trace of the calls before it. -/
theorem trace_split {cs : List ι} {past future : List (Event ι ο σ)} {e : Event ι ο σ}
    (h : M.trace cs = past ++ e :: future) :
    ∃ ds, past = M.trace ds ∧ e = M.event (M.reached ds) e.call := by
  induction cs using List.reverseRecOn generalizing future with
  | nil => simp [trace, events] at h
  | append_singleton cs c ih =>
    rw [trace_snoc] at h
    cases future using List.reverseRecOn with
    | nil =>
      obtain ⟨hpast, he⟩ := List.append_inj' h rfl
      refine ⟨cs, hpast.symm, ?_⟩
      rw [← (List.cons.inj he).1]
      rfl
    | append_singleton future last =>
      rw [← List.cons_append, ← List.append_assoc] at h
      exact ih (List.append_inj' h rfl).1

/-- What holds initially and is preserved by every call holds of every reached state. -/
structure Invariant (M : Machine ι ο σ) (I : σ → Prop) : Prop where
  initial : I M.initial
  step : ∀ s c, I s → I (M.step s c).2

/-- A reflexive and transitive relation that every call respects where an invariant holds. -/
structure Relates (M : Machine ι ο σ) (I : σ → Prop) (R : σ → σ → Prop) : Prop where
  refl : ∀ s, R s s
  trans : ∀ s t u, R s t → R t u → R s u
  step : ∀ s c, I s → R s (M.step s c).2

variable {I : σ → Prop} {R : σ → σ → Prop}

theorem Invariant.run (h : Invariant M I) {s : σ} (hs : I s) (cs : List ι) : I (M.run s cs) := by
  induction cs generalizing s with
  | nil => exact hs
  | cons c cs ih => exact ih (h.step s c hs)

theorem Invariant.reached (h : Invariant M I) (cs : List ι) : I (M.reached cs) :=
  h.run h.initial cs

theorem Relates.run (hR : Relates M I R) (h : Invariant M I) {s : σ} (hs : I s) (cs : List ι) :
    R s (M.run s cs) := by
  induction cs generalizing s with
  | nil => exact hR.refl s
  | cons c cs ih => exact hR.trans _ _ _ (hR.step s c hs) (ih (h.step s c hs))

/-- A fact that an event establishes and that later calls keep holds at the end of the run. -/
theorem Relates.settled (hR : Relates M I R) (h : Invariant M I) {cs : List ι} {P : σ → Prop}
    (hP : ∀ s t, R s t → P s → P t) {e : Event ι ο σ} (he : e ∈ M.trace cs)
    (hafter : I e.before → e = M.event e.before e.call → P e.after) : P (M.reached cs) := by
  obtain ⟨ds, es, hcs, hev⟩ := mem_events he
  have hI : I e.before := by
    rw [hev]
    exact h.reached ds
  have hstep : e = M.event e.before e.call := by
    rw [hev]
    rfl
  have hlate : R e.after (M.reached cs) := by
    rw [hcs, reached_append, hev]
    exact hR.run h (h.step _ _ (h.reached ds)) es
  exact hP _ _ hlate (hafter hI hstep)

/-- A law between the events so far and the state, proved one call at a time. -/
theorem history_induction {J : List (Event ι ο σ) → σ → Prop} (h : Invariant M I)
    (hnil : J [] M.initial)
    (hsnoc : ∀ es s c, I s → J es s → J (es ++ [M.event s c]) (M.step s c).2) (cs : List ι) :
    J (M.trace cs) (M.reached cs) := by
  induction cs using List.reverseRecOn with
  | nil => exact hnil
  | append_singleton cs c ih =>
    rw [trace_snoc, reached_snoc]
    exact hsnoc _ _ c (h.reached cs) ih

/-- Where a call keeps a property exactly when it meets a condition, the property holds
all along a run exactly when all its calls meet the condition. -/
theorem trace_iff {W P : σ → Prop} {C : σ → ι → Prop} (h : Invariant M W) (hinitial : P M.initial)
    (hstep : ∀ s c, W s → P s → (P (M.step s c).2 ↔ C s c)) (cs : List ι) :
    (∀ e ∈ M.trace cs, P e.after) ↔ ∀ e ∈ M.trace cs, C e.before e.call := by
  have hall : ((∀ e ∈ M.trace cs, P e.after) ↔ ∀ e ∈ M.trace cs, C e.before e.call) ∧
      ((∀ e ∈ M.trace cs, P e.after) → P (M.reached cs)) := by
    induction cs using List.reverseRecOn with
    | nil => exact ⟨by simp [trace, events], fun _ => hinitial⟩
    | append_singleton cs c ih =>
      simp only [trace_snoc, reached_snoc, List.forall_mem_append, List.forall_mem_singleton]
      refine ⟨?_, fun hafter => hafter.2⟩
      constructor
      · rintro ⟨hafter, hlast⟩
        exact ⟨ih.1.mp hafter, (hstep _ c (h.reached cs) (ih.2 hafter)).mp hlast⟩
      · rintro ⟨hcalls, hlast⟩
        have hafter := ih.1.mpr hcalls
        exact ⟨hafter, (hstep _ c (h.reached cs) (ih.2 hafter)).mpr hlast⟩
  exact hall.1

end Machine

end CryptoLending.Lib

namespace CryptoLending.Lib.Events

variable {σ ε : Type}

/-- A system that takes one event after another, each of which it may refuse. -/
def run (step : σ → ε → Option σ) (s : σ) : List ε → Option σ
  | [] => some s
  | e :: es => (step s e).bind fun s => run step s es

/-- What every event preserves. -/
def Preserved (step : σ → ε → Option σ) (I : σ → Prop) : Prop :=
  ∀ s e s', I s → step s e = some s' → I s'

variable {step : σ → ε → Option σ} {s s' : σ} {es fs : List ε}

theorem Preserved.run {I : σ → Prop} (h : Preserved step I) (hs : I s)
    (hrun : run step s es = some s') : I s' := by
  induction es generalizing s with
  | nil => exact Option.some.inj hrun ▸ hs
  | cons e es ih =>
    obtain ⟨next, hnext, hrest⟩ := Option.bind_eq_some_iff.mp hrun
    exact ih (h s e next hs hnext) hrest

/-- What holds of the start and the empty past, and of every step with its event added to the
past. -/
theorem run_with_past {I : List ε → σ → Prop} (hs : I [] s)
    (hstep : ∀ past s e s', I past s → step s e = some s' → I (past ++ [e]) s')
    (hrun : run step s es = some s') : I es s' := by
  suffices h : ∀ past s, I past s → run step s es = some s' → I (past ++ es) s' by
    simpa using h [] s hs hrun
  clear hs hrun
  induction es with
  | nil =>
    intro past s hs hrun
    rw [List.append_nil]
    exact Option.some.inj hrun ▸ hs
  | cons e es ih =>
    intro past s hs hrun
    obtain ⟨next, hnext, hrest⟩ := Option.bind_eq_some_iff.mp hrun
    simpa using ih (past ++ [e]) next (hstep past s e next hs hnext) hrest

end CryptoLending.Lib.Events
