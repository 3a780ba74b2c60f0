import Mathlib.Data.List.Basic

/-!
# Runs of a step function

A system is a partial step function `step : σ → ε → Option σ`: the event `e` names every choice
that the environment makes, and `none` says that `e` cannot happen in the state. `run` folds a list
of events, `Reachable` is what some list of events leads to, and `Along P` says that every step a
run takes meets `P`. The rules below are the only inductions over runs: a development proves what
one step preserves and cites `run_invariant`, `Along.run_invariant`, `throughout_iff_along`,
`countP_le` or `Along.length_le`.
-/

namespace StepSystem

variable {σ ε : Type*} (step : σ → ε → Option σ)

/-- The state after the events `es` from `s`, or `none` when one of them cannot happen. -/
def run (s : σ) : List ε → Option σ
  | [] => some s
  | e :: es => (step s e).bind fun s' => run s' es

/-- Some run from `init` ends in `s`. -/
def Reachable (init s : σ) : Prop := ∃ es, run step init es = some s

/-- Every step that the run takes from `s` over `es` meets `P`, judged on the state before it. -/
def Along (P : σ → ε → Prop) (s : σ) : List ε → Prop
  | [] => True
  | e :: es => ∀ s', step s e = some s' → P s e ∧ Along P s' es

/-- Every state that the run passes through from `s` over `es`, first and last included, meets
`Q`. -/
def Throughout (Q : σ → Prop) (s : σ) : List ε → Prop
  | [] => Q s
  | e :: es => Q s ∧ ∀ s', step s e = some s' → Throughout Q s' es

/-- What the steps of the run from `s` over `es` emit, one after the other. -/
def emitted {α : Type*} (emit : σ → ε → List α) (s : σ) : List ε → List α
  | [] => []
  | e :: es => emit s e ++ (step s e).elim [] fun s' => emitted emit s' es

variable {step}

@[simp]
theorem run_nil (s : σ) : run step s [] = some s := rfl

@[simp]
theorem run_cons (s : σ) (e : ε) (es : List ε) :
    run step s (e :: es) = (step s e).bind fun s' => run step s' es := rfl

theorem run_append (s : σ) (es fs : List ε) :
    run step s (es ++ fs) = (run step s es).bind fun s' => run step s' fs := by
  induction es generalizing s with
  | nil => rfl
  | cons e es ih =>
    cases h : step s e with
    | none => simp [h]
    | some s' => simp [h, ih]

/-- The first step of a nonempty run, and the rest of it. -/
theorem run_cons_eq_some {s s' : σ} {e : ε} {es : List ε} :
    run step s (e :: es) = some s' ↔ ∃ t, step s e = some t ∧ run step t es = some s' := by
  rw [run_cons, Option.bind_eq_some_iff]

/-- The last step of a run, and what comes before it. -/
theorem run_concat_eq_some {s s' : σ} {e : ε} {es : List ε} :
    run step s (es ++ [e]) = some s' ↔ ∃ t, run step s es = some t ∧ step t e = some s' := by
  rw [run_append, Option.bind_eq_some_iff]
  simp

theorem Reachable.refl (s : σ) : Reachable step s s := ⟨[], rfl⟩

theorem Reachable.next {init s s' : σ} {e : ε} (h : Reachable step init s)
    (hs : step s e = some s') : Reachable step init s' := by
  obtain ⟨es, hes⟩ := h
  exact ⟨es ++ [e], run_concat_eq_some.mpr ⟨s, hes, hs⟩⟩

/-! ## The invariant rules -/

/-- What every step preserves, a run preserves, when each of its steps also meets `P`. -/
theorem Along.run_invariant {P : σ → ε → Prop} (I : σ → Prop)
    (hstep : ∀ s e s', I s → P s e → step s e = some s' → I s') {es : List ε} :
    ∀ {s s' : σ}, Along step P s es → run step s es = some s' → I s → I s' := by
  induction es with
  | nil =>
    intro s s' _ hrun hI
    cases hrun
    exact hI
  | cons e es ih =>
    intro s s' halong hrun hI
    obtain ⟨t, ht, hrest⟩ := run_cons_eq_some.mp hrun
    obtain ⟨hP, halong'⟩ := halong t ht
    exact ih halong' hrest (hstep s e t hI hP ht)

/-- What every step preserves, with what it emits, a run preserves with all that it emits. -/
theorem Along.emitted_invariant {α : Type*} {P : σ → ε → Prop} {emit : σ → ε → List α}
    (I : List α → σ → Prop)
    (hstep : ∀ l s e s', I l s → P s e → step s e = some s' → I (l ++ emit s e) s')
    {es : List ε} : ∀ {l : List α} {s s' : σ}, Along step P s es → run step s es = some s' →
      I l s → I (l ++ emitted step emit s es) s' := by
  induction es with
  | nil =>
    intro l s s' _ hrun hI
    cases hrun
    rwa [emitted, List.append_nil]
  | cons e es ih =>
    intro l s s' halong hrun hI
    obtain ⟨t, ht, hrest⟩ := run_cons_eq_some.mp hrun
    obtain ⟨hP, halong'⟩ := halong t ht
    have hlast := ih halong' hrest (hstep l s e t hI hP ht)
    rwa [emitted, ht, Option.elim_some, ← List.append_assoc]

theorem along_true (s : σ) (es : List ε) : Along step (fun _ _ => True) s es := by
  induction es generalizing s with
  | nil => trivial
  | cons e es ih => exact fun s' _ => ⟨trivial, ih s'⟩

/-- A run that meets `P`, and one from its last state. -/
theorem Along.append {P : σ → ε → Prop} {es fs : List ε} :
    ∀ {s : σ}, Along step P s es → (∀ s', run step s es = some s' → Along step P s' fs) →
      Along step P s (es ++ fs) := by
  induction es with
  | nil => exact fun _ hfs => hfs _ rfl
  | cons e es ih =>
    intro s hes hfs s' hs
    obtain ⟨hP, hes'⟩ := hes s' hs
    exact ⟨hP, ih hes' fun t ht => hfs t (run_cons_eq_some.mpr ⟨s', hs, ht⟩)⟩

/-- A condition on the events alone holds along every run over them. -/
theorem along_of_forall {P : ε → Prop} {es : List ε} (h : ∀ e ∈ es, P e) (s : σ) :
    Along step (fun _ e => P e) s es := by
  induction es generalizing s with
  | nil => trivial
  | cons e es ih =>
    exact fun s' _ => ⟨h e List.mem_cons_self, ih (fun e he => h e (List.mem_cons_of_mem _ he)) s'⟩

/-- When another system can follow each step from an `I`-state, it can follow each run. -/
theorem Along.run_simulation {τ ε' : Type*} {step' : τ → ε' → Option τ} {P : σ → ε → Prop}
    (I : σ → Prop) (f : σ → τ)
    (hstep : ∀ s e s', I s → P s e → step s e = some s' →
      I s' ∧ ∃ e', step' (f s) e' = some (f s')) {es : List ε} :
    ∀ {s s' : σ}, Along step P s es → run step s es = some s' → I s →
      ∃ es', run step' (f s) es' = some (f s') := by
  induction es with
  | nil =>
    intro s s' _ hrun _
    cases hrun
    exact ⟨[], rfl⟩
  | cons e es ih =>
    intro s s' halong hrun hI
    obtain ⟨t, ht, hrest⟩ := run_cons_eq_some.mp hrun
    obtain ⟨hP, halong'⟩ := halong t ht
    obtain ⟨hI', e', he'⟩ := hstep s e t hI hP ht
    obtain ⟨es', hes'⟩ := ih halong' hrest hI'
    exact ⟨e' :: es', run_cons_eq_some.mpr ⟨f t, he', hes'⟩⟩

/-- What every step preserves, every run preserves. -/
theorem run_invariant (I : σ → Prop) (hstep : ∀ s e s', I s → step s e = some s' → I s')
    {s s' : σ} {es : List ε} (hrun : run step s es = some s') (hI : I s) : I s' :=
  (along_true s es).run_invariant I (fun s e s' hI _ h => hstep s e s' hI h) hrun hI

/-- What holds initially and every step preserves, holds of every reachable state. -/
theorem Reachable.invariant (I : σ → Prop) {init s : σ}
    (hstep : ∀ s e s', I s → step s e = some s' → I s') (h0 : I init)
    (h : Reachable step init s) : I s := by
  obtain ⟨es, hes⟩ := h
  exact run_invariant I hstep hes h0

/-- A weaker condition on the steps holds along the same run. -/
theorem Along.mono {P P' : σ → ε → Prop} (hP : ∀ s e, P s e → P' s e) {es : List ε} :
    ∀ {s : σ}, Along step P s es → Along step P' s es := by
  induction es with
  | nil => exact fun _ => trivial
  | cons e es ih => exact fun h s' hs => ⟨hP _ _ (h s' hs).1, ih (h s' hs).2⟩

theorem Along.and {P P' : σ → ε → Prop} {es : List ε} :
    ∀ {s : σ}, Along step P s es → Along step P' s es →
      Along step (fun s e => P s e ∧ P' s e) s es := by
  induction es with
  | nil => exact fun _ _ => trivial
  | cons e es ih =>
    intro s h h' s' hs
    obtain ⟨hP, hrest⟩ := h s' hs
    obtain ⟨hP', hrest'⟩ := h' s' hs
    exact ⟨⟨hP, hP'⟩, ih hrest hrest'⟩

/-- A run that stays in `Q` starts in `Q`. -/
theorem Throughout.first {Q : σ → Prop} {s : σ} {es : List ε} (h : Throughout step Q s es) :
    Q s := by
  cases es with
  | nil => exact h
  | cons _ _ => exact h.1

/-- When a step from an `I`-state keeps `I` if it meets `P` and breaks `Q` otherwise, the runs from
an `I`-state that stay in `Q` are exactly those whose steps all meet `P`. -/
theorem throughout_iff_along {P : σ → ε → Prop} {Q : σ → Prop} (I : σ → Prop)
    (hIQ : ∀ s, I s → Q s) (hkeep : ∀ s e s', I s → P s e → step s e = some s' → I s')
    (hbreak : ∀ s e s', I s → ¬ P s e → step s e = some s' → ¬ Q s') {es : List ε} :
    ∀ {s : σ}, I s → (Throughout step Q s es ↔ Along step P s es) := by
  induction es with
  | nil => exact fun hI => ⟨fun _ => trivial, fun _ => hIQ _ hI⟩
  | cons e es ih =>
    intro s hI
    constructor
    · rintro ⟨-, hrest⟩ s' hs
      have hP : P s e := by
        by_contra hnot
        exact hbreak s e s' hI hnot hs (hrest s' hs).first
      exact ⟨hP, (ih (hkeep s e s' hI hP hs)).mp (hrest s' hs)⟩
    · intro h
      refine ⟨hIQ s hI, fun s' hs => ?_⟩
      obtain ⟨hP, halong⟩ := h s' hs
      exact (ih (hkeep s e s' hI hP hs)).mpr halong

/-- A run that stays in `Q` ends in `Q`. -/
theorem Throughout.last {Q : σ → Prop} {es : List ε} :
    ∀ {s s' : σ}, Throughout step Q s es → run step s es = some s' → Q s' := by
  induction es with
  | nil =>
    intro s s' h hrun
    cases hrun
    exact h
  | cons e es ih =>
    intro s s' h hrun
    obtain ⟨t, ht, hrest⟩ := run_cons_eq_some.mp hrun
    exact ih (h.2 t ht) hrest

/-- When the steps that meet `P` never come back to `Q`, a run of them that ends in `Q` stays in
`Q`. -/
theorem Along.throughout_of_last {P : σ → ε → Prop} {Q : σ → Prop}
    (hstep : ∀ s e s', P s e → step s e = some s' → ¬ Q s → ¬ Q s') {es : List ε} :
    ∀ {s s' : σ}, Along step P s es → run step s es = some s' → Q s' → Throughout step Q s es := by
  induction es with
  | nil =>
    intro s s' _ hrun hQ
    cases hrun
    exact hQ
  | cons e es ih =>
    intro s s' halong hrun hQ
    obtain ⟨t, ht, hrest⟩ := run_cons_eq_some.mp hrun
    obtain ⟨hP, halong⟩ := halong t ht
    have hthroughout := ih halong hrest hQ
    refine ⟨?_, fun t' ht' => ?_⟩
    · by_contra hnot
      exact hstep s e t hP ht hnot hthroughout.first
    · rw [ht] at ht'
      cases ht'
      exact hthroughout

/-- When no step raises a measure, and the events that `p` counts lower it, a run has no more of
them than the measure at its start. The steps may be assumed to meet `P` and to lead to `Q`. -/
theorem countP_le {P : σ → ε → Prop} {Q : σ → Prop} (I : σ → Prop) (φ : σ → ℕ) (p : ε → Bool)
    (hstep : ∀ s e s', I s → P s e → Q s' → step s e = some s' →
      I s' ∧ φ s' + (if p e then 1 else 0) ≤ φ s) {es : List ε} :
    ∀ {s s' : σ}, Along step P s es → Throughout step Q s es → run step s es = some s' → I s →
      es.countP p ≤ φ s := by
  induction es with
  | nil => exact fun _ _ _ _ => Nat.zero_le _
  | cons e es ih =>
    intro s s' halong hthrough hrun hI
    obtain ⟨t, ht, hrest⟩ := run_cons_eq_some.mp hrun
    obtain ⟨hP, halong⟩ := halong t ht
    have hthrough := hthrough.2 t ht
    obtain ⟨hI', hle⟩ := hstep s e t hI hP hthrough.first ht
    have := ih halong hthrough hrest hI'
    rw [List.countP_cons]
    omega

/-- When every step lowers a measure, a run is no longer than what it takes off. -/
theorem Along.length_le {P : σ → ε → Prop} (φ : σ → ℕ)
    (hstep : ∀ s e s', P s e → step s e = some s' → φ s' < φ s) {es : List ε} :
    ∀ {s s' : σ}, Along step P s es → run step s es = some s' → es.length + φ s' ≤ φ s := by
  induction es with
  | nil =>
    intro s s' _ hrun
    cases hrun
    exact Nat.le_of_eq (Nat.zero_add (φ s))
  | cons e es ih =>
    intro s s' halong hrun
    obtain ⟨t, ht, hrest⟩ := run_cons_eq_some.mp hrun
    obtain ⟨hP, halong⟩ := halong t ht
    have hlt := hstep s e t hP ht
    have hle := ih halong hrest
    rw [List.length_cons]
    omega

/-! ## Deciding conditions along concrete runs -/

instance decidableAlong {P : σ → ε → Prop} [∀ s e, Decidable (P s e)] :
    ∀ (s : σ) (es : List ε), Decidable (Along step P s es)
  | _, [] => isTrue trivial
  | s, e :: es =>
    match h : step s e with
    | none => isTrue (by intro s' hs; rw [h] at hs; cases hs)
    | some t =>
      have := decidableAlong (P := P) t es
      decidable_of_iff (P s e ∧ Along step P t es) <| by
        constructor
        · intro hp s' hs
          rw [h] at hs
          cases hs
          exact hp
        · exact fun hp => hp t h

end StepSystem
