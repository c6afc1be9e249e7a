import Mathlib.Data.Int.Notation
import Mathlib.Tactic.Common

/-!
# Labelled transition systems

Runs of a system with labelled steps, the rule that carries a property of the
history and the state along every run, and the rule that carries the runs of one
system to the runs of another.
-/

/-- A start state and labelled steps. -/
structure TransitionSystem (σ ℓ : Type*) where
  init : σ
  step : σ → ℓ → σ → Prop

namespace TransitionSystem

variable {σ τ ℓ κ : Type*} {S : TransitionSystem σ ℓ} {T : TransitionSystem τ κ}

/-- `Path s tr s'`: the steps labelled `tr`, oldest first, lead from `s` to `s'`. -/
inductive Path (S : TransitionSystem σ ℓ) (s : σ) : List ℓ → σ → Prop where
  | nil : Path S s [] s
  | snoc {tr : List ℓ} {l : ℓ} {s' s'' : σ} : Path S s tr s' → S.step s' l s'' → Path S s (tr ++ [l]) s''

/-- A path from the start state. -/
abbrev Run (S : TransitionSystem σ ℓ) (tr : List ℓ) (s : σ) : Prop := S.Path S.init tr s

def Reachable (S : TransitionSystem σ ℓ) (s : σ) : Prop := ∃ tr, S.Run tr s

theorem Path.single {s s' : σ} {l : ℓ} (h : S.step s l s') : S.Path s [l] s' :=
  (Path.nil (S := S)).snoc h

theorem Path.append {s s' s'' : σ} {tr tr' : List ℓ} (h : S.Path s tr s') (h' : S.Path s' tr' s'') :
    S.Path s (tr ++ tr') s'' := by
  induction h' with
  | nil => simpa using h
  | snoc _ step ih => rw [← List.append_assoc]; exact ih.snoc step

theorem Path.cons {s s' s'' : σ} {l : ℓ} {tr : List ℓ} (h : S.step s l s') (h' : S.Path s' tr s'') :
    S.Path s (l :: tr) s'' :=
  (Path.single h).append h'

/-- **The invariant rule**, along a path: a property of the labels so far and the state. -/
theorem Path.invariant {s s' : σ} {tr : List ℓ} (I : List ℓ → σ → Prop) (start : I [] s)
    (step : ∀ tr s l s', I tr s → S.step s l s' → I (tr ++ [l]) s') (h : S.Path s tr s') : I tr s' := by
  induction h with
  | nil => exact start
  | snoc _ hs ih => exact step _ _ _ _ ih hs

/-- The invariant rule for properties of the state alone. -/
theorem Path.preserves {s s' : σ} {tr : List ℓ} (I : σ → Prop) (start : I s)
    (step : ∀ s l s', I s → S.step s l s' → I s') (h : S.Path s tr s') : I s' :=
  h.invariant (fun _ => I) start fun _ => step

theorem Reachable.invariant {s : σ} (I : σ → Prop) (start : I S.init)
    (step : ∀ s l s', I s → S.step s l s' → I s') (h : S.Reachable s) : I s := by
  obtain ⟨tr, run⟩ := h
  exact run.preserves I start step

theorem Reachable.step {s s' : σ} {l : ℓ} (h : S.Reachable s) (hs : S.step s l s') : S.Reachable s' := by
  obtain ⟨tr, run⟩ := h
  exact ⟨tr ++ [l], run.snoc hs⟩

/-- The runs whose every step meets a condition on the state before it and its label. -/
def restrict (S : TransitionSystem σ ℓ) (guard : σ → ℓ → Prop) : TransitionSystem σ ℓ where
  init := S.init
  step := fun s l s' => S.step s l s' ∧ guard s l

theorem Reachable.init : S.Reachable S.init := ⟨[], .nil⟩

/-- A path whose labels meet the condition in every state is one of the conditional runs. -/
theorem Path.restrict {guard : σ → ℓ → Prop} {s s' : σ} {tr : List ℓ} (h : S.Path s tr s')
    (meets : ∀ l ∈ tr, ∀ s, guard s l) : (S.restrict guard).Path s tr s' := by
  induction h with
  | nil => exact .nil
  | @snoc tr l s' s'' _ hs ih =>
    have before := ih fun l' earlier => meets l' (List.mem_append_left _ earlier)
    exact before.snoc ⟨hs, meets l (List.mem_append_right _ (List.mem_singleton_self l)) s'⟩

theorem Reachable.weaken {guard guard' : σ → ℓ → Prop} (weaker : ∀ s l, guard s l → guard' s l) {s : σ}
    (h : (S.restrict guard).Reachable s) : (S.restrict guard').Reachable s := by
  refine Reachable.invariant (S := S.restrict guard) (S.restrict guard').Reachable (Reachable.init (S := S.restrict guard')) ?_ h
  rintro s l s' before ⟨hs, meets⟩
  exact before.step ⟨hs, weaker s l meets⟩

/-- The invariant rule for conditional runs: each step may use its condition and what is reachable at all. -/
theorem Reachable.invariant_restrict {guard : σ → ℓ → Prop} {s : σ} (I : σ → Prop) (start : I S.init)
    (step : ∀ s l s', S.Reachable s → guard s l → I s → S.step s l s' → I s')
    (h : (S.restrict guard).Reachable s) : I s := by
  have both : S.Reachable s ∧ I s := by
    refine Reachable.invariant (S := S.restrict guard) (fun s => S.Reachable s ∧ I s)
      ⟨Reachable.init (S := S), start⟩ ?_ h
    rintro s l s' ⟨before, inv⟩ ⟨hs, meets⟩
    exact ⟨before.step hs, step s l s' before meets inv hs⟩
  exact both.2

/-- The system of a step function. -/
def ofStep (init : σ) (step : σ → ℓ → Option σ) : TransitionSystem σ ℓ where
  init
  step := fun s l s' => step s l = some s'

/-- Folding the step function over the labels follows a path. -/
theorem path_of_foldlM {init s s' : σ} {step : σ → ℓ → Option σ} {tr : List ℓ} (h : tr.foldlM step s = some s') :
    (ofStep init step).Path s tr s' := by
  induction tr generalizing s with
  | nil =>
    cases h
    exact .nil
  | cons l tr ih =>
    rw [List.foldlM_cons, Option.bind_eq_bind, Option.bind_eq_some_iff] at h
    obtain ⟨s₁, first, rest⟩ := h
    exact Path.cons first (ih rest)

theorem Path.foldlM {init s s' : σ} {step : σ → ℓ → Option σ} {tr : List ℓ} (h : (ofStep init step).Path s tr s') :
    tr.foldlM step s = some s' := by
  induction h with
  | nil => rfl
  | snoc _ last ih =>
    rw [List.foldlM_append, ih]
    simpa [ofStep] using last

/-! ### What some of the steps change -/

section Net

variable (step : σ → ℓ → Option σ) (own : ℓ → Bool) (f : σ → ℤ)

/-- What the steps under own labels change of a measure, one after the other. -/
def net (s : σ) : List ℓ → ℤ
  | [] => 0
  | l :: tr =>
    match step s l with
    | none => 0
    | some s' => (if own l then f s' - f s else 0) + net s' tr

end Net

section Net

variable {step : σ → ℓ → Option σ} (own : ℓ → Bool) (f h : σ → ℤ) {init s s' : σ} {tr : List ℓ}

/-- Own steps change `f` as they change `h`, and no other step changes `h`: the changes add up. -/
theorem Path.net_eq
    (changes : ∀ l ∈ tr, ∀ s s', step s l = some s' → own l = true → f s' - f s = h s' - h s)
    (rest : ∀ l ∈ tr, ∀ s s', step s l = some s' → own l = false → h s' = h s)
    (path : (ofStep init step).Path s tr s') : net step own f s tr = h s' - h s := by
  have run := path.foldlM
  clear path
  induction tr generalizing s with
  | nil =>
    simp only [List.foldlM_nil, Option.pure_def, Option.some.injEq] at run
    rw [run, net, Int.sub_self]
  | cons l tr ih =>
    rw [List.foldlM_cons, Option.bind_eq_bind, Option.bind_eq_some_iff] at run
    obtain ⟨s₁, first, later⟩ := run
    have total := ih (fun l' among => changes l' (List.mem_cons_of_mem l among))
      (fun l' among => rest l' (List.mem_cons_of_mem l among)) later
    simp only [net, first, total]
    cases mine : own l with
    | true =>
      have change := changes l List.mem_cons_self s s₁ first mine
      simp only [if_true]
      omega
    | false =>
      have same := rest l List.mem_cons_self s s₁ first mine
      simp [same]

/-- When all steps are own, their changes are the whole change. -/
theorem Path.net_eq_sub (all : ∀ l ∈ tr, own l = true) (path : (ofStep init step).Path s tr s') :
    net step own f s tr = f s' - f s := by
  apply Path.net_eq own f f (fun _ _ _ _ _ _ => rfl) ?_ path
  intro l among s s' _ other
  simp [all l among] at other

end Net

/-- `rel` relates the states of `S` to states of `T` that can follow each step, under `label`. -/
structure Simulation (S : TransitionSystem σ ℓ) (T : TransitionSystem τ κ) (label : ℓ → κ)
    (rel : σ → τ → Prop) : Prop where
  init : rel S.init T.init
  step : ∀ {s t l s'}, rel s t → S.step s l s' → ∃ t', T.step t (label l) t' ∧ rel s' t'

/-- **Simulation carries runs**: every run of `S` is followed by a run of `T`. -/
theorem Simulation.run {label : ℓ → κ} {rel : σ → τ → Prop} (sim : Simulation S T label rel)
    {tr : List ℓ} {s : σ} (h : S.Run tr s) : ∃ t, T.Run (tr.map label) t ∧ rel s t := by
  induction h with
  | nil => exact ⟨T.init, .nil, sim.init⟩
  | snoc _ hs ih =>
    obtain ⟨t, run, r⟩ := ih
    obtain ⟨t', step, r'⟩ := sim.step r hs
    exact ⟨t', by rw [List.map_append]; exact run.snoc step, r'⟩

end TransitionSystem
