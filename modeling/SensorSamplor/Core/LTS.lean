import Mathlib.Data.List.Induction

/-!
# Labelled transition systems and their runs

A system is a set of initial states and a labelled step relation. A run is
the list of labels it took; a state is reachable when some run from an
initial state ends in it. Two rules carry every safety proof built on this:

* `Inductive.reachable`: what holds initially and is kept by every step
  holds in every reachable state;
* `Run.keeps`: the same along one run from a given state.

`Run.length_le` bounds a run by a measure that every step lowers.
`Simulates.reachable` carries what holds of one system to another one whose
steps it can follow.

`ofFn` makes a system from a partial step function; its runs are computed
by `exec` (`run_of_exec`), which is how a concrete schedule is replayed.
-/
namespace SensorSamplor.Core

structure LTS (S L : Type*) where
  init : S → Prop
  step : S → L → S → Prop

namespace LTS

variable {S L : Type*} {M : LTS S L}

inductive Run (M : LTS S L) : S → List L → S → Prop
  | nil (s : S) : Run M s [] s
  | cons {s s' s'' : S} {l : L} {ls : List L} :
      M.step s l s' → Run M s' ls s'' → Run M s (l :: ls) s''

def Reachable (M : LTS S L) (s : S) : Prop := ∃ s₀ ls, M.init s₀ ∧ M.Run s₀ ls s

/-- No step leaves `s`. -/
def Quiescent (M : LTS S L) (s : S) : Prop := ∀ l s', ¬ M.step s l s'

/-- `I` holds initially and every step keeps it. -/
structure Inductive (M : LTS S L) (I : S → Prop) : Prop where
  init : ∀ s, M.init s → I s
  step : ∀ s l s', I s → M.step s l s' → I s'

theorem Run.keeps {I : S → Prop} (hstep : ∀ s l s', I s → M.step s l s' → I s') {s s' : S}
    {ls : List L} (hr : M.Run s ls s') (h : I s) : I s' := by
  induction hr with
  | nil => exact h
  | cons hs _ ih => exact ih (hstep _ _ _ h hs)

theorem Inductive.reachable {I : S → Prop} (hI : M.Inductive I) (s : S) (h : M.Reachable s) : I s := by
  obtain ⟨s₀, ls, h₀, hr⟩ := h
  exact hr.keeps hI.step (hI.init s₀ h₀)

/-- Where every step lowers `μ`, a run is no longer than `μ` allows. -/
theorem Run.length_le {μ : S → Nat} (hμ : ∀ s l s', M.step s l s' → μ s' < μ s) {s s' : S} {ls : List L}
    (hr : M.Run s ls s') : ls.length + μ s' ≤ μ s := by
  induction hr with
  | nil => simp
  | cons hs _ ih =>
    have := hμ _ _ _ hs
    simp only [List.length_cons]
    omega

/-- Where every step lowers `μ`, every state has a run to one that no step leaves. -/
theorem exists_quiescent {μ : S → Nat} (hμ : ∀ s l s', M.step s l s' → μ s' < μ s) (s : S) :
    ∃ ls s', M.Run s ls s' ∧ M.Quiescent s' := by
  induction hn : μ s using Nat.strongRecOn generalizing s with
  | ind n ih =>
    by_cases hq : M.Quiescent s
    · exact ⟨[], s, .nil s, hq⟩
    · simp only [Quiescent, not_forall, not_not] at hq
      obtain ⟨l, s₁, hs⟩ := hq
      obtain ⟨ls, s', hr, hq'⟩ := ih (μ s₁) (hn ▸ hμ s l s₁ hs) s₁ rfl
      exact ⟨l :: ls, s', .cons hs hr, hq'⟩

theorem Run.append {a b d : S} {l₁ l₂ : List L} (h₁ : M.Run a l₁ b) (h₂ : M.Run b l₂ d) :
    M.Run a (l₁ ++ l₂) d := by
  induction h₁ with
  | nil => exact h₂
  | cons hs _ ih => exact .cons hs (ih h₂)

theorem Run.single {a b : S} {l : L} (h : M.step a l b) : M.Run a [l] b := .cons h (.nil b)

theorem Run.split {a d : S} {l₁ l₂ : List L} (h : M.Run a (l₁ ++ l₂) d) :
    ∃ b, M.Run a l₁ b ∧ M.Run b l₂ d := by
  induction l₁ generalizing a with
  | nil => exact ⟨a, .nil a, h⟩
  | cons l l₁ ih =>
    cases h with
    | cons hs hr =>
      obtain ⟨b, h₁, h₂⟩ := ih hr
      exact ⟨b, .cons hs h₁, h₂⟩

/-- Induction along a run from its end: the rule for properties of every
prefix of the run. -/
theorem Run.concat_induction {s₀ : S} {P : List L → S → Prop} (nil : P [] s₀)
    (concat : ∀ ls l s s', M.Run s₀ ls s → M.step s l s' → P ls s → P (ls ++ [l]) s') {ls : List L}
    {s : S} (hr : M.Run s₀ ls s) : P ls s := by
  induction ls using List.reverseRecOn generalizing s with
  | nil => cases hr; exact nil
  | append_singleton ls l ih =>
    obtain ⟨b, h₁, h₂⟩ := hr.split
    cases h₂ with
    | cons hs hn => cases hn; exact concat ls l b _ h₁ hs (ih h₁)

/-- The steps of a system that are of the kind `P`. -/
def restrict (M : LTS S L) (P : S → L → Prop) : LTS S L where
  init := M.init
  step s l s' := M.step s l s' ∧ P s l

theorem Run.of_restrict {P : S → L → Prop} {s s' : S} {ls : List L} (hr : (M.restrict P).Run s ls s') :
    M.Run s ls s' := by
  induction hr with
  | nil s => exact .nil s
  | cons hs _ ih => exact .cons hs.1 ih

/-! ## Simulations -/

/-- Each step of `C` does what some run of `A` does. -/
structure Simulates {T K : Type*} (C : LTS S L) (A : LTS T K) (R : S → T → Prop) : Prop where
  init : ∀ s, C.init s → ∃ t, A.init t ∧ R s t
  step : ∀ s l s' t, R s t → C.step s l s' → ∃ ks t', A.Run t ks t' ∧ R s' t'

theorem Simulates.reachable {T K : Type*} {C : LTS S L} {A : LTS T K} {R : S → T → Prop} (h : Simulates C A R)
    {s : S} (hs : C.Reachable s) : ∃ t, A.Reachable t ∧ R s t := by
  obtain ⟨s₀, ls, h₀, hr⟩ := hs
  obtain ⟨t₀, ht₀, hR⟩ := h.init s₀ h₀
  refine hr.concat_induction (P := fun _ s => ∃ t, A.Reachable t ∧ R s t) ?_ ?_
  · exact ⟨t₀, ⟨t₀, [], ht₀, .nil t₀⟩, hR⟩
  · intro ls l s s' _ hstep ih
    obtain ⟨t, ⟨u, ks, hu, ht⟩, hst⟩ := ih
    obtain ⟨ks', t', hrun, hR'⟩ := h.step s l s' t hst hstep
    exact ⟨t', ⟨u, ks ++ ks', hu, ht.append hrun⟩, hR'⟩

/-! ## Systems given by a partial step function -/

def ofFn (init : S → Prop) (step : S → L → Option S) : LTS S L where
  init := init
  step s l s' := step s l = some s'

def exec (step : S → L → Option S) : S → List L → Option S
  | s, [] => some s
  | s, l :: ls => (step s l).bind fun s' => exec step s' ls

theorem run_of_exec {init : S → Prop} {step : S → L → Option S} :
    ∀ {s s' : S} {ls : List L}, exec step s ls = some s' → (ofFn init step).Run s ls s'
  | s, s', [], h => by
    simp only [exec, Option.some.injEq] at h; subst h; exact .nil s
  | s, s', l :: ls, h => by
    simp only [exec, Option.bind_eq_some_iff] at h
    obtain ⟨s₁, h₁, h₂⟩ := h
    exact .cons h₁ (run_of_exec h₂)

end LTS
end SensorSamplor.Core
