import Mathlib

/-!
# Runs of a Step Function

A component that takes one input at a time, answers it and changes its state
is a function `step : σ → ι → ω × σ`. This module is about what such a
component does over a whole sequence of inputs.

`after` is the state a sequence leads to and `log` records every input with
the answer it got. Most statements about a run relate the two: what the state
holds now against everything that was asked and answered so far. `invariant`
is the rule for them: a relation between log and state that holds at the
start and that every step keeps holds after every run. `always_iff_along` is
the rule for a relation that not every step keeps: when the steps that keep it
are known exactly, so are the runs throughout which it holds. `simulation` is
the rule for two components fed the same inputs.

## Main definitions

* `after`: The state after a sequence of inputs.
* `log`: The inputs of a sequence, each with its answer.
* `total`: A quantity added up over a log.
* `gather`: What the steps give, one after the other.
* `Along`: Every input meets a condition in the state it finds.

## Theorems

* `after_snoc`: The last input steps from where the others lead.
* `log_snoc`: The last input is logged last.
* `log_append`: The log of a run in two parts.
* `log_inputs`: The log lists the inputs.
* `exists_of_mem_log`: Every answer in a log was given in some state.
* `gather_append`, `along_append`: A run in two parts.
* `along_iff`: A condition is met along a run when every prefix of it meets it.
* `invariant_along`: What holds of log and state at the start and is kept by
  every step that meets a condition holds of every run that meets it.
* `invariant_prefixes`: The same for a condition that looks at the log as well.
* `prefixes_of_inits`: How such a condition is checked of a list.
* `invariant`: The same without a condition.
* `always_iff_along`: What is kept by exactly the steps that meet a condition
  holds throughout exactly the runs that meet it.
* `simulation`: Two components that answer alike while related have the same
  log and stay related.
* `simulation_along`: The same for runs that meet a condition.
* `simulation_map`: The same for inputs and answers that only correspond.
-/

namespace SolanaLab

namespace Run

variable {σ τ ι ω : Type} (step : σ → ι → ω × σ)

/-- The state after a sequence of inputs. -/
def after (s : σ) (inputs : List ι) : σ := inputs.foldl (fun s i => (step s i).2) s

/-- The inputs of a sequence, each with its answer. -/
def log : σ → List ι → List (ι × ω)
  | _, [] => []
  | s, i :: rest => (i, (step s i).1) :: log (step s i).2 rest

@[simp] theorem after_nil (s : σ) : after step s [] = s := rfl

theorem after_snoc (s : σ) (inputs : List ι) (i : ι) :
    after step s (inputs ++ [i]) = (step (after step s inputs) i).2 :=
  List.foldl_append

theorem after_append (s : σ) (inputs more : List ι) :
    after step s (inputs ++ more) = after step (after step s inputs) more :=
  List.foldl_append

theorem log_snoc (s : σ) (inputs : List ι) (i : ι) :
    log step s (inputs ++ [i])
      = log step s inputs ++ [(i, (step (after step s inputs) i).1)] := by
  induction inputs generalizing s with
  | nil => rfl
  | cons j rest ih => exact congrArg ((j, (step s j).1) :: ·) (ih (step s j).2)

/-- The log of a run in two parts. -/
theorem log_append (s : σ) (inputs more : List ι) :
    log step s (inputs ++ more) = log step s inputs ++ log step (after step s inputs) more := by
  induction inputs generalizing s with
  | nil => rfl
  | cons i rest ih => exact congrArg ((i, (step s i).1) :: ·) (ih (step s i).2)

/-- The log lists the inputs it was made from. -/
theorem log_inputs (s : σ) (inputs : List ι) : (log step s inputs).map Prod.fst = inputs := by
  induction inputs generalizing s with
  | nil => rfl
  | cons j rest ih => exact congrArg (j :: ·) (ih (step s j).2)

/-- Every answer in a log was given in some state. -/
theorem exists_of_mem_log {s : σ} {inputs : List ι} {entry : ι × ω}
    (h : entry ∈ log step s inputs) : ∃ s', entry.2 = (step s' entry.1).1 := by
  induction inputs generalizing s with
  | nil => exact absurd h List.not_mem_nil
  | cons i rest ih =>
      rcases List.mem_cons.mp h with rfl | hrest
      · exact ⟨s, rfl⟩
      · exact ih hrest

/-- A quantity added up over the entries of a log. -/
def total (f : ι × ω → Nat) (past : List (ι × ω)) : Nat := (past.map f).sum

@[simp] theorem total_nil (f : ι × ω → Nat) : total f [] = 0 := rfl

theorem total_snoc (f : ι × ω → Nat) (past : List (ι × ω)) (entry : ι × ω) :
    total f (past ++ [entry]) = total f past + f entry := by
  rw [total, total, List.map_append, List.sum_append, List.map_singleton, List.sum_singleton]

/-- What the steps of a run give, one after the other. -/
def gather {α : Type} (f : σ → ι → List α) : σ → List ι → List α
  | _, [] => []
  | s, i :: rest => f s i ++ gather f (step s i).2 rest

theorem gather_append {α : Type} (f : σ → ι → List α) (s : σ) (inputs more : List ι) :
    gather step f s (inputs ++ more)
      = gather step f s inputs ++ gather step f (after step s inputs) more := by
  induction inputs generalizing s with
  | nil => rfl
  | cons i rest ih =>
      rw [List.cons_append, gather, gather, ih, List.append_assoc]
      rfl

/-- Every input of a sequence meets a condition in the state it finds. -/
def Along (C : σ → ι → Prop) : σ → List ι → Prop
  | _, [] => True
  | s, i :: rest => C s i ∧ Along C (step s i).2 rest

instance decidableAlong (C : σ → ι → Prop) [∀ s i, Decidable (C s i)] :
    (s : σ) → (inputs : List ι) → Decidable (Along step C s inputs)
  | _, [] => inferInstanceAs (Decidable True)
  | s, i :: rest =>
    have := decidableAlong C (step s i).2 rest
    inferInstanceAs (Decidable (C s i ∧ Along step C (step s i).2 rest))

/-- A condition is met along a run when it is along its two parts. -/
theorem along_append (C : σ → ι → Prop) (s : σ) (inputs more : List ι) :
    Along step C s (inputs ++ more)
      ↔ Along step C s inputs ∧ Along step C (after step s inputs) more := by
  induction inputs generalizing s with
  | nil => simp only [Along, List.nil_append, after_nil, true_and]
  | cons j rest ih =>
      rw [List.cons_append, Along, Along, ih, and_assoc]
      rfl

theorem along_snoc (C : σ → ι → Prop) (s : σ) (inputs : List ι) (i : ι) :
    Along step C s (inputs ++ [i]) ↔ Along step C s inputs ∧ C (after step s inputs) i := by
  rw [along_append, Along, Along, and_true]

/-- A condition is met along a run when each input meets it in the state that
    the inputs before it lead to. -/
theorem along_iff {C : σ → ι → Prop} {s : σ} {inputs : List ι} :
    Along step C s inputs ↔ ∀ pre i, pre ++ [i] <+: inputs → C (after step s pre) i := by
  induction inputs using List.reverseRecOn with
  | nil =>
      refine iff_of_true trivial (fun pre i hpre => ?_)
      have hlen := hpre.length_le
      rw [List.length_append, List.length_singleton, List.length_nil] at hlen
      omega
  | append_singleton inputs j ih =>
      rw [along_snoc, ih]
      constructor
      · rintro ⟨hshort, hlast⟩ pre i hpre
        -- A prefix is the whole list or ends before its last input.
        rcases List.prefix_concat_iff.mp hpre with heq | hpre
        · rcases List.append_inj' heq rfl with ⟨rfl, hij⟩
          rw [List.cons.injEq] at hij
          rw [hij.1]
          exact hlast
        · exact hshort pre i hpre
      · intro h
        exact ⟨fun pre i hpre => h pre i (hpre.trans (List.prefix_append _ _)),
          h inputs j (List.prefix_refl _)⟩

/-- A run that meets a condition meets it as long as it lasts. -/
theorem along_of_prefix {C : σ → ι → Prop} {s : σ} {pre inputs : List ι} (hpre : pre <+: inputs)
    (h : Along step C s inputs) : Along step C s pre :=
  (along_iff step).mpr (fun p i hp => (along_iff step).mp h p i (hp.trans hpre))

/-- A condition on the input alone is met along a run of inputs that meet
    it. -/
theorem along_of_forall {C : ι → Prop} {inputs : List ι} (h : ∀ i ∈ inputs, C i) (s : σ) :
    Along step (fun _ i => C i) s inputs := by
  induction inputs generalizing s with
  | nil => trivial
  | cons j rest ih =>
      exact ⟨h j List.mem_cons_self,
        ih (fun i hi => h i (List.mem_cons_of_mem j hi)) (step s j).2⟩

/-- Two conditions are met together when each is. -/
theorem along_and {C D : σ → ι → Prop} {s : σ} {inputs : List ι} (hc : Along step C s inputs)
    (hd : Along step D s inputs) : Along step (fun s i => C s i ∧ D s i) s inputs := by
  induction inputs generalizing s with
  | nil => trivial
  | cons j rest ih => exact ⟨⟨hc.1, hd.1⟩, ih hc.2 hd.2⟩

/-- The rule of runs that meet a condition. The relation may look at the whole
    log, so it can say what the state has kept of the answers given so far. -/
theorem invariant_along {C : σ → ι → Prop} {P : List (ι × ω) → σ → Prop} {s : σ}
    (hinit : P [] s)
    (hstep : ∀ past s i, P past s → C s i → P (past ++ [(i, (step s i).1)]) (step s i).2)
    {inputs : List ι} (h : Along step C s inputs) :
    P (log step s inputs) (after step s inputs) := by
  -- The runs grow at the end, so the relation is one on logs that do.
  induction inputs using List.reverseRecOn with
  | nil => exact hinit
  | append_singleton inputs i ih =>
      rw [along_snoc] at h
      rw [log_snoc, after_snoc]
      exact hstep _ _ i (ih h.1) h.2

/-- The rule of runs that meet a condition on what came before. The condition
    may look at the log, so it can depend on what the state does not keep. -/
theorem invariant_prefixes {C : List (ι × ω) → σ → ι → Prop} {P : List (ι × ω) → σ → Prop} {s : σ}
    (hinit : P [] s)
    (hstep : ∀ past s i, P past s → C past s i → P (past ++ [(i, (step s i).1)]) (step s i).2)
    {inputs : List ι}
    (h : ∀ pre i, pre ++ [i] <+: inputs → C (log step s pre) (after step s pre) i) :
    P (log step s inputs) (after step s inputs) := by
  induction inputs using List.reverseRecOn with
  | nil => exact hinit
  | append_singleton inputs i ih =>
      have hshort := fun pre j (hpre : pre ++ [j] <+: inputs) =>
        h pre j (hpre.trans (List.prefix_append inputs [i]))
      rw [log_snoc, after_snoc]
      exact hstep _ _ i (ih hshort) (h inputs i (List.prefix_refl _))

/-- What the prefixes of a list meet, its inputs meet where they come. -/
theorem prefixes_of_inits {C : List ι → ι → Prop} {inputs : List ι}
    (h : ∀ p ∈ inputs.inits, ∀ i ∈ p.getLast?, C p.dropLast i) (pre : List ι) (i : ι)
    (hpre : pre ++ [i] <+: inputs) : C pre i := by
  have hlast := h (pre ++ [i]) ((List.mem_inits _ _).mpr hpre) i List.getLast?_concat
  rw [List.dropLast_concat] at hlast
  exact hlast

/-- The rule of runs. -/
theorem invariant {P : List (ι × ω) → σ → Prop} {s : σ} (hinit : P [] s)
    (hstep : ∀ past s i, P past s → P (past ++ [(i, (step s i).1)]) (step s i).2)
    (inputs : List ι) : P (log step s inputs) (after step s inputs) :=
  invariant_along step hinit (fun past s i h _ => hstep past s i h)
    (along_of_forall (C := fun _ => True) step (fun _ _ => trivial) s)

/-- A relation that holds at the start and is kept by a step exactly when the
    step meets a condition holds throughout a run exactly when the run meets
    the condition. Both may rest on what every step keeps. -/
theorem always_iff_along {C : σ → ι → Prop} {I P : List (ι × ω) → σ → Prop} {s : σ}
    (hinv : I [] s)
    (hkeep : ∀ past s i, I past s → I (past ++ [(i, (step s i).1)]) (step s i).2)
    (hinit : P [] s)
    (hstep : ∀ past s i, I past s → P past s →
      (P (past ++ [(i, (step s i).1)]) (step s i).2 ↔ C s i))
    (inputs : List ι) :
    (∀ pre, pre <+: inputs → P (log step s pre) (after step s pre)) ↔ Along step C s inputs := by
  induction inputs using List.reverseRecOn with
  | nil =>
      refine iff_of_true (fun pre hpre => ?_) trivial
      rw [List.prefix_nil.mp hpre]
      exact hinit
  | append_singleton inputs i ih =>
      have hI := invariant step hinv hkeep inputs
      rw [along_snoc, ← ih]
      -- A prefix of the longer run is the whole of it or a prefix of the shorter one.
      constructor
      · intro h
        have hshort := fun pre hpre => h pre (List.prefix_concat_iff.mpr (Or.inr hpre))
        have hlast := h _ (List.prefix_refl _)
        rw [log_snoc, after_snoc] at hlast
        exact ⟨hshort, (hstep _ _ i hI (hshort inputs (List.prefix_refl _))).mp hlast⟩
      · rintro ⟨hshort, hc⟩ pre hpre
        rcases List.prefix_concat_iff.mp hpre with rfl | hpre
        · rw [log_snoc, after_snoc]
          exact (hstep _ _ i hI (hshort inputs (List.prefix_refl _))).mpr hc
        · exact hshort pre hpre

/-- Two components that answer alike as long as they are related, and stay
    related, have the same log and are related after every run. -/
theorem simulation {step' : τ → ι → ω × τ} {R : σ → τ → Prop} {s : σ} {t : τ} (hinit : R s t)
    (hstep : ∀ s t i, R s t → (step s i).1 = (step' t i).1 ∧ R (step s i).2 (step' t i).2)
    (inputs : List ι) :
    log step s inputs = log step' t inputs ∧ R (after step s inputs) (after step' t inputs) := by
  induction inputs using List.reverseRecOn with
  | nil => exact ⟨rfl, hinit⟩
  | append_singleton inputs i ih =>
      rcases hstep _ _ i ih.2 with ⟨hanswer, hrel⟩
      rw [log_snoc, log_snoc, after_snoc, after_snoc, ih.1, hanswer]
      exact ⟨rfl, hrel⟩

/-- The same for two components that are related while every input meets a
    condition in both. -/
theorem simulation_along (step' : τ → ι → ω × τ) {C : σ → ι → Prop} {R : σ → τ → Prop}
    {s : σ} {t : τ} (hinit : R s t)
    (hstep : ∀ s t i, R s t → C s i →
      (step s i).1 = (step' t i).1 ∧ R (step s i).2 (step' t i).2)
    {inputs : List ι} (h : Along step C s inputs) :
    log step s inputs = log step' t inputs ∧ R (after step s inputs) (after step' t inputs) := by
  induction inputs using List.reverseRecOn with
  | nil => exact ⟨rfl, hinit⟩
  | append_singleton inputs i ih =>
      rw [along_snoc] at h
      have hrel := ih h.1
      rcases hstep _ _ i hrel.2 h.2 with ⟨hanswer, hnext⟩
      rw [log_snoc, log_snoc, after_snoc, after_snoc, hrel.1, hanswer]
      exact ⟨rfl, hnext⟩

/-- Two components that are fed what corresponds, and whose answers mean the same
    as long as they are related. -/
theorem simulation_map {κ ω' α : Type} {step' : τ → κ → ω' × τ} (h : ι → κ) (f : ω → α)
    (g : ω' → α) {C : ι → Prop} {R : σ → τ → Prop} {s : σ} {t : τ} (hinit : R s t)
    (hstep : ∀ s t i, R s t → C i →
      f (step s i).1 = g (step' t (h i)).1 ∧ R (step s i).2 (step' t (h i)).2)
    {inputs : List ι} (hinputs : ∀ i ∈ inputs, C i) :
    (log step s inputs).map (fun entry => f entry.2)
      = (log step' t (inputs.map h)).map (fun entry => g entry.2) ∧
    R (after step s inputs) (after step' t (inputs.map h)) := by
  induction inputs using List.reverseRecOn with
  | nil => exact ⟨rfl, hinit⟩
  | append_singleton inputs i ih =>
      have hrel := ih (fun j hj => hinputs j (List.mem_append_left _ hj))
      rcases hstep _ _ i hrel.2 (hinputs i (List.mem_append_right _ List.mem_cons_self)) with
        ⟨hanswer, hnext⟩
      rw [List.map_append, List.map_singleton, log_snoc, log_snoc, after_snoc, after_snoc,
        List.map_append, List.map_append, hrel.1, List.map_singleton, List.map_singleton, hanswer]
      exact ⟨rfl, hnext⟩

end Run

end SolanaLab
