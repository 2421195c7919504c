import Mathlib

/-!
# Replaying a Log of Events

A state that changes only by events is rebuilt by applying its log again.
`apply` answers success or an error and gives the state afterwards; on an
error the state it gives may be anything, because a replay stops there.

`replay_snoc` is how a live system keeps its log replayable: it appends an
event that has just been applied. `replay_invariant` is how a replayed state
is known to be sound: what the empty log starts with and every applied event
keeps holds of whatever a log replays to.

## Main definitions

* `replay`: The state a log leads to, or the error of the first event that
  does not apply.

## Theorems

* `replay_append`: A log replays in two parts.
* `replay_snoc`: A log that replays can be continued by an event that
  applies.
* `replay_split`: Every event of a log that replays applies in its place.
* `replay_invariant`: What every applied event keeps holds of a replayed
  state.
-/

namespace SolanaLab

namespace Replay

variable {σ ε φ : Type} (apply : σ → ε → Except φ Unit × σ)

/-- The state a log leads to, or the error of the first event that does not
    apply. -/
def replay : σ → List ε → Except φ σ
  | s, [] => .ok s
  | s, e :: rest =>
    match apply s e with
    | (.error err, _) => .error err
    | (.ok (), s') => replay s' rest

@[simp] theorem replay_nil (s : σ) : replay apply s [] = .ok s := rfl

theorem replay_cons_ok {s s' : σ} {e : ε} (h : apply s e = (.ok (), s')) (rest : List ε) :
    replay apply s (e :: rest) = replay apply s' rest := by
  rw [replay, h]

/-- A log replays in two parts, the second from where the first has led. -/
theorem replay_append {s t : σ} {first : List ε} (h : replay apply s first = .ok t)
    (second : List ε) : replay apply s (first ++ second) = replay apply t second := by
  -- The first part applies event by event, as the log replays it to `t`.
  induction first generalizing s with
  | nil =>
      rw [replay_nil, Except.ok.injEq] at h
      rw [h, List.nil_append]
  | cons e rest ih =>
      rcases hs : apply s e with ⟨err | ⟨⟩, s'⟩
      · rw [replay, hs] at h
        exact absurd h (by simp only [reduceCtorEq, not_false_eq_true])
      · rw [replay_cons_ok apply hs] at h
        rw [List.cons_append, replay_cons_ok apply hs]
        exact ih h

/-- A log that replays can be continued by an event that applies. -/
theorem replay_snoc {s t u : σ} {past : List ε} (h : replay apply s past = .ok t) {e : ε}
    (he : apply t e = (.ok (), u)) : replay apply s (past ++ [e]) = .ok u := by
  rw [replay_append apply h, replay_cons_ok apply he, replay_nil]

/-- A log stays as broken as any first part of it. -/
theorem replay_error {s : σ} {first : List ε} {err : φ} (h : replay apply s first = .error err)
    (second : List ε) : replay apply s (first ++ second) = .error err := by
  induction first generalizing s with
  | nil => exact absurd h (by simp only [replay_nil, reduceCtorEq, not_false_eq_true])
  | cons e rest ih =>
      rcases hs : apply s e with ⟨err' | ⟨⟩, s'⟩
      · rw [replay, hs] at h
        rw [List.cons_append, replay, hs]
        exact h
      · rw [replay_cons_ok apply hs] at h
        rw [List.cons_append, replay_cons_ok apply hs]
        exact ih h

/-- Every event of a log that replays applies where the events before it have
    led. -/
theorem replay_split {s u : σ} {before after : List ε} {e : ε}
    (h : replay apply s (before ++ e :: after) = .ok u) :
    ∃ t t', replay apply s before = .ok t ∧ apply t e = (.ok (), t') := by
  cases hb : replay apply s before with
  | error err =>
      rw [replay_error apply hb] at h
      exact absurd h (by simp only [reduceCtorEq, not_false_eq_true])
  | ok t =>
      rw [replay_append apply hb] at h
      rcases ht : apply t e with ⟨err | ⟨⟩, t'⟩
      · rw [replay, ht] at h
        exact absurd h (by simp only [reduceCtorEq, not_false_eq_true])
      · exact ⟨t, t', rfl, ht⟩

/-- What the empty log starts with and every applied event keeps holds of the
    state a log replays to, together with the log. -/
theorem replay_invariant {P : List ε → σ → Prop} {s : σ} (hinit : P [] s)
    (hstep : ∀ past t e u, P past t → apply t e = (.ok (), u) → P (past ++ [e]) u)
    {events : List ε} {t : σ} (h : replay apply s events = .ok t) : P events t := by
  induction events using List.reverseRecOn generalizing t with
  | nil =>
      rw [replay_nil, Except.ok.injEq] at h
      rw [← h]
      exact hinit
  | append_singleton past e ih =>
      cases hp : replay apply s past with
      | error err =>
          rw [replay_error apply hp] at h
          exact absurd h (by simp only [reduceCtorEq, not_false_eq_true])
      -- The prefix replays to a state the invariant holds of, and the last event is one step.
      | ok u =>
          rw [replay_append apply hp] at h
          rcases hu : apply u e with ⟨err | ⟨⟩, u'⟩
          · rw [replay, hu] at h
            exact absurd h (by simp only [reduceCtorEq, not_false_eq_true])
          · rw [replay_cons_ok apply hu, replay_nil, Except.ok.injEq] at h
            rw [← h]
            exact hstep past u e u' (ih hp) hu

end Replay

end SolanaLab
