import SolanaLab.Library.Run

/-!
# A Server behind a Mailbox

A server that takes one command at a time out of a bounded mailbox, and any
number of callers that send commands and wait for the answers. Callers come
and go as they like: a call may wait for room in the mailbox, may be given up
at any moment, and may find that the server has stopped. When the server stops
it drops what is left in the mailbox, and these calls are told that it is
closed.

`step` is one move of the whole system, so a list of moves is an interleaving
of the callers with the server and with chance. The question is what the
answers mean. `linearizable` says that they are those of the server alone, fed
the commands in the order in which it took them: no command is served twice,
none is served that was not sent, the order is the order of the mailbox, and a
call that is told the mailbox is closed was not served. `linearizable_realTime`
adds that a call answered before another began comes before it. `settles` is
progress: as many turns of the server as there are commands in the mailbox
leave no call waiting.

`Kept` is the invariant. It says of the history which commands were begun, sent
and served, and of each call what has become of it, which `Fate` reads off the
history alone. There is one lemma for each way a move can go: it says something
else of a call, a call begins, a command is sent, or one is served. Only the
last is where a call can be answered or be told that the mailbox is closed by
the server itself.

## Main definitions

* `Server`: What a command does, and whether the server goes on.
* `Call`: How far a call has come.
* `System`: The server's state, the mailbox and the calls so far.
* `Move`, `Effect`: What can happen next, and what it brings about.
* `step`: One move of the system.
* `invoked`, `sent`, `served`: What a history says of commands.
* `Kept`: What holds of every history and the state it leads to.

## Theorems

* `getElem?_dropAll`: What becomes of a call when the mailbox is dropped.
* `step_kept`: Every move keeps `Kept`.
* `linearizable`: The answers are those of the server alone.
* `linearizable_realTime`: Calls that do not overlap are served in order.
* `answered_step`: A call that has its answer keeps it.
* `settles`: Enough turns of the server leave no call waiting.
-/

namespace SolanaLab

namespace Mailbox

variable {σ κ χ ω : Type}

/-- A server. What a command leads to may depend on chance. -/
structure Server (σ κ χ ω : Type) where
  serve : σ → κ × χ → ω × σ
  running : σ → Bool

/-- How far a call has come. -/
inductive Call (κ ω : Type) where
  /-- The command waits for room in the mailbox. -/
  | sending (command : κ)
  /-- The command is in the mailbox. -/
  | waiting
  | answered (answer : ω)
  /-- The server stopped and has not served the command. -/
  | closed
  /-- The caller has gone. Its command may still be in the mailbox. -/
  | abandoned
deriving DecidableEq

/-- What a call becomes when something comes back for it. -/
def Call.settle (result : Call κ ω) : Call κ ω → Call κ ω
  | .waiting => result
  | call => call

/-- A command that was served, for which call and with what answer. -/
structure Served (κ χ ω : Type) where
  call : Nat
  input : κ × χ
  answer : ω
deriving DecidableEq

/-- The state of the server, the mailbox with the call each command is for,
    and the calls in the order in which they began. -/
structure System (σ κ ω : Type) where
  state : σ
  queue : List (Nat × κ)
  calls : List (Call κ ω)

/-- Whose turn it is: a caller's or the server's. A move that is not possible
    does nothing. -/
inductive Move (κ χ : Type) where
  /-- A call begins. -/
  | invoke (command : κ)
  /-- A call puts its command into the mailbox, if there is room. -/
  | send (call : Nat)
  /-- A caller gives its call up. -/
  | abandon (call : Nat)
  /-- The server takes the next command. -/
  | serve (chance : χ)
deriving DecidableEq

/-- What a move shows of itself. -/
inductive Effect (κ χ ω : Type) where
  | quiet
  | sent (call : Nat)
  | served (entry : Served κ χ ω)
deriving DecidableEq

/-- The answer that a mailbox was dropped, to all that were in it. -/
def dropAll (dropped : List (Nat × κ)) (calls : List (Call κ ω)) : List (Call κ ω) :=
  dropped.foldl (fun calls e => calls.modify e.1 (Call.settle .closed)) calls

/-- A system in which nobody has called yet. -/
def System.start (s : σ) : System σ κ ω := ⟨s, [], []⟩

/-- One move of the system. -/
def step (server : Server σ κ χ ω) (capacity : Nat) (m : System σ κ ω) :
    Move κ χ → Effect κ χ ω × System σ κ ω
  | .invoke command => (.quiet, { m with calls := m.calls ++ [.sending command] })
  | .send call =>
    match m.calls[call]? with
    | some (.sending command) =>
      if server.running m.state then
        if m.queue.length < capacity then
          (.sent call, { m with
            queue := m.queue ++ [(call, command)], calls := m.calls.set call .waiting })
        else (.quiet, m)
      else (.quiet, { m with calls := m.calls.set call .closed })
    | _ => (.quiet, m)
  | .abandon call =>
    match m.calls[call]? with
    | some (.sending _) => (.quiet, { m with calls := m.calls.set call .abandoned })
    | some .waiting => (.quiet, { m with calls := m.calls.set call .abandoned })
    | _ => (.quiet, m)
  | .serve chance =>
    match server.running m.state, m.queue with
    | true, (call, command) :: rest =>
      let r := server.serve m.state (command, chance)
      let calls := m.calls.modify call (Call.settle (.answered r.1))
      let entry : Served κ χ ω := ⟨call, (command, chance), r.1⟩
      if server.running r.2 then (.served entry, ⟨r.2, rest, calls⟩)
      else (.served entry, ⟨r.2, [], dropAll rest calls⟩)
    | _, _ => (.quiet, m)

/-! ### Histories -/

/-- The commands of all calls, in the order in which they began. -/
def invoked (past : List (Move κ χ × Effect κ χ ω)) : List κ :=
  past.filterMap (fun e => match e.1 with
    | .invoke command => some command
    | _ => none)

/-- The calls whose commands were put into the mailbox. -/
def sent (past : List (Move κ χ × Effect κ χ ω)) : List Nat :=
  past.filterMap (fun e => match e.2 with
    | .sent call => some call
    | _ => none)

/-- The commands that were served. -/
def served (past : List (Move κ χ × Effect κ χ ω)) : List (Served κ χ ω) :=
  past.filterMap (fun e => match e.2 with
    | .served entry => some entry
    | _ => none)

/-- What has come of a call, by what the history says of it. -/
def Fate (past : List (Move κ χ × Effect κ χ ω)) (queue : List (Nat × κ)) (i : Nat) :
    Call κ ω → Prop
  | .sending command => i ∉ sent past ∧ (invoked past)[i]? = some command
  | .waiting => i ∈ queue.map Prod.fst
  | .answered answer => ∃ e ∈ served past, e.call = i ∧ e.answer = answer
  | .closed => i ∉ (served past).map Served.call ∧ i ∉ queue.map Prod.fst
  | .abandoned => True

/-- What holds of every history and of the state it leads to. The mailbox is
    what was sent and not yet served, in this order; when the server stops,
    the rest of what was sent is gone. Only a running server serves. -/
structure Kept (server : Server σ κ χ ω) (capacity : Nat) (s : σ)
    (past : List (Move κ χ × Effect κ χ ω)) (m : System σ κ ω) : Prop where
  state : m.state = Run.after server.serve s ((served past).map Served.input)
  replies : Run.log server.serve s ((served past).map Served.input)
    = (served past).map (fun e => (e.input, e.answer))
  count : m.calls.length = (invoked past).length
  distinct : (sent past).Nodup
  began : ∀ i ∈ sent past, i < m.calls.length
  order : (served past).map Served.call ++ m.queue.map Prod.fst <+: sent past
  running : server.running m.state = true →
    (served past).map Served.call ++ m.queue.map Prod.fst = sent past
  stopped : server.running m.state = false → m.queue = []
  commands : ∀ e ∈ served past, (invoked past)[e.call]? = some e.input.1
  queued : ∀ e ∈ m.queue, (invoked past)[e.1]? = some e.2
  fate : ∀ i call, m.calls[i]? = some call → Fate past m.queue i call
  room : m.queue.length ≤ capacity
  ran : Run.Along server.serve (fun s _ => server.running s = true) s
    ((served past).map Served.input)

section Histories

variable (past : List (Move κ χ × Effect κ χ ω))

theorem invoked_snoc (move : Move κ χ) (effect : Effect κ χ ω) :
    invoked (past ++ [(move, effect)]) = invoked past ++ (match move with
      | .invoke command => [command]
      | _ => []) := by
  rw [invoked, List.filterMap_append]
  cases move <;> rfl

theorem sent_snoc (move : Move κ χ) (effect : Effect κ χ ω) :
    sent (past ++ [(move, effect)]) = sent past ++ (match effect with
      | .sent call => [call]
      | _ => []) := by
  rw [sent, List.filterMap_append]
  cases effect <;> rfl

theorem served_snoc (move : Move κ χ) (effect : Effect κ χ ω) :
    served (past ++ [(move, effect)]) = served past ++ (match effect with
      | .served entry => [entry]
      | _ => []) := by
  rw [served, List.filterMap_append]
  cases effect <;> rfl

end Histories

/-! ### The calls of a dropped mailbox -/

theorem settle_closed_closed (call : Call κ ω) :
    Call.settle .closed (Call.settle .closed call) = Call.settle .closed call := by
  cases call <;> rfl

/-- The calls that were in the mailbox are told that it is closed. -/
theorem getElem?_dropAll (dropped : List (Nat × κ)) (calls : List (Call κ ω)) (i : Nat) :
    (dropAll dropped calls)[i]?
      = if i ∈ dropped.map Prod.fst then calls[i]?.map (Call.settle .closed) else calls[i]? := by
  induction dropped generalizing calls with
  | nil => rfl
  | cons e rest ih =>
      have hcons : dropAll (e :: rest) calls
          = dropAll rest (calls.modify e.1 (Call.settle .closed)) := rfl
      rw [hcons, ih, List.getElem?_modify]
      simp only [List.map_cons, List.mem_cons, Option.map_eq_map]
      by_cases hrest : i ∈ rest.map Prod.fst <;> by_cases he : e.1 = i
      · simp only [hrest, he, if_true, or_true, Option.map_map]
        congr 1
        funext call
        exact settle_closed_closed call
      · simp only [hrest, he, if_true, if_false, or_true, Option.map_id_fun', id_eq]
      · simp only [hrest, he, if_true, if_false, true_or]
      · have hne : i ≠ e.1 := fun h => he h.symm
        simp only [hrest, he, hne, if_false, or_self, Option.map_id_fun', id_eq]

theorem length_dropAll (dropped : List (Nat × κ)) (calls : List (Call κ ω)) :
    (dropAll dropped calls).length = calls.length := by
  induction dropped generalizing calls with
  | nil => rfl
  | cons e rest ih =>
      have hcons : dropAll (e :: rest) calls
          = dropAll rest (calls.modify e.1 (Call.settle .closed)) := rfl
      rw [hcons, ih, List.length_modify]

/-! ### What every move keeps -/

variable {server : Server σ κ χ ω} {capacity : Nat} {s : σ}
  {past : List (Move κ χ × Effect κ χ ω)} {m : System σ κ ω}

theorem start_kept (server : Server σ κ χ ω) (capacity : Nat) (s : σ) :
    Kept server capacity s [] (.start s) where
  state := rfl
  replies := rfl
  count := rfl
  distinct := List.nodup_nil
  began _ hi := absurd hi List.not_mem_nil
  order := List.prefix_refl _
  running _ := rfl
  stopped _ := rfl
  commands _ he := absurd he List.not_mem_nil
  queued _ he := absurd he List.not_mem_nil
  fate _ _ hcall := absurd hcall (by
    simp only [System.start, List.getElem?_nil, reduceCtorEq, not_false_eq_true])
  room := Nat.zero_le _
  ran := trivial

/-- A move that only says something else of one call, and tells the truth. -/
theorem Kept.quiet (h : Kept server capacity s past m) {move : Move κ χ}
    (hmove : ∀ command, move ≠ .invoke command) {calls : List (Call κ ω)}
    (hlen : calls.length = m.calls.length)
    (hfate : ∀ i call, calls[i]? = some call → Fate past m.queue i call) :
    Kept server capacity s (past ++ [(move, .quiet)]) { m with calls } := by
  -- Nothing is begun, sent or served, so the history says what it said.
  have hinvoked : invoked (past ++ [(move, (.quiet : Effect κ χ ω))]) = invoked past := by
    rw [invoked_snoc]
    cases move with
    | invoke command => exact absurd rfl (hmove command)
    | send call => exact List.append_nil _
    | abandon call => exact List.append_nil _
    | serve chance => exact List.append_nil _
  have hsent : sent (past ++ [(move, (.quiet : Effect κ χ ω))]) = sent past := by
    rw [sent_snoc, List.append_nil]
  have hserved : served (past ++ [(move, (.quiet : Effect κ χ ω))]) = served past := by
    rw [served_snoc, List.append_nil]
  constructor
  · rw [hserved]
    exact h.state
  · rw [hserved]
    exact h.replies
  · rw [hinvoked]
    exact hlen.trans h.count
  · rw [hsent]
    exact h.distinct
  · rw [hsent]
    exact fun i hi => lt_of_lt_of_eq (h.began i hi) hlen.symm
  · rw [hsent, hserved]
    exact h.order
  · rw [hsent, hserved]
    exact h.running
  · exact h.stopped
  · rw [hinvoked, hserved]
    exact h.commands
  · rw [hinvoked]
    exact h.queued
  · intro i call hcall
    have hold := hfate i call hcall
    cases call with
    | sending command =>
        rw [Fate, hsent, hinvoked]
        exact hold
    | waiting => exact hold
    | answered answer =>
        rw [Fate, hserved]
        exact hold
    | closed =>
        rw [Fate, hserved]
        exact hold
    | abandoned => trivial
  · exact h.room
  · rw [hserved]
    exact h.ran

/-- A call that begins. -/
theorem Kept.invoke (h : Kept server capacity s past m) (command : κ) :
    Kept server capacity s (past ++ [(.invoke command, .quiet)])
      { m with calls := m.calls ++ [.sending command] } := by
  -- The new call is the last one, so the others are numbered as before.
  have hinvoked : invoked (past ++ [(.invoke command, (.quiet : Effect κ χ ω))])
      = invoked past ++ [command] := invoked_snoc past _ _
  have hsent : sent (past ++ [(.invoke command, (.quiet : Effect κ χ ω))]) = sent past := by
    rw [sent_snoc, List.append_nil]
  have hserved : served (past ++ [(.invoke command, (.quiet : Effect κ χ ω))])
      = served past := by
    rw [served_snoc, List.append_nil]
  -- The calls that had begun keep their commands.
  have hold : ∀ {i : Nat} {c : κ}, (invoked past)[i]? = some c →
      (invoked past ++ [command])[i]? = some c := fun hi => by
    rw [List.getElem?_append_left (List.getElem?_eq_some_iff.mp hi).1]
    exact hi
  constructor
  · rw [hserved]
    exact h.state
  · rw [hserved]
    exact h.replies
  · rw [hinvoked, List.length_append, List.length_append, h.count]
    rfl
  · rw [hsent]
    exact h.distinct
  · rw [hsent]
    intro i hi
    rw [List.length_append]
    exact lt_of_lt_of_le (h.began i hi) (Nat.le_add_right _ _)
  · rw [hsent, hserved]
    exact h.order
  · rw [hsent, hserved]
    exact h.running
  · exact h.stopped
  · rw [hinvoked, hserved]
    exact fun e he => hold (h.commands e he)
  · rw [hinvoked]
    exact fun e he => hold (h.queued e he)
  · intro i call hcall
    by_cases hi : i < m.calls.length
    · rw [List.getElem?_append_left hi] at hcall
      have hfate := h.fate i call hcall
      cases call with
      | sending c =>
          rw [Fate, hsent, hinvoked]
          exact ⟨hfate.1, hold hfate.2⟩
      | waiting => exact hfate
      | answered answer =>
          rw [Fate, hserved]
          exact hfate
      | closed =>
          rw [Fate, hserved]
          exact hfate
      | abandoned => trivial
    · -- The new call is the last one.
      have hlast : i = m.calls.length := by
        have hlt := (List.getElem?_eq_some_iff.mp hcall).1
        rw [List.length_append, List.length_singleton] at hlt
        omega
      rw [hlast, List.getElem?_concat_length, Option.some.injEq] at hcall
      rw [← hcall, Fate, hsent, hinvoked, hlast]
      refine ⟨fun hmem => absurd (h.began _ hmem) (Nat.lt_irrefl _), ?_⟩
      rw [h.count, List.getElem?_concat_length]
  · exact h.room
  · rw [hserved]
    exact h.ran

/-- A command that finds room in the mailbox of a running server. -/
theorem Kept.send (h : Kept server capacity s past m) {call : Nat} {command : κ}
    (hcall : m.calls[call]? = some (.sending command)) (hrun : server.running m.state = true)
    (hroom : m.queue.length < capacity) :
    Kept server capacity s (past ++ [(.send call, .sent call)]) { m with
      queue := m.queue ++ [(call, command)], calls := m.calls.set call .waiting } := by
  have hinvoked : invoked (past ++ [(.send call, (.sent call : Effect κ χ ω))])
      = invoked past := by
    rw [invoked_snoc, List.append_nil]
  have hsent : sent (past ++ [(.send call, (.sent call : Effect κ χ ω))])
      = sent past ++ [call] := sent_snoc past _ _
  have hserved : served (past ++ [(.send call, (.sent call : Effect κ χ ω))]) = served past := by
    rw [served_snoc, List.append_nil]
  have hnew : call ∉ sent past := (h.fate call _ hcall).1
  have horder : (served past).map Served.call ++ (m.queue ++ [(call, command)]).map Prod.fst
      = sent past ++ [call] := by
    rw [List.map_append, ← List.append_assoc, h.running hrun]
    rfl
  constructor
  · rw [hserved]
    exact h.state
  · rw [hserved]
    exact h.replies
  · rw [hinvoked, List.length_set]
    exact h.count
  · rw [hsent]
    exact List.concat_eq_append ▸ h.distinct.concat hnew
  · rw [hsent]
    intro i hi
    rw [List.length_set]
    rcases List.mem_append.mp hi with hold | hlast
    · exact h.began i hold
    · rw [List.mem_singleton.mp hlast]
      exact (List.getElem?_eq_some_iff.mp hcall).1
  · rw [hsent, hserved, horder]
  · intro _
    rw [hsent, hserved, horder]
  · intro hstop
    exact absurd (hrun.symm.trans hstop) Bool.true_eq_false.mp
  · rw [hinvoked, hserved]
    exact h.commands
  · rw [hinvoked]
    intro e he
    rcases List.mem_append.mp he with hold | hlast
    · exact h.queued e hold
    · rw [List.mem_singleton.mp hlast]
      exact (h.fate call _ hcall).2
  · intro i c hc
    by_cases hi : i = call
    · -- The call waits now, and its command is the last in the mailbox.
      rw [hi, List.getElem?_set_self (List.getElem?_eq_some_iff.mp hcall).1,
        Option.some.injEq] at hc
      rw [← hc, hi, Fate, List.map_append]
      exact List.mem_append_right _ List.mem_cons_self
    · rw [List.getElem?_set_ne (fun heq => hi heq.symm)] at hc
      have hfate := h.fate i c hc
      cases c with
      | sending c =>
          rw [Fate, hsent, hinvoked, List.mem_append, List.mem_singleton, not_or]
          exact ⟨⟨hfate.1, hi⟩, hfate.2⟩
      | waiting =>
          rw [Fate, List.map_append]
          exact List.mem_append_left _ hfate
      | answered answer =>
          rw [Fate, hserved]
          exact hfate
      | closed =>
          rw [Fate, hserved, List.map_append, List.mem_append, not_or]
          exact ⟨hfate.1, hfate.2, fun hmem => hi (List.mem_singleton.mp hmem)⟩
      | abandoned => trivial
  · rw [List.length_append]
    exact hroom
  · rw [hserved]
    exact h.ran

/-- What the history says after a command was served. -/
theorem served_histories (past : List (Move κ χ × Effect κ χ ω)) (chance : χ)
    (entry : Served κ χ ω) :
    invoked (past ++ [(.serve chance, .served entry)]) = invoked past ∧
    sent (past ++ [(.serve chance, .served entry)]) = sent past ∧
    served (past ++ [(.serve chance, .served entry)]) = served past ++ [entry] :=
  ⟨by rw [invoked_snoc, List.append_nil], by rw [sent_snoc, List.append_nil],
    served_snoc past _ _⟩

/-- A command that is served. Where the server goes on the rest of the mailbox
    stays, and otherwise nothing does. -/
theorem Kept.serve (h : Kept server capacity s past m) {call : Nat} {command : κ}
    {rest : List (Nat × κ)} (hqueue : m.queue = (call, command) :: rest)
    (hrun : server.running m.state = true) {chance : χ} {answer : ω} {state : σ}
    (hserve : server.serve m.state (command, chance) = (answer, state))
    {queue : List (Nat × κ)} {calls : List (Call κ ω)}
    (hleft : queue = rest ∧ server.running state = true ∨
      queue = [] ∧ server.running state = false)
    (hlen : calls.length = m.calls.length)
    (hfate : ∀ i c, calls[i]? = some c →
      Fate (past ++ [(.serve chance, .served ⟨call, (command, chance), answer⟩)]) queue i c) :
    Kept server capacity s (past ++ [(.serve chance, .served ⟨call, (command, chance), answer⟩)])
      ⟨state, queue, calls⟩ := by
  rcases served_histories past chance ⟨call, (command, chance), answer⟩ with
    ⟨hinvoked, hsent, hserved⟩
  -- The head of the mailbox moves to the end of what was served.
  have horder : (served past).map Served.call ++ (call :: rest.map Prod.fst) = sent past := by
    have horder := h.running hrun
    rw [hqueue] at horder
    exact horder
  have hcalls : ((served past) ++ [(⟨call, (command, chance), answer⟩ : Served κ χ ω)]).map
      Served.call = (served past).map Served.call ++ [call] := List.map_append
  have hsub : ∀ e ∈ queue, e ∈ m.queue := by
    intro e he
    rw [hqueue]
    rcases hleft with ⟨rfl, -⟩ | ⟨rfl, -⟩
    · exact List.mem_cons_of_mem _ he
    · exact absurd he List.not_mem_nil
  constructor
  · rw [hserved, List.map_append, List.map_singleton, Run.after_snoc, ← h.state, hserve]
  · rw [hserved, List.map_append, List.map_singleton, Run.log_snoc, ← h.state, h.replies, hserve,
      List.map_append, List.map_singleton]
  · rw [hinvoked]
    exact hlen.trans h.count
  · rw [hsent]
    exact h.distinct
  · rw [hsent]
    exact fun i hi => lt_of_lt_of_eq (h.began i hi) hlen.symm
  · rw [hsent, hserved, hcalls, List.append_assoc, ← horder]
    refine (List.prefix_append_right_inj _).mpr ?_
    rcases hleft with ⟨rfl, -⟩ | ⟨rfl, -⟩
    · exact List.prefix_refl _
    · exact (List.prefix_cons_inj call).mpr (List.nil_prefix)
  · intro hgoes
    rcases hleft with ⟨rfl, -⟩ | ⟨-, hstop⟩
    · rw [hsent, hserved, hcalls, List.append_assoc, ← horder]
      rfl
    · exact absurd (hgoes.symm.trans hstop) Bool.true_eq_false.mp
  · intro hstop
    rcases hleft with ⟨-, hgoes⟩ | ⟨rfl, -⟩
    · exact absurd (hgoes.symm.trans hstop) Bool.true_eq_false.mp
    · rfl
  · rw [hinvoked, hserved]
    intro e he
    rcases List.mem_append.mp he with hold | hnew
    · exact h.commands e hold
    · rw [List.mem_singleton.mp hnew]
      exact h.queued (call, command) (by rw [hqueue]; exact List.mem_cons_self)
  · rw [hinvoked]
    exact fun e he => h.queued e (hsub e he)
  · exact hfate
  · have hroom := h.room
    rw [hqueue, List.length_cons] at hroom
    rcases hleft with ⟨rfl, -⟩ | ⟨rfl, -⟩
    · simp only
      omega
    · exact Nat.zero_le _
  · rw [hserved, List.map_append, List.map_singleton, Run.along_snoc, ← h.state]
    exact ⟨h.ran, hrun⟩

/-- What a turn of the server brings each call. The call that was served has
    its answer, and the others in the mailbox wait on or find it closed. -/
theorem Kept.fate_serve (h : Kept server capacity s past m) {call : Nat} {command : κ}
    {rest : List (Nat × κ)} (hqueue : m.queue = (call, command) :: rest)
    (hrun : server.running m.state = true) (chance : χ) (answer : ω) {queue : List (Nat × κ)}
    {calls : List (Call κ ω)} (hcalls : ∀ i, calls[i]?
      = if i = call then m.calls[i]?.map (Call.settle (.answered answer))
        else if i ∈ rest.map Prod.fst ∧ queue = [] then m.calls[i]?.map (Call.settle .closed)
        else m.calls[i]?)
    (hleft : queue = rest ∨ queue = []) {i : Nat} {c : Call κ ω} (hc : calls[i]? = some c) :
    Fate (past ++ [(.serve chance, .served ⟨call, (command, chance), answer⟩)]) queue i c := by
  -- The cases are the call that was served, a call that is dropped, and any other one. In
  -- each the call is compared with what was known of it before.
  rcases served_histories past chance ⟨call, (command, chance), answer⟩ with
    ⟨hinvoked, hsent, hserved⟩
  have horder : (served past).map Served.call ++ (call :: rest.map Prod.fst) = sent past := by
    have horder := h.running hrun
    rw [hqueue] at horder
    exact horder
  have hdistinct := h.distinct
  rw [← horder] at hdistinct
  have hsub : ∀ j ∈ queue.map Prod.fst, j ∈ rest.map Prod.fst := by
    intro j hj
    rcases hleft with rfl | rfl
    · exact hj
    · exact absurd hj List.not_mem_nil
  rw [hcalls i] at hc
  by_cases hi : i = call
  · -- The call was in the mailbox, so it waited or had been given up.
    rw [if_pos hi] at hc
    rcases Option.map_eq_some_iff.mp hc with ⟨old, hold, rfl⟩
    have hfate := h.fate i old hold
    have hmem : i ∈ m.queue.map Prod.fst := by
      rw [hqueue, hi]
      exact List.mem_cons_self
    cases old with
    | sending c' =>
        refine absurd ?_ hfate.1
        rw [← horder, hi]
        exact List.mem_append_right _ List.mem_cons_self
    | waiting =>
        rw [Call.settle, Fate, hserved]
        exact ⟨_, List.mem_append_right _ List.mem_cons_self, hi.symm, rfl⟩
    | answered a =>
        rcases hfate with ⟨e, he, hcall, hanswer⟩
        change Fate _ queue i (.answered a)
        rw [Fate, hserved]
        exact ⟨e, List.mem_append_left _ he, hcall, hanswer⟩
    | closed => exact absurd hmem hfate.2
    | abandoned => trivial
  · rw [if_neg hi] at hc
    -- A call whose command is still to be served was not served before.
    have hunserved : i ∈ rest.map Prod.fst → i ∉ (served past).map Served.call := by
      intro hrest hmem
      exact (List.nodup_append.mp hdistinct).2.2 i hmem i (List.mem_cons_of_mem _ hrest) rfl
    have hnew : i ∉ (served past).map Served.call → i ∉ ((served past) ++
        [(⟨call, (command, chance), answer⟩ : Served κ χ ω)]).map Served.call := by
      intro hnot
      rw [List.map_append, List.mem_append, not_or]
      exact ⟨hnot, fun hmem => hi (List.mem_singleton.mp hmem)⟩
    by_cases hdrop : i ∈ rest.map Prod.fst ∧ queue = []
    · rw [if_pos hdrop] at hc
      rcases Option.map_eq_some_iff.mp hc with ⟨old, hold, rfl⟩
      have hfate := h.fate i old hold
      cases old with
      | sending c' =>
          refine absurd ?_ hfate.1
          rw [← horder]
          exact List.mem_append_right _ (List.mem_cons_of_mem _ hdrop.1)
      | waiting =>
          rw [Call.settle, Fate, hserved, hdrop.2]
          exact ⟨hnew (hunserved hdrop.1), List.not_mem_nil⟩
      | answered a =>
          rcases hfate with ⟨e, he, hcall, -⟩
          exact absurd (List.mem_map.mpr ⟨e, he, hcall⟩) (hunserved hdrop.1)
      | closed =>
          refine absurd ?_ hfate.2
          rw [hqueue]
          exact List.mem_cons_of_mem _ hdrop.1
      | abandoned => trivial
    · rw [if_neg hdrop] at hc
      have hfate := h.fate i c hc
      cases c with
      | sending c' =>
          rw [Fate, hsent, hinvoked]
          exact hfate
      | waiting =>
          rw [Fate, hqueue] at hfate
          have hrest : i ∈ rest.map Prod.fst := by
            rcases List.mem_cons.mp hfate with heq | hrest
            · exact absurd heq hi
            · exact hrest
          rcases hleft with rfl | hnil
          · exact hrest
          · exact absurd ⟨hrest, hnil⟩ hdrop
      | answered a =>
          rcases hfate with ⟨e, he, hcall, hanswer⟩
          rw [Fate, hserved]
          exact ⟨e, List.mem_append_left _ he, hcall, hanswer⟩
      | closed =>
          rw [Fate, hserved]
          refine ⟨hnew hfate.1, fun hmem => hfate.2 ?_⟩
          rw [hqueue]
          exact List.mem_cons_of_mem _ (hsub i hmem)
      | abandoned => trivial

/-- A call that is changed into one of which less is known. -/
theorem Kept.fate_set (h : Kept server capacity s past m) {call : Nat} {c : Call κ ω}
    (hc : Fate past m.queue call c) {i : Nat} {c' : Call κ ω}
    (hget : (m.calls.set call c)[i]? = some c') : Fate past m.queue i c' := by
  by_cases hi : i = call
  · rw [hi] at hget ⊢
    have hlt := (List.getElem?_eq_some_iff.mp hget).1
    rw [List.length_set] at hlt
    rw [List.getElem?_set_self hlt, Option.some.injEq] at hget
    rw [← hget]
    exact hc
  · rw [List.getElem?_set_ne (fun heq => hi heq.symm)] at hget
    exact h.fate i c' hget

/-- Every move keeps what holds of history and state. -/
theorem step_kept (h : Kept server capacity s past m) (move : Move κ χ) :
    Kept server capacity s (past ++ [(move, (step server capacity m move).1)])
      (step server capacity m move).2 := by
  cases move with
  | invoke command => exact h.invoke command
  | send call =>
      have hsend : ∀ command, (Move.send call : Move κ χ) ≠ .invoke command := fun _ =>
        by simp only [ne_eq, reduceCtorEq, not_false_eq_true]
      rw [step]
      cases hcall : m.calls[call]? with
      | none => exact h.quiet hsend rfl h.fate
      | some c =>
          cases c with
          | sending command =>
              simp only
              by_cases hrun : server.running m.state = true
              · rw [if_pos hrun]
                by_cases hroom : m.queue.length < capacity
                · rw [if_pos hroom]
                  exact h.send hcall hrun hroom
                · rw [if_neg hroom]
                  exact h.quiet hsend rfl h.fate
              · rw [if_neg hrun]
                -- The call was not sent, so it was neither served nor is it in the mailbox.
                have hnot := (h.fate call _ hcall).1
                refine h.quiet hsend List.length_set
                  (fun i c' hget => h.fate_set (c := .closed) ⟨fun hmem => hnot ?_,
                    fun hmem => hnot ?_⟩ hget)
                · exact h.order.subset (List.mem_append_left _ hmem)
                · exact h.order.subset (List.mem_append_right _ hmem)
          | waiting => exact h.quiet hsend rfl h.fate
          | answered answer => exact h.quiet hsend rfl h.fate
          | closed => exact h.quiet hsend rfl h.fate
          | abandoned => exact h.quiet hsend rfl h.fate
  -- Giving up changes what the call says, and leaves its command in the mailbox.
  | abandon call =>
      have habandon : ∀ command, (Move.abandon call : Move κ χ) ≠ .invoke command := fun _ =>
        by simp only [ne_eq, reduceCtorEq, not_false_eq_true]
      have hgone : ∀ i c, (m.calls.set call .abandoned)[i]? = some c → Fate past m.queue i c :=
        fun i c hget => h.fate_set (c := .abandoned) trivial hget
      rw [step]
      cases hcall : m.calls[call]? with
      | none => exact h.quiet habandon rfl h.fate
      | some c =>
          cases c with
          | sending command => exact h.quiet habandon List.length_set hgone
          | waiting => exact h.quiet habandon List.length_set hgone
          | answered answer => exact h.quiet habandon rfl h.fate
          | closed => exact h.quiet habandon rfl h.fate
          | abandoned => exact h.quiet habandon rfl h.fate
  | serve chance =>
      have hquiet : ∀ command, (Move.serve chance : Move κ χ) ≠ .invoke command := fun _ =>
        by simp only [ne_eq, reduceCtorEq, not_false_eq_true]
      rw [step]
      cases hrun : server.running m.state with
      | false => exact h.quiet hquiet rfl h.fate
      | true =>
          cases hqueue : m.queue with
          | nil => exact h.quiet hquiet rfl h.fate
          | cons e rest =>
              rcases e with ⟨call, command⟩
              rcases hserve : server.serve m.state (command, chance) with ⟨answer, state⟩
              simp only [hserve]
              by_cases hgoes : server.running state = true
              · rw [if_pos hgoes]
                refine h.serve hqueue hrun hserve (Or.inl ⟨rfl, hgoes⟩) (List.length_modify _ _ _)
                  (fun i c hc => h.fate_serve hqueue hrun chance answer (fun j => ?_)
                    (Or.inl rfl) hc)
                -- While the server goes on, nothing of the mailbox is dropped.
                rw [List.getElem?_modify]
                by_cases hj : j = call
                · rw [if_pos hj, hj]
                  simp only [if_true, Option.map_eq_map]
                · have hdrop : ¬ (j ∈ rest.map Prod.fst ∧ rest = []) := by
                    rintro ⟨hmem, hnil⟩
                    rw [hnil] at hmem
                    exact absurd hmem List.not_mem_nil
                  have hj' : ¬ call = j := fun heq => hj heq.symm
                  rw [if_neg hj, if_neg hdrop]
                  simp only [if_neg hj', Option.map_eq_map, Option.map_id_fun', id_eq]
              · rw [if_neg hgoes]
                have hlen : (dropAll rest
                    (m.calls.modify call (Call.settle (.answered answer)))).length
                      = m.calls.length := by
                  rw [length_dropAll, List.length_modify]
                refine h.serve hqueue hrun hserve
                  (Or.inr ⟨rfl, Bool.not_eq_true _ ▸ hgoes⟩) hlen
                  (fun i c hc => h.fate_serve hqueue hrun chance answer (fun j => ?_)
                    (Or.inr rfl) hc)
                have hdistinct := h.distinct
                rw [← h.running hrun, hqueue] at hdistinct
                have hhead := (List.nodup_cons.mp (List.nodup_append.mp hdistinct).2.1).1
                rw [getElem?_dropAll, List.getElem?_modify]
                by_cases hj : j = call
                · rw [if_pos hj, hj, if_neg hhead]
                  simp only [if_true, Option.map_eq_map]
                · have hj' : ¬ call = j := fun heq => hj heq.symm
                  simp only [hj, hj', if_false, Option.map_eq_map, Option.map_id_fun', id_eq,
                    and_true]

/-- What holds of every history holds after every interleaving. -/
theorem run_kept (server : Server σ κ χ ω) (capacity : Nat) (s : σ) (moves : List (Move κ χ)) :
    Kept server capacity s (Run.log (step server capacity) (.start s) moves)
      (Run.after (step server capacity) (.start s) moves) :=
  Run.invariant (step server capacity) (P := Kept server capacity s) (start_kept server capacity s)
    (fun _ _ move h => step_kept h move) moves

/-- The answers are those of the server alone, fed the commands in the order in
    which it took them. This is the order in which they were sent, no command
    is served twice, and every command served is that of its call. A call that
    has an answer was served with it, and one that found the mailbox closed
    was not served. -/
theorem linearizable (server : Server σ κ χ ω) (capacity : Nat) (s : σ)
    (moves : List (Move κ χ)) :
    let past := Run.log (step server capacity) (.start s) moves
    let m := Run.after (step server capacity) (.start s) moves
    m.state = Run.after server.serve s ((served past).map Served.input) ∧
    Run.log server.serve s ((served past).map Served.input)
      = (served past).map (fun e => (e.input, e.answer)) ∧
    (sent past).Nodup ∧ (served past).map Served.call <+: sent past ∧
    (∀ e ∈ served past, (invoked past)[e.call]? = some e.input.1) ∧
    m.calls.length = (invoked past).length ∧
    ∀ i call, m.calls[i]? = some call → Fate past m.queue i call := by
  intro past m
  have h := run_kept server capacity s moves
  exact ⟨h.state, h.replies, h.distinct, (List.prefix_append _ _).trans h.order, h.commands,
    h.count, h.fate⟩

/-- A call that is answered before another begins comes before it. -/
theorem linearizable_realTime (server : Server σ κ χ ω) (capacity : Nat) (s : σ)
    (first rest : List (Move κ χ)) {i j : Nat} {answer : ω}
    (hi : (Run.after (step server capacity) (.start s) first).calls[i]? = some (.answered answer))
    (hj : (Run.after (step server capacity) (.start s) first).calls.length ≤ j) :
    ∃ before after,
      (served (Run.log (step server capacity) (.start s) (first ++ rest))).map Served.call
        = before ++ after ∧ i ∈ before ∧ j ∉ before := by
  have h := run_kept server capacity s first
  refine ⟨(served (Run.log (step server capacity) (.start s) first)).map Served.call,
    (served (Run.log (step server capacity)
      (Run.after (step server capacity) (.start s) first) rest)).map Served.call, ?_, ?_, ?_⟩
  · rw [Run.log_append, served, List.filterMap_append, List.map_append]
    rfl
  · rcases h.fate i _ hi with ⟨e, he, hcall, -⟩
    exact List.mem_map.mpr ⟨e, he, hcall⟩
  · -- What was served by then had begun by then.
    intro hmem
    have hlt := h.began j (h.order.subset (List.mem_append_left _ hmem))
    omega

/-! ### What stays -/

/-- Calls only become more. -/
theorem length_calls_step (m : System σ κ ω) (move : Move κ χ) :
    m.calls.length ≤ (step server capacity m move).2.calls.length := by
  cases move with
  | invoke command =>
      rw [step, List.length_append]
      exact Nat.le_add_right _ _
  | send call =>
      rw [step]
      split
      · split
        · split
          · rw [List.length_set]
          · exact Nat.le_refl _
        · rw [List.length_set]
      · exact Nat.le_refl _
  | abandon call =>
      rw [step]
      split
      · rw [List.length_set]
      · rw [List.length_set]
      · exact Nat.le_refl _
  -- A turn of the server changes calls and forgets none.
  | serve chance =>
      rw [step]
      split
      · simp only
        split
        · rw [List.length_modify]
        · rw [length_dropAll, List.length_modify]
      · exact Nat.le_refl _

theorem set_of_ne {calls : List (Call κ ω)} {call i : Nat} {old new c : Call κ ω}
    (hold : calls[call]? = some old) (hi : calls[i]? = some c) (hne : c ≠ old) :
    (calls.set call new)[i]? = some c := by
  rw [List.getElem?_set_ne]
  · exact hi
  · rintro rfl
    rw [hold, Option.some.injEq] at hi
    exact hne hi.symm

/-- A call that has its answer keeps it. -/
theorem answered_step {i : Nat} {answer : ω} (h : m.calls[i]? = some (.answered answer))
    (move : Move κ χ) :
    (step server capacity m move).2.calls[i]? = some (.answered answer) := by
  have hsending : ∀ command, (Call.answered answer : Call κ ω) ≠ .sending command := fun _ =>
    by simp only [ne_eq, reduceCtorEq, not_false_eq_true]
  have hwaiting : (Call.answered answer : Call κ ω) ≠ .waiting := by
    simp only [ne_eq, reduceCtorEq, not_false_eq_true]
  -- Moves change calls that are being sent or that wait, and none that has its answer.
  cases move with
  | invoke command =>
      rw [step]
      simp only
      rw [List.getElem?_append_left (List.getElem?_eq_some_iff.mp h).1]
      exact h
  | send call =>
      rw [step]
      cases hcall : m.calls[call]? with
      | none => exact h
      | some c =>
          cases c with
          | sending command =>
              simp only
              by_cases hrun : server.running m.state = true
              · rw [if_pos hrun]
                by_cases hroom : m.queue.length < capacity
                · rw [if_pos hroom]
                  exact set_of_ne hcall h (hsending command)
                · rw [if_neg hroom]
                  exact h
              · rw [if_neg hrun]
                exact set_of_ne hcall h (hsending command)
          | waiting => exact h
          | answered answer' => exact h
          | closed => exact h
          | abandoned => exact h
  | abandon call =>
      rw [step]
      cases hcall : m.calls[call]? with
      | none => exact h
      | some c =>
          cases c with
          | sending command => exact set_of_ne hcall h (hsending command)
          | waiting => exact set_of_ne hcall h hwaiting
          | answered answer' => exact h
          | closed => exact h
          | abandoned => exact h
  | serve chance =>
      -- Settling a call leaves an answer as it is.
      have hmodify : ∀ (calls : List (Call κ ω)) (call : Nat) (result : Call κ ω),
          calls[i]? = some (.answered answer) →
          (calls.modify call (Call.settle result))[i]? = some (.answered answer) := by
        intro calls call result hi
        rw [List.getElem?_modify, hi]
        exact congrArg some (ite_self (Call.answered answer))
      rw [step]
      cases hrun : server.running m.state with
      | false => exact h
      | true =>
          cases hqueue : m.queue with
          | nil => exact h
          | cons e rest =>
              simp only
              have hserved :=
                hmodify m.calls e.1 (.answered (server.serve m.state (e.2, chance)).1) h
              by_cases hgoes : server.running (server.serve m.state (e.2, chance)).2 = true
              · rw [if_pos hgoes]
                exact hserved
              · rw [if_neg hgoes]
                simp only
                rw [getElem?_dropAll, hserved, Option.map_some]
                exact ite_self _

/-! ### Progress -/

/-- A turn of the server shortens the mailbox, and a server that has stopped
    leaves it empty. -/
theorem length_queue_serve (capacity : Nat)
    (hstop : server.running m.state = false → m.queue = []) (chance : χ) :
    (step server capacity m (.serve chance)).2.queue.length ≤ m.queue.length - 1 ∧
    (server.running (step server capacity m (.serve chance)).2.state = false →
      (step server capacity m (.serve chance)).2.queue = []) := by
  -- The head of the mailbox is served, or nothing is served and it was empty.
  rw [step]
  cases hrun : server.running m.state with
  | false =>
      simp only [hstop hrun]
      exact ⟨Nat.zero_le _, fun _ => trivial⟩
  | true =>
      cases hqueue : m.queue with
      | nil => exact ⟨by rw [hqueue]; exact Nat.zero_le _, fun _ => hqueue⟩
      | cons e rest =>
          simp only
          by_cases hgoes : server.running (server.serve m.state (e.2, chance)).2 = true
          · simp only [if_pos hgoes, List.length_cons]
            exact ⟨by omega, fun hstops => absurd (hgoes.symm.trans hstops) Bool.true_eq_false.mp⟩
          · simp only [if_neg hgoes]
            exact ⟨Nat.zero_le _, fun _ => trivial⟩

/-- Enough turns of the server empty the mailbox. -/
theorem queue_serves (hstop : server.running m.state = false → m.queue = []) {chances : List χ}
    (hlen : m.queue.length ≤ chances.length) :
    (Run.after (step server capacity) m (chances.map .serve)).queue = [] := by
  induction chances generalizing m with
  | nil => exact List.length_eq_zero_iff.mp (Nat.le_zero.mp hlen)
  | cons chance rest ih =>
      rcases length_queue_serve capacity hstop chance with ⟨hshort, hstop'⟩
      rw [List.length_cons] at hlen
      exact ih hstop' (hshort.trans (by omega))

/-- As many turns of the server as there are commands in the mailbox leave no
    call waiting. -/
theorem settles (server : Server σ κ χ ω) (capacity : Nat) (s : σ) (moves : List (Move κ χ))
    {chances : List χ}
    (hlen : (Run.after (step server capacity) (.start s) moves).queue.length ≤ chances.length)
    (i : Nat) :
    (Run.after (step server capacity) (.start s) (moves ++ chances.map .serve)).calls[i]?
      ≠ some .waiting := by
  intro hwaiting
  have hfate := (run_kept server capacity s (moves ++ chances.map .serve)).fate i _ hwaiting
  rw [Run.after_append, Fate,
    queue_serves (run_kept server capacity s moves).stopped hlen] at hfate
  exact absurd hfate List.not_mem_nil

end Mailbox

end SolanaLab
