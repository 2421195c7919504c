import SolanaLab.Cpi.Program

/-!
# The Counters Count

A counter stands at the number of instructions that counted it up, whichever
program they came through. It has not wrapped around: it stops where it would.

The proxy has no rights of its own over counters. What it passes on needs the
signature that the counter program would have asked for, and what it signs
itself is for the address of a user who has signed.

`SignedBy` of the program module is what the second part is stated with. It
says whom the two programs take to have signed: those who have, and the address
of a user for whom the proxy signs, which has no key and so cannot have. The
statement about runs needs nothing of the addresses, while for a user to be
able to count, the runtime has to find the same addresses again, which is
`Canonical`.

## Main definitions

* `counted`: How often a counter was counted up.
* `Placed`: Every counter is where it belongs.
* `Held`: Every counter stands at what was counted.

## Theorems

* `does_counted`: An instruction counts one counter up by one, or none.
* `does_signed`: Nothing is done for an authority that has not signed.
* `counters_counted`: What holds of the counters after any run.
* `proxied_counter_available`: A user can have the proxy count up to the limit.
-/

namespace SolanaLab

namespace Cpi

open Checked Stablecoin

/-- What an instruction adds to a counter. -/
def Instruction.addition (key : Pubkey) (instruction : Instruction) : Nat :=
  if instruction.increments = some key then 1 else 0

/-- What an entry of a log added to a counter. -/
def countedBy (key : Pubkey) : (Env × Instruction) × Except Error Unit → Nat
  | ((_, instruction), .ok _) => instruction.addition key
  | (_, .error _) => 0

/-- How often a counter was counted up. -/
def counted (key : Pubkey) (past : List ((Env × Instruction) × Except Error Unit)) : Nat :=
  Run.total (countedBy key) past

/-- What a counter stands at, zero if there is none. -/
def World.stand (world : World) (key : Pubkey) : Nat :=
  (world.get? key).elim 0 (fun counter => counter.count.val)

/-- Every counter is at the address of its authority. -/
def Placed (counterRt : Runtime) (world : World) : Prop :=
  world.Everywhere (fun key (counter : Counter) =>
    key = counterRt.address (⟨counter.authority⟩ : CounterSeeds) ∧
    counter.bump = counterRt.bump (⟨counter.authority⟩ : CounterSeeds))

section Steps

variable {counterRt proxyRt : Runtime} {env : Env} {world world' : World}
  {instruction : Instruction}

/-- A counter that is there stands at its count. -/
theorem stand_of_get? {key : Pubkey} {counter : Counter} (h : world.get? key = some counter) :
    world.stand key = counter.count.val := by
  rw [World.stand, h]
  rfl

/-- Writing a counter changes what this one stands at. -/
theorem stand_insert (key key' : Pubkey) (counter : Counter) :
    World.stand (world.insert key counter) key'
      = if key' = key then counter.count.val else world.stand key' := by
  rw [World.stand, SortedMap.get?_insert]
  by_cases h : key' = key
  · rw [if_pos h, if_pos h]
    rfl
  · rw [if_neg h, if_neg h]
    rfl

/-- An instruction leaves the counters where they belong. -/
theorem does_placed (h : Placed counterRt world)
    (hdoes : Does counterRt proxyRt env world instruction world') : Placed counterRt world' := by
  cases hdoes with
  | nothing counts => exact h
  | initialized counts signed address free => exact SortedMap.Everywhere.insert h ⟨address, rfl⟩
  | @incremented key counter count counts signed found next =>
      have hplaced := h key counter found
      exact SortedMap.Everywhere.insert h ⟨hplaced.1, hplaced.2⟩

/-- An instruction counts one counter up by one, or none. -/
theorem does_counted (hdoes : Does counterRt proxyRt env world instruction world')
    (key : Pubkey) :
    world'.stand key = world.stand key + instruction.addition key := by
  unfold Instruction.addition
  cases hdoes with
  | nothing counts =>
      rw [counts, if_neg (by simp only [reduceCtorEq, not_false_eq_true])]
      rfl
  | @initialized key' authority counts signed address free =>
      rw [counts, if_neg (by simp only [reduceCtorEq, not_false_eq_true]), stand_insert]
      by_cases hkey : key = key'
      · -- There was no counter here, so none that had counted.
        rw [if_pos hkey, hkey, World.stand, free]
        rfl
      · rw [if_neg hkey]
        rfl
  | @incremented key' counter count counts signed found next =>
      rw [counts, stand_insert]
      by_cases hkey : key = key'
      -- The addition was checked, so it is one of numbers.
      · rw [if_pos hkey, hkey, if_pos rfl, stand_of_get? found]
        exact next
      · rw [if_neg hkey, if_neg (by rw [Option.some.injEq]; exact Ne.symm hkey)]
        rfl

/-- A counter only changes for its authority, who has signed. -/
theorem does_signed (hdoes : Does counterRt proxyRt env world instruction world') {key : Pubkey}
    (hchange : world'.get? key ≠ world.get? key) :
    ∃ counter, world'.get? key = some counter ∧
      SignedBy proxyRt env instruction counter.authority ∧
      ∀ old, world.get? key = some old → old.authority = counter.authority := by
  cases hdoes with
  | nothing counts => exact absurd rfl hchange
  | @initialized key' authority counts signed address free =>
      by_cases hkey : key = key'
      · rw [hkey, SortedMap.get?_insert_self]
        refine ⟨_, rfl, signed, fun old hold => ?_⟩
        rw [free] at hold
        exact absurd hold (by simp only [reduceCtorEq, not_false_eq_true])
      · exact absurd (SortedMap.get?_insert_of_ne _ _ hkey) hchange
  -- The authority is kept, so who signed for the old counter is that of the new one.
  | @incremented key' counter count counts signed found next =>
      by_cases hkey : key = key'
      · rw [hkey, SortedMap.get?_insert_self]
        refine ⟨_, rfl, signed, fun old hold => ?_⟩
        rw [found, Option.some.injEq] at hold
        rw [hold]
      · exact absurd (SortedMap.get?_insert_of_ne _ _ hkey) hchange

end Steps

section Runs

variable (counterRt proxyRt : Runtime) (inputs : List (Env × Instruction))

/-- What holds of the counters after a run: they are where they belong, and each
    stands at what the log has counted. -/
structure Held (counterRt : Runtime) (past : List ((Env × Instruction) × Except Error Unit))
    (world : World) : Prop where
  placed : Placed counterRt world
  counted : ∀ key, world.stand key = counted key past

/-- The counters stand at what was counted, and are where they belong, in every
    run. A transaction that fails counts nothing, and leaves all counters alone. -/
theorem run_held :
    Held counterRt (Run.log (step counterRt proxyRt) SortedMap.empty inputs)
      (Run.after (step counterRt proxyRt) SortedMap.empty inputs) := by
  refine Run.invariant (step counterRt proxyRt)
    (P := fun past world => Held counterRt past world)
    ⟨SortedMap.everywhere_empty _, fun _ => rfl⟩ (fun past world input h => ?_) inputs
  rcases transact_cases (process counterRt proxyRt) ProgramError.runtime world input with
    ⟨e, he⟩ | ⟨world', hp, hok⟩
  -- A transaction that fails has no part in the count.
  · rw [step, he]
    refine ⟨h.placed, fun key => ?_⟩
    rw [counted, Run.total_snoc]
    exact h.counted key
  · have hdoes := process_does hp
    rw [step, hok]
    refine ⟨does_placed h.placed hdoes, fun key => ?_⟩
    rw [counted, Run.total_snoc]
    change world'.stand key = counted key past + input.2.addition key
    rw [← h.counted key]
    exact does_counted hdoes key

/-- The counters after any run of the two programs. Every counter is at the
    address of its authority and stands at the number of instructions that
    counted it up. A transaction only changes a counter for its authority, who
    keeps it and has signed, or has the address of a user who signed and for
    whom the proxy signs. And where a signature is only passed on, the proxy
    does what the counter program does, errors included. -/
theorem counters_counted (inputs : List (Env × Instruction)) :
    let past := Run.log (step counterRt proxyRt) SortedMap.empty inputs
    let world := Run.after (step counterRt proxyRt) SortedMap.empty inputs
    (∀ key counter, world.get? key = some counter →
      key = counterRt.address (⟨counter.authority⟩ : CounterSeeds) ∧
      counter.count.val = counted key past) ∧
    (∀ env instruction key,
      let next := (step counterRt proxyRt world (env, instruction)).2
      next.get? key ≠ world.get? key →
      ∃ counter, next.get? key = some counter ∧
        SignedBy proxyRt env instruction counter.authority ∧
        ∀ old, world.get? key = some old → old.authority = counter.authority) ∧
    ∀ env ctx, step counterRt proxyRt world (env, .proxyIncrement ctx)
      = step counterRt proxyRt world (env, .increment ctx) := by
  intro past world
  have h := run_held counterRt proxyRt inputs
  refine ⟨fun key counter hget => ⟨(h.placed key counter hget).1, ?_⟩, ?_, fun env ctx => ?_⟩
  · rw [← h.counted key]
    exact (stand_of_get? hget).symm
  · intro env instruction key next hchange
    rcases transact_cases (process counterRt proxyRt) ProgramError.runtime world
      (env, instruction) with ⟨e, he⟩ | ⟨world', hp, hok⟩
    · have hnext : next = world := congrArg Prod.snd he
      exact absurd (congrArg (fun world => SortedMap.get? world key) hnext) hchange
    · have hnext : next = world' := congrArg Prod.snd hok
      rw [hnext] at hchange ⊢
      exact does_signed (process_does hp) hchange
  · simp only [step, transact, proxyIncrement_transparent]

end Runs

section Available

variable {counterRt proxyRt : Runtime} {env : Env} {world : World}

/-- The proxy signs for a user who has signed. -/
theorem proxyIncrementWithSigner_called {user key : Pubkey} {counter : Counter}
    (hcanonical : proxyRt.Canonical [(⟨user⟩ : ProxySeeds)]) (huser : user ∈ env.signers)
    (hget : world.get? key = some counter) :
    process counterRt proxyRt env world
        (.proxyIncrementWithSigner ⟨user, proxyRt.address (⟨user⟩ : ProxySeeds), key⟩)
      = incrementHandler counterRt
        { env with signers := [proxyRt.address (⟨user⟩ : ProxySeeds)] } world
        ⟨proxyRt.address (⟨user⟩ : ProxySeeds), key⟩ := by
  have hderived : proxyRt.createProgramAddress (signerSeeds proxyRt user)
      = some (proxyRt.address (⟨user⟩ : ProxySeeds)) := hcanonical _ List.mem_cons_self
  -- The proxy's seeds make the address again, so the call lists a signature that it has.
  have hseeds : [signerSeeds proxyRt user].mapM (fun seeds =>
      okOr (proxyRt.createProgramAddress seeds) (.cpi .invalidSeeds : Error))
      = .ok [proxyRt.address (⟨user⟩ : ProxySeeds)] := by
    rw [mapM_cons_eq_ok]
    exact ⟨_, [], by rw [hderived]; rfl, rfl, rfl⟩
  have hload : load (E := ErrorCode) (F := InvokeError) world.occupied world key = .ok counter :=
    load_eq_ok.mpr hget
  have hsigner : (checkSigner env user : Except Error Unit) = .ok () := if_pos huser
  have haddress : (checkAddress proxyRt (proxyRt.address (⟨user⟩ : ProxySeeds))
      (⟨user⟩ : ProxySeeds) : Except Error Unit) = .ok () := if_pos rfl
  rw [process, proxyIncrementWithSignerHandler]
  simp only [bind, Except.bind, hsigner, haddress, hload]
  exact invokeSigned_of_mem hseeds (fun _ hmem => Or.inr hmem) _

/-- Counting up, for an authority that signed. -/
theorem increment_answer {key : Pubkey} {counter : Counter}
    (hplaced : Placed counterRt world) (hget : world.get? key = some counter)
    (hcanonical : counterRt.Canonical [(⟨counter.authority⟩ : CounterSeeds)])
    (hsigned : counter.authority ∈ env.signers) :
    incrementHandler counterRt env world ⟨counter.authority, key⟩
      = (okOr (checkedAdd counter.count 1) (.code .counterOverflow)).map
        (fun count => world.insert key { counter with count }) := by
  rcases hplaced key counter hget with ⟨hkey, hbump⟩
  have hcreated : counterRt.createProgramAddress
      (SeedList.bytes (⟨counter.authority⟩ : CounterSeeds) ++ [[counter.bump]]) = some key := by
    rw [hbump, hkey]
    exact hcanonical _ List.mem_cons_self
  have hload : load (E := ErrorCode) (F := InvokeError) world.occupied world key = .ok counter :=
    load_eq_ok.mpr hget
  have hseeds : (checkSeeds counterRt key (⟨counter.authority⟩ : CounterSeeds) counter.bump
      : Except Error Unit) = .ok () := if_pos hcreated
  simp only [incrementHandler, bind, Except.bind, checkSigner, require, if_pos hsigned, hload,
    hseeds, hasOne, if_true, Except.map, pure, Except.pure]

end Available

/-- Whatever has happened before, a user whose counter was set up through the
    proxy can have the proxy count it up with no other signature than the
    user's own, until it is full. Then it stays as it is and says so. -/
theorem proxied_counter_available (counterRt proxyRt : Runtime)
    (inputs : List (Env × Instruction)) (env : Env) (hrefused : env.refused = false)
    (user : Pubkey) (huser : user ∈ env.signers)
    (hproxy : proxyRt.Canonical [(⟨user⟩ : ProxySeeds)]) (key : Pubkey) (counter : Counter)
    (hget : (Run.after (step counterRt proxyRt) SortedMap.empty inputs).get? key = some counter)
    (hauthority : counter.authority = proxyRt.address (⟨user⟩ : ProxySeeds))
    (hcounter : counterRt.Canonical [(⟨counter.authority⟩ : CounterSeeds)]) :
    let world := Run.after (step counterRt proxyRt) SortedMap.empty inputs
    let input := (env, .proxyIncrementWithSigner ⟨user, counter.authority, key⟩)
    (counted key (Run.log (step counterRt proxyRt) SortedMap.empty inputs) + 1 < 2 ^ 64 →
      (step counterRt proxyRt world input).1 = .ok () ∧
      ((step counterRt proxyRt world input).2.stand key) = world.stand key + 1) ∧
    (counted key (Run.log (step counterRt proxyRt) SortedMap.empty inputs) + 1 = 2 ^ 64 →
      step counterRt proxyRt world input = (.error (.code .counterOverflow), world)) := by
  intro world input
  have h := run_held counterRt proxyRt inputs
  have hstand : counter.count.val
      = counted key (Run.log (step counterRt proxyRt) SortedMap.empty inputs) :=
    (stand_of_get? hget).symm.trans (h.counted key)
  -- All checks pass, and only the addition can still fail.
  have hprocess : process counterRt proxyRt env world
      (.proxyIncrementWithSigner ⟨user, counter.authority, key⟩)
      = (okOr (checkedAdd counter.count 1) (.code .counterOverflow)).map
        (fun count => world.insert key { counter with count }) := by
    rw [hauthority, proxyIncrementWithSigner_called hproxy huser hget, ← hauthority]
    exact increment_answer h.placed hget hcounter List.mem_cons_self
  constructor
  · intro hfits
    rw [← hstand] at hfits
    have hsum : ∃ count : Word 64, count.val = counter.count.val + (1 : Word 64).val :=
      exists_add hfits
    rcases hsum with ⟨count, hcount⟩
    rw [checkedAdd_eq_some.mpr hcount] at hprocess
    have hstep : step counterRt proxyRt world input
        = (.ok (), world.insert key { counter with count }) :=
      transact_of_ok (process counterRt proxyRt) _ hrefused hprocess
    rw [hstep]
    refine ⟨rfl, ?_⟩
    rw [stand_insert, if_pos rfl, stand_of_get? hget]
    exact hcount
  · intro hfull
    have hnone : checkedAdd counter.count 1 = none := checkedAdd_eq_none.mpr (by
      rw [hstand]
      exact hfull.ge)
    rw [hnone] at hprocess
    exact transact_of_error (process counterRt proxyRt) _ hrefused hprocess

/-- The counter program, for the address of user one. -/
def sampleCounters : Runtime := .ofTable [((⟨2⟩ : CounterSeeds), 3, 255)]

/-- The proxy program, for user one. -/
def sampleProxy : Runtime := .ofTable [((⟨1⟩ : ProxySeeds), 2, 254)]

/-- User one has signed. -/
def sampleEnv : Env := ⟨[1], 0, false⟩

/-- User one sets up a counter through the proxy and has it count. -/
def sampleInputs : List (Env × Instruction) :=
  [(sampleEnv, .proxyInitializeCounter ⟨1, 2, 3⟩),
    (sampleEnv, .proxyIncrementWithSigner ⟨1, 2, 3⟩)]

/-- It counts once more. -/
theorem proxied_counter_available_again :
    let world := Run.after (step sampleCounters sampleProxy) SortedMap.empty sampleInputs
    let input := (sampleEnv, .proxyIncrementWithSigner ⟨1, 2, 3⟩)
    (counted 3 (Run.log (step sampleCounters sampleProxy) SortedMap.empty sampleInputs) + 1
        < 2 ^ 64 →
      (step sampleCounters sampleProxy world input).1 = .ok () ∧
      ((step sampleCounters sampleProxy world input).2.stand 3) = world.stand 3 + 1) ∧
    (counted 3 (Run.log (step sampleCounters sampleProxy) SortedMap.empty sampleInputs) + 1
        = 2 ^ 64 →
      step sampleCounters sampleProxy world input = (.error (.code .counterOverflow), world)) :=
  proxied_counter_available sampleCounters sampleProxy sampleInputs sampleEnv rfl 1 (by decide)
    (by decide +kernel) 3 ⟨2, 1, 255⟩ (by decide +kernel) (by decide +kernel) (by decide +kernel)

end Cpi

end SolanaLab
