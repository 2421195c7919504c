import SolanaLab.Library.Run
import SolanaLab.Settlement.Anchor

/-!
# The Framework of the Stablecoin Programs

What the four stablecoin programs share: the checks their framework makes on
the accounts of an instruction, and how a transaction is carried out.

A program keeps several kinds of records. Each kind has a map of its own here,
from addresses to records, and an address is occupied when one of the maps has
it. So a record cannot be read as one of another kind, and a new record can
only be put at an address that no map has.

Addresses are derived from seeds. What the programs list as seeds is a type for
each program, with a proof that different seeds spell different bytes.
`Separates` is what some results assume of the derivation, for the seeds of one
run. Most results get along without it, because a record is only ever created
at the address of its own seeds and where nothing is yet.

The checks are generic in the kind of record and in the error codes, so that
the four programs use the same ones. Beside each check stands the lemma that
says when it passes, and the simplifier rewrites a handler with them into what
it has found and written.

Several results are about what happened last, such as the setting an admin made
last. `successes` and `latest` read that off the log of a run, and the lemmas
about them say what one more transaction changes.

## Main definitions

* `Runtime`: The derivation of addresses.
* `SeedList`: The seeds of a program.
* `Env`: What an instruction sees of its transaction.
* `ProgramError`: The ways an instruction can fail.
* `load`, `init`, `checkSeeds`, `checkSigner`: The checks on accounts.
* `transact`: An instruction in its transaction.
* `successes`, `latest`: What is to be said of the instructions that succeeded.

## Theorems

* `transact_cases`: What a transaction can do.
* `address_injective`: Different seeds have different addresses.
-/

namespace SolanaLab

namespace Stablecoin

open Checked

/-- A 32-byte key, as in the settlement program. Both rest on the same
    framework. -/
abbrev Pubkey := Settlement.Pubkey

/-- `Pubkey::default`: all bytes zero. Programs use it for keys that are not
    set. -/
def Pubkey.default : Pubkey := Settlement.Pubkey.default

/-- The derivation of addresses, with the seeds given for one program. Nothing
    is assumed of either function here. -/
structure Runtime where
  createProgramAddress : List (List Byte) → Option Pubkey
  findProgramAddress : List (List Byte) → Pubkey × Byte

/-- The seeds of a program, as it lists them without the bump, and that they can
    be told apart by their bytes although the runtime joins them. -/
class SeedList (S : Type) where
  bytes : S → List (List Byte)
  spelling_injective : ∀ s s' : S, (bytes s).flatten = (bytes s').flatten → s = s'

namespace Runtime

variable {S : Type} [SeedList S] (rt : Runtime)

/-- The address of seeds, under the bump that is found for them. New records are
    created there. -/
def address (s : S) : Pubkey := (rt.findProgramAddress (SeedList.bytes s)).1

/-- The bump found for seeds. -/
def bump (s : S) : Byte := (rt.findProgramAddress (SeedList.bytes s)).2

/-- Seeds of a list that spell different bytes have different addresses. For the
    seeds of one run this is what is relied on of the hash function. -/
def Separates (seeds : List S) : Prop :=
  ∀ s ∈ seeds, ∀ s' ∈ seeds, rt.address s = rt.address s' →
    (SeedList.bytes s).flatten = (SeedList.bytes s').flatten

/-- An address is created by the bump that is found for it, as the documentation
    of the two functions has it. -/
def Canonical (seeds : List S) : Prop :=
  ∀ s ∈ seeds, rt.createProgramAddress (SeedList.bytes s ++ [[rt.bump s]]) = some (rt.address s)

instance (seeds : List S) : Decidable (rt.Separates seeds) :=
  inferInstanceAs (Decidable (∀ s ∈ seeds, ∀ s' ∈ seeds, rt.address s = rt.address s' →
    (SeedList.bytes s).flatten = (SeedList.bytes s').flatten))

instance (seeds : List S) : Decidable (rt.Canonical seeds) :=
  inferInstanceAs (Decidable (∀ s ∈ seeds,
    rt.createProgramAddress (SeedList.bytes s ++ [[rt.bump s]]) = some (rt.address s)))

/-- A derivation that is known for the seeds of a list. Witnesses use it with
    the addresses that the real one gives. -/
def ofTable (addresses : List (S × Pubkey × Byte)) : Runtime where
  createProgramAddress seeds :=
    (addresses.find? (fun e => SeedList.bytes e.1 ++ [[e.2.2]] = seeds)).map (fun e => e.2.1)
  findProgramAddress seeds :=
    ((addresses.find? (fun e => SeedList.bytes e.1 = seeds)).map (fun e => e.2)).getD (0, 0)

/-- Different seeds of the list have different addresses. -/
theorem address_injective {rt : Runtime} {seeds : List S} (h : rt.Separates seeds) {s s' : S}
    (hs : s ∈ seeds) (hs' : s' ∈ seeds) (heq : rt.address s = rt.address s') : s = s' :=
  SeedList.spelling_injective s s' (h s hs s' hs' heq)

end Runtime

/-- What an instruction sees of its transaction: who signed, and the clock.
    `refused` says that the runtime fails the instruction for a reason of its
    own, such as rent or a compute limit. -/
structure Env where
  signers : List Pubkey
  unixTimestamp : Int
  refused : Bool
deriving DecidableEq

/-- The ways an instruction of a program can fail, by its error codes and by the
    errors of the programs it calls. Which of them it was matters to some
    results, and that it failed to all. -/
inductive ProgramError (E F : Type) where
  | code (e : E)
  | anchor (e : Settlement.AnchorError)
  | cpi (e : F)
  | invalidInstructionData
  | runtime
deriving DecidableEq

section Checks

variable {S α E F : Type} [SeedList S]

/-- `Account::try_from`: an account that must exist and hold a record of one
    kind. Where there is a record of another kind the error is a different one. -/
def load (occupied : Pubkey → Bool) (records : SortedMap Pubkey α) (key : Pubkey) :
    Except (ProgramError E F) α :=
  match records.get? key with
  | some record => .ok record
  | none =>
    .error (.anchor (if occupied key then .accountDiscriminatorMismatch
      else .accountNotInitialized))

/-- `init`: an account at the address of its seeds that does not exist yet, as a
    record of any kind. -/
def init (rt : Runtime) (occupied : Pubkey → Bool) (key : Pubkey) (s : S) :
    Except (ProgramError E F) Unit := do
  require (key = rt.address s) (.anchor .constraintSeeds)
  require (occupied key = false) (.anchor .accountAlreadyInUse)

/-- `seeds` with `bump`: the address found for the seeds. The account itself may
    be anything. -/
def checkAddress (rt : Runtime) (key : Pubkey) (s : S) : Except (ProgramError E F) Unit :=
  require (key = rt.address s) (.anchor .constraintSeeds)

/-- `seeds` with a bump that is given, from the record or from another one. -/
def checkSeeds (rt : Runtime) (key : Pubkey) (s : S) (bump : Byte) :
    Except (ProgramError E F) Unit :=
  require (rt.createProgramAddress (SeedList.bytes s ++ [[bump]]) = some key)
    (.anchor .constraintSeeds)

/-- `Signer`. -/
def checkSigner (env : Env) (key : Pubkey) : Except (ProgramError E F) Unit :=
  require (key ∈ env.signers) (.anchor .accountNotSigner)

/-- `has_one`: a key in the record is the key of another account. -/
def hasOne (field key : Pubkey) : Except (ProgramError E F) Unit :=
  require (field = key) (.anchor .constraintHasOne)

/-- `constraint`: a condition of the declaration without an error of its own. -/
def constraint (c : Prop) [Decidable c] : Except (ProgramError E F) Unit :=
  require c (.anchor .constraintRaw)

/-- `require!`. -/
def requireCode (c : Prop) [Decidable c] (e : E) : Except (ProgramError E F) Unit :=
  require c (.code e)

/-- The answer of a program that was called. Its error ends the instruction. -/
def cpi (answer : Except F α) : Except (ProgramError E F) α :=
  match answer with
  | .ok a => .ok a
  | .error e => .error (.cpi e)

/-- A record that was loaded is there. -/
theorem load_eq_ok {occupied : Pubkey → Bool} {records : SortedMap Pubkey α} {key : Pubkey}
    {record : α} :
    load (E := E) (F := F) occupied records key = .ok record
      ↔ records.get? key = some record := by
  unfold load
  cases records.get? key with
  | none => simp only [reduceCtorEq]
  | some r => simp only [Except.ok.injEq, Option.some.injEq]

/-- An account that can be created is at its address and free. -/
theorem init_eq_ok {rt : Runtime} {occupied : Pubkey → Bool} {key : Pubkey} {s : S} {u : Unit} :
    init (E := E) (F := F) rt occupied key s = .ok u
      ↔ key = rt.address s ∧ occupied key = false := by
  simp only [init, bind_eq_ok, require_eq_ok, exists_const]

theorem checkAddress_eq_ok {rt : Runtime} {key : Pubkey} {s : S} {u : Unit} :
    checkAddress (E := E) (F := F) rt key s = .ok u ↔ key = rt.address s := require_eq_ok

theorem checkSeeds_eq_ok {rt : Runtime} {key : Pubkey} {s : S} {bump : Byte} {u : Unit} :
    checkSeeds (E := E) (F := F) rt key s bump = .ok u
      ↔ rt.createProgramAddress (SeedList.bytes s ++ [[bump]]) = some key := require_eq_ok

theorem checkSigner_eq_ok {env : Env} {key : Pubkey} {u : Unit} :
    checkSigner (E := E) (F := F) env key = .ok u ↔ key ∈ env.signers := require_eq_ok

theorem hasOne_eq_ok {field key : Pubkey} {u : Unit} :
    hasOne (E := E) (F := F) field key = .ok u ↔ field = key := require_eq_ok

theorem constraint_eq_ok {c : Prop} [Decidable c] {u : Unit} :
    constraint (E := E) (F := F) c = .ok u ↔ c := require_eq_ok

theorem requireCode_eq_ok {c : Prop} [Decidable c] {e : E} {u : Unit} :
    requireCode (F := F) c e = .ok u ↔ c := require_eq_ok

/-- A call went well if the program called said so. -/
theorem cpi_eq_ok {answer : Except F α} {a : α} :
    cpi (E := E) answer = .ok a ↔ answer = .ok a := by
  cases answer with
  | ok b => simp only [cpi, Except.ok.injEq]
  | error e => simp only [cpi, reduceCtorEq]

theorem requireCode_eq_error {c : Prop} [Decidable c] {e : E} {e' : ProgramError E F} :
    requireCode c e = .error e' ↔ ¬ c ∧ .code e = e' := require_eq_error

/-- An error of a call is one of the program called. -/
theorem cpi_eq_error {answer : Except F α} {e : ProgramError E F} :
    cpi answer = .error e ↔ ∃ f, answer = .error f ∧ .cpi f = e := by
  cases answer with
  | ok b => simp only [cpi, reduceCtorEq, false_and, exists_false]
  | error f => simp only [cpi, Except.error.injEq, exists_eq_left']

/-! What the framework checks it answers with its own errors. -/

/-- Loading fails with no error code of the program. This lemma and the
    following single out the checks that do have one. -/
theorem load_ne_code {occupied : Pubkey → Bool} {records : SortedMap Pubkey α} {key : Pubkey}
    (e : E) : load (F := F) occupied records key ≠ .error (.code e) := by
  unfold load
  cases records.get? key <;>
    simp only [ne_eq, reduceCtorEq, Except.error.injEq, not_false_eq_true]

theorem require_ne_code {c : Prop} [Decidable c] (e : Settlement.AnchorError) (e' : E) :
    require c (.anchor e : ProgramError E F) ≠ .error (.code e') := by
  simp only [ne_eq, require_eq_error, reduceCtorEq, and_false, not_false_eq_true]

theorem checkSigner_ne_code {env : Env} {key : Pubkey} (e : E) :
    checkSigner (F := F) env key ≠ .error (.code e) := require_ne_code _ _

theorem checkSeeds_ne_code {rt : Runtime} {key : Pubkey} {s : S} {bump : Byte} (e : E) :
    checkSeeds (F := F) rt key s bump ≠ .error (.code e) := require_ne_code _ _

theorem hasOne_ne_code {field key : Pubkey} (e : E) :
    hasOne (F := F) field key ≠ .error (.code e) := require_ne_code _ _

theorem constraint_ne_code {c : Prop} [Decidable c] (e : E) :
    constraint (F := F) c ≠ .error (.code e) := require_ne_code _ _

theorem init_ne_code {rt : Runtime} {occupied : Pubkey → Bool} {key : Pubkey} {s : S} (e : E) :
    init (F := F) rt occupied key s ≠ .error (.code e) := by
  simp only [ne_eq, init, bind_eq_error, require_ne_code, false_or, not_exists, not_and,
    not_false_eq_true, implies_true]

end Checks

/-! ### Transactions -/

section Transact

variable {W I X : Type} (process : Env → W → I → Except X W) (runtime : X)

/-- An instruction in its transaction. One that fails changes nothing, and
    neither does one that the runtime refuses. -/
def transact (world : W) (input : Env × I) : Except X Unit × W :=
  if input.1.refused then (.error runtime, world)
  else
    match process input.1 world input.2 with
    | .ok world' => (.ok (), world')
    | .error e => (.error e, world)

/-- A transaction fails and changes nothing, or its instruction succeeds. -/
theorem transact_cases (world : W) (input : Env × I) :
    (∃ e, transact process runtime world input = (.error e, world)) ∨
    ∃ world', process input.1 world input.2 = .ok world' ∧
      transact process runtime world input = (.ok (), world') := by
  unfold transact
  by_cases hrefused : input.1.refused = true
  · rw [if_pos hrefused]
    exact Or.inl ⟨runtime, rfl⟩
  · rw [if_neg hrefused]
    rcases hp : process input.1 world input.2 with e | world'
    · exact Or.inl ⟨e, rfl⟩
    · exact Or.inr ⟨world', rfl, rfl⟩

/-- An instruction that succeeds, in a transaction that is not refused. -/
theorem transact_of_ok {world world' : W} {input : Env × I} (hrefused : input.1.refused = false)
    (h : process input.1 world input.2 = .ok world') :
    transact process runtime world input = (.ok (), world') := by
  rw [transact, if_neg (by rw [hrefused]; exact Bool.false_ne_true), h]

/-- An instruction that fails, in a transaction that is not refused. -/
theorem transact_of_error {world : W} {input : Env × I} {e : X} (hrefused : input.1.refused = false)
    (h : process input.1 world input.2 = .error e) :
    transact process runtime world input = (.error e, world) := by
  rw [transact, if_neg (by rw [hrefused]; exact Bool.false_ne_true), h]

/-- A transaction fails with the errors of its instruction, and with that of
    the runtime. -/
theorem transact_ne_error {world : W} {input : Env × I} {e : X} (hne : runtime ≠ e)
    (h : process input.1 world input.2 ≠ .error e) :
    (transact process runtime world input).1 ≠ .error e := by
  unfold transact
  by_cases hrefused : input.1.refused = true
  · rw [if_pos hrefused]
    exact fun heq => hne (Except.error.inj heq)
  · rw [if_neg hrefused]
    rcases hp : process input.1 world input.2 with e' | world'
    · rw [hp] at h
      exact fun heq => h (congrArg Except.error (Except.error.inj heq))
    · exact fun heq => absurd heq (by simp only [reduceCtorEq, not_false_eq_true])

/-- A transaction that fails changes nothing. -/
theorem transact_error {world : W} {input : Env × I} {e : X}
    (h : (transact process runtime world input).1 = .error e) :
    (transact process runtime world input).2 = world := by
  rcases transact_cases process runtime world input with ⟨e', he⟩ | ⟨world', -, hok⟩
  · rw [he]
  · rw [hok] at h
    exact absurd h (by simp only [reduceCtorEq, not_false_eq_true])

/-- The runtime does not refuse a transaction that succeeds. -/
theorem transact_accepted {world : W} {input : Env × I}
    (h : (transact process runtime world input).1 = .ok ()) : input.1.refused = false := by
  unfold transact at h
  by_cases hrefused : input.1.refused = true
  · rw [if_pos hrefused] at h
    exact absurd h (by simp only [reduceCtorEq, not_false_eq_true])
  · exact Bool.not_eq_true _ ▸ hrefused

/-- A transaction that succeeds is one instruction that does. -/
theorem transact_ok {world : W} {input : Env × I}
    (h : (transact process runtime world input).1 = .ok ()) :
    process input.1 world input.2 = .ok (transact process runtime world input).2 := by
  rcases transact_cases process runtime world input with ⟨e, he⟩ | ⟨world', hp, hok⟩
  · rw [he] at h
    exact absurd h (by simp only [reduceCtorEq, not_false_eq_true])
  · rw [hok]
    exact hp

/-- Transactions of related worlds whose instructions fail alike, or lead to
    related worlds. Two runs are compared with it transaction by transaction. -/
theorem transact_related {R : W → W → Prop} {world world' : W} {input : Env × I}
    (hworld : R world world')
    (h : Related R (process input.1 world input.2) (process input.1 world' input.2)) :
    (transact process runtime world input).1 = (transact process runtime world' input).1 ∧
    R (transact process runtime world input).2 (transact process runtime world' input).2 := by
  unfold transact
  by_cases hrefused : input.1.refused = true
  · rw [if_pos hrefused, if_pos hrefused]
    exact ⟨rfl, hworld⟩
  · rw [if_neg hrefused, if_neg hrefused]
    match process input.1 world input.2, process input.1 world' input.2, h with
    | .ok w, .ok w', h => exact ⟨rfl, h⟩
    | .error e, .error e', h => exact ⟨congrArg Except.error h, hworld⟩

end Transact

/-! ### What succeeded -/

section Successes

variable {I X α : Type}

/-- What is to be said of an instruction, if it succeeded. -/
def succeeded (f : I → Option α) : (Env × I) × Except X Unit → Option α
  | (input, .ok _) => f input.2
  | (_, .error _) => none

/-- What is to be said of the instructions that succeeded, in their order. -/
def successes (f : I → Option α) (past : List ((Env × I) × Except X Unit)) : List α :=
  past.filterMap (succeeded f)

/-- What is to be said of the last instruction that succeeded and of which
    something is. -/
def latest (f : I → Option α) (past : List ((Env × I) × Except X Unit)) : Option α :=
  (successes f past).getLast?

variable {f : I → Option α} {past : List ((Env × I) × Except X Unit)} {env : Env} {instruction : I}

/-- A transaction that failed adds nothing. -/
theorem successes_snoc_error {input : Env × I} (e : X) :
    successes f (past ++ [(input, .error e)]) = successes f past := by
  rw [successes, List.filterMap_append]
  exact List.append_nil _

/-- Nor does an instruction of which nothing is to be said. -/
theorem successes_snoc_none (h : f instruction = none) :
    successes f (past ++ [((env, instruction), .ok ())]) = successes f past := by
  have hlast : succeeded f ((env, instruction), (.ok () : Except X Unit)) = none := h
  rw [successes, List.filterMap_append, List.filterMap_cons_none hlast]
  exact List.append_nil _

/-- An instruction that succeeded adds what is to be said of it. -/
theorem successes_snoc_some {a : α} (h : f instruction = some a) :
    successes f (past ++ [((env, instruction), .ok ())]) = successes f past ++ [a] := by
  have hlast : succeeded f ((env, instruction), (.ok () : Except X Unit)) = some a := h
  rw [successes, List.filterMap_append, List.filterMap_cons_some hlast]
  rfl

/-- What is to be said of the first instructions is said of all. -/
theorem successes_append (past more : List ((Env × I) × Except X Unit)) :
    successes f (past ++ more) = successes f past ++ successes f more := List.filterMap_append

/-- A transaction that failed was not the last to succeed. -/
theorem latest_snoc_error {input : Env × I} (e : X) :
    latest f (past ++ [(input, .error e)]) = latest f past := by
  rw [latest, successes_snoc_error, latest]

/-- Nor was one of which nothing is to be said. -/
theorem latest_snoc_none (h : f instruction = none) :
    latest f (past ++ [((env, instruction), .ok ())]) = latest f past := by
  rw [latest, successes_snoc_none h, latest]

/-- What succeeded just now is the last. -/
theorem latest_snoc_some {a : α} (h : f instruction = some a) :
    latest f (past ++ [((env, instruction), .ok ())]) = some a := by
  rw [latest, successes_snoc_some h, List.getLast?_concat]

variable {υ : Type} {g : υ → α} {m : SortedMap Pubkey υ} {h : Pubkey → I → Option α}

/-- Records that are what was set last stay so when one of them is set. -/
theorem everywhere_latest_insert
    (hm : m.Everywhere (fun key record => latest (h key) past = some (g record))) {key : Pubkey}
    {record : υ} (hset : h key instruction = some (g record))
    (hother : ∀ key', key' ≠ key → h key' instruction = none) :
    (m.insert key record).Everywhere (fun key record =>
      latest (h key) (past ++ [((env, instruction), .ok ())]) = some (g record)) :=
  SortedMap.everywhere_insert (latest_snoc_some hset) (fun key' record' hne hget =>
    (latest_snoc_none (hother key' hne)).trans (hm key' record' hget))

/-- Records that are what was set last stay so when nothing is set. -/
theorem everywhere_latest_same
    (hm : m.Everywhere (fun key record => latest (h key) past = some (g record)))
    (hnone : ∀ key, h key instruction = none) :
    m.Everywhere (fun key record =>
      latest (h key) (past ++ [((env, instruction), .ok ())]) = some (g record)) :=
  hm.imp (fun key _ hset => (latest_snoc_none (hnone key)).trans hset)

end Successes

end Stablecoin

end SolanaLab
