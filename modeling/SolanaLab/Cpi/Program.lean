import SolanaLab.Stablecoin.Anchor

/-!
# Programs That Call Programs

Two programs. The counter program keeps a counter for every authority, which
only the authority can have counted up. The proxy program has no accounts at
all, and only passes instructions on to the counter program, in two ways. It
passes on the signature of the authority, or it signs itself, for an address
that is derived from the user and that no one has a key for.

The runtime is what stands between them. A program that is called sees only the
signatures the caller lists, and the caller can only list those that it was
shown itself and those of addresses derived from seeds of its own.

What the model leaves out is the other privilege, that of writing. Both
programs declare the counter as an account they write, and every instruction
here is one whose accounts are passed writable where its program declares them
so, which is what any client built from the declarations does. A counter passed
read-only changes nothing in either program. It fails on the declaration, or on
one of the other checks that Anchor makes before it, and as the two programs
make different checks the two may name different ones.

## Main definitions

* `invokeSigned`: A call of one program by another.
* `initializeCounterHandler`, `incrementHandler`: The counter program.
* `proxyIncrementHandler`, `proxyInitializeCounterHandler`,
  `proxyIncrementWithSignerHandler`: The proxy program.
* `step`: An instruction of either program in its transaction.
* `Does`: What an instruction does when it succeeds.

## Theorems

* `invokeSigned_eq_ok`: What a call that succeeds was allowed.
* `process_does`: An instruction that succeeds does one of these things.
* `proxyIncrement_transparent`: Passing a signature on changes nothing.
-/

namespace SolanaLab

namespace Cpi

open Checked Stablecoin

/-- `Counter`: whose it is, what it stands at and the bump of its address. -/
structure Counter where
  authority : Pubkey
  count : Word 64
  bump : Byte
deriving DecidableEq

/-- The counter program's own error. The proxy program has none. -/
inductive ErrorCode where
  | counterOverflow
deriving DecidableEq

/-- Why the runtime does not make a call: the seeds a program signs with make no
    address, or it lists a signature that is neither shown to it nor its own. -/
inductive InvokeError where
  | invalidSeeds
  | privilegeEscalation
deriving DecidableEq

/-- The errors of both programs. An error of a called program is passed on as it
    is. -/
abbrev Error := ProgramError ErrorCode InvokeError

/-- `COUNTER_SEED`: `counter`. -/
def counterSeed : List Byte := [99, 111, 117, 110, 116, 101, 114]

/-- `PROXY_AUTHORITY_SEED`: `proxy-authority`. -/
def proxyAuthoritySeed : List Byte :=
  [112, 114, 111, 120, 121, 45, 97, 117, 116, 104, 111, 114, 105, 116, 121]

/-- The seeds of a counter. -/
structure CounterSeeds where
  authority : Pubkey
deriving DecidableEq

/-- The seeds of the address the proxy signs for. The address is the user's, but
    of the proxy program, so it is another one than that of the user's counter. -/
structure ProxySeeds where
  user : Pubkey
deriving DecidableEq

/-- A seed followed by a key determines the key, as keys are equally long. -/
theorem append_pubkey_injective {seed : List Byte} {key key' : Pubkey}
    (h : [seed, Settlement.Pubkey.bytes key].flatten
      = [seed, Settlement.Pubkey.bytes key'].flatten) : key = key' := by
  simp only [List.flatten_cons, List.flatten_nil, List.append_nil] at h
  exact Settlement.pubkeyBytes_injective (List.append_cancel_left h)

instance : SeedList CounterSeeds :=
  ⟨fun s => [counterSeed, Settlement.Pubkey.bytes s.authority],
    fun _ _ h => congrArg CounterSeeds.mk (append_pubkey_injective h)⟩

instance : SeedList ProxySeeds :=
  ⟨fun s => [proxyAuthoritySeed, Settlement.Pubkey.bytes s.user],
    fun _ _ h => congrArg ProxySeeds.mk (append_pubkey_injective h)⟩

/-- The accounts of the counter program. -/
abbrev World := SortedMap Pubkey Counter

/-- Whether an address has a counter. -/
def World.occupied (world : World) (key : Pubkey) : Bool := (world.get? key).isSome

/-! ### Calls -/

/-- `invoke_signed`: a call that lists these signers, made by a program that
    signs with these seeds. The called program is shown the listed signers and
    no others, not even those of the transaction. -/
def invokeSigned {α : Type} (rt : Runtime) (env : Env) (signerSeeds : List (List (List Byte)))
    (required : List Pubkey) (callee : Env → Except Error α) : Except Error α := do
  let derived ← signerSeeds.mapM (fun seeds =>
    okOr (rt.createProgramAddress seeds) (.cpi .invalidSeeds))
  require (required.all (fun key => key ∈ env.signers ∨ key ∈ derived)) (.cpi .privilegeEscalation)
  callee { env with signers := required }

/-! ### The counter program -/

/-- `InitializeCounterAccount`. -/
structure InitializeCounterAccount where
  payer : Pubkey
  authority : Pubkey
  counter : Pubkey
deriving DecidableEq

/-- `Increment`. -/
structure Increment where
  authority : Pubkey
  counter : Pubkey
deriving DecidableEq

section Counter

variable (rt : Runtime) (env : Env) (world : World)

/-- `initialize_counter`. -/
def initializeCounterHandler (ctx : InitializeCounterAccount) : Except Error World := do
  checkSigner env ctx.payer
  checkSigner env ctx.authority
  init rt world.occupied ctx.counter (⟨ctx.authority⟩ : CounterSeeds)
  return world.insert ctx.counter
    { authority := ctx.authority
      count := 0
      bump := rt.bump (⟨ctx.authority⟩ : CounterSeeds) }

/-- `increment`, with the checks of its accounts in Anchor's order: the
    signature and the account first, then seeds and authority of the counter.
    Between the last two stands the check that the account is writable, which
    holds of every counter passed as declared. -/
def incrementHandler (ctx : Increment) : Except Error World := do
  checkSigner env ctx.authority
  let counter ← load world.occupied world ctx.counter
  checkSeeds rt ctx.counter (⟨ctx.authority⟩ : CounterSeeds) counter.bump
  hasOne counter.authority ctx.authority
  let count ← okOr (checkedAdd counter.count 1) (.code .counterOverflow)
  return world.insert ctx.counter { counter with count }

end Counter

/-! ### The proxy program -/

/-- `ProxyInitializeCounter` and `ProxyIncrementWithSigner`, but for the
    programs. -/
structure ProxyWithSigner where
  user : Pubkey
  proxyAuthority : Pubkey
  counter : Pubkey
deriving DecidableEq

section Proxy

variable (counterRt proxyRt : Runtime) (env : Env) (world : World)

/-- `proxy_increment`. The account of the counter is not the proxy's, which
    does not write it back. It declares the counter writable all the same, so
    that the counter program may write it, and is passed it so. -/
def proxyIncrementHandler (ctx : Increment) : Except Error World := do
  checkSigner env ctx.authority
  let _counter ← load world.occupied world ctx.counter
  invokeSigned proxyRt env [] [ctx.authority] (fun env => incrementHandler counterRt env world ctx)

/-- The seeds the proxy signs with. -/
def signerSeeds (user : Pubkey) : List (List Byte) :=
  SeedList.bytes (⟨user⟩ : ProxySeeds) ++ [[proxyRt.bump (⟨user⟩ : ProxySeeds)]]

/-- `proxy_initialize_counter`. -/
def proxyInitializeCounterHandler (ctx : ProxyWithSigner) : Except Error World := do
  checkSigner env ctx.user
  checkAddress proxyRt ctx.proxyAuthority (⟨ctx.user⟩ : ProxySeeds)
  invokeSigned proxyRt env [signerSeeds proxyRt ctx.user] [ctx.user, ctx.proxyAuthority]
    (fun env => initializeCounterHandler counterRt env world
      ⟨ctx.user, ctx.proxyAuthority, ctx.counter⟩)

/-- `proxy_increment_with_signer`. -/
def proxyIncrementWithSignerHandler (ctx : ProxyWithSigner) : Except Error World := do
  checkSigner env ctx.user
  checkAddress proxyRt ctx.proxyAuthority (⟨ctx.user⟩ : ProxySeeds)
  let _counter ← load world.occupied world ctx.counter
  invokeSigned proxyRt env [signerSeeds proxyRt ctx.user] [ctx.proxyAuthority]
    (fun env => incrementHandler counterRt env world ⟨ctx.proxyAuthority, ctx.counter⟩)

end Proxy

/-- The instructions of both programs. -/
inductive Instruction where
  /-- `initialize` of either program, which does nothing. -/
  | initializeScaffold
  | initializeCounter (ctx : InitializeCounterAccount)
  | increment (ctx : Increment)
  | proxyIncrement (ctx : Increment)
  | proxyInitializeCounter (ctx : ProxyWithSigner)
  | proxyIncrementWithSigner (ctx : ProxyWithSigner)
deriving DecidableEq

/-- One instruction. -/
def process (counterRt proxyRt : Runtime) (env : Env) (world : World) :
    Instruction → Except Error World
  | .initializeScaffold => .ok world
  | .initializeCounter ctx => initializeCounterHandler counterRt env world ctx
  | .increment ctx => incrementHandler counterRt env world ctx
  | .proxyIncrement ctx => proxyIncrementHandler counterRt proxyRt env world ctx
  | .proxyInitializeCounter ctx => proxyInitializeCounterHandler counterRt proxyRt env world ctx
  | .proxyIncrementWithSigner ctx => proxyIncrementWithSignerHandler counterRt proxyRt env world ctx

/-- An instruction in its transaction. -/
def step (counterRt proxyRt : Runtime) (world : World) (input : Env × Instruction) :
    Except Error Unit × World :=
  transact (process counterRt proxyRt) .runtime world input

/-! ### What an instruction does -/

/-- Whom the two programs take to have signed an instruction: those who signed
    its transaction, and the address of a user who did if the proxy signs for
    it. -/
inductive SignedBy (proxyRt : Runtime) (env : Env) : Instruction → Pubkey → Prop
  | own {instruction : Instruction} {key : Pubkey} (h : key ∈ env.signers) :
      SignedBy proxyRt env instruction key
  | initializing {ctx : ProxyWithSigner} (h : ctx.user ∈ env.signers) :
      SignedBy proxyRt env (.proxyInitializeCounter ctx)
        (proxyRt.address (⟨ctx.user⟩ : ProxySeeds))
  | incrementing {ctx : ProxyWithSigner} (h : ctx.user ∈ env.signers) :
      SignedBy proxyRt env (.proxyIncrementWithSigner ctx)
        (proxyRt.address (⟨ctx.user⟩ : ProxySeeds))

/-- The counter that an instruction counts up. -/
def Instruction.increments : Instruction → Option Pubkey
  | .increment ctx => some ctx.counter
  | .proxyIncrement ctx => some ctx.counter
  | .proxyIncrementWithSigner ctx => some ctx.counter
  | _ => none

/-- What an instruction does when it succeeds: nothing, a new counter at zero,
    or one more on a counter that is there. Whichever program it came through,
    the authority of the counter is taken to have signed it. -/
inductive Does (counterRt proxyRt : Runtime) (env : Env) (world : World)
    (instruction : Instruction) : World → Prop
  | nothing (counts : instruction.increments = none) :
      Does counterRt proxyRt env world instruction world
  | initialized {key authority : Pubkey} (counts : instruction.increments = none)
      (signed : SignedBy proxyRt env instruction authority)
      (address : key = counterRt.address (⟨authority⟩ : CounterSeeds))
      (free : world.get? key = none) :
      Does counterRt proxyRt env world instruction
        (world.insert key ⟨authority, 0, counterRt.bump (⟨authority⟩ : CounterSeeds)⟩)
  | incremented {key : Pubkey} {counter : Counter} {count : Word 64}
      (counts : instruction.increments = some key)
      (signed : SignedBy proxyRt env instruction counter.authority)
      (found : world.get? key = some counter) (next : count.val = counter.count.val + 1) :
      Does counterRt proxyRt env world instruction (world.insert key { counter with count })

section Does

variable {counterRt proxyRt rt : Runtime} {env : Env} {world world' : World}

/-- A call that succeeds was shown no signature that was not there. -/
theorem invokeSigned_eq_ok {α : Type} {seeds : List (List (List Byte))} {required : List Pubkey}
    {callee : Env → Except Error α} {a : α} :
    invokeSigned rt env seeds required callee = .ok a ↔
      ∃ derived, seeds.mapM (fun seeds => okOr (rt.createProgramAddress seeds)
          (.cpi .invalidSeeds : Error)) = .ok derived ∧
        (∀ key ∈ required, key ∈ env.signers ∨ key ∈ derived) ∧
        callee { env with signers := required } = .ok a := by
  simp only [invokeSigned, bind_eq_ok, require_eq_ok, exists_const, List.all_eq_true,
    decide_eq_true_eq]

/-- A counter is set up at the address of its authority, when there is none and
    both the authority and whoever pays have signed. -/
theorem initializeCounter_eq_ok {ctx : InitializeCounterAccount} :
    initializeCounterHandler rt env world ctx = .ok world' ↔
      ctx.payer ∈ env.signers ∧ ctx.authority ∈ env.signers ∧
      ctx.counter = rt.address (⟨ctx.authority⟩ : CounterSeeds) ∧ world.get? ctx.counter = none ∧
      world.insert ctx.counter
        ⟨ctx.authority, 0, rt.bump (⟨ctx.authority⟩ : CounterSeeds)⟩ = world' := by
  simp only [initializeCounterHandler, bind_eq_ok, checkSigner_eq_ok, init_eq_ok, exists_const,
    World.occupied, Option.isSome_eq_false_iff, Option.isNone_iff_eq_none, pure, Except.pure,
    Except.ok.injEq, and_assoc]

/-- A counter is counted up for its authority, who has signed, while it is not
    full. -/
theorem increment_eq_ok {ctx : Increment} :
    incrementHandler rt env world ctx = .ok world' ↔
      ctx.authority ∈ env.signers ∧ ∃ counter, world.get? ctx.counter = some counter ∧
      rt.createProgramAddress (SeedList.bytes (⟨ctx.authority⟩ : CounterSeeds) ++ [[counter.bump]])
        = some ctx.counter ∧
      counter.authority = ctx.authority ∧
      ∃ count : Word 64, count.val = counter.count.val + 1 ∧
        world.insert ctx.counter { counter with count } = world' := by
  simp only [incrementHandler, bind_eq_ok, checkSigner_eq_ok, load_eq_ok, checkSeeds_eq_ok,
    hasOne_eq_ok, okOr_eq_ok, checkedAdd_eq_some, exists_const, pure, Except.pure,
    Except.ok.injEq]
  rfl

/-- A call that shows signatures that are there goes through. -/
theorem invokeSigned_of_mem {α : Type} {seeds : List (List (List Byte))} {derived : List Pubkey}
    {required : List Pubkey}
    (hderived : seeds.mapM (fun seeds => okOr (rt.createProgramAddress seeds)
      (.cpi .invalidSeeds : Error)) = .ok derived)
    (hall : ∀ key ∈ required, key ∈ env.signers ∨ key ∈ derived) (callee : Env → Except Error α) :
    invokeSigned rt env seeds required callee = callee { env with signers := required } := by
  have hrequired : required.all (fun key => key ∈ env.signers ∨ key ∈ derived) = true := by
    simp only [List.all_eq_true, decide_eq_true_eq]
    exact hall
  rw [invokeSigned, hderived]
  simp only [bind, Except.bind, require, if_pos hrequired]

/-- The counter program looks for no signature but that of the authority. -/
theorem increment_signers {env' : Env} {ctx : Increment} (h : ctx.authority ∈ env.signers)
    (h' : ctx.authority ∈ env'.signers) :
    incrementHandler rt env world ctx = incrementHandler rt env' world ctx := by
  simp only [incrementHandler, checkSigner, require, if_pos h, if_pos h']

/-- The counter program makes the same checks the proxy has made, and with the
    same signature. So passing it on changes nothing, not even an error. The
    counter is one passed writable, as both programs declare it: of a read-only
    counter the proxy complains before it asks whose the counter is, and the
    counter program after. -/
theorem proxyIncrement_transparent (counterRt proxyRt : Runtime) (env : Env) (world : World)
    (ctx : Increment) :
    process counterRt proxyRt env world (.proxyIncrement ctx)
      = process counterRt proxyRt env world (.increment ctx) := by
  change proxyIncrementHandler counterRt proxyRt env world ctx
    = incrementHandler counterRt env world ctx
  unfold proxyIncrementHandler
  -- The called program is shown the authority's signature, which is all it looks for.
  by_cases hsigned : ctx.authority ∈ env.signers
  · have hpass : invokeSigned proxyRt env [] [ctx.authority]
          (fun env => incrementHandler counterRt env world ctx)
        = incrementHandler counterRt { env with signers := [ctx.authority] } world ctx :=
      invokeSigned_of_mem rfl (fun key hmem => Or.inl (List.mem_singleton.mp hmem ▸ hsigned)) _
    have hcallee : incrementHandler counterRt { env with signers := [ctx.authority] } world ctx
        = incrementHandler counterRt env world ctx :=
      increment_signers List.mem_cons_self hsigned
    rw [hpass, hcallee]
    unfold incrementHandler checkSigner require
    rw [if_pos hsigned]
    cases load (E := ErrorCode) (F := InvokeError) world.occupied world ctx.counter with
    | error e => rfl
    | ok counter => rfl
  · have hrefused : (checkSigner env ctx.authority : Except Error Unit)
        = .error (.anchor .accountNotSigner) := if_neg hsigned
    rw [incrementHandler, hrefused]
    change (.error (.anchor .accountNotSigner) : Except Error World)
      = .error (.anchor .accountNotSigner)
    rfl

/-- An instruction that succeeds does one of these things. -/
theorem process_does {instruction : Instruction}
    (h : process counterRt proxyRt env world instruction = .ok world') :
    Does counterRt proxyRt env world instruction world' := by
  cases instruction with
  | initializeScaffold =>
      rw [← Except.ok.inj h]
      exact .nothing rfl
  | initializeCounter ctx =>
      rcases initializeCounter_eq_ok.mp h with ⟨-, hsigned, haddress, hfree, rfl⟩
      exact .initialized rfl (.own hsigned) haddress hfree
  | increment ctx =>
      rcases increment_eq_ok.mp h with
        ⟨hsigned, counter, hfound, -, hauthority, count, hcount, rfl⟩
      exact .incremented rfl (.own (hauthority ▸ hsigned)) hfound hcount
  -- What the proxy passes on is the counter program's own instruction.
  | proxyIncrement ctx =>
      rw [proxyIncrement_transparent] at h
      rcases increment_eq_ok.mp h with
        ⟨hsigned, counter, hfound, -, hauthority, count, hcount, rfl⟩
      exact .incremented rfl (.own (hauthority ▸ hsigned)) hfound hcount
  -- Here the called program sees the signature of the proxy's address for the user.
  | proxyInitializeCounter ctx =>
      simp only [process, proxyInitializeCounterHandler, bind_eq_ok, checkSigner_eq_ok,
        checkAddress_eq_ok, invokeSigned_eq_ok, initializeCounter_eq_ok, exists_const] at h
      rcases h with ⟨huser, hauthority, derived, -, -, -, -, haddress, hfree, rfl⟩
      exact .initialized rfl (hauthority ▸ .initializing huser) haddress hfree
  | proxyIncrementWithSigner ctx =>
      simp only [process, proxyIncrementWithSignerHandler, bind_eq_ok, checkSigner_eq_ok,
        checkAddress_eq_ok, load_eq_ok, invokeSigned_eq_ok, increment_eq_ok, exists_const] at h
      rcases h with ⟨huser, haddress, -, -, derived, -, -, -, counter, hfound, -, hauthority,
        count, hcount, rfl⟩
      exact .incremented rfl
        ((hauthority.trans haddress) ▸ SignedBy.incrementing huser) hfound hcount

end Does

end Cpi

end SolanaLab
