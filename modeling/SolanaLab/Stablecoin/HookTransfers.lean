import SolanaLab.Stablecoin.Token
import SolanaLab.Stablecoin.TransferLimits

/-!
# Transfers and their Hook

Token-2022 together with the compliance hook. A transfer between two accounts
moves the tokens and then calls the hook, with the accounts that the validation
account of the mint lists; if the hook refuses, nothing is moved. A transfer of
an account to itself moves nothing and does not call it.

All mints here have this program as their hook, and a transfer must name its
mint. The other instructions of Token-2022 do not call the hook.

The hook is a program like any other, so anybody can also send it an instruction
directly. Token-2022 marks the two accounts of a transfer while it calls the
hook. The hook does not look at the mark, and so the model has none.

A refusal of the hook has to undo the tokens that have already moved. Here that
is the `Except` of the whole transfer: there is no later ledger if the hook has
none.

## Main definitions

* `Chain`: The records of the hook and the tokens.
* `invokeExecute`: How Token-2022 calls the hook.
* `transferWithHook`: A transfer.
* `transferred`: What an entry of the log has really transferred from a source.

## Theorems

* `invokeExecute_eq_ok`: The hook is called for the accounts of the transfer.
* `processHook_eq_ok`, `processToken_eq_ok`: What a success has done.
-/

namespace SolanaLab

namespace Stablecoin

namespace Compliance

open Checked

/-- The records of the hook and the tokens. -/
structure Chain where
  hook : World
  tokens : TokenLedger
deriving DecidableEq

/-- Why a transaction fails: for the tokens, in the hook, because an account
    that the mint lists cannot be found or is not the one its seeds ask for, or
    for a reason outside the two programs. -/
inductive ChainError where
  | missingRequiredSignature
  | token (e : TokenError)
  | mintRequiredForTransfer
  | incorrectAccount
  | hook (e : Error)
  | runtime
deriving DecidableEq

/-! ### Calling the hook -/

/-- The bytes of a seed, if it is of an account that is there. -/
def MetaSeed.resolve (accounts : List AccountInfo) : MetaSeed → Option (List Byte)
  | .literal bytes => some bytes
  | .accountKey index =>
    accounts[index]?.map (fun account => Settlement.Pubkey.bytes account.key)

/-- The account that is listed, at the address of its seeds. -/
def ExtraAccountMeta.resolve (rt : Runtime) (accounts : List AccountInfo)
    (account : ExtraAccountMeta) : Option AccountInfo :=
  (account.seeds.mapM (MetaSeed.resolve accounts)).map (fun seeds =>
    ⟨(rt.findProgramAddress seeds).1, account.isWritable⟩)

/-- `add_to_cpi_instruction`: every listed account after the ones before it. -/
def addExtraAccounts (rt : Runtime) :
    List ExtraAccountMeta → List AccountInfo → Option (List AccountInfo)
  | [], accounts => some accounts
  | account :: rest, accounts =>
    (account.resolve rt accounts).bind (fun info => addExtraAccounts rt rest (accounts ++ [info]))

/-- `invoke_execute`: the hook, with the accounts of a transfer and those that
    the validation account lists. -/
def invokeExecute (rt : Runtime) (env : Env) (world : World)
    (source mint destination authority : Pubkey) (amount : Word 64) : Except ChainError World := do
  let validation := rt.address (Seeds.extraAccountMetas mint)
  let accounts : List AccountInfo :=
    [⟨source, false⟩, ⟨mint, false⟩, ⟨destination, false⟩, ⟨authority, false⟩]
  let accounts ← okOr
    (match world.extraAccountMetaLists.get? validation with
      | none => some accounts
      | some metas => addExtraAccounts rt metas (accounts ++ [⟨validation, false⟩]))
    .incorrectAccount
  (executeFallback rt env world accounts (some (.execute amount))).mapError .hook

/-- `transfer_checked` of a mint that has the hook. The tokens are moved first
    and the hook is called then, as Token-2022 does it. A transfer of an account
    to itself returns before the call, so the hook neither sees nor counts it. -/
def transferWithHook (rt : Runtime) (env : Env) (chain : Chain)
    (source destination authority : Pubkey) (amount : Word 64) (mint : Option (Pubkey × Byte)) :
    Except ChainError Chain := do
  let key ← okOr (mint.map Prod.fst) .mintRequiredForTransfer
  let tokens ← (chain.tokens.transfer source destination authority amount mint).mapError .token
  if source = destination then
    return { chain with tokens }
  let hook ← invokeExecute rt env chain.hook source key destination authority amount
  return { hook, tokens }

/-! ### Transactions -/

/-- An instruction sent to the hook, or to Token-2022. -/
inductive Operation where
  | hook (instruction : Instruction)
  | token (instruction : TokenInstruction)
deriving DecidableEq

namespace Chain

/-- A hook without records, next to any tokens. -/
def start (tokens : TokenLedger) : Chain := ⟨World.empty, tokens⟩

/-- An instruction sent to the hook. -/
def processHook (rt : Runtime) (env : Env) (chain : Chain) (instruction : Instruction) :
    Except ChainError Chain := do
  let hook ← (Compliance.process rt env chain.hook instruction).mapError .hook
  return { chain with hook }

/-- An instruction sent to Token-2022. -/
def processToken (rt : Runtime) (env : Env) (chain : Chain) (instruction : TokenInstruction) :
    Except ChainError Chain := do
  require (instruction.signer ∈ env.signers) .missingRequiredSignature
  match instruction with
  | .transfer source destination authority amount mint =>
    transferWithHook rt env chain source destination authority amount mint
  | instruction => do
    let tokens ← (instruction.apply chain.tokens).mapError .token
    return { chain with tokens }

/-- An instruction, sent to the program it is for. -/
def process (rt : Runtime) (env : Env) (chain : Chain) : Operation → Except ChainError Chain
  | .hook instruction => processHook rt env chain instruction
  | .token instruction => processToken rt env chain instruction

/-- One transaction. -/
def step (rt : Runtime) : Chain → Env × Operation → Except ChainError Unit × Chain :=
  transact (process rt) .runtime

end Chain

/-- A transaction as it is sent, with what surrounds it. -/
abbrev ChainInput := Env × Operation

/-- What has been sent and what came of it. -/
abbrev ChainLog := List (ChainInput × Except ChainError Unit)

/-- What a transfer between two accounts is about. A transfer that names no mint
    is not one of these, since it fails for a mint with a hook, and neither is a
    transfer of an account to itself. -/
def Operation.transfer : Operation → Option Execution
  | .token (.transfer source destination _ amount (some (mint, _))) =>
    if source = destination then none else some ⟨mint, source, destination, amount⟩
  | _ => none

/-- What an instruction sent to the hook asks to execute. Such an instruction
    has the accounts and the amount of a transfer, but nothing is transferred by
    it. -/
def Operation.execution : Operation → Option Execution
  | .hook instruction => instruction.execution
  | .token _ => none

/-- What an entry of the log has really transferred from a source on a day. -/
def transferred (mint source : Pubkey) (d : Int) : ChainInput × Except ChainError Unit → Nat
  | (input, .ok _) =>
    input.2.transfer.elim 0 (fun e => e.amountOn input.1.unixTimestamp mint source d)
  | (_, .error _) => 0

/-! ### What each instruction has found and written -/

section Specifications

variable {rt : Runtime} {env : Env} {chain chain' : Chain} {world world' : World}

/-- What is listed comes after the accounts of the transfer. So the hook finds
    the source, the mint, the destination and the authority in the first four
    places, whatever the mint lists. -/
theorem prefix_addExtraAccounts {metas : List ExtraAccountMeta} {accounts all : List AccountInfo}
    (h : addExtraAccounts rt metas accounts = some all) : accounts <+: all := by
  induction metas generalizing accounts with
  | nil =>
      rw [addExtraAccounts, Option.some.injEq] at h
      rw [h]
  | cons account rest ih =>
      rcases Option.bind_eq_some_iff.mp h with ⟨info, -, hrest⟩
      exact (List.prefix_append accounts [info]).trans (ih hrest)

/-- The first accounts of a list are those of an execution. -/
theorem executionOf_eq {source mint destination authority : AccountInfo}
    {all : List AccountInfo} (h : [source, mint, destination, authority] <+: all)
    {amount : Word 64} {e : Execution}
    (he : executionOf all (some (.execute amount)) = some e) :
    e = ⟨mint.key, source.key, destination.key, amount⟩ := by
  rcases h with ⟨rest, rfl⟩
  rcases Option.map_eq_some_iff.mp he with ⟨ctx, hctx, rfl⟩
  match rest with
  | _ :: _ :: _ :: _ :: _ =>
      rw [← Option.some.inj hctx]
  | [] | [_] | [_, _] | [_, _, _] =>
      exact absurd hctx (by
        simp only [HookAccounts.ofList, List.cons_append, List.nil_append, reduceCtorEq,
          not_false_eq_true])

/-- The hook is called for the accounts of the transfer. That it succeeds
    therefore means that the hook has admitted this transfer, and has written
    what it writes for this source and amount. -/
theorem invokeExecute_eq_ok {source mint destination authority : Pubkey} {amount : Word 64}
    (h : invokeExecute rt env world source mint destination authority amount = .ok world') :
    ∃ config sourceProfile destinationProfile n,
      Admitted rt env world ⟨mint, source, destination, amount⟩ config sourceProfile
        destinationProfile n ∧
      world.executed rt env ⟨mint, source, destination, amount⟩ sourceProfile n = world' := by
  simp only [invokeExecute, bind_eq_ok, okOr_eq_ok, mapError_eq_ok] at h
  rcases h with ⟨all, hall, hexecute⟩
  -- The accounts that are added come after the four of the transfer.
  have hprefix : ([⟨source, false⟩, ⟨mint, false⟩, ⟨destination, false⟩, ⟨authority, false⟩] :
      List AccountInfo) <+: all := by
    rcases hmetas : world.extraAccountMetaLists.get? (rt.address (Seeds.extraAccountMetas mint))
      with _ | metas
    · rw [hmetas, Option.some.injEq] at hall
      rw [hall]
    · rw [hmetas] at hall
      exact (List.prefix_append _ _).trans (prefix_addExtraAccounts hall)
  rcases executeFallback_eq_ok hexecute with
    ⟨e, config, sourceProfile, destinationProfile, n, he, ha, hafter⟩
  rw [executionOf_eq hprefix he] at ha hafter
  exact ⟨config, sourceProfile, destinationProfile, n, ha, hafter⟩

/-- What an instruction sent to the hook does. -/
theorem processHook_eq_ok {instruction : Instruction} :
    chain.processHook rt env instruction = .ok chain' ↔
      ∃ hook, Compliance.process rt env chain.hook instruction = .ok hook ∧
        { chain with hook } = chain' := by
  simp only [Chain.processHook, bind_eq_ok, mapError_eq_ok, pure, Except.pure, Except.ok.injEq]

/-- What an instruction sent to Token-2022 does to the hook: nothing, unless it
    is a transfer between two accounts, and that is admitted. This is the only
    theorem about Token-2022 that the limits on transfers need. -/
theorem processToken_eq_ok {instruction : TokenInstruction}
    (h : chain.processToken rt env instruction = .ok chain') :
    (Operation.transfer (.token instruction) = none ∧ chain'.hook = chain.hook) ∨
    ∃ e, Operation.transfer (.token instruction) = some e ∧ ∃ config source destination n,
      Admitted rt env chain.hook e config source destination n ∧
      chain'.hook = chain.hook.executed rt env e source n := by
  simp only [Chain.processToken, bind_eq_ok, require_eq_ok] at h
  rcases h with ⟨_, -, h⟩
  cases instruction with
  | transfer source destination authority amount mint =>
      simp only [transferWithHook, bind_eq_ok, okOr_eq_ok, Option.map_eq_some_iff, mapError_eq_ok]
        at h
      rcases h with ⟨key, ⟨⟨mintKey, decimals⟩, rfl, rfl⟩, tokens, htokens, h⟩
      -- A transfer to oneself is made without asking the hook.
      by_cases hself : source = destination
      · rw [if_pos hself] at h
        exact Or.inl ⟨if_pos hself, by rw [← Except.ok.inj h]⟩
      · simp only [if_neg hself, bind_eq_ok, pure, Except.pure, Except.ok.injEq] at h
        rcases h with ⟨hook, hinvoke, rfl⟩
        rcases invokeExecute_eq_ok hinvoke with
          ⟨config, sourceProfile, destinationProfile, n, ha, hafter⟩
        exact Or.inr ⟨_, if_neg hself, config, sourceProfile, destinationProfile, n, ha,
          hafter.symm⟩
  | _ =>
      simp only [bind_eq_ok, mapError_eq_ok, pure, Except.pure, Except.ok.injEq] at h
      rcases h with ⟨tokens, -, rfl⟩
      exact Or.inl ⟨rfl, rfl⟩

end Specifications

end Compliance

end Stablecoin

end SolanaLab
