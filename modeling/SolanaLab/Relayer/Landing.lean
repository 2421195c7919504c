import SolanaLab.Relayer.Bridge
import SolanaLab.Relayer.Pipeline
import SolanaLab.Settlement.Cancellation
import SolanaLab.Settlement.Clearing

/-!
# From Plans to the Ledger

What becomes of the relayer's plans on chain. The planner makes a transaction
out of a request to settle a fill or to cancel an order, the program reads its
last instruction, and the ledger decides.

A request is in order (`PlannedRequest.InOrder`) when its payloads, hashes and
signatures are, the slot is not past the orders and the market has the
relayer's authority. Of the ledger this reads the market only. The rest is up
to the market's book: a plan for a request in order goes through exactly when
the book takes it, and a plan for any other request never does (`land_book`).

The program finds the signatures where the planner has put them, and the
runtime has them verified. So nothing is left to say of the instructions of a
delivered plan (`precompilesVerified_settlement`, `signatures_of_delivers`).

Both directions of `land_book` are needed. That what the book takes goes
through makes a plan worth sending, and that what goes through is in the book
makes the book an account of the chain.

## Main definitions

* `PlannedRequest`: A request that the planner takes.
* `SettlementInstructionPlanner.plan`: The plan for a request.
* `Delivers`: The transaction of a plan, as the program sees it.
* `land`: What the transaction of a plan does.
* `PlannedRequest.InOrder`: A request is in order.

## Theorems

* `plan_asks`: What a plan asks the program for, and whom it asks to sign.
* `precompilesVerified_settlement`: When the runtime accepts the signatures.
* `land_settlement`, `land_cancellation`: When a plan goes through.
* `land_follows`: A plan does on chain what its request does to the book.
-/

namespace SolanaLab

namespace Relayer

open Checked Settlement

/-! ### Plans -/

/-- `relayer::CancelSignedOrderRequest`. -/
structure CancelSignedOrderRequest where
  trader : Pubkey
  baseMint : Pubkey
  quoteMint : Pubkey
  payer : Pubkey
  orderHash : Hash
  order : SignedOrderPayload
deriving DecidableEq

/-- `SettlementInstructionPlanner::plan_cancel_signed_order`. -/
def SettlementInstructionPlanner.planCancelSignedOrder (planner : SettlementInstructionPlanner)
    (rt : Runtime) (request : CancelSignedOrderRequest) : InstructionPlan where
  instructions := cancelSignedOrderFlowTransactionInstructions rt
    { trader := request.trader, baseMint := request.baseMint, quoteMint := request.quoteMint
      payer := request.payer }
    request.orderHash request.order planner.cancelComputeBudget
  requiredSigners := uniqueSigners [request.trader, request.payer]
  feePayer := request.payer

/-- The requests that the planner takes. -/
inductive PlannedRequest where
  | settlement (request : SignedSettlementRequest)
  | cancellation (request : CancelSignedOrderRequest)
deriving DecidableEq

/-- The plan for a request. -/
def SettlementInstructionPlanner.plan (planner : SettlementInstructionPlanner)
    (rt : ClientRuntime) : PlannedRequest → InstructionPlan
  | .settlement request => planner.planSignedSettlement rt request
  | .cancellation request => planner.planCancelSignedOrder rt.toRuntime request

/-- The transaction of a plan, as the program sees it from the last of its
    instructions: the runtime has made sure of the signers and refuses it for no
    reason of its own. Fees, the blockhash and the compute budget are such
    reasons, and the relayer hears of them as errors. -/
structure Delivers (env : Env) (plan : InstructionPlan) : Prop where
  instructions : env.instructions = plan.instructions.map TransactionInstruction.raw
  last : env.currentIndex + 1 = env.instructions.length
  signers : ∀ signer ∈ plan.requiredSigners, signer ∈ env.signers
  accepted : env.refused = false

/-- The accounts that a settlement is planned with. -/
def SignedSettlementRequest.accounts (request : SignedSettlementRequest) (rt : Runtime) :
    SettleSignedFill :=
  settleSignedFillAccounts rt
    (SignedSettlementFlowAccounts.toSettlementAccounts
      { settlementAuthority := request.settlementAuthority, baseMint := request.baseMint
        quoteMint := request.quoteMint, buyer := request.buyer, seller := request.seller
        payer := request.payer } rt) request.args

/-- The accounts that a cancellation is planned with. -/
def CancelSignedOrderRequest.accounts (request : CancelSignedOrderRequest) (rt : Runtime) :
    CancelSignedOrder :=
  cancelSignedOrderAccounts rt
    (CancelSignedOrderFlowAccounts.toCancelAccounts
      { trader := request.trader, baseMint := request.baseMint, quoteMint := request.quoteMint
        payer := request.payer } rt) request.orderHash

/-- The instruction that a plan asks the program for. -/
def PlannedRequest.instruction (rt : Runtime) : PlannedRequest → Instruction
  | .settlement request =>
    .settleSignedFill (request.accounts rt) request.args.settlementId request.args.buyerOrderHash
      request.args.sellerOrderHash request.args
  | .cancellation request =>
    .cancelSignedOrder (request.accounts rt) request.orderHash request.order

/-- What the transaction of a plan does. -/
def land (rt : Runtime) (world : World) (submission : Env × PlannedRequest) :
    Except ProgramError Unit × World :=
  step rt world (.invoke submission.1 (submission.2.instruction rt))

/-! ### What a plan asks for -/

/-- The two keys sign, once if they are one. -/
theorem mem_uniqueSigners {signer a b : Pubkey} :
    signer ∈ uniqueSigners [a, b] ↔ signer = a ∨ signer = b := by
  simp only [uniqueSigners, List.foldl_cons, List.foldl_nil, List.not_mem_nil, if_false,
    List.nil_append, List.mem_singleton]
  by_cases h : b = a
  · rw [if_pos h, h, List.mem_singleton, or_self]
  · rw [if_neg h, List.singleton_append, List.mem_cons, List.mem_singleton]

/-- No key is asked twice. -/
theorem nodup_uniqueSigners (a b : Pubkey) : (uniqueSigners [a, b]).Nodup := by
  simp only [uniqueSigners, List.foldl_cons, List.foldl_nil, List.not_mem_nil, if_false,
    List.nil_append, List.mem_singleton]
  by_cases h : b = a
  · rw [if_pos h]
    exact List.nodup_singleton a
  · rw [if_neg h, List.singleton_append, List.nodup_cons, List.mem_singleton]
    exact ⟨fun heq => h heq.symm, List.nodup_singleton b⟩

/-- A key that an instruction asks to sign. -/
def AskedToSign (instructions : List TransactionInstruction) (key : Pubkey) : Prop :=
  ∃ instruction ∈ instructions, ∃ account ∈ instruction.accounts,
    account.isSigner = true ∧ account.pubkey = key

section Plans

variable {rt : ClientRuntime}

/-- Signature instructions ask nobody to sign. -/
theorem accounts_newEd25519Instruction (hlayout : rt.LaysOut) (order : SignedOrderPayload)
    (signature : Settlement.Signature) (key : Pubkey) :
    (rt.newEd25519Instruction order.signingPreimage signature key).accounts = [] := by
  rw [hlayout]
  rw [length_signingPreimage]
  decide

/-- A plan asks the program for an instruction, which is its last. The keys that
    it names as signers are its fee payer and those that its instructions ask
    to sign, each of them once. -/
structure Asks (rt : Runtime) (plan : InstructionPlan) (instruction : Instruction) : Prop where
  last : plan.instructions.getLast?.bind (readInstruction rt) = some instruction
  signers : ∀ key, key ∈ plan.requiredSigners ↔
    key = plan.feePayer ∨ AskedToSign plan.instructions key
  nodup : plan.requiredSigners.Nodup

/-- A plan asks for the instruction of its request. Its signers are those of its
    accounts that are marked as signers and the fee payer, so no transaction of
    the relayer fails for want of a signature it could have named. -/
theorem plan_asks (hlayout : rt.LaysOut)
    (hdiscriminators : cancelSignedOrderDiscriminator rt.toRuntime
      ≠ settleSignedFillDiscriminator rt.toRuntime)
    (planner : SettlementInstructionPlanner) (request : PlannedRequest) :
    Asks rt.toRuntime (planner.plan rt request) (request.instruction rt.toRuntime) := by
  cases request with
  | settlement request =>
      refine ⟨readInstruction_settleSignedFill _ _ _, fun key => ?_, nodup_uniqueSigners _ _⟩
      have hbuyer := accounts_newEd25519Instruction hlayout request.args.buyerOrder
        request.args.buyerSignature request.buyer
      have hseller := accounts_newEd25519Instruction hlayout request.args.sellerOrder
        request.args.sellerSignature request.seller
      change key ∈ uniqueSigners [request.settlementAuthority, request.payer] ↔
        key = request.payer ∨ AskedToSign [setComputeUnitLimit _, setComputeUnitPrice _,
          rt.newEd25519Instruction _ _ _, rt.newEd25519Instruction _ _ _,
          settleSignedFillInstruction _ _ _] key
      simp only [AskedToSign, List.exists_mem_cons_iff, List.not_mem_nil, false_and, exists_false,
        or_false, hbuyer, hseller, setComputeUnitLimit, setComputeUnitPrice,
        settleSignedFillInstruction, SettleSignedFill.toAccountMetas, settleSignedFillAccounts,
        SignedSettlementFlowAccounts.toSettlementAccounts, Bool.false_eq_true, true_and, false_or]
      -- The payer is named first or second, and the authority is the other one.
      rw [mem_uniqueSigners]
      constructor
      · intro h
        exact h.symm.imp_right (fun h => Or.inl h.symm)
      · intro h
        rcases h with rfl | rfl | rfl
        · exact Or.inr rfl
        · exact Or.inl rfl
        · exact Or.inr rfl
  -- A cancellation is signed by the trader, and asks for no other signature than the
  -- payer's.
  | cancellation request =>
      refine ⟨readInstruction_cancelSignedOrder _ hdiscriminators _ _ _, fun key => ?_,
        nodup_uniqueSigners _ _⟩
      change key ∈ uniqueSigners [request.trader, request.payer] ↔
        key = request.payer ∨ AskedToSign [setComputeUnitLimit _, setComputeUnitPrice _,
          cancelSignedOrderInstruction _ _ _ _] key
      simp only [AskedToSign, List.exists_mem_cons_iff, List.not_mem_nil, false_and, exists_false,
        or_false, setComputeUnitLimit, setComputeUnitPrice, cancelSignedOrderInstruction,
        CancelSignedOrder.toAccountMetas, cancelSignedOrderAccounts,
        CancelSignedOrderFlowAccounts.toCancelAccounts, Bool.false_eq_true, true_and, false_or]
      rw [mem_uniqueSigners]
      constructor
      · intro h
        exact h.symm.imp_right (fun h => Or.inl h.symm)
      · intro h
        rcases h with rfl | rfl | rfl
        · exact Or.inr rfl
        · exact Or.inl rfl
        · exact Or.inr rfl

/-! ### Signatures -/

/-- The precompile accepts a signature instruction when the signature is valid. -/
theorem precompileVerified_newEd25519Instruction (hlayout : rt.LaysOut)
    (instructions : List RawInstruction) (order : SignedOrderPayload)
    (signature : Settlement.Signature) (key : Pubkey) :
    precompileVerified rt.toRuntime instructions
        (rt.newEd25519Instruction order.signingPreimage signature key).raw.data
      = rt.ed25519Verify key.bytes signature.bytes order.signingPreimage := by
  have hshort : order.signingPreimage.length < 2 ^ 16 := by
    rw [length_signingPreimage]
    decide
  have hverify := verify_newEd25519Instruction hlayout hshort signature key
  have hsignature : signature.bytes.length = 64 := length_leBytes 64 _
  rw [verifyEd25519Instruction_eq_ok instructions (length_pubkeyBytes key) hsignature] at hverify
  rcases hverify with ⟨-, -, hlength, hown, hparts⟩
  have htwo : 2 ≤ (rt.newEd25519Instruction order.signingPreimage signature key).raw.data.length :=
    le_trans (by decide) hlength
  have hcount : (1 : Byte).val = 1 := rfl
  -- The instruction announces one entry, and has room for it.
  simp only [precompileVerified, hown.count, hcount, one_ne_zero, false_implies, Nat.reduceMul,
    Nat.reduceAdd, decide_eq_true htwo, decide_eq_true hlength, decide_true, Bool.true_and,
    List.range_one, List.all_cons, List.all_nil, Bool.and_true, Nat.mul_zero, Nat.add_zero,
    entryVerified_eq, hparts, Option.map_some]
  cases rt.ed25519Verify key.bytes signature.bytes order.signingPreimage <;> rfl

/-- The runtime verifies every instruction of the precompile in a transaction. -/
theorem precompilesVerified_iff {env : Env} :
    env.precompilesVerified rt.toRuntime = true ↔ ∀ instruction ∈ env.instructions,
      instruction.programId = rt.ed25519Program →
        precompileVerified rt.toRuntime env.instructions instruction.data = true := by
  rw [Env.precompilesVerified, List.all_eq_true]
  refine forall₂_congr (fun instruction _ => ?_)
  rw [Bool.or_eq_true, bne_iff_ne, ne_eq, ← imp_iff_not_or]

/-- The runtime runs the transaction of a settlement when both signatures are
    valid. -/
theorem precompilesVerified_settlement (hlayout : rt.LaysOut)
    (hprograms : rt.ed25519Program ≠ computeBudgetId ∧ rt.ed25519Program ≠ spotSettlementId)
    {planner : SettlementInstructionPlanner} {request : SignedSettlementRequest} {env : Env}
    (hdelivers : Delivers env (planner.plan rt (.settlement request))) :
    env.precompilesVerified rt.toRuntime = true ↔
      rt.ed25519Verify request.buyer.bytes request.args.buyerSignature.bytes
          request.args.buyerOrder.signingPreimage = true ∧
        rt.ed25519Verify request.seller.bytes request.args.sellerSignature.bytes
          request.args.sellerOrder.signingPreimage = true := by
  have hshort : ∀ order : SignedOrderPayload, order.signingPreimage.length < 2 ^ 16 := by
    intro order
    rw [length_signingPreimage]
    decide
  -- The layout of a signature instruction puts it with the precompile, for messages this
  -- short.
  have hprogram : ∀ (order : SignedOrderPayload) signature key,
      (rt.newEd25519Instruction order.signingPreimage signature key).raw.programId
        = rt.ed25519Program := by
    intro order signature key
    rw [hlayout _ signature key (hshort order)]
    rfl
  have hbuyer := precompileVerified_newEd25519Instruction hlayout env.instructions
    request.args.buyerOrder request.args.buyerSignature request.buyer
  have hseller := precompileVerified_newEd25519Instruction hlayout env.instructions
    request.args.sellerOrder request.args.sellerSignature request.seller
  have hinstructions : env.instructions = [(setComputeUnitLimit _).raw, (setComputeUnitPrice _).raw,
    (rt.newEd25519Instruction _ _ request.buyer).raw,
    (rt.newEd25519Instruction _ _ request.seller).raw,
    (settleSignedFillInstruction _ _ _).raw] := hdelivers.instructions
  -- The precompile is asked by the two signature instructions only.
  rw [precompilesVerified_iff]
  constructor
  · intro h
    have hb := h (rt.newEd25519Instruction _ _ request.buyer).raw (by
      rw [hinstructions]
      exact List.mem_cons_of_mem _ (List.mem_cons_of_mem _ List.mem_cons_self)) (hprogram _ _ _)
    have hs := h (rt.newEd25519Instruction _ _ request.seller).raw (by
      rw [hinstructions]
      exact List.mem_cons_of_mem _ (List.mem_cons_of_mem _ (List.mem_cons_of_mem _
        List.mem_cons_self))) (hprogram _ _ _)
    rw [hbuyer] at hb
    rw [hseller] at hs
    exact ⟨hb, hs⟩
  · intro h instruction hinstruction hasked
    rw [hinstructions] at hinstruction
    simp only [List.mem_cons, List.not_mem_nil, or_false] at hinstruction
    rcases hinstruction with rfl | rfl | rfl | rfl | rfl
    · exact absurd hasked hprograms.1.symm
    · exact absurd hasked hprograms.1.symm
    · rw [hbuyer]
      exact h.1
    · rw [hseller]
      exact h.2
    · exact absurd hasked hprograms.2.symm

/-- The program finds both signatures where it looks for them. -/
theorem signatures_of_delivers (hlayout : rt.LaysOut) {planner : SettlementInstructionPlanner}
    {request : SignedSettlementRequest} {env : Env}
    (hdelivers : Delivers env (planner.plan rt (.settlement request))) :
    verifyPreviousEd25519Instruction rt.toRuntime env rt.instructionsSysvar (-2) request.buyer
        request.args.buyerSignature request.args.buyerOrder.signingPreimage = .ok () ∧
      verifyPreviousEd25519Instruction rt.toRuntime env rt.instructionsSysvar (-1) request.seller
        request.args.sellerSignature request.args.sellerOrder.signingPreimage = .ok () := by
  have hshort : ∀ order : SignedOrderPayload, order.signingPreimage.length < 2 ^ 16 := by
    intro order
    rw [length_signingPreimage]
    decide
  have htail : env.instructions = [(setComputeUnitLimit _).raw, (setComputeUnitPrice _).raw]
      ++ [(rt.newEd25519Instruction _ _ request.buyer).raw,
        (rt.newEd25519Instruction _ _ request.seller).raw,
        (settleSignedFillInstruction _ _ _).raw] := hdelivers.instructions
  rcases getInstructionRelative_tail rt.toRuntime htail hdelivers.last with ⟨hbuyer, hseller⟩
  exact ⟨bind_eq_ok.mpr ⟨_, hbuyer, verify_newEd25519Instruction hlayout (hshort _) _ _⟩,
    bind_eq_ok.mpr ⟨_, hseller, verify_newEd25519Instruction hlayout (hshort _) _ _⟩⟩

/-- The runtime has no signature to check in the transaction of a
    cancellation. -/
theorem precompilesVerified_cancellation
    (hprograms : rt.ed25519Program ≠ computeBudgetId ∧ rt.ed25519Program ≠ spotSettlementId)
    {planner : SettlementInstructionPlanner} {request : CancelSignedOrderRequest} {env : Env}
    (hdelivers : Delivers env (planner.plan rt (.cancellation request))) :
    env.precompilesVerified rt.toRuntime = true := by
  have hinstructions : env.instructions = [(setComputeUnitLimit _).raw, (setComputeUnitPrice _).raw,
    (cancelSignedOrderInstruction _ _ _ _).raw] := hdelivers.instructions
  have hother : ∀ instruction ∈ env.instructions, instruction.programId ≠ rt.ed25519Program := by
    rw [hinstructions]
    simp only [List.forall_mem_cons, List.not_mem_nil, false_implies, implies_true, and_true]
    exact ⟨hprograms.1.symm, hprograms.1.symm, hprograms.2.symm⟩
  rw [precompilesVerified_iff]
  exact fun instruction hinstruction hasked => absurd hasked (hother instruction hinstruction)

end Plans

/-! ### Requests in order -/

/-- The market at an address, if there is one. -/
def marketAt (world : World) (key : Pubkey) : Option MarketConfig :=
  (world.accounts.get? key).bind Account.marketConfig?

/-- The mints of the market that a request is for. -/
def PlannedRequest.mints : PlannedRequest → Pubkey × Pubkey
  | .settlement request => (request.baseMint, request.quoteMint)
  | .cancellation request => (request.baseMint, request.quoteMint)

/-- A request is in order at a slot, for the market there is. For a settlement
    these are the checks that read no balance and no fill: the payloads, the
    hashes, the rules, the expiry and the signatures. -/
def PlannedRequest.InOrder (rt : Runtime) (slot : Word 64) (config : Option MarketConfig) :
    PlannedRequest → Prop
  | .settlement request =>
    (∃ c, config = some c ∧ c.settlementAuthority = request.settlementAuthority) ∧
    Settleable rt (rt.address (.marketConfig request.baseMint request.quoteMint)) request ∧
    (slot.val ≤ request.args.buyerOrder.expirySlot.val ∧
      slot.val ≤ request.args.sellerOrder.expirySlot.val) ∧
    rt.ed25519Verify request.buyer.bytes request.args.buyerSignature.bytes
      request.args.buyerOrder.signingPreimage = true ∧
    rt.ed25519Verify request.seller.bytes request.args.sellerSignature.bytes
      request.args.sellerOrder.signingPreimage = true
  | .cancellation request =>
    (∃ c, config = some c) ∧
    validateCancelOrderPayload request.order
      (rt.address (.marketConfig request.baseMint request.quoteMint)) request.trader = .ok () ∧
    rt.sha256 request.order.signingPreimage = request.orderHash

/-- What a request asks of the book. -/
def PlannedRequest.asked : PlannedRequest → Clearing.Request CustodyAsset Pubkey Hash (Word 64)
  | .settlement request => .settle (request.args.trade request.buyer request.seller)
  | .cancellation request => .cancel request.orderHash

open Classical in
/-- What a submission asks of the book: nothing, if it is not in order. -/
noncomputable def bookRequest (rt : Runtime) (config : Option MarketConfig)
    (submission : Env × PlannedRequest) :
    Option (Clearing.Request CustodyAsset Pubkey Hash (Word 64)) :=
  if submission.2.InOrder rt submission.1.slot config then some submission.2.asked else none

/-- A request in order asks the book for what it asks. -/
theorem bookRequest_of_inOrder {rt : Runtime} {config : Option MarketConfig} {env : Env}
    {request : PlannedRequest} (h : request.InOrder rt env.slot config) :
    bookRequest rt config (env, request) = some request.asked := if_pos h

/-- And one that is not asks for nothing. -/
theorem bookRequest_of_not {rt : Runtime} {config : Option MarketConfig} {env : Env}
    {request : PlannedRequest} (h : ¬ request.InOrder rt env.slot config) :
    bookRequest rt config (env, request) = none := if_neg h

/-- The seeds of the accounts that a request is for. -/
def PlannedRequest.seeds (rt : Runtime) : PlannedRequest → List Seeds
  | .settlement request =>
    settlementSeeds request.baseMint request.quoteMint (request.accounts rt) request.args
  | .cancellation request =>
    cancellationSeeds request.baseMint request.quoteMint (request.accounts rt) request.orderHash

/-- The market at an address is the account there, if it is one of a market. -/
theorem marketAt_eq_some {world : World} {key : Pubkey} {config : MarketConfig} :
    marketAt world key = some config ↔
      world.accounts.get? key = some (.marketConfig config) := by
  rw [marketAt, Option.bind_eq_some_iff]
  constructor
  · intro h
    rcases h with ⟨account, hget, hkind⟩
    rw [hget, Account.marketConfig?_eq_some.mp hkind]
  · intro hget
    exact ⟨_, hget, rfl⟩

/-- The rules that a fill is checked by depend on the slot in one way: the
    orders must not be past theirs. -/
theorem rules_iff {args : SignedFillArgs} {slot : Word 64} :
    validateSignedFillRules args slot = .ok () ↔
      (∀ slot : Word 64, slot.val ≤ args.buyerOrder.expirySlot.val →
        slot.val ≤ args.sellerOrder.expirySlot.val → validateSignedFillRules args slot = .ok ()) ∧
      slot.val ≤ args.buyerOrder.expirySlot.val ∧ slot.val ≤ args.sellerOrder.expirySlot.val := by
  constructor
  · intro h
    rcases validateSignedFillRules_eq_ok.mp h with ⟨htraders, hslots, hrest⟩
    exact ⟨fun other hb hs => validateSignedFillRules_eq_ok.mpr ⟨htraders, ⟨hb, hs⟩, hrest⟩, hslots⟩
  · intro h
    exact h.1 slot h.2.1 h.2.2

section Landing

variable {rt : ClientRuntime} {planner : SettlementInstructionPlanner} {env : Env}
  {seeds : List Seeds} {world : World}

/-- An instruction of a delivered transaction goes through when the runtime
    accepts its signatures and its handler succeeds. -/
theorem step_isOk {rt : Runtime} {instruction : Instruction} (haccepted : env.refused = false) :
    (step rt world (.invoke env instruction)).1.isOk = true ↔
      env.precompilesVerified rt = true ∧
        ∃ world', process rt env world instruction = .ok world' := by
  by_cases hverified : env.precompilesVerified rt = true
  · have hruns : ¬ (env.refused = true ∨ env.precompilesVerified rt = false) := by
      rw [haccepted, hverified]
      decide
    rw [step, if_neg hruns]
    cases process rt env world instruction with
    | error e =>
        refine iff_of_false (by simp only [Except.isOk, Except.toBool, Bool.false_eq_true,
          not_false_eq_true]) (fun h => ?_)
        rcases h.2 with ⟨world', hp⟩
        exact absurd hp (by simp only [reduceCtorEq, not_false_eq_true])
    | ok world' => exact iff_of_true rfl ⟨hverified, world', rfl⟩
  · rw [step, if_pos (Or.inr (Bool.not_eq_true _ ▸ hverified))]
    exact iff_of_false (by simp only [Except.isOk, Except.toBool, Bool.false_eq_true,
      not_false_eq_true]) (fun h => hverified h.1)

/-- What a delivered transaction that goes through does. -/
theorem step_snd {rt : Runtime} {instruction : Instruction} (haccepted : env.refused = false)
    (hok : (step rt world (.invoke env instruction)).1.isOk = true) :
    process rt env world instruction = .ok (step rt world (.invoke env instruction)).2 := by
  rcases (step_isOk haccepted).mp hok with ⟨hverified, world', hp⟩
  have hruns : ¬ (env.refused = true ∨ env.precompilesVerified rt = false) := by
    rw [haccepted, hverified]
    decide
  rw [step, if_neg hruns, hp]

/-- What a transaction that fails does: nothing. -/
theorem step_of_not_isOk {rt : Runtime} {input : Input}
    (hfails : (step rt world input).1.isOk = false) : (step rt world input).2 = world := by
  rcases step_cases rt world input with ⟨e, hstep⟩ | ⟨ledger, -, hstep⟩ |
    ⟨env, instruction, world', -, -, -, hstep⟩
  · rw [hstep]
  · rw [hstep] at hfails
    exact absurd hfails Bool.true_eq_false.mp
  · rw [hstep] at hfails
    exact absurd hfails Bool.true_eq_false.mp

/-- The plan for a settlement goes through exactly when the request is in order
    and the book takes the trade. -/
theorem land_settlement (hlayout : rt.LaysOut)
    (hprograms : rt.ed25519Program ≠ computeBudgetId ∧ rt.ed25519Program ≠ spotSettlementId)
    (hsep : rt.Separates seeds) (hfinds : rt.Finds seeds) (hdefault : rt.AvoidsDefault seeds)
    (hkept : Kept rt.toRuntime seeds world) {request : SignedSettlementRequest}
    (hdelivers : Delivers env (planner.plan rt (.settlement request)))
    (hlisted : ∀ s ∈ (PlannedRequest.settlement request).seeds rt.toRuntime, s ∈ seeds) :
    (land rt.toRuntime world (env, .settlement request)).1.isOk = true ↔
      (PlannedRequest.settlement request).InOrder rt.toRuntime env.slot
        (marketAt world (rt.address (.marketConfig request.baseMint request.quoteMint))) ∧
      (world.book rt.toRuntime (rt.address (.marketConfig request.baseMint
        request.quoteMint))).Accepts (2 ^ 64)
          (request.args.trade request.buyer request.seller) := by
  have hderived := derived_toSettlementAccounts rt.toRuntime
    { settlementAuthority := request.settlementAuthority, baseMint := request.baseMint
      quoteMint := request.quoteMint, buyer := request.buyer, seller := request.seller
      payer := request.payer } request.args
  have hmarket := hderived.marketConfig
  have hsignatures := signatures_of_delivers hlayout hdelivers
  rw [land, step_isOk hdelivers.accepted,
    precompilesVerified_settlement hlayout hprograms hdelivers]
  constructor
  -- What the handler has found is what being in order means, and the book has accepted
  -- the trade.
  · intro h
    rcases h with ⟨hvalid, world', hp⟩
    rcases settleSignedFillHandler_ready hsep hdefault hkept hderived hlisted hp with
      ⟨hready, haccepts⟩
    rcases hready.market with ⟨config, hget, hauthority⟩
    rcases rules_iff.mp hready.rules with ⟨hrules, hslots⟩
    exact ⟨⟨⟨config, marketAt_eq_some.mpr hget, hauthority⟩, ⟨hready.price, hready.quantity,
      hready.buyerOrder, hready.sellerOrder, fun slot hb hs => hrules slot hb hs, hready.buyerHash,
      hready.sellerHash⟩, hslots, hvalid⟩, haccepts⟩
  -- Everything the handler checks is there: the accounts by their seeds, the rest by
  -- hypothesis.
  · intro h
    rcases h with ⟨⟨⟨config, hget, hauthority⟩, hsettles, hslots, hvalid⟩, haccepts⟩
    have hsigned : ∀ key, key = request.settlementAuthority ∨ key = request.payer →
        key ∈ env.signers := fun key hkey => hdelivers.signers key (mem_uniqueSigners.mpr hkey)
    refine ⟨hvalid, settleSignedFillHandler_of_ready hsep hfinds hdefault hkept hderived hlisted
      ⟨⟨hsigned _ (Or.inl rfl), hsigned _ (Or.inr rfl)⟩,
        ⟨config, marketAt_eq_some.mp hget, hauthority⟩, hsettles.price, hsettles.quantity,
        hsettles.buyerOrder, hsettles.sellerOrder, rules_iff.mpr ⟨hsettles.rules, hslots⟩,
        hsettles.buyerHash, hsettles.sellerHash, hsignatures⟩ haccepts⟩

/-- The plan for a cancellation goes through exactly when the request is in
    order. -/
theorem land_cancellation
    (hprograms : rt.ed25519Program ≠ computeBudgetId ∧ rt.ed25519Program ≠ spotSettlementId)
    (hsep : rt.Separates seeds) (hfinds : rt.Finds seeds) (hdefault : rt.AvoidsDefault seeds)
    (hkept : Kept rt.toRuntime seeds world) {request : CancelSignedOrderRequest}
    (hdelivers : Delivers env (planner.plan rt (.cancellation request)))
    (hlisted : ∀ s ∈ (PlannedRequest.cancellation request).seeds rt.toRuntime, s ∈ seeds) :
    (land rt.toRuntime world (env, .cancellation request)).1.isOk = true ↔
      (PlannedRequest.cancellation request).InOrder rt.toRuntime env.slot
        (marketAt world (rt.address (.marketConfig request.baseMint request.quoteMint))) := by
  have hderived : (request.accounts rt.toRuntime).Derived rt.toRuntime request.baseMint
      request.quoteMint request.orderHash := ⟨rfl, rfl⟩
  have hverified := precompilesVerified_cancellation hprograms hdelivers
  have hhandler : (∃ world', process rt.toRuntime env world
      ((PlannedRequest.cancellation request).instruction rt.toRuntime) = .ok world') ↔ _ :=
    cancelSignedOrderHandler_iff hsep hfinds hdefault hkept hderived hlisted
  rw [land, step_isOk hdelivers.accepted]
  constructor
  -- A cancellation that goes through has found its market, its payload and its hash.
  · intro h
    have hready := hhandler.mp h.2
    rcases hready.market with ⟨config, hget⟩
    exact ⟨⟨config, marketAt_eq_some.mpr hget⟩, hready.payload, hready.hash⟩
  · intro h
    rcases h with ⟨⟨config, hget⟩, hpayload, hhash⟩
    have hsigned : ∀ key, key = request.trader ∨ key = request.payer →
        key ∈ env.signers := fun key hkey => hdelivers.signers key (mem_uniqueSigners.mpr hkey)
    exact ⟨hverified, hhandler.mpr ⟨⟨hsigned _ (Or.inl rfl), hsigned _ (Or.inr rfl)⟩,
      ⟨config, marketAt_eq_some.mp hget⟩, hpayload, hhash⟩⟩

/-- The seeds of the instruction of a plan are seeds of its request. -/
theorem instruction_seeds {rt : Runtime} (request : PlannedRequest) :
    ∀ s ∈ (request.instruction rt).seeds, s ∈ request.seeds rt := by
  cases request with
  | settlement request =>
      exact fun s hs => List.mem_cons_of_mem _ (List.mem_cons_of_mem _ (List.mem_cons_of_mem _ hs))
  | cancellation request => exact fun s hs => List.mem_cons_of_mem _ hs

/-- All that a request asks of the book is listed. -/
theorem asked_listed {rt : Runtime} {request : PlannedRequest}
    (hlisted : ∀ s ∈ request.seeds rt, s ∈ seeds) :
    request.asked.Listed
      (fun trader => .traderBalance
        (rt.address (.marketConfig request.mints.1 request.mints.2)) trader ∈ seeds)
      (fun orderHash => .orderFillState
        (rt.address (.marketConfig request.mints.1 request.mints.2)) orderHash ∈ seeds)
      (fun settlementId => .settlementReceipt
        (rt.address (.marketConfig request.mints.1 request.mints.2)) settlementId ∈ seeds) := by
  cases request with
  | cancellation request => exact hlisted _ (List.mem_cons_of_mem _ List.mem_cons_self)
  | settlement request =>
      simp only [PlannedRequest.seeds, settlementSeeds, List.forall_mem_cons, List.not_mem_nil,
        false_implies, implies_true, and_true] at hlisted
      rcases hlisted with ⟨-, hbuyer, hseller, hreceipt, hbhash, hshash⟩
      refine ⟨fun asset => ?_, fun asset => ?_, fun orderHash hnames => ?_, hreceipt⟩
      · cases asset with
        | base => exact hseller
        | quote => exact hbuyer
      · cases asset with
        | base => exact hbuyer
        | quote => exact hseller
      · rcases trade_names.mp hnames with rfl | rfl
        · exact hbhash
        · exact hshash

/-- A planned instruction leaves the markets alone. -/
theorem land_marketAt {rt : Runtime} (world : World) (submission : Env × PlannedRequest)
    (key : Pubkey) : marketAt (land rt world submission).2 key = marketAt world key := by
  rcases step_cases rt world (.invoke submission.1 (submission.2.instruction rt)) with
    ⟨e, hstep⟩ | ⟨ledger, hinput, -⟩ | ⟨env, instruction, world', hinput, -, hp, hstep⟩
  · rw [land, hstep]
  · exact absurd hinput (by simp only [reduceCtorEq, not_false_eq_true])
  · rw [land, hstep]
    rw [Input.invoke.injEq] at hinput
    -- Neither instruction that is planned writes a market.
    have hwrites : ∀ config, instruction.writes (.marketConfig config) = false := by
      intro config
      rw [← hinput.2]
      cases submission.2 <;> rfl
    refine Option.ext (fun config => ?_)
    rw [marketAt_eq_some, marketAt_eq_some]
    exact process_frame hp (hwrites config) key

/-- A plan does on chain what its request does to the book of its market, if it
    is in order, and nothing otherwise. -/
theorem land_book (hlayout : rt.LaysOut)
    (hprograms : rt.ed25519Program ≠ computeBudgetId ∧ rt.ed25519Program ≠ spotSettlementId)
    (hsep : rt.Separates seeds) (hfinds : rt.Finds seeds) (hdefault : rt.AvoidsDefault seeds)
    (hkept : Kept rt.toRuntime seeds world) {request : PlannedRequest}
    (hdelivers : Delivers env (planner.plan rt request))
    (hlisted : ∀ s ∈ request.seeds rt.toRuntime, s ∈ seeds) :
    let market := rt.address (.marketConfig request.mints.1 request.mints.2)
    let asked := bookRequest rt.toRuntime (marketAt world market) (env, request)
    let answer := Clearing.stepIf (2 ^ 64) (world.book rt.toRuntime market) asked
    (land rt.toRuntime world (env, request)).1.isOk = answer.1 ∧
      Shows rt.toRuntime seeds market (land rt.toRuntime world (env, request)).2 answer.2 := by
  intro market asked answer
  -- What fails changes nothing, and the book is not asked or does not take it.
  have hfails : (land rt.toRuntime world (env, request)).1.isOk = false →
      answer = (false, world.book rt.toRuntime market) →
      (land rt.toRuntime world (env, request)).1.isOk = answer.1 ∧
        Shows rt.toRuntime seeds market (land rt.toRuntime world (env, request)).2 answer.2 := by
    intro hfail hanswer
    rw [hanswer, hfail]
    have hsame : (land rt.toRuntime world (env, request)).2 = world := step_of_not_isOk hfail
    rw [hsame]
    exact ⟨rfl, Clearing.Agree.refl _ _ _ _⟩
  have hanswers : ∀ r, asked = r →
      answer = Clearing.stepIf (2 ^ 64) (world.book rt.toRuntime market) r :=
    fun r hr => congrArg (Clearing.stepIf _ _) hr
  cases request with
  | settlement request =>
      have hland := land_settlement hlayout hprograms hsep hfinds hdefault hkept hdelivers hlisted
      have hderived := derived_toSettlementAccounts rt.toRuntime
        { settlementAuthority := request.settlementAuthority, baseMint := request.baseMint
          quoteMint := request.quoteMint, buyer := request.buyer, seller := request.seller
          payer := request.payer } request.args
      by_cases hok : (land rt.toRuntime world (env, .settlement request)).1.isOk = true
      -- What lands was in order, and the book takes it.
      · rcases hland.mp hok with ⟨hin, haccepts⟩
        have hshows := settleSignedFillHandler_shows hsep hdefault hkept hderived hlisted
          (step_snd hdelivers.accepted hok)
        rw [(hanswers _ (bookRequest_of_inOrder hin)).trans
          (Clearing.step_settle_of_accepts haccepts), hok]
        exact ⟨rfl, hshows⟩
      · refine hfails (Bool.not_eq_true _ ▸ hok) ?_
        by_cases hin : (PlannedRequest.settlement request).InOrder rt.toRuntime env.slot
            (marketAt world market)
        · exact (hanswers _ (bookRequest_of_inOrder hin)).trans
            (Clearing.step_settle_of_not (fun haccepts => hok (hland.mpr ⟨hin, haccepts⟩)))
        · exact hanswers _ (bookRequest_of_not hin)
  -- A cancellation in order always lands, and the book takes every cancellation.
  | cancellation request =>
      have hland := land_cancellation hprograms hsep hfinds hdefault hkept hdelivers hlisted
      by_cases hok : (land rt.toRuntime world (env, .cancellation request)).1.isOk = true
      · have hshows := cancelSignedOrderHandler_shows hsep hdefault hkept ⟨rfl, rfl⟩ hlisted
          (step_snd hdelivers.accepted hok)
        rw [hanswers _ (bookRequest_of_inOrder (hland.mp hok)), hok]
        exact ⟨rfl, hshows⟩
      · refine hfails (Bool.not_eq_true _ ▸ hok) ?_
        exact hanswers _ (bookRequest_of_not (fun hin => hok (hland.mpr hin)))

/-- The same from any book that the world shows. Everything else that has to
    hold of the world still does. -/
theorem land_follows (hlayout : rt.LaysOut)
    (hprograms : rt.ed25519Program ≠ computeBudgetId ∧ rt.ed25519Program ≠ spotSettlementId)
    (hsep : rt.Separates seeds) (hfinds : rt.Finds seeds) (hdefault : rt.AvoidsDefault seeds)
    (hkept : Kept rt.toRuntime seeds world) {submission : Env × PlannedRequest}
    {market : Pubkey} (hmarket : rt.address (.marketConfig submission.2.mints.1
      submission.2.mints.2) = market)
    (hdelivers : Delivers submission.1 (planner.plan rt submission.2))
    (hlisted : ∀ s ∈ submission.2.seeds rt.toRuntime, s ∈ seeds)
    {book : Clearing.Book CustodyAsset Pubkey Hash (Word 64)}
    (hshows : Shows rt.toRuntime seeds market world book) :
    let asked := bookRequest rt.toRuntime (marketAt world market) submission
    (land rt.toRuntime world submission).1.isOk = (Clearing.stepIf (2 ^ 64) book asked).1 ∧
      Kept rt.toRuntime seeds (land rt.toRuntime world submission).2 ∧
      Shows rt.toRuntime seeds market (land rt.toRuntime world submission).2
        (Clearing.stepIf (2 ^ 64) book asked).2 := by
  intro asked
  have hland := land_book hlayout hprograms hsep hfinds hdefault hkept hdelivers hlisted
  have hrequest := asked_listed hlisted
  simp only [hmarket] at hland hrequest
  -- What is asked is about accounts whose seeds are listed, so both books agree on it.
  have hasked : ∀ request, asked = some request → request.Listed
      (fun trader => Seeds.traderBalance market trader ∈ seeds)
      (fun orderHash => Seeds.orderFillState market orderHash ∈ seeds)
      (fun settlementId => Seeds.settlementReceipt market settlementId ∈ seeds) := by
    intro request hsome
    by_cases hin : submission.2.InOrder rt.toRuntime submission.1.slot (marketAt world market)
    · have hgiven : asked = _ := bookRequest_of_inOrder hin
      rw [hgiven] at hsome
      rw [← Option.some.inj hsome]
      exact hrequest
    · have hnone : asked = none := bookRequest_of_not hin
      rw [hnone] at hsome
      exact absurd hsome (by simp only [reduceCtorEq, not_false_eq_true])
  have hbooks : (Clearing.stepIf (2 ^ 64) (world.book rt.toRuntime market) asked).1 = _ ∧ _ :=
    Clearing.agree_stepIf hshows hasked
  refine ⟨hland.1.trans hbooks.1, ?_, hland.2.trans hbooks.2⟩
  exact step_kept hsep (fun s hs => hlisted s (instruction_seeds submission.2 s hs)) hkept

end Landing

end Relayer

end SolanaLab
