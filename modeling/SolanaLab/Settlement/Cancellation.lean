import SolanaLab.Settlement.Client

/-!
# Cancellations by the Client

The client's side of `cancel_signed_order`, after that of `settle_signed_fill`:
an instruction behind whatever comes first in its transaction, and the
program's reading of it. `readInstruction` is the program's entry for both.

A cancellation is sent by the trader alone and carries the whole order, of
which the program recomputes the hash. No signature instruction goes with it:
that the trader signed the transaction is enough, and so there is nothing here
of the order in which instructions stand.

## Main definitions

* `CancelSignedOrderInstructionBuilder`: A transaction in the making.
* `cancelSignedOrderInstruction`: The cancellation, as bytes and accounts.
* `readInstruction`: The instruction that the program is asked for.

## Theorems

* `readInstruction_settleSignedFill`, `readInstruction_cancelSignedOrder`: The
  program reads what was written.
-/

namespace SolanaLab

namespace Settlement

open Checked

/-! ### The client's instructions -/

/-- The accounts a client names for a cancellation; the rest is derived from
    them. -/
structure CancelSignedOrderAccounts where
  trader : Pubkey
  marketConfig : Pubkey
  payer : Pubkey
deriving DecidableEq

/-- The same with the two mints in place of the market's address, for callers
    that know the market by what it trades. -/
structure CancelSignedOrderFlowAccounts where
  trader : Pubkey
  baseMint : Pubkey
  quoteMint : Pubkey
  payer : Pubkey
deriving DecidableEq

namespace CancelSignedOrderFlowAccounts

/-- `CancelSignedOrderFlowAccounts::market_config`: the address derived from
    both mints, base first. -/
def marketConfig (accounts : CancelSignedOrderFlowAccounts) (rt : Runtime) : Pubkey :=
  (marketConfigPda rt accounts.baseMint accounts.quoteMint).1

/-- `CancelSignedOrderFlowAccounts::to_cancel_accounts`, with the market's
    address worked out. -/
def toCancelAccounts (accounts : CancelSignedOrderFlowAccounts) (rt : Runtime) :
    CancelSignedOrderAccounts where
  trader := accounts.trader
  marketConfig := accounts.marketConfig rt
  payer := accounts.payer

end CancelSignedOrderFlowAccounts

/-- `spot_settlement::instruction::CancelSignedOrder`: the arguments. -/
structure CancelSignedOrderData where
  orderHash : Hash
  order : SignedOrderPayload
deriving DecidableEq

/-- How the arguments are encoded. The record knows that reading gives back what
    was written, and the proofs about the entry need no more. -/
def CancelSignedOrderData.borsh : Borsh CancelSignedOrderData :=
  .record (bytes32Borsh.pair SignedOrderPayload.borsh) (fun data => (data.orderHash, data.order))
    (fun (orderHash, order) => { orderHash, order }) (fun _ => rfl)

/-- The discriminator of `cancel_signed_order`: the first eight bytes of the
    hash of `global:cancel_signed_order`. -/
def cancelSignedOrderDiscriminator (rt : Runtime) : List Byte :=
  (Hash.bytes (rt.sha256 [103, 108, 111, 98, 97, 108, 58, 99, 97, 110, 99, 101, 108, 95, 115, 105,
    103, 110, 101, 100, 95, 111, 114, 100, 101, 114])).take 8

/-- `InstructionData::data`. -/
def CancelSignedOrderData.data (rt : Runtime) (data : CancelSignedOrderData) : List Byte :=
  cancelSignedOrderDiscriminator rt ++ CancelSignedOrderData.borsh.write data

/-- `to_account_metas`: the accounts in the order of their declaration, each
    with the flags that its declaration asks for. -/
def CancelSignedOrder.toAccountMetas (ctx : CancelSignedOrder) (systemProgram : Pubkey) :
    List AccountMeta :=
  [⟨ctx.trader, true, false⟩, ⟨ctx.marketConfig, false, false⟩, ⟨ctx.orderFillState, false, true⟩,
    ⟨ctx.payer, true, true⟩, ⟨systemProgram, false, false⟩]

/-- The accounts that a cancellation is sent with. The fill state's address
    follows from the market and the hash. -/
def cancelSignedOrderAccounts (rt : Runtime) (accounts : CancelSignedOrderAccounts)
    (orderHash : Hash) : CancelSignedOrder where
  trader := accounts.trader
  marketConfig := accounts.marketConfig
  orderFillState := (orderFillStatePda rt accounts.marketConfig orderHash).1
  payer := accounts.payer

/-- `cancel_signed_order_instruction`: program, accounts and data as the runtime
    will hand them to the program's entry. -/
def cancelSignedOrderInstruction (rt : Runtime) (accounts : CancelSignedOrderAccounts)
    (orderHash : Hash) (order : SignedOrderPayload) : TransactionInstruction where
  programId := spotSettlementId
  accounts := (cancelSignedOrderAccounts rt accounts orderHash).toAccountMetas systemProgramId
  data := CancelSignedOrderData.data rt { orderHash, order }

/-- What comes before the cancellation in its transaction. -/
structure CancelSignedOrderInstructionBuilder where
  prefixInstructions : List TransactionInstruction
deriving DecidableEq

namespace CancelSignedOrderInstructionBuilder

/-- `CancelSignedOrderInstructionBuilder::new`. -/
def new : CancelSignedOrderInstructionBuilder := ⟨[]⟩

/-- `with_prefix_instruction`. Instructions stay in the order in which they are
    added. -/
def withPrefixInstruction (builder : CancelSignedOrderInstructionBuilder)
    (instruction : TransactionInstruction) : CancelSignedOrderInstructionBuilder :=
  ⟨builder.prefixInstructions ++ [instruction]⟩

/-- `with_compute_unit_limit`. -/
def withComputeUnitLimit (builder : CancelSignedOrderInstructionBuilder) (units : Word 32) :
    CancelSignedOrderInstructionBuilder :=
  builder.withPrefixInstruction (setComputeUnitLimit units)

/-- `with_compute_unit_price`. -/
def withComputeUnitPrice (builder : CancelSignedOrderInstructionBuilder)
    (microLamports : Word 64) : CancelSignedOrderInstructionBuilder :=
  builder.withPrefixInstruction (setComputeUnitPrice microLamports)

/-- `with_compute_budget`: the limit first, then the price. -/
def withComputeBudget (builder : CancelSignedOrderInstructionBuilder) (units : Word 32)
    (microLamports : Word 64) : CancelSignedOrderInstructionBuilder :=
  (builder.withComputeUnitLimit units).withComputeUnitPrice microLamports

/-- `with_compute_budget_preset`. -/
def withComputeBudgetPreset (builder : CancelSignedOrderInstructionBuilder)
    (preset : ComputeBudgetPreset) : CancelSignedOrderInstructionBuilder :=
  builder.withComputeBudget preset.unitLimit preset.microLamports

/-- `build`. The cancellation comes last, after everything that was added. -/
def build (builder : CancelSignedOrderInstructionBuilder) (rt : Runtime)
    (accounts : CancelSignedOrderAccounts) (orderHash : Hash) (order : SignedOrderPayload) :
    List TransactionInstruction :=
  builder.prefixInstructions ++ [cancelSignedOrderInstruction rt accounts orderHash order]

/-- `build_for_market`, which is `build` with the accounts worked out. -/
def buildForMarket (builder : CancelSignedOrderInstructionBuilder) (rt : Runtime)
    (accounts : CancelSignedOrderFlowAccounts) (orderHash : Hash) (order : SignedOrderPayload) :
    List TransactionInstruction :=
  builder.build rt (accounts.toCancelAccounts rt) orderHash order

end CancelSignedOrderInstructionBuilder

/-- `cancel_signed_order_flow_transaction_instructions`, the function the
    relayer's planner calls. -/
def cancelSignedOrderFlowTransactionInstructions (rt : Runtime)
    (accounts : CancelSignedOrderFlowAccounts) (orderHash : Hash) (order : SignedOrderPayload)
    (computeBudget : ComputeBudgetPreset) : List TransactionInstruction :=
  (CancelSignedOrderInstructionBuilder.new.withComputeBudgetPreset computeBudget).buildForMarket
    rt accounts orderHash order

/-! ### The program's entry -/

/-- `CancelSignedOrder::try_accounts`, as far as it takes the accounts one after
    the other. What it then checks of their contents is in the handler. -/
def CancelSignedOrder.tryAccounts : List AccountMeta → Option CancelSignedOrder
  | trader :: market :: fillState :: payer :: systemProgram :: _ =>
    -- The flags of the declaration; that the keys did sign is a matter of the
    -- transaction.
    if trader.isSigner ∧ fillState.isWritable ∧ payer.isSigner ∧ payer.isWritable ∧
        systemProgram.pubkey = systemProgramId then
      some
        { trader := trader.pubkey, marketConfig := market.pubkey
          orderFillState := fillState.pubkey, payer := payer.pubkey }
    else none
  | _ => none

/-- The program's entry, for `cancel_signed_order`: discriminator, arguments,
    accounts. What follows the arguments in the data is ignored. -/
def cancelEntry (rt : Runtime) (instruction : TransactionInstruction) : Option Instruction :=
  if instruction.programId = spotSettlementId ∧
      instruction.data.take 8 = cancelSignedOrderDiscriminator rt then do
    let (data, _) ← CancelSignedOrderData.borsh.read (instruction.data.drop 8)
    let ctx ← CancelSignedOrder.tryAccounts instruction.accounts
    return .cancelSignedOrder ctx data.orderHash data.order
  else none

/-- The program's entry, for the two instructions that the client sends: the
    discriminator says which one is asked for, and the first that fits is taken. -/
def readInstruction (rt : Runtime) (instruction : TransactionInstruction) : Option Instruction :=
  if instruction.data.take 8 = settleSignedFillDiscriminator rt then entry rt instruction
  else cancelEntry rt instruction

/-! ### The program reads what was written -/

/-- Both discriminators are eight bytes, so that the arguments start at the
    ninth. -/
theorem length_discriminators (rt : Runtime) :
    (settleSignedFillDiscriminator rt).length = 8 ∧
      (cancelSignedOrderDiscriminator rt).length = 8 := by
  rw [settleSignedFillDiscriminator, cancelSignedOrderDiscriminator, List.length_take,
    List.length_take, length_hashBytes, length_hashBytes]
  exact ⟨rfl, rfl⟩

/-- The entry reads a settlement that the client has written, with the accounts
    and the arguments that went into it. -/
theorem readInstruction_settleSignedFill (rt : Runtime) (accounts : SignedSettlementAccounts)
    (args : SignedFillArgs) :
    readInstruction rt (settleSignedFillInstruction rt accounts args)
      = some (.settleSignedFill (settleSignedFillAccounts rt accounts args) args.settlementId
        args.buyerOrderHash args.sellerOrderHash args) := by
  rw [readInstruction, if_pos, entry_settleSignedFillInstruction]
  rw [settleSignedFillInstruction, SettleSignedFillData.data,
    List.take_left' (length_discriminators rt).1]

/-- The entry reads a cancellation that the client has written. The two
    discriminators must differ, which for a hash that is a parameter has to be
    assumed. -/
theorem readInstruction_cancelSignedOrder (rt : Runtime)
    (hdiscriminators : cancelSignedOrderDiscriminator rt ≠ settleSignedFillDiscriminator rt)
    (accounts : CancelSignedOrderAccounts) (orderHash : Hash) (order : SignedOrderPayload) :
    readInstruction rt (cancelSignedOrderInstruction rt accounts orderHash order)
      = some (.cancelSignedOrder (cancelSignedOrderAccounts rt accounts orderHash) orderHash
        order) := by
  have hlength := (length_discriminators rt).2
  have htake : (cancelSignedOrderInstruction rt accounts orderHash order).data.take 8
      = cancelSignedOrderDiscriminator rt := by
    rw [cancelSignedOrderInstruction, CancelSignedOrderData.data, List.take_left' hlength]
  have hdrop : (cancelSignedOrderInstruction rt accounts orderHash order).data.drop 8
      = CancelSignedOrderData.borsh.write { orderHash, order } := by
    rw [cancelSignedOrderInstruction, CancelSignedOrderData.data, List.drop_left' hlength]
  rw [readInstruction, htake, if_neg hdiscriminators, cancelEntry, htake, hdrop,
    if_pos ⟨rfl, rfl⟩, Borsh.read_self]
  rfl

end Settlement

end SolanaLab
