import SolanaLab.Library.Borsh
import SolanaLab.Settlement.SignatureCheck

/-!
# The Settlement Client

The client builds the transactions that the settlement program is sent: two
signature instructions and the settlement behind them, after whatever comes
first.

Client and program have the same layout written down twice. The client lists
the seeds of addresses, puts the instructions in order and writes the
arguments; the program lists seeds in the constraints of its accounts, looks
at the instructions before its own and reads the arguments. `entry` is the
program's side: it reads a settlement out of an instruction as bytes and
accounts. `buildForMarket_agrees` says that what the client has written is
read back, that the signatures are found where the program looks, and that the
accounts are those of the constraints.

Signature instructions are made by another crate. `LaysOut` is what the client
relies on: a header of sixteen bytes, then key, signature and message.

What goes first in a transaction does not matter to the program, since it looks
at the two instructions right before its own. That is why the result is stated
for every builder and so for every list of instructions in front.

## Main definitions

* `TransactionInstruction`: An instruction as a client builds it.
* `SignedSettlementInstructionBuilder`: A transaction in the making.
* `settleSignedFillInstruction`: The settlement, as bytes and accounts.
* `entry`: The settlement that the program reads out of an instruction.
* `SettleSignedFill.Derived`: The accounts are those of the constraints.
* `Agrees`: What client and program agree on.

## Theorems

* `verify_newEd25519Instruction`: A signature instruction passes the check.
* `entry_settleSignedFillInstruction`: The program reads what was written.
* `loadSettlementAccounts_of_derived`: Derived accounts pass the constraints.
* `buildForMarket_agrees`: Client and program agree.
-/

namespace SolanaLab

namespace Settlement

open Checked

/-! ### Instructions and programs -/

/-- `AccountMeta`: an account of an instruction with its two flags. -/
structure AccountMeta where
  pubkey : Pubkey
  isSigner : Bool
  isWritable : Bool
deriving DecidableEq

/-- `Instruction`, as a client builds it. The flags of its accounts are part of
    it, which the sysvar does not show. -/
structure TransactionInstruction where
  programId : Pubkey
  accounts : List AccountMeta
  data : List Byte
deriving DecidableEq

/-- An instruction as the instructions sysvar shows it: what other instructions
    of the transaction can see. -/
def TransactionInstruction.raw (instruction : TransactionInstruction) : RawInstruction where
  programId := instruction.programId
  accounts := instruction.accounts.map AccountMeta.pubkey
  data := instruction.data

/-- `spot_settlement::id`, the address under which the program is deployed. -/
def spotSettlementId : Pubkey := 0x624e98156b59e578a83697891e244665b227728b8fb50d284d46ccfea3424b0

/-- `system_program::ID`, whose bytes are all zero. -/
def systemProgramId : Pubkey := 0

/-- `solana_compute_budget_interface::id`. -/
def computeBudgetId : Pubkey := 0x403a9b432c6b12f7c5bbe58cbce79bc372baadecff321721e56f460603

/-- `ComputeBudgetInstruction::set_compute_unit_limit`: a tag and the number. -/
def setComputeUnitLimit (units : Word 32) : TransactionInstruction :=
  ⟨computeBudgetId, [], 2 :: leBytes 4 units.val⟩

/-- `ComputeBudgetInstruction::set_compute_unit_price`: a tag and the number. -/
def setComputeUnitPrice (microLamports : Word 64) : TransactionInstruction :=
  ⟨computeBudgetId, [], 3 :: leBytes 8 microLamports.val⟩

/-- What the client uses besides the runtime. The function that builds signature
    instructions belongs to another crate and is a parameter. -/
structure ClientRuntime extends Runtime where
  /-- `new_ed25519_instruction_with_signature`: message, signature and key. -/
  newEd25519Instruction : List Byte → Signature → Pubkey → TransactionInstruction

/-- Signature instructions have one entry of their own: a header, then the key
    at 16, the signature at 48 and the message at 112. It is asked for messages
    whose length fits the field of the header. -/
def ClientRuntime.LaysOut (rt : ClientRuntime) : Prop :=
  ∀ message signature key, message.length < 2 ^ 16 →
    rt.newEd25519Instruction message signature key =
      { programId := rt.ed25519Program
        accounts := []
        data := [1, 0, 48, 0, 255, 255, 16, 0, 255, 255, 112, 0] ++ leBytes 2 message.length
          ++ [255, 255] ++ key.bytes ++ signature.bytes ++ message }

/-! ### Borsh -/

/-- Numbers of 64 bits, written with the lowest byte first. -/
def u64Borsh : Borsh (Word 64) := .word 8 64 rfl

/-- Keys and hashes. -/
def bytes32Borsh : Borsh (Word 256) := .word 32 256 rfl

/-- Signatures, as the array of bytes that they are. -/
def signatureBorsh : Borsh Signature := .word 64 512 rfl

/-- A side is one byte, the number of its variant. Any other byte is refused. -/
def SignedOrderSide.borsh : Borsh SignedOrderSide :=
  .tag (fun
      | .bid => 0
      | .ask => 1)
    (fun byte => if byte = 0 then some .bid else if byte = 1 then some .ask else none)
    (fun side => by cases side <;> rfl)

/-- An order, field after field as declared. -/
def SignedOrderPayload.borsh : Borsh SignedOrderPayload :=
  .record (u64Borsh.pair (bytes32Borsh.pair (bytes32Borsh.pair (SignedOrderSide.borsh.pair
      (u64Borsh.pair (u64Borsh.pair (u64Borsh.pair u64Borsh)))))))
    (fun order => (order.orderId, order.marketConfig, order.trader, order.side, order.price,
      order.quantity, order.nonce, order.expirySlot))
    (fun (orderId, marketConfig, trader, side, price, quantity, nonce, expirySlot) =>
      { orderId, marketConfig, trader, side, price, quantity, nonce, expirySlot })
    (fun _ => rfl)

/-- The arguments, with both orders inside. -/
def SignedFillArgs.borsh : Borsh SignedFillArgs :=
  .record (u64Borsh.pair (u64Borsh.pair (u64Borsh.pair (bytes32Borsh.pair (bytes32Borsh.pair
      (SignedOrderPayload.borsh.pair (signatureBorsh.pair (SignedOrderPayload.borsh.pair
        signatureBorsh))))))))
    (fun args => (args.settlementId, args.fillPrice, args.fillQuantity, args.buyerOrderHash,
      args.sellerOrderHash, args.buyerOrder, args.buyerSignature, args.sellerOrder,
      args.sellerSignature))
    (fun (settlementId, fillPrice, fillQuantity, buyerOrderHash, sellerOrderHash, buyerOrder,
        buyerSignature, sellerOrder, sellerSignature) =>
      { settlementId, fillPrice, fillQuantity, buyerOrderHash, sellerOrderHash, buyerOrder,
        buyerSignature, sellerOrder, sellerSignature })
    (fun _ => rfl)

/-- `spot_settlement::instruction::SettleSignedFill`: the arguments of the
    instruction, three of which the framework needs for the seeds of accounts. -/
structure SettleSignedFillData where
  settlementId : Word 64
  buyerOrderHash : Hash
  sellerOrderHash : Hash
  args : SignedFillArgs
deriving DecidableEq

/-- The arguments one after another, in the order of the function's parameters. -/
def SettleSignedFillData.borsh : Borsh SettleSignedFillData :=
  .record (u64Borsh.pair (bytes32Borsh.pair (bytes32Borsh.pair SignedFillArgs.borsh)))
    (fun data => (data.settlementId, data.buyerOrderHash, data.sellerOrderHash, data.args))
    (fun (settlementId, buyerOrderHash, sellerOrderHash, args) =>
      { settlementId, buyerOrderHash, sellerOrderHash, args })
    (fun _ => rfl)

/-- The discriminator of `settle_signed_fill`: the first eight bytes of the
    hash of `global:settle_signed_fill`. -/
def settleSignedFillDiscriminator (rt : Runtime) : List Byte :=
  (Hash.bytes (rt.sha256 [103, 108, 111, 98, 97, 108, 58, 115, 101, 116, 116, 108, 101, 95, 115,
    105, 103, 110, 101, 100, 95, 102, 105, 108, 108])).take 8

/-- `InstructionData::data`: which instruction is meant, then its arguments. -/
def SettleSignedFillData.data (rt : Runtime) (data : SettleSignedFillData) : List Byte :=
  settleSignedFillDiscriminator rt ++ SettleSignedFillData.borsh.write data

/-- `to_account_metas`: the accounts in the order of their declaration, each
    with the flags that its declaration asks for. -/
def SettleSignedFill.toAccountMetas (ctx : SettleSignedFill) (systemProgram : Pubkey) :
    List AccountMeta :=
  [⟨ctx.settlementAuthority, true, false⟩, ⟨ctx.marketConfig, false, false⟩,
    ⟨ctx.buyer, false, false⟩, ⟨ctx.seller, false, false⟩, ⟨ctx.buyerBalance, false, true⟩,
    ⟨ctx.sellerBalance, false, true⟩, ⟨ctx.buyerOrderFillState, false, true⟩,
    ⟨ctx.sellerOrderFillState, false, true⟩, ⟨ctx.settlementReceipt, false, true⟩,
    ⟨ctx.payer, true, true⟩, ⟨ctx.instructionsSysvar, false, false⟩,
    ⟨systemProgram, false, false⟩]

/-- `SettleSignedFill::try_accounts`, as far as it takes the accounts one after
    the other: signers have signed, mutable accounts are writable and the last
    one is the system program. -/
def SettleSignedFill.tryAccounts : List AccountMeta → Option SettleSignedFill
  | authority :: market :: buyer :: seller :: buyerBalance :: sellerBalance :: buyerFill ::
      sellerFill :: receipt :: payer :: sysvar :: systemProgram :: _ =>
    if authority.isSigner ∧ payer.isSigner ∧ buyerBalance.isWritable ∧ sellerBalance.isWritable ∧
        buyerFill.isWritable ∧ sellerFill.isWritable ∧ receipt.isWritable ∧ payer.isWritable ∧
        systemProgram.pubkey = systemProgramId then
      some
        { settlementAuthority := authority.pubkey, marketConfig := market.pubkey
          buyer := buyer.pubkey, seller := seller.pubkey, buyerBalance := buyerBalance.pubkey
          sellerBalance := sellerBalance.pubkey, settlementReceipt := receipt.pubkey
          payer := payer.pubkey, buyerOrderFillState := buyerFill.pubkey
          sellerOrderFillState := sellerFill.pubkey, instructionsSysvar := sysvar.pubkey }
    else none
  | _ => none

/-- The program's entry, for `settle_signed_fill`: what it reads out of an
    instruction. Nothing is read if the discriminator, the arguments or the
    accounts do not fit. -/
def entry (rt : Runtime) (instruction : TransactionInstruction) : Option Instruction :=
  if instruction.programId = spotSettlementId ∧
      instruction.data.take 8 = settleSignedFillDiscriminator rt then do
    let (data, _) ← SettleSignedFillData.borsh.read (instruction.data.drop 8)
    let ctx ← SettleSignedFill.tryAccounts instruction.accounts
    return .settleSignedFill ctx data.settlementId data.buyerOrderHash data.sellerOrderHash
      data.args
  else none

/-! ### The client's addresses -/

/-- `market_config_pda`. This function and the next three repeat seeds that the
    program lists in its own constraints. -/
def marketConfigPda (rt : Runtime) (baseMint quoteMint : Pubkey) : Pubkey × Byte :=
  rt.findProgramAddress [marketConfigSeed, baseMint.bytes, quoteMint.bytes]

/-- `trader_market_balance_pda`. -/
def traderMarketBalancePda (rt : Runtime) (marketConfig trader : Pubkey) : Pubkey × Byte :=
  rt.findProgramAddress [traderMarketBalanceSeed, marketConfig.bytes, trader.bytes]

/-- `settlement_receipt_pda`. -/
def settlementReceiptPda (rt : Runtime) (marketConfig : Pubkey) (settlementId : Word 64) :
    Pubkey × Byte :=
  rt.findProgramAddress [settlementReceiptSeed, marketConfig.bytes, u64Bytes settlementId]

/-- `order_fill_state_pda`. -/
def orderFillStatePda (rt : Runtime) (marketConfig : Pubkey) (orderHash : Hash) : Pubkey × Byte :=
  rt.findProgramAddress [orderFillStateSeed, marketConfig.bytes, Hash.bytes orderHash]

/-! ### The client's instructions -/

/-- A limit of compute units and what is paid for each. -/
structure ComputeBudgetPreset where
  unitLimit : Word 32
  microLamports : Word 64
deriving DecidableEq

namespace ComputeBudgetPreset

/-- `ComputeBudgetPreset::signed_settlement`. -/
def signedSettlement : ComputeBudgetPreset := ⟨100000, 0⟩

/-- `ComputeBudgetPreset::cancel_signed_order`. -/
def cancelSignedOrder : ComputeBudgetPreset := ⟨40000, 0⟩

end ComputeBudgetPreset

/-- The accounts a client names for a settlement; the rest is derived from them. -/
structure SignedSettlementAccounts where
  settlementAuthority : Pubkey
  marketConfig : Pubkey
  buyer : Pubkey
  seller : Pubkey
  buyerBalance : Pubkey
  sellerBalance : Pubkey
  payer : Pubkey
deriving DecidableEq

/-- The same with the two mints in place of the market's address, for callers
    that know the market by what it trades. -/
structure SignedSettlementFlowAccounts where
  settlementAuthority : Pubkey
  baseMint : Pubkey
  quoteMint : Pubkey
  buyer : Pubkey
  seller : Pubkey
  payer : Pubkey
deriving DecidableEq

namespace SignedSettlementFlowAccounts

/-- `SignedSettlementFlowAccounts::market_config`. -/
def marketConfig (accounts : SignedSettlementFlowAccounts) (rt : Runtime) : Pubkey :=
  (marketConfigPda rt accounts.baseMint accounts.quoteMint).1

/-- `SignedSettlementFlowAccounts::to_settlement_accounts`, with the market's
    address worked out. -/
def toSettlementAccounts (accounts : SignedSettlementFlowAccounts) (rt : Runtime) :
    SignedSettlementAccounts where
  settlementAuthority := accounts.settlementAuthority
  marketConfig := accounts.marketConfig rt
  buyer := accounts.buyer
  seller := accounts.seller
  buyerBalance := (traderMarketBalancePda rt (accounts.marketConfig rt) accounts.buyer).1
  sellerBalance := (traderMarketBalancePda rt (accounts.marketConfig rt) accounts.seller).1
  payer := accounts.payer

end SignedSettlementFlowAccounts

/-- `buyer_signature_instruction`, over the preimage of the buyer's order. -/
def buyerSignatureInstruction (rt : ClientRuntime) (buyer : Pubkey) (args : SignedFillArgs) :
    TransactionInstruction :=
  rt.newEd25519Instruction args.buyerOrder.signingPreimage args.buyerSignature buyer

/-- `seller_signature_instruction`, over the preimage of the seller's order. -/
def sellerSignatureInstruction (rt : ClientRuntime) (seller : Pubkey) (args : SignedFillArgs) :
    TransactionInstruction :=
  rt.newEd25519Instruction args.sellerOrder.signingPreimage args.sellerSignature seller

/-- The accounts that a settlement is sent with. Balances, fill states and
    receipt are derived from the market, the parties and the arguments. -/
def settleSignedFillAccounts (rt : Runtime) (accounts : SignedSettlementAccounts)
    (args : SignedFillArgs) : SettleSignedFill where
  settlementAuthority := accounts.settlementAuthority
  marketConfig := accounts.marketConfig
  buyer := accounts.buyer
  seller := accounts.seller
  buyerBalance := accounts.buyerBalance
  sellerBalance := accounts.sellerBalance
  buyerOrderFillState := (orderFillStatePda rt accounts.marketConfig args.buyerOrderHash).1
  sellerOrderFillState := (orderFillStatePda rt accounts.marketConfig args.sellerOrderHash).1
  settlementReceipt := (settlementReceiptPda rt accounts.marketConfig args.settlementId).1
  payer := accounts.payer
  instructionsSysvar := rt.instructionsSysvar

/-- `settle_signed_fill_instruction`: program, accounts and data as the runtime
    will hand them to the program's entry. -/
def settleSignedFillInstruction (rt : Runtime) (accounts : SignedSettlementAccounts)
    (args : SignedFillArgs) : TransactionInstruction where
  programId := spotSettlementId
  accounts := (settleSignedFillAccounts rt accounts args).toAccountMetas systemProgramId
  data := SettleSignedFillData.data rt
    { settlementId := args.settlementId, buyerOrderHash := args.buyerOrderHash
      sellerOrderHash := args.sellerOrderHash, args }

/-- What comes before the settlement in its transaction. -/
structure SignedSettlementInstructionBuilder where
  prefixInstructions : List TransactionInstruction
deriving DecidableEq

namespace SignedSettlementInstructionBuilder

/-- `SignedSettlementInstructionBuilder::new`. -/
def new : SignedSettlementInstructionBuilder := ⟨[]⟩

/-- `with_prefix_instruction`. Instructions stay in the order in which they are
    added. -/
def withPrefixInstruction (builder : SignedSettlementInstructionBuilder)
    (instruction : TransactionInstruction) : SignedSettlementInstructionBuilder :=
  ⟨builder.prefixInstructions ++ [instruction]⟩

/-- `with_compute_unit_limit`. -/
def withComputeUnitLimit (builder : SignedSettlementInstructionBuilder) (units : Word 32) :
    SignedSettlementInstructionBuilder :=
  builder.withPrefixInstruction (setComputeUnitLimit units)

/-- `with_compute_unit_price`. -/
def withComputeUnitPrice (builder : SignedSettlementInstructionBuilder) (microLamports : Word 64) :
    SignedSettlementInstructionBuilder :=
  builder.withPrefixInstruction (setComputeUnitPrice microLamports)

/-- `with_compute_budget`: the limit first, then the price. -/
def withComputeBudget (builder : SignedSettlementInstructionBuilder) (units : Word 32)
    (microLamports : Word 64) : SignedSettlementInstructionBuilder :=
  (builder.withComputeUnitLimit units).withComputeUnitPrice microLamports

/-- `with_compute_budget_preset`. -/
def withComputeBudgetPreset (builder : SignedSettlementInstructionBuilder)
    (preset : ComputeBudgetPreset) : SignedSettlementInstructionBuilder :=
  builder.withComputeBudget preset.unitLimit preset.microLamports

/-- `build`. The two signature instructions come right before the settlement,
    the buyer's first: the program looks for them at these two places. -/
def build (builder : SignedSettlementInstructionBuilder) (rt : ClientRuntime)
    (accounts : SignedSettlementAccounts) (args : SignedFillArgs) : List TransactionInstruction :=
  builder.prefixInstructions ++ [buyerSignatureInstruction rt accounts.buyer args,
    sellerSignatureInstruction rt accounts.seller args,
    settleSignedFillInstruction rt.toRuntime accounts args]

/-- `build_for_market`, which is `build` with the accounts worked out. -/
def buildForMarket (builder : SignedSettlementInstructionBuilder) (rt : ClientRuntime)
    (accounts : SignedSettlementFlowAccounts) (args : SignedFillArgs) :
    List TransactionInstruction :=
  builder.build rt (accounts.toSettlementAccounts rt.toRuntime) args

end SignedSettlementInstructionBuilder

/-- `signed_settlement_flow_transaction_instructions`, the function the
    relayer's planner calls. -/
def signedSettlementFlowTransactionInstructions (rt : ClientRuntime)
    (accounts : SignedSettlementFlowAccounts) (args : SignedFillArgs)
    (computeBudget : ComputeBudgetPreset) : List TransactionInstruction :=
  (SignedSettlementInstructionBuilder.new.withComputeBudgetPreset computeBudget).buildForMarket rt
    accounts args

/-! ### Signature instructions pass the check -/

/-- A number read in what comes first is read in the whole. -/
theorem u16At_append {data : List Byte} {offset n : Nat} (h : u16At data offset = some n)
    (rest : List Byte) : u16At (data ++ rest) offset = some n := by
  rw [u16At, Option.map_eq_some_iff] at h
  rcases h with ⟨bytes, hslice, hn⟩
  rw [u16At, slice_append hslice, Option.map_some, hn]

/-- The index by which an entry refers to its own instruction: all ones. -/
theorem u16At_max {data : List Byte} {offset : Nat} (h : slice data offset 2 = some [255, 255]) :
    u16At data offset = some u16Max := by
  rw [u16At, h]
  decide

/-- A signature instruction passes the program's check for the message, the
    signature and the key it was made with. The header is followed field by
    field, and each of the three parts is cut out where the header says. -/
theorem verify_newEd25519Instruction {rt : ClientRuntime} (h : rt.LaysOut) {message : List Byte}
    (hmessage : message.length < 2 ^ 16) (signature : Signature) (key : Pubkey) :
    verifyEd25519Instruction rt.toRuntime (rt.newEd25519Instruction message signature key).raw
      key.bytes signature.bytes message = .ok () := by
  have hkey := length_pubkeyBytes key
  have hsignature : signature.bytes.length = 64 := length_leBytes 64 _
  rw [verifyEd25519Instruction_eq_ok [] hkey hsignature, h message signature key hmessage]
  set header : List Byte := [1, 0, 48, 0, 255, 255, 16, 0, 255, 255, 112, 0]
    ++ leBytes 2 message.length ++ [255, 255] with hheader
  -- The header says where everything is.
  have hlength : header.length = 16 := by
    rw [hheader, List.length_append, List.length_append, length_leBytes]
    rfl
  have hsize : u16At header 12 = some message.length := by
    have hslice : slice header 12 2 = some (leBytes 2 message.length) :=
      slice_middle rfl (length_leBytes 2 _) _
    rw [u16At, hslice, Option.map_some, ofLeBytes_leBytes hmessage]
  -- What the header says stays true with the three parts behind it.
  have hfields : ∀ offset n, u16At header offset = some n →
      u16At (header ++ key.bytes ++ signature.bytes ++ message) offset = some n :=
    fun offset n hn => u16At_append (u16At_append (u16At_append hn _) _) _
  have hown : SingleOwnEntry (header ++ key.bytes ++ signature.bytes ++ message) :=
    ⟨rfl, hfields 4 _ (u16At_max rfl), hfields 8 _ (u16At_max rfl), hfields 14 _ (u16At_max rfl)⟩
  refine ⟨rfl, rfl, ?_, hown, hown.parts_eq_some.mpr ⟨48, 16, 112, hfields 2 _ rfl,
    hfields 6 _ rfl, hfields 10 _ rfl, hfields 12 _ hsize, ?_, ?_, ?_⟩⟩
  · change 16 ≤ (header ++ key.bytes ++ signature.bytes ++ message).length
    rw [List.length_append, List.length_append, List.length_append, hlength]
    omega
  -- The signature lies between key and message, the key right behind the header.
  · exact slice_middle (by rw [List.length_append, hlength, hkey]) hsignature message
  · exact slice_append (slice_middle hlength hkey signature.bytes) message
  · have hplace : (header ++ key.bytes ++ signature.bytes).length = 112 := by
      rw [List.length_append, List.length_append, hlength, hkey, hsignature]
    have hmiddle := slice_middle hplace (rfl : message.length = message.length) []
    rw [List.append_nil] at hmiddle
    exact hmiddle

/-! ### The program reads what was written -/

/-- The program takes the accounts in the order the client lists them. -/
theorem tryAccounts_toAccountMetas (ctx : SettleSignedFill) :
    SettleSignedFill.tryAccounts (ctx.toAccountMetas systemProgramId) = some ctx := rfl

/-- The program reads the settlement that the client has written. -/
theorem entry_settleSignedFillInstruction (rt : Runtime) (accounts : SignedSettlementAccounts)
    (args : SignedFillArgs) :
    entry rt (settleSignedFillInstruction rt accounts args)
      = some (.settleSignedFill (settleSignedFillAccounts rt accounts args) args.settlementId
        args.buyerOrderHash args.sellerOrderHash args) := by
  have hlength : (settleSignedFillDiscriminator rt).length = 8 := by
    rw [settleSignedFillDiscriminator, List.length_take, length_hashBytes]
    rfl
  rw [entry, settleSignedFillInstruction, SettleSignedFillData.data, List.take_left' hlength,
    List.drop_left' hlength, if_pos ⟨rfl, rfl⟩, Borsh.read_self, tryAccounts_toAccountMetas]
  rfl

/-! ### The accounts are those of the constraints -/

/-- The accounts are the ones that the constraints of `SettleSignedFill` derive
    from their seeds, in the market of two mints. It is stated with the
    program's seeds, so that client and program are compared and not the client
    with itself. -/
structure SettleSignedFill.Derived (rt : Runtime) (baseMint quoteMint : Pubkey)
    (ctx : SettleSignedFill) (settlementId : Word 64) (buyerOrderHash sellerOrderHash : Hash) :
    Prop where
  marketConfig : ctx.marketConfig = rt.address (.marketConfig baseMint quoteMint)
  buyerBalance : ctx.buyerBalance = rt.address (.traderBalance ctx.marketConfig ctx.buyer)
  sellerBalance : ctx.sellerBalance = rt.address (.traderBalance ctx.marketConfig ctx.seller)
  buyerOrderFillState : ctx.buyerOrderFillState
    = rt.address (.orderFillState ctx.marketConfig buyerOrderHash)
  sellerOrderFillState : ctx.sellerOrderFillState
    = rt.address (.orderFillState ctx.marketConfig sellerOrderHash)
  settlementReceipt : ctx.settlementReceipt
    = rt.address (.settlementReceipt ctx.marketConfig settlementId)
  instructionsSysvar : ctx.instructionsSysvar = rt.instructionsSysvar

/-- The address found for seeds is the one that they make with the bump found
    for them: what the runtime's documentation says of its two functions. -/
def Runtime.Finds (rt : Runtime) (seeds : List Seeds) : Prop :=
  ∀ s ∈ seeds, rt.createProgramAddress (s.bytes ++ [[rt.bump s]]) = some (rt.address s)

/-- Records at derived addresses, with the bumps that were found for them, pass
    the constraints of a settlement that has no receipt yet. -/
theorem loadSettlementAccounts_of_derived {rt : Runtime} {env : Env} {accounts : Accounts}
    {ctx : SettleSignedFill} {market : MarketConfig} {buyer seller : TraderMarketBalance}
    {settlementId : Word 64} {buyerOrderHash sellerOrderHash : Hash}
    (h : ctx.Derived rt market.baseMint market.quoteMint settlementId buyerOrderHash
      sellerOrderHash)
    (hfinds : rt.Finds [.marketConfig market.baseMint market.quoteMint,
      .traderBalance ctx.marketConfig ctx.buyer, .traderBalance ctx.marketConfig ctx.seller])
    (hsigners : ctx.settlementAuthority ∈ env.signers ∧ ctx.payer ∈ env.signers)
    (hmarket : accounts.get? ctx.marketConfig = some (.marketConfig market))
    (hauthority : market.settlementAuthority = ctx.settlementAuthority)
    (hmarketBump : market.bump = rt.bump (.marketConfig market.baseMint market.quoteMint))
    (hbuyer : accounts.get? ctx.buyerBalance = some (.traderMarketBalance buyer))
    (hbuyerSeeds : (Account.traderMarketBalance buyer).seeds
      = .traderBalance ctx.marketConfig ctx.buyer)
    (hbuyerBump : buyer.bump = rt.bump (.traderBalance ctx.marketConfig ctx.buyer))
    (hseller : accounts.get? ctx.sellerBalance = some (.traderMarketBalance seller))
    (hsellerSeeds : (Account.traderMarketBalance seller).seeds
      = .traderBalance ctx.marketConfig ctx.seller)
    (hsellerBump : seller.bump = rt.bump (.traderBalance ctx.marketConfig ctx.seller))
    (hdistinct : ctx.buyerBalance ≠ ctx.sellerBalance)
    (hnew : accounts.get? ctx.settlementReceipt = none) :
    loadSettlementAccounts rt env accounts ctx.toSettleFill settlementId
      = .ok { market, buyerBalance := buyer, sellerBalance := seller } := by
  rw [Account.seeds, Seeds.traderBalance.injEq] at hbuyerSeeds hsellerSeeds
  -- The balances of both parties are loaded in the same way.
  have hload : ∀ {key trader : Pubkey} {balance : TraderMarketBalance},
      rt.createProgramAddress ((Seeds.traderBalance ctx.marketConfig trader).bytes
        ++ [[balance.bump]]) = some key →
      accounts.get? key = some (.traderMarketBalance balance) →
      balance.marketConfig = ctx.marketConfig ∧ balance.trader = trader →
      loadTraderBalance rt accounts key ctx.marketConfig trader = .ok balance := by
    intro key trader balance hcreate hget hfields
    simp only [loadTraderBalance, bind_eq_ok, load_eq_ok, checkSeeds, require_eq_ok]
    exact ⟨balance, ⟨_, hget, rfl⟩, (), hcreate, (), hfields.1, (), hfields.2, rfl⟩
  simp only [loadSettlementAccounts, loadMarketConfig, bind_eq_ok, checkSigner_eq_ok,
    requireCode_eq_ok, require_eq_ok, init_eq_ok, load_eq_ok, checkSeeds]
  refine ⟨(), hsigners.1, market, ⟨market, ⟨_, hmarket, rfl⟩, (), ?_, rfl⟩, (), hauthority, buyer,
    hload ?_ hbuyer hbuyerSeeds, seller, hload ?_ hseller hsellerSeeds, (), hdistinct, (),
    ⟨h.settlementReceipt, hnew⟩, (), hsigners.2, rfl⟩
  · rw [hmarketBump, h.marketConfig]
    exact hfinds _ List.mem_cons_self
  · rw [hbuyerBump, h.buyerBalance]
    exact hfinds _ (List.mem_cons_of_mem _ List.mem_cons_self)
  · rw [hsellerBump, h.sellerBalance]
    exact hfinds _ (List.mem_cons_of_mem _ (List.mem_cons_of_mem _ List.mem_cons_self))

/-- The accounts that the client sends a settlement of a market with. -/
theorem derived_toSettlementAccounts (rt : Runtime) (accounts : SignedSettlementFlowAccounts)
    (args : SignedFillArgs) :
    (settleSignedFillAccounts rt (accounts.toSettlementAccounts rt) args).Derived rt
      accounts.baseMint accounts.quoteMint args.settlementId args.buyerOrderHash
      args.sellerOrderHash :=
  ⟨rfl, rfl, rfl, rfl, rfl, rfl, rfl⟩

/-! ### Client and program agree -/

/-- The last three instructions of a transaction, seen from the last one. -/
theorem getInstructionRelative_tail (rt : Runtime) {env : Env} {before : List RawInstruction}
    {buyer seller settle : RawInstruction}
    (h : env.instructions = before ++ [buyer, seller, settle])
    (hlast : env.currentIndex + 1 = env.instructions.length) :
    getInstructionRelative rt env (-2) rt.instructionsSysvar = .ok buyer ∧
      getInstructionRelative rt env (-1) rt.instructionsSysvar = .ok seller := by
  rw [h, List.length_append] at hlast
  have hindex : env.currentIndex = before.length + 2 := Nat.succ.inj hlast
  have hbuyer : ((env.currentIndex : Int) + -2).toNat = before.length := by omega
  have hseller : ((env.currentIndex : Int) + -1).toNat = before.length + 1 := by omega
  simp only [getInstructionRelative, bind_eq_ok, require_eq_ok, okOr_eq_ok]
  refine ⟨⟨(), trivial, (), by omega, ?_⟩, ⟨(), trivial, (), by omega, ?_⟩⟩
  · rw [hbuyer, h, List.getElem?_append_right (Nat.le_refl _), Nat.sub_self]
    rfl
  · rw [hseller, h, List.getElem?_append_right (Nat.le_add_right _ 1), Nat.add_sub_cancel_left]
    rfl

/-- Client and program agree on a transaction. It ends with the buyer's
    signature instruction, the seller's and the settlement. Seen from there the
    program finds both signatures where it looks for them, and what it reads is
    the settlement asked for, with the accounts of its constraints. -/
structure Agrees (rt : ClientRuntime) (before : List TransactionInstruction)
    (accounts : SignedSettlementFlowAccounts) (args : SignedFillArgs)
    (transaction : List TransactionInstruction) (settle : TransactionInstruction)
    (ctx : SettleSignedFill) : Prop where
  layout : transaction = before ++ [buyerSignatureInstruction rt accounts.buyer args,
    sellerSignatureInstruction rt accounts.seller args, settle]
  signatures : ∀ env : Env, env.instructions = transaction.map TransactionInstruction.raw →
    env.currentIndex + 1 = env.instructions.length →
    verifyPreviousEd25519Instruction rt.toRuntime env ctx.instructionsSysvar (-2) ctx.buyer
        args.buyerSignature args.buyerOrder.signingPreimage = .ok () ∧
      verifyPreviousEd25519Instruction rt.toRuntime env ctx.instructionsSysvar (-1) ctx.seller
        args.sellerSignature args.sellerOrder.signingPreimage = .ok ()
  settlement : entry rt.toRuntime settle = some (.settleSignedFill ctx args.settlementId
    args.buyerOrderHash args.sellerOrderHash args)
  derived : ctx.Derived rt.toRuntime accounts.baseMint accounts.quoteMint args.settlementId
    args.buyerOrderHash args.sellerOrderHash
  parties : ctx.settlementAuthority = accounts.settlementAuthority ∧ ctx.buyer = accounts.buyer ∧
    ctx.seller = accounts.seller ∧ ctx.payer = accounts.payer

/-- Client and program agree on the client's transactions, whatever comes first
    in them, for every pair of mints, every two traders and every fill. -/
theorem buildForMarket_agrees (rt : ClientRuntime) (hlayout : rt.LaysOut)
    (builder : SignedSettlementInstructionBuilder) (accounts : SignedSettlementFlowAccounts)
    (args : SignedFillArgs) :
    ∃ settle ctx, Agrees rt builder.prefixInstructions accounts args
      (builder.buildForMarket rt accounts args) settle ctx := by
  refine ⟨_, _, rfl, fun env hinstructions hlast => ?_, entry_settleSignedFillInstruction _ _ _,
    derived_toSettlementAccounts _ accounts args, ⟨rfl, rfl, rfl, rfl⟩⟩
  rw [SignedSettlementInstructionBuilder.buildForMarket, SignedSettlementInstructionBuilder.build,
    List.map_append] at hinstructions
  have htail := getInstructionRelative_tail rt.toRuntime hinstructions hlast
  have hshort : ∀ order : SignedOrderPayload, order.signingPreimage.length < 2 ^ 16 := by
    intro order
    rw [length_signingPreimage]
    decide
  refine ⟨bind_eq_ok.mpr ⟨_, htail.1, ?_⟩, bind_eq_ok.mpr ⟨_, htail.2, ?_⟩⟩
  · exact verify_newEd25519Instruction hlayout (hshort _) _ _
  · exact verify_newEd25519Instruction hlayout (hshort _) _ _

/-- The sample runtime, with signature instructions laid out. -/
def sampleClientRuntime : ClientRuntime where
  toRuntime := sampleSignedRuntime
  newEd25519Instruction message signature key :=
    { programId := sampleSignedRuntime.ed25519Program
      accounts := []
      data := [1, 0, 48, 0, 255, 255, 16, 0, 255, 255, 112, 0] ++ leBytes 2 message.length
        ++ [255, 255] ++ key.bytes ++ signature.bytes ++ message }

/-- A settlement of the sample orders, behind a compute budget. -/
theorem buildForMarket_agrees_budget :
    ∃ settle ctx, Agrees sampleClientRuntime [setComputeUnitLimit 100000, setComputeUnitPrice 0]
      ⟨sampleAuthority, 10, 11, sampleBuyer, sampleSeller, sampleAuthority⟩
      ⟨7, 22, 40, sampleBidHash, sampleAskHash, sampleBid, sampleBidSignature, sampleAsk,
        sampleAskSignature⟩
      (signedSettlementFlowTransactionInstructions sampleClientRuntime
        ⟨sampleAuthority, 10, 11, sampleBuyer, sampleSeller, sampleAuthority⟩
        ⟨7, 22, 40, sampleBidHash, sampleAskHash, sampleBid, sampleBidSignature, sampleAsk,
          sampleAskSignature⟩ .signedSettlement) settle ctx :=
  buildForMarket_agrees sampleClientRuntime (fun _ _ _ _ => rfl)
    (SignedSettlementInstructionBuilder.new.withComputeBudgetPreset .signedSettlement) _ _

end Settlement

end SolanaLab
