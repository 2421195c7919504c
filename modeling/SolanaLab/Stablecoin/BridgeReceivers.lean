import SolanaLab.Library.Bytes
import SolanaLab.Stablecoin.Anchor

/-!
# Two Bridge Receivers

A message that asks to mint stablecoins on another chain is consumed by a
receiver there, at most once. There are two receivers, a contract of the EVM and
a Solana program. They make the same checks in another order and remember what
was consumed in different ways: the contract under the hash of the two chains
and the nonce, the program by an account at an address derived from its config,
the source chain and the nonce.

`consumeOnce` says what a receiver is for, without either way of remembering.
Both receivers refine it, so they accept the same messages.

The messages are those of the contract, whose amounts have 256 bits. The
program is given the same message with the amount cut to 64, so the two agree
for amounts that fit; the claim about runs makes that a condition on the
messages.

What each receiver relies on for telling messages apart is a property of a
hash: that of `keccak256` for the contract and that of the address derivation
for the program. Both are asked only for the messages of the run.

## Main definitions

* `MockBridgeReceiver`, `consumeMintMessage`: The contract.
* `World`, `consumeCrossChainMintMessageHandler`: The program.
* `Policy`, `consumeOnce`: What both are for.
* `submit`: How a message of the EVM is put to the program.

## Theorems

* `evm_refines`, `solana_refines`: Each receiver consumes as it should.
* `receivers_agree`: Both accept the same messages, and which.
-/

namespace SolanaLab

namespace Stablecoin

namespace Bridge

open Checked

/-! ### The contract -/

/-- `address`, as the number it is. -/
abbrev Address := Word 160

/-- `CrossChainMintMessage` of the contract. Nothing in it is checked before
    `consumeMintMessage` looks at it. -/
structure EvmMessage where
  sourceChainId : Word 16
  destinationChainId : Word 16
  nonce : Word 64
  mint : Address
  recipient : Address
  amount : Word 256
deriving DecidableEq

/-- The errors of the contract, in the order of its declarations. -/
inductive EvmError where
  | unauthorizedBridge
  | invalidDestinationChain
  | invalidMint
  | invalidRecipient
  | invalidAmount
  | bridgeLimitExceeded
  | messageAlreadyConsumed
deriving DecidableEq

/-- The event of a message that is consumed. It is all that others can see of
    it. -/
structure CrossChainMintConsumed where
  messageId : Word 256
  sourceChainId : Word 16
  nonce : Word 64
  mint : Address
  recipient : Address
  amount : Word 256
deriving DecidableEq

/-- The contract, with the events it has emitted. Its first four fields are
    immutable after the constructor. -/
structure MockBridgeReceiver where
  trustedBridge : Address
  registeredMint : Address
  localChainId : Word 16
  perMessageLimit : Word 256
  consumedMessages : Word 256 → Bool
  events : List CrossChainMintConsumed

/-- `constructor`. A receiver without a limit would consume nothing and is
    refused. -/
def MockBridgeReceiver.deploy (trustedBridge registeredMint : Address) (localChainId : Word 16)
    (perMessageLimit : Word 256) : Except EvmError MockBridgeReceiver := do
  require (¬ (trustedBridge = 0 ∨ registeredMint = 0)) .invalidRecipient
  require (¬ perMessageLimit = 0) .invalidAmount
  return ⟨trustedBridge, registeredMint, localChainId, perMessageLimit, fun _ => false, []⟩

/-- An integer in `abi.encode`: 32 bytes, the highest first, whatever its type. -/
def abiWord (v : Nat) : List Byte := (leBytes 32 v).reverse

/-- `abi.encode` of the chains and the nonce: three words, one after another. -/
def abiEncode (sourceChainId destinationChainId : Word 16) (nonce : Word 64) : List Byte :=
  abiWord sourceChainId.val ++ (abiWord destinationChainId.val ++ abiWord nonce.val)

/-- `consumeMintMessage`, with `keccak256`. The checks on the message come
    before the one for a message consumed before. -/
def MockBridgeReceiver.consumeMintMessage (keccak256 : List Byte → Word 256)
    (receiver : MockBridgeReceiver) (sender : Address) (message : EvmMessage) :
    Except EvmError (Word 256 × MockBridgeReceiver) := do
  require (sender = receiver.trustedBridge) .unauthorizedBridge
  require (message.destinationChainId = receiver.localChainId) .invalidDestinationChain
  require (message.mint = receiver.registeredMint) .invalidMint
  require (message.recipient ≠ 0) .invalidRecipient
  require (message.amount ≠ 0) .invalidAmount
  require (message.amount ≤ receiver.perMessageLimit) .bridgeLimitExceeded
  -- The id is that of the route and the nonce, whatever the amount.
  let messageId := keccak256
    (abiEncode message.sourceChainId message.destinationChainId message.nonce)
  require (receiver.consumedMessages messageId = false) .messageAlreadyConsumed
  return (messageId, { receiver with
    consumedMessages := Function.update receiver.consumedMessages messageId true
    events := receiver.events ++ [⟨messageId, message.sourceChainId, message.nonce, message.mint,
      message.recipient, message.amount⟩] })

/-- A message with its sender. -/
abbrev Input := Address × EvmMessage

/-- One call of the contract. A call that reverts changes nothing, events
    included. -/
def evmStep (keccak256 : List Byte → Word 256) (receiver : MockBridgeReceiver) (input : Input) :
    Except EvmError (Word 256) × MockBridgeReceiver :=
  match receiver.consumeMintMessage keccak256 input.1 input.2 with
  | .ok (messageId, receiver') => (.ok messageId, receiver')
  | .error e => (.error e, receiver)

/-! ### The program -/

/-- `SOLANA_CHAIN_ID`: the one destination the program accepts. -/
def solanaChainId : Word 16 := 1

/-- `CrossChainMintMessage` of the program, with an amount of 64 bits. -/
structure CrossChainMintMessage where
  sourceChainId : Word 16
  destinationChainId : Word 16
  nonce : Word 64
  mint : Pubkey
  recipient : Pubkey
  amount : Word 64
deriving DecidableEq

/-- Whose messages for which mint the program consumes, and up to which amount. -/
structure BridgeConfig where
  admin : Pubkey
  bridgeAuthority : Pubkey
  registeredMint : Pubkey
  perMessageLimit : Word 64
  bump : Byte
deriving DecidableEq

/-- A message that was consumed. That the account exists is what counts; its
    fields repeat the message. -/
structure ConsumedMessage where
  bridgeConfig : Pubkey
  sourceChainId : Word 16
  nonce : Word 64
  mint : Pubkey
  recipient : Pubkey
  amount : Word 64
  bump : Byte
deriving DecidableEq

/-- The errors of the program. There is none for a message consumed before, as
    creating its account then fails. -/
inductive ErrorCode where
  | invalidDestinationChain
  | unregisteredMint
  | bridgeLimitExceeded
  | invalidMessageAmount
  | invalidRecipient
  | unauthorizedBridgeAuthority
deriving DecidableEq

/-- The program calls none but the system program, to create accounts. -/
abbrev Error := ProgramError ErrorCode Empty

/-- `BRIDGE_CONFIG_SEED`: `bridge_config`. -/
def bridgeConfigSeed : List Byte := [98, 114, 105, 100, 103, 101, 95, 99, 111, 110, 102, 105, 103]

/-- `CONSUMED_MESSAGE_SEED`: `consumed_message`. -/
def consumedMessageSeed : List Byte :=
  [99, 111, 110, 115, 117, 109, 101, 100, 95, 109, 101, 115, 115, 97, 103, 101]

/-- What the addresses of the program's accounts are derived from. -/
inductive Seeds where
  | bridgeConfig (registeredMint : Pubkey)
  | consumedMessage (bridgeConfig : Pubkey) (sourceChainId : Word 16) (nonce : Word 64)
deriving DecidableEq

namespace Seeds

/-- The seeds as the program lists them, numbers with the lowest byte first. -/
def bytes : Seeds → List (List Byte)
  | bridgeConfig registeredMint => [bridgeConfigSeed, Settlement.Pubkey.bytes registeredMint]
  | consumedMessage config sourceChainId nonce =>
    [consumedMessageSeed, Settlement.Pubkey.bytes config, leBytes 2 sourceChainId.val,
      leBytes 8 nonce.val]

/-- How many bytes the seeds spell. No two kinds spell the same number. -/
def width : Seeds → Nat
  | bridgeConfig _ => 45
  | consumedMessage _ _ _ => 58

/-- The width depends on the kind only. -/
theorem length_flatten_bytes (s : Seeds) : s.bytes.flatten.length = s.width := by
  cases s <;> simp only [bytes, List.flatten_cons, List.flatten_nil, List.append_nil,
    List.length_append, Settlement.length_pubkeyBytes, length_leBytes] <;> rfl

/-- Seeds that spell the same bytes are the same. Chain and nonce have fixed
    widths after the key of the config. -/
theorem flatten_bytes_injective {s s' : Seeds} (h : s.bytes.flatten = s'.bytes.flatten) :
    s = s' := by
  have hwidth : s.width = s'.width := by
    rw [← length_flatten_bytes, ← length_flatten_bytes, h]
  cases s <;> cases s' <;> simp only [width, Nat.reduceEqDiff] at hwidth <;>
    simp only [bytes, List.flatten_cons, List.flatten_nil, List.append_nil] at h
  · rw [Settlement.pubkeyBytes_injective (List.append_cancel_left h)]
  · have hconfig := List.append_inj (List.append_cancel_left h) (by
      rw [Settlement.length_pubkeyBytes, Settlement.length_pubkeyBytes])
    have hkeys := List.append_inj hconfig.2 (by rw [length_leBytes, length_leBytes])
    rw [Settlement.pubkeyBytes_injective hconfig.1, leBytes_injective hkeys.1,
      leBytes_injective hkeys.2]

instance : SeedList Seeds := ⟨bytes, fun _ _ => flatten_bytes_injective⟩

end Seeds

/-- The records of the program, a map for each kind. -/
structure World where
  configs : SortedMap Pubkey BridgeConfig
  consumedMessages : SortedMap Pubkey ConsumedMessage
deriving DecidableEq

namespace World

/-- The state before any instruction, with no account of the program. -/
def empty : World := ⟨SortedMap.empty, SortedMap.empty⟩

/-- Whether an address has a record of any kind. -/
def occupied (world : World) (key : Pubkey) : Bool :=
  (world.configs.get? key).isSome || (world.consumedMessages.get? key).isSome

end World

/-- The accounts of `initialize_bridge_config`. -/
structure InitializeBridgeConfig where
  admin : Pubkey
  bridgeConfig : Pubkey
  bridgeAuthority : Pubkey
  registeredMint : Pubkey
deriving DecidableEq

/-- `initialize_bridge_config_handler`. Nothing in the program changes the
    config later. -/
def initializeBridgeConfigHandler (rt : Runtime) (env : Env) (world : World)
    (ctx : InitializeBridgeConfig) (perMessageLimit : Word 64) : Except Error World := do
  checkSigner env ctx.admin
  init rt world.occupied ctx.bridgeConfig (Seeds.bridgeConfig ctx.registeredMint)
  requireCode (0 < perMessageLimit) .bridgeLimitExceeded
  return { world with
    configs := world.configs.insert ctx.bridgeConfig
      { admin := ctx.admin
        bridgeAuthority := ctx.bridgeAuthority
        registeredMint := ctx.registeredMint
        perMessageLimit
        bump := rt.bump (Seeds.bridgeConfig ctx.registeredMint) } }

/-- The accounts of `consume_cross_chain_mint_message`, the last of them
    created. -/
structure ConsumeCrossChainMintMessage where
  bridgeAuthority : Pubkey
  bridgeConfig : Pubkey
  consumedMessage : Pubkey
  payer : Pubkey
deriving DecidableEq

/-- `consume_cross_chain_mint_message_handler`. The account of the message is
    created before the message is looked at, and undone if that fails. -/
def consumeCrossChainMintMessageHandler (rt : Runtime) (env : Env) (world : World)
    (ctx : ConsumeCrossChainMintMessage) (message : CrossChainMintMessage) :
    Except Error World := do
  checkSigner env ctx.bridgeAuthority
  let config ← load world.occupied world.configs ctx.bridgeConfig
  -- A message that was consumed has a record, which cannot be created again.
  init rt world.occupied ctx.consumedMessage
    (Seeds.consumedMessage ctx.bridgeConfig message.sourceChainId message.nonce)
  checkSigner env ctx.payer
  checkSeeds rt ctx.bridgeConfig (Seeds.bridgeConfig config.registeredMint) config.bump
  requireCode (config.bridgeAuthority = ctx.bridgeAuthority) .unauthorizedBridgeAuthority
  requireCode (message.destinationChainId = solanaChainId) .invalidDestinationChain
  requireCode (0 < message.amount) .invalidMessageAmount
  requireCode (message.recipient ≠ Pubkey.default) .invalidRecipient
  requireCode (message.mint = config.registeredMint) .unregisteredMint
  requireCode (message.amount ≤ config.perMessageLimit) .bridgeLimitExceeded
  return { world with
    consumedMessages := world.consumedMessages.insert ctx.consumedMessage
      { bridgeConfig := ctx.bridgeConfig
        sourceChainId := message.sourceChainId
        nonce := message.nonce
        mint := message.mint
        recipient := message.recipient
        amount := message.amount
        bump := rt.bump
          (Seeds.consumedMessage ctx.bridgeConfig message.sourceChainId message.nonce) } }

/-- The instructions of the program with their accounts and arguments. -/
inductive Instruction where
  | initializeBridgeConfig (ctx : InitializeBridgeConfig) (perMessageLimit : Word 64)
  | consumeCrossChainMintMessage (ctx : ConsumeCrossChainMintMessage)
      (message : CrossChainMintMessage)
deriving DecidableEq

/-- The instructions of `stablecoin_bridge_receiver`. -/
def process (rt : Runtime) (env : Env) (world : World) : Instruction → Except Error World
  | .initializeBridgeConfig ctx perMessageLimit =>
    initializeBridgeConfigHandler rt env world ctx perMessageLimit
  | .consumeCrossChainMintMessage ctx message =>
    consumeCrossChainMintMessageHandler rt env world ctx message

/-- One transaction. If it fails, the runtime undoes all it has written. -/
def step (rt : Runtime) : World → Env × Instruction → Except Error Unit × World :=
  transact (process rt) .runtime

/-! ### What both are for -/

/-- What a receiver is configured with, in the terms of the contract. -/
structure Policy where
  trustedBridge : Address
  registeredMint : Address
  perMessageLimit : Word 64
deriving DecidableEq

/-- What a message is told apart by: where it comes from and its number there. -/
abbrev MessageKey := Word 16 × Word 64

/-- The key of a message. Its destination is the receiver's own chain and need
    not be in it. -/
def EvmMessage.key (message : EvmMessage) : MessageKey := (message.sourceChainId, message.nonce)

/-- A message that may be consumed, if it was not before. -/
structure Policy.Allows (policy : Policy) (input : Input) : Prop where
  sender : input.1 = policy.trustedBridge
  destination : input.2.destinationChainId = solanaChainId
  mint : input.2.mint = policy.registeredMint
  recipient : input.2.recipient ≠ 0
  positive : 0 < input.2.amount.val
  limit : input.2.amount.val ≤ policy.perMessageLimit.val

instance (policy : Policy) (input : Input) : Decidable (policy.Allows input) :=
  decidable_of_iff (input.1 = policy.trustedBridge ∧
    input.2.destinationChainId = solanaChainId ∧ input.2.mint = policy.registeredMint ∧
    input.2.recipient ≠ 0 ∧ 0 < input.2.amount.val ∧
    input.2.amount.val ≤ policy.perMessageLimit.val)
    ⟨fun ⟨h1, h2, h3, h4, h5, h6⟩ => ⟨h1, h2, h3, h4, h5, h6⟩,
      fun ⟨h1, h2, h3, h4, h5, h6⟩ => ⟨h1, h2, h3, h4, h5, h6⟩⟩

/-- A message that may be consumed is, once. The state is no more than the keys
    of the messages consumed. -/
def consumeOnce (policy : Policy) (consumed : List MessageKey) (input : Input) :
    Bool × List MessageKey :=
  if policy.Allows input ∧ input.2.key ∉ consumed then (true, consumed ++ [input.2.key])
  else (false, consumed)

/-- The inputs that were accepted. -/
def accepted (inputs : List Input) (accepts : List Bool) : List Input :=
  ((inputs.zip accepts).filter Prod.snd).map Prod.fst

/-! ### The contract consumes once -/

section Evm

variable {keccak256 : List Byte → Word 256} {receiver : MockBridgeReceiver} {policy : Policy}
  {keys consumed : List MessageKey} {sender : Address} {message : EvmMessage} {input : Input}

/-- The hash that the contract knows a message by. -/
def messageId (keccak256 : List Byte → Word 256) (key : MessageKey) : Word 256 :=
  keccak256 (abiEncode key.1 solanaChainId key.2)

/-- Different messages of a list are known by different hashes: what the
    contract relies on of `keccak256`, for these messages. -/
def Collisionless (keccak256 : List Byte → Word 256) (keys : List MessageKey) : Prop :=
  ∀ k ∈ keys, ∀ k' ∈ keys, messageId keccak256 k = messageId keccak256 k' →
    abiEncode k.1 solanaChainId k.2 = abiEncode k'.1 solanaChainId k'.2

instance (keccak256 : List Byte → Word 256) (keys : List MessageKey) :
    Decidable (Collisionless keccak256 keys) :=
  have (k : MessageKey) := List.decidableBAll (fun k' => messageId keccak256 k
    = messageId keccak256 k' → abiEncode k.1 solanaChainId k.2 = abiEncode k'.1 solanaChainId k'.2)
    keys
  List.decidableBAll _ keys

/-- A number is determined by its word. -/
theorem abiWord_injective {w : Nat} (hw : w ≤ 256) {a b : Word w}
    (h : abiWord a.val = abiWord b.val) : a = b := by
  have hpow : 2 ^ w ≤ 2 ^ (8 * 32) := Nat.pow_le_pow_right (by decide) hw
  have hread := congrArg ofLeBytes (List.reverse_injective h)
  rw [ofLeBytes_leBytes (a.isLt.trans_le hpow), ofLeBytes_leBytes (b.isLt.trans_le hpow)] at hread
  exact Fin.ext hread

/-- A word has 32 bytes. -/
theorem length_abiWord (v : Nat) : (abiWord v).length = 32 := by
  rw [abiWord, List.length_reverse, length_leBytes]

/-- The encoding determines the source chain and the nonce. -/
theorem abiEncode_injective {k k' : MessageKey}
    (h : abiEncode k.1 solanaChainId k.2 = abiEncode k'.1 solanaChainId k'.2) : k = k' := by
  have hsource := List.append_inj h (by rw [length_abiWord, length_abiWord])
  have hnonce := List.append_cancel_left hsource.2
  exact Prod.ext (abiWord_injective (by decide) hsource.1) (abiWord_injective (by decide) hnonce)

/-- When the contract consumes a message, and what it answers and keeps. -/
theorem consumeMintMessage_eq_ok {result : Word 256 × MockBridgeReceiver} :
    receiver.consumeMintMessage keccak256 sender message = .ok result ↔
      sender = receiver.trustedBridge ∧ message.destinationChainId = receiver.localChainId ∧
      message.mint = receiver.registeredMint ∧ message.recipient ≠ 0 ∧ message.amount ≠ 0 ∧
      message.amount ≤ receiver.perMessageLimit ∧
      receiver.consumedMessages (keccak256
        (abiEncode message.sourceChainId message.destinationChainId message.nonce)) = false ∧
      (keccak256 (abiEncode message.sourceChainId message.destinationChainId message.nonce),
        { receiver with
          consumedMessages := Function.update receiver.consumedMessages (keccak256
            (abiEncode message.sourceChainId message.destinationChainId message.nonce)) true
          events := receiver.events ++ [⟨keccak256
            (abiEncode message.sourceChainId message.destinationChainId message.nonce),
            message.sourceChainId, message.nonce, message.mint, message.recipient,
            message.amount⟩] }) = result := by
  simp only [MockBridgeReceiver.consumeMintMessage, bind_eq_ok, require_eq_ok, exists_const, pure,
    Except.pure, Except.ok.injEq]

/-- A call that reverts leaves the contract as it was. -/
theorem evmStep_error {e : EvmError} (h : (evmStep keccak256 receiver input).1 = .error e) :
    (evmStep keccak256 receiver input).2 = receiver := by
  unfold evmStep at h ⊢
  rcases hconsume : receiver.consumeMintMessage keccak256 input.1 input.2 with e' | result
  · rfl
  · rw [hconsume] at h
    exact absurd h (by simp only [reduceCtorEq, not_false_eq_true])

/-- The contract has consumed these messages: it is configured as the policy
    says, and the hashes it has marked are theirs. -/
structure EvmRefines (keccak256 : List Byte → Word 256) (policy : Policy) (keys : List MessageKey)
    (consumed : List MessageKey) (receiver : MockBridgeReceiver) : Prop where
  trustedBridge : receiver.trustedBridge = policy.trustedBridge
  registeredMint : receiver.registeredMint = policy.registeredMint
  localChainId : receiver.localChainId = solanaChainId
  perMessageLimit : receiver.perMessageLimit.val = policy.perMessageLimit.val
  consumedMessages : ∀ k ∈ keys,
    receiver.consumedMessages (messageId keccak256 k) = true ↔ k ∈ consumed

/-- The contract accepts a message exactly if it may be consumed. -/
theorem EvmRefines.accepts (h : EvmRefines keccak256 policy keys consumed receiver)
    (hkey : input.2.key ∈ keys) :
    (∃ result, receiver.consumeMintMessage keccak256 input.1 input.2 = .ok result) ↔
      policy.Allows input ∧ input.2.key ∉ consumed := by
  simp only [consumeMintMessage_eq_ok, exists_and_left, exists_eq', and_true]
  rw [h.trustedBridge, h.localChainId, h.registeredMint]
  constructor
  · rintro ⟨hsender, hdestination, hmint, hrecipient, hamount, hlimit, hnew⟩
    -- The id is made from the destination, which is this chain.
    rw [hdestination] at hnew
    refine ⟨⟨hsender, hdestination, hmint, hrecipient, Nat.pos_of_ne_zero (fun hzero =>
      hamount (Fin.ext hzero)), ?_⟩, fun hmem => ?_⟩
    · rw [← h.perMessageLimit]
      exact hlimit
    · have hused := (h.consumedMessages _ hkey).mpr hmem
      exact absurd (hused.symm.trans hnew) (by decide)
  · rintro ⟨ha, hnew⟩
    refine ⟨ha.sender, ha.destination, ha.mint, ha.recipient, fun hzero => ?_, ?_, ?_⟩
    · have hpositive := ha.positive
      rw [hzero] at hpositive
      exact absurd hpositive (lt_irrefl 0)
    · rw [Fin.le_def, h.perMessageLimit]
      exact ha.limit
    · rw [ha.destination]
      exact Bool.eq_false_iff.mpr (fun hused => hnew ((h.consumedMessages _ hkey).mp hused))

/-- The contract consumes as it should: one call of it is one step of
    `consumeOnce`, with the same answer and related states. -/
theorem evm_refines (hcollisionless : Collisionless keccak256 keys)
    (h : EvmRefines keccak256 policy keys consumed receiver) (hkey : input.2.key ∈ keys) :
    (consumeOnce policy consumed input).1 = (evmStep keccak256 receiver input).1.isOk ∧
    EvmRefines keccak256 policy keys (consumeOnce policy consumed input).2
      (evmStep keccak256 receiver input).2 := by
  unfold consumeOnce evmStep
  rcases hconsume : receiver.consumeMintMessage keccak256 input.1 input.2 with e | result
  · have hnot : ¬ (policy.Allows input ∧ input.2.key ∉ consumed) := by
      rw [← h.accepts hkey, hconsume]
      simp only [reduceCtorEq, exists_false, not_false_eq_true]
    rw [if_neg hnot]
    exact ⟨rfl, h⟩
  · have hallows := (h.accepts hkey).mp ⟨result, hconsume⟩
    rw [if_pos hallows]
    rcases consumeMintMessage_eq_ok.mp hconsume with ⟨-, -, -, -, -, -, -, rfl⟩
    refine ⟨rfl, { h with consumedMessages := fun k hk => ?_ }⟩
    rw [hallows.1.destination]
    simp only [Function.update_apply, List.mem_append, List.mem_singleton]
    -- A key is consumed by its own message alone, as ids do not collide.
    by_cases heq : k = input.2.key
    · rw [heq]
      exact iff_of_true (if_pos rfl) (Or.inr rfl)
    · have hid : messageId keccak256 k
          ≠ keccak256 (abiEncode input.2.sourceChainId solanaChainId input.2.nonce) := fun hsame =>
        heq (abiEncode_injective (hcollisionless k hk _ hkey hsame))
      rw [if_neg hid, h.consumedMessages k hk]
      exact ⟨Or.inl, fun hmem => hmem.resolve_right heq⟩

end Evm

/-! ### The program consumes once -/

/-- A message of the contract, as the program knows it. How addresses are
    translated is left open. -/
def EvmMessage.toSolana (translate : Address → Pubkey) (message : EvmMessage) :
    CrossChainMintMessage where
  sourceChainId := message.sourceChainId
  destinationChainId := message.destinationChainId
  nonce := message.nonce
  mint := translate message.mint
  recipient := translate message.recipient
  amount := (narrow 64 message.amount).getD 0

/-- A message with its sender, as an instruction of the program: the sender
    signs as the bridge authority, and the account of the message is at its
    address. -/
def submit (rt : Runtime) (translate : Address → Pubkey) (bridgeConfig payer : Pubkey)
    (unixTimestamp : Int) (input : Input) : Env × Instruction :=
  ({ signers := [translate input.1, payer], unixTimestamp, refused := false },
    .consumeCrossChainMintMessage
      { bridgeAuthority := translate input.1
        bridgeConfig
        consumedMessage :=
          rt.address (Seeds.consumedMessage bridgeConfig input.2.sourceChainId input.2.nonce)
        payer }
      (input.2.toSolana translate))

section Solana

variable {rt : Runtime} {env : Env} {world world' : World} {translate : Address → Pubkey}
  {policy : Policy} {keys consumed : List MessageKey} {config : Pubkey} {input : Input}

/-- When the program consumes a message, and the account it creates. -/
theorem consumeHandler_eq_ok {ctx : ConsumeCrossChainMintMessage}
    {message : CrossChainMintMessage} :
    consumeCrossChainMintMessageHandler rt env world ctx message = .ok world' ↔
      ctx.bridgeAuthority ∈ env.signers ∧ ∃ record,
        world.configs.get? ctx.bridgeConfig = some record ∧
        (ctx.consumedMessage = rt.address
          (Seeds.consumedMessage ctx.bridgeConfig message.sourceChainId message.nonce) ∧
          world.occupied ctx.consumedMessage = false) ∧
        ctx.payer ∈ env.signers ∧
        rt.createProgramAddress (SeedList.bytes (Seeds.bridgeConfig record.registeredMint)
          ++ [[record.bump]]) = some ctx.bridgeConfig ∧
        record.bridgeAuthority = ctx.bridgeAuthority ∧
        message.destinationChainId = solanaChainId ∧ 0 < message.amount ∧
        message.recipient ≠ Pubkey.default ∧ message.mint = record.registeredMint ∧
        message.amount ≤ record.perMessageLimit ∧
        { world with
          consumedMessages := world.consumedMessages.insert ctx.consumedMessage
            ⟨ctx.bridgeConfig, message.sourceChainId, message.nonce, message.mint,
              message.recipient, message.amount, rt.bump (Seeds.consumedMessage ctx.bridgeConfig
                message.sourceChainId message.nonce)⟩ } = world' := by
  simp only [consumeCrossChainMintMessageHandler, bind_eq_ok, checkSigner_eq_ok, load_eq_ok,
    init_eq_ok, checkSeeds_eq_ok, requireCode_eq_ok, exists_const, pure, Except.pure,
    Except.ok.injEq]

/-- The program has consumed these messages: it is configured as the policy
    says, and the accounts that exist are theirs. -/
structure SolanaRefines (rt : Runtime) (translate : Address → Pubkey) (policy : Policy)
    (config : Pubkey) (keys consumed : List MessageKey) (world : World) : Prop where
  configured : ∃ record, world.configs.get? config = some record ∧
    record.bridgeAuthority = translate policy.trustedBridge ∧
    record.registeredMint = translate policy.registeredMint ∧
    record.perMessageLimit = policy.perMessageLimit ∧
    rt.createProgramAddress (SeedList.bytes (Seeds.bridgeConfig record.registeredMint)
      ++ [[record.bump]]) = some config
  consumedMessages : ∀ k ∈ keys,
    world.occupied (rt.address (Seeds.consumedMessage config k.1 k.2)) = true ↔ k ∈ consumed

/-- What the program asks of an amount that fits is what the contract does. -/
theorem narrow_amount (translate : Address → Pubkey) {message : EvmMessage}
    (h : message.amount.val < 2 ^ 64) :
    (message.toSolana translate).amount.val = message.amount.val := by
  rw [EvmMessage.toSolana, narrow, dif_pos h, Option.getD_some]

/-- The program accepts a message exactly if it may be consumed. -/
theorem SolanaRefines.accepts (h : SolanaRefines rt translate policy config keys consumed world)
    (hinjective : Function.Injective translate) (hzero : translate 0 = Pubkey.default)
    (hamount : input.2.amount.val < 2 ^ 64) (hkey : input.2.key ∈ keys) (payer : Pubkey)
    (unixTimestamp : Int) :
    (∃ world', process rt (submit rt translate config payer unixTimestamp input).1 world
      (submit rt translate config payer unixTimestamp input).2 = .ok world') ↔
      policy.Allows input ∧ input.2.key ∉ consumed := by
  rcases h.configured with ⟨record, hget, hbridge, hregistered, hmax, hcanonical⟩
  have hnarrow := narrow_amount translate hamount
  -- The checks of the receiver, one by one, are the conditions of the policy on
  -- translated keys.
  constructor
  · rintro ⟨world', hprocess⟩
    rcases consumeHandler_eq_ok.mp hprocess with ⟨-, record', hrecord, ⟨-, hnew⟩, -, -, hauthority,
      hdestination, hpositive, hrecipient, hmint, hlimit, -⟩
    cases Option.some.inj (hrecord.symm.trans hget)
    refine ⟨⟨hinjective (hauthority.symm.trans hbridge), hdestination,
      hinjective (hmint.trans hregistered), fun hz => hrecipient ?_, ?_, ?_⟩, fun hmem => ?_⟩
    · exact (congrArg translate hz).trans hzero
    · rw [← hnarrow]
      exact hpositive
    · rw [← hnarrow, ← hmax]
      exact hlimit
    · have hused := (h.consumedMessages _ hkey).mpr hmem
      exact absurd (hused.symm.trans hnew) (by decide)
  · rintro ⟨ha, hnew⟩
    refine ⟨_, consumeHandler_eq_ok.mpr ⟨List.mem_cons_self, record, hget, ⟨rfl, ?_⟩,
      List.mem_cons_of_mem _ List.mem_cons_self, hcanonical, ?_, ha.destination, ?_,
      fun hdefault => ?_, ?_, ?_, rfl⟩⟩
    · exact Bool.eq_false_iff.mpr (fun hused => hnew ((h.consumedMessages _ hkey).mp hused))
    · rw [hbridge, ha.sender]
    · rw [Fin.lt_def, hnarrow]
      exact ha.positive
    · exact ha.recipient (hinjective (hdefault.trans hzero.symm))
    · rw [hregistered, ← ha.mint]
      rfl
    · rw [Fin.le_def, hnarrow, hmax]
      exact ha.limit

/-- The program consumes as it should: one transaction of it is one step of
    `consumeOnce`, with the same answer and related states. -/
theorem solana_refines (hseparates : rt.Separates
      (keys.map (fun k => Seeds.consumedMessage config k.1 k.2)))
    (h : SolanaRefines rt translate policy config keys consumed world)
    (hinjective : Function.Injective translate) (hzero : translate 0 = Pubkey.default)
    (hamount : input.2.amount.val < 2 ^ 64) (hkey : input.2.key ∈ keys) (payer : Pubkey)
    (unixTimestamp : Int) :
    (consumeOnce policy consumed input).1
      = (step rt world (submit rt translate config payer unixTimestamp input)).1.isOk ∧
    SolanaRefines rt translate policy config keys (consumeOnce policy consumed input).2
      (step rt world (submit rt translate config payer unixTimestamp input)).2 := by
  have haccepts := h.accepts hinjective hzero hamount hkey payer unixTimestamp
  unfold consumeOnce
  rcases hprocess : process rt (submit rt translate config payer unixTimestamp input).1 world
    (submit rt translate config payer unixTimestamp input).2 with e | world'
  -- What the receiver rejects the policy does too, and neither has changed.
  · have hstep : step rt world (submit rt translate config payer unixTimestamp input) = _ :=
      transact_of_error (process rt) .runtime rfl hprocess
    have hnot : ¬ (policy.Allows input ∧ input.2.key ∉ consumed) := by
      rw [← haccepts, hprocess]
      simp only [reduceCtorEq, exists_false, not_false_eq_true]
    rw [hstep, if_neg hnot]
    exact ⟨rfl, h⟩
  · have hstep : step rt world (submit rt translate config payer unixTimestamp input) = _ :=
      transact_of_ok (process rt) .runtime rfl hprocess
    rw [hstep, if_pos (haccepts.mp ⟨world', hprocess⟩)]
    rcases consumeHandler_eq_ok.mp hprocess with
      ⟨-, record, hrecord, -, -, -, -, -, -, -, -, -, rfl⟩
    refine ⟨rfl, { h with consumedMessages := fun k hk => ?_ }⟩
    rw [List.mem_append, List.mem_singleton, ← h.consumedMessages k hk]
    simp only [World.occupied, SortedMap.get?_insert]
    by_cases heq : k = input.2.key
    · have hsame : rt.address (Seeds.consumedMessage config k.1 k.2)
          = rt.address (Seeds.consumedMessage config input.2.sourceChainId input.2.nonce) := by
        rw [heq]
        rfl
      refine iff_of_true ?_ (Or.inr heq)
      rw [if_pos hsame, Option.isSome_some, Bool.or_true]
    · -- The account of another message is at another address.
      have haddress : rt.address (Seeds.consumedMessage config k.1 k.2)
          ≠ rt.address (Seeds.consumedMessage config input.2.sourceChainId input.2.nonce) := by
        intro hsame
        have hseeds := Runtime.address_injective hseparates (List.mem_map_of_mem hk)
          (List.mem_map_of_mem hkey) hsame
        rw [Seeds.consumedMessage.injEq] at hseeds
        exact heq (Prod.ext hseeds.2.1 hseeds.2.2)
      rw [if_neg haddress]
      exact ⟨Or.inl, fun hmem => hmem.resolve_right heq⟩

end Solana

/-! ### Runs -/

/-- Which messages the contract accepts. -/
def evmAccepts (keccak256 : List Byte → Word 256) (receiver : MockBridgeReceiver)
    (inputs : List Input) : List Bool :=
  (Run.log (evmStep keccak256) receiver inputs).map (fun entry => entry.2.isOk)

/-- Which messages the program accepts. -/
def solanaAccepts (rt : Runtime) (translate : Address → Pubkey) (config payer : Pubkey)
    (unixTimestamp : Int) (world : World) (inputs : List Input) : List Bool :=
  (Run.log (step rt) world (inputs.map (submit rt translate config payer unixTimestamp))).map
    (fun entry => entry.2.isOk)

/-- The seeds that a run of messages uses. -/
def runSeeds (registeredMint config : Pubkey) (inputs : List Input) : List Seeds :=
  .bridgeConfig registeredMint ::
    (inputs.map (fun input => input.2.key)).map (fun k => .consumedMessage config k.1 k.2)

section Runs

variable {policy : Policy} {inputs : List Input}

/-- Which messages are to be accepted. -/
def onceAccepts (policy : Policy) (inputs : List Input) : List Bool :=
  (Run.log (consumeOnce policy) [] inputs).map Prod.snd

/-- There is an answer for each message. -/
theorem length_onceAccepts : (onceAccepts policy inputs).length = inputs.length := by
  have hlength := congrArg List.length (Run.log_inputs (consumeOnce policy) [] inputs)
  rw [List.length_map] at hlength
  rw [onceAccepts, List.length_map, hlength]

/-- One more message is among the accepted ones if it was accepted. -/
theorem accepted_snoc {accepts : List Bool} (h : accepts.length = inputs.length) (input : Input)
    (b : Bool) : accepted (inputs ++ [input]) (accepts ++ [b])
      = accepted inputs accepts ++ (if b then [input] else []) := by
  rw [accepted, List.zip_append h.symm, List.filter_append, List.map_append]
  cases b <;> rfl

/-- One more message is accepted if it may be consumed and was not before. -/
theorem onceAccepts_snoc (input : Input) : onceAccepts policy (inputs ++ [input])
    = onceAccepts policy inputs ++ [decide (policy.Allows input ∧
      input.2.key ∉ Run.after (consumeOnce policy) [] inputs)] := by
  rw [onceAccepts, Run.log_snoc, List.map_append, List.map_singleton, onceAccepts, consumeOnce]
  by_cases h : policy.Allows input ∧ input.2.key ∉ Run.after (consumeOnce policy) [] inputs
  · rw [if_pos h, decide_eq_true h]
  · rw [if_neg h, decide_eq_false h]

/-- What was consumed is what was accepted, and nothing twice. -/
theorem onceAccepts_accepted :
    Run.after (consumeOnce policy) [] inputs
      = (accepted inputs (onceAccepts policy inputs)).map (fun input => input.2.key) ∧
    ((accepted inputs (onceAccepts policy inputs)).map (fun input => input.2.key)).Nodup ∧
    ∀ input ∈ accepted inputs (onceAccepts policy inputs), policy.Allows input := by
  induction inputs using List.reverseRecOn with
  | nil => exact ⟨rfl, List.nodup_nil, fun input hinput => absurd hinput List.not_mem_nil⟩
  | append_singleton inputs input ih =>
      rcases ih with ⟨hconsumed, hnodup, hallows⟩
      rw [onceAccepts_snoc, accepted_snoc length_onceAccepts, Run.after_snoc, consumeOnce]
      by_cases h : policy.Allows input ∧ input.2.key ∉ Run.after (consumeOnce policy) [] inputs
      -- A message that is accepted has a key that is not among those consumed.
      · rw [if_pos h, decide_eq_true h, if_pos rfl, List.map_append, List.map_singleton]
        refine ⟨by rw [hconsumed], ?_, fun i hi => ?_⟩
        · rw [hconsumed] at h
          exact hnodup.append (List.nodup_singleton _)
            (List.disjoint_singleton.mpr h.2)
        · rcases List.mem_append.mp hi with hi | hi
          · exact hallows i hi
          · rw [List.mem_singleton.mp hi]
            exact h.1
      · rw [if_neg h, decide_eq_false h, if_neg Bool.false_ne_true, List.append_nil]
        exact ⟨hconsumed, hnodup, hallows⟩

/-- A contract that was just deployed has consumed nothing. -/
theorem evmRefines_deploy (keccak256 : List Byte → Word 256) {receiver : MockBridgeReceiver}
    {limit : Word 256} (keys : List MessageKey)
    (hdeploy : MockBridgeReceiver.deploy policy.trustedBridge policy.registeredMint solanaChainId
      limit = .ok receiver) (hlimit : limit.val = policy.perMessageLimit.val) :
    EvmRefines keccak256 policy keys [] receiver := by
  simp only [MockBridgeReceiver.deploy, bind_eq_ok, require_eq_ok, exists_const, pure, Except.pure,
    Except.ok.injEq] at hdeploy
  rcases hdeploy with ⟨-, -, rfl⟩
  exact ⟨rfl, rfl, rfl, hlimit, fun k _ => iff_of_false Bool.false_ne_true List.not_mem_nil⟩

variable {rt : Runtime} {env : Env} {translate : Address → Pubkey}
  {ctx : InitializeBridgeConfig} {world : World}

/-- A program that was just configured has consumed nothing. -/
theorem solanaRefines_initialize
    (hinit : initializeBridgeConfigHandler rt env World.empty ctx policy.perMessageLimit
      = .ok world)
    (hauthority : ctx.bridgeAuthority = translate policy.trustedBridge)
    (hmint : ctx.registeredMint = translate policy.registeredMint)
    (hseparates : rt.Separates (runSeeds ctx.registeredMint ctx.bridgeConfig inputs))
    (hcanonical : rt.Canonical [Seeds.bridgeConfig ctx.registeredMint]) :
    SolanaRefines rt translate policy ctx.bridgeConfig (inputs.map (fun input => input.2.key)) []
      world := by
  simp only [initializeBridgeConfigHandler, bind_eq_ok, checkSigner_eq_ok, init_eq_ok,
    requireCode_eq_ok, exists_const, pure, Except.pure, Except.ok.injEq] at hinit
  rcases hinit with ⟨-, ⟨haddress, -⟩, -, rfl⟩
  refine ⟨⟨_, SortedMap.get?_insert_self _ _ _, hauthority, hmint, rfl, ?_⟩, fun k hk => ?_⟩
  · rw [haddress]
    exact hcanonical _ List.mem_cons_self
  · -- No message has the address of the config.
    have hne : rt.address (Seeds.consumedMessage ctx.bridgeConfig k.1 k.2) ≠ ctx.bridgeConfig := by
      intro hsame
      have hseeds := Runtime.address_injective hseparates
        (List.mem_cons_of_mem _ (List.mem_map_of_mem hk)) List.mem_cons_self
        (hsame.trans haddress)
      exact absurd hseeds (by simp only [reduceCtorEq, not_false_eq_true])
    refine iff_of_false ?_ List.not_mem_nil
    simp only [World.occupied, World.empty, SortedMap.get?_insert, if_neg hne, SortedMap.get?_empty,
      Option.isSome_none, Bool.or_self, Bool.false_eq_true, not_false_eq_true]

/-- A message is accepted exactly if it may be consumed and was not before. -/
theorem consumeOnce_eq_true {consumed : List MessageKey} {input : Input} :
    (consumeOnce policy consumed input).1 = true ↔
      policy.Allows input ∧ input.2.key ∉ consumed := by
  unfold consumeOnce
  by_cases h : policy.Allows input ∧ input.2.key ∉ consumed
  · rw [if_pos h]
    exact iff_of_true rfl h
  · rw [if_neg h]
    exact iff_of_false Bool.false_ne_true h

/-- A run of the contract accepts what is to be accepted. Only the keys of the
    messages matter, as the clocks and the payer do for neither. -/
theorem evm_run {keccak256 : List Byte → Word 256} {receiver : MockBridgeReceiver}
    {keys : List MessageKey} (hcollisionless : Collisionless keccak256 keys)
    (h : EvmRefines keccak256 policy keys [] receiver)
    (hkeys : ∀ input ∈ inputs, input.2.key ∈ keys) :
    onceAccepts policy inputs = evmAccepts keccak256 receiver inputs ∧
    EvmRefines keccak256 policy keys (Run.after (consumeOnce policy) [] inputs)
      (Run.after (evmStep keccak256) receiver inputs) := by
  have hrun := Run.simulation_map (consumeOnce policy) id id Except.isOk h
    (fun _ _ _ hrel hkey => evm_refines hcollisionless hrel hkey) hkeys
  rw [List.map_id] at hrun
  exact hrun

/-- A run of the program accepts what is to be accepted. -/
theorem solana_run {config : Pubkey} (payer : Pubkey) (unixTimestamp : Int)
    {keys : List MessageKey}
    (hseparates : rt.Separates (keys.map (fun k => Seeds.consumedMessage config k.1 k.2)))
    (h : SolanaRefines rt translate policy config keys [] world)
    (hinjective : Function.Injective translate) (hzero : translate 0 = Pubkey.default)
    (hinputs : ∀ input ∈ inputs, input.2.amount.val < 2 ^ 64 ∧ input.2.key ∈ keys) :
    onceAccepts policy inputs
      = solanaAccepts rt translate config payer unixTimestamp world inputs ∧
    SolanaRefines rt translate policy config keys (Run.after (consumeOnce policy) [] inputs)
      (Run.after (step rt) world
        (inputs.map (submit rt translate config payer unixTimestamp))) :=
  Run.simulation_map (consumeOnce policy) (submit rt translate config payer unixTimestamp) id
    Except.isOk h (fun _ _ _ hrel hinput => solana_refines hseparates hrel hinjective hzero hinput.1
      hinput.2 payer unixTimestamp) hinputs

/-- Both receivers accept the same messages: those that may be consumed and were
    not before. What is rejected changes nothing. -/
theorem receivers_agree {keccak256 : List Byte → Word 256} {receiver : MockBridgeReceiver}
    {limit : Word 256} {payer : Pubkey} {unixTimestamp : Int}
    (hdeploy : MockBridgeReceiver.deploy policy.trustedBridge policy.registeredMint solanaChainId
      limit = .ok receiver) (hlimit : limit.val = policy.perMessageLimit.val)
    (hinit : initializeBridgeConfigHandler rt env World.empty ctx policy.perMessageLimit
      = .ok world)
    (hauthority : ctx.bridgeAuthority = translate policy.trustedBridge)
    (hmint : ctx.registeredMint = translate policy.registeredMint)
    (hinjective : Function.Injective translate) (hzero : translate 0 = Pubkey.default)
    (hamounts : ∀ input ∈ inputs, input.2.amount.val < 2 ^ 64)
    (hcollisionless : Collisionless keccak256 (inputs.map (fun input => input.2.key)))
    (hseparates : rt.Separates (runSeeds ctx.registeredMint ctx.bridgeConfig inputs))
    (hcanonical : rt.Canonical [Seeds.bridgeConfig ctx.registeredMint]) :
    let evm := evmAccepts keccak256 receiver
    let solana := solanaAccepts rt translate ctx.bridgeConfig payer unixTimestamp world
    solana inputs = evm inputs ∧
    ((accepted inputs (evm inputs)).map (fun input => input.2.key)).Nodup ∧
    (∀ input ∈ accepted inputs (evm inputs), policy.Allows input) ∧
    ∀ pre input, pre ++ [input] <+: inputs →
      let before := Run.after (evmStep keccak256) receiver pre
      let beforeSolana := Run.after (step rt) world
        (pre.map (submit rt translate ctx.bridgeConfig payer unixTimestamp))
      let input' := submit rt translate ctx.bridgeConfig payer unixTimestamp input
      (((evmStep keccak256 before input).1.isOk = true ↔ policy.Allows input ∧
          input.2.key ∉ (accepted pre (evm pre)).map (fun input => input.2.key)) ∧
        ((step rt beforeSolana input').1.isOk = true ↔ policy.Allows input ∧
          input.2.key ∉ (accepted pre (solana pre)).map (fun input => input.2.key))) ∧
      (∀ e, (evmStep keccak256 before input).1 = .error e →
        (evmStep keccak256 before input).2 = before) ∧
      (∀ e, (step rt beforeSolana input').1 = .error e →
        (step rt beforeSolana input').2 = beforeSolana) := by
  have hevm := evmRefines_deploy keccak256 (inputs.map (fun input => input.2.key)) hdeploy hlimit
  have hsolana := solanaRefines_initialize hinit hauthority hmint hseparates hcanonical
  have hmessages : rt.Separates ((inputs.map (fun input => input.2.key)).map
      (fun k => Seeds.consumedMessage ctx.bridgeConfig k.1 k.2)) := fun s hs s' hs' =>
    hseparates s (List.mem_cons_of_mem _ hs) s' (List.mem_cons_of_mem _ hs')
  have hkey : ∀ input ∈ inputs, input.2.key ∈ inputs.map (fun input => input.2.key) :=
    fun input hinput => List.mem_map_of_mem (f := fun input : Input => input.2.key) hinput
  -- Both receivers refine the one that consumes once, after every part of the run.
  have hevmRun := fun pre (hpre : pre <+: inputs) =>
    evm_run hcollisionless hevm (fun i hi => hkey i (hpre.subset hi))
  have hsolanaRun := fun pre (hpre : pre <+: inputs) =>
    solana_run payer unixTimestamp hmessages hsolana hinjective hzero
      (fun i hi => ⟨hamounts i (hpre.subset hi), hkey i (hpre.subset hi)⟩)
  have hall := @onceAccepts_accepted policy inputs
  rw [(hevmRun inputs (List.prefix_refl _)).1] at hall
  refine ⟨(hsolanaRun inputs (List.prefix_refl _)).1.symm.trans
    (hevmRun inputs (List.prefix_refl _)).1, hall.2.1, hall.2.2, fun pre input hpre => ?_⟩
  have hshort : pre <+: inputs := (List.prefix_append pre [input]).trans hpre
  have hmem : input ∈ inputs := hpre.subset (List.mem_append_right _ List.mem_cons_self)
  have hconsumed := (@onceAccepts_accepted policy pre).1
  have hevmStep := evm_refines hcollisionless (hevmRun pre hshort).2 (hkey input hmem)
  have hsolanaStep := solana_refines hmessages (hsolanaRun pre hshort).2 hinjective hzero
    (hamounts input hmem) (hkey input hmem) payer unixTimestamp
  refine ⟨⟨?_, ?_⟩, fun e he => evmStep_error he, fun e he =>
    transact_error (process rt) .runtime he⟩
  · rw [← hevmStep.1, consumeOnce_eq_true, hconsumed, (hevmRun pre hshort).1]
  · rw [← hsolanaStep.1, consumeOnce_eq_true, hconsumed, (hsolanaRun pre hshort).1]

end Runs

/-! ### A sample

A bridge and a mint, and messages from chain 2 of at most 1000. The hashes and
the addresses are the real ones. -/

def samplePolicy : Policy where
  trustedBridge := 0x1111111111111111111111111111111111111111
  registeredMint := 0x2222222222222222222222222222222222222222
  perMessageLimit := 1000

/-- An address of the EVM, with zeros in front. -/
def sampleTranslate (address : Address) : Pubkey :=
  address.castLE (Nat.pow_le_pow_right (by decide) (by decide))

def sampleMessage (nonce : Word 64) (amount : Word 256) : EvmMessage where
  sourceChainId := 2
  destinationChainId := 1
  nonce
  mint := 0x2222222222222222222222222222222222222222
  recipient := 0x3333333333333333333333333333333333333333
  amount

def sampleKeccak256 (bytes : List Byte) : Word 256 :=
  if bytes = abiEncode 2 1 77 then
    0xd124a1ee1b9f12feeac0e5841753ea288781683059411ed14b43ec9f496c8077
  else if bytes = abiEncode 2 1 78 then
    0x9104e32350ed715f6b72b74298fbf02f71cdb3099dcf898260009e1af5cd3eb1
  else if bytes = abiEncode 2 1 79 then
    0x0c5932f17d430e2e226ef2a2462c6c9e02d2e391a0fa757b002290cf3256e4c2
  else 0

def sampleConfig : Pubkey := 0x5205a8bd3d90fed2deb3af9c08f121bf9ab6389c8995cdadfeb58a327a8a093c

def sampleRuntime : Runtime := Runtime.ofTable
  [(Seeds.bridgeConfig (sampleTranslate samplePolicy.registeredMint), sampleConfig, 255),
    (.consumedMessage sampleConfig 2 77,
      0x2ff12be09f2fec4ff7c1c7ad418e4ba953c3a6d4e464192c4f719392c42b33b, 255),
    (.consumedMessage sampleConfig 2 78,
      0xf1141dd720c242417c8ef2d8958ebb163425c84e905b543d0ed2685418143b39, 255),
    (.consumedMessage sampleConfig 2 79,
      0xec05942be79c8065ff86d17115a9caa5ce41a10b103ff82b10dd852f696f376d, 253)]

def sampleInitialize : InitializeBridgeConfig where
  admin := 7
  bridgeConfig := sampleConfig
  bridgeAuthority := sampleTranslate samplePolicy.trustedBridge
  registeredMint := sampleTranslate samplePolicy.registeredMint

/-- A message, the same again, one of a stranger, one above the limit, and one
    that makes up for it. -/
def sampleInputs : List Input :=
  [(samplePolicy.trustedBridge, sampleMessage 77 500),
    (samplePolicy.trustedBridge, sampleMessage 77 500),
    (0x4444444444444444444444444444444444444444, sampleMessage 78 500),
    (samplePolicy.trustedBridge, sampleMessage 79 1001),
    (samplePolicy.trustedBridge, sampleMessage 79 1000)]

/-- The first and the last message are accepted. -/
theorem receivers_agree_sample : ∃ receiver world,
    MockBridgeReceiver.deploy samplePolicy.trustedBridge samplePolicy.registeredMint solanaChainId
      1000 = .ok receiver ∧
    initializeBridgeConfigHandler sampleRuntime ⟨[7], 0, false⟩ World.empty sampleInitialize 1000
      = .ok world ∧
    evmAccepts sampleKeccak256 receiver sampleInputs = [true, false, false, false, true] ∧
    solanaAccepts sampleRuntime sampleTranslate sampleConfig 7 0 world sampleInputs
      = evmAccepts sampleKeccak256 receiver sampleInputs := by
  refine ⟨_, _, rfl, rfl, ?_, ?_⟩
  · decide +kernel
  · have hinjective : Function.Injective sampleTranslate :=
      Fin.castLE_injective (Nat.pow_le_pow_right (by decide) (by decide))
    exact (@receivers_agree samplePolicy sampleInputs sampleRuntime ⟨[7], 0, false⟩ sampleTranslate
      sampleInitialize _ sampleKeccak256 _ 1000 7 0 rfl rfl rfl rfl rfl hinjective rfl
      (by decide +kernel) (by decide +kernel) (by decide +kernel) (by decide +kernel)).1

end Bridge

end Stablecoin

end SolanaLab
