import SolanaLab.Library.Bytes

/-!
# State of the Settlement Program

The records the settlement program keeps on chain, the signed orders it is
given, and its error codes.

Keys, order hashes and signatures are byte arrays of fixed length in the
program. Here they are the numbers those bytes spell, so that they can be
compared and ordered; `Pubkey.bytes` and its two companions give the arrays
back.

A trader's balance has one amount for each of the two assets of a market, and
a settlement moves one amount of each asset, in opposite directions. The
functions that take a `CustodyAsset` read the amount and the two sides of the
one asset, so that a statement about both is made once.

The records hold only what the program itself stores. Names, order of the
fields and error codes follow the source, so that a handler of the model can be
laid beside its Rust counterpart line by line.

A signed order is what a trader signs off chain. The program is given its
fields and not its text: it rebuilds the signing preimage from them, compares
its hash with the one the fill state's address was derived from, and looks for
an instruction that has verified the trader's signature of that preimage. So
the preimage has to be the very bytes the clients sign, the tag included.

## Main definitions

* `SignedOrderPayload.signingPreimage`: The bytes a trader signs.
* `MarketConfig`: The mints, vaults and authorities of a market.
* `TraderMarketBalance`: What a trader has available in a market.
* `SettlementReceipt`: The record of one settlement.
* `OrderFillState`: How much of a signed order is filled.
* `ErrorCode`: The errors of the program.
-/

namespace SolanaLab

namespace Settlement

open Checked

/-- A 32-byte key, as the number its bytes spell with the lowest byte first.
    Keys are only compared, ordered and written into preimages, which the number
    allows. -/
abbrev Pubkey := Word 256

/-- Keys are compared with `==` in finite maps; the instance is named so that
    the search does not unfold `Word` each time. -/
instance lawfulBEqPubkey : LawfulBEq Pubkey := inferInstance

/-- A 32-byte hash, as the number its bytes spell. What computes it is a
    parameter of the model, so nothing is known of it beyond its length. -/
abbrev Hash := Word 256

/-- A 64-byte Ed25519 signature. The program never verifies one itself: it looks
    for an instruction of the runtime's signature program that did. -/
abbrev Signature := Word 512

/-- `Pubkey::default`, the key whose bytes are all zero. It is what the key
    fields of a record hold right after its account was created. -/
def Pubkey.default : Pubkey := 0

/-- `Pubkey::as_ref`, the 32 bytes of a key as they stand in preimages and
    seeds. -/
def Pubkey.bytes (key : Pubkey) : List Byte := leBytes 32 key.val

/-- The 32 bytes of a hash, as they stand in the seeds of a fill state's
    address. -/
def Hash.bytes (hash : Hash) : List Byte := leBytes 32 hash.val

/-- The 64 bytes of a signature, to be compared with a slice of the signature
    instruction's data. -/
def Signature.bytes (signature : Signature) : List Byte := leBytes 64 signature.val

/-- `u64::to_le_bytes`: eight bytes with the lowest first, the way every number
    of a preimage or a seed is written. -/
def u64Bytes (n : Word 64) : List Byte := leBytes 8 n.val

/-- Which of the two assets of a market a deposit or a withdrawal is of. The
    instruction names it, and the mint and the vault it must use follow from it. -/
inductive CustodyAsset where
  | base
  | quote
deriving DecidableEq

/-- Whether a signed order buys or sells the base asset. -/
inductive SignedOrderSide where
  | bid
  | ask
deriving DecidableEq

/-- An order as its trader signed it. The market stands in it by the address of
    its configuration, so a signature for one market is of no use in another. -/
structure SignedOrderPayload where
  orderId : Word 64
  marketConfig : Pubkey
  trader : Pubkey
  side : SignedOrderSide
  price : Word 64
  quantity : Word 64
  nonce : Word 64
  expirySlot : Word 64
deriving DecidableEq

namespace SignedOrderPayload

/-- The tag `solana-spot-exchange-lab/order/v1`, in ASCII. The exchange's own
    preimage begins with the same tag, and only the length of what follows keeps
    the two apart. -/
def domainTag : List Byte :=
  [115, 111, 108, 97, 110, 97, 45, 115, 112, 111, 116, 45, 101, 120, 99, 104, 97, 110, 103, 101,
    45, 108, 97, 98, 47, 111, 114, 100, 101, 114, 47, 118, 49]

/-- `SignedOrderPayload::signing_preimage`. Every field after the tag has a
    fixed length, so that the bytes can be cut in one way only. -/
def signingPreimage (order : SignedOrderPayload) : List Byte :=
  domainTag
    ++ u64Bytes order.orderId
    ++ order.trader.bytes
    ++ order.marketConfig.bytes
    -- One byte for the side, written out by a match rather than by a derived encoding.
    ++ ([match order.side with
      | .bid => 0
      | .ask => 1] : List Byte)
    ++ u64Bytes order.price
    ++ u64Bytes order.quantity
    ++ u64Bytes order.nonce
    ++ u64Bytes order.expirySlot

end SignedOrderPayload

/-- The arguments of a signed settlement: the fill, both orders with their
    signatures, and the hashes of the orders. The program computes the hashes
    anew and compares, so that stating them gives the caller no freedom. -/
structure SignedFillArgs where
  settlementId : Word 64
  fillPrice : Word 64
  fillQuantity : Word 64
  buyerOrderHash : Hash
  sellerOrderHash : Hash
  buyerOrder : SignedOrderPayload
  buyerSignature : Signature
  sellerOrder : SignedOrderPayload
  sellerSignature : Signature
deriving DecidableEq

/-- The one record of the whole program. Its admin is the only key that can open
    markets. -/
structure ProtocolConfig where
  admin : Pubkey
  bump : Byte
deriving DecidableEq

/-- A market: two mints, a vault of each, and the two keys that may act for it.
    The vaults belong to `vaultAuthority`, which is derived from the market's
    address. -/
structure MarketConfig where
  protocolConfig : Pubkey
  admin : Pubkey
  settlementAuthority : Pubkey
  baseMint : Pubkey
  quoteMint : Pubkey
  baseVault : Pubkey
  quoteVault : Pubkey
  vaultAuthority : Pubkey
  vaultAuthorityBump : Byte
  paused : Bool
  bump : Byte
deriving DecidableEq

namespace MarketConfig

/-- The mint of an asset. Deposits and withdrawals check the mint they were
    given against this one. -/
def mint (market : MarketConfig) : CustodyAsset → Pubkey
  | .base => market.baseMint
  | .quote => market.quoteMint

/-- The vault of an asset, from which withdrawals of it are paid. -/
def vault (market : MarketConfig) : CustodyAsset → Pubkey
  | .base => market.baseVault
  | .quote => market.quoteVault

end MarketConfig

/-- What a trader may withdraw or trade with in a market. The tokens themselves
    lie in the vaults of the market, mixed with those of all other traders. -/
structure TraderMarketBalance where
  marketConfig : Pubkey
  trader : Pubkey
  availableBase : Word 64
  availableQuote : Word 64
  bump : Byte
deriving DecidableEq

namespace TraderMarketBalance

/-- The record of an account just created, all bytes zero. Only a deposit
    creates it, and then fills in whose it is; a settlement needs both records
    to exist. -/
def zeroed : TraderMarketBalance := ⟨Pubkey.default, Pubkey.default, 0, 0, 0⟩

/-- What is available of an asset, so that statements about both assets need not
    be made twice. -/
def available (balance : TraderMarketBalance) : CustodyAsset → Word 64
  | .base => balance.availableBase
  | .quote => balance.availableQuote

end TraderMarketBalance

/-- What is left behind by a settlement. Its address is derived from the market
    and the settlement id, which is why an id can be settled only once. -/
structure SettlementReceipt where
  marketConfig : Pubkey
  settlementId : Word 64
  buyer : Pubkey
  seller : Pubkey
  buyerOrderHash : Hash
  sellerOrderHash : Hash
  baseAmount : Word 64
  quoteAmount : Word 64
  bump : Byte
deriving DecidableEq

/-- How far an order has been filled, at an address derived from its hash. It
    lives on after the order, as otherwise a cancelled or filled order could be
    replayed. -/
structure OrderFillState where
  marketConfig : Pubkey
  orderHash : Hash
  filledQuantity : Word 64
  cancelled : Bool
  bump : Byte
deriving DecidableEq

/-- The record of an account just created, all bytes zero. Settling and
    cancelling both create it when they are the first to touch the order, and
    tell by the default key that they were. -/
def OrderFillState.zeroed : OrderFillState := ⟨Pubkey.default, 0, 0, false, 0⟩

/-- The errors of the program. The checks that Anchor makes on its own account
    constraints have errors of their own and are not among these. -/
inductive ErrorCode where
  | sameMarketMints
  | sameMarketVaults
  | unauthorizedAdmin
  | unauthorizedSettlementAuthority
  | marketPaused
  | invalidSettlementAmount
  | invalidSignedOrder
  | signedOrderExpired
  | signedOrderPricesDoNotCross
  | fillPriceOutsideSignedOrder
  | fillQuantityExceedsSignedOrder
  | invalidEd25519Instruction
  | orderHashMismatch
  | orderCancelled
  | orderFillStateMismatch
  | invalidDepositAmount
  | invalidWithdrawAmount
  | invalidDepositMint
  | invalidDepositSource
  | invalidWithdrawMint
  | invalidWithdrawDestination
  | invalidMarketVault
  | invalidMarketVaultAuthority
  | insufficientAvailableBalance
  | settlementBalanceOverflow
  | balanceOverflow
deriving DecidableEq

/-! ### The bytes of keys and numbers -/

@[simp] theorem length_pubkeyBytes (key : Pubkey) : key.bytes.length = 32 := length_leBytes 32 _

@[simp] theorem length_u64Bytes (n : Word 64) : (u64Bytes n).length = 8 := length_leBytes 8 _

/-- Keys with the same bytes are the same key. With the fixed lengths above this
    is what lets preimages be read back field by field. -/
theorem pubkeyBytes_injective {a b : Pubkey} (h : a.bytes = b.bytes) : a = b :=
  leBytes_injective (n := 32) h

/-- Numbers with the same eight bytes are the same number. -/
theorem u64Bytes_injective {a b : Word 64} (h : u64Bytes a = u64Bytes b) : a = b :=
  leBytes_injective (n := 8) h

end Settlement

end SolanaLab
