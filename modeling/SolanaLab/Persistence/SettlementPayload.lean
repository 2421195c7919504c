import SolanaLab.Library.Base58
import SolanaLab.Persistence.EventRecord
import SolanaLab.Relayer.Outbox

/-!
# Settlement Payloads

How a settlement request is stored in the outbox, and how a worker reads it
back.

A payload has the shape of a request with texts for keys and sides, and lists
of bytes for signatures. All its numbers have 64 bits, so every payload can be
written. What may fail is the way back, and `into_request` turns away every
payload that no request has: `intoRequest_sound`.

How a key is printed and parsed is not decided here. It is taken as a pair of
functions of which the second undoes the first; `base58` is the pair the
program uses.

## Main definitions

* `PubkeyText`: How keys are printed and parsed.
* `SettlementRequestPayload`: The stored form of a request, with those of a
  fill and a signed order.
* `SettlementRequestPayload.fromRequest`,
  `SettlementRequestPayload.intoRequest`: The two conversions.
* `claimedItem`: A claimed row read back.

## Theorems

* `intoRequest_fromRequest`: A request is read back from its payload.
* `intoRequest_sound`: What a payload that is read back satisfies.
* `settlementPayload_roundTrip`: A stored request is claimed as it was stored.
-/

namespace SolanaLab

namespace Persistence

open Checked Json Relayer
open ApplicationSettlementBridge (sampleRequest)
open Settlement (Pubkey Hash SignedOrderSide sampleAsk)

/-- `Pubkey::to_string` and `Pubkey::from_str`, the latter with the text of its
    error. -/
structure PubkeyText where
  toString : Pubkey → String
  fromStr : String → Except String Pubkey

/-! ### Payloads -/

/-- `SignedOrderPayload` of the outbox. -/
structure SignedOrderPayload where
  orderId : Word 64
  marketConfig : String
  trader : String
  side : String
  price : Word 64
  quantity : Word 64
  nonce : Word 64
  expirySlot : Word 64
deriving DecidableEq

/-- The arguments of a settlement, with the two orders as payloads. -/
structure SignedFillPayload where
  settlementId : Word 64
  fillPrice : Word 64
  fillQuantity : Word 64
  buyerOrderHash : Hash
  sellerOrderHash : Hash
  buyerOrder : SignedOrderPayload
  buyerSignature : List Byte
  sellerOrder : SignedOrderPayload
  sellerSignature : List Byte
deriving DecidableEq

/-- A request, with its keys as texts. -/
structure SettlementRequestPayload where
  settlementAuthority : String
  baseMint : String
  quoteMint : String
  buyer : String
  seller : String
  payer : String
  args : SignedFillPayload
deriving DecidableEq

variable (keys : PubkeyText)

/-- `parse_pubkey`. -/
def parsePubkey (value : String) : Except PersistenceError Pubkey :=
  (keys.fromStr value).mapError .serde

/-- `vec_to_signature`. A list of another length than 64 is an error, and not
    cut or filled up. -/
def vecToSignature (value : List Byte) : Except PersistenceError Settlement.Signature :=
  okOr (wordOfBytes 512 value) (.serde "signature must be 64 bytes")

/-- `SignedOrderPayload::from_order`. -/
def SignedOrderPayload.fromOrder (order : Settlement.SignedOrderPayload) :
    SignedOrderPayload where
  orderId := order.orderId
  marketConfig := keys.toString order.marketConfig
  trader := keys.toString order.trader
  side :=
    match order.side with
    | .bid => "bid"
    | .ask => "ask"
  price := order.price
  quantity := order.quantity
  nonce := order.nonce
  expirySlot := order.expirySlot

/-- The side of a text, in `SignedOrderPayload::into_order`. -/
def parseSide : String → Except PersistenceError SignedOrderSide
  | "bid" => .ok .bid
  | "ask" => .ok .ask
  | side => .error (.serde ("unknown order side: " ++ side))

/-- `SignedOrderPayload::into_order`. -/
def SignedOrderPayload.intoOrder (payload : SignedOrderPayload) :
    Except PersistenceError Settlement.SignedOrderPayload := do
  let marketConfig ← parsePubkey keys payload.marketConfig
  let trader ← parsePubkey keys payload.trader
  let side ← parseSide payload.side
  return {
    orderId := payload.orderId
    marketConfig
    trader
    side
    price := payload.price
    quantity := payload.quantity
    nonce := payload.nonce
    expirySlot := payload.expirySlot }

/-- `SignedFillPayload::from_args`. -/
def SignedFillPayload.fromArgs (args : Settlement.SignedFillArgs) : SignedFillPayload where
  settlementId := args.settlementId
  fillPrice := args.fillPrice
  fillQuantity := args.fillQuantity
  buyerOrderHash := args.buyerOrderHash
  sellerOrderHash := args.sellerOrderHash
  buyerOrder := .fromOrder keys args.buyerOrder
  buyerSignature := args.buyerSignature.bytes
  sellerOrder := .fromOrder keys args.sellerOrder
  sellerSignature := args.sellerSignature.bytes

/-- `SignedFillPayload::into_args`. -/
def SignedFillPayload.intoArgs (payload : SignedFillPayload) :
    Except PersistenceError Settlement.SignedFillArgs := do
  let buyerOrder ← payload.buyerOrder.intoOrder keys
  let buyerSignature ← vecToSignature payload.buyerSignature
  let sellerOrder ← payload.sellerOrder.intoOrder keys
  let sellerSignature ← vecToSignature payload.sellerSignature
  return {
    settlementId := payload.settlementId
    fillPrice := payload.fillPrice
    fillQuantity := payload.fillQuantity
    buyerOrderHash := payload.buyerOrderHash
    sellerOrderHash := payload.sellerOrderHash
    buyerOrder
    buyerSignature
    sellerOrder
    sellerSignature }

/-- `SettlementRequestPayload::from_request`. -/
def SettlementRequestPayload.fromRequest (request : SignedSettlementRequest) :
    SettlementRequestPayload where
  settlementAuthority := keys.toString request.settlementAuthority
  baseMint := keys.toString request.baseMint
  quoteMint := keys.toString request.quoteMint
  buyer := keys.toString request.buyer
  seller := keys.toString request.seller
  payer := keys.toString request.payer
  args := .fromArgs keys request.args

/-- `SettlementRequestPayload::into_request`. -/
def SettlementRequestPayload.intoRequest (payload : SettlementRequestPayload) :
    Except PersistenceError SignedSettlementRequest := do
  let settlementAuthority ← parsePubkey keys payload.settlementAuthority
  let baseMint ← parsePubkey keys payload.baseMint
  let quoteMint ← parsePubkey keys payload.quoteMint
  let buyer ← parsePubkey keys payload.buyer
  let seller ← parsePubkey keys payload.seller
  let payer ← parsePubkey keys payload.payer
  let args ← payload.args.intoArgs keys
  return { settlementAuthority, baseMint, quoteMint, buyer, seller, payer, args }

/-! ### Their JSON -/

/-- An object with the fields of the payload. -/
def SignedOrderPayload.codec : Codec SignedOrderPayload :=
  .record (.as
    ((Fields.field "order_id" (.unsigned 64)).and <|
      (Fields.field "market_config" .string).and <|
      (Fields.field "trader" .string).and <|
      (Fields.field "side" .string).and <|
      (Fields.field "price" (.unsigned 64)).and <|
      (Fields.field "quantity" (.unsigned 64)).and <|
      (Fields.field "nonce" (.unsigned 64)).and <|
      Fields.field "expiry_slot" (.unsigned 64))
    (fun (orderId, marketConfig, trader, side, price, quantity, nonce, expirySlot) =>
      { orderId, marketConfig, trader, side, price, quantity, nonce, expirySlot })
    (fun p => (p.orderId, p.marketConfig, p.trader, p.side, p.price, p.quantity, p.nonce,
      p.expirySlot)) (fun _ => rfl)) (by decide)

/-- An object in which signatures are lists of numbers. -/
def SignedFillPayload.codec : Codec SignedFillPayload :=
  .record (.as
    ((Fields.field "settlement_id" (.unsigned 64)).and <|
      (Fields.field "fill_price" (.unsigned 64)).and <|
      (Fields.field "fill_quantity" (.unsigned 64)).and <|
      (Fields.field "buyer_order_hash" (.byteArray 32)).and <|
      (Fields.field "seller_order_hash" (.byteArray 32)).and <|
      (Fields.field "buyer_order" SignedOrderPayload.codec).and <|
      (Fields.field "buyer_signature" (.list (.unsigned 8))).and <|
      (Fields.field "seller_order" SignedOrderPayload.codec).and <|
      Fields.field "seller_signature" (.list (.unsigned 8)))
    (fun (settlementId, fillPrice, fillQuantity, buyerOrderHash, sellerOrderHash, buyerOrder,
        buyerSignature, sellerOrder, sellerSignature) =>
      { settlementId, fillPrice, fillQuantity, buyerOrderHash, sellerOrderHash, buyerOrder,
        buyerSignature, sellerOrder, sellerSignature })
    (fun p => (p.settlementId, p.fillPrice, p.fillQuantity, p.buyerOrderHash, p.sellerOrderHash,
      p.buyerOrder, p.buyerSignature, p.sellerOrder, p.sellerSignature)) (fun _ => rfl))
    (by decide)

/-- An object with the keys and the arguments. -/
def SettlementRequestPayload.codec : Codec SettlementRequestPayload :=
  .record (.as
    ((Fields.field "settlement_authority" .string).and <|
      (Fields.field "base_mint" .string).and <|
      (Fields.field "quote_mint" .string).and <|
      (Fields.field "buyer" .string).and <|
      (Fields.field "seller" .string).and <|
      (Fields.field "payer" .string).and <|
      Fields.field "args" SignedFillPayload.codec)
    (fun (settlementAuthority, baseMint, quoteMint, buyer, seller, payer, args) =>
      { settlementAuthority, baseMint, quoteMint, buyer, seller, payer, args })
    (fun p => (p.settlementAuthority, p.baseMint, p.quoteMint, p.buyer, p.seller, p.payer,
      p.args)) (fun _ => rfl)) (by decide)

/-- A row of `claim_pending_settlements` read back. -/
def claimedItem (outboxId : OutboxId) (attempts maxAttempts : Nat) (requestPayload : Json) :
    Except PersistenceError SettlementOutboxItem := do
  let payload ← fromValue SettlementRequestPayload.codec requestPayload
  let request ← payload.intoRequest keys
  return { outboxId, attempts, maxAttempts, request }

/-! ### There and back -/

section RoundTrip

variable {keys} (hkeys : ∀ key, keys.fromStr (keys.toString key) = .ok key)

include hkeys

/-- A key that was printed is parsed. -/
theorem parsePubkey_toString (key : Pubkey) :
    parsePubkey keys (keys.toString key) = .ok key := by
  rw [parsePubkey, hkeys]
  rfl

/-- An order is read back as it was. Its side is one of the two texts, and its
    hash and its numbers are written as they are. -/
theorem intoOrder_fromOrder_signed (order : Settlement.SignedOrderPayload) :
    (SignedOrderPayload.fromOrder keys order).intoOrder keys = .ok order := by
  have hside : parseSide (SignedOrderPayload.fromOrder keys order).side = .ok order.side := by
    rw [SignedOrderPayload.fromOrder]
    cases order.side <;> rfl
  exact bind_eq_ok.mpr ⟨_, parsePubkey_toString hkeys order.marketConfig,
    bind_eq_ok.mpr ⟨_, parsePubkey_toString hkeys order.trader,
      bind_eq_ok.mpr ⟨_, hside, rfl⟩⟩⟩

omit hkeys in
/-- The bytes of a signature are 64, and give it back. -/
theorem vecToSignature_bytes (signature : Settlement.Signature) :
    vecToSignature signature.bytes = .ok signature :=
  okOr_eq_ok.mpr (wordOfBytes_leBytes (by norm_num) signature)

/-- The arguments are read back as they were. -/
theorem intoArgs_fromArgs (args : Settlement.SignedFillArgs) :
    (SignedFillPayload.fromArgs keys args).intoArgs keys = .ok args :=
  bind_eq_ok.mpr ⟨_, intoOrder_fromOrder_signed hkeys args.buyerOrder,
    bind_eq_ok.mpr ⟨_, vecToSignature_bytes args.buyerSignature,
      bind_eq_ok.mpr ⟨_, intoOrder_fromOrder_signed hkeys args.sellerOrder,
        bind_eq_ok.mpr ⟨_, vecToSignature_bytes args.sellerSignature, rfl⟩⟩⟩⟩

/-- A request is read back from its payload. -/
theorem intoRequest_fromRequest (request : SignedSettlementRequest) :
    (SettlementRequestPayload.fromRequest keys request).intoRequest keys = .ok request :=
  bind_eq_ok.mpr ⟨_, parsePubkey_toString hkeys request.settlementAuthority,
    bind_eq_ok.mpr ⟨_, parsePubkey_toString hkeys request.baseMint,
      bind_eq_ok.mpr ⟨_, parsePubkey_toString hkeys request.quoteMint,
        bind_eq_ok.mpr ⟨_, parsePubkey_toString hkeys request.buyer,
          bind_eq_ok.mpr ⟨_, parsePubkey_toString hkeys request.seller,
            bind_eq_ok.mpr ⟨_, parsePubkey_toString hkeys request.payer,
              bind_eq_ok.mpr ⟨_, intoArgs_fromArgs hkeys request.args, rfl⟩⟩⟩⟩⟩⟩⟩

end RoundTrip

/-! ### What can be written -/

/-- The numbers of an order have 64 bits at most, here also its ids. -/
theorem SignedOrderPayload.fits (p : SignedOrderPayload) : SignedOrderPayload.codec.Fits p :=
  ⟨p.orderId.isLt, trivial, trivial, trivial, p.price.isLt, p.quantity.isLt, p.nonce.isLt,
    p.expirySlot.isLt⟩

/-- A byte can be written. -/
theorem byte_fits (b : Byte) : (Codec.unsigned 8).Fits b :=
  b.isLt.trans (Nat.pow_lt_pow_right Nat.one_lt_two (by decide))

/-- Every payload can be written: none of its numbers has more than 64 bits. -/
theorem SettlementRequestPayload.fits (p : SettlementRequestPayload) :
    SettlementRequestPayload.codec.Fits p := by
  have hargs : SignedFillPayload.codec.Fits p.args :=
    ⟨p.args.settlementId.isLt, p.args.fillPrice.isLt, p.args.fillQuantity.isLt, trivial, trivial,
      p.args.buyerOrder.fits, fun b _ => byte_fits b, p.args.sellerOrder.fits,
      fun b _ => byte_fits b⟩
  exact ⟨trivial, trivial, trivial, trivial, trivial, trivial, hargs⟩

-- From here on the codec is known by its laws, and nothing evaluates it.
attribute [irreducible] SettlementRequestPayload.codec

/-- Every request has a payload in JSON. -/
theorem exists_toValue (request : SignedSettlementRequest) :
    ∃ json, toValue SettlementRequestPayload.codec (.fromRequest keys request) = .ok json := by
  rcases (SettlementRequestPayload.codec.write_isOk (.fromRequest keys request)).mpr
    (SettlementRequestPayload.fits _) with ⟨json, hwrite⟩
  exact ⟨json, toValue_eq_ok.mpr hwrite⟩

/-! ### What is read back -/

section Sound

variable {keys}

/-- There are two texts that are sides. -/
theorem parseSide_eq_ok {text : String} {side : SignedOrderSide} (h : parseSide text = .ok side) :
    text = "bid" ∨ text = "ask" := by
  unfold parseSide at h
  split at h
  · exact Or.inl rfl
  · exact Or.inr rfl
  · exact absurd h (by simp only [reduceCtorEq, not_false_eq_true])

/-- So an order that is read back had one of them. -/
theorem intoOrder_side {payload : SignedOrderPayload} {order : Settlement.SignedOrderPayload}
    (h : payload.intoOrder keys = .ok order) : payload.side = "bid" ∨ payload.side = "ask" := by
  rcases bind_eq_ok.mp h with ⟨_, -, h⟩
  rcases bind_eq_ok.mp h with ⟨_, -, h⟩
  rcases bind_eq_ok.mp h with ⟨side, hside, -⟩
  exact parseSide_eq_ok hside

/-- A signature that is read back had 64 bytes. -/
theorem vecToSignature_length {value : List Byte} {signature : Settlement.Signature}
    (h : vecToSignature value = .ok signature) : value.length = 64 := by
  have hword := okOr_eq_ok.mp h
  unfold wordOfBytes at hword
  by_cases hlen : 8 * value.length = 512
  · omega
  · rw [dif_neg hlen] at hword
    exact absurd hword (by simp only [reduceCtorEq, not_false_eq_true])

/-- A payload that is read back has two sides that exist and two signatures of
    64 bytes. -/
theorem intoRequest_sound {payload : SettlementRequestPayload} {request : SignedSettlementRequest}
    (h : payload.intoRequest keys = .ok request) :
    (payload.args.buyerSignature.length = 64 ∧ payload.args.sellerSignature.length = 64) ∧
      (payload.args.buyerOrder.side = "bid" ∨ payload.args.buyerOrder.side = "ask") ∧
      (payload.args.sellerOrder.side = "bid" ∨ payload.args.sellerOrder.side = "ask") := by
  rcases bind_eq_ok.mp h with ⟨_, -, h⟩
  rcases bind_eq_ok.mp h with ⟨_, -, h⟩
  rcases bind_eq_ok.mp h with ⟨_, -, h⟩
  rcases bind_eq_ok.mp h with ⟨_, -, h⟩
  rcases bind_eq_ok.mp h with ⟨_, -, h⟩
  rcases bind_eq_ok.mp h with ⟨_, -, h⟩
  -- The args are parsed last; their own parse checks sides and signatures.
  rcases bind_eq_ok.mp h with ⟨args, hargs, -⟩
  rcases bind_eq_ok.mp hargs with ⟨_, hbuyer, hargs⟩
  rcases bind_eq_ok.mp hargs with ⟨_, hbuyerSignature, hargs⟩
  rcases bind_eq_ok.mp hargs with ⟨_, hseller, hargs⟩
  rcases bind_eq_ok.mp hargs with ⟨_, hsellerSignature, -⟩
  exact ⟨⟨vecToSignature_length hbuyerSignature, vecToSignature_length hsellerSignature⟩,
    intoOrder_side hbuyer, intoOrder_side hseller⟩

end Sound

/-- When keys are parsed as they were printed, every request can be stored, is
    read back as it was, and is claimed as it was; and no payload with a
    signature of another length or another side is read back at all. -/
theorem settlementPayload_roundTrip (keys : PubkeyText)
    (hkeys : ∀ key, keys.fromStr (keys.toString key) = .ok key) :
    (∀ request, ∃ json,
      toValue SettlementRequestPayload.codec (.fromRequest keys request) = .ok json ∧
      (do (← fromValue SettlementRequestPayload.codec json).intoRequest keys) = .ok request ∧
      ∀ id attempts maxAttempts,
        claimedItem keys id attempts maxAttempts json = .ok ⟨id, attempts, maxAttempts, request⟩) ∧
    ∀ payload : SettlementRequestPayload,
      payload.args.buyerSignature.length ≠ 64 ∨ payload.args.sellerSignature.length ≠ 64 ∨
        payload.args.buyerOrder.side ∉ ["bid", "ask"] ∨
        payload.args.sellerOrder.side ∉ ["bid", "ask"] →
      ∀ request, payload.intoRequest keys ≠ .ok request := by
  constructor
  · intro request
    rcases exists_toValue keys request with ⟨json, hvalue⟩
    -- Reading undoes writing twice: the tree gives the payload and the payload the
    -- request.
    have hread : (do (← fromValue SettlementRequestPayload.codec json).intoRequest keys)
        = .ok request :=
      bind_eq_ok.mpr ⟨_, fromValue_toValue hvalue, intoRequest_fromRequest hkeys request⟩
    refine ⟨json, hvalue, hread, fun id attempts maxAttempts => ?_⟩
    exact bind_eq_ok.mpr ⟨_, fromValue_toValue hvalue,
      bind_eq_ok.mpr ⟨_, intoRequest_fromRequest hkeys request, rfl⟩⟩
  · -- What is accepted has both sides and both lengths right.
    intro payload hbad request hok
    rcases intoRequest_sound hok with ⟨⟨hbuyer, hseller⟩, hbuyerSide, hsellerSide⟩
    simp only [List.mem_cons, List.not_mem_nil, or_false] at hbad
    rcases hbad with hbad | hbad | hbad | hbad
    · exact hbad hbuyer
    · exact hbad hseller
    · exact hbad hbuyerSide
    · exact hbad hsellerSide

/-- Keys in base 58, as `Pubkey` prints them. -/
def base58 : PubkeyText where
  toString key := Base58.encode key.bytes
  fromStr text :=
    match Base58.decode text with
    | none => .error "Invalid Base58 string"
    | some bytes => okOr (wordOfBytes 256 bytes) "String is the wrong size"

/-- Printing in base 58 and parsing undo one another, as the digits determine
    the number and the length is fixed. -/
theorem base58_inverse (key : Pubkey) : base58.fromStr (base58.toString key) = .ok key := by
  have hdecode : Base58.decode (base58.toString key) = some key.bytes :=
    Base58.decode_encode key.bytes
  simp only [base58] at hdecode ⊢
  rw [hdecode]
  exact okOr_eq_ok.mpr (wordOfBytes_leBytes (by norm_num) key)

/-- A request whose keys are printed in base 58. -/
theorem settlementPayload_roundTrip_base58 :
    ∃ json,
      toValue SettlementRequestPayload.codec (.fromRequest base58 (sampleRequest sampleAsk))
        = .ok json ∧
      (do (← fromValue SettlementRequestPayload.codec json).intoRequest base58)
        = .ok (sampleRequest sampleAsk) := by
  rcases (settlementPayload_roundTrip base58 base58_inverse).1 (sampleRequest sampleAsk) with
    ⟨json, hwritten, hread, -⟩
  exact ⟨json, hwritten, hread⟩

end Persistence

end SolanaLab
