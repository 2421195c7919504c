import SolanaLab.Library.SortedMap
import SolanaLab.Settlement.State

/-!
# Accounts and Addresses

What the settlement program relies on from its framework and its runtime: the
account store, the checks declared on the accounts of an instruction, and the
addresses derived from seeds.

`Runtime` holds the functions that are not the program's own: the derivation
of addresses, the hash function and signature verification. Nothing is known
of them here. What a result needs of the derivation is `Separates`: among the
seeds of one run, seeds that spell different bytes have different addresses.
`spelling_injective` turns this into a statement about the seeds themselves,
since the seeds the program uses never spell the same bytes unless they are
the same.

An account of the store knows the seeds its contents belong to. `Placed` says
that every account sits at their address, which makes a lookup by address and
a search by contents the same thing.

The framework makes its checks before the program's own code runs, so they come
first in every handler. Each check is a small function with the error the
framework gives, and a lemma that says when it passes.

## Main definitions

* `Runtime`: The functions of the runtime.
* `Env`: What an instruction sees of its transaction.
* `Seeds`: The seeds of the program's addresses.
* `Account`: The contents of an account of the program.
* `load`: The record of an account that must exist.
* `init`: The check of an account that must not exist yet.
* `initIfNeeded`: The record of an account, all zero if it did not exist.
* `Placed`: Every account sits at the address of its contents.

## Theorems

* `spelling_injective`: Different seeds spell different bytes.
* `address_injective`: Different seeds have different addresses.
* `get?_of_placed`: The account at an address has the contents it is for.
* `placed_insert`: Writing an account to its address keeps all in place.
-/

namespace SolanaLab

namespace Settlement

open Checked

/-- The errors of the framework's checks, as far as a declaration of this
    program can lead to them. -/
inductive AnchorError where
  | accountNotInitialized
  | accountAlreadyInUse
  | accountDiscriminatorMismatch
  | accountNotSigner
  | constraintSeeds
  | constraintHasOne
  | constraintRaw
  | constraintAddress
  | constraintDuplicateMutableAccount
deriving DecidableEq

/-- The errors of a transfer that can be told apart from outside. -/
inductive TokenError where
  | insufficientFunds
  | mintMismatch
  | decimalsMismatch
  | ownerMismatch
  | overflow
deriving DecidableEq

/-- The ways an instruction can fail. `runtime` is a failure for a reason
    outside this development, such as rent, a compute limit or a frozen token
    account; it is always possible, and so never ruled out by a theorem. -/
inductive ProgramError where
  | code (e : ErrorCode)
  | anchor (e : AnchorError)
  | token (e : TokenError)
  | unsupportedSysvar
  | invalidArgument
  | runtime
deriving DecidableEq

/-- The functions of the runtime, with the seeds of addresses given for this
    program. Nothing is assumed of them here: results that need, say, that two
    addresses differ state it as a hypothesis. -/
structure Runtime where
  createProgramAddress : List (List Byte) → Option Pubkey
  findProgramAddress : List (List Byte) → Pubkey × Byte
  sha256 : List Byte → Hash
  /-- Key, signature and message. -/
  ed25519Verify : List Byte → List Byte → List Byte → Bool
  ed25519Program : Pubkey
  instructionsSysvar : Pubkey

/-- An instruction of a transaction, as the instructions sysvar shows it. -/
structure RawInstruction where
  programId : Pubkey
  accounts : List Pubkey
  data : List Byte
deriving DecidableEq

/-- What an instruction sees of its transaction: who signed, the current slot,
    all instructions and the index of the current one. `refused` says that the
    runtime fails the instruction for a reason of its own. -/
structure Env where
  signers : List Pubkey
  slot : Word 64
  instructions : List RawInstruction
  currentIndex : Nat
  refused : Bool
deriving DecidableEq

/-! ### Seeds -/

/-- `PROTOCOL_CONFIG_SEED`: `protocol`. -/
def protocolConfigSeed : List Byte := [112, 114, 111, 116, 111, 99, 111, 108]

/-- `MARKET_CONFIG_SEED`: `market`. -/
def marketConfigSeed : List Byte := [109, 97, 114, 107, 101, 116]

/-- `ORDER_FILL_STATE_SEED`: `order_fill`. -/
def orderFillStateSeed : List Byte := [111, 114, 100, 101, 114, 95, 102, 105, 108, 108]

/-- `SETTLEMENT_RECEIPT_SEED`: `settlement`. -/
def settlementReceiptSeed : List Byte := [115, 101, 116, 116, 108, 101, 109, 101, 110, 116]

/-- `TRADER_MARKET_BALANCE_SEED`: `trader_balance`. -/
def traderMarketBalanceSeed : List Byte :=
  [116, 114, 97, 100, 101, 114, 95, 98, 97, 108, 97, 110, 99, 101]

/-- `VAULT_AUTHORITY_SEED`: `vault_authority`. -/
def vaultAuthoritySeed : List Byte :=
  [118, 97, 117, 108, 116, 95, 97, 117, 116, 104, 111, 114, 105, 116, 121]

/-- What the addresses of the program's accounts are derived from, one
    constructor for each declaration in the source. -/
inductive Seeds where
  | protocolConfig
  | marketConfig (baseMint quoteMint : Pubkey)
  | vaultAuthority (marketConfig : Pubkey)
  | traderBalance (marketConfig trader : Pubkey)
  | settlementReceipt (marketConfig : Pubkey) (settlementId : Word 64)
  | orderFillState (marketConfig : Pubkey) (orderHash : Hash)
deriving DecidableEq

namespace Seeds

/-- The seeds as the program lists them, without the bump. Settlement ids are
    numbers, everything else a key or a hash. -/
def bytes : Seeds → List (List Byte)
  | protocolConfig => [protocolConfigSeed]
  | marketConfig baseMint quoteMint => [marketConfigSeed, baseMint.bytes, quoteMint.bytes]
  | vaultAuthority market => [vaultAuthoritySeed, market.bytes]
  | traderBalance market trader => [traderMarketBalanceSeed, market.bytes, trader.bytes]
  | settlementReceipt market settlementId =>
    [settlementReceiptSeed, market.bytes, u64Bytes settlementId]
  | orderFillState market orderHash => [orderFillStateSeed, market.bytes, Hash.bytes orderHash]

/-- What the seeds spell. An address is derived from these bytes, so how they
    were cut into seeds is lost. -/
def spelling (s : Seeds) : List Byte := s.bytes.flatten

/-- How many bytes the seeds spell. The widths of the kinds are all different. -/
def width : Seeds → Nat
  | protocolConfig => 8
  | marketConfig _ _ => 70
  | vaultAuthority _ => 47
  | traderBalance _ _ => 78
  | settlementReceipt _ _ => 50
  | orderFillState _ _ => 74

end Seeds

namespace Runtime

/-- The address of seeds, under the bump that is found for them: the one at
    which the framework creates an account. -/
def address (rt : Runtime) (s : Seeds) : Pubkey := (rt.findProgramAddress s.bytes).1

/-- The bump found for seeds. -/
def bump (rt : Runtime) (s : Seeds) : Byte := (rt.findProgramAddress s.bytes).2

/-- Seeds of a list that spell different bytes have different addresses. It is
    asked for the seeds of one run only, since no hash function can satisfy it
    for all. -/
def Separates (rt : Runtime) (seeds : List Seeds) : Prop :=
  ∀ s ∈ seeds, ∀ s' ∈ seeds, rt.address s = rt.address s' → s.spelling = s'.spelling

instance (rt : Runtime) (seeds : List Seeds) : Decidable (rt.Separates seeds) :=
  inferInstanceAs (Decidable (∀ s ∈ seeds, ∀ s' ∈ seeds,
    rt.address s = rt.address s' → s.spelling = s'.spelling))

end Runtime

/-! ### The account store -/

/-- The contents of an account of the program, told apart by their
    discriminator. -/
inductive Account where
  | protocolConfig (config : ProtocolConfig)
  | marketConfig (config : MarketConfig)
  | traderMarketBalance (balance : TraderMarketBalance)
  | settlementReceipt (receipt : SettlementReceipt)
  | orderFillState (fillState : OrderFillState)
deriving DecidableEq

/-- The accounts of the program, by address. -/
abbrev Accounts := SortedMap Pubkey Account

namespace Account

/-- The record, if the account is of this kind. The four projections are what
    the typed accounts of the declarations come to. -/
def protocolConfig? : Account → Option ProtocolConfig
  | .protocolConfig config => some config
  | _ => none

/-- The configuration, if the account is of a market. -/
def marketConfig? : Account → Option MarketConfig
  | .marketConfig config => some config
  | _ => none

/-- The balance, if the account is of a trader. -/
def traderMarketBalance? : Account → Option TraderMarketBalance
  | .traderMarketBalance balance => some balance
  | _ => none

/-- The fill state, if the account is of a signed order. -/
def orderFillState? : Account → Option OrderFillState
  | .orderFillState fillState => some fillState
  | _ => none

/-- The seeds that contents belong to. They can be read off the contents since
    each record repeats the keys and numbers its address is derived from. -/
def seeds : Account → Seeds
  | .protocolConfig _ => .protocolConfig
  | .marketConfig config => .marketConfig config.baseMint config.quoteMint
  | .traderMarketBalance balance => .traderBalance balance.marketConfig balance.trader
  | .settlementReceipt receipt => .settlementReceipt receipt.marketConfig receipt.settlementId
  | .orderFillState fillState => .orderFillState fillState.marketConfig fillState.orderHash

/-- A lookup that found a market found this account. -/
theorem marketConfig?_eq_some {a : Account} {c : MarketConfig} :
    a.marketConfig? = some c ↔ a = .marketConfig c := by
  cases a <;> simp only [marketConfig?, reduceCtorEq, Option.some.injEq, marketConfig.injEq]

/-- A lookup that found a balance found this account. -/
theorem traderMarketBalance?_eq_some {a : Account} {b : TraderMarketBalance} :
    a.traderMarketBalance? = some b ↔ a = .traderMarketBalance b := by
  cases a <;> simp only [traderMarketBalance?, reduceCtorEq, Option.some.injEq,
    traderMarketBalance.injEq]

/-- A lookup that found a fill state found this account. -/
theorem orderFillState?_eq_some {a : Account} {s : OrderFillState} :
    a.orderFillState? = some s ↔ a = .orderFillState s := by
  cases a <;> simp only [orderFillState?, reduceCtorEq, Option.some.injEq, orderFillState.injEq]

end Account

/-- `Account::try_from`: an account that must exist and hold a record of one
    kind. The discriminator is looked at only when there is an account. -/
def load {α : Type} (kind : Account → Option α) (accounts : Accounts) (key : Pubkey) :
    Except ProgramError α :=
  match accounts.get? key with
  | none => .error (.anchor .accountNotInitialized)
  | some account => okOr (kind account) (.anchor .accountDiscriminatorMismatch)

/-- `init`: an account at the address of its seeds that does not exist yet. This
    is the check that makes a second settlement under the same id fail. -/
def init (rt : Runtime) (accounts : Accounts) (key : Pubkey) (s : Seeds) :
    Except ProgramError Unit := do
  require (key = rt.address s) (.anchor .constraintSeeds)
  require (accounts.get? key = none) (.anchor .accountAlreadyInUse)

/-- `init_if_needed`: an account at the address of its seeds. Its record is all
    zero if it did not exist. An account of another kind makes it fail. -/
def initIfNeeded {α : Type} (rt : Runtime) (kind : Account → Option α) (zeroed : α)
    (accounts : Accounts) (key : Pubkey) (s : Seeds) : Except ProgramError α := do
  require (key = rt.address s) (.anchor .constraintSeeds)
  match accounts.get? key with
  | none => .ok zeroed
  | some account => okOr (kind account) (.anchor .accountDiscriminatorMismatch)

/-- `seeds`, with a bump that is given. The framework derives the address anew
    with the stored bump and does not search for one. -/
def checkSeeds (rt : Runtime) (key : Pubkey) (s : Seeds) (bump : Byte) :
    Except ProgramError Unit :=
  require (rt.createProgramAddress (s.bytes ++ [[bump]]) = some key) (.anchor .constraintSeeds)

/-- `Signer`: the key has signed the transaction. -/
def checkSigner (env : Env) (key : Pubkey) : Except ProgramError Unit :=
  require (key ∈ env.signers) (.anchor .accountNotSigner)

/-- `require!` with an error of the program. -/
def requireCode (c : Prop) [Decidable c] (e : ErrorCode) : Except ProgramError Unit :=
  require c (.code e)

/-- An account that was loaded is there and of its kind. -/
theorem load_eq_ok {α : Type} {kind : Account → Option α} {accounts : Accounts} {key : Pubkey}
    {a : α} : load kind accounts key = .ok a ↔
      ∃ account, accounts.get? key = some account ∧ kind account = some a := by
  unfold load
  cases accounts.get? key with
  | none => simp only [reduceCtorEq, false_and, exists_false]
  | some account => simp only [okOr_eq_ok, Option.some.injEq, exists_eq_left']

/-- An account that can be created is at its address and new. -/
theorem init_eq_ok {rt : Runtime} {accounts : Accounts} {key : Pubkey} {s : Seeds} {u : Unit} :
    init rt accounts key s = .ok u ↔ key = rt.address s ∧ accounts.get? key = none := by
  simp only [init, bind_eq_ok, require_eq_ok, exists_const]

/-- An account that may not exist yet is new with a zero record, or it exists
    with a record of the kind. -/
theorem initIfNeeded_eq_ok {α : Type} {rt : Runtime} {kind : Account → Option α} {zeroed a : α}
    {accounts : Accounts} {key : Pubkey} {s : Seeds} :
    initIfNeeded rt kind zeroed accounts key s = .ok a ↔ key = rt.address s ∧
      ((accounts.get? key = none ∧ zeroed = a) ∨
        ∃ account, accounts.get? key = some account ∧ kind account = some a) := by
  simp only [initIfNeeded, bind_eq_ok, require_eq_ok, exists_const]
  refine and_congr_right (fun _ => ?_)
  cases accounts.get? key with
  | none => simp only [Except.ok.injEq, true_and, reduceCtorEq, false_and, exists_false, or_false]
  | some account =>
      simp only [okOr_eq_ok, reduceCtorEq, false_and, Option.some.injEq, exists_eq_left',
        false_or]

theorem requireCode_eq_ok {c : Prop} [Decidable c] {e : ErrorCode} {u : Unit} :
    requireCode c e = .ok u ↔ c := require_eq_ok

theorem checkSigner_eq_ok {env : Env} {key : Pubkey} {u : Unit} :
    checkSigner env key = .ok u ↔ key ∈ env.signers := require_eq_ok

/-! ### Different seeds have different addresses -/

@[simp] theorem length_hashBytes (hash : Hash) : (Hash.bytes hash).length = 32 :=
  length_leBytes 32 _

/-- The width depends on the kind of the seeds only. -/
theorem length_spelling (s : Seeds) : s.spelling.length = s.width := by
  cases s <;> simp only [Seeds.spelling, Seeds.bytes, List.flatten_cons, List.flatten_nil,
    List.append_nil, List.length_append, length_pubkeyBytes, length_hashBytes, length_u64Bytes] <;>
    rfl

/-- Two fields of fixed width after a tag are determined by the bytes of the
    whole. -/
theorem fields_injective {tag a b a' b' : List Byte} (hlen : a.length = a'.length)
    (h : [tag, a, b].flatten = [tag, a', b'].flatten) : a = a' ∧ b = b' := by
  simp only [List.flatten_cons, List.flatten_nil, List.append_nil] at h
  exact List.append_inj (List.append_cancel_left h) hlen

/-- Different seeds spell different bytes: seeds of different kinds differ in
    length, and within a kind the fields have fixed width. -/
theorem spelling_injective {s s' : Seeds} (h : s.spelling = s'.spelling) : s = s' := by
  have hlen := congrArg List.length h
  rw [length_spelling, length_spelling] at hlen
  -- The width of the fixed fields tells the kinds apart, and the fields tell the rest.
  cases s with
  | protocolConfig => cases s' with
    | protocolConfig => rfl
    | _ => exact absurd hlen (by simp only [Seeds.width]; decide)
  -- Where there are two fields, the first one is of a known width.
  | marketConfig base quote => cases s' with
    | marketConfig base' quote' =>
        rcases fields_injective (by simp only [length_pubkeyBytes]) h with ⟨hbase, hquote⟩
        rw [pubkeyBytes_injective hbase, pubkeyBytes_injective hquote]
    | _ => exact absurd hlen (by simp only [Seeds.width]; decide)
  | vaultAuthority m => cases s' with
    | vaultAuthority m' =>
        have hm : m.bytes ++ [] = m'.bytes ++ [] := List.append_cancel_left h
        rw [List.append_nil, List.append_nil] at hm
        rw [pubkeyBytes_injective hm]
    | _ => exact absurd hlen (by simp only [Seeds.width]; decide)
  | traderBalance m t => cases s' with
    | traderBalance m' t' =>
        rcases fields_injective (by simp only [length_pubkeyBytes]) h with ⟨hm, ht⟩
        rw [pubkeyBytes_injective hm, pubkeyBytes_injective ht]
    | _ => exact absurd hlen (by simp only [Seeds.width]; decide)
  | settlementReceipt m i => cases s' with
    | settlementReceipt m' i' =>
        rcases fields_injective (by simp only [length_pubkeyBytes]) h with ⟨hm, hi⟩
        rw [pubkeyBytes_injective hm, u64Bytes_injective hi]
    | _ => exact absurd hlen (by simp only [Seeds.width]; decide)
  | orderFillState m x => cases s' with
    | orderFillState m' x' =>
        rcases fields_injective (by simp only [length_pubkeyBytes]) h with ⟨hm, hx⟩
        rw [pubkeyBytes_injective hm, pubkeyBytes_injective hx]
    | _ => exact absurd hlen (by simp only [Seeds.width]; decide)

/-- Different seeds of the list have different addresses: what `Separates` says
    of the bytes, said of the seeds. -/
theorem address_injective {rt : Runtime} {seeds : List Seeds} (h : rt.Separates seeds)
    {s s' : Seeds} (hs : s ∈ seeds) (hs' : s' ∈ seeds) (heq : rt.address s = rt.address s') :
    s = s' :=
  spelling_injective (h s hs s' hs' heq)

/-- Every account sits at the address of the seeds its contents belong to, and
    these seeds are listed. It holds of no accounts at all and every instruction
    keeps it. -/
def Placed (rt : Runtime) (seeds : List Seeds) (accounts : Accounts) : Prop :=
  ∀ key account, accounts.get? key = some account →
    key = rt.address account.seeds ∧ account.seeds ∈ seeds

section Placement

variable {rt : Runtime} {seeds : List Seeds} {accounts : Accounts}

/-- An account written at the address of its contents keeps the others in place,
    whatever was at that address before. -/
theorem placed_insert (h : Placed rt seeds accounts) {key : Pubkey} {account : Account}
    (hkey : key = rt.address account.seeds) (hmem : account.seeds ∈ seeds) :
    Placed rt seeds (accounts.insert key account) := by
  intro key' account' hget
  rw [SortedMap.get?_insert] at hget
  by_cases hk : key' = key
  · rw [if_pos hk, Option.some.injEq] at hget
    rw [hk, ← hget]
    exact ⟨hkey, hmem⟩
  · rw [if_neg hk] at hget
    exact h key' account' hget

/-- The account at the address of listed seeds has the contents it is for. -/
theorem get?_of_placed (hsep : rt.Separates seeds) (h : Placed rt seeds accounts) {s : Seeds}
    (hs : s ∈ seeds) {account : Account} (hget : accounts.get? (rt.address s) = some account) :
    account.seeds = s := by
  rcases h _ account hget with ⟨hkey, hmem⟩
  exact (address_injective hsep hs hmem hkey).symm

/-- Two accounts with contents for the same seeds are one account. -/
theorem placed_unique (h : Placed rt seeds accounts) {key key' : Pubkey}
    {account account' : Account} (hget : accounts.get? key = some account)
    (hget' : accounts.get? key' = some account') (hseeds : account.seeds = account'.seeds) :
    key = key' := by
  rw [(h key account hget).1, (h key' account' hget').1, hseeds]

end Placement

/-- What is written where it was not looked for leaves a lookup alone. -/
theorem get?_insert_other {accounts : Accounts} {key : Pubkey} {account target : Account}
    (hnew : account ≠ target) (hold : accounts.get? key ≠ some target) (k : Pubkey) :
    (accounts.insert key account).get? k = some target ↔ accounts.get? k = some target := by
  rw [SortedMap.get?_insert]
  by_cases hk : k = key
  · rw [if_pos hk, hk, Option.some.injEq]
    exact iff_of_false hnew hold
  · rw [if_neg hk]

/-! ### Totals over the accounts -/

/-- A quantity added up over the accounts. Sums of balances, of receipts and of
    credits in the results about runs are all of this form. -/
def total (f : Account → Nat) (accounts : Accounts) : Nat := accounts.sumBy (fun _ a => f a)

section Totals

variable {f : Account → Nat} {accounts : Accounts} {key : Pubkey}

/-- An account that is replaced trades its share of the total. -/
theorem total_insert_old {old : Account} (h : accounts.get? key = some old) (account : Account) :
    total f (accounts.insert key account) + f old = total f accounts + f account :=
  SortedMap.sumBy_insert_of_some (fun _ a => f a) accounts account h

/-- An account written at a new address. -/
theorem total_insert_new (h : accounts.get? key = none) (account : Account) :
    total f (accounts.insert key account) = total f accounts + f account :=
  SortedMap.sumBy_insert_of_none (fun _ a => f a) accounts account h

/-- An account written where nothing was counted. -/
theorem total_insert_over (account : Account)
    (hold : ∀ old, accounts.get? key = some old → f old = 0) :
    total f (accounts.insert key account) = total f accounts + f account := by
  rcases hget : accounts.get? key with _ | old
  · exact total_insert_new hget account
  · have hsum := total_insert_old (f := f) hget account
    rw [hold old hget] at hsum
    exact hsum

/-- Accounts that agree on all that is counted have the same total. -/
theorem total_eq_of_get? {accounts' : Accounts} (h : ∀ account, f account ≠ 0 → ∀ key,
    accounts'.get? key = some account ↔ accounts.get? key = some account) :
    total f accounts' = total f accounts :=
  SortedMap.sumBy_eq_of_get? (fun key account hne => h account hne key)

/-- A quantity counted at one address only is the quantity there. -/
theorem total_eq_single (key : Pubkey) (h : ∀ key' account, accounts.get? key' = some account →
    key' ≠ key → f account = 0) : total f accounts = (accounts.get? key).elim 0 f :=
  SortedMap.sumBy_eq_single (fun _ a => f a) accounts key h

end Totals

end Settlement

end SolanaLab
