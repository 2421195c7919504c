import SolanaLab.Stablecoin.Anchor

/-!
# Token-2022

What the stablecoin programs rely on from Token-2022: mints with their supply,
token accounts, and the instructions that change them.

Whoever owns an account can transfer and burn what is in it and close it when
it is empty. A mint may name a permanent delegate, who can do so with every
account of the mint when the mint is given. Only the mint authority can create
tokens.

`Backed` says that the supply of every mint is what its accounts hold. Every
instruction keeps it, so nothing can be burned that is not in an account.

Token-2022 is not part of the repository. The definitions follow its documented
behaviour in the order of its own checks. Nothing is ever frozen: only the
issuer program can sign for the freeze authority it sets, and it has no
instruction that freezes. A delegate a holder approves for one account is left
out, since he can do nothing with it that the holder could not do himself.

Each instruction has a lemma ending in `_eq_ok` that says exactly when it
succeeds and what it leaves behind. The lemmas on the supply, on the settings
of a mint and on `Backed` are drawn from those, one for each instruction, and
are put together again under `TokenInstruction`, so that the programs built on
top have one lemma for whatever a holder may do between two of their own
instructions.

## Main definitions

* `Mint`, `TokenAccount`, `TokenLedger`: The state of Token-2022.
* `createMint`, `createAccount`: What a program does to set a new one up.
* `mintTo`, `burn`, `transfer`, `closeAccount`: The instructions.
* `supply`: The supply of a mint, none if there is no mint.
* `settings`: A mint without its supply.
* `held`: What the accounts of a mint hold.
* `Backed`: The supply of every mint is held.

## Theorems

* `mintTo_eq_ok`, `burn_eq_ok`, `transfer_eq_ok`: What a success does.
* `supply_mintTo`, `supply_burn`: What becomes of the supply.
* `settings_mintTo`, `settings_burn`: Settings stay.
* `backed_mintTo`, `backed_burn`, `backed_transfer`: The supply stays held.
-/

namespace SolanaLab

namespace Stablecoin

open Checked

/-- Why Token-2022, or the creation of one of its accounts, can fail. None of
    the programs looks at which of them it was. -/
inductive TokenError where
  | uninitialized
  | accountInUse
  | insufficientFunds
  | mintMismatch
  | decimalsMismatch
  | ownerMismatch
  | nonNativeHasBalance
  | overflow
deriving DecidableEq

/-- A mint as far as the programs read or set it. They always name a permanent
    delegate when they create one. -/
structure Mint where
  mintAuthority : Pubkey
  permanentDelegate : Option Pubkey
  decimals : Byte
  supply : Word 64
deriving DecidableEq

/-- What an owner holds of a mint. An owner may have any number of accounts. -/
structure TokenAccount where
  mint : Pubkey
  owner : Pubkey
  amount : Word 64
deriving DecidableEq

/-- The mints and the token accounts, by address. The two are kept apart here,
    and `createable` sees to it that no address is ever both. -/
structure TokenLedger where
  mints : SortedMap Pubkey Mint
  accounts : SortedMap Pubkey TokenAccount
deriving DecidableEq

namespace TokenLedger

/-- The ledger on which every run starts: whatever exists later was created by
    an instruction of the run. -/
def empty : TokenLedger := ⟨SortedMap.empty, SortedMap.empty⟩

/-- `system_instruction::create_account`, as far as it can fail on an account
    of Token-2022: the new account must not exist, and the payer does. -/
def createable (ledger : TokenLedger) (payer key : Pubkey) : Except TokenError Unit := do
  require (key ≠ payer) .accountInUse
  require (ledger.mints.get? key = none) .accountInUse
  require (ledger.accounts.get? key = none) .accountInUse

/-- `create_account` and `initialize_mint2`, with a permanent delegate. Both are
    in one transaction, so there is never a mint that exists without being set
    up. -/
def createMint (ledger : TokenLedger) (payer key mintAuthority permanentDelegate : Pubkey)
    (decimals : Byte) : Except TokenError TokenLedger := do
  ledger.createable payer key
  return { ledger with
    mints := ledger.mints.insert key ⟨mintAuthority, some permanentDelegate, decimals, 0⟩ }

/-- `create_account` and `initialize_account3`. The account starts out empty,
    and its mint has to exist. -/
def createAccount (ledger : TokenLedger) (payer key mint owner : Pubkey) :
    Except TokenError TokenLedger := do
  ledger.createable payer key
  let _ ← okOr (ledger.mints.get? mint) .uninitialized
  return { ledger with accounts := ledger.accounts.insert key ⟨mint, owner, 0⟩ }

/-- `mint_to_checked`, with an authority that has signed. It is the only way for
    a supply to grow, and a supply that would pass 64 bits makes it fail. -/
def mintTo (ledger : TokenLedger) (mint destination authority : Pubkey) (amount : Word 64)
    (decimals : Byte) : Except TokenError TokenLedger := do
  let account ← okOr (ledger.accounts.get? destination) .uninitialized
  require (account.mint = mint) .mintMismatch
  let record ← okOr (ledger.mints.get? mint) .uninitialized
  require (record.decimals = decimals) .decimalsMismatch
  require (record.mintAuthority = authority) .ownerMismatch
  let credited ← okOr (checkedAdd account.amount amount) .overflow
  let supply ← okOr (checkedAdd record.supply amount) .overflow
  return { mints := ledger.mints.insert mint { record with supply }
           accounts := ledger.accounts.insert destination { account with amount := credited } }

/-- `burn`, or `burn_checked` when decimals are given, with an authority that
    has signed: the owner of the account, or the permanent delegate of its mint. -/
def burn (ledger : TokenLedger) (source mint authority : Pubkey) (amount : Word 64)
    (decimals : Option Byte) : Except TokenError TokenLedger := do
  let account ← okOr (ledger.accounts.get? source) .uninitialized
  let record ← okOr (ledger.mints.get? mint) .uninitialized
  let debited ← okOr (checkedSub account.amount amount) .insufficientFunds
  require (account.mint = mint) .mintMismatch
  -- The plain instruction states no decimals, so there is nothing to compare.
  require (∀ d ∈ decimals, record.decimals = d) .decimalsMismatch
  require (authority = account.owner ∨ record.permanentDelegate = some authority) .ownerMismatch
  let supply ← okOr (checkedSub record.supply amount) .overflow
  return { mints := ledger.mints.insert mint { record with supply }
           accounts := ledger.accounts.insert source { account with amount := debited } }

/-- `transfer`, or `transfer_checked` when the mint is given with its decimals,
    with an authority that has signed. Only the checked one is given the mint,
    and without it the program cannot see who its permanent delegate is. -/
def transfer (ledger : TokenLedger) (source destination authority : Pubkey) (amount : Word 64)
    (mint : Option (Pubkey × Byte)) : Except TokenError TokenLedger := do
  let sourceAccount ← okOr (ledger.accounts.get? source) .uninitialized
  let destinationAccount ← okOr (ledger.accounts.get? destination) .uninitialized
  let debited ← okOr (checkedSub sourceAccount.amount amount) .insufficientFunds
  require (sourceAccount.mint = destinationAccount.mint) .mintMismatch
  let record ← okOr (ledger.mints.get? sourceAccount.mint) .uninitialized
  require (∀ m ∈ mint, m.1 = sourceAccount.mint) .mintMismatch
  require (∀ m ∈ mint, m.2 = record.decimals) .decimalsMismatch
  require (authority = sourceAccount.owner ∨
    mint ≠ none ∧ record.permanentDelegate = some authority) .ownerMismatch
  -- All checks are made for a transfer to oneself too, but nothing is written.
  if source = destination then
    return ledger
  let credited ← okOr (checkedAdd destinationAccount.amount amount) .overflow
  return { ledger with
    accounts := (ledger.accounts.insert source { sourceAccount with amount := debited }).insert
      destination { destinationAccount with amount := credited } }

/-- `close_account`, with an authority that has signed. An account must be
    empty, so closing one takes nothing out of circulation. -/
def closeAccount (ledger : TokenLedger) (key authority : Pubkey) :
    Except TokenError TokenLedger := do
  let account ← okOr (ledger.accounts.get? key) .uninitialized
  require (account.amount = 0) .nonNativeHasBalance
  require (authority = account.owner) .ownerMismatch
  return { ledger with accounts := ledger.accounts.erase key }

/-- The supply of a mint, none if there is no mint. As a natural number it can
    be compared with sums over accounts without a bound to carry along. -/
def supply (ledger : TokenLedger) (mint : Pubkey) : Nat :=
  (ledger.mints.get? mint).elim 0 (fun record => record.supply.val)

/-- What an account holds of a mint. -/
def heldBy (mint : Pubkey) (account : TokenAccount) : Nat :=
  if mint = account.mint then account.amount.val else 0

/-- What the accounts of a mint hold together. It is a sum over all accounts of
    the ledger, each of which counts for its own mint only. -/
def held (accounts : SortedMap Pubkey TokenAccount) (mint : Pubkey) : Nat :=
  accounts.sumBy (fun _ account => heldBy mint account)

/-- The supply of every mint is what its accounts hold. It holds of the empty
    ledger and is kept by every instruction, so no hypothesis about the ledger
    is needed in a statement about runs. -/
def Backed (ledger : TokenLedger) : Prop :=
  ∀ mint, held ledger.accounts mint = ledger.supply mint

variable {ledger ledger' : TokenLedger}

/-- An account can be created where neither the payer nor anything else is. -/
theorem createable_eq_ok {payer key : Pubkey} {u : Unit} :
    ledger.createable payer key = .ok u
      ↔ key ≠ payer ∧ ledger.mints.get? key = none ∧ ledger.accounts.get? key = none := by
  simp only [createable, bind_eq_ok, require_eq_ok, exists_const]

/-- When a mint can be created, and the ledger with the new mint. -/
theorem createMint_eq_ok {payer key mintAuthority permanentDelegate : Pubkey} {decimals : Byte} :
    ledger.createMint payer key mintAuthority permanentDelegate decimals = .ok ledger' ↔
      (key ≠ payer ∧ ledger.mints.get? key = none ∧ ledger.accounts.get? key = none) ∧
      { ledger with
        mints := ledger.mints.insert key ⟨mintAuthority, some permanentDelegate, decimals, 0⟩ }
        = ledger' := by
  simp only [createMint, bind_eq_ok, createable_eq_ok, exists_const, pure, Except.pure,
    Except.ok.injEq]

/-- When a token account can be created, and the ledger with the new account. -/
theorem createAccount_eq_ok {payer key mint owner : Pubkey} :
    ledger.createAccount payer key mint owner = .ok ledger' ↔
      (key ≠ payer ∧ ledger.mints.get? key = none ∧ ledger.accounts.get? key = none) ∧
      (∃ record, ledger.mints.get? mint = some record) ∧
      { ledger with accounts := ledger.accounts.insert key ⟨mint, owner, 0⟩ } = ledger' := by
  simp only [createAccount, bind_eq_ok, createable_eq_ok, okOr_eq_ok, exists_const, pure,
    Except.pure, Except.ok.injEq, exists_and_right]

/-- Minting succeeds exactly when the account and the mint exist and fit
    together, the decimals and the authority are right, and neither sum
    overflows. The new amounts are given by equations over the naturals, which
    is how they are used. -/
theorem mintTo_eq_ok {mint destination authority : Pubkey} {amount : Word 64} {decimals : Byte} :
    ledger.mintTo mint destination authority amount decimals = .ok ledger' ↔
      ∃ account record credited supply, ledger.accounts.get? destination = some account ∧
        ledger.mints.get? mint = some record ∧ account.mint = mint ∧
        record.decimals = decimals ∧ record.mintAuthority = authority ∧
        credited.val = account.amount.val + amount.val ∧
        supply.val = record.supply.val + amount.val ∧
        (⟨ledger.mints.insert mint { record with supply },
          ledger.accounts.insert destination { account with amount := credited }⟩ : TokenLedger)
          = ledger' := by
  simp only [mintTo, bind_eq_ok, okOr_eq_ok, require_eq_ok, checkedAdd_eq_some, exists_const, pure,
    Except.pure, Except.ok.injEq]
  constructor
  · rintro ⟨account, haccount, hmint, record, hrecord, hdecimals, hauthority, credited, hcredited,
      supply, hsupply, hafter⟩
    exact ⟨account, record, credited, supply, haccount, hrecord, hmint, hdecimals, hauthority,
      hcredited, hsupply, hafter⟩
  · rintro ⟨account, record, credited, supply, haccount, hrecord, hmint, hdecimals, hauthority,
      hcredited, hsupply, hafter⟩
    exact ⟨account, haccount, hmint, record, hrecord, hdecimals, hauthority, credited, hcredited,
      supply, hsupply, hafter⟩

/-- Burning succeeds exactly when the account holds the amount and the authority
    may dispose of it. That the supply holds the amount too is a separate check,
    which `Backed` turns out to make redundant. -/
theorem burn_eq_ok {source mint authority : Pubkey} {amount : Word 64} {decimals : Option Byte} :
    ledger.burn source mint authority amount decimals = .ok ledger' ↔
      ∃ account record debited supply, ledger.accounts.get? source = some account ∧
        ledger.mints.get? mint = some record ∧ account.mint = mint ∧
        (∀ d ∈ decimals, record.decimals = d) ∧
        (authority = account.owner ∨ record.permanentDelegate = some authority) ∧
        debited.val + amount.val = account.amount.val ∧
        supply.val + amount.val = record.supply.val ∧
        (⟨ledger.mints.insert mint { record with supply },
          ledger.accounts.insert source { account with amount := debited }⟩ : TokenLedger)
          = ledger' := by
  simp only [burn, bind_eq_ok, okOr_eq_ok, require_eq_ok, checkedSub_eq_some, exists_const, pure,
    Except.pure, Except.ok.injEq]
  constructor
  · rintro ⟨account, haccount, record, hrecord, debited, hdebited, hmint, hdecimals, hauthority,
      supply, hsupply, hafter⟩
    exact ⟨account, record, debited, supply, haccount, hrecord, hmint, hdecimals, hauthority,
      hdebited, hsupply, hafter⟩
  · rintro ⟨account, record, debited, supply, haccount, hrecord, hmint, hdecimals, hauthority,
      hdebited, hsupply, hafter⟩
    exact ⟨account, haccount, record, hrecord, debited, hdebited, hmint, hdecimals, hauthority,
      supply, hsupply, hafter⟩

/-- A transfer that succeeds leaves the mints alone and moves the amount, unless
    it is from an account to itself. The authority is not part of the
    conclusion: what follows from it is never needed below. -/
theorem transfer_eq_ok {source destination authority : Pubkey} {amount : Word 64}
    {mint : Option (Pubkey × Byte)}
    (h : ledger.transfer source destination authority amount mint = .ok ledger') :
    ledger' = ledger ∨ ∃ sourceAccount destinationAccount debited credited,
      source ≠ destination ∧ ledger.accounts.get? source = some sourceAccount ∧
      ledger.accounts.get? destination = some destinationAccount ∧
      sourceAccount.mint = destinationAccount.mint ∧
      debited.val + amount.val = sourceAccount.amount.val ∧
      credited.val = destinationAccount.amount.val + amount.val ∧
      ledger' = { ledger with
        accounts := (ledger.accounts.insert source
          { sourceAccount with amount := debited }).insert
          destination { destinationAccount with amount := credited } } := by
  simp only [transfer, bind_eq_ok, okOr_eq_ok, require_eq_ok, checkedSub_eq_some] at h
  rcases h with ⟨sourceAccount, hsource, destinationAccount, hdestination, debited, hdebited, _,
    hmints, record, -, _, -, _, -, _, -, hrest⟩
  by_cases hself : source = destination
  · rw [if_pos hself] at hrest
    exact Or.inl (Except.ok.inj hrest).symm
  · right
    simp only [if_neg hself, bind_eq_ok, okOr_eq_ok, checkedAdd_eq_some] at hrest
    rcases hrest with ⟨credited, hcredited, hafter⟩
    exact ⟨sourceAccount, destinationAccount, debited, credited, hself, hsource, hdestination,
      hmints, hdebited, hcredited, (Except.ok.inj hafter).symm⟩

/-- Closing succeeds exactly for the owner of an empty account. -/
theorem closeAccount_eq_ok {key authority : Pubkey} :
    ledger.closeAccount key authority = .ok ledger' ↔
      ∃ account, ledger.accounts.get? key = some account ∧ account.amount = 0 ∧
        authority = account.owner ∧
        { ledger with accounts := ledger.accounts.erase key } = ledger' := by
  simp only [closeAccount, bind_eq_ok, okOr_eq_ok, require_eq_ok, exists_const, pure, Except.pure,
    Except.ok.injEq]

/-! ### Supply -/

/-- The supply of a mint that is there. -/
theorem supply_of_get? {mint : Pubkey} {record : Mint} (h : ledger.mints.get? mint = some record) :
    ledger.supply mint = record.supply.val := by
  rw [supply, h]
  rfl

/-- Writing a mint changes its own supply and no other. -/
theorem supply_insert (mint m : Pubkey) (record : Mint)
    (accounts : SortedMap Pubkey TokenAccount) :
    (⟨ledger.mints.insert mint record, accounts⟩ : TokenLedger).supply m
      = if m = mint then record.supply.val else ledger.supply m := by
  rw [supply, SortedMap.get?_insert]
  by_cases hm : m = mint
  · rw [if_pos hm, if_pos hm]
    rfl
  · rw [if_neg hm, if_neg hm]
    rfl

/-- A new mint has no supply, just as a mint that is not there. -/
theorem supply_createMint {payer key mintAuthority permanentDelegate : Pubkey} {decimals : Byte}
    (h : ledger.createMint payer key mintAuthority permanentDelegate decimals = .ok ledger')
    (m : Pubkey) : ledger'.supply m = ledger.supply m := by
  rcases createMint_eq_ok.mp h with ⟨⟨-, hnew, -⟩, rfl⟩
  rw [supply_insert]
  by_cases hm : m = key
  · rw [if_pos hm, supply, hm, hnew]
    rfl
  · rw [if_neg hm]

/-- New accounts are empty and leave every supply as it is. -/
theorem supply_createAccount {payer key mint owner : Pubkey}
    (h : ledger.createAccount payer key mint owner = .ok ledger') (m : Pubkey) :
    ledger'.supply m = ledger.supply m := by
  rcases createAccount_eq_ok.mp h with ⟨-, -, rfl⟩
  rfl

/-- Minting adds the amount to the supply of its mint. -/
theorem supply_mintTo {mint destination authority : Pubkey} {amount : Word 64} {decimals : Byte}
    (h : ledger.mintTo mint destination authority amount decimals = .ok ledger') (m : Pubkey) :
    ledger'.supply m = ledger.supply m + if m = mint then amount.val else 0 := by
  rcases mintTo_eq_ok.mp h with
    ⟨account, record, credited, supply, -, hrecord, -, -, -, -, hsupply, rfl⟩
  rw [supply_insert]
  by_cases hm : m = mint
  · rw [if_pos hm, if_pos hm, hm, supply_of_get? hrecord]
    exact hsupply
  · rw [if_neg hm, if_neg hm, Nat.add_zero]

/-- Burning takes the amount from the supply of its mint. Stated as a sum, since
    subtraction on the naturals would hide that the supply held as much. -/
theorem supply_burn {source mint authority : Pubkey} {amount : Word 64} {decimals : Option Byte}
    (h : ledger.burn source mint authority amount decimals = .ok ledger') (m : Pubkey) :
    ledger'.supply m + (if m = mint then amount.val else 0) = ledger.supply m := by
  rcases burn_eq_ok.mp h with
    ⟨account, record, debited, supply, -, hrecord, -, -, -, -, hsupply, rfl⟩
  rw [supply_insert]
  by_cases hm : m = mint
  · rw [if_pos hm, if_pos hm, hm, supply_of_get? hrecord]
    exact hsupply
  · rw [if_neg hm, if_neg hm, Nat.add_zero]

/-- Transfers leave every supply as it is. -/
theorem supply_transfer {source destination authority : Pubkey} {amount : Word 64}
    {mint : Option (Pubkey × Byte)}
    (h : ledger.transfer source destination authority amount mint = .ok ledger') (m : Pubkey) :
    ledger'.supply m = ledger.supply m := by
  rcases transfer_eq_ok h with rfl | ⟨_, _, _, _, -, -, -, -, -, -, rfl⟩ <;> rfl

/-- Closing an account, which is empty, leaves every supply as it is. -/
theorem supply_closeAccount {key authority : Pubkey}
    (h : ledger.closeAccount key authority = .ok ledger') (m : Pubkey) :
    ledger'.supply m = ledger.supply m := by
  rcases closeAccount_eq_ok.mp h with ⟨_, -, -, -, rfl⟩
  rfl

/-! ### Settings of mints -/

/-- A mint without its supply. Nothing but the creation of the mint sets these,
    so what a program reads in a mint it reads again at any later time. -/
def settings (ledger : TokenLedger) (mint : Pubkey) : Option Mint :=
  (ledger.mints.get? mint).map (fun record => { record with supply := 0 })

/-- Writing a new supply into a mint leaves its settings as they are. -/
theorem settings_insert {mint : Pubkey} {record : Mint} (h : ledger.mints.get? mint = some record)
    (supply : Word 64) (accounts : SortedMap Pubkey TokenAccount) (m : Pubkey) :
    (⟨ledger.mints.insert mint { record with supply }, accounts⟩ : TokenLedger).settings m
      = ledger.settings m := by
  rw [settings, settings, SortedMap.get?_insert]
  by_cases hm : m = mint
  · rw [if_pos hm, hm, h]
    rfl
  · rw [if_neg hm]

/-- A new mint has the settings it was created with. -/
theorem settings_createMint {payer key mintAuthority permanentDelegate : Pubkey} {decimals : Byte}
    (h : ledger.createMint payer key mintAuthority permanentDelegate decimals = .ok ledger')
    (m : Pubkey) :
    ledger'.settings m = if m = key then some ⟨mintAuthority, some permanentDelegate, decimals, 0⟩
      else ledger.settings m := by
  rcases createMint_eq_ok.mp h with ⟨-, rfl⟩
  rw [settings, SortedMap.get?_insert]
  by_cases hm : m = key
  · rw [if_pos hm, if_pos hm]
    rfl
  · rw [if_neg hm, if_neg hm]
    rfl

/-- Accounts are created without touching a mint. -/
theorem settings_createAccount {payer key mint owner : Pubkey}
    (h : ledger.createAccount payer key mint owner = .ok ledger') (m : Pubkey) :
    ledger'.settings m = ledger.settings m := by
  rcases createAccount_eq_ok.mp h with ⟨-, -, rfl⟩
  rfl

/-- Minting writes a supply only. -/
theorem settings_mintTo {mint destination authority : Pubkey} {amount : Word 64} {decimals : Byte}
    (h : ledger.mintTo mint destination authority amount decimals = .ok ledger') (m : Pubkey) :
    ledger'.settings m = ledger.settings m := by
  rcases mintTo_eq_ok.mp h with ⟨account, record, credited, supply, -, hrecord, -, -, -, -, -, rfl⟩
  exact settings_insert hrecord supply _ m

/-- Burning writes a supply only. -/
theorem settings_burn {source mint authority : Pubkey} {amount : Word 64} {decimals : Option Byte}
    (h : ledger.burn source mint authority amount decimals = .ok ledger') (m : Pubkey) :
    ledger'.settings m = ledger.settings m := by
  rcases burn_eq_ok.mp h with ⟨account, record, debited, supply, -, hrecord, -, -, -, -, -, rfl⟩
  exact settings_insert hrecord supply _ m

/-- Transfers write to accounts only. -/
theorem settings_transfer {source destination authority : Pubkey} {amount : Word 64}
    {mint : Option (Pubkey × Byte)}
    (h : ledger.transfer source destination authority amount mint = .ok ledger') (m : Pubkey) :
    ledger'.settings m = ledger.settings m := by
  rcases transfer_eq_ok h with rfl | ⟨_, _, _, _, -, -, -, -, -, -, rfl⟩ <;> rfl

/-- Closing writes to accounts only. -/
theorem settings_closeAccount {key authority : Pubkey}
    (h : ledger.closeAccount key authority = .ok ledger') (m : Pubkey) :
    ledger'.settings m = ledger.settings m := by
  rcases closeAccount_eq_ok.mp h with ⟨_, -, -, -, rfl⟩
  rfl

/-- A mint that is not there has no supply. -/
theorem supply_of_settings_none {mint : Pubkey} (h : ledger.settings mint = none) :
    ledger.supply mint = 0 := by
  rw [settings, Option.map_eq_none_iff] at h
  rw [supply, h]
  rfl

/-- A mint with settings is there. -/
theorem get?_of_settings {mint : Pubkey} {record : Mint} (h : ledger.settings mint = some record) :
    ∃ supply, ledger.mints.get? mint = some { record with supply } := by
  rcases Option.map_eq_some_iff.mp h with ⟨found, hfound, rfl⟩
  exact ⟨found.supply, hfound⟩

/-! ### What accounts hold -/

/-- An account with a new amount trades what it held. Both sides carry a term,
    so that the lemma serves for an amount that grows and for one that shrinks. -/
theorem held_insert {accounts : SortedMap Pubkey TokenAccount} {key : Pubkey}
    {account : TokenAccount} (h : accounts.get? key = some account) (amount : Word 64)
    (m : Pubkey) :
    held (accounts.insert key { account with amount }) m
        + (if m = account.mint then account.amount.val else 0)
      = held accounts m + if m = account.mint then amount.val else 0 :=
  SortedMap.sumBy_insert_of_some (fun _ a => heldBy m a) accounts _ h

/-- Nothing is held and nothing was supplied. -/
theorem backed_empty : empty.Backed := fun _ => rfl

/-- The accounts stay as they are, and so does every supply, the new mint having
    none. -/
theorem backed_createMint {payer key mintAuthority permanentDelegate : Pubkey} {decimals : Byte}
    (h : ledger.createMint payer key mintAuthority permanentDelegate decimals = .ok ledger')
    (hbacked : ledger.Backed) : ledger'.Backed := by
  intro m
  rw [supply_createMint h, ← hbacked m]
  rcases createMint_eq_ok.mp h with ⟨-, rfl⟩
  rfl

/-- The new account adds a zero to the sum. -/
theorem backed_createAccount {payer key mint owner : Pubkey}
    (h : ledger.createAccount payer key mint owner = .ok ledger') (hbacked : ledger.Backed) :
    ledger'.Backed := by
  intro m
  rw [supply_createAccount h, ← hbacked m]
  rcases createAccount_eq_ok.mp h with ⟨⟨-, -, hnew⟩, -, rfl⟩
  have hsum := SortedMap.sumBy_insert_of_none (fun _ a => heldBy m a) ledger.accounts
    (⟨mint, owner, 0⟩ : TokenAccount) hnew
  have hzero : heldBy m ⟨mint, owner, 0⟩ = 0 := ite_self 0
  rw [hzero, Nat.add_zero] at hsum
  exact hsum

/-- Minting adds the same amount to the supply and to one account. -/
theorem backed_mintTo {mint destination authority : Pubkey} {amount : Word 64} {decimals : Byte}
    (h : ledger.mintTo mint destination authority amount decimals = .ok ledger')
    (hbacked : ledger.Backed) : ledger'.Backed := by
  intro m
  have hsupply := supply_mintTo h m
  have hold := hbacked m
  rcases mintTo_eq_ok.mp h with
    ⟨account, record, credited, supply, haccount, -, rfl, -, -, hcredited, -, rfl⟩
  have hheld := held_insert haccount credited m
  rw [hsupply]
  simp only
  -- Supply and holdings of the mint grow together, others do not change.
  by_cases hm : m = account.mint
  · rw [if_pos hm, if_pos hm] at hheld
    rw [if_pos hm]
    omega
  · rw [if_neg hm, if_neg hm] at hheld
    rw [if_neg hm]
    omega

/-- Burning takes the same amount from the supply and from one account. -/
theorem backed_burn {source mint authority : Pubkey} {amount : Word 64} {decimals : Option Byte}
    (h : ledger.burn source mint authority amount decimals = .ok ledger')
    (hbacked : ledger.Backed) : ledger'.Backed := by
  intro m
  have hsupply := supply_burn h m
  have hold := hbacked m
  rcases burn_eq_ok.mp h with
    ⟨account, record, debited, supply, haccount, -, rfl, -, -, hdebited, -, rfl⟩
  have hheld := held_insert haccount debited m
  simp only
  -- Supply and holdings of the mint shrink together.
  by_cases hm : m = account.mint
  · rw [if_pos hm, if_pos hm] at hheld
    rw [if_pos hm] at hsupply
    omega
  · rw [if_neg hm, if_neg hm] at hheld
    rw [if_neg hm] at hsupply
    omega

/-- A transfer moves an amount between two accounts of one mint, so that the sum
    for that mint stays and no other sum is concerned. -/
theorem backed_transfer {source destination authority : Pubkey} {amount : Word 64}
    {mint : Option (Pubkey × Byte)}
    (h : ledger.transfer source destination authority amount mint = .ok ledger')
    (hbacked : ledger.Backed) : ledger'.Backed := by
  intro m
  rw [supply_transfer h, ← hbacked m]
  rcases transfer_eq_ok h with rfl | ⟨sourceAccount, destinationAccount, debited, credited, hne,
    hsource, hdestination, hmints, hdebited, hcredited, rfl⟩
  · rfl
  · have hfirst := held_insert hsource debited m
    -- The second write finds the destination as it was, being another account.
    have hstays : (ledger.accounts.insert source
        { sourceAccount with amount := debited }).get? destination = some destinationAccount := by
      rw [SortedMap.get?_insert_of_ne _ _ (Ne.symm hne)]
      exact hdestination
    have hsecond := held_insert hstays credited m
    -- Both accounts are of one mint, so what one gives the other gets.
    simp only
    by_cases hm : m = sourceAccount.mint
    · rw [if_pos hm, if_pos hm] at hfirst
      rw [if_pos (hm.trans hmints), if_pos (hm.trans hmints)] at hsecond
      omega
    · have hm' : ¬ m = destinationAccount.mint := fun h => hm (h.trans hmints.symm)
      rw [if_neg hm, if_neg hm] at hfirst
      rw [if_neg hm', if_neg hm'] at hsecond
      omega

/-- Only an empty account leaves the sum. -/
theorem backed_closeAccount {key authority : Pubkey}
    (h : ledger.closeAccount key authority = .ok ledger') (hbacked : ledger.Backed) :
    ledger'.Backed := by
  intro m
  rw [supply_closeAccount h, ← hbacked m]
  rcases closeAccount_eq_ok.mp h with ⟨account, haccount, hzero, -, rfl⟩
  have hsum := SortedMap.sumBy_erase_of_some (fun _ a => heldBy m a) ledger.accounts haccount
  have hnone : heldBy m account = 0 := by
    rw [heldBy, hzero]
    exact ite_self 0
  rw [hnone, Nat.add_zero] at hsum
  exact hsum

/-- An account of a mint holds no more than the supply. It is why the check on
    the supply when burning never fails. -/
theorem amount_le_supply (hbacked : ledger.Backed) {key : Pubkey} {account : TokenAccount}
    (h : ledger.accounts.get? key = some account) :
    account.amount.val ≤ ledger.supply account.mint := by
  have hle := SortedMap.le_sumBy (fun _ a => heldBy account.mint a) ledger.accounts h
  rw [heldBy, if_pos rfl] at hle
  rw [← hbacked]
  exact hle

end TokenLedger

/-- What a holder of tokens can do with accounts of his own. Between any two
    instructions of the programs there may be any number of these. -/
inductive TokenInstruction where
  | initializeAccount (payer key mint owner : Pubkey)
  | transfer (source destination owner : Pubkey) (amount : Word 64)
      (mint : Option (Pubkey × Byte))
  | burn (source mint owner : Pubkey) (amount : Word 64) (decimals : Option Byte)
  | closeAccount (key owner : Pubkey)
deriving DecidableEq

namespace TokenInstruction

/-- Who has to sign. The runtime refuses a transaction that lacks the signature,
    so the instructions themselves take the authority as given. -/
def signer : TokenInstruction → Pubkey
  | initializeAccount payer _ _ _ => payer
  | transfer _ _ owner _ _ => owner
  | burn _ _ owner _ _ => owner
  | closeAccount _ owner => owner

/-- An instruction that a holder submits, carried out by Token-2022 directly: no
    program of the repository gets to see it. -/
def apply (ledger : TokenLedger) : TokenInstruction → Except TokenError TokenLedger
  | initializeAccount payer key mint owner => ledger.createAccount payer key mint owner
  | transfer source destination owner amount mint =>
    ledger.transfer source destination owner amount mint
  | burn source mint owner amount decimals => ledger.burn source mint owner amount decimals
  | closeAccount key owner => ledger.closeAccount key owner

/-- What an instruction burns of a mint. It is how a supply falls without the
    issuer's records being told. -/
def burned (mint : Pubkey) : TokenInstruction → Nat
  | burn _ m _ amount _ => if mint = m then amount.val else 0
  | _ => 0

variable {ledger ledger' : TokenLedger} {instruction : TokenInstruction}

/-- Holders can lower a supply by burning what they hold, and cannot raise it. -/
theorem apply_supply (h : instruction.apply ledger = .ok ledger') (mint : Pubkey) :
    ledger'.supply mint + instruction.burned mint = ledger.supply mint := by
  cases instruction with
  | initializeAccount payer key m owner => exact TokenLedger.supply_createAccount h mint
  | transfer source destination owner amount m => exact TokenLedger.supply_transfer h mint
  | burn source m owner amount decimals => exact TokenLedger.supply_burn h mint
  | closeAccount key owner => exact TokenLedger.supply_closeAccount h mint

/-- A holder changes no settings of a mint. -/
theorem apply_settings (h : instruction.apply ledger = .ok ledger') (mint : Pubkey) :
    ledger'.settings mint = ledger.settings mint := by
  cases instruction with
  | initializeAccount payer key m owner => exact TokenLedger.settings_createAccount h mint
  | transfer source destination owner amount m => exact TokenLedger.settings_transfer h mint
  | burn source m owner amount decimals => exact TokenLedger.settings_burn h mint
  | closeAccount key owner => exact TokenLedger.settings_closeAccount h mint

/-- Whatever holders do, supplies stay backed. -/
theorem apply_backed (h : instruction.apply ledger = .ok ledger') (hbacked : ledger.Backed) :
    ledger'.Backed := by
  cases instruction with
  | initializeAccount payer key m owner => exact TokenLedger.backed_createAccount h hbacked
  | transfer source destination owner amount m => exact TokenLedger.backed_transfer h hbacked
  | burn source m owner amount decimals => exact TokenLedger.backed_burn h hbacked
  | closeAccount key owner => exact TokenLedger.backed_closeAccount h hbacked

end TokenInstruction

end Stablecoin

end SolanaLab
