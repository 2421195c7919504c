import SolanaLab.Settlement.Anchor

/-!
# The Token Program

What the settlement program relies on from Token-2022: token accounts, mints
that may charge a transfer fee, and `transfer_checked`.

A transfer takes its amount from the source and adds the amount less the
mint's fee to the destination. The fee stays withheld in the destination
account, where its owner cannot spend it, so it is in no `amount` afterwards.
A transfer from an account to itself is checked and then changes nothing.

`transferChecked_eq_ok` is all that later proofs use of a transfer that
succeeded, and `transferChecked_insufficient` of one that did not find its
amount.

The fee is what makes deposits interesting: the program credits the trader with
the amount he sent, while the vault receives less of a mint that charges one.
Without the fee in the model that difference could not be stated.

## Main definitions

* `TransferFee`: The fee of a mint, at most the whole amount.
* `Mint.fee`: What a transfer of an amount is charged.
* `TokenAccount`: The mint, the owner and the spendable amount.
* `TokenLedger`: All mints and token accounts.
* `transferChecked`: A transfer, or the reason it is refused.

## Theorems

* `calculateFee_le`: The fee is no more than the amount.
* `transferChecked_eq_ok`: What a successful transfer does.
* `transferChecked_amounts`: What it does to any one account.
* `transferChecked_insufficient`: A transfer short of funds found less than
  its amount in the source.
-/

namespace SolanaLab

namespace Settlement

open Checked

/-- `TransferFee`: a share of the amount, in ten-thousandths and rounded up, up
    to a maximum. The program that sets fees refuses more than the whole amount,
    which the last field keeps. -/
structure TransferFee where
  basisPoints : Nat
  maximumFee : Word 64
  bounded : basisPoints ≤ 10000
deriving DecidableEq

/-- `TransferFee::calculate_fee`. Adding 9999 before dividing rounds up, so that
    a fee is due on the smallest amount already. -/
def TransferFee.calculateFee (fee : TransferFee) (amount : Nat) : Nat :=
  min ((amount * fee.basisPoints + 9999) / 10000) fee.maximumFee.val

/-- A fee is never more than what it is charged on. -/
theorem calculateFee_le (fee : TransferFee) (amount : Nat) : fee.calculateFee amount ≤ amount := by
  refine le_trans (Nat.min_le_left _ _) ?_
  have hmul : amount * fee.basisPoints ≤ amount * 10000 := Nat.mul_le_mul_left amount fee.bounded
  omega

/-- A mint, with the fee it charges at the time if it charges any. -/
structure Mint where
  decimals : Byte
  transferFee : Option TransferFee
deriving DecidableEq

/-- What a transfer of an amount is charged. Mints without the extension charge
    nothing. -/
def Mint.fee (mint : Mint) (amount : Nat) : Nat :=
  match mint.transferFee with
  | none => 0
  | some fee => fee.calculateFee amount

/-- What is charged is part of what is transferred. -/
theorem fee_le (mint : Mint) (amount : Nat) : mint.fee amount ≤ amount := by
  unfold Mint.fee
  cases mint.transferFee with
  | none => exact Nat.zero_le amount
  | some fee => exact calculateFee_le fee amount

/-- What an owner can spend of a mint. Fees withheld in the account are not in
    the amount. -/
structure TokenAccount where
  mint : Pubkey
  owner : Pubkey
  amount : Word 64
deriving DecidableEq

/-- The mints and the token accounts, by address. -/
structure TokenLedger where
  mints : SortedMap Pubkey Mint
  accounts : SortedMap Pubkey TokenAccount
deriving DecidableEq

namespace TokenLedger

/-- The ledger without mints and accounts, from which witnesses start. -/
def empty : TokenLedger := ⟨SortedMap.empty, SortedMap.empty⟩

/-- `InterfaceAccount<TokenAccount>`. -/
def loadAccount (ledger : TokenLedger) (key : Pubkey) : Except ProgramError TokenAccount :=
  okOr (ledger.accounts.get? key) (.anchor .accountNotInitialized)

/-- `InterfaceAccount<Mint>`. -/
def loadMint (ledger : TokenLedger) (key : Pubkey) : Except ProgramError Mint :=
  okOr (ledger.mints.get? key) (.anchor .accountNotInitialized)

/-- `transfer_checked`, with an authority that has signed. The amount is looked
    at before mints and owner, which decides the error when several things are
    wrong. -/
def transferChecked (ledger : TokenLedger) (source mint destination authority : Pubkey)
    (amount : Word 64) (decimals : Byte) : Except ProgramError TokenLedger := do
  let sourceAccount ← ledger.loadAccount source
  let mintRecord ← ledger.loadMint mint
  let destinationAccount ← ledger.loadAccount destination
  let debited ← okOr (checkedSub sourceAccount.amount amount) (.token .insufficientFunds)
  require (sourceAccount.mint = destinationAccount.mint) (.token .mintMismatch)
  require (sourceAccount.mint = mint) (.token .mintMismatch)
  require (mintRecord.decimals = decimals) (.token .decimalsMismatch)
  require (sourceAccount.owner = authority) (.token .ownerMismatch)
  -- A transfer to oneself is checked like any other and changes nothing.
  if source = destination then
    return ledger
  let received : Word 64 :=
    ⟨amount.val - mintRecord.fee amount.val, lt_of_le_of_lt (Nat.sub_le _ _) amount.isLt⟩
  let credited ← okOr (checkedAdd destinationAccount.amount received) (.token .overflow)
  return { ledger with
    accounts := (ledger.accounts.insert source { sourceAccount with amount := debited }).insert
      destination { destinationAccount with amount := credited } }

variable {ledger ledger' : TokenLedger} {source mint destination authority : Pubkey}
  {amount : Word 64} {decimals : Byte}

/-- A token account that was loaded is there. -/
theorem loadAccount_eq_ok {key : Pubkey} {account : TokenAccount} :
    ledger.loadAccount key = .ok account ↔ ledger.accounts.get? key = some account := okOr_eq_ok

/-- A mint that was loaded is there. -/
theorem loadMint_eq_ok {key : Pubkey} {record : Mint} :
    ledger.loadMint key = .ok record ↔ ledger.mints.get? key = some record := okOr_eq_ok

/-- What a successful transfer does between two accounts. The last equation
    writes the ledger out, and the one before it is where the fee goes missing. -/
theorem transferChecked_eq_ok
    (h : ledger.transferChecked source mint destination authority amount decimals = .ok ledger')
    (hne : source ≠ destination) :
    ∃ sourceAccount mintRecord destinationAccount debited credited,
      ledger.accounts.get? source = some sourceAccount ∧
      ledger.mints.get? mint = some mintRecord ∧
      ledger.accounts.get? destination = some destinationAccount ∧
      debited.val + amount.val = sourceAccount.amount.val ∧
      credited.val + mintRecord.fee amount.val = destinationAccount.amount.val + amount.val ∧
      ledger' = { ledger with
        accounts := (ledger.accounts.insert source
          { sourceAccount with amount := debited }).insert
          destination { destinationAccount with amount := credited } } := by
  simp only [transferChecked, bind_eq_ok, loadAccount_eq_ok, loadMint_eq_ok, okOr_eq_ok,
    require_eq_ok, if_neg hne, checkedSub_eq_some, checkedAdd_eq_some] at h
  rcases h with ⟨sourceAccount, hsource, mintRecord, hmint, destinationAccount, hdestination,
    debited, hdebited, _, -, _, -, _, -, _, -, credited, hcredited, hledger⟩
  have hfee := fee_le mintRecord amount.val
  refine ⟨sourceAccount, mintRecord, destinationAccount, debited, credited, hsource, hmint,
    hdestination, hdebited, ?_, (Except.ok.inj hledger).symm⟩
  omega

/-- What a successful transfer does to any one account: it keeps mint and
    owner, the source gives the amount, and the destination receives it less
    the fee. -/
theorem transferChecked_amounts
    (h : ledger.transferChecked source mint destination authority amount decimals = .ok ledger')
    (hne : source ≠ destination) {key : Pubkey} {account : TokenAccount}
    (hget : ledger.accounts.get? key = some account) :
    ∃ account' mintRecord, ledger'.accounts.get? key = some account' ∧
      ledger.mints.get? mint = some mintRecord ∧
      account'.mint = account.mint ∧ account'.owner = account.owner ∧
      account'.amount.val
          + (if key = source then amount.val else 0)
          + (if key = destination then mintRecord.fee amount.val else 0)
        = account.amount.val + if key = destination then amount.val else 0 := by
  rcases transferChecked_eq_ok h hne with ⟨sourceAccount, mintRecord, destinationAccount, debited,
    credited, hsource, hmint, hdestination, hdebited, hcredited, rfl⟩
  -- The destination receives the amount less the fee, the source gives all of it.
  by_cases hd : key = destination
  · rw [hd, hdestination, Option.some.injEq] at hget
    refine ⟨_, mintRecord, by rw [hd, SortedMap.get?_insert_self], hmint, ?_, ?_, ?_⟩
    · rw [hget]
    · rw [hget]
    · rw [if_neg (by rw [hd]; exact hne.symm), if_pos hd, if_pos hd, ← hget]
      simp only
      omega
  · by_cases hs : key = source
    · rw [hs, hsource, Option.some.injEq] at hget
      refine ⟨_, mintRecord, by
        rw [SortedMap.get?_insert_of_ne _ _ hd, hs, SortedMap.get?_insert_self], hmint, ?_, ?_, ?_⟩
      · rw [hget]
      · rw [hget]
      · rw [if_pos hs, if_neg hd, if_neg hd, ← hget]
        simp only
        omega
    · refine ⟨account, mintRecord, by
        rw [SortedMap.get?_insert_of_ne _ _ hd, SortedMap.get?_insert_of_ne _ _ hs, hget], hmint,
        rfl, rfl, ?_⟩
      rw [if_neg hs, if_neg hd, if_neg hd]

/-- A transfer refused for lack of funds found less than its amount. -/
theorem transferChecked_insufficient
    (h : ledger.transferChecked source mint destination authority amount decimals
      = .error (.token .insufficientFunds)) {account : TokenAccount}
    (hget : ledger.accounts.get? source = some account) : account.amount.val < amount.val := by
  -- Every check reports an error of its own, so the amounts are what failed.
  simp only [transferChecked, loadAccount, loadMint, bind_eq_error, okOr_eq_error,
    require_eq_error, okOr_eq_ok, require_eq_ok, hget, ProgramError.token.injEq, reduceCtorEq,
    and_false, false_or, and_true, Option.some.injEq, exists_eq_left'] at h
  rcases h with ⟨mintRecord, -, destinationAccount, -,
    hshort | ⟨_, -, _, -, _, -, _, -, _, -, hrest⟩⟩
  · exact checkedSub_eq_none.mp hshort
  · by_cases hself : source = destination
    · rw [if_pos hself] at hrest
      exact absurd hrest (by simp only [pure, Except.pure, reduceCtorEq, not_false_eq_true])
    · simp only [if_neg hself, bind_eq_error, okOr_eq_error, pure, Except.pure,
        ProgramError.token.injEq, reduceCtorEq, and_false, exists_false, or_false] at hrest

end TokenLedger

end Settlement

end SolanaLab
