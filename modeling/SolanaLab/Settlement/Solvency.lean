import SolanaLab.Settlement.Ledger

/-!
# Custody Solvency

The vault of an asset should hold at least what the balances of its market
make available of it, so that every recorded token can be withdrawn.

It does as long as no deposit of the asset pays a transfer fee. A deposit
records its whole amount, and the vault receives the amount less the fee that
the mint charges at that moment. With a fee the vault falls short by it, and
the last withdrawals are refused although they are within the balances.

The vault is changed by the token program and the balances by this one, so
`Covered` relates the two. The token program is used by others as well, who
may do anything but take tokens out of an account that a vault authority owns
(`LeavesVaults`), and no derived address can sign a transaction.

That no derived address signs is a property of the runtime: such an address has
no private key, and only the program it is derived for can sign with its seeds.
It is what keeps others from emptying a vault through the token program.

## Main definitions

* `World.vaultAmount`: The spendable amount of a token account.
* `LeavesVaults`: Others take nothing out of a vault.
* `FeeFree`: A deposit that pays no transfer fee.
* `Covered`: The vault of an asset holds what is available of it.

## Theorems

* `deposited_covered`, `withdrawn_covered`: Custody keeps a vault covered.
* `step_solvent`: So does every step without a fee.
* `run_solvent`: Runs without fees on deposits are solvent.
* `run_insolvent`: Not every run is.
-/

namespace SolanaLab

namespace Settlement

/-- The spendable amount of a token account, none if there is no account. -/
def World.vaultAmount (world : World) (key : Pubkey) : Nat :=
  match world.tokens.accounts.get? key with
  | some account => account.amount.val
  | none => 0

/-- Who signed the transaction of an input. -/
def Input.signers : Input → List Pubkey
  | .invoke env _ => env.signers
  | .tokens _ => []

/-- A change of the token ledger by others takes nothing out of an account that
    holds tokens and belongs to a vault authority. Adding to a vault is allowed. -/
def LeavesVaults (rt : Runtime) (seeds : List Seeds) (world : World) : Input → Prop
  | .invoke _ _ => True
  | .tokens ledger => ∀ key account market, world.tokens.accounts.get? key = some account →
    0 < account.amount.val → .vaultAuthority market ∈ seeds →
    account.owner = rt.address (.vaultAuthority market) →
    ∃ account', ledger.accounts.get? key = some account' ∧ account'.owner = account.owner ∧
      account.amount.val ≤ account'.amount.val

/-- A deposit of an asset into a market pays no transfer fee. What the mint
    charges at that moment counts, since a fee may be set later than the market. -/
def FeeFree (market : Pubkey) (asset : CustodyAsset) (world : World) : Input → Prop
  | .invoke _ (.deposit ctx a amount) => ctx.marketConfig = market → a = asset →
    (world.tokens.mints.get? ctx.mint).all (fun mint => mint.fee amount.val = 0) = true
  | _ => True

instance (market : Pubkey) (asset : CustodyAsset) (world : World) :
    (input : Input) → Decidable (FeeFree market asset world input)
  | .tokens _ => inferInstanceAs (Decidable True)
  | .invoke _ instruction =>
    match instruction with
    | .deposit ctx a amount => inferInstanceAs (Decidable (ctx.marketConfig = market → a = asset →
      (world.tokens.mints.get? ctx.mint).all (fun mint => mint.fee amount.val = 0) = true))
    | .initializeProtocol _ => inferInstanceAs (Decidable True)
    | .initializeMarket _ => inferInstanceAs (Decidable True)
    | .withdraw _ _ _ => inferInstanceAs (Decidable True)
    | .settleFill _ _ _ _ => inferInstanceAs (Decidable True)
    | .settleSignedFill _ _ _ _ _ => inferInstanceAs (Decidable True)
    | .cancelSignedOrder _ _ _ => inferInstanceAs (Decidable True)

/-- Nothing is available of an asset in a market, or the market's vault holds as
    much and belongs to its vault authority. The first case is for a market
    whose vault was never used, and may not even exist. -/
def Covered (market : Pubkey) (asset : CustodyAsset) (world : World) : Prop :=
  total (Account.availableIn asset market) world.accounts = 0 ∨
    ∃ config vault, world.accounts.get? market = some (.marketConfig config) ∧
      world.tokens.accounts.get? (config.vault asset) = some vault ∧
      vault.owner = config.vaultAuthority ∧
      total (Account.availableIn asset market) world.accounts ≤ vault.amount.val

/-- The markets that exist have two vaults and an authority derived for them. -/
def MarketsDerived (rt : Runtime) (seeds : List Seeds) (accounts : Accounts) : Prop :=
  ∀ market config, accounts.get? market = some (.marketConfig config) →
    config.vaultAuthority = rt.address (.vaultAuthority market) ∧
    .vaultAuthority market ∈ seeds ∧ config.baseVault ≠ config.quoteVault

/-- What holds throughout a run for one asset of one market. Coverage alone is
    not kept by a step: it takes the places of accounts and the derivation of
    vaults. -/
structure Solvent (rt : Runtime) (seeds : List Seeds) (market : Pubkey) (asset : CustodyAsset)
    (world : World) : Prop where
  placed : Placed rt seeds world.accounts
  derived : MarketsDerived rt seeds world.accounts
  covered : Covered market asset world

section Step

variable {rt : Runtime} {env : Env} {seeds : List Seeds} {world world' : World}
  {market : Pubkey} {asset : CustodyAsset}

/-- One instruction initializes a market, and no other touches one. -/
theorem process_configs {instruction : Instruction}
    (h : process rt env world instruction = .ok world') :
    (∃ ctx config, instruction = .initializeMarket ctx ∧
      MarketInitialized rt world.accounts ctx world'.accounts config ∧
      world'.tokens = world.tokens) ∨
    ∀ key config, world'.accounts.get? key = some (.marketConfig config) ↔
      world.accounts.get? key = some (.marketConfig config) := by
  cases instruction with
  | initializeMarket ctx =>
      rcases initializeMarketHandler_eq_ok h with ⟨htokens, config, hmarket⟩
      exact Or.inl ⟨ctx, config, rfl, hmarket, htokens⟩
  | _ => exact Or.inr (fun key config => process_frame h rfl key)

/-- An instruction keeps the markets as they were derived. -/
theorem process_derived {instruction : Instruction}
    (h : process rt env world instruction = .ok world') (hs : ∀ s ∈ instruction.seeds, s ∈ seeds)
    (hderived : MarketsDerived rt seeds world.accounts) :
    MarketsDerived rt seeds world'.accounts := by
  intro market config hget
  rcases process_configs h with ⟨ctx, config', rfl, hinit, -⟩ | hconfigs
  · rw [hinit.after, SortedMap.get?_insert] at hget
    by_cases hk : market = ctx.marketConfig
    · rw [if_pos hk, Option.some.injEq, Account.marketConfig.injEq] at hget
      rw [hk, ← hget]
      exact ⟨hinit.authority, hs _ (List.mem_cons_of_mem _ List.mem_cons_self), hinit.vaults⟩
    · rw [if_neg hk] at hget
      exact hderived market config hget
  · exact hderived market config ((hconfigs market config).mp hget)

/-- A market that exists goes on existing unchanged. -/
theorem process_config_kept {instruction : Instruction}
    (h : process rt env world instruction = .ok world') {config : MarketConfig}
    (hget : world.accounts.get? market = some (.marketConfig config)) :
    world'.accounts.get? market = some (.marketConfig config) := by
  rcases process_configs h with ⟨ctx, config', rfl, hinit, -⟩ | hconfigs
  · rw [hinit.after, SortedMap.get?_insert_of_ne, hget]
    intro hk
    rw [hk, hinit.fresh] at hget
    exact absurd hget (by simp only [reduceCtorEq, not_false_eq_true])
  · exact (hconfigs market config).mpr hget

/-- Accounts that make as much available, and a vault that holds no less, keep
    a market covered. -/
theorem covered_of_le (hcovered : Covered market asset world)
    (htotal : total (Account.availableIn asset market) world'.accounts
      ≤ total (Account.availableIn asset market) world.accounts)
    (hconfig : ∀ config, world.accounts.get? market = some (.marketConfig config) →
      world'.accounts.get? market = some (.marketConfig config))
    (hvault : ∀ config vault, world.accounts.get? market = some (.marketConfig config) →
      world.tokens.accounts.get? (config.vault asset) = some vault →
      vault.owner = config.vaultAuthority →
      0 < total (Account.availableIn asset market) world.accounts →
      total (Account.availableIn asset market) world.accounts ≤ vault.amount.val →
      ∃ vault', world'.tokens.accounts.get? (config.vault asset) = some vault' ∧
        vault'.owner = vault.owner ∧ vault.amount.val ≤ vault'.amount.val) :
    Covered market asset world' := by
  rcases Nat.eq_zero_or_pos (total (Account.availableIn asset market) world.accounts) with
    hzero | hpos
  · left
    omega
  · -- Something is owed, so the vault that covered it is there still.
    rcases hcovered with hzero | ⟨config, vault, hget, hacc, howner, hle⟩
    · omega
    · rcases hvault config vault hget hacc howner hpos hle with ⟨vault', hacc', howner', hle'⟩
      exact Or.inr ⟨config, vault', hconfig config hget, hacc', howner'.trans howner, by omega⟩

/-- A token account whose owner signed is not owned by a vault authority, as
    none of these addresses signs. -/
theorem signer_ne_authority (hsigners : ∀ s ∈ seeds, rt.address s ∉ env.signers)
    (hderived : MarketsDerived rt seeds world.accounts) {config : MarketConfig}
    (hget : world.accounts.get? market = some (.marketConfig config)) {trader : Pubkey}
    (htrader : trader ∈ env.signers) : trader ≠ config.vaultAuthority := by
  intro heq
  rcases hderived market config hget with ⟨hauthority, hmem, -⟩
  rw [heq, hauthority] at htrader
  exact hsigners _ hmem htrader

/-- A deposit without a fee keeps a vault covered, its own or another. -/
theorem deposited_covered {ctx : Deposit} {a : CustodyAsset} {amount : Checked.Word 64}
    {config : MarketConfig} {old new : TraderMarketBalance}
    (h : Deposited rt env world ctx a amount world' config old new) (hsep : rt.Separates seeds)
    (hsigners : ∀ s ∈ seeds, rt.address s ∉ env.signers)
    (hs : .traderBalance ctx.marketConfig ctx.trader ∈ seeds)
    (hfee : FeeFree market asset world (.invoke env (.deposit ctx a amount)))
    (hkept : ∀ config, world.accounts.get? market = some (.marketConfig config) →
      world'.accounts.get? market = some (.marketConfig config))
    (hsolvent : Solvent rt seeds market asset world) : Covered market asset world' := by
  rcases h.sourceAccount with ⟨source, hsource, hsowner⟩
  rcases h.vaultAccount with ⟨vault, hvault, -, hvowner⟩
  rcases h.transfer with ⟨decimals, htransfer⟩
  have hne : ctx.source ≠ ctx.vault := by
    intro hkey
    rw [hkey, hvault, Option.some.injEq] at hsource
    rw [hsource, hsowner] at hvowner
    exact signer_ne_authority hsigners hsolvent.derived h.marketAccount h.signer hvowner
  have htotal := deposited_available h hsep hsolvent.placed hs asset (fun m _ => m = market)
  simp only [decide_eq_true_eq] at htotal
  by_cases hown : a = asset ∧ ctx.marketConfig = market
  · -- The vault of the deposit receives what the balance records.
    rcases hown with ⟨rfl, rfl⟩
    rw [if_pos ⟨rfl, rfl⟩] at htotal
    rcases TokenLedger.transferChecked_amounts htransfer hne hvault with
      ⟨vault', mint, hvault', hmint, -, howner', hamounts⟩
    have hzero : mint.fee amount.val = 0 := by
      have hall := hfee rfl rfl
      rw [hmint, Option.all_some, decide_eq_true_eq] at hall
      exact hall
    rw [if_neg hne.symm, if_pos rfl, if_pos rfl, hzero] at hamounts
    rw [h.vaultKey] at hvault hvault'
    refine Or.inr ⟨config, vault', hkept config h.marketAccount, hvault', howner'.trans hvowner, ?_⟩
    rw [Account.availableIn, htotal]
    rcases hsolvent.covered with hempty | ⟨config', vault'', hget, hacc, -, hle⟩
    · rw [Account.availableIn] at hempty
      omega
    · rw [h.marketAccount, Option.some.injEq, Account.marketConfig.injEq] at hget
      rw [← hget, hvault, Option.some.injEq] at hacc
      rw [Account.availableIn, ← hacc] at hle
      omega
  -- A deposit elsewhere takes from its source, and that is not this vault.
  · rw [if_neg hown] at htotal
    refine covered_of_le hsolvent.covered (le_of_eq htotal) hkept ?_
    intro config' vault' hget hacc howner _ _
    rcases TokenLedger.transferChecked_amounts htransfer hne hacc with
      ⟨vault'', mint, hacc', -, -, howner', hamounts⟩
    -- The source belongs to a signer, so it is no vault.
    have hkey : config'.vault asset ≠ ctx.source := by
      intro hkey
      rw [hkey, hsource, Option.some.injEq] at hacc
      rw [← hacc, hsowner] at howner
      exact signer_ne_authority hsigners hsolvent.derived hget h.signer howner
    have hle := fee_le mint amount.val
    rw [if_neg hkey] at hamounts
    refine ⟨vault'', hacc', howner', ?_⟩
    split at hamounts <;> omega

/-- A withdrawal keeps a vault covered, its own or another. -/
theorem withdrawn_covered {ctx : Withdraw} {a : CustodyAsset} {amount : Checked.Word 64}
    {config : MarketConfig} {old new : TraderMarketBalance} {decimals : Checked.Byte}
    (h : Withdrawn env world ctx a amount config old new)
    (htransfer : world.tokens.transferChecked ctx.vault ctx.mint ctx.destination ctx.vaultAuthority
      amount decimals = .ok world'.tokens)
    (hafter : world'.accounts
      = world.accounts.insert ctx.traderBalance (.traderMarketBalance new))
    (hsep : rt.Separates seeds) (hsigners : ∀ s ∈ seeds, rt.address s ∉ env.signers)
    (hkept : ∀ config, world.accounts.get? market = some (.marketConfig config) →
      world'.accounts.get? market = some (.marketConfig config))
    (hsolvent : Solvent rt seeds market asset world) : Covered market asset world' := by
  rcases h.destinationAccount with ⟨destination, hdestination, hdowner⟩
  rcases h.vaultAccount with ⟨vault, hvault, -, hvowner⟩
  have hne : ctx.vault ≠ ctx.destination := by
    intro hkey
    rw [hkey, hdestination, Option.some.injEq] at hvault
    rw [← hvault, hdowner] at hvowner
    exact signer_ne_authority hsigners hsolvent.derived h.marketAccount h.signer hvowner
  have htotal := withdrawn_available h hafter asset (fun m _ => m = market)
  simp only [decide_eq_true_eq] at htotal
  rw [← Account.availableIn] at htotal
  rcases hsolvent.covered with hempty | ⟨config', vault', hget, hacc, howner, hle⟩
  · left
    omega
  · right
    rcases TokenLedger.transferChecked_amounts htransfer hne hacc with
      ⟨vault'', mint, hacc', -, -, howner', hamounts⟩
    -- The destination is the trader's, so no vault receives anything.
    have hkey : config'.vault asset ≠ ctx.destination := by
      intro hkey
      rw [hkey, hdestination, Option.some.injEq] at hacc
      rw [← hacc, hdowner] at howner
      exact signer_ne_authority hsigners hsolvent.derived hget h.signer howner
    rw [if_neg hkey, if_neg hkey] at hamounts
    refine ⟨config', vault'', hkept config' hget, hacc', howner'.trans howner, ?_⟩
    by_cases hdebit : config'.vault asset = ctx.vault
    · -- One vault has one authority, so this is the market's own withdrawal of
      -- this asset.
      rw [hdebit, hvault, Option.some.injEq] at hacc
      rcases hsolvent.derived market config' hget with ⟨hauthority', hmem', hvaults⟩
      rcases hsolvent.derived ctx.marketConfig config h.marketAccount with
        ⟨hauthority, hmem, -⟩
      rw [hacc, howner, hauthority', hauthority] at hvowner
      have hmarket : market = ctx.marketConfig :=
        Seeds.vaultAuthority.inj (address_injective hsep hmem' hmem hvowner)
      rw [hmarket, h.marketAccount, Option.some.injEq, Account.marketConfig.injEq] at hget
      have hasset : a = asset := by
        rw [h.vaultKey, ← hget] at hdebit
        rw [← hget] at hvaults
        cases a <;> cases asset <;> first | rfl | skip
        · exact absurd hdebit.symm hvaults
        · exact absurd hdebit hvaults
      rw [if_pos ⟨hasset, hmarket.symm⟩] at htotal
      rw [if_pos hdebit] at hamounts
      omega
    · rw [if_neg hdebit] at hamounts
      omega

/-- A step in which no deposit of the asset pays a fee keeps the market
    solvent. -/
theorem step_solvent {input : Input} (hsep : rt.Separates seeds)
    (hs : ∀ s ∈ input.seeds, s ∈ seeds) (hsigners : ∀ s ∈ seeds, rt.address s ∉ input.signers)
    (htokens : LeavesVaults rt seeds world input) (hfee : FeeFree market asset world input)
    (h : Solvent rt seeds market asset world) :
    Solvent rt seeds market asset (step rt world input).2 := by
  rcases step_cases rt world input with ⟨e, he⟩ | ⟨ledger, rfl, hstep⟩ |
    ⟨env, instruction, world', rfl, -, hp, hstep⟩
  · rw [he]
    exact h
  · rw [hstep]
    -- A change of the ledger by others leaves vaults with what they have.
    refine ⟨h.placed, h.derived, ?_⟩
    refine covered_of_le h.covered (le_refl _) (fun config hget => hget) ?_
    intro config vault hget hacc howner hpos hle
    rcases h.derived market config hget with ⟨hauthority, hmem, -⟩
    exact htokens _ vault market hacc (by omega) hmem (howner.trans hauthority)
  · rw [hstep]
    refine ⟨process_placed hp hsep hs h.placed, process_derived hp hs h.derived, ?_⟩
    have hkept : ∀ config, world.accounts.get? market = some (.marketConfig config) →
        world'.accounts.get? market = some (.marketConfig config) :=
      fun config hget => process_config_kept hp hget
    -- The remaining instructions change neither the total nor the tokens.
    have hidle : total (Account.availableIn asset market) world'.accounts
          = total (Account.availableIn asset market) world.accounts →
        world'.tokens = world.tokens → Covered market asset world' := by
      intro htotal hsame
      refine covered_of_le h.covered (le_of_eq htotal) hkept ?_
      intro config vault _ hacc _ _ _
      rw [hsame]
      exact ⟨vault, hacc, rfl, le_refl _⟩
    -- Settlements move amounts between balances of one market.
    have hsettle : instruction.settlement ≠ none →
        total (Account.availableIn asset market) world'.accounts
          = total (Account.availableIn asset market) world.accounts := by
      intro hsettlement
      have htotal : total (Account.availableIn asset market)
          (step rt world (.invoke env instruction)).2.accounts
            = total (Account.availableIn asset market) world.accounts :=
        settlement_preserves_total hsettlement asset market
      rw [hstep] at htotal
      exact htotal
    have hunwritten : ∀ instruction : Instruction,
        (∀ b, instruction.writes (.traderMarketBalance b) = false) →
        ∀ account, instruction.writes account = true →
          Account.availableIn asset market account = 0 := by
      intro instruction hbalance account hwrites
      cases account with
      | traderMarketBalance b =>
          rw [hbalance b] at hwrites
          exact Bool.noConfusion hwrites
      | _ => rfl
    cases instruction with
    | initializeProtocol ctx =>
        exact hidle (process_total hp (hunwritten _ (fun _ => rfl)))
          (initializeProtocolHandler_eq_ok hp).1
    | initializeMarket ctx =>
        exact hidle (process_total hp (hunwritten _ (fun _ => rfl)))
          (initializeMarketHandler_eq_ok hp).1
    | deposit ctx a amount =>
        rcases depositHandler_eq_ok hp with ⟨config, old, new, hd⟩
        exact deposited_covered hd hsep hsigners (hs _ List.mem_cons_self) hfee hkept h
    | withdraw ctx a amount =>
        rcases withdrawHandler_eq_ok hp with ⟨config, old, new, _, hw, htransfer, hafter⟩
        exact withdrawn_covered hw htransfer hafter hsep hsigners hkept h
    | settleFill ctx settlementId baseAmount quoteAmount =>
        exact hidle (hsettle (Option.some_ne_none _)) (settleFillHandler_eq_ok hp).1
    | settleSignedFill ctx settlementId buyerOrderHash sellerOrderHash args =>
        exact hidle (hsettle (Option.some_ne_none _)) (settleSignedFillHandler_eq_ok hp).1
    | cancelSignedOrder ctx orderHash order =>
        exact hidle (process_total hp (hunwritten _ (fun _ => rfl)))
          (cancelSignedOrderHandler_eq_ok hp).1

/-- A covered vault never refuses a withdrawal for lack of tokens. -/
theorem withdraw_sufficient (hcovered : Covered market asset world) {ctx : Withdraw}
    (hmarket : ctx.marketConfig = market) (amount : Checked.Word 64) :
    (step rt world (.invoke env (.withdraw ctx asset amount))).1
      ≠ .error (.token .insufficientFunds) := by
  intro herror
  -- The answer is that of the handler.
  have hhandler : withdrawHandler rt env world ctx asset amount
      = .error (.token .insufficientFunds) := by
    by_cases hrefused : env.refused = true ∨ env.precompilesVerified rt = false
    · rw [step, if_pos hrefused] at herror
      exact absurd herror (by simp only [Except.error.injEq, reduceCtorEq, not_false_eq_true])
    · rw [step, if_neg hrefused] at herror
      rcases hp : process rt env world (.withdraw ctx asset amount) with e | world'
      · rw [hp] at herror
        rw [← process, hp, Except.error.inj herror]
      · rw [hp] at herror
        exact absurd herror (by simp only [reduceCtorEq, not_false_eq_true])
  rcases withdrawHandler_insufficient hhandler with ⟨config, old, new, decimals, hw, htransfer⟩
  rcases hw.vaultAccount with ⟨vault, hvault, -, -⟩
  have hshort := TokenLedger.transferChecked_insufficient htransfer hvault
  -- The balance alone accounts for the amount.
  have hbalance : (old.available asset).val
      ≤ total (Account.availableIn asset market) world.accounts := by
    have hone := SortedMap.le_sumBy (fun _ a => Account.availableIn asset market a) world.accounts
      hw.before
    simp only [Account.availableIn, Account.availableIf, hw.owner.1, hmarket, decide_true,
      if_true] at hone
    exact hone
  have hamount := hw.available asset
  rw [if_pos rfl] at hamount
  have hpositive := hw.positive
  rcases hcovered with hempty | ⟨config', vault', hget, hacc, -, hle⟩
  · omega
  · rw [← hmarket, hw.marketAccount, Option.some.injEq, Account.marketConfig.injEq] at hget
    rw [← hget, ← hw.vaultKey, hvault, Option.some.injEq] at hacc
    rw [← hacc] at hle
    omega

end Step

/-- The runs in which no deposit of an asset into a market pays a transfer fee,
    others leave the vaults alone and no derived address signs: the vault of the
    asset holds at least what is available of it, and no withdrawal of it is
    refused for lack of tokens. -/
theorem run_solvent (rt : Runtime) (inputs : List Input) (market : Pubkey) (asset : CustodyAsset)
    (hsep : rt.Separates (seedsOf inputs))
    (hsigners : ∀ input ∈ inputs, ∀ s ∈ seedsOf inputs, rt.address s ∉ input.signers)
    (htokens : Run.Along (step rt) (LeavesVaults rt (seedsOf inputs)) World.empty inputs)
    (hfee : Run.Along (step rt) (FeeFree market asset) World.empty inputs) :
    let world := Run.after (step rt) World.empty inputs
    (∀ config, world.accounts.get? market = some (.marketConfig config) →
      total (Account.availableIn asset market) world.accounts
        ≤ world.vaultAmount (config.vault asset)) ∧
    ∀ env ctx amount, ctx.marketConfig = market →
      (step rt world (.invoke env (.withdraw ctx asset amount))).1
        ≠ .error (.token .insufficientFunds) := by
  intro world
  have hinit : Solvent rt (seedsOf inputs) market asset World.empty := by
    refine ⟨(ledgerKept_empty rt _ market market).placed, ?_, Or.inl rfl⟩
    intro key config hget
    exact absurd hget (by simp only [World.empty, SortedMap.get?_empty, reduceCtorEq,
      not_false_eq_true])
  -- Every seed a run mentions is in the list, and none of their addresses signs.
  have hinputs : Run.Along (step rt) (fun _ input => (∀ s ∈ input.seeds, s ∈ seedsOf inputs) ∧
      ∀ s ∈ seedsOf inputs, rt.address s ∉ input.signers) World.empty inputs :=
    Run.along_of_forall (step rt)
      (fun input hinput => ⟨fun s hs => List.mem_flatMap.mpr ⟨input, hinput, hs⟩,
        hsigners input hinput⟩) _
  have hsolvent : Solvent rt (seedsOf inputs) market asset world :=
    Run.invariant_along (step rt) (P := fun _ world => Solvent rt (seedsOf inputs) market asset
      world) hinit
      (fun _ world input h hcond => step_solvent hsep hcond.1.1 hcond.1.2 hcond.2.1 hcond.2.2 h)
      (Run.along_and (step rt) hinputs (Run.along_and (step rt) htokens hfee))
  refine ⟨fun config hget => ?_, fun env ctx amount hmarket =>
    withdraw_sufficient hsolvent.covered hmarket amount⟩
  rcases hsolvent.covered with hempty | ⟨config', vault, hget', hacc, -, hle⟩
  · rw [hempty]
    exact Nat.zero_le _
  · rw [hget, Option.some.injEq, Account.marketConfig.injEq] at hget'
    rw [World.vaultAmount, hget', hacc]
    exact hle

/-- The token ledger the sample runs start with takes nothing from anyone. -/
theorem leavesVaults_sample (rt : Runtime) (seeds : List Seeds)
    (transferFee : Option TransferFee) :
    Run.Along (step rt) (LeavesVaults rt seeds) World.empty (sampleDeposits transferFee) := by
  refine ⟨?_, trivial, trivial, trivial, trivial, trivial⟩
  intro key account market hget
  exact absurd hget (by simp only [World.empty, TokenLedger.empty, SortedMap.get?_empty,
    reduceCtorEq, not_false_eq_true])

/-- A withdrawal of the seller's base. -/
def sampleWithdrawal (amount : Checked.Word 64) : Instruction :=
  .withdraw
    { trader := sampleSeller, marketConfig := sampleMarket, traderBalance := sampleSellerBalance,
      vault := 30, destination := 21, mint := 10, vaultAuthority := sampleVaultAuthority }
    .base amount

/-- Two deposits on mints without a fee: the vault holds what was deposited. -/
theorem run_solvent_deposits :
    let world := Run.after (step sampleRuntime) World.empty (sampleDeposits none)
    total (Account.availableIn .base sampleMarket) world.accounts = 500 ∧
      (∀ config, world.accounts.get? sampleMarket = some (.marketConfig config) →
        total (Account.availableIn .base sampleMarket) world.accounts
          ≤ world.vaultAmount (config.vault .base)) ∧
      (step sampleRuntime world (.invoke (sampleEnv [sampleSeller]) (sampleWithdrawal 500))).1
        ≠ .error (.token .insufficientFunds) := by
  intro world
  have h := run_solvent sampleRuntime (sampleDeposits none) sampleMarket .base
    (by decide +kernel) (by decide +kernel) (leavesVaults_sample _ _ none) (by decide +kernel)
  exact ⟨by decide +kernel, h.1, h.2 _ _ _ rfl⟩

/-- A fee of one percent. -/
def sampleFee : TransferFee := ⟨100, 1000000, by decide⟩

/-- Two deposits on mints with a fee, all else as in a solvent run: the vault
    holds five tokens less than the seller has available, and the seller's
    withdrawal is refused. -/
theorem run_insolvent :
    let inputs := sampleDeposits (some sampleFee)
    let world := Run.after (step sampleRuntime) World.empty inputs
    sampleRuntime.Separates (seedsOf inputs) ∧
      (∀ input ∈ inputs, ∀ s ∈ seedsOf inputs, sampleRuntime.address s ∉ input.signers) ∧
      Run.Along (step sampleRuntime) (LeavesVaults sampleRuntime (seedsOf inputs)) World.empty
        inputs ∧
      (∃ config, world.accounts.get? sampleMarket = some (.marketConfig config) ∧
        world.vaultAmount (config.vault .base) = 495) ∧
      total (Account.availableIn .base sampleMarket) world.accounts = 500 ∧
      world.available sampleRuntime .base sampleMarket sampleSeller = 500 ∧
      (step sampleRuntime world (.invoke (sampleEnv [sampleSeller]) (sampleWithdrawal 500))).1
        = .error (.token .insufficientFunds) := by
  refine ⟨by decide +kernel, by decide +kernel, leavesVaults_sample _ _ _, ?_, by decide +kernel,
    by decide +kernel, by decide +kernel⟩
  exact ⟨⟨sampleProtocol, sampleAdmin, sampleAuthority, 10, 11, 30, 31, sampleVaultAuthority, 255,
    false, 255⟩, by decide +kernel, by decide +kernel⟩

end Settlement

end SolanaLab
