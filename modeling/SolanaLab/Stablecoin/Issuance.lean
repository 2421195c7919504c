import SolanaLab.Stablecoin.Accounts

/-!
# The Issuance Model of the Property Tests

The property tests of the stablecoin exercise a model of issuance and not the
program. The model keeps six numbers and does in a few lines what the program
does with records, a mint and checks on both.

The two differ in the order of their checks and in the errors they give. The
model also writes some of its fields before its last check when it burns. None
of this shows: with one registered issuer that is not paused, the two accept the
same steps and agree on every number, and a step that is rejected changes
neither. What makes the last check of a burn harmless is that what was burned
and what is outstanding add up to what was minted.

The comparison is a simulation over histories. The model is a value of six
numbers, and `Represents` says which records it speaks about: the supply, the
counters of the one issuer, the cap and the limit. Since the model counts
totals once and the program twice, the relation also asks that the issuer's
totals are those of the supply.

## Main definitions

* `IssuanceModel`: The model, with `mint`, `burn` and `assertInvariants`.
* `Operation`: A mint or a burn, as it is asked of both.
* `Represents`: The records of an issuer say what the model says.

## Theorems

* `IssuanceModel.mint_cases`, `IssuanceModel.burn_cases`: When the model
  accepts.
* `mint_simulated`, `burn_simulated`: The two agree on one operation.
* `issuance_faithful`: The two agree on every history.
-/

namespace SolanaLab

namespace Stablecoin

open Checked

/-! ### The model -/

/-- The errors of the model. The program has finer ones, and so the two are
    compared by whether a step is accepted. -/
inductive ProtocolError where
  | overflow
  | issuerLimitExceeded
  | globalCapExceeded
  | outstandingExceeded
deriving DecidableEq

/-- The six numbers of the model: the cap and the limit, which never change, and
    the counts of what was minted, burned and is left. -/
structure IssuanceModel where
  globalCap : Word 64
  issuerLimit : Word 64
  currentSupply : Word 64
  issuerOutstanding : Word 64
  totalMinted : Word 64
  totalBurned : Word 64
deriving DecidableEq

namespace IssuanceModel

/-- A model in which nothing has been minted. -/
def new (globalCap issuerLimit : Word 64) : IssuanceModel := ⟨globalCap, issuerLimit, 0, 0, 0, 0⟩

/-- The new supply, outstanding amount and total of a mint. -/
def mintChecked (model : IssuanceModel) (amount : Word 64) :
    Except ProtocolError (Word 64 × Word 64 × Word 64) := do
  let newSupply ← okOr (checkedAdd model.currentSupply amount) .overflow
  let newOutstanding ← okOr (checkedAdd model.issuerOutstanding amount) .overflow
  let newTotalMinted ← okOr (checkedAdd model.totalMinted amount) .overflow
  require (newSupply ≤ model.globalCap) .globalCapExceeded
  require (newOutstanding ≤ model.issuerLimit) .issuerLimitExceeded
  return (newSupply, newOutstanding, newTotalMinted)

/-- `mint`. Nothing is written before the last check. -/
def mint (model : IssuanceModel) (amount : Word 64) : Except ProtocolError Unit × IssuanceModel :=
  match model.mintChecked amount with
  | .error e => (.error e, model)
  | .ok (currentSupply, issuerOutstanding, totalMinted) =>
    (.ok (), { model with currentSupply, issuerOutstanding, totalMinted })

/-- `burn`. A step that fails leaves what has been written by then: the last
    addition comes after the supply and the outstanding amount have been
    lowered, and unlike the handler of the program the method has no transaction
    around it. -/
def burn (model : IssuanceModel) (amount : Word 64) : Except ProtocolError Unit × IssuanceModel :=
  if model.issuerOutstanding < amount ∨ model.currentSupply < amount then
    (.error .outstandingExceeded, model)
  else
    -- After the guard only the total can fail, with the counts reduced by then.
    match checkedSub model.currentSupply amount with
    | none => (.error .outstandingExceeded, model)
    | some currentSupply =>
      match checkedSub model.issuerOutstanding amount with
      | none => (.error .outstandingExceeded, { model with currentSupply })
      | some issuerOutstanding =>
        match checkedAdd model.totalBurned amount with
        | none => (.error .overflow, { model with currentSupply, issuerOutstanding })
        | some totalBurned =>
          (.ok (), { model with currentSupply, issuerOutstanding, totalBurned })

/-- `assert_invariants` does not panic, neither by an assertion nor by the
    subtraction. -/
def assertInvariants (model : IssuanceModel) : Prop :=
  model.currentSupply ≤ model.globalCap ∧ model.issuerOutstanding ≤ model.issuerLimit ∧
    checkedSub model.totalMinted model.totalBurned = some model.currentSupply

/-- A mint that the caps allow. The count of all that was minted must also fit
    in 64 bits. -/
def MintFits (model : IssuanceModel) (amount : Word 64) : Prop :=
  model.currentSupply.val + amount.val ≤ model.globalCap.val ∧
    model.issuerOutstanding.val + amount.val ≤ model.issuerLimit.val ∧
    model.totalMinted.val + amount.val < 2 ^ 64

/-- A burn that the counters allow. -/
def BurnFits (model : IssuanceModel) (amount : Word 64) : Prop :=
  amount.val ≤ model.issuerOutstanding.val ∧ amount.val ≤ model.currentSupply.val

/-- A mint is accepted exactly when it fits, and rejected with nothing
    written. -/
theorem mint_cases (model : IssuanceModel) (amount : Word 64) :
    (∃ e, model.mint amount = (.error e, model) ∧ ¬ model.MintFits amount) ∨
    ∃ currentSupply issuerOutstanding totalMinted,
      model.mint amount
        = (.ok (), { model with currentSupply, issuerOutstanding, totalMinted }) ∧
      currentSupply.val = model.currentSupply.val + amount.val ∧
      issuerOutstanding.val = model.issuerOutstanding.val + amount.val ∧
      totalMinted.val = model.totalMinted.val + amount.val ∧
      currentSupply ≤ model.globalCap ∧ issuerOutstanding ≤ model.issuerLimit := by
  rcases hm : model.mintChecked amount with e | ⟨s, o, t⟩
  · refine Or.inl ⟨e, by rw [mint, hm], ?_⟩
    rintro ⟨hcap, hlimit, htotal⟩
    have := model.globalCap.isLt
    have := model.issuerLimit.isLt
    -- Within cap and limit the two sums fit into words.
    rcases exists_add (a := model.currentSupply) (b := amount) (by omega) with ⟨s, hs⟩
    rcases exists_add (a := model.issuerOutstanding) (b := amount) (by omega) with ⟨o, ho⟩
    rcases exists_add htotal with ⟨t, ht⟩
    rw [← hs, ← Fin.le_def] at hcap
    rw [← ho, ← Fin.le_def] at hlimit
    simp only [mintChecked, checkedAdd_eq_some.mpr hs, checkedAdd_eq_some.mpr ho,
      checkedAdd_eq_some.mpr ht, okOr_some, require, hcap, hlimit, if_true, bind, Except.bind, pure,
      Except.pure, reduceCtorEq] at hm
  · refine Or.inr ⟨s, o, t, by rw [mint, hm], ?_⟩
    simp only [mintChecked, bind_eq_ok, okOr_eq_ok, checkedAdd_eq_some, require_eq_ok,
      exists_const, pure, Except.pure, Except.ok.injEq, Prod.mk.injEq] at hm
    rcases hm with ⟨_, hs, _, ho, _, ht, hcap, hlimit, rfl, rfl, rfl⟩
    exact ⟨hs, ho, ht, hcap, hlimit⟩

/-- A burn is accepted exactly when it fits, and rejected with nothing written,
    provided there is room to count it. The room is what keeps the late addition
    from failing after the first fields are written. -/
theorem burn_cases (model : IssuanceModel) (amount : Word 64)
    (hroom : model.totalBurned.val + model.issuerOutstanding.val < 2 ^ 64) :
    (∃ e, model.burn amount = (.error e, model) ∧ ¬ model.BurnFits amount) ∨
    ∃ currentSupply issuerOutstanding totalBurned,
      model.burn amount
        = (.ok (), { model with currentSupply, issuerOutstanding, totalBurned }) ∧
      currentSupply.val + amount.val = model.currentSupply.val ∧
      issuerOutstanding.val + amount.val = model.issuerOutstanding.val ∧
      totalBurned.val = model.totalBurned.val + amount.val := by
  by_cases hfits : model.BurnFits amount
  · right
    have hguard : ¬ (model.issuerOutstanding < amount ∨ model.currentSupply < amount) := by
      rintro (hlt | hlt)
      · exact absurd hfits.1 (Nat.not_le_of_lt hlt)
      · exact absurd hfits.2 (Nat.not_le_of_lt hlt)
    -- What is burned was minted, and the count of that fits.
    have htotal : model.totalBurned.val + amount.val < 2 ^ 64 := by
      have := hfits.1
      omega
    rcases exists_sub hfits.2 with ⟨s, hs⟩
    rcases exists_sub hfits.1 with ⟨o, ho⟩
    rcases exists_add htotal with ⟨t, ht⟩
    refine ⟨s, o, t, ?_, hs, ho, ht⟩
    rw [burn, if_neg hguard, checkedSub_eq_some.mpr hs]
    simp only [checkedSub_eq_some.mpr ho, checkedAdd_eq_some.mpr ht]
  · refine Or.inl ⟨.outstandingExceeded, ?_, hfits⟩
    have hguard : model.issuerOutstanding < amount ∨ model.currentSupply < amount := by
      rw [BurnFits, not_and_or, Nat.not_le, Nat.not_le] at hfits
      exact hfits
    rw [burn, if_pos hguard]

end IssuanceModel

/-! ### The program -/

namespace Issuer

/-- What the records of an issuer say in the terms of the model. -/
def IssuerRecords.model (r : IssuerRecords) : IssuanceModel where
  globalCap := r.protocol.globalSupplyCap
  issuerLimit := r.config.mintLimit
  currentSupply := r.supply.currentSupply
  issuerOutstanding := r.stats.currentOutstanding
  totalMinted := r.supply.totalMinted
  totalBurned := r.supply.totalBurned

/-- The records of an issuer that is alone and not paused say what the model
    says, the issuer's totals being those of the supply. The limit is positive,
    as it is from the registration on unless the issuer is moved. -/
structure Represents (rt : Runtime) (authority mint : Pubkey) (world : World)
    (model : IssuanceModel) (r : IssuerRecords) : Prop where
  inPlace : InPlace rt world authority r
  mint : r.mintConfig.mint = mint
  unpaused : r.config.paused = false
  hasLimit : 0 < r.config.mintLimit
  projected : r.model = model
  totalMinted : r.stats.totalMinted = model.totalMinted
  totalBurned : r.stats.totalBurned = model.totalBurned

/-- A mint or a burn. -/
inductive Operation where
  | mint (user key : Pubkey) (amount : Word 64)
  | burn (key : Pubkey) (amount : Word 64)
deriving DecidableEq

namespace Operation

/-- The instruction of the program, with the issuer's own accounts. -/
def instruction (rt : Runtime) (authority mint : Pubkey) : Operation → Instruction
  | .mint user key amount => .mintToUser (canonicalMint rt authority mint user key) amount
  | burn key amount => .burnFromUser (canonicalBurn rt authority mint key) amount

/-- Who has to sign. -/
def signers (authority : Pubkey) : Operation → List Pubkey
  | mint _ key _ => [authority, key]
  | burn _ _ => [authority]

/-- The method of the model. -/
def apply (model : IssuanceModel) : Operation → Except ProtocolError Unit × IssuanceModel
  | mint _ _ amount => model.mint amount
  | burn _ amount => model.burn amount

end Operation

/-- Whether a step was accepted. -/
def accepted {E : Type} : Except E Unit → Bool
  | .ok _ => true
  | .error _ => false

/-- One operation of the issuer, by the program. Only whether it was accepted is
    kept of the result, which is all the two can agree on. -/
def chainStep (rt : Runtime) (authority mint : Pubkey) (world : World)
    (input : Env × Operation) : Bool × World :=
  let result := step rt world (input.1, input.2.instruction rt authority mint)
  (accepted result.1, result.2)

/-- One operation of the issuer, by the model. -/
def modelStep (model : IssuanceModel) (input : Env × Operation) : Bool × IssuanceModel :=
  let result := input.2.apply model
  (accepted result.1, result.2)

/-- Whether a step failed in a call of another program. -/
def callFailed : Except Error Unit → Bool
  | .error (.cpi _) => true
  | _ => false

/-- An operation that is signed for, in a transaction that is not refused, and
    whose calls of other programs do not fail. -/
structure Enabled (rt : Runtime) (authority mint : Pubkey) (world : World)
    (input : Env × Operation) : Prop where
  signers : ∀ key ∈ input.2.signers authority, key ∈ input.1.signers
  notRefused : input.1.refused = false
  calls : callFailed (step rt world (input.1, input.2.instruction rt authority mint)).1 = false

section Simulation

variable {rt : Runtime} {env : Env} {world : World} {authority mint : Pubkey}
  {model : IssuanceModel} {r : IssuerRecords}

/-- Minting with accepted accounts fails for the caps or in a call. Stated the
    other way round: if the caps allow the amount, an error is one of a called
    program. -/
theorem mintToUserHandler_eq_error {ctx : MintToUser} {amount : Word 64} {e : Error}
    (hloaded : ctx.toIssuerAccounts.Loaded rt env world r)
    (hkey : ctx.userTokenAccount ∈ env.signers)
    (hpaused : r.protocol.paused = false ∧ r.config.paused = false)
    (htotals : r.stats.totalMinted = r.supply.totalMinted)
    (h : mintToUserHandler rt env world ctx amount = .error e) (hfits : r.model.MintFits amount) :
    ∃ f, e = .cpi f := by
  rcases hfits with ⟨hcap, hlimit, htotal⟩
  simp only [IssuerRecords.model] at hcap hlimit htotal
  have := r.protocol.globalSupplyCap.isLt
  have := r.config.mintLimit.isLt
  rcases exists_add (a := r.supply.currentSupply) (b := amount) (by omega) with ⟨s, hs⟩
  rcases exists_add (a := r.stats.currentOutstanding) (b := amount) (by omega) with ⟨o, ho⟩
  rcases exists_add htotal with ⟨t, ht⟩
  rw [← hs, ← Fin.le_def] at hcap
  rw [← ho, ← Fin.le_def] at hlimit
  have hsigner : checkSigner env ctx.userTokenAccount = (.ok () : Except Error Unit) :=
    checkSigner_eq_ok.mpr hkey
  -- Only the two calls are left to fail.
  simp only [mintToUserHandler, loadIssuerAccounts_eq_ok.mpr hloaded,
    hsigner, hpaused.1, hpaused.2, htotals, checkedAdd_eq_some.mpr hs,
    checkedAdd_eq_some.mpr ho, checkedAdd_eq_some.mpr ht, okOr_some, requireCode, require, hcap,
    hlimit, if_true, Bool.false_eq_true, not_false_eq_true, bind_eq_error, cpi_eq_error, pure,
    Except.pure, Except.ok.injEq, exists_eq_left', exists_const, true_and, reduceCtorEq, false_or,
    and_false, exists_false, or_false] at h
  rcases h with ⟨f, -, rfl⟩ | ⟨_, -, f, -, rfl⟩
  · exact ⟨f, rfl⟩
  · exact ⟨f, rfl⟩

/-- Burning with accepted accounts fails for the counters or in the call. The
    room for what is burned has to be asked for here too, because the handler
    adds before it calls. -/
theorem burnFromUserHandler_eq_error {ctx : BurnFromUser} {amount : Word 64} {e : Error}
    (hloaded : ctx.toIssuerAccounts.Loaded rt env world r)
    (hpaused : r.protocol.paused = false ∧ r.config.paused = false)
    (htotals : r.stats.totalBurned = r.supply.totalBurned)
    (hroom : r.supply.totalBurned.val + r.stats.currentOutstanding.val < 2 ^ 64)
    (h : burnFromUserHandler rt env world ctx amount = .error e) (hfits : r.model.BurnFits amount) :
    ∃ f, e = .cpi f := by
  rcases hfits with ⟨houtstanding, hsupply⟩
  simp only [IssuerRecords.model] at houtstanding hsupply
  rcases exists_sub hsupply with ⟨s, hs⟩
  rcases exists_sub houtstanding with ⟨o, ho⟩
  rcases exists_add (a := r.supply.totalBurned) (b := amount) (by omega) with ⟨t, ht⟩
  simp only [burnFromUserHandler, loadIssuerAccounts_eq_ok.mpr hloaded, hpaused.1, hpaused.2,
    htotals, checkedSub_eq_some.mpr hs, checkedSub_eq_some.mpr ho, checkedAdd_eq_some.mpr ht,
    okOr_some, requireCode, require, if_true, Bool.false_eq_true, not_false_eq_true, bind_eq_error,
    cpi_eq_error, pure, Except.pure, Except.ok.injEq, exists_eq_left', exists_const, true_and,
    reduceCtorEq, false_or, and_false, exists_false, or_false] at h
  rcases h with ⟨f, -, rfl⟩
  exact ⟨f, rfl⟩

/-- Accepted accounts hold one set of records, so what a handler has loaded is
    what the relation speaks about. -/
theorem IssuerAccounts.Loaded.unique {ctx : IssuerAccounts} {r' : IssuerRecords}
    (h : ctx.Loaded rt env world r) (h' : ctx.Loaded rt env world r') : r' = r :=
  Except.ok.inj ((loadIssuerAccounts_eq_ok.mpr h').symm.trans (loadIssuerAccounts_eq_ok.mpr h))

/-- Minting and burning leave the records of the issuer in place. -/
theorem Recounted.inPlace {world' : World} {stats : IssuerStats} {supply : GlobalSupplyStats}
    (h : Recounted world (canonicalAccounts rt authority mint) world' r stats supply)
    (hr : InPlace rt world authority r) :
    InPlace rt world' authority { r with stats, supply } := by
  have hstats := h.statsKept.2.trans hr.statsAuthority
  rw [h.after]
  exact {
    protocol := hr.protocol
    mintConfig := hr.mintConfig
    supply := SortedMap.get?_insert_self _ _ _
    config := hr.config
    configAuthority := hr.configAuthority
    stats := SortedMap.get?_insert_self _ _ _
    statsAuthority := hstats }

/-- The two agree on an operation: both reject it and change nothing, or both
    accept it and go on to say the same. -/
def Agrees (rt : Runtime) (authority mint : Pubkey) (world : World) (model : IssuanceModel)
    (input : Env × Operation) : Prop :=
  (chainStep rt authority mint world input = (false, world) ∧
    modelStep model input = (false, model)) ∨
  ∃ world' model' r',
    process rt input.1 world (input.2.instruction rt authority mint) = .ok world' ∧
    chainStep rt authority mint world input = (true, world') ∧
    modelStep model input = (true, model') ∧ Represents rt authority mint world' model' r'

/-- Both reject an operation that the program fails and the model refuses. The
    program changes nothing because a failed transaction is undone, and the
    model because it had not written yet. -/
theorem agrees_of_error {operation : Operation} {e : Error} {e' : ProtocolError}
    (hrefused : env.refused = false)
    (hprocess : process rt env world (operation.instruction rt authority mint) = .error e)
    (hmodel : operation.apply model = (.error e', model)) :
    Agrees rt authority mint world model (env, operation) := by
  have hstep : step rt world (env, operation.instruction rt authority mint) = (.error e, world) :=
    transact_of_error (process rt) .runtime hrefused hprocess
  exact Or.inl ⟨by rw [chainStep, hstep]; rfl, by rw [modelStep, hmodel]; rfl⟩

/-- Both accept an operation, and go on to say the same. -/
theorem agrees_of_ok {operation : Operation} {world' : World} {model' : IssuanceModel}
    {r' : IssuerRecords} (hrefused : env.refused = false)
    (hprocess : process rt env world (operation.instruction rt authority mint) = .ok world')
    (hmodel : operation.apply model = (.ok (), model'))
    (hrep : Represents rt authority mint world' model' r') :
    Agrees rt authority mint world model (env, operation) := by
  have hstep : step rt world (env, operation.instruction rt authority mint) = (.ok (), world') :=
    transact_of_ok (process rt) .runtime hrefused hprocess
  exact Or.inr ⟨world', model', r', hprocess, by rw [chainStep, hstep]; rfl,
    by rw [modelStep, hmodel]; rfl, hrep⟩

/-- An enabled operation does not fail in a call. Calls to the token program are
    outside the model of the tests, so their failures are excluded. -/
theorem Enabled.process_ne_cpi {operation : Operation}
    (he : Enabled rt authority mint world (env, operation)) (f : TokenError) :
    process rt env world (operation.instruction rt authority mint) ≠ .error (.cpi f) := by
  intro hprocess
  have hstep : step rt world (env, operation.instruction rt authority mint)
      = (.error (.cpi f), world) := transact_of_error (process rt) .runtime he.notRefused hprocess
  have hcalls := he.calls
  rw [hstep] at hcalls
  exact absurd hcalls (by simp only [callFailed, Bool.true_eq_false, not_false_eq_true])

/-- The two agree on a mint. Each side's result is split and the mixed cases are
    contradictory: the conditions under which the program mints are exactly
    those of `MintFits`. -/
theorem mint_simulated (hcanonical : rt.Canonical (canonicalSeeds authority))
    (hl : Linked rt world) (hrep : Represents rt authority mint world model r)
    {user key : Pubkey} {amount : Word 64}
    (he : Enabled rt authority mint world (env, .mint user key amount)) :
    Agrees rt authority mint world model (env, .mint user key amount) := by
  rcases hrep with ⟨hr, rfl, hunpaused, hhas, rfl, hminted, hburned⟩
  have hloaded := canonical_loaded hcanonical hl hr (he.signers authority List.mem_cons_self)
  have hpaused := (hl.protocols _ _ hr.protocol).1
  rcases hhandler : mintToUserHandler rt env world
    (canonicalMint rt authority r.mintConfig.mint user key) amount with e | world'
  · -- The accounts being in place, only the amount can have been refused.
    have hfits : ¬ r.model.MintFits amount := by
      intro hfits
      rcases mintToUserHandler_eq_error hloaded
        (he.signers key (List.mem_cons_of_mem _ List.mem_cons_self)) ⟨hpaused, hunpaused⟩ hminted
        hhandler hfits with ⟨f, rfl⟩
      exact he.process_ne_cpi f hhandler
    rcases IssuanceModel.mint_cases r.model amount with ⟨e', hmint, -⟩ |
      ⟨s, o, t, -, hs, ho, ht, hcap, hlimit⟩
    · exact agrees_of_error he.notRefused hhandler hmint
    · rw [Fin.le_def] at hcap hlimit
      exact absurd ⟨by omega, by omega, by omega⟩ hfits
  -- The program has minted, so its conditions held, and they are the model's.
  · rcases mintToUserHandler_eq_ok.mp hhandler with ⟨r', stats, supply, hm⟩
    rcases hloaded.unique hm.loaded with rfl
    have hcurrent := hm.currentSupply
    have houtstanding := hm.outstanding
    have htotal := hm.supplyMinted
    rcases IssuanceModel.mint_cases r'.model amount with ⟨e', -, hfits⟩ |
      ⟨s, o, t, hmint, hs, ho, ht, -, -⟩
    · have hcap := hm.withinCap
      have hlimit := hm.withinLimit
      rw [Fin.le_def] at hcap hlimit
      refine absurd ⟨?_, ?_, ?_⟩ hfits <;> simp only [IssuerRecords.model] <;> omega
    -- Both have added the same amount to the same numbers.
    · have hs' : supply.currentSupply = s := Fin.ext (hm.currentSupply.trans hs.symm)
      have ho' : stats.currentOutstanding = o := Fin.ext (hm.outstanding.trans ho.symm)
      have ht' : supply.totalMinted = t := Fin.ext (hm.supplyMinted.trans ht.symm)
      have hissuer : stats.totalMinted = t := by
        refine Fin.ext ?_
        rw [hm.totalMinted, hminted, ht]
      have hkept : supply.totalBurned = r'.supply.totalBurned := by rw [hm.supplyFields]
      have hkept' : stats.totalBurned = r'.stats.totalBurned := by rw [hm.statsFields]
      have hrep' : Represents rt authority r'.mintConfig.mint world'
          { r'.model with currentSupply := s, issuerOutstanding := o, totalMinted := t }
          { r' with stats, supply } :=
        ⟨hm.recounted.inPlace hr, rfl, hunpaused, hhas,
          by simp only [IssuerRecords.model, hs', ho', ht', hkept], hissuer, hkept'.trans hburned⟩
      exact agrees_of_ok he.notRefused hhandler hmint hrep'

/-- The two agree on a burn, as on a mint. In addition the count of what was
    burned has room, by the counters of the issuer. -/
theorem burn_simulated (hcanonical : rt.Canonical (canonicalSeeds authority))
    (hl : Linked rt world) (hc : Counted world) (hrep : Represents rt authority mint world model r)
    {key : Pubkey} {amount : Word 64}
    (he : Enabled rt authority mint world (env, .burn key amount)) :
    Agrees rt authority mint world model (env, .burn key amount) := by
  rcases hrep with ⟨hr, rfl, hunpaused, hhas, rfl, hminted, hburned⟩
  have hloaded := canonical_loaded hcanonical hl hr (he.signers authority List.mem_cons_self)
  have hpaused := (hl.protocols _ _ hr.protocol).1
  -- What is outstanding and what was burned add up to what was minted.
  have hroom : r.supply.totalBurned.val + r.stats.currentOutstanding.val < 2 ^ 64 := by
    have hcount : r.stats.totalMinted.val
        = r.stats.totalBurned.val + r.stats.currentOutstanding.val := hc.statsCounts _ _ hr.stats
    rw [hburned] at hcount
    have := r.stats.totalMinted.isLt
    simp only [IssuerRecords.model] at hcount
    omega
  rcases hhandler : burnFromUserHandler rt env world
    (canonicalBurn rt authority r.mintConfig.mint key) amount with e | world'
  -- Only the counters can have refused it, as the accounts are accepted.
  · have hfits : ¬ r.model.BurnFits amount := by
      intro hfits
      rcases burnFromUserHandler_eq_error hloaded ⟨hpaused, hunpaused⟩ hburned hroom hhandler hfits
        with ⟨f, rfl⟩
      exact he.process_ne_cpi f hhandler
    rcases IssuanceModel.burn_cases r.model amount hroom with ⟨e', hburn, -⟩ |
      ⟨s, o, t, -, hs, ho, ht⟩
    · exact agrees_of_error he.notRefused hhandler hburn
    · exact absurd ⟨by omega, by omega⟩ hfits
  · rcases burnFromUserHandler_eq_ok.mp hhandler with ⟨r', stats, supply, hb⟩
    rcases hloaded.unique hb.loaded with rfl
    have hcurrent := hb.currentSupply
    have houtstanding := hb.outstanding
    rcases IssuanceModel.burn_cases r'.model amount hroom with ⟨e', -, hfits⟩ |
      ⟨s, o, t, hburn, hs, ho, ht⟩
    · refine absurd ⟨?_, ?_⟩ hfits <;> simp only [IssuerRecords.model] <;> omega
    -- Both have moved the same amount from what is left to what was burned.
    · simp only [IssuerRecords.model] at hs ho ht
      have hs' : supply.currentSupply = s := Fin.ext (by omega)
      have ho' : stats.currentOutstanding = o := Fin.ext (by omega)
      have ht' : supply.totalBurned = t := Fin.ext (hb.supplyBurned.trans ht.symm)
      have hissuer : stats.totalBurned = t := by
        refine Fin.ext ?_
        rw [hb.totalBurned, hburned, ht]
        rfl
      have hkept : supply.totalMinted = r'.supply.totalMinted := by rw [hb.supplyFields]
      have hkept' : stats.totalMinted = r'.stats.totalMinted := by rw [hb.statsFields]
      have hrep' : Represents rt authority r'.mintConfig.mint world'
          { r'.model with currentSupply := s, issuerOutstanding := o, totalBurned := t }
          { r' with stats, supply } :=
        ⟨hb.recounted.inPlace hr, rfl, hunpaused, hhas,
          by simp only [IssuerRecords.model, hs', ho', ht', hkept], hkept'.trans hminted, hissuer⟩
      exact agrees_of_ok he.notRefused hhandler hburn hrep'

/-- The assertions of the model hold of what the records say: the cap and the
    limit by the invariant of the counters, the sum by the count of the supply. -/
theorem Represents.assertInvariants (h : Represents rt authority mint world model r)
    (hl : Linked rt world) (hc : Counted world) : model.assertInvariants := by
  rcases h with ⟨hr, -, -, hhas, rfl, -, -⟩
  refine ⟨?_, ?_, ?_⟩
  · rcases hc.withinCap _ _ hr.supply with ⟨protocol, hprotocol, hle⟩
    rw [(hl.supplies _ _ hr.supply).protocolConfig, hr.protocol, Option.some.injEq] at hprotocol
    rw [← hprotocol] at hle
    exact hle
  · rcases hc.withinLimit _ _ hr.config with ⟨stats, hstats, -, hle⟩
    rw [(hl.configs _ _ hr.config).stats, hr.configAuthority, hr.stats, Option.some.injEq] at hstats
    rw [← hstats] at hle
    exact hle hhas
  · have hcount : r.supply.totalMinted.val
        = r.supply.totalBurned.val + r.supply.currentSupply.val := hc.supplyCounts _ _ hr.supply
    rw [checkedSub_eq_some]
    simp only [IssuerRecords.model]
    omega

end Simulation

/-! ### Histories -/

/-- One issuer, set up from nothing. -/
structure Launch where
  initializeEnv : Env
  initializeProtocol : InitializeProtocol
  globalSupplyCap : Word 64
  createMintEnv : Env
  createMint : CreateStablecoinMint
  decimals : Byte
  registerEnv : Env
  register : RegisterIssuer
  mintLimit : Word 64

namespace Launch

/-- The three transactions of the setup. -/
def inputs (launch : Launch) : List Input :=
  [(launch.initializeEnv, .initializeProtocol launch.initializeProtocol launch.globalSupplyCap),
    (launch.createMintEnv, .createStablecoinMint launch.createMint launch.decimals),
    (launch.registerEnv, .registerIssuer launch.register launch.mintLimit)]

/-- Who is registered as the issuer. -/
def authority (launch : Launch) : Pubkey := launch.register.issuerAuthority

def mint (launch : Launch) : Pubkey := launch.createMint.mint

/-- The model with the cap and the limit of the setup. -/
def model (launch : Launch) : IssuanceModel :=
  IssuanceModel.new launch.globalSupplyCap launch.mintLimit

/-- A setup that succeeds leaves records that say what a new model says. -/
theorem represents {rt : Runtime} (launch : Launch)
    (h : ∀ entry ∈ Run.log (step rt) World.empty launch.inputs, entry.2 = .ok ()) :
    ∃ r, Represents rt launch.authority launch.mint
      (Run.after (step rt) World.empty launch.inputs) launch.model r := by
  simp only [inputs, Run.log, List.mem_cons, List.not_mem_nil, or_false, forall_eq_or_imp,
    forall_eq] at h
  rcases h with ⟨h1, h2, h3⟩
  have hp1 := process_placed (step_ok h1) (placed_empty rt)
  rcases initializeProtocolHandler_eq_ok.mp (step_ok h1) with
    ⟨-, hkey1, -, -, hafter1⟩
  rcases createStablecoinMintHandler_eq_ok (step_ok h2) with
    ⟨protocol, hm⟩
  have hr := registerIssuerHandler_eq_ok (step_ok h3)
  -- All three were accepted, so each found what the one before it had written.
  have hkey2 := hm.admin.key hp1
  have hafter : Run.after (step rt) World.empty launch.inputs = (step rt _ _).2 := rfl
  -- The protocol the mint is created for is the one that was initialized.
  have hcap : protocol.globalSupplyCap = launch.globalSupplyCap := by
    have hfound := hm.admin.found
    rw [← hafter1, hkey1, hkey2, SortedMap.get?_insert_self, Option.some.injEq] at hfound
    rw [← hfound]
  refine ⟨⟨{ protocol with stablecoinMint := launch.createMint.mint },
    ⟨launch.createMint.protocolConfig, launch.createMint.mint, launch.createMint.mintAuthority,
      launch.createMint.supplyStats, launch.decimals, rt.bump Seeds.mintAuthority,
      rt.bump Seeds.stablecoinMint⟩,
    ⟨launch.createMint.protocolConfig, launch.createMint.mint, 0, 0, 0,
      rt.bump Seeds.supplyStats⟩,
    ⟨launch.register.protocolConfig, launch.authority, launch.register.issuerStats,
      launch.mintLimit, false, rt.bump (Seeds.issuer launch.authority)⟩,
    ⟨launch.register.protocolConfig, launch.register.issuerConfig, launch.authority, 0, 0, 0,
      rt.bump (Seeds.issuerStats launch.authority)⟩⟩, ?_, rfl, rfl, hr.positive, ?_, rfl, rfl⟩
  · rw [hafter, hr.after, hm.after]
    exact {
      protocol := by rw [← hkey2]; exact SortedMap.get?_insert_self _ _ _
      mintConfig := by rw [← hm.mintConfigAddress]; exact SortedMap.get?_insert_self _ _ _
      supply := by rw [← hm.supplyStatsAddress]; exact SortedMap.get?_insert_self _ _ _
      config := by rw [authority, ← hr.configAddress]; exact SortedMap.get?_insert_self _ _ _
      configAuthority := rfl
      stats := by rw [authority, ← hr.statsAddress]; exact SortedMap.get?_insert_self _ _ _
      statsAuthority := rfl }
  · rw [IssuerRecords.model, model, IssuanceModel.new, hcap]

end Launch

/-- The model and the program agree on every history of one issuer: they accept
    the same steps, say the same after each, and a step that is rejected
    changes neither. The assertions of the model always hold. -/
theorem issuance_faithful {rt : Runtime} (launch : Launch)
    (hcanonical : rt.Canonical (canonicalSeeds launch.authority))
    (hlaunch : ∀ entry ∈ Run.log (step rt) World.empty launch.inputs, entry.2 = .ok ())
    (history : List (Env × Operation))
    (henabled : Run.Along (chainStep rt launch.authority launch.mint)
      (Enabled rt launch.authority launch.mint)
      (Run.after (step rt) World.empty launch.inputs) history) :
    let start := Run.after (step rt) World.empty launch.inputs
    let chain := chainStep rt launch.authority launch.mint
    let world := Run.after chain start history
    let model := Run.after modelStep launch.model history
    Run.log chain start history = Run.log modelStep launch.model history ∧
    (∃ r, Represents rt launch.authority launch.mint world model r) ∧
    model.assertInvariants ∧
    ∀ input, Enabled rt launch.authority launch.mint world input →
      (modelStep model input).1 = false →
      chain world input = (false, world) ∧ modelStep model input = (false, model) := by
  intro start chain world model
  -- The records stay in order, and the model is what they say.
  have hstep : ∀ world model input, (Placed rt world ∧ Linked rt world ∧ Counted world ∧
      ∃ r, Represents rt launch.authority launch.mint world model r) →
      Enabled rt launch.authority launch.mint world input →
      Agrees rt launch.authority launch.mint world model input := by
    rintro world model ⟨env, operation⟩ ⟨-, hl, hc, r, hrep⟩ he
    cases operation with
    | mint user key amount => exact mint_simulated hcanonical hl hrep he
    | burn key amount => exact burn_simulated hcanonical hl hc hrep he
  have hsim := Run.simulation_along chain modelStep
    (R := fun world model => Placed rt world ∧ Linked rt world ∧ Counted world ∧
      ∃ r, Represents rt launch.authority launch.mint world model r)
    ⟨run_placed rt launch.inputs, run_linked rt launch.inputs, run_counted rt launch.inputs,
      launch.represents hlaunch⟩ (fun world model input hR he => ?_) henabled
  -- What holds at the end of the history, and of one more step.
  · rcases hsim.2 with ⟨hp, hl, hc, r, hrep⟩
    refine ⟨hsim.1, ⟨r, hrep⟩, hrep.assertInvariants hl hc, fun input he hrejected => ?_⟩
    rcases hstep world model input ⟨hp, hl, hc, r, hrep⟩ he with hreject | ⟨_, _, _, -, -, hm, -⟩
    · exact hreject
    · rw [hm] at hrejected
      exact absurd hrejected (by simp only [Bool.true_eq_false, not_false_eq_true])
  -- One step of the simulation: nothing happens on either side, or both move on.
  · rcases hstep world model input hR he with ⟨hchain, hmodel⟩ |
      ⟨world', model', r', hok, hchain, hmodel, hrep'⟩
    · rw [hmodel]
      exact ⟨congrArg Prod.fst hchain, by rw [show chain world input = _ from hchain]; exact hR⟩
    · rcases hR with ⟨hp, hl, hc, -⟩
      rw [hmodel, show chain world input = _ from hchain]
      exact ⟨rfl, process_placed hok hp, process_linked hok hp hl, process_counted hok hc, r',
        hrep'⟩

/-- The launch of the sample issuer. -/
def sampleLaunch : Launch where
  initializeEnv := sampleEnv [sampleAdmin]
  initializeProtocol := { admin := sampleAdmin, protocolConfig := sampleProtocol }
  globalSupplyCap := 1000
  createMintEnv := sampleEnv [sampleAdmin, sampleMint]
  createMint :=
    { admin := sampleAdmin, protocolConfig := sampleProtocol, mintConfig := sampleMintConfig,
      supplyStats := sampleSupplyStats, mintAuthority := sampleMintAuthority, mint := sampleMint }
  decimals := 6
  registerEnv := sampleEnv [sampleAdmin]
  register :=
    { admin := sampleAdmin, protocolConfig := sampleProtocol, issuerConfig := sampleOldConfig,
      issuerStats := sampleOldStats, issuerAuthority := sampleOldAuthority }
  mintLimit := 1000

/-- 400 are minted, 150 of them burned, and another 800 are over the limit. -/
def sampleHistory : List (Env × Operation) :=
  [(sampleEnv [sampleOldAuthority, sampleAccount], .mint sampleUser sampleAccount 400),
    (sampleEnv [sampleOldAuthority], .burn sampleAccount 150),
    (sampleEnv [sampleOldAuthority, sampleSecondAccount],
      .mint sampleUser sampleSecondAccount 800)]

/-- On the sample history the model ends with 250 outstanding, 400 minted and
    150 burned, and the last mint over the limit has changed nothing. -/
theorem issuance_faithful_sample :
    ∃ r, Represents sampleRuntime sampleOldAuthority sampleMint
      (Run.after (chainStep sampleRuntime sampleOldAuthority sampleMint)
        (Run.after (step sampleRuntime) World.empty sampleLaunch.inputs) sampleHistory)
      ⟨1000, 1000, 250, 250, 400, 150⟩ r := by
  have h := @issuance_faithful sampleRuntime sampleLaunch (by decide +kernel)
    (by decide +kernel) sampleHistory
    ⟨⟨fun _ h => h, rfl, by decide +kernel⟩, ⟨fun _ h => h, rfl, by decide +kernel⟩,
      ⟨fun _ h => h, rfl, by decide +kernel⟩, trivial⟩
  have hmodel : Run.after modelStep sampleLaunch.model sampleHistory
      = ⟨1000, 1000, 250, 250, 400, 150⟩ := by decide +kernel
  rw [← hmodel]
  exact h.2.1

end Issuer

end Stablecoin

end SolanaLab
