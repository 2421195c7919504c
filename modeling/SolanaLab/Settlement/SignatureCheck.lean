import SolanaLab.Library.Panics
import SolanaLab.Settlement.SignedOrders

/-!
# What the Signature Check Accepts

The program's check of a signature instruction against what the precompile
verifies, on all data.

The instruction is written by whoever sends the transaction. Its seven fields
point anywhere, so the program reads bytes at places it does not choose, and
the ranges it reads can lie on each other, on the header or outside the data.
`Panicking` has the program's functions with every place where the code could
panic: additions of offsets, an index, an array of fixed length. They return
what the functions of `Ed25519` return, so none of them is reached.

`entryParts` is what the precompile reads: the key, the signature and the
message of an entry. For an instruction with a single entry that refers to its
own data, and which the precompile accepts, the check succeeds exactly when
these are the expected ones.

## Main definitions

* `Panicking.verifyEd25519Instruction`: The check, with its panics.
* `entryParts`: What the precompile verifies for an entry.
* `SingleOwnEntry`: A single entry that refers to its own data.
* `Env.VerifiedAt`: The precompile has verified a signature at a place.

## Theorems

* `Panicking.verifyEd25519Instruction_eq`: The check does not panic.
* `verifyEd25519Instruction_iff_parts`: It succeeds exactly on what the
  precompile verified.
* `verifiedAt_of_previous`: What the check of an earlier instruction shows.
* `verifyEd25519Instruction_exact`: All of this, for the code with its panics
  and for settlements.
-/

namespace SolanaLab

namespace Settlement

open Checked

/-! ### The check with its panics -/

namespace Panicking

/-- `read_u16`, with the addition of the offset and the conversion to an array
    of two bytes as the places where it could panic. -/
def readU16 (data : List Byte) (offset : Nat) : Panics ProgramError Nat := do
  let stop ← addUsize offset 2
  let bytes ← returns (okOr (getRange data offset stop) (.code .invalidEd25519Instruction))
  let array ← unwrap (toArray 2 bytes)
  returns (.ok (ofLeBytes array))

/-- `require_slice_eq`. The end of the range is an addition, while a range
    outside the data is an error and no panic. -/
def requireSliceEq (data : List Byte) (offset : Nat) (expected : List Byte) :
    Panics ProgramError Unit := do
  let stop ← addUsize offset expected.length
  let actual ← returns (okOr (getRange data offset stop) (.code .invalidEd25519Instruction))
  returns (requireCode (actual = expected) .invalidEd25519Instruction)

/-- `data.len() >= 16 && data[0] == 1`: the index comes after the length. -/
def announcesOne (data : List Byte) : Panics ProgramError Bool :=
  if 16 ≤ data.length then do
    let count ← indexed data 0
    returns (.ok (decide (count = 1)))
  else returns (.ok false)

/-- `verify_ed25519_instruction` with the panics of the functions it calls. -/
def verifyEd25519Instruction (rt : Runtime) (instruction : RawInstruction)
    (expectedPubkey expectedSignature expectedMessage : List Byte) :
    Panics ProgramError Unit := do
  returns (requireCode (instruction.programId = rt.ed25519Program) .invalidEd25519Instruction)
  returns (requireCode (instruction.accounts.isEmpty) .invalidEd25519Instruction)
  let one ← announcesOne instruction.data
  returns (requireCode (one = true) .invalidEd25519Instruction)
  let signatureOffset ← readU16 instruction.data 2
  let signatureInstructionIndex ← readU16 instruction.data 4
  let pubkeyOffset ← readU16 instruction.data 6
  let pubkeyInstructionIndex ← readU16 instruction.data 8
  let messageOffset ← readU16 instruction.data 10
  let messageSize ← readU16 instruction.data 12
  let messageInstructionIndex ← readU16 instruction.data 14
  returns (requireCode (signatureInstructionIndex = u16Max ∧ pubkeyInstructionIndex = u16Max ∧
    messageInstructionIndex = u16Max) .invalidEd25519Instruction)
  requireSliceEq instruction.data signatureOffset expectedSignature
  requireSliceEq instruction.data pubkeyOffset expectedPubkey
  requireSliceEq instruction.data messageOffset expectedMessage
  returns (requireCode (messageSize = expectedMessage.length) .invalidEd25519Instruction)

/-- Two bytes are read without a panic: as many as the array has, if any. -/
theorem readU16_eq {offset : Nat} (data : List Byte) (h : offset + 2 < 2 ^ 64) :
    readU16 data offset = returns (Settlement.readU16 data offset) := by
  rw [readU16, addUsize_eq h, returns_ok_bind, getRange_add, Settlement.readU16, u16At]
  rcases hslice : slice data offset 2 with _ | bytes
  · rfl
  · rw [okOr_some, returns_ok_bind, toArray, if_pos (length_of_slice hslice), unwrap_some]
    rfl

/-- The end of a range is a number, wherever an entry says that it starts. -/
theorem requireSliceEq_eq {data expected : List Byte} {offset : Nat} (hoffset : offset < 2 ^ 16)
    (hlength : expected.length < 2 ^ 63) :
    requireSliceEq data offset expected
      = returns (Settlement.requireSliceEq data offset expected) := by
  rw [requireSliceEq, addUsize_eq (by omega), returns_ok_bind, getRange_add]
  exact returns_bind (fun _ _ => rfl)

/-- The first byte is looked at only where there is one. -/
theorem announcesOne_eq (data : List Byte) :
    announcesOne data = returns (.ok (decide (16 ≤ data.length ∧ data.head? = some 1))) := by
  rw [announcesOne]
  by_cases h : 16 ≤ data.length
  · rw [if_pos h]
    cases data with
    | nil => exact absurd h (by decide)
    | cons count rest =>
        change returns (.ok (decide (count = 1))) = _
        simp only [h, List.head?_cons, Option.some.injEq, true_and]
  · rw [if_neg h]
    simp only [h, false_and, decide_false]

/-- An offset that was read is a two-byte number. -/
theorem lt_of_readU16 {data : List Byte} {offset n : Nat}
    (h : Settlement.readU16 data offset = .ok n) : n < 2 ^ 16 := by
  rw [Settlement.readU16, okOr_eq_ok, u16At, Option.map_eq_some_iff] at h
  rcases h with ⟨bytes, hslice, rfl⟩
  have hlt := ofLeBytes_lt bytes
  rw [length_of_slice hslice] at hlt
  exact hlt

/-- The check does not panic, and returns what the check without panics
    returns. -/
theorem verifyEd25519Instruction_eq (rt : Runtime) (instruction : RawInstruction)
    (key signature message : List Byte) (hkey : key.length < 2 ^ 63)
    (hsignature : signature.length < 2 ^ 63) (hmessage : message.length < 2 ^ 63) :
    verifyEd25519Instruction rt instruction key signature message
      = returns (Settlement.verifyEd25519Instruction rt instruction key signature message) := by
  rw [verifyEd25519Instruction, announcesOne_eq, readU16_eq _ (by decide), readU16_eq _ (by decide),
    readU16_eq _ (by decide), readU16_eq _ (by decide), readU16_eq _ (by decide),
    readU16_eq _ (by decide), readU16_eq _ (by decide)]
  refine returns_bind (fun _ _ => returns_bind (fun _ _ => ?_))
  rw [returns_ok_bind]
  simp only [decide_eq_true_eq]
  -- The seven fields are read in the same order, and three of them are offsets.
  refine returns_bind (fun _ _ => returns_bind (fun signatureOffset hs => returns_bind (fun _ _ =>
    returns_bind (fun keyOffset hk => returns_bind (fun _ _ => returns_bind (fun messageOffset hm =>
    returns_bind (fun _ _ => returns_bind (fun _ _ => returns_bind (fun _ _ => ?_)))))))))
  rw [requireSliceEq_eq (lt_of_readU16 hs) hsignature, requireSliceEq_eq (lt_of_readU16 hk) hkey,
    requireSliceEq_eq (lt_of_readU16 hm) hmessage]
  exact returns_bind (fun _ _ => returns_bind (fun _ _ => returns_bind (fun _ _ => rfl)))

end Panicking

/-! ### What the precompile verifies -/

/-- What the precompile verifies for an entry: its key, signature and message. -/
def entryParts (instructions : List RawInstruction) (data : List Byte) (start : Nat) :
    Option (List Byte × List Byte × List Byte) := do
  let signatureOffset ← u16At data start
  let signatureIndex ← u16At data (start + 2)
  let pubkeyOffset ← u16At data (start + 4)
  let pubkeyIndex ← u16At data (start + 6)
  let messageOffset ← u16At data (start + 8)
  let messageSize ← u16At data (start + 10)
  let messageIndex ← u16At data (start + 12)
  let signature ← precompileSlice instructions data signatureIndex signatureOffset 64
  let pubkey ← precompileSlice instructions data pubkeyIndex pubkeyOffset 32
  let message ← precompileSlice instructions data messageIndex messageOffset messageSize
  return (pubkey, signature, message)

/-- The outcome of an entry is that of verifying its parts. -/
theorem entryVerified_eq (rt : Runtime) (instructions : List RawInstruction) (data : List Byte)
    (start : Nat) :
    entryVerified rt instructions data start
      = (entryParts instructions data start).map
        (fun parts => rt.ed25519Verify parts.1 parts.2.1 parts.2.2) := by
  simp only [entryVerified, entryParts, Option.bind_eq_bind, Option.map_bind, Option.pure_def,
    Function.comp_def, Option.map_some]

/-- An instruction with a single entry, all of whose parts are in its own
    data. -/
structure SingleOwnEntry (data : List Byte) : Prop where
  count : data.head? = some 1
  signatureIndex : u16At data 4 = some u16Max
  pubkeyIndex : u16At data 8 = some u16Max
  messageIndex : u16At data 14 = some u16Max

/-- The parts of a single entry are where its offsets say. -/
theorem SingleOwnEntry.parts_eq_some {data : List Byte} (h : SingleOwnEntry data)
    {instructions : List RawInstruction} {key signature message : List Byte} :
    entryParts instructions data 2 = some (key, signature, message) ↔
      ∃ signatureOffset keyOffset messageOffset, u16At data 2 = some signatureOffset ∧
        u16At data 6 = some keyOffset ∧ u16At data 10 = some messageOffset ∧
        u16At data 12 = some message.length ∧ slice data signatureOffset 64 = some signature ∧
        slice data keyOffset 32 = some key ∧
        slice data messageOffset message.length = some message := by
  -- All three indices name this instruction, so its data is read.
  simp only [entryParts, Nat.reduceAdd, h.signatureIndex, h.pubkeyIndex, h.messageIndex,
    Option.bind_eq_bind, Option.bind_some, precompileSlice, if_true, Option.bind_eq_some_iff,
    Option.pure_def, Option.some.injEq, Prod.mk.injEq]
  constructor
  · intro h
    rcases h with ⟨signatureOffset, h2, keyOffset, h6, messageOffset, h10, messageSize, h12, _,
      hsignature, _, hkey, _, hmessage, rfl, rfl, rfl⟩
    rw [length_of_slice hmessage]
    exact ⟨signatureOffset, keyOffset, messageOffset, h2, h6, h10, h12, hsignature, hkey, hmessage⟩
  · intro h
    rcases h with ⟨signatureOffset, keyOffset, messageOffset, h2, h6, h10, h12, hsignature, hkey,
      hmessage⟩
    exact ⟨signatureOffset, h2, keyOffset, h6, messageOffset, h10, message.length, h12, _,
      hsignature, _, hkey, _, hmessage, rfl, rfl, rfl⟩

/-- What the check establishes: an instruction of the precompile without
    accounts, with a single entry whose parts are the expected ones. -/
theorem verifyEd25519Instruction_eq_ok {rt : Runtime} {instruction : RawInstruction}
    {key signature message : List Byte} (instructions : List RawInstruction)
    (hkey : key.length = 32) (hsignature : signature.length = 64) {u : Unit} :
    verifyEd25519Instruction rt instruction key signature message = .ok u ↔
      instruction.programId = rt.ed25519Program ∧ instruction.accounts = [] ∧
      16 ≤ instruction.data.length ∧ SingleOwnEntry instruction.data ∧
      entryParts instructions instruction.data 2 = some (key, signature, message) := by
  simp only [verifyEd25519Instruction, bind_eq_ok, requireCode_eq_ok, readU16, okOr_eq_ok,
    requireSliceEq_eq_ok, List.isEmpty_iff, hkey, hsignature]
  constructor
  · intro h
    rcases h with ⟨_, hprogram, _, haccounts, _, ⟨hlength, hcount⟩, signatureOffset, h2, _, h4,
      keyOffset, h6, _, h8, messageOffset, h10, _, h12, _, h14, _, ⟨rfl, rfl, rfl⟩, _, hsig, _,
      hpub, _, hmsg, rfl⟩
    -- The checks on count and indices are those of a single own entry.
    have hown : SingleOwnEntry instruction.data := ⟨hcount, h4, h8, h14⟩
    exact ⟨hprogram, haccounts, hlength, hown, hown.parts_eq_some.mpr ⟨signatureOffset, keyOffset,
      messageOffset, h2, h6, h10, h12, hsig, hpub, hmsg⟩⟩
  · intro h
    rcases h with ⟨hprogram, haccounts, hlength, hown, hparts⟩
    rcases hown.parts_eq_some.mp hparts with ⟨signatureOffset, keyOffset, messageOffset, h2, h6,
      h10, h12, hsig, hpub, hmsg⟩
    exact ⟨(), hprogram, (), haccounts, (), ⟨hlength, hown.count⟩, signatureOffset, h2, _,
      hown.signatureIndex, keyOffset, h6, _, hown.pubkeyIndex, messageOffset, h10, _, h12, _,
      hown.messageIndex, (), ⟨rfl, rfl, rfl⟩, (), hsig, (), hpub, (), hmsg, rfl⟩

/-- The entry that an accepted instruction announces is there, and its parts
    verify. -/
theorem SingleOwnEntry.verified {rt : Runtime} {instructions : List RawInstruction}
    {data key signature message : List Byte} (h : SingleOwnEntry data)
    (haccepted : precompileVerified rt instructions data = true)
    (hparts : entryParts instructions data 2 = some (key, signature, message)) :
    rt.ed25519Verify key signature message = true := by
  simp only [precompileVerified, h.count, Bool.and_eq_true, List.all_eq_true, List.mem_range,
    beq_iff_eq] at haccepted
  have hentry := haccepted.2 0 (by decide)
  rw [entryVerified_eq, Nat.mul_zero, Nat.add_zero, hparts, Option.map_some, Option.some.injEq]
    at hentry
  exact hentry

/-- The data of an accepted instruction with an entry has room for it. -/
theorem length_of_accepted {rt : Runtime} {instructions : List RawInstruction} {data : List Byte}
    (h : SingleOwnEntry data) (haccepted : precompileVerified rt instructions data = true) :
    16 ≤ data.length := by
  simp only [precompileVerified, h.count, Bool.and_eq_true, decide_eq_true_eq] at haccepted
  exact haccepted.1.2

/-- On an instruction that the precompile accepts, with a single entry of its
    own, the check succeeds exactly when the precompile verified the expected
    parts. -/
theorem verifyEd25519Instruction_iff_parts {rt : Runtime} {instructions : List RawInstruction}
    {instruction : RawInstruction} {key signature message : List Byte} (hkey : key.length = 32)
    (hsignature : signature.length = 64) (hprogram : instruction.programId = rt.ed25519Program)
    (haccounts : instruction.accounts = []) (hown : SingleOwnEntry instruction.data)
    (haccepted : precompileVerified rt instructions instruction.data = true) :
    verifyEd25519Instruction rt instruction key signature message = .ok () ↔
      entryParts instructions instruction.data 2 = some (key, signature, message) := by
  rw [verifyEd25519Instruction_eq_ok instructions hkey hsignature]
  constructor
  · intro h
    exact h.2.2.2.2
  · intro h
    exact ⟨hprogram, haccounts, length_of_accepted hown haccepted, hown, h⟩

/-! ### What a settlement relies on -/

/-- The instruction at a place relative to the current one is a signature
    instruction with a single entry, and what the precompile verified for it is
    this signature. It speaks of bytes verified, not of bytes compared. -/
def Env.VerifiedAt (rt : Runtime) (env : Env) (relativeIndex : Int) (key : Pubkey)
    (signature : Signature) (message : List Byte) : Prop :=
  ∃ instruction, getInstructionRelative rt env relativeIndex rt.instructionsSysvar
      = .ok instruction ∧
    instruction.programId = rt.ed25519Program ∧ SingleOwnEntry instruction.data ∧
    entryParts env.instructions instruction.data 2
      = some (key.bytes, signature.bytes, message) ∧
    rt.ed25519Verify key.bytes signature.bytes message = true

/-- The check of the instruction at a place shows what was verified there, in a
    transaction the runtime lets run. -/
theorem verifiedAt_of_previous {rt : Runtime} {env : Env} {sysvar key : Pubkey}
    {relativeIndex : Int} {signature : Signature} {message : List Byte}
    (hrun : env.precompilesVerified rt = true)
    (h : verifyPreviousEd25519Instruction rt env sysvar relativeIndex key signature message
      = .ok ()) :
    env.VerifiedAt rt relativeIndex key signature message := by
  rcases bind_eq_ok.mp h with ⟨instruction, hget, hverify⟩
  rcases (verifyEd25519Instruction_eq_ok env.instructions (length_pubkeyBytes key)
    (length_leBytes 64 _)).mp hverify with ⟨hprogram, -, -, hown, hparts⟩
  simp only [getInstructionRelative, bind_eq_ok, require_eq_ok, okOr_eq_ok] at hget
  rcases hget with ⟨_, hsysvar, _, hindex, hat⟩
  refine ⟨instruction, ?_, hprogram, hown, hparts, hown.verified (accepted_of_run hrun
    (List.mem_of_getElem? hat) hprogram) hparts⟩
  simp only [getInstructionRelative, bind_eq_ok, require_eq_ok, okOr_eq_ok]
  exact ⟨(), trivial, (), hindex, hat⟩

/-- A settlement has checked the two instructions right before it. -/
theorem settleSignedFillHandler_checks {rt : Runtime} {env : Env} {world world' : World}
    {ctx : SettleSignedFill} {settlementId : Word 64} {buyerOrderHash sellerOrderHash : Hash}
    {args : SignedFillArgs}
    (h : settleSignedFillHandler rt env world ctx settlementId buyerOrderHash sellerOrderHash args
      = .ok world') :
    verifyPreviousEd25519Instruction rt env ctx.instructionsSysvar (-2) ctx.buyer
        args.buyerSignature args.buyerOrder.signingPreimage = .ok () ∧
      verifyPreviousEd25519Instruction rt env ctx.instructionsSysvar (-1) ctx.seller
        args.sellerSignature args.sellerOrder.signingPreimage = .ok () := by
  simp only [settleSignedFillHandler, bind_eq_ok] at h
  rcases h with ⟨_, -, _, -, _, -, _, -, _, -, _, -, _, -, _, -, _, -, _, -, _, -, _, -, _, -, ⟨⟩,
    hbuyer, ⟨⟩, hseller, -⟩
  exact ⟨hbuyer, hseller⟩

/-- On every instruction the check returns, without a panic. On one that the
    precompile accepts, without accounts and with a single entry of its own, it
    succeeds exactly when the parts that the precompile verified are the
    expected ones. So a settlement has the signatures of both traders over
    their orders verified, by the two instructions before it. -/
theorem verifyEd25519Instruction_exact (rt : Runtime) :
    (∀ (instruction : RawInstruction) (key signature message : List Byte), key.length = 32 →
      signature.length = 64 → message.length < 2 ^ 16 →
      (∃ result, Panicking.verifyEd25519Instruction rt instruction key signature message
        = returns result) ∧
      ∀ instructions, instruction.programId = rt.ed25519Program → instruction.accounts = [] →
        SingleOwnEntry instruction.data →
        precompileVerified rt instructions instruction.data = true →
        (Panicking.verifyEd25519Instruction rt instruction key signature message
            = returns (.ok ()) ↔
          entryParts instructions instruction.data 2 = some (key, signature, message))) ∧
    ∀ env world ctx settlementId buyerOrderHash sellerOrderHash args,
      (step rt world (.invoke env (.settleSignedFill ctx settlementId buyerOrderHash
        sellerOrderHash args))).1 = .ok () →
      env.VerifiedAt rt (-2) ctx.buyer args.buyerSignature args.buyerOrder.signingPreimage ∧
      env.VerifiedAt rt (-1) ctx.seller args.sellerSignature args.sellerOrder.signingPreimage := by
  -- With lengths like these no offset overflows, so the check that may panic is the one
  -- that does not.
  refine ⟨fun instruction key signature message hkey hsignature hmessage => ?_, ?_⟩
  · have hreturns := Panicking.verifyEd25519Instruction_eq rt instruction key signature message
      (by rw [hkey]; decide) (by rw [hsignature]; decide) (hmessage.trans (by decide))
    refine ⟨⟨_, hreturns⟩, fun instructions hprogram haccounts hown haccepted => ?_⟩
    rw [hreturns, ← verifyEd25519Instruction_iff_parts hkey hsignature hprogram haccounts hown
      haccepted]
    exact returns_inj
  · intro env world ctx settlementId buyerOrderHash sellerOrderHash args h
    rcases step_cases rt world (.invoke env (.settleSignedFill ctx settlementId buyerOrderHash
      sellerOrderHash args)) with ⟨e, hfail⟩ | ⟨ledger, hledger, -⟩ |
      ⟨env', instruction, world', hinput, hrun, hprocess, -⟩
    · rw [hfail] at h
      exact absurd h (by simp only [reduceCtorEq, not_false_eq_true])
    · exact absurd hledger (by simp only [reduceCtorEq, not_false_eq_true])
    · -- The runtime has had the precompile accept all signature instructions.
      rw [Input.invoke.injEq] at hinput
      rcases hinput with ⟨rfl, rfl⟩
      rcases settleSignedFillHandler_checks hprocess with ⟨hbuyer, hseller⟩
      exact ⟨verifiedAt_of_previous hrun hbuyer, verifiedAt_of_previous hrun hseller⟩

/-- The instruction with the buyer's signature passes the check. -/
theorem verifyEd25519Instruction_exact_bid :
    Panicking.verifyEd25519Instruction sampleSignedRuntime
      (sampleVerification sampleBid sampleBidSignature) sampleBuyer.bytes sampleBidSignature.bytes
      sampleBid.signingPreimage = returns (.ok ()) :=
  (((verifyEd25519Instruction_exact sampleSignedRuntime).1
    (sampleVerification sampleBid sampleBidSignature) sampleBuyer.bytes sampleBidSignature.bytes
    sampleBid.signingPreimage (length_pubkeyBytes sampleBuyer) (length_leBytes 64 _)
    (by rw [length_signingPreimage]; decide)).2
    [sampleVerification sampleBid sampleBidSignature] rfl rfl
    ⟨by decide +kernel, by decide +kernel, by decide +kernel, by decide +kernel⟩
    (by decide +kernel)).mpr (by decide +kernel)

end Settlement

end SolanaLab
