import SolanaLab.Settlement.Anchor

/-!
# Signature Verification by a Preceding Instruction

The settlement program does not verify signatures itself. It looks at an
instruction that precedes its own in the transaction and checks that it asks
the Ed25519 precompile for one signature, of the expected key over the
expected message. The runtime runs the precompile on every such instruction
and rejects the transaction when a signature is wrong.

`precompileVerified` is the precompile's side: a count, and for each signature
an entry of seven two-byte fields that say where key, signature and message
are, in which instruction's data. `verifyEd25519Instruction` is the program's
side: it accepts only a single entry whose three parts are all in the
instruction's own data. `verified_of_instruction` puts the two together, and
`verifiedBefore_of_previous` is what a settlement relies on.

Both sides are written as functions on bytes, as the two programs have them.
They do not agree on what a well-formed instruction is: the precompile allows
any number of entries with parts in other instructions. It is enough that what
the program accepts, the precompile has verified.

## Main definitions

* `u16At`: A two-byte number within a sequence of bytes.
* `precompileVerified`: The precompile accepts the data of an instruction.
* `Env.precompilesVerified`: The runtime lets the transaction run.
* `verifyEd25519Instruction`: The check of one instruction.
* `verifyPreviousEd25519Instruction`: The check of an instruction at a place
  relative to the current one.
* `Env.VerifiedBefore`: The precompile has verified a signature before.

## Theorems

* `precompileVerified_single`: What a single entry in the own data verifies.
* `verified_of_instruction`: An instruction that passes the check, in a
  transaction that runs, carries a valid signature.
* `verifiedBefore_of_previous`: The check of an earlier instruction establishes
  that its signature was verified.
-/

namespace SolanaLab

namespace Settlement

open Checked

/-- `u16::MAX`, the index by which an entry refers to its own instruction. -/
def u16Max : Nat := 65535

/-- Two bytes read as a number, the lower one first. Nothing if the data ends
    before. -/
def u16At (data : List Byte) (offset : Nat) : Option Nat :=
  (slice data offset 2).map ofLeBytes

/-! ### The precompile -/

/-- A part of an entry, in the own data or in that of another instruction. The
    program later insists on the own data, so that this freedom is never used. -/
def precompileSlice (instructions : List RawInstruction) (data : List Byte)
    (index offset n : Nat) : Option (List Byte) :=
  if index = u16Max then slice data offset n
  else (instructions[index]?).bind (fun instruction => slice instruction.data offset n)

/-- The outcome of one entry, or nothing when the entry or a part of it is not
    there. Seven numbers say where key, signature and message are. -/
def entryVerified (rt : Runtime) (instructions : List RawInstruction) (data : List Byte)
    (start : Nat) : Option Bool := do
  let signatureOffset ← u16At data start
  let signatureIndex ← u16At data (start + 2)
  let pubkeyOffset ← u16At data (start + 4)
  let pubkeyIndex ← u16At data (start + 6)
  let messageOffset ← u16At data (start + 8)
  let messageSize ← u16At data (start + 10)
  let messageIndex ← u16At data (start + 12)
  let signature ← precompileSlice instructions data signatureIndex signatureOffset 64
  let pubkey ← precompileSlice instructions data pubkeyIndex pubkeyOffset 32
  let message ← precompileSlice instructions data messageIndex messageOffset messageSize
  return rt.ed25519Verify pubkey signature message

/-- The precompile accepts an instruction: all entries it announces are there
    and verify. The first byte is the count and the second is ignored. -/
def precompileVerified (rt : Runtime) (instructions : List RawInstruction)
    (data : List Byte) : Bool :=
  match data.head? with
  | none => false
  | some count =>
    decide (2 ≤ data.length) &&
    decide (count.val = 0 → data.length = 2) &&
    decide (2 + 14 * count.val ≤ data.length) &&
    (List.range count.val).all
      (fun i => entryVerified rt instructions data (2 + 14 * i) == some true)

/-- The runtime lets a transaction run only if the precompile accepts all
    instructions sent to it. -/
def Env.precompilesVerified (rt : Runtime) (env : Env) : Bool :=
  env.instructions.all (fun instruction => instruction.programId != rt.ed25519Program ||
    precompileVerified rt env.instructions instruction.data)

/-! ### The program's check -/

/-- `get_instruction_relative`: the instruction so many places away from the
    current one. The account must be the sysvar, and a place outside is an
    error. -/
def getInstructionRelative (rt : Runtime) (env : Env) (relativeIndex : Int) (sysvar : Pubkey) :
    Except ProgramError RawInstruction := do
  require (sysvar = rt.instructionsSysvar) .unsupportedSysvar
  let index := (env.currentIndex : Int) + relativeIndex
  require (0 ≤ index) .invalidArgument
  okOr (env.instructions[index.toNat]?) .invalidArgument

/-- `read_u16`, which fails where the data is too short. -/
def readU16 (data : List Byte) (offset : Nat) : Except ProgramError Nat :=
  okOr (u16At data offset) (.code .invalidEd25519Instruction)

/-- `require_slice_eq`: the bytes at an offset are the expected ones. -/
def requireSliceEq (data : List Byte) (offset : Nat) (expected : List Byte) :
    Except ProgramError Unit := do
  let actual ← okOr (slice data offset expected.length) (.code .invalidEd25519Instruction)
  requireCode (actual = expected) .invalidEd25519Instruction

/-- `verify_ed25519_instruction`. It reads the header of the one entry and
    compares the three parts. Whether the signature is right it leaves to the
    precompile. -/
def verifyEd25519Instruction (rt : Runtime) (instruction : RawInstruction)
    (expectedPubkey expectedSignature expectedMessage : List Byte) :
    Except ProgramError Unit := do
  requireCode (instruction.programId = rt.ed25519Program) .invalidEd25519Instruction
  requireCode (instruction.accounts.isEmpty) .invalidEd25519Instruction
  requireCode (16 ≤ instruction.data.length ∧ instruction.data.head? = some 1)
    .invalidEd25519Instruction
  let signatureOffset ← readU16 instruction.data 2
  let signatureInstructionIndex ← readU16 instruction.data 4
  let pubkeyOffset ← readU16 instruction.data 6
  let pubkeyInstructionIndex ← readU16 instruction.data 8
  let messageOffset ← readU16 instruction.data 10
  let messageSize ← readU16 instruction.data 12
  let messageInstructionIndex ← readU16 instruction.data 14
  -- An index other than this points into another instruction.
  requireCode (signatureInstructionIndex = u16Max ∧ pubkeyInstructionIndex = u16Max ∧
    messageInstructionIndex = u16Max) .invalidEd25519Instruction
  requireSliceEq instruction.data signatureOffset expectedSignature
  requireSliceEq instruction.data pubkeyOffset expectedPubkey
  requireSliceEq instruction.data messageOffset expectedMessage
  requireCode (messageSize = expectedMessage.length) .invalidEd25519Instruction

/-- `verify_previous_ed25519_instruction`: the check of the instruction so many
    places before the current one. -/
def verifyPreviousEd25519Instruction (rt : Runtime) (env : Env) (sysvar : Pubkey)
    (relativeIndex : Int) (expectedPubkey : Pubkey) (expectedSignature : Signature)
    (expectedMessage : List Byte) : Except ProgramError Unit := do
  let instruction ← getInstructionRelative rt env relativeIndex sysvar
  verifyEd25519Instruction rt instruction expectedPubkey.bytes expectedSignature.bytes
    expectedMessage

/-! ### What the check establishes -/

/-- The check passes exactly when the bytes are there and equal. -/
theorem requireSliceEq_eq_ok {data expected : List Byte} {offset : Nat} {u : Unit} :
    requireSliceEq data offset expected = .ok u ↔
      slice data offset expected.length = some expected := by
  simp only [requireSliceEq, bind_eq_ok, okOr_eq_ok, requireCode_eq_ok]
  constructor
  · intro h
    rcases h with ⟨actual, hslice, rfl⟩
    exact hslice
  · intro h
    exact ⟨expected, h, rfl⟩

/-- A single entry with all parts in the own data verifies the signature it
    points at. This is the one shape the program accepts. -/
theorem precompileVerified_single {rt : Runtime} {instructions : List RawInstruction}
    {data key signature message : List Byte} {keyOffset signatureOffset messageOffset : Nat}
    (h : precompileVerified rt instructions data = true) (hcount : data.head? = some 1)
    (hsignatureOffset : u16At data 2 = some signatureOffset)
    (hsignatureIndex : u16At data 4 = some u16Max)
    (hkeyOffset : u16At data 6 = some keyOffset)
    (hkeyIndex : u16At data 8 = some u16Max)
    (hmessageOffset : u16At data 10 = some messageOffset)
    (hmessageSize : u16At data 12 = some message.length)
    (hmessageIndex : u16At data 14 = some u16Max)
    (hsignature : slice data signatureOffset 64 = some signature)
    (hkey : slice data keyOffset 32 = some key)
    (hmessage : slice data messageOffset message.length = some message) :
    rt.ed25519Verify key signature message = true := by
  simp only [precompileVerified, hcount, Bool.and_eq_true, List.all_eq_true, List.mem_range,
    beq_iff_eq] at h
  have hentry := h.2 0 (by decide)
  simp only [entryVerified, Nat.mul_zero, Nat.add_zero, Nat.reduceAdd, hsignatureOffset,
    hsignatureIndex, hkeyOffset, hkeyIndex, hmessageOffset, hmessageSize, hmessageIndex,
    precompileSlice, if_true, hsignature, hkey, hmessage, Option.bind_eq_bind, Option.bind_some,
    Option.pure_def, Option.some.injEq] at hentry
  exact hentry

/-- The precompile has accepted every instruction sent to it, in a transaction
    the runtime lets run. -/
theorem accepted_of_run {rt : Runtime} {env : Env} {instruction : RawInstruction}
    (hrun : env.precompilesVerified rt = true) (hmem : instruction ∈ env.instructions)
    (hprogram : instruction.programId = rt.ed25519Program) :
    precompileVerified rt env.instructions instruction.data = true := by
  have hall := List.all_eq_true.mp hrun instruction hmem
  rw [Bool.or_eq_true, bne_iff_ne] at hall
  rcases hall with hne | haccepted
  · exact absurd hprogram hne
  · exact haccepted

/-- An instruction that passes the check, in a transaction the runtime lets run,
    carries a valid signature of the key over the message. Neither check is
    enough alone: the program's compares bytes, the precompile's says they
    verify. -/
theorem verified_of_instruction {rt : Runtime} {env : Env} {instruction : RawInstruction}
    {key signature message : List Byte} (hkey : key.length = 32)
    (hsignature : signature.length = 64)
    (hrun : env.precompilesVerified rt = true) (hmem : instruction ∈ env.instructions)
    {u : Unit} (h : verifyEd25519Instruction rt instruction key signature message = .ok u) :
    precompileVerified rt env.instructions instruction.data = true ∧
      rt.ed25519Verify key signature message = true := by
  simp only [verifyEd25519Instruction, bind_eq_ok, requireCode_eq_ok, readU16, okOr_eq_ok,
    requireSliceEq_eq_ok] at h
  rcases h with ⟨_, hprogram, _, -, _, hhead, signatureOffset, h2, signatureIndex, h4, keyOffset,
    h6, keyIndex, h8, messageOffset, h10, messageSize, h12, messageIndex, h14, _, hindexes, _,
    hsig, _, hpub, _, hmsg, hsize⟩
  rcases hindexes with ⟨rfl, rfl, rfl⟩
  have haccepted := accepted_of_run hrun hmem hprogram
  rw [hsize] at h12
  rw [hsignature] at hsig
  rw [hkey] at hpub
  exact ⟨haccepted,
    precompileVerified_single haccepted hhead.2 h2 h4 h6 h8 h10 h12 h14 hsig hpub hmsg⟩

/-- An instruction before the current one carries a signature of a key over a
    message, and the precompile has verified it. -/
def Env.VerifiedBefore (rt : Runtime) (env : Env) (key : Pubkey) (message : List Byte) : Prop :=
  ∃ instruction ∈ env.instructions.take env.currentIndex, ∃ signature : Signature,
    verifyEd25519Instruction rt instruction key.bytes signature.bytes message = .ok () ∧
    precompileVerified rt env.instructions instruction.data = true ∧
    rt.ed25519Verify key.bytes signature.bytes message = true

/-- A signature checked at a place before the current instruction was verified,
    in a transaction the runtime lets run. -/
theorem verifiedBefore_of_previous {rt : Runtime} {env : Env} {sysvar key : Pubkey} {relative : Int}
    {signature : Signature} {message : List Byte} (hrun : env.precompilesVerified rt = true)
    (hbefore : relative < 0)
    (h : verifyPreviousEd25519Instruction rt env sysvar relative key signature message = .ok ()) :
    env.VerifiedBefore rt key message := by
  simp only [verifyPreviousEd25519Instruction, getInstructionRelative, bind_eq_ok, require_eq_ok,
    okOr_eq_ok] at h
  rcases h with ⟨instruction, ⟨_, -, _, hindex, hget⟩, hverify⟩
  have hlt : ((env.currentIndex : Int) + relative).toNat < env.currentIndex := by omega
  have hmem : instruction ∈ env.instructions.take env.currentIndex := by
    rw [← List.getElem?_take_of_lt hlt] at hget
    exact List.mem_of_getElem? hget
  exact ⟨instruction, hmem, signature, hverify, verified_of_instruction (length_pubkeyBytes key)
    (length_leBytes 64 _) hrun (List.mem_of_mem_take hmem) hverify⟩

end Settlement

end SolanaLab
