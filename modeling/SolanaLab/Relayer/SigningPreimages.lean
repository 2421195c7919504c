import SolanaLab.Exchange.SignedFill
import SolanaLab.Settlement.SignatureCheck

/-!
# What Signed Bytes Stand For

A trader's order is signed in two forms, the payload of the settlement program
and the intent of the exchange. The bytes of both start with the same tag, and
nothing in them says which form they are of. What keeps the forms apart is
their length: a payload spells the trader and the market as keys, an intent as
numbers.

`layout_eq_iff` is the argument for one form. Each is a layout of fields of
fixed width, so its bytes determine every field, and the fields are those of
the order. The program writes the trader before the market and the structure
has them the other way round, which makes no difference to this.

No hash function has a different hash for each message. What is said about
hashes and signatures is therefore about the messages of a set: when no two of
them have one hash, two orders among them that have one hash are the same
order of the same form.

## Main definitions

* `intentFields`: The fields of an intent, as they are signed.
* `SignedTerms`: An order in one of the two forms.
* `CollisionFreeOn`: No two of some messages have one hash.
* `BindsOn`: No signature is valid for two of some messages.

## Theorems

* `intentPreimage_injective`: The signed bytes determine the intent.
* `preimage_ne`: No payload is signed by the bytes of an intent.
* `SignedTerms.signingPreimage_inj`: The signed bytes determine the form and
  the order.
* `vouches_unique`: A signature instruction vouches for one order.
* `signingPreimages_unambiguous`: All of this, with what follows for hashes and
  signatures.
-/

namespace SolanaLab

namespace Relayer

open Checked Exchange Settlement

/-! ### Two layouts -/

/-- The two sides have different tags. -/
theorem sideTag_injective : Function.Injective sideTag := by
  intro s s' h
  cases s <;> cases s' <;> first | rfl | exact absurd h (by decide)

/-- The fields that an intent is signed with, in their order. -/
def intentFields : List (OrderIntent → List Byte) :=
  [fun _ => OrderIntent.domainTag,
    fun intent => leBytes 16 intent.orderId.get.val,
    fun intent => leBytes 8 intent.traderId.get.val,
    fun intent => leBytes 4 intent.marketId.get.val,
    fun intent => [sideTag intent.side],
    fun intent => leBytes 8 intent.price.get.val,
    fun intent => leBytes 8 intent.quantity.get.val,
    fun intent => leBytes 8 intent.nonce.get.val,
    fun intent => leBytes 8 intent.expirySlot.get.val]

/-- Every field of an intent takes the same number of bytes in all intents. -/
theorem intentFields_fixed : ∀ field ∈ intentFields, FixedWidth field := by
  simp only [intentFields, List.forall_mem_cons, fixedWidth_leBytes, true_and]
  exact ⟨fun _ _ => rfl, fun _ _ => rfl, fun field hmem => absurd hmem List.not_mem_nil⟩

/-- What is signed is the layout of the fields, the tag first. -/
theorem intentPreimage_eq (intent : OrderIntent) :
    intent.signingPreimage = layout intentFields intent := by
  simp only [OrderIntent.signingPreimage, layout, intentFields, List.flatMap_cons,
    List.flatMap_nil, List.append_nil, List.append_assoc]

/-- All signed intents are equally long. -/
theorem length_intentPreimage (intent : OrderIntent) : intent.signingPreimage.length = 94 := by
  simp only [OrderIntent.signingPreimage, List.length_append, length_leBytes]
  rfl

/-- The signed bytes determine the intent. -/
theorem intentPreimage_injective : Function.Injective OrderIntent.signingPreimage := by
  intro intent intent' h
  -- Fields of fixed width: equal bytes are equal field by field.
  rw [intentPreimage_eq, intentPreimage_eq, layout_eq_iff intentFields_fixed] at h
  simp only [intentFields, List.forall_mem_cons] at h
  rcases h with ⟨-, horder, htrader, hmarket, hside, hprice, hquantity, hnonce, hexpiry, -⟩
  cases intent
  cases intent'
  rw [OrderIntent.mk.injEq]
  exact ⟨NonZero.ext (leBytes_injective (n := 16) horder),
    NonZero.ext (leBytes_injective (n := 8) htrader),
    NonZero.ext (leBytes_injective (n := 4) hmarket),
    sideTag_injective (List.singleton_inj.mp hside),
    NonZero.ext (leBytes_injective (n := 8) hprice),
    NonZero.ext (leBytes_injective (n := 8) hquantity),
    NonZero.ext (leBytes_injective (n := 8) hnonce),
    NonZero.ext (leBytes_injective (n := 8) hexpiry)⟩

/-- No payload is signed by the bytes of an intent: they are longer. -/
theorem preimage_ne (order : SignedOrderPayload) (intent : OrderIntent) :
    order.signingPreimage ≠ intent.signingPreimage := by
  intro h
  have hlength := congrArg List.length h
  rw [length_signingPreimage, length_intentPreimage] at hlength
  exact absurd hlength (by decide)

/-! ### One order in two forms -/

/-- What a trader signs. -/
inductive SignedTerms where
  | payload (order : SignedOrderPayload)
  | intent (order : OrderIntent)
deriving DecidableEq

/-- The bytes that are signed. -/
def SignedTerms.signingPreimage : SignedTerms → List Byte
  | .payload order => order.signingPreimage
  | .intent order => order.signingPreimage

/-- The signed bytes determine the form and the order. -/
theorem SignedTerms.signingPreimage_inj {terms terms' : SignedTerms}
    (h : terms.signingPreimage = terms'.signingPreimage) : terms = terms' := by
  cases terms with
  | payload order =>
      cases terms' with
      | payload order' => exact congrArg SignedTerms.payload (signingPreimage_injective h)
      | intent order' => exact absurd h (preimage_ne order order')
  | intent order =>
      cases terms' with
      | payload order' => exact absurd h.symm (preimage_ne order' order)
      | intent order' => exact congrArg SignedTerms.intent (intentPreimage_injective h)

/-! ### Hashes and signatures -/

/-- No two of the messages have one hash. -/
def CollisionFreeOn (sha256 : List Byte → Hash) (messages : Set (List Byte)) : Prop :=
  Set.InjOn sha256 messages

/-- No signature of a key is valid for two of the messages. As with hashes, it
    is asked of the messages at hand only. -/
def BindsOn (rt : Runtime) (messages : Set (List Byte)) : Prop :=
  ∀ key signature, {m ∈ messages | rt.ed25519Verify key signature m = true}.Subsingleton

/-- A signature instruction that the program accepts for an order it accepts
    for no other, whatever key and signature it is asked for. -/
theorem vouches_unique {rt : Runtime} {instruction : RawInstruction} {key key' : Pubkey}
    {signature signature' : Settlement.Signature} {terms terms' : SignedTerms}
    (h : verifyEd25519Instruction rt instruction key.bytes signature.bytes terms.signingPreimage
      = .ok ())
    (h' : verifyEd25519Instruction rt instruction key'.bytes signature'.bytes
      terms'.signingPreimage = .ok ()) : terms = terms' := by
  -- The entry of the instruction has one message, whoever asks for it.
  have hparts := ((verifyEd25519Instruction_eq_ok [] (length_pubkeyBytes key)
    (length_leBytes 64 _)).mp h).2.2.2.2
  have hparts' := ((verifyEd25519Instruction_eq_ok [] (length_pubkeyBytes key')
    (length_leBytes 64 _)).mp h').2.2.2.2
  rw [hparts, Option.some.injEq, Prod.mk.injEq, Prod.mk.injEq] at hparts'
  exact SignedTerms.signingPreimage_inj hparts'.2.2

/-- The signed bytes of payloads determine the payload, those of intents the
    intent, and no bytes are those of both. So among messages without a
    collision a hash stands for one order in one form, a signature that is
    valid for one message is valid for one order, and a signature instruction
    vouches for one order. -/
theorem signingPreimages_unambiguous :
    Function.Injective SignedOrderPayload.signingPreimage ∧
    Function.Injective OrderIntent.signingPreimage ∧
    (∀ (order : SignedOrderPayload) (intent : OrderIntent),
      OrderIntent.domainTag <+: order.signingPreimage ∧
      OrderIntent.domainTag <+: intent.signingPreimage ∧
      order.signingPreimage ≠ intent.signingPreimage) ∧
    (∀ (sha256 : List Byte → Hash) (messages : Set (List Byte)), CollisionFreeOn sha256 messages →
      ∀ terms terms' : SignedTerms, terms.signingPreimage ∈ messages →
        terms'.signingPreimage ∈ messages →
        sha256 terms.signingPreimage = sha256 terms'.signingPreimage → terms = terms') ∧
    (∀ (rt : Runtime) (messages : Set (List Byte)), BindsOn rt messages →
      ∀ (key signature : List Byte) (terms terms' : SignedTerms),
        terms.signingPreimage ∈ messages → terms'.signingPreimage ∈ messages →
        rt.ed25519Verify key signature terms.signingPreimage = true →
        rt.ed25519Verify key signature terms'.signingPreimage = true → terms = terms') ∧
    ∀ (rt : Runtime) (instruction : RawInstruction) (key key' : Pubkey)
      (signature signature' : Settlement.Signature) (terms terms' : SignedTerms),
      verifyEd25519Instruction rt instruction key.bytes signature.bytes terms.signingPreimage
        = .ok () →
      verifyEd25519Instruction rt instruction key'.bytes signature'.bytes terms'.signingPreimage
        = .ok () → terms = terms' := by
  refine ⟨fun _ _ => signingPreimage_injective, intentPreimage_injective,
    fun order intent => ⟨?_, ?_, preimage_ne order intent⟩, ?_, ?_,
    fun _ _ _ _ _ _ _ _ => vouches_unique⟩
  · simp only [SignedOrderPayload.signingPreimage, List.append_assoc]
    exact List.prefix_append _ _
  · simp only [OrderIntent.signingPreimage, List.append_assoc]
    exact List.prefix_append _ _
  -- One hash means one message, and one message means one order in one form.
  · intro sha256 messages hfree terms terms' hmem hmem' hhash
    exact SignedTerms.signingPreimage_inj (hfree hmem hmem' hhash)
  · intro rt messages hbinds key signature terms terms' hmem hmem' hvalid hvalid'
    exact SignedTerms.signingPreimage_inj
      (hbinds key signature ⟨hmem, hvalid⟩ ⟨hmem', hvalid'⟩)

/-- A bid and an ask have no hash in common, and no signature. -/
theorem signingPreimages_unambiguous_samples :
    sampleSignedRuntime.sha256 sampleBid.signingPreimage
        ≠ sampleSignedRuntime.sha256 sampleAsk.signingPreimage ∧
      ∀ key signature, ¬ (
        sampleSignedRuntime.ed25519Verify key signature sampleBid.signingPreimage = true ∧
        sampleSignedRuntime.ed25519Verify key signature sampleAsk.signingPreimage = true) := by
  have hne : SignedTerms.payload sampleBid ≠ .payload sampleAsk := by decide +kernel
  refine ⟨fun h => hne ?_, fun key signature h => hne ?_⟩
  · refine signingPreimages_unambiguous.2.2.2.1 sampleSignedRuntime.sha256
      {m | m ∈ [sampleBid.signingPreimage, sampleAsk.signingPreimage]} (fun m hm m' hm' => ?_)
      _ _ List.mem_cons_self (List.mem_cons_of_mem _ List.mem_cons_self) h
    have hfree : ∀ m ∈ [sampleBid.signingPreimage, sampleAsk.signingPreimage],
        ∀ m' ∈ [sampleBid.signingPreimage, sampleAsk.signingPreimage],
        sampleSignedRuntime.sha256 m = sampleSignedRuntime.sha256 m' → m = m' := by
      decide +kernel
    exact hfree m hm m' hm'
  -- A signature valid for both would be one of the two given, and each is of one order.
  · refine signingPreimages_unambiguous.2.2.2.2.1 sampleSignedRuntime
      {m | m ∈ [sampleBid.signingPreimage, sampleAsk.signingPreimage]}
      (fun key signature m hm m' hm' => ?_) key signature _ _ List.mem_cons_self
      (List.mem_cons_of_mem _ List.mem_cons_self) h.1 h.2
    -- Each key has signed one message.
    have hm := of_decide_eq_true hm.2
    have hm' := of_decide_eq_true hm'.2
    simp only [List.mem_cons, Prod.mk.injEq, List.not_mem_nil, or_false] at hm hm'
    rcases hm with ⟨hkey, -, hm⟩ | ⟨hkey, -, hm⟩ <;>
      rcases hm' with ⟨hkey', -, hm'⟩ | ⟨hkey', -, hm'⟩
    · exact hm.trans hm'.symm
    · exact absurd (hkey.symm.trans hkey') (by decide +kernel)
    · exact absurd (hkey.symm.trans hkey') (by decide +kernel)
    · exact hm.trans hm'.symm

end Relayer

end SolanaLab
