import RsipRtp.SrtpContext

/-!
# The context after a refused packet

Both operations change the context before their last test. The conditions
under which an error leaves the context as it was are stated on the input,
and they are exact.
-/

namespace RsipRtp.SrtpErrors
open SipText SrtpKdf SrtpContext

def KeepsOnError (r : Except String Bytes × Context) (ctx : Context) : Prop :=
  ∀ e, r.1 = .error e → r.2 = ctx

def ProtectSafe (ctx : Context) (rtp : Bytes) : Prop :=
  rtp.length < rtpHeaderSize ∨ HeaderFits rtp ∨ seqOf rtp = ctx.highestSeq

def UnprotectSafe (c : Crypto) (ctx : Context) (srtp : Bytes) : Prop :=
  srtp.length < rtpHeaderSize+ctx.suite.authTagLen ∨
  let packet := (splitTag ctx srtp).1
  let roc := estimateRoc ctx.receiverRoc ctx.highestSeq (seqOf packet)
  if ctx.firstPacket then Authentic c ctx srtp 0 ∧ HeaderFits packet
  else ¬Authentic c ctx srtp roc ∨ HeaderFits packet ∨
    packetIndex roc (seqOf packet) ≤ packetIndex ctx.receiverRoc ctx.highestSeq

theorem updateSender_eq_self (ctx : Context) (seq : UInt16) :
    updateSender ctx seq = ctx ↔ seq = ctx.highestSeq := by
  constructor
  · intro h
    exact congrArg Context.highestSeq h
  · rintro rfl
    have hr : rollsOver ctx.highestSeq ctx.highestSeq = false := by
      simp only [rollsOver, Bool.and_eq_false_iff, decide_eq_false_iff_not]
      grind
    simp [updateSender, hr]

theorem updateReceiver_eq_self (ctx : Context) (roc : UInt32) (seq : UInt16) :
    updateReceiver ctx roc seq = ctx ↔
      packetIndex roc seq ≤ packetIndex ctx.receiverRoc ctx.highestSeq := by
  unfold updateReceiver
  split_ifs with hlt
  · refine ⟨fun h => ?_,fun h => absurd hlt (UInt64.not_lt.mpr h)⟩
    have hroc : roc = ctx.receiverRoc := congrArg Context.receiverRoc h
    have hseq : seq = ctx.highestSeq := congrArg Context.highestSeq h
    rw [hroc, hseq]
    exact UInt64.le_refl _
  · exact ⟨fun _ => UInt64.not_lt.mp hlt,fun _ => rfl⟩

theorem map_eq_error {α : Type} (f : ℕ → α) (rtp : Bytes) :
    (∃ e, (getRtpHeaderLen rtp).map f = .error e) ↔ ¬HeaderFits rtp := by
  unfold HeaderFits
  cases getRtpHeaderLen rtp <;> simp [Except.map]

theorem keepsOnError_iff (r : Except String Bytes × Context) (ctx : Context) :
    KeepsOnError r ctx ↔ (∃ e, r.1 = .error e) → r.2 = ctx :=
  ⟨fun h ⟨e,he⟩ => h e he,fun h e he => h ⟨e,he⟩⟩

theorem protect_keeps_iff (c : Crypto) (ctx : Context) (rtp : Bytes) :
    KeepsOnError (protect c ctx rtp) ctx ↔ ProtectSafe ctx rtp := by
  rw [keepsOnError_iff, ProtectSafe]
  by_cases hlen : rtp.length < rtpHeaderSize
  · simp [protect_short hlen, hlen]
  · rw [protect_long hlen]
    simp only [map_eq_error, updateSender_eq_self, hlen, false_or]
    exact or_iff_not_imp_left.symm

theorem chooseRoc_firstPacket (ctx : Context) (seq : UInt16) :
    (chooseRoc ctx seq).2.firstPacket = false := by
  unfold chooseRoc
  split_ifs with h
  · rfl
  · simpa using h

section Unprotect

variable {c : Crypto} {ctx : Context} {srtp : Bytes}

theorem unprotect_keeps_first (hlen : ¬srtp.length < rtpHeaderSize+ctx.suite.authTagLen)
    (hf : ctx.firstPacket = true) : KeepsOnError (unprotect c ctx srtp) ctx ↔
      Authentic c ctx srtp 0 ∧ HeaderFits (splitTag ctx srtp).1 := by
  have hroc (seq : UInt16) : (chooseRoc ctx seq).1 = 0 := by simp [chooseRoc, hf]
  have hne {ctx' : Context} (h : ctx'.firstPacket = false) : ctx' ≠ ctx := by
    rintro rfl
    simp [h] at hf
  rw [keepsOnError_iff]
  by_cases ha : Authentic c ctx srtp 0
  · rw [unprotect_authentic hlen (by rwa [hroc])]
    have hlast := hne ((updateReceiver_firstPacket (chooseRoc ctx (seqOf (splitTag ctx srtp).1)).2
      (chooseRoc ctx (seqOf (splitTag ctx srtp).1)).1 (seqOf (splitTag ctx srtp).1)).trans
      (chooseRoc_firstPacket ctx _))
    simp only [map_eq_error, ha, true_and]
    exact ⟨fun h => not_not.mp fun hn => hlast (h hn),fun h hn => absurd h hn⟩
  · rw [unprotect_forged hlen (by rwa [hroc])]
    simp [ha, hne (chooseRoc_firstPacket ctx _)]

theorem unprotect_keeps_later (hlen : ¬srtp.length < rtpHeaderSize+ctx.suite.authTagLen)
    (hf : ctx.firstPacket = false) {roc : UInt32}
    (hroc : roc = estimateRoc ctx.receiverRoc ctx.highestSeq (seqOf (splitTag ctx srtp).1)) :
    KeepsOnError (unprotect c ctx srtp) ctx ↔
      ¬Authentic c ctx srtp roc ∨ HeaderFits (splitTag ctx srtp).1 ∨
        packetIndex roc (seqOf (splitTag ctx srtp).1) ≤
          packetIndex ctx.receiverRoc ctx.highestSeq := by
  have hchoose : chooseRoc ctx (seqOf (splitTag ctx srtp).1) = (roc,ctx) := by
    simp [chooseRoc, hf, hroc]
  rw [keepsOnError_iff]
  by_cases ha : Authentic c ctx srtp roc
  · rw [unprotect_authentic hlen (by rwa [hchoose])]
    simp only [map_eq_error, hchoose, updateReceiver_eq_self, ha, not_true, false_or]
    exact ⟨fun h => or_iff_not_imp_left.mpr h,fun h hn => h.resolve_left hn⟩
  · rw [unprotect_forged hlen (by rwa [hchoose]), hchoose]
    simp [ha]

end Unprotect

/-- An error leaves the context as it was exactly under the two conditions. -/
theorem error_keeps_context_iff (c : Crypto) (ctx : Context) (rtp srtp : Bytes) :
    (KeepsOnError (protect c ctx rtp) ctx ↔ ProtectSafe ctx rtp) ∧
      (KeepsOnError (unprotect c ctx srtp) ctx ↔ UnprotectSafe c ctx srtp) := by
  refine ⟨protect_keeps_iff c ctx rtp,?_⟩
  unfold UnprotectSafe
  by_cases hlen : srtp.length < rtpHeaderSize+ctx.suite.authTagLen
  · simp [unprotect_short hlen, KeepsOnError, hlen]
  · cases hf : ctx.firstPacket with
    | true => simpa [hlen] using unprotect_keeps_first hlen hf
    | false => simpa [hlen] using unprotect_keeps_later hlen hf rfl

/-- A forged first packet is refused, and the context has taken its sequence
number and is no longer waiting for the first packet. -/
theorem forged_first_packet_changes_context :
    ¬∀ (c : Crypto) (ctx : Context) (rtp srtp : Bytes),
        KeepsOnError (protect c ctx rtp) ctx ∧ KeepsOnError (unprotect c ctx srtp) ctx := by
  intro h
  have hk := (h sampleCrypto sampleContext [] (sampleRtp 0x12 0x34++List.replicate 10 0)).2
    "Authentication failed" (by decide +kernel)
  have hseq : (unprotect sampleCrypto sampleContext
      (sampleRtp 0x12 0x34++List.replicate 10 0)).2.highestSeq = 0x1234 := by decide +kernel
  rw [hk] at hseq
  cases hseq

end RsipRtp.SrtpErrors
