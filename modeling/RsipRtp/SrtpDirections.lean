import RsipRtp.SrtpPacket
import RsipRtp.ReplyMachine

/-!
# The two directions of one context

One context serves the outgoing and the incoming packets. The counters are
apart, the highest sequence number is shared.
-/

namespace RsipRtp.SrtpDirections
open SipText SrtpKdf SrtpContext SrtpPacket Rollover ReplyMachine

inductive Call
  | protect (rtp : Bytes)
  | unprotect (srtp : Bytes)

def Call.isProtect : Call → Bool
  | .protect _ => true
  | .unprotect _ => false

def Call.isUnprotect : Call → Bool
  | .protect _ => false
  | .unprotect _ => true

def call (c : Crypto) (ctx : Context) : Call → Except String Bytes × Context
  | .protect rtp => protect c ctx rtp
  | .unprotect srtp => unprotect c ctx srtp

/-- The answers of one direction in an interleaving are those it gives alone. -/
def Undisturbed (c : Crypto) (ctx : Context) (direction : Call → Bool) (calls : List Call) : Prop :=
  repliesOn (call c) direction ctx calls = replies (call c) ctx (calls.filter direction)

/-- The shared number and the one of the sender alone agree on the rollover. -/
def SameRollover (shared alone : Context) : Call → Prop
  | .protect rtp => rtp.length < rtpHeaderSize ∨
    rollsOver shared.highestSeq (seqOf rtp) = rollsOver alone.highestSeq (seqOf rtp)
  | .unprotect _ => True

def SameEstimate (shared alone : Context) : Call → Prop
  | .protect _ => True
  | .unprotect srtp =>
    let seq := seqOf (splitTag alone srtp).1
    srtp.length < rtpHeaderSize+alone.suite.authTagLen ∨ alone.firstPacket = true ∨
      estimateRoc alone.receiverRoc shared.highestSeq seq =
        estimateRoc alone.receiverRoc alone.highestSeq seq

instance (shared alone : Context) : ∀ call, Decidable (SameRollover shared alone call)
  | .protect _ => inferInstanceAs (Decidable (_ ∨ _))
  | .unprotect _ => isTrue trivial

instance (shared alone : Context) : ∀ call, Decidable (SameEstimate shared alone call)
  | .protect _ => isTrue trivial
  | .unprotect _ => inferInstanceAs (Decidable (_ ∨ _ ∨ _))

section Sender

structure SameSender (s t : Context) : Prop where
  suite : s.suite = t.suite
  keys : s.keys = t.keys
  roc : s.senderRoc = t.senderRoc

variable {c : Crypto} {s t : Context}

theorem protect_same (h : SameSender s t) {rtp : Bytes}
    (hg : SameRollover s t (.protect rtp)) :
    (protect c s rtp).1 = (protect c t rtp).1 ∧
      SameSender (protect c s rtp).2 (protect c t rtp).2 := by
  by_cases hlen : rtp.length < rtpHeaderSize
  · rw [protect_short hlen, protect_short hlen]
    exact ⟨rfl,h⟩
  · have hroc : (updateSender s (seqOf rtp)).senderRoc =
        (updateSender t (seqOf rtp)).senderRoc := by
      simp only [updateSender, hg.resolve_left hlen, h.roc]
    rw [protect_long hlen, protect_long hlen]
    simp only [h.suite, h.keys, hroc, true_and]
    exact ⟨h.suite,h.keys,hroc⟩

theorem chooseRoc_sender (h : SameSender s t) (seq : UInt16) :
    SameSender (chooseRoc s seq).2 t := by
  unfold chooseRoc
  split_ifs
  · exact ⟨h.suite,h.keys,h.roc⟩
  · exact h

theorem updateReceiver_sender (h : SameSender s t) (roc : UInt32) (seq : UInt16) :
    SameSender (updateReceiver s roc seq) t := by
  unfold updateReceiver
  split_ifs
  · exact ⟨h.suite,h.keys,h.roc⟩
  · exact h

theorem unprotect_sender (h : SameSender s t) (srtp : Bytes) :
    SameSender (unprotect c s srtp).2 t := by
  by_cases hlen : srtp.length < rtpHeaderSize+s.suite.authTagLen
  · rwa [unprotect_short hlen]
  · by_cases ha : Authentic c s srtp (chooseRoc s (seqOf (splitTag s srtp).1)).1
    · rw [unprotect_authentic hlen ha]
      exact updateReceiver_sender (chooseRoc_sender h _) _ _
    · rw [unprotect_forged hlen ha]
      exact chooseRoc_sender h _

theorem sender_undisturbed {calls : List Call} (h : SameSender s t)
    (hg : Beside (call c) Call.isProtect SameRollover s t calls) :
    repliesOn (call c) Call.isProtect s calls =
      replies (call c) t (calls.filter Call.isProtect) := by
  refine repliesOn_eq_filter (R := SameSender) ?_ ?_ h hg
  · rintro s t (rtp | srtp) hs hp hg
    · exact protect_same hs hg
    · cases hp
  · rintro s t (rtp | srtp) hs hp
    · cases hp
    · exact unprotect_sender hs srtp

end Sender

section Receiver

structure SameReceiver (s t : Context) : Prop where
  suite : s.suite = t.suite
  keys : s.keys = t.keys
  roc : s.receiverRoc = t.receiverRoc
  first : s.firstPacket = t.firstPacket

variable {c : Crypto} {s t : Context}

theorem splitTag_same (h : SameReceiver s t) (srtp : Bytes) :
    splitTag s srtp = splitTag t srtp := by
  unfold splitTag
  rw [h.suite]

theorem authentic_same (h : SameReceiver s t) (srtp : Bytes) (roc : UInt32) :
    Authentic c s srtp roc ↔ Authentic c t srtp roc := by
  unfold Authentic
  rw [splitTag_same h, h.suite, h.keys]

theorem chooseRoc_same (h : SameReceiver s t) {seq : UInt16}
    (hg : t.firstPacket = true ∨ estimateRoc t.receiverRoc s.highestSeq seq =
      estimateRoc t.receiverRoc t.highestSeq seq) :
    (chooseRoc s seq).1 = (chooseRoc t seq).1 ∧
      SameReceiver (chooseRoc s seq).2 (chooseRoc t seq).2 := by
  unfold chooseRoc
  rw [h.first]
  split_ifs with hf
  · exact ⟨rfl,h.suite,h.keys,h.roc,rfl⟩
  · rw [h.roc]
    exact ⟨hg.resolve_left hf,h⟩

theorem updateReceiver_roc (ctx : Context) (roc : UInt32) (seq : UInt16) :
    (updateReceiver ctx roc seq).receiverRoc =
      if ctx.receiverRoc < roc then roc else ctx.receiverRoc := by
  have hseq := seq.toNat_lt
  have hhigh := ctx.highestSeq.toNat_lt
  simp only [updateReceiver, UInt64.lt_iff_toNat_lt, packetIndex_toNat, UInt32.lt_iff_toNat_lt,
    extend]
  split_ifs with hindex hroc hroc
  · rfl
  · -- a higher index without a higher counter: the counters are equal
    exact UInt32.toNat_inj.mp (show roc.toNat = ctx.receiverRoc.toNat by omega)
  · omega
  · rfl

theorem updateReceiver_same (h : SameReceiver s t) (roc : UInt32) (seq : UInt16) :
    SameReceiver (updateReceiver s roc seq) (updateReceiver t roc seq) where
  suite := by rw [updateReceiver_suite, updateReceiver_suite, h.suite]
  keys := by rw [updateReceiver_keys, updateReceiver_keys, h.keys]
  roc := by rw [updateReceiver_roc, updateReceiver_roc, h.roc]
  first := by rw [updateReceiver_firstPacket, updateReceiver_firstPacket, h.first]

theorem unprotect_same (h : SameReceiver s t) {srtp : Bytes}
    (hg : SameEstimate s t (.unprotect srtp)) :
    (unprotect c s srtp).1 = (unprotect c t srtp).1 ∧
      SameReceiver (unprotect c s srtp).2 (unprotect c t srtp).2 := by
  by_cases hlen : srtp.length < rtpHeaderSize+t.suite.authTagLen
  · rw [unprotect_short hlen, unprotect_short (h.suite ▸ hlen)]
    exact ⟨rfl,h⟩
  · have hlen' : ¬srtp.length < rtpHeaderSize+s.suite.authTagLen := h.suite ▸ hlen
    obtain ⟨hroc,hchosen⟩ := chooseRoc_same h (hg.resolve_left hlen)
    by_cases ha : Authentic c t srtp (chooseRoc t (seqOf (splitTag t srtp).1)).1
    · rw [unprotect_authentic hlen ha, unprotect_authentic hlen' (by
        rwa [splitTag_same h, hroc, authentic_same h])]
      simp only [splitTag_same h, hroc, h.keys, true_and]
      exact updateReceiver_same hchosen _ _
    · rw [unprotect_forged hlen ha, unprotect_forged hlen' (by
        rwa [splitTag_same h, hroc, authentic_same h]), splitTag_same h]
      exact ⟨rfl,hchosen⟩

theorem protect_receiver (h : SameReceiver s t) (rtp : Bytes) :
    SameReceiver (protect c s rtp).2 t := by
  by_cases hlen : rtp.length < rtpHeaderSize
  · rwa [protect_short hlen]
  · rw [protect_long hlen]
    exact ⟨h.suite,h.keys,h.roc,h.first⟩

theorem receiver_undisturbed {calls : List Call} (h : SameReceiver s t)
    (hg : Beside (call c) Call.isUnprotect SameEstimate s t calls) :
    repliesOn (call c) Call.isUnprotect s calls =
      replies (call c) t (calls.filter Call.isUnprotect) := by
  refine repliesOn_eq_filter (R := SameReceiver) ?_ ?_ h hg
  · rintro s t (rtp | srtp) hs hp hg
    · cases hp
    · exact unprotect_same hs hg
  · rintro s t (rtp | srtp) hs hp
    · exact protect_receiver hs rtp
    · cases hp

end Receiver

/-- In every interleaving whose calls agree with the direction alone on the
counter, neither direction disturbs the other. -/
theorem directions_undisturbed (c : Crypto) (suite : CryptoSuite) (keys : SessionKeys)
    (calls : List Call)
    (hsend : Beside (call c) Call.isProtect SameRollover (fresh suite keys) (fresh suite keys)
      calls)
    (hreceive : Beside (call c) Call.isUnprotect SameEstimate (fresh suite keys)
      (fresh suite keys) calls) :
    Undisturbed c (fresh suite keys) Call.isProtect calls ∧
      Undisturbed c (fresh suite keys) Call.isUnprotect calls :=
  ⟨sender_undisturbed ⟨rfl,rfl,rfl⟩ hsend,receiver_undisturbed ⟨rfl,rfl,rfl,rfl⟩ hreceive⟩

def sampleSrtp (hi lo : UInt8) : Bytes :=
  sampleRtp hi lo++((sampleTags.lookup (sampleRtp hi lo++[0,0,0,0])).getD []).take 10

theorem directions_undisturbed_below_half :
    let calls := [.unprotect (sampleSrtp 0x12 0x34),.protect (sampleRtp 0 1),
      .unprotect (sampleSrtp 0x12 0x34)]
    Undisturbed sampleCrypto sampleContext Call.isProtect calls ∧
      Undisturbed sampleCrypto sampleContext Call.isUnprotect calls :=
  directions_undisturbed sampleCrypto .aesCm128HmacSha1_80 sampleKeys _ (by decide +kernel)
    (by decide +kernel)

/-- An incoming packet with a high sequence number makes the sender roll over
before its first packet. -/
theorem incoming_packet_rolls_sender :
    ¬∀ (c : Crypto) (suite : CryptoSuite) (keys : SessionKeys) (calls : List Call),
        Undisturbed c (fresh suite keys) Call.isProtect calls ∧
          Undisturbed c (fresh suite keys) Call.isUnprotect calls := by
  intro h
  have hp := (h sampleCrypto .aesCm128HmacSha1_80 sampleKeys
    [.unprotect (sampleSrtp 0xFF 0xFF),.protect (sampleRtp 0 1)]).1
  unfold Undisturbed at hp
  revert hp
  decide +kernel

end RsipRtp.SrtpDirections
