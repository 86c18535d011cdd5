import RsipRtp.SrtpContext
import RsipRtp.Rollover

/-!
# One packet between two contexts

The receiver restores a packet whenever it chooses the rollover counter under
which the packet was protected.
-/

namespace RsipRtp.SrtpPacket
open SipText SrtpKdf SrtpContext

theorem headerLen_bounds {rtp : Bytes} {n : ℕ} (h : getRtpHeaderLen rtp = .ok n) :
    rtpHeaderSize ≤ n ∧ n ≤ rtp.length := by
  unfold getRtpHeaderLen at h
  dsimp only at h
  split_ifs at h <;> cases h <;> omega

theorem headerLen_congr {a b : Bytes} {n : ℕ} (hl : b.length = a.length)
    (hb : ∀ i < n, byteAt b i = byteAt a i) (h : getRtpHeaderLen a = .ok n) :
    getRtpHeaderLen b = .ok n := by
  have hpos : 0 < n := by
    have := (headerLen_bounds h).1
    unfold rtpHeaderSize at this
    omega
  unfold getRtpHeaderLen at h ⊢
  rw [hl, hb 0 hpos]
  dsimp only at h ⊢
  split_ifs at h with hshort hext hroom hfit hfit
  · cases h
    rw [if_neg hshort, if_pos hext, if_neg hroom, hb _ (by omega), hb _ (by omega), if_neg hfit]
  · rw [if_neg hshort, if_neg hext, if_neg hfit]
    exact h

section Cipher

variable {c : Crypto} {keys : SessionKeys} {rtp : Bytes} {index : UInt64} {n : ℕ}

theorem cryptPayload_length (h : n ≤ rtp.length) :
    (cryptPayload c keys rtp index n).length = rtp.length := by
  simp [cryptPayload, h]

theorem byteAt_cryptPayload (h : n ≤ rtp.length) {i : ℕ} (hi : i < n) :
    byteAt (cryptPayload c keys rtp index n) i = byteAt rtp i := by
  have htake : i < (rtp.take n).length := by rwa [List.length_take_of_le h]
  unfold byteAt cryptPayload
  simp only [List.getD_eq_getElem?_getD, List.getElem?_append_left htake,
    List.getElem?_take_of_lt hi]

theorem seqOf_cryptPayload (c : Crypto) (keys : SessionKeys) (index : UInt64)
    (h : getRtpHeaderLen rtp = .ok n) :
    seqOf (cryptPayload c keys rtp index n) = seqOf rtp := by
  obtain ⟨hlo,hhi⟩ := headerLen_bounds h
  unfold rtpHeaderSize at hlo
  unfold seqOf
  rw [byteAt_cryptPayload hhi (by omega), byteAt_cryptPayload hhi (by omega)]

theorem ssrcOf_cryptPayload (h : getRtpHeaderLen rtp = .ok n) :
    ssrcOf (cryptPayload c keys rtp index n) = ssrcOf rtp := by
  obtain ⟨hlo,hhi⟩ := headerLen_bounds h
  unfold rtpHeaderSize at hlo
  unfold ssrcOf
  rw [byteAt_cryptPayload hhi (by omega), byteAt_cryptPayload hhi (by omega),
    byteAt_cryptPayload hhi (by omega), byteAt_cryptPayload hhi (by omega)]

theorem headerLen_cryptPayload (h : getRtpHeaderLen rtp = .ok n) :
    getRtpHeaderLen (cryptPayload c keys rtp index n) = .ok n :=
  have hn := (headerLen_bounds h).2
  headerLen_congr (cryptPayload_length hn) (fun _ => byteAt_cryptPayload hn) h

theorem cryptPayload_involutive (h : getRtpHeaderLen rtp = .ok n) :
    cryptPayload c keys (cryptPayload c keys rtp index n) index n = rtp := by
  rw [cryptPayload, ssrcOf_cryptPayload h]
  have hn : (rtp.take n).length = n := List.length_take_of_le (headerLen_bounds h).2
  unfold cryptPayload
  rw [List.take_left' hn, List.drop_left' hn, applyKeystream_involutive, List.take_append_drop]

end Cipher

section Sealed

variable {c : Crypto} {ctx : Context} {rtp : Bytes} {n : ℕ}

theorem splitTag_sealed (c : Crypto) (ctx : Context) (rtp : Bytes) (n : ℕ) (roc : UInt32) :
    splitTag ctx (sealed c ctx.suite ctx.keys roc rtp n) =
      let output := cryptPayload c ctx.keys rtp (packetIndex roc (seqOf rtp)) n
      (output,(computeAuthTag c ctx.keys output roc).1.take ctx.suite.authTagLen) := by
  have htag (output : Bytes) : ((computeAuthTag c ctx.keys output roc).1.take
      ctx.suite.authTagLen).length = ctx.suite.authTagLen := by
    rw [List.length_take_of_le]
    exact (computeAuthTag c ctx.keys output roc).2.symm ▸ authTagLen_le ctx.suite
  simp only [splitTag, sealed, List.splitAt_eq, List.length_append, htag, Nat.add_sub_cancel,
    List.take_left, List.drop_left]

theorem unprotect_sealed {roc : UInt32} (h : getRtpHeaderLen rtp = .ok n)
    (hroc : (chooseRoc ctx (seqOf rtp)).1 = roc) :
    unprotect c ctx (sealed c ctx.suite ctx.keys roc rtp n) =
      (.ok rtp,updateReceiver (chooseRoc ctx (seqOf rtp)).2 roc (seqOf rtp)) := by
  have hs := splitTag_sealed c ctx rtp n roc
  have hseq := seqOf_cryptPayload c ctx.keys (packetIndex roc (seqOf rtp)) h
  have hlen : ¬(sealed c ctx.suite ctx.keys roc rtp n).length <
      rtpHeaderSize+ctx.suite.authTagLen := by
    have hb := headerLen_bounds h
    have ht := authTagLen_le ctx.suite
    simp only [sealed, List.length_append, cryptPayload_length hb.2, List.length_take,
      (computeAuthTag c ctx.keys _ roc).2]
    omega
  rw [unprotect_authentic hlen]
  · simp only [hs, hseq, hroc, headerLen_cryptPayload h, Except.map, cryptPayload_involutive h]
  · simp only [Authentic, hs, hseq, hroc]

end Sealed

section Index

open Rollover

theorem packetIndex_toNat (roc : UInt32) (seq : UInt16) :
    (packetIndex roc seq).toNat = extend 0x8000 roc.toNat seq.toNat := by
  have hroc := roc.toNat_lt
  have hseq := seq.toNat_lt
  have hshift : (roc.toUInt64 <<< 16).toNat = roc.toNat <<< 16 := by
    rw [UInt64.toNat_shiftLeft]
    simp only [UInt32.toNat_toUInt64]
    rw [Nat.mod_eq_of_lt]
    · rfl
    · change roc.toNat <<< 16 < 2^64
      rw [Nat.shiftLeft_eq]
      omega
  rw [packetIndex, UInt64.toNat_or, hshift, UInt16.toNat_toUInt64,
    ← Nat.shiftLeft_add_eq_or_of_lt hseq, Nat.shiftLeft_eq, extend]

theorem rollsOver_iff (highest seq : UInt16) :
    rollsOver highest seq = true ↔ rolls 0x8000 highest.toNat seq.toNat := by
  simp only [rollsOver, Bool.and_eq_true, decide_eq_true_eq, rolls, UInt16.lt_iff_toNat_lt,
    gt_iff_lt]
  rfl

example : rollsOver 0xFFFE 1 = true ∧ rollsOver 1 0xFFFE = false := by decide +kernel

theorem updateSender_index {ctx : Context} {seq : UInt16} (hd : 1 ≤ (seq-ctx.highestSeq).toNat)
    (hdH : (seq-ctx.highestSeq).toNat < 0x8000)
    (hroom : extend 0x8000 ctx.senderRoc.toNat ctx.highestSeq.toNat+
      (seq-ctx.highestSeq).toNat < 2^48) :
    extend 0x8000 (updateSender ctx seq).senderRoc.toNat seq.toNat =
      extend 0x8000 ctx.senderRoc.toNat ctx.highestSeq.toNat+(seq-ctx.highestSeq).toNat := by
  have hh := ctx.highestSeq.toNat_lt
  have hmod : seq.toNat = (ctx.highestSeq.toNat+(seq-ctx.highestSeq).toNat) % (2*0x8000) := by
    have h := UInt16.toNat_add ctx.highestSeq (seq-ctx.highestSeq)
    rwa [UInt16.add_comm, UInt16.sub_add_cancel] at h
  rw [← extend_advance (by omega) hd hdH hmod] at hroom ⊢
  simp only [updateSender, rollsOver_iff]
  split_ifs at hroom ⊢ with hr
  · unfold extend at hroom
    rw [UInt32.toNat_add, Nat.mod_eq_of_lt]
    · rfl
    · change ctx.senderRoc.toNat+1 < 2^32
      omega
  · rfl

theorem gap_iff (a b : UInt16) :
    a < b ∧ 0x8000 < b-a ↔ a.toNat < b.toNat ∧ 0x8000 < b.toNat-a.toNat :=
  and_congr_right fun hlt => by
    rw [UInt16.lt_iff_toNat_lt, UInt16.toNat_sub_of_le _ _ (UInt16.le_of_lt hlt)]
    rfl

/-- The receiver finds the counter of an index less than `2^15` away. -/
theorem estimateRoc_eq {v r : UInt32} {s q : UInt16}
    (h1 : extend 0x8000 r.toNat q.toNat < extend 0x8000 v.toNat s.toNat+0x8000)
    (h2 : extend 0x8000 v.toNat s.toNat < extend 0x8000 r.toNat q.toNat+0x8000) :
    estimateRoc v s q = r := by
  have hn := nearest_eq s.toNat_lt q.toNat_lt h1 h2
  have hr := r.toNat_lt
  have hhalf : s < 0x8000 ↔ s.toNat < 0x8000 := UInt16.lt_iff_toNat_lt
  unfold nearest at hn
  simp only [estimateRoc, gt_iff_lt, gap_iff, hhalf]
  apply UInt32.toNat_inj.mp
  split_ifs at hn ⊢
  · -- the count is not zero here, since one less than it is `r`
    have hone : (1 : UInt32) ≤ v := UInt32.le_iff_toNat_le.mpr (show 1 ≤ v.toNat by omega)
    rw [UInt32.toNat_sub_of_le _ _ hone]
    change v.toNat-1 = r.toNat
    omega
  · omega
  · rw [UInt32.toNat_add]
    change (v.toNat+1) % 2^32 = r.toNat
    omega
  · omega

end Index

end RsipRtp.SrtpPacket
