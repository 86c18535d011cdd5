import RsipRtp.SrtpDelivery

/-!
# The initialisation vectors of a stream

The vector of a packet is the salt with the SSRC and the 48-bit index laid
over it, so that one SSRC never sees a vector twice as long as the index does
not come back.
-/

namespace RsipRtp.SrtpIv
open SipText BigEndian SrtpKdf SrtpContext SrtpPacket SrtpDelivery

theorem bytes48_injective {i j : UInt64} (hi : i.toNat < 2^48) (hj : j.toNat < 2^48)
    (h : bytes48 i = bytes48 j) : i = j := by
  have hdecode := congrArg decode h
  rw [bytes48, bytes48, decode_encode hi, decode_encode hj] at hdecode
  exact UInt64.toNat_inj.mp hdecode

example : bytes48 0x010203040506 = [1,2,3,4,5,6] := by decide +kernel

theorem buildIv_injective {salt : Octets 14} {ssrc : UInt32} {i j : UInt64}
    (hi : i.toNat < 2^48) (hj : j.toNat < 2^48) (h : buildIv salt ssrc i = buildIv salt ssrc j) :
    i = j := by
  have hx := zipWith_xor_cancel _ _ _ (by simp [(saltBlock salt).2, putU32, bytes48])
    (by simp [(saltBlock salt).2, putU32, bytes48]) (congrArg Subtype.val h)
  simp only [List.append_assoc, List.append_cancel_left_eq] at hx
  exact bytes48_injective hi hj (List.append_cancel_right hx)

section Stream

variable {c : Crypto} {ctx : Context} {e : ℕ} {rtps : List Bytes}

/-- The vector that `protect` builds for a packet. -/
def ivOf (keys : SessionKeys) (x : Sent) : Octets 16 :=
  buildIv keys.srtpSalt (ssrcOf x.packet) (packetIndex x.roc (seqOf x.packet))

/-- A packet goes out as its header, its payload under the key stream of its
vector, and the tag. -/
theorem stream_wire {suite : CryptoSuite} {keys : SessionKeys} (hfit : ∀ p ∈ rtps, HeaderFits p) :
    ∀ x ∈ stream c suite keys rtps, ∃ n tag, getRtpHeaderLen x.packet = .ok n ∧
      x.wire = .ok (x.packet.take n++
        c.applyKeystream keys.srtpEncKey (ivOf keys x) (x.packet.drop n)++tag) := by
  intro x hx
  obtain ⟨n,hn,hwire⟩ := sendAll_wire 0 hfit x hx
  exact ⟨n,_,hn,hwire⟩

theorem sendAll_increasing {prev : UInt16} (hadv : (prev::rtps.map seqOf).IsChain Advance) :
    (∀ x ∈ sendAll c ctx e prev rtps, e < x.index) ∧
      (sendAll c ctx e prev rtps).Pairwise (fun x y => x.index < y.index) := by
  induction rtps generalizing ctx e prev with
  | nil => simp [sendAll]
  | cons rtp rest ih =>
    rw [List.map_cons, List.isChain_cons_cons] at hadv
    have hstep : e < e+(seqOf rtp-prev).toNat := by
      have := hadv.1.1
      omega
    rw [sendAll, List.forall_mem_cons, List.pairwise_cons]
    exact ⟨⟨hstep,fun x hx => hstep.trans ((ih hadv.2).1 x hx)⟩,ih hadv.2⟩

theorem stream_increasing {suite : CryptoSuite} {keys : SessionKeys}
    (hadv : (rtps.map seqOf).IsChain Advance) :
    (stream c suite keys rtps).Pairwise (fun x y => x.index < y.index) := by
  cases rtps with
  | nil => simp [stream, sendAll]
  | cons rtp rest =>
    rw [stream, sendAll, List.pairwise_cons]
    exact sendAll_increasing hadv

theorem sendAll_packet (c : Crypto) (ctx : Context) (e : ℕ) (prev : UInt16) (rtps : List Bytes) :
    (sendAll c ctx e prev rtps).map Sent.packet = rtps := by
  induction rtps generalizing ctx e prev with
  | nil => rfl
  | cons rtp rest ih => rw [sendAll, List.map_cons, ih]

end Stream

/-- Over a stream of one SSRC whose sequence numbers advance by less than
`2^15`, the index of every packet is its extended sequence number, and no two
packets are encrypted under the same vector. -/
theorem stream_ivs_distinct (c : Crypto) (suite : CryptoSuite) (keys : SessionKeys) (ssrc : UInt32)
    (rtps : List Bytes) (hlen : ∀ p ∈ rtps, ¬p.length < rtpHeaderSize)
    (hssrc : ∀ p ∈ rtps, ssrcOf p = ssrc) (hadv : (rtps.map seqOf).IsChain Advance)
    (hroom : ∀ x ∈ stream c suite keys rtps, x.index < 2^48) :
    (∀ x ∈ stream c suite keys rtps,
        (packetIndex x.roc (seqOf x.packet)).toNat = x.index ∧
          x.roc.toNat*2^16+(seqOf x.packet).toNat = x.index) ∧
      ((stream c suite keys rtps).map (ivOf keys)).Nodup := by
  have hindex := stream_index hlen hadv hroom
  have hnat (x : Sent) (hx : x ∈ stream c suite keys rtps) :
      (packetIndex x.roc (seqOf x.packet)).toNat = x.index :=
    (packetIndex_toNat _ _).trans (hindex x hx)
  have hone (x : Sent) (hx : x ∈ stream c suite keys rtps) : ssrcOf x.packet = ssrc := by
    apply hssrc
    rw [← sendAll_packet c (fresh suite keys) 0 0 rtps]
    exact List.mem_map_of_mem hx
  refine ⟨fun x hx => ⟨hnat x hx,hindex x hx⟩,?_⟩
  rw [List.Nodup, List.pairwise_map]
  refine (stream_increasing hadv).imp_of_mem fun {x y} hx hy hlt heq => ?_
  rw [ivOf, ivOf, hone x hx, hone y hy] at heq
  have hsame := buildIv_injective (by rw [hnat x hx]; exact hroom x hx)
    (by rw [hnat y hy]; exact hroom y hy) heq
  rw [← hnat x hx, ← hnat y hy, hsame] at hlt
  exact lt_irrefl _ hlt

theorem stream_ivs_distinct_at_wrap :
    sampleStream.map Sent.index = [0xFFFF,0x10000] ∧ (sampleStream.map (ivOf sampleKeys)).Nodup :=
  ⟨by decide +kernel,(stream_ivs_distinct sampleCrypto .aesCm128HmacSha1_80 sampleKeys 0xDEADBEEF
    [sampleRtp 0xFF 0xFF,sampleRtp 0 0] (by decide +kernel) (by decide +kernel)
    (by decide +kernel) (by decide +kernel)).2⟩

end RsipRtp.SrtpIv
