import RsipRtp.RtpSession
import RsipRtp.SerialNumber

/-!
# What the receiver knows about the sequence numbers

The first packet fixes the base.
-/

namespace RsipRtp.RtpSequence
open SerialNumber RtpFormat RtpSession

variable {samplesIn : UInt32 → ℕ → Int32} {clockRate : UInt32} {s : ReceiverState}

/-- A packet after the first one moves the counters as its sequence number
says; the rest of it goes into the jitter estimate. -/
theorem receive_eq (now : ℕ) (packet : RtpPacket) (h : s.initialized = true) :
    ∃ jitter, receive samplesIn clockRate now packet s =
      {countSeq packet.sequenceNumber s with
        jitter := jitter, lastTimestamp := packet.timestamp, lastArrival := some now} := by
  rw [receive, h, if_neg (by decide), countJitter]
  split
  · exact ⟨_,rfl⟩
  · exact ⟨_,rfl⟩

theorem run_first {ssrc initialTs : UInt32} {payloadType : UInt8} {initialSeq : UInt16}
    {es : List Event} {p : ℕ × RtpPacket} {ps : List (ℕ × RtpPacket)} (h : arrivals es = p::ps) :
    (run samplesIn (new ssrc payloadType clockRate initialSeq initialTs) es).receiverState =
      receiveAll samplesIn clockRate (receive samplesIn clockRate p.1 p.2 {}) ps := by
  rw [run_receiverState, h]
  rfl

/-- A session at 8 kHz that receives packets with the given numbers, all at
its start. -/
def sampleRun (seqs : List UInt16) : Session :=
  run (fun rate ns => Int32.ofNat (min (ns*rate.toNat/10^9) (2^31-1))) (new 1 0 8000 0 0)
    (seqs.map (fun seq => .receive 0 (RtpPacket.new 0 seq 0 2)))

/-- The state after a stream whose full values start at `base` and have
reached `top`. -/
structure Tracks (s : ReceiverState) (base top : ℤ) : Prop where
  initialized : s.initialized = true
  baseSeq : (s.baseSeq.toNat : ℤ) = base
  maxSeq : s.maxSeq.toBitVec = BitVec.ofInt 16 top
  expected : base+s.expectedPackets = top+1

theorem sequenceDiff_eq {m : UInt16} {top : ℤ} (h : m.toBitVec = BitVec.ofInt 16 top)
    (seq : UInt16) : sequenceDiff seq m = place top seq.toBitVec-top := by
  have hdiff : sequenceDiff seq m = (seq.toBitVec-m.toBitVec).toInt := rfl
  rw [hdiff, h, place]
  omega

theorem countSeq_tracks {base top : ℤ} (h : Tracks s base top) (seq : UInt16) :
    Tracks (countSeq seq s) base (max top (place top seq.toBitVec)) := by
  have hdiff := sequenceDiff_eq h.maxSeq seq
  have hexpected := h.expected
  unfold countSeq
  by_cases hnew : 0 < sequenceDiff seq s.maxSeq
  · rw [if_pos hnew, max_eq_right (by omega)]
    refine ⟨h.initialized,h.baseSeq,(ofInt_place top seq.toBitVec).symm,?_⟩
    simp only [Nat.cast_add, Int.toNat_of_nonneg hnew.le]
    omega
  · rw [if_neg hnew, max_eq_left (by omega)]
    exact ⟨h.initialized,h.baseSeq,h.maxSeq,hexpected⟩

theorem receiveAll_tracks {base top : ℤ} (h : Tracks s base top) (ps : List (ℕ × RtpPacket)) :
    Tracks (receiveAll samplesIn clockRate s ps) base
      (highest top (ps.map (fun p => p.2.sequenceNumber.toBitVec))) := by
  induction ps generalizing s top with
  | nil => exact h
  | cons p ps ih =>
    obtain ⟨jitter,hstep⟩ := receive_eq p.1 p.2 h.initialized
    have hcount := countSeq_tracks h p.2.sequenceNumber
    rw [receiveAll, List.foldl_cons, ← receiveAll, List.map_cons, highest]
    apply ih
    rw [hstep]
    exact ⟨hcount.initialized,hcount.baseSeq,hcount.maxSeq,hcount.expected⟩

theorem receive_first (now : ℕ) (packet : RtpPacket) :
    Tracks (receive samplesIn clockRate now packet {})
      packet.sequenceNumber.toNat packet.sequenceNumber.toNat where
  initialized := rfl
  baseSeq := rfl
  maxSeq := by
    change _ = BitVec.ofInt 16 (packet.sequenceNumber.toBitVec.toNat : ℤ)
    rw [BitVec.ofInt_natCast, BitVec.ofNat_toNat, BitVec.setWidth_eq]
    rfl
  expected := rfl

theorem run_tracks {ssrc initialTs : UInt32} {payloadType : UInt8} {initialSeq : UInt16}
    {es : List Event} {first : UInt16} {rest : List UInt16}
    (h : (arrivals es).map (fun p => p.2.sequenceNumber) = first::rest) :
    Tracks (run samplesIn (new ssrc payloadType clockRate initialSeq initialTs) es).receiverState
      first.toNat (highest first.toNat (rest.map UInt16.toBitVec)) := by
  cases hps : arrivals es with
  | nil => rw [hps] at h; cases h
  | cons p ps =>
    rw [hps] at h
    cases h
    rw [run_first hps, List.map_map]
    exact receiveAll_tracks (receive_first p.1 p.2) ps

/-- The wrap count is missing from the reported number. -/
theorem extendedSeq_eq_iff {base top : ℤ} (h : Tracks s base top) (remoteSsrc : UInt32) :
    ((reportBlock remoteSsrc s).extendedSeq.toNat : ℤ) = top % 2^32 ↔ top % 2^32 < 2^16 := by
  have hmax : (s.maxSeq.toNat : ℤ) = top % 2^16 := by
    change (s.maxSeq.toBitVec.toNat : ℤ) = _
    rw [h.maxSeq, BitVec.toNat_ofInt]
    omega
  have hext : (reportBlock remoteSsrc s).extendedSeq.toNat = s.maxSeq.toNat := rfl
  rw [hext, hmax]
  omega

/-- Both reports carry the extended highest sequence number exactly as long
as its wrap count is zero. -/
theorem reported_extended_seq_iff (ssrc initialTs : UInt32) (payloadType : UInt8)
    (initialSeq : UInt16) (es : List Event) (first : UInt16) (rest : List UInt16)
    (h : (arrivals es).map (fun p => p.2.sequenceNumber) = first::rest) :
    let final := run samplesIn (new ssrc payloadType clockRate initialSeq initialTs) es
    let state := final.receiverState
    let top := highest first.toNat (rest.map UInt16.toBitVec)
    (state.baseSeq.toNat+state.expectedPackets-1 : ℤ) = top ∧
      (∀ numbers, Numbered first.toNat (rest.map UInt16.toBitVec) numbers →
        top = numbers.foldl max (first.toNat : ℤ)) ∧
      (∀ remoteSsrc, ∃ block, (createReceiverReport remoteSsrc final).reportBlocks = [block] ∧
        ((block.extendedSeq.toNat : ℤ) = top % 2^32 ↔ top % 2^32 < 2^16)) ∧
      (∀ now, ∃ block, (createSenderReport now final).reportBlocks = [block] ∧
        ((block.extendedSeq.toNat : ℤ) = top % 2^32 ↔ top % 2^32 < 2^16)) := by
  intro final state top
  have htracks : Tracks state first.toNat top := run_tracks h
  have hblocks (remoteSsrc : UInt32) : reportBlocks remoteSsrc state =
      [reportBlock remoteSsrc state] :=
    if_pos htracks.initialized
  refine ⟨?_,fun numbers hn => highest_eq_max (by decide) hn,
    fun remoteSsrc => ⟨_,hblocks remoteSsrc,extendedSeq_eq_iff htracks remoteSsrc⟩,
    fun now => ⟨_,hblocks 0,extendedSeq_eq_iff htracks 0⟩⟩
  have hexpected := htracks.expected
  have hbase := htracks.baseSeq
  omega

theorem reported_extended_seq_before_wrap :
    ∃ block, (createReceiverReport 2 (sampleRun [1,3,2])).reportBlocks = [block] ∧
      (block.extendedSeq.toNat : ℤ) = 3 := by
  obtain ⟨block,hblock,hseq⟩ := (reported_extended_seq_iff 1 0 0 0
    ([1,3,2].map (fun seq => .receive 0 (RtpPacket.new 0 seq 0 2))) 1 [3,2] rfl).2.2.1 2
  exact ⟨block,hblock,hseq.mpr (by decide)⟩

theorem extended_seq_without_wrap_count :
    (sampleRun [65535,0]).receiverState.baseSeq.toNat+
        (sampleRun [65535,0]).receiverState.expectedPackets-1 = 65536 ∧
      (createReceiverReport 2 (sampleRun [65535,0])).reportBlocks.map (·.extendedSeq) = [0] ∧
      (createSenderReport ⟨0,0⟩ (sampleRun [65535,0])).reportBlocks.map (·.extendedSeq) = [0] := by
  decide

/-- The counts after a stream, beside the counts before it: what is lost is
never taken back, and a packet is expected at most once more than it is
received or given up. -/
structure Grows (s t : ReceiverState) : Prop where
  lost : s.packetsLost ≤ t.packetsLost
  received : t.expectedPackets+s.packetsReceived+s.packetsLost ≤
    s.expectedPackets+t.packetsReceived+t.packetsLost

theorem Grows.trans {s t u : ReceiverState} (h : Grows s t) (h' : Grows t u) : Grows s u := by
  obtain ⟨hl,hr⟩ := h
  obtain ⟨hl',hr'⟩ := h'
  constructor <;> omega

theorem receive_grows (now : ℕ) (packet : RtpPacket) (h : s.initialized = true) :
    Grows s (receive samplesIn clockRate now packet s) := by
  obtain ⟨jitter,hstep⟩ := receive_eq now packet h
  rw [hstep]
  by_cases hnew : 0 < sequenceDiff packet.sequenceNumber s.maxSeq
  · rw [countSeq, if_pos hnew]
    constructor <;> dsimp only <;> split_ifs <;> omega
  · rw [countSeq, if_neg hnew]
    constructor <;> dsimp only <;> omega

theorem receive_initialized (now : ℕ) (packet : RtpPacket) (s : ReceiverState) :
    (receive samplesIn clockRate now packet s).initialized = true := by
  cases h : s.initialized with
  | false => rw [receive, h]; rfl
  | true =>
    obtain ⟨jitter,hstep⟩ := receive_eq now packet h
    rw [hstep, countSeq]
    split_ifs <;> exact h

theorem receiveAll_grows (h : s.initialized = true) (ps : List (ℕ × RtpPacket)) :
    Grows s (receiveAll samplesIn clockRate s ps) := by
  induction ps generalizing s with
  | nil => exact ⟨le_refl _,le_refl _⟩
  | cons p ps ih =>
    exact (receive_grows p.1 p.2 h).trans (ih (receive_initialized p.1 p.2 s))

theorem receiveAll_grows_start (ps : List (ℕ × RtpPacket)) :
    Grows {} (receiveAll samplesIn clockRate {} ps) := by
  cases ps with
  | nil => exact ⟨Nat.le_refl 0,Nat.le_refl 0⟩
  | cons p ps =>
    have hfirst : Grows {} (receive samplesIn clockRate p.1 p.2 {}) := ⟨Nat.le_refl 0,Nat.le_refl 1⟩
    exact hfirst.trans (receiveAll_grows (receive_initialized p.1 p.2 {}) ps)

/-- However the packets of a session are lost, doubled or reordered, none is
expected that was neither received nor counted as lost. -/
theorem expected_accounted (ssrc initialTs : UInt32) (payloadType : UInt8) (initialSeq : UInt16)
    (es : List Event) :
    let s := (run samplesIn (new ssrc payloadType clockRate initialSeq initialTs) es).receiverState
    s.expectedPackets ≤ s.packetsReceived+s.packetsLost := by
  have hgrows := (@receiveAll_grows_start samplesIn clockRate (arrivals es)).received
  rw [run_receiverState]
  change _ ≤ 0+_+_ at hgrows
  rwa [Nat.zero_add] at hgrows

def Settled (s t : ReceiverState) : Prop :=
  t.packetsLost = s.packetsLost ∧
    t.packetsReceived+s.expectedPackets = s.packetsReceived+t.expectedPackets

theorem Settled.trans_iff {s t u : ReceiverState} (h : Grows s t) (h' : Grows t u) :
    Settled s u ↔ Settled s t ∧ Settled t u := by
  obtain ⟨hl,hr⟩ := h
  obtain ⟨hl',hr'⟩ := h'
  unfold Settled
  omega

theorem sequenceDiff_eq_one {a b : UInt16} : sequenceDiff a b = 1 ↔ a = b+1 := by
  have hone : sequenceDiff a b = 1 ↔ (a-b).toBitVec.toInt = (1 : UInt16).toBitVec.toInt := Iff.rfl
  rw [hone, BitVec.toInt_inj, UInt16.toBitVec_inj, UInt16.sub_eq_iff_eq_add, UInt16.add_comm]

theorem receive_settled_iff (now : ℕ) (packet : RtpPacket) (h : s.initialized = true) :
    Settled s (receive samplesIn clockRate now packet s) ↔
      packet.sequenceNumber = s.maxSeq+1 := by
  obtain ⟨jitter,hstep⟩ := receive_eq now packet h
  rw [hstep, ← sequenceDiff_eq_one]
  by_cases hnew : 0 < sequenceDiff packet.sequenceNumber s.maxSeq
  · rw [countSeq, if_pos hnew, Settled]
    dsimp only
    split_ifs <;> omega
  · rw [countSeq, if_neg hnew, Settled]
    dsimp only
    omega

theorem receive_maxSeq (now : ℕ) (packet : RtpPacket) (h : s.initialized = true)
    (hnext : packet.sequenceNumber = s.maxSeq+1) :
    (receive samplesIn clockRate now packet s).maxSeq = packet.sequenceNumber := by
  obtain ⟨jitter,hstep⟩ := receive_eq now packet h
  have hone := sequenceDiff_eq_one.mpr hnext
  rw [hstep, countSeq, if_pos (by omega)]

theorem receiveAll_settled_iff (h : s.initialized = true) (ps : List (ℕ × RtpPacket)) :
    Settled s (receiveAll samplesIn clockRate s ps) ↔
      (s.maxSeq::ps.map (fun p => p.2.sequenceNumber)).IsChain (fun a b => b = a+1) := by
  induction ps generalizing s with
  | nil => simp [receiveAll, Settled]
  | cons p ps ih =>
    have hinit : (receive samplesIn clockRate p.1 p.2 s).initialized = true :=
      receive_initialized p.1 p.2 s
    rw [receiveAll, List.foldl_cons, ← receiveAll, List.map_cons, List.isChain_cons_cons,
      Settled.trans_iff (receive_grows p.1 p.2 h) (receiveAll_grows hinit ps),
      receive_settled_iff p.1 p.2 h, ih hinit]
    refine and_congr_right (fun hnext => ?_)
    rw [receive_maxSeq p.1 p.2 h hnext]

/-- The full sequence numbers of a lossless delivery, in arrival order: each
number once, the lowest first, none displaced by half a cycle. -/
structure Delivery (base : ℕ) (order : List ℕ) : Prop where
  all : order.Perm (List.range' base order.length)
  first : order.head? = some base
  near : ∀ i e, order[i]? = some e → e < base+i+2^15 ∧ base+i < e+2^15

theorem isChain_succ_iff (base : ℕ) (order : List ℕ) :
    (UInt16.ofNat base::order.map UInt16.ofNat).IsChain (fun a b => b = a+1) ↔
      order.map UInt16.ofNat = (List.range' (base+1) order.length).map UInt16.ofNat := by
  induction order generalizing base with
  | nil => simp
  | cons e order ih =>
    rw [List.map_cons, List.isChain_cons_cons, List.length_cons, List.range'_succ, List.map_cons,
      List.cons.injEq, UInt16.ofNat_add]
    refine and_congr_right (fun he => ?_)
    have hnext := ih (base+1)
    rw [UInt16.ofNat_add] at hnext
    rw [he]
    exact hnext

theorem map_ofNat_eq_iff (base : ℕ) (order : List ℕ)
    (h : ∀ i e, order[i]? = some e → e < base+i+2^15 ∧ base+i < e+2^15) :
    order.map UInt16.ofNat = (List.range' base order.length).map UInt16.ofNat ↔
      order = List.range' base order.length := by
  induction order generalizing base with
  | nil => simp
  | cons e order ih =>
    have hnear := h 0 e rfl
    have hrest : ∀ i e, order[i]? = some e → e < base+1+i+2^15 ∧ base+1+i < e+2^15 := by
      intro i e he
      have := h (i+1) e he
      omega
    have hhead : UInt16.ofNat e = UInt16.ofNat base ↔ e = base := by
      rw [← UInt16.toNat_inj, UInt16.toNat_ofNat', UInt16.toNat_ofNat']
      omega
    rw [List.length_cons, List.range'_succ, List.map_cons, List.map_cons, List.cons.injEq,
      List.cons.injEq, hhead, ih (base+1) hrest]

/-- A delivery leaves no loss behind exactly when no packet is overtaken. -/
theorem lossless_delivery_iff (ssrc initialTs : UInt32) (payloadType : UInt8) (initialSeq : UInt16)
    (es : List Event) (base : ℕ) (order : List ℕ) (hd : Delivery base order)
    (h : (arrivals es).map (fun p => p.2.sequenceNumber) = order.map UInt16.ofNat) :
    let state := (run samplesIn (new ssrc payloadType clockRate initialSeq initialTs)
      es).receiverState
    (state.packetsLost = 0 ∧ state.packetsReceived = state.expectedPackets) ↔
      order = List.range' base order.length := by
  intro state
  obtain ⟨tail,rfl⟩ : ∃ tail, order = base::tail := ⟨_,List.eq_cons_of_mem_head? hd.first⟩
  cases hps : arrivals es with
  | nil => rw [hps] at h; cases h
  | cons p ps =>
    rw [hps, List.map_cons, List.map_cons, List.cons.injEq] at h
    have hstate : state = receiveAll samplesIn clockRate
        (receive samplesIn clockRate p.1 p.2 {}) ps := run_first hps
    have hsettled : (state.packetsLost = 0 ∧ state.packetsReceived = state.expectedPackets) ↔
        Settled (receive samplesIn clockRate p.1 p.2 {}) state := by
      change _ ↔ state.packetsLost = 0 ∧ state.packetsReceived+1 = 1+state.expectedPackets
      omega
    have hfirst : (receive samplesIn clockRate p.1 p.2 {}).maxSeq = UInt16.ofNat base := h.1
    rw [hsettled, hstate, receiveAll_settled_iff (receive_initialized p.1 p.2 {}), h.2, hfirst,
      isChain_succ_iff, ← map_ofNat_eq_iff base (base::tail) hd.near, List.length_cons,
      List.range'_succ, List.map_cons, List.map_cons, List.cons.injEq, eq_self_iff_true, true_and]

theorem delivery_in_order : Delivery 65534 [65534,65535,65536] where
  all := List.Perm.refl _
  first := rfl
  near := by
    intro i e h
    rcases i with _ | _ | _ | i <;> simp at h <;> omega

theorem lossless_delivery_over_wrap :
    (sampleRun [65534,65535,0]).receiverState.packetsLost = 0 ∧
      (sampleRun [65534,65535,0]).receiverState.packetsReceived =
        (sampleRun [65534,65535,0]).receiverState.expectedPackets :=
  (lossless_delivery_iff 1 0 0 0
    ([65534,65535,0].map (fun seq => .receive 0 (RtpPacket.new 0 seq 0 2)))
    65534 [65534,65535,65536] delivery_in_order rfl).mpr rfl

theorem delivery_swapped : Delivery 1 [1,3,2] where
  all := by decide
  first := rfl
  near := by
    intro i e h
    rcases i with _ | _ | _ | i <;> simp at h <;> omega

theorem overtaken_packet_stays_lost :
    Delivery 1 [1,3,2] ∧ (sampleRun [1,3,2]).receiverState.packetsLost = 1 :=
  ⟨delivery_swapped,by decide⟩

end RsipRtp.RtpSequence
