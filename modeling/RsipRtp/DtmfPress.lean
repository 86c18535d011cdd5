import RsipRtp.Dtmf
import RsipRtp.WordOrder

/-!
# The packets of one key press

The loop over the intervals and the repetitions of the end packet send one
list of events after the other.
-/

namespace RsipRtp.DtmfPress
open SipText BigEndian Dtmf WordOrder

def packetsOf (timestamp : UInt32) : Bool → DtmfSender → List DtmfEvent → List Bytes
  | _, _, [] => []
  | first, s, e::es => buildRtpPacket e timestamp first s::packetsOf timestamp false (advance s) es

/-- The event of the `k`-th interval. -/
def held (digit : DtmfDigit) (samplesPerPacket : UInt32) (k : ℕ) : DtmfEvent :=
  .new digit (min (UInt32.ofNat k*samplesPerPacket) 0xFFFF).toUInt16

def pressEvents (digit : DtmfDigit) (samplesPerPacket : UInt32) (m n : ℕ) : List DtmfEvent :=
  (List.range' (m+1) n).map (held digit samplesPerPacket) ++
    List.replicate 3 (held digit samplesPerPacket (m+n+1)).withEnd

theorem ofNat_beq_zero {m : ℕ} (h : m < 2^32) : (UInt32.ofNat m == 0) = (m == 0) := by
  rw [Bool.eq_iff_iff, beq_iff_eq, beq_iff_eq, ← UInt32.toNat_inj, UInt32.toNat_ofNat_of_lt' h]
  rfl

theorem sendFrom_packets (digit : DtmfDigit) (timestamp samplesPerPacket packetCount : UInt32)
    (n m : ℕ) (s : DtmfSender) (h : m+(n+1) = packetCount.toNat) :
    (sendFrom digit timestamp samplesPerPacket packetCount (n+1) (.ofNat m) s).2 =
      packetsOf timestamp (m == 0) s (pressEvents digit samplesPerPacket m n) := by
  have hcount := packetCount.toNat_lt
  have hpred : (packetCount-1).toNat = packetCount.toNat-1 :=
    UInt32.toNat_sub_of_le packetCount 1 (UInt32.le_iff_toNat_le.mpr (by simp; omega))
  have hlast (k : ℕ) (hk : k < 2^32) : UInt32.ofNat k = packetCount-1 ↔
      k = packetCount.toNat-1 := by
    rw [← UInt32.toNat_inj, UInt32.toNat_ofNat_of_lt' hk, hpred]
  have hsucc (k : ℕ) : UInt32.ofNat (k+1) = UInt32.ofNat k+1 := UInt32.ofNat_add k 1
  induction n generalizing m s with
  | zero =>
    rw [sendFrom, if_pos ((hlast m (by omega)).mpr (by omega)), ofNat_beq_zero (by omega),
      pressEvents, held, hsucc]
    rfl
  | succ n ih =>
    have hnext := ih (m+1) (advance s) (by omega)
    rw [hsucc, pressEvents, Nat.add_right_comm m 1 n] at hnext
    rw [sendFrom, if_neg (mt (hlast m (by omega)).mp (by omega)), ofNat_beq_zero (by omega)]
    dsimp only
    have hheld : held digit samplesPerPacket (m+1) =
        .new digit (min ((.ofNat m+1)*samplesPerPacket) 0xFFFF).toUInt16 := by
      rw [held, hsucc]
    rw [hnext, pressEvents, List.range'_succ, List.map_cons, hheld]
    rfl

/-- What a press of `durationMs` is in samples, and how many intervals of 50 ms are sent. -/
def totalSamples (durationMs sampleRate : UInt32) : ℕ := (durationMs*sampleRate).toNat/1000

def intervals (durationMs sampleRate : UInt32) : ℕ :=
  max (totalSamples durationMs sampleRate/(sampleRate.toNat/20)) 1

theorem generatePackets_packets {digit : DtmfDigit} {durationMs timestamp : UInt32}
    {s t : DtmfSender} {packets : List Bytes}
    (h : generatePackets digit durationMs timestamp s = some (t,packets)) :
    ∃ n, n+1 = intervals durationMs s.sampleRate ∧
      packets = packetsOf timestamp true s (pressEvents digit (s.sampleRate/20) 0 n) := by
  unfold generatePackets at h
  dsimp only at h
  split_ifs at h with hempty
  have hcount : (max (durationMs*s.sampleRate/1000/(s.sampleRate/20)) 1).toNat =
      intervals durationMs s.sampleRate := by
    rw [toNat_max32, UInt32.toNat_div, UInt32.toNat_div, UInt32.toNat_div]
    rfl
  obtain ⟨n,hn⟩ : ∃ n, intervals durationMs s.sampleRate = n+1 :=
    Nat.exists_eq_add_one.mpr (Nat.lt_of_lt_of_le Nat.one_pos (le_max_right _ _))
  rw [hcount, hn] at h
  have hpackets : _ = packets := congrArg Prod.snd (Option.some.inj h)
  refine ⟨n,hn.symm,?_⟩
  rw [← hpackets]
  exact sendFrom_packets _ _ _ _ n 0 s (by rw [hcount, hn, Nat.zero_add])

theorem generatePackets_returns (digit : DtmfDigit) (durationMs timestamp : UInt32)
    (s : DtmfSender) :
    (∃ t packets, generatePackets digit durationMs timestamp s = some (t,packets)) ↔
      20 ≤ s.sampleRate.toNat := by
  have hempty : s.sampleRate/20 = 0 ↔ s.sampleRate.toNat < 20 := by
    rw [← UInt32.toNat_inj, UInt32.toNat_div]
    exact Nat.div_eq_zero_iff_lt (by decide)
  unfold generatePackets
  dsimp only
  split_ifs with hrate
  · simpa using hempty.mp hrate
  · exact iff_of_true ⟨_,_,rfl⟩ (not_lt.mp (mt hempty.mpr hrate))

theorem fromEventCode_eventCode (digit : DtmfDigit) :
    DtmfDigit.fromEventCode digit.eventCode = some digit := by
  cases digit <;> rfl

theorem endBit_bits (isEnd : Bool) (n : Fin 256) :
    (((if isEnd then 0x80 else 0x00) ||| (UInt8.ofNat n &&& 0x3F)) &&& 0x80 != 0) = isEnd ∧
      ((if isEnd then 0x80 else 0x00) ||| (UInt8.ofNat n &&& 0x3F)) &&& 0x3F =
        UInt8.ofNat n &&& 0x3F := by
  revert isEnd n
  decide +kernel

theorem event_read (e : DtmfEvent) :
    DtmfEvent.decode e.encode = some {e with volume := e.volume &&& 0x3F} := by
  obtain ⟨hend,hvolume⟩ := endBit_bits e.isEnd ⟨e.volume.toNat,e.volume.toNat_lt⟩
  rw [UInt8.ofNat_toNat] at hend hvolume
  obtain ⟨b1,b0,hput,hget⟩ := putU16_read e.duration
  obtain ⟨h1,hrest⟩ := List.cons.inj ((putU16_bytes e.duration).trans hput)
  have h0 := (List.cons.inj hrest).1
  rw [DtmfEvent.encode, DtmfEvent.decode, fromEventCode_eventCode, hend, hvolume, h1, h0, hget]
  rfl

structure Fields where
  marker : Bool
  payloadType : UInt8
  sequence : UInt16
  timestamp : UInt32
  ssrc : UInt32
  event : DtmfEvent

def fields : Bytes → Option Fields
  | _::b1::b2::b3::b4::b5::b6::b7::b8::b9::b10::b11::payload => (DtmfEvent.decode payload).map
      (⟨b1 &&& 0x80 != 0,b1 &&& 0x7F,getU16 b2 b3,getU32 b4 b5 b6 b7,getU32 b8 b9 b10 b11,·⟩)
  | _ => none

theorem marker_bits (marker : Bool) (n : Fin 256) :
    (((if marker then 0x80 else 0x00) ||| UInt8.ofNat n) &&& 0x80 != 0) =
        (marker || UInt8.ofNat n &&& 0x80 != 0) ∧
      ((if marker then 0x80 else 0x00) ||| UInt8.ofNat n) &&& 0x7F = UInt8.ofNat n &&& 0x7F := by
  revert marker n
  decide +kernel

theorem low_bits {pt : UInt8} (h : pt &&& 0x80 = 0) : pt &&& 0x7F = pt := by
  have hall : ∀ n : Fin 256, UInt8.ofNat n &&& 0x80 = 0 → UInt8.ofNat n &&& 0x7F =
      UInt8.ofNat n := by
    decide +kernel
  have hpt := hall ⟨pt.toNat,pt.toNat_lt⟩
  rw [UInt8.ofNat_toNat] at hpt
  exact hpt h

theorem fields_build (e : DtmfEvent) (timestamp : UInt32) (marker : Bool) (s : DtmfSender) :
    fields (buildRtpPacket e timestamp marker s) = some ⟨marker || s.payloadType &&& 0x80 != 0,
      s.payloadType &&& 0x7F,s.sequence,timestamp,s.ssrc,{e with volume := e.volume &&& 0x3F}⟩ := by
  obtain ⟨hmarker,htype⟩ := marker_bits marker ⟨s.payloadType.toNat,s.payloadType.toNat_lt⟩
  rw [UInt8.ofNat_toNat] at hmarker htype
  obtain ⟨b1,b0,hseq,hsequence⟩ := putU16_read s.sequence
  obtain ⟨t3,t2,t1,t0,hts,htimestamp⟩ := putU32_read timestamp
  obtain ⟨r3,r2,r1,r0,hssrc,hsource⟩ := putU32_read s.ssrc
  rw [buildRtpPacket, hseq, hts, hssrc]
  change (DtmfEvent.decode e.encode).map _ = _
  rw [event_read, hmarker, htype, hsequence, htimestamp, hsource]
  rfl

/-- Events in packets one after the other, of which the first may have the
marker; `high` is the top bit of the payload type, which lies in its place. -/
def sent (high : Bool) (payloadType : UInt8) (ssrc timestamp : UInt32) :
    Bool → UInt16 → List DtmfEvent → List Fields
  | _, _, [] => []
  | first, q, e::es => ⟨first || high,payloadType,q,timestamp,ssrc,e⟩::
      sent high payloadType ssrc timestamp false (q+1) es

theorem packetsOf_fields {timestamp : UInt32} {es : List DtmfEvent} (h : ∀ e ∈ es, e.volume = 10)
    (first : Bool) (s : DtmfSender) : (packetsOf timestamp first s es).map fields =
      (sent (s.payloadType &&& 0x80 != 0) (s.payloadType &&& 0x7F) s.ssrc timestamp first s.sequence
        es).map some := by
  induction es generalizing first s with
  | nil => rfl
  | cons e es ih =>
    have hvolume : {e with volume := e.volume &&& 0x3F} = e := by
      rw [show e.volume &&& 0x3F = e.volume by rw [h e List.mem_cons_self]; rfl]
    rw [packetsOf, sent, List.map_cons, List.map_cons, fields_build, hvolume,
      ih (fun x hx => h x (List.mem_cons_of_mem e hx)) false (advance s)]
    rfl

theorem sent_event (high : Bool) (pt : UInt8) (ssrc timestamp : UInt32) (first : Bool) (q : UInt16)
    (es : List DtmfEvent) : (sent high pt ssrc timestamp first q es).map Fields.event = es := by
  induction es generalizing first q with
  | nil => rfl
  | cons e es ih => rw [sent, List.map_cons, ih]

theorem sent_marker {high first : Bool} {pt pt' : UInt8} {ssrc timestamp : UInt32} {q : UInt16}
    {es : List DtmfEvent} (hlen : 2 ≤ es.length)
    (h : sent high pt ssrc timestamp first q es = sent false pt' ssrc timestamp first q es) :
    high = false := by
  match es, hlen with
  | e::f::es, _ =>
    simp only [sent, List.cons.injEq, Fields.mk.injEq, Bool.false_or] at h
    exact h.2.1.1

def NoOverflow (durationMs sampleRate : UInt32) : Prop :=
  durationMs.toNat*sampleRate.toNat < 2^32 ∧
  ∀ i < intervals durationMs sampleRate, (i+1)*(sampleRate.toNat/20) < 2^32

/-- The packets of a press of the right length: with the sender's payload type
and SSRC, numbered one after the other, the marker on the first, the end bit on
the last three. -/
def Pressed (digit : DtmfDigit) (durationMs timestamp : UInt32) (s : DtmfSender)
    (packets : List Bytes) : Prop :=
  ∃ early last, packets.map fields =
      (sent false s.payloadType s.ssrc timestamp true s.sequence
        (early++List.replicate 3 last)).map some ∧
    (∀ e ∈ early, e.isEnd = false) ∧ last.isEnd = true ∧ (∀ e ∈ early++[last], e.digit = digit) ∧
    (early++[last]).Pairwise (·.duration ≤ ·.duration) ∧
    last.duration.toNat = min (durationMs.toNat*s.sampleRate.toNat/1000) 65535

/-- The press is as many whole intervals, or what is sent of it is too long to
be counted. -/
def Measured (total interval : ℕ) : Prop :=
  interval ∣ total ∧ 0 < total ∨ 65535 ≤ total ∧ 65535 ≤ max (total/interval) 1*interval

theorem measured_iff {total interval : ℕ} (h : 0 < interval) :
    min (max (total/interval) 1*interval) 65535 = min total 65535 ↔ Measured total interval := by
  have hwhole : max (total/interval) 1*interval = total ↔ interval ∣ total ∧ 0 < total := by
    constructor
    · intro heq
      have hpos : 0 < max (total/interval) 1*interval :=
        Nat.mul_pos (Nat.lt_of_lt_of_le Nat.one_pos (le_max_right _ _)) h
      exact ⟨Dvd.intro_left _ heq,by omega⟩
    · rintro ⟨hdvd,hpos⟩
      rw [max_eq_left (Nat.div_pos (Nat.le_of_dvd hpos hdvd) h), Nat.div_mul_cancel hdvd]
  rw [Measured, ← hwhole]
  omega

theorem held_duration {digit : DtmfDigit} {samplesPerPacket : UInt32} {k : ℕ}
    (h : k*samplesPerPacket.toNat < 2^32) (hpos : 0 < samplesPerPacket.toNat) :
    (held digit samplesPerPacket k).duration.toNat = min (k*samplesPerPacket.toNat) 65535 := by
  have hk : k < 2^32 := (Nat.le_mul_of_pos_right k hpos).trans_lt h
  have hprod : (UInt32.ofNat k*samplesPerPacket).toNat = k*samplesPerPacket.toNat := by
    rw [UInt32.toNat_mul, UInt32.toNat_ofNat_of_lt' hk, Nat.mod_eq_of_lt h]
  change (min _ (0xFFFF : UInt32)).toUInt16.toNat = _
  rw [UInt32.toNat_toUInt16, toNat_min32, hprod]
  exact Nat.mod_eq_of_lt ((min_le_right _ _).trans_lt (by decide))

section
variable {digit : DtmfDigit} {durationMs timestamp : UInt32} {s t : DtmfSender}
  {packets : List Bytes}

theorem interval_toNat (sampleRate : UInt32) : (sampleRate/20).toNat = sampleRate.toNat/20 :=
  UInt32.toNat_div sampleRate 20

theorem noOverflow (hprod : durationMs.toNat*s.sampleRate.toNat < 2^32) :
    NoOverflow durationMs s.sampleRate := by
  refine ⟨hprod,fun i hi => ?_⟩
  have hlt := (durationMs*s.sampleRate).toNat_lt
  have hrate' := s.sampleRate.toNat_lt
  have hdiv := Nat.div_mul_le_self (totalSamples durationMs s.sampleRate) (s.sampleRate.toNat/20)
  refine (Nat.mul_le_mul_right _ (Nat.succ_le_of_lt hi)).trans_lt ?_
  rw [intervals, max_mul_of_nonneg _ _ (Nat.zero_le _), Nat.one_mul]
  unfold totalSamples at hdiv ⊢
  omega

/-- The events of a press, in the packets they are sent in. -/
theorem packets_events (hsend : generatePackets digit durationMs timestamp s = some (t,packets)) :
    ∃ n, n+1 = intervals durationMs s.sampleRate ∧
      packets.map fields = (sent (s.payloadType &&& 0x80 != 0) (s.payloadType &&& 0x7F) s.ssrc
        timestamp true s.sequence (pressEvents digit (s.sampleRate/20) 0 n)).map some := by
  obtain ⟨n,hn,rfl⟩ := generatePackets_packets hsend
  refine ⟨n,hn,packetsOf_fields (fun e he => ?_) true s⟩
  rcases List.mem_append.mp he with he | he
  · obtain ⟨k,_,rfl⟩ := List.mem_map.mp he
    rfl
  · rw [List.eq_of_mem_replicate he]
    rfl

/-- The last event lasts as many whole intervals as there are in the press. -/
theorem last_duration (hrate : 20 ≤ s.sampleRate.toNat)
    (hprod : durationMs.toNat*s.sampleRate.toNat < 2^32) :
    (held digit (s.sampleRate/20) (intervals durationMs s.sampleRate)).duration.toNat =
        min (durationMs.toNat*s.sampleRate.toNat/1000) 65535 ↔
      Measured (durationMs.toNat*s.sampleRate.toNat/1000) (s.sampleRate.toNat/20) := by
  have hpos : 0 < s.sampleRate.toNat/20 := Nat.div_pos hrate (by decide)
  have htotal : totalSamples durationMs s.sampleRate =
      durationMs.toNat*s.sampleRate.toNat/1000 := by
    rw [totalSamples, UInt32.toNat_mul, Nat.mod_eq_of_lt hprod]
  obtain ⟨n,hn⟩ : ∃ n, intervals durationMs s.sampleRate = n+1 :=
    Nat.exists_eq_add_one.mpr (Nat.lt_of_lt_of_le Nat.one_pos (le_max_right _ _))
  have hlast := (noOverflow hprod).2 n (by omega)
  rw [← hn] at hlast
  rw [held_duration (by rwa [interval_toNat]) (by rwa [interval_toNat]), interval_toNat,
    ← measured_iff hpos, intervals, htotal]

theorem durations_ordered {n : ℕ} (hpos : 0 < (s.sampleRate/20).toNat)
    (hfit : (n+1)*(s.sampleRate/20).toNat < 2^32) :
    ((List.range' 1 n).map (held digit (s.sampleRate/20)) ++
      [(held digit (s.sampleRate/20) (n+1)).withEnd]).Pairwise (·.duration ≤ ·.duration) := by
  have hdur : ∀ k ≤ n+1, (held digit (s.sampleRate/20) k).duration.toNat =
      min (k*(s.sampleRate/20).toNat) 65535 := fun k hk =>
    held_duration ((Nat.mul_le_mul_right _ hk).trans_lt hfit) hpos
  have hle : ∀ {j k : ℕ}, j ≤ k → k ≤ n+1 → (held digit (s.sampleRate/20) j).duration ≤
      (held digit (s.sampleRate/20) k).duration := by
    intro j k hjk hk
    have hmul := Nat.mul_le_mul_right (s.sampleRate/20).toNat hjk
    rw [UInt16.le_iff_toNat_le, hdur j (hjk.trans hk), hdur k hk]
    omega
  have hsorted : (List.range' 1 n).Pairwise (· < ·) := List.pairwise_lt_range'
  rw [List.pairwise_append, List.pairwise_map]
  refine ⟨hsorted.imp_of_mem fun _ hk hjk => hle hjk.le ?_,List.pairwise_singleton _ _,?_⟩
  · have hk' := List.mem_range'_1.mp hk
    omega
  · intro a ha b hb
    obtain ⟨k,hk,rfl⟩ := List.mem_map.mp ha
    rw [List.mem_singleton.mp hb]
    have hk' := List.mem_range'_1.mp hk
    exact hle (by omega) le_rfl

end

/-- The packets of a press are those of an event of its length, with nothing
lost on the way, exactly if the rate gives a sample in 50 ms, the length fits
32 bits and is a whole number of intervals or beyond what is counted. -/
theorem press_sent_iff (digit : DtmfDigit) (durationMs timestamp : UInt32) (s : DtmfSender) :
    (NoOverflow durationMs s.sampleRate ∧ ∃ t packets,
        generatePackets digit durationMs timestamp s = some (t,packets) ∧
        Pressed digit durationMs timestamp s packets) ↔
      s.payloadType &&& 0x80 = 0 ∧ 20 ≤ s.sampleRate.toNat ∧
      durationMs.toNat*s.sampleRate.toNat < 2^32 ∧
      Measured (durationMs.toNat*s.sampleRate.toNat/1000) (s.sampleRate.toNat/20) := by
  constructor
  · rintro ⟨⟨hprod,_⟩,t,packets,hsend,early,last,hsent,_,_,_,_,hlast⟩
    have hrate := (generatePackets_returns digit durationMs timestamp s).mp ⟨t,packets,hsend⟩
    obtain ⟨n,hn,hpackets⟩ := packets_events hsend
    have hfields := List.map_injective_iff.mpr (Option.some_injective _) (hpackets.symm.trans hsent)
    have hevents := congrArg (List.map Fields.event) hfields
    rw [sent_event, sent_event] at hevents
    refine ⟨?_,hrate,hprod,(@last_duration digit _ _ hrate hprod).mp ?_⟩
    · -- the second packet has no marker
      rw [hevents] at hfields
      simpa using sent_marker (by simp) hfields
    · have heq : (held digit (s.sampleRate/20) (n+1)).withEnd = last := by
        simpa [pressEvents, List.replicate] using congrArg List.getLast? hevents
      rw [← hn, ← hlast, ← heq]
      rfl
  · rintro ⟨hpt,hrate,hprod,hmeasured⟩
    obtain ⟨t,packets,hsend⟩ := (generatePackets_returns digit durationMs timestamp s).mpr hrate
    obtain ⟨n,hn,hpackets⟩ := packets_events hsend
    have hover := noOverflow hprod
    have hpos : 0 < s.sampleRate.toNat/20 := Nat.div_pos hrate (by decide)
    rw [hpt, low_bits hpt] at hpackets
    refine ⟨hover,t,packets,hsend,_,_,hpackets,?_,rfl,?_,?_,?_⟩
    · intro e he
      obtain ⟨k,_,rfl⟩ := List.mem_map.mp he
      rfl
    · intro e he
      rcases List.mem_append.mp he with he | he
      · obtain ⟨k,_,rfl⟩ := List.mem_map.mp he
        rfl
      · rw [List.mem_singleton.mp he]
        rfl
    · simp only [Nat.zero_add]
      refine durations_ordered (by rwa [interval_toNat]) ?_
      rw [interval_toNat]
      exact hover.2 n (by omega)
    · rw [← (@last_duration digit _ _ hrate hprod).mpr hmeasured, ← hn, Nat.zero_add]
      rfl

/-- At 16 Hz there is no sample in 50 ms, and the division fails. -/
theorem slow_rate_not_sent : ¬∃ t packets,
    generatePackets .five 200 0 {DtmfSender.new 101 1 7 with sampleRate := 16} =
      some (t,packets) := by
  rintro ⟨t,packets,h⟩
  cases h

end RsipRtp.DtmfPress
