import RsipRtp.DtmfPress
import Mathlib.Data.List.Chain

/-!
# Dialled digits at the receiver

A packet tells the receiver a digit and whether the key is up again. What the
receiver reports depends on these signals and on the digit it remembers.
-/

namespace RsipRtp.DtmfDelivery
open SipText Dtmf DtmfPress

variable {s t : DtmfSender}

variable {packets : List Bytes}

structure Press where
  digit : DtmfDigit
  durationMs : UInt32
  timestamp : UInt32

def sendAll : DtmfSender → List Press → Option (DtmfSender × List Bytes)
  | s, [] => some (s,[])
  | s, p::ps => do
    let (t,packets) ← generatePackets p.digit p.durationMs p.timestamp s
    let (u,rest) ← sendAll t ps
    return (u,packets++rest)

def receiveAll (payloadType : UInt8) : DtmfReceiver → List Bytes → DtmfReceiver × List DtmfDigit
  | r, [] => (r,[])
  | r, packet::packets =>
    let (s,digit) := processPacket payloadType (packet.drop 12) r
    let (t,digits) := receiveAll payloadType s packets
    (t,digit.toList++digits)

abbrev Signal := DtmfDigit × Bool

def signal (packet : Bytes) : Option Signal :=
  (DtmfEvent.decode (packet.drop 12)).map (fun e => (e.digit,e.isEnd))

theorem signal_build (e : DtmfEvent) (timestamp : UInt32) (marker : Bool) (s : DtmfSender) :
    signal (buildRtpPacket e timestamp marker s) = some (e.digit,e.isEnd) := by
  have hpayload : (buildRtpPacket e timestamp marker s).drop 12 = e.encode := rfl
  rw [signal, hpayload, event_read]
  rfl

theorem packetsOf_signals (timestamp : UInt32) (first : Bool) (s : DtmfSender)
    (es : List DtmfEvent) : (packetsOf timestamp first s es).map signal =
      es.map fun e => some (e.digit,e.isEnd) := by
  induction es generalizing first s with
  | nil => rfl
  | cons e es ih => rw [packetsOf, List.map_cons, List.map_cons, signal_build, ih]

/-- The signals of a press of `n+1` intervals. -/
def pressSignals (digit : DtmfDigit) (n : ℕ) : List Signal :=
  List.replicate n (digit,false)++List.replicate 3 (digit,true)

def Long (sampleRate durationMs : UInt32) : Prop :=
  2*(sampleRate.toNat/20) ≤ (durationMs*sampleRate).toNat/1000

instance (sampleRate durationMs : UInt32) : Decidable (Long sampleRate durationMs) :=
  inferInstanceAs (Decidable (_ ≤ _))

theorem repeatEnd_sampleRate (e : DtmfEvent) (timestamp : UInt32) (n : ℕ) (s : DtmfSender) :
    (repeatEnd e timestamp n s).1.sampleRate = s.sampleRate := by
  induction n generalizing s with
  | zero => rfl
  | succ n ih => rw [repeatEnd]; exact ih (advance s)

theorem sendFrom_sampleRate (digit : DtmfDigit)
    (timestamp samplesPerPacket packetCount : UInt32) (n : ℕ) (i : UInt32) (s : DtmfSender) :
    (sendFrom digit timestamp samplesPerPacket packetCount n i s).1.sampleRate =
      s.sampleRate := by
  induction n generalizing i s with
  | zero => rfl
  | succ n ih =>
    rw [sendFrom]
    by_cases hlast : i = packetCount-1
    · simp only [if_pos hlast, ih, advance, repeatEnd_sampleRate]
    · simp only [if_neg hlast, ih, advance]

theorem generatePackets_signals {digit : DtmfDigit} {durationMs timestamp : UInt32}
    (h : generatePackets digit durationMs timestamp s = some (t,packets)) :
    t.sampleRate = s.sampleRate ∧ ∃ n, packets.map signal = (pressSignals digit n).map some ∧
      (n = 0 ↔ ¬Long s.sampleRate durationMs) := by
  obtain ⟨n,hn,hpackets⟩ := generatePackets_packets h
  unfold generatePackets at h
  dsimp only at h
  split_ifs at h with hempty
  have ht : _ = t := congrArg Prod.fst (Option.some.inj h)
  refine ⟨?_,n,?_,?_⟩
  · rw [← ht, sendFrom_sampleRate]
  · rw [hpackets, packetsOf_signals, pressEvents, pressSignals, List.map_append, List.map_append,
      List.map_map, List.map_replicate, List.map_replicate, List.map_replicate]
    congr 1
    refine List.eq_replicate_iff.mpr ⟨by simp,fun b hb => ?_⟩
    obtain ⟨k,_,rfl⟩ := List.mem_map.mp hb
    rfl
  · have hpos : 0 < s.sampleRate.toNat/20 := by
      rw [← interval_toNat, Nat.pos_iff_ne_zero]
      exact fun hz => hempty (UInt32.toNat_inj.mp hz)
    have hlong : Long s.sampleRate durationMs ↔
        2 ≤ totalSamples durationMs s.sampleRate/(s.sampleRate.toNat/20) :=
      (Nat.le_div_iff_mul_le hpos).symm
    rw [hlong]
    unfold intervals at hn
    omega

theorem sendAll_returns (s : DtmfSender) (ps : List Press) :
    (∃ t packets, sendAll s ps = some (t,packets)) ↔ ps = [] ∨ 20 ≤ s.sampleRate.toNat := by
  induction ps generalizing s with
  | nil => exact iff_of_true ⟨s,[],rfl⟩ (.inl rfl)
  | cons p ps ih =>
    rw [or_iff_right (List.cons_ne_nil p ps)]
    constructor
    · rintro ⟨t,packets,h⟩
      obtain ⟨⟨u,front⟩,hpress,_⟩ := Option.bind_eq_some_iff.mp h
      exact (generatePackets_returns p.digit p.durationMs p.timestamp s).mp ⟨u,front,hpress⟩
    · intro hrate
      obtain ⟨u,front,hpress⟩ :=
        (generatePackets_returns p.digit p.durationMs p.timestamp s).mpr hrate
      have hkept := (generatePackets_signals hpress).1
      obtain ⟨t,rest,hrest⟩ := (ih u).mpr (.inr (hkept ▸ hrate))
      exact ⟨t,front++rest,by simp [sendAll, hpress, hrest]⟩

def hear (last : Option DtmfDigit) (x : Signal) : Option DtmfDigit × List DtmfDigit :=
  if x.2 then if last ≠ some x.1 then (some x.1,[x.1]) else (last,[]) else (none,[])

def hearAll : Option DtmfDigit → List Signal → Option DtmfDigit × List DtmfDigit
  | last, [] => (last,[])
  | last, x::xs =>
    let heard := hearAll (hear last x).1 xs
    (heard.1,(hear last x).2++heard.2)

theorem hearAll_append (last : Option DtmfDigit) (xs ys : List Signal) :
    hearAll last (xs++ys) = ((hearAll (hearAll last xs).1 ys).1,
      (hearAll last xs).2++(hearAll (hearAll last xs).1 ys).2) := by
  induction xs generalizing last with
  | nil => rfl
  | cons x xs ih => simp only [List.cons_append, hearAll, ih, List.append_assoc]

theorem hearAll_held (digit : DtmfDigit) (n : ℕ) (last : Option DtmfDigit) :
    hearAll last (List.replicate (n+1) (digit,false)) = (none,[]) := by
  induction n generalizing last with
  | zero => rfl
  | succ n ih =>
    rw [List.replicate_succ, hearAll, ih]
    rfl

theorem hearAll_up (digit : DtmfDigit) (last : Option DtmfDigit) :
    hearAll last (List.replicate 3 (digit,true)) =
      (some digit,if last = some digit then [] else [digit]) := by
  by_cases h : last = some digit <;> simp [hearAll, hear, h, List.replicate]

theorem hearAll_press (digit : DtmfDigit) (n : ℕ) (last : Option DtmfDigit) :
    hearAll last (pressSignals digit n) =
      (some digit,if n = 0 ∧ last = some digit then [] else [digit]) := by
  rw [pressSignals, hearAll_append, hearAll_up]
  cases n with
  | zero => simp [hearAll]
  | succ n => simp [hearAll_held]

theorem processPacket_signal {r : DtmfReceiver} {packet : Bytes} {x : Signal}
    (h : signal packet = some x) :
    let out := processPacket r.payloadType (packet.drop 12) r
    out.1.payloadType = r.payloadType ∧ out.1.lastEvent = (hear r.lastEvent x).1 ∧
      out.2.toList = (hear r.lastEvent x).2 := by
  obtain ⟨e,he,rfl⟩ := Option.map_eq_some_iff.mp h
  rw [processPacket, if_neg (not_not.mpr rfl), he]
  unfold hear
  dsimp only
  split_ifs <;> simp

theorem receiveAll_signals {r : DtmfReceiver} {xs : List Signal}
    (h : packets.map signal = xs.map some) :
    (receiveAll r.payloadType r packets).2 = (hearAll r.lastEvent xs).2 := by
  induction packets generalizing r xs with
  | nil => rw [List.map_eq_nil_iff.mp h.symm]; rfl
  | cons packet packets ih =>
    cases xs with
    | nil => cases h
    | cons x xs =>
      obtain ⟨hx,hxs⟩ := List.cons.inj h
      obtain ⟨htype,hlast,hout⟩ := processPacket_signal (r := r) hx
      have hrest := ih (r := (processPacket r.payloadType (packet.drop 12) r).1) hxs
      rw [htype, hlast] at hrest
      rw [receiveAll, hearAll]
      simp only [hrest, hout]

def heard (sampleRate : UInt32) : Option DtmfDigit → List Press → List DtmfDigit
  | _, [] => []
  | last, p::ps =>
    (if ¬Long sampleRate p.durationMs ∧ last = some p.digit then [] else [p.digit]) ++
      heard sampleRate (some p.digit) ps

theorem sendAll_heard {ps : List Press}
    (h : sendAll s ps = some (t,packets)) : ∃ xs, packets.map signal = xs.map some ∧
      ∀ last, (hearAll last xs).2 = heard s.sampleRate last ps := by
  induction ps generalizing s packets with
  | nil =>
    cases h
    exact ⟨[],rfl,fun _ => rfl⟩
  | cons p ps ih =>
    simp only [sendAll, Option.bind_eq_bind, Option.bind_eq_some_iff, Prod.exists] at h
    obtain ⟨u,front,hpress,v,rest,hrest,hpackets⟩ := h
    cases hpackets
    obtain ⟨hrate,n,hfront,hn⟩ := generatePackets_signals hpress
    obtain ⟨xs,hxs,hheard⟩ := ih hrest
    refine ⟨pressSignals p.digit n++xs,by rw [List.map_append, hfront, hxs, List.map_append],?_⟩
    intro last
    rw [hearAll_append, hearAll_press, hheard, hrate, heard]
    simp only [hn]

theorem heard_length_le (sampleRate : UInt32) (last : Option DtmfDigit) (ps : List Press) :
    (heard sampleRate last ps).length ≤ ps.length := by
  induction ps generalizing last with
  | nil => exact le_refl _
  | cons p ps ih =>
    have hrest := ih (some p.digit)
    rw [heard, List.length_append, List.length_cons]
    split_ifs <;> simp only [List.length_cons, List.length_nil] <;> omega

theorem heard_eq_iff (sampleRate : UInt32) (last : Option DtmfDigit) (ps : List Press) :
    heard sampleRate last ps = ps.map Press.digit ↔
      (∀ p ∈ ps.head?, last = some p.digit → Long sampleRate p.durationMs) ∧
        ps.IsChain (fun p q => p.digit = q.digit → Long sampleRate q.durationMs) := by
  induction ps generalizing last with
  | nil => simp [heard]
  | cons p ps ih =>
    have hrest := heard_length_le sampleRate (some p.digit) ps
    have hchain : (p::ps).IsChain (fun p q => p.digit = q.digit → Long sampleRate q.durationMs) ↔
        (∀ q ∈ ps.head?, some p.digit = some q.digit → Long sampleRate q.durationMs) ∧
          ps.IsChain (fun p q => p.digit = q.digit → Long sampleRate q.durationMs) := by
      simp only [List.isChain_cons, Option.some.injEq]
    rw [hchain, ← ih (some p.digit), heard, List.map_cons]
    -- a swallowed press leaves too few digits
    by_cases hlost : ¬Long sampleRate p.durationMs ∧ last = some p.digit
    · rw [if_pos hlost, List.nil_append]
      refine iff_of_false (fun heq => ?_) (fun hall => hlost.1 (hall.1 p rfl hlost.2))
      have hlength := congrArg List.length heq
      rw [List.length_cons, List.length_map] at hlength
      omega
    · rw [if_neg hlost, List.singleton_append, List.cons.injEq]
      refine and_congr (iff_of_true rfl ?_) Iff.rfl
      rintro q ⟨⟩ hlast
      exact not_not.mp (fun hshort => hlost ⟨hshort,hlast⟩)

theorem received_iff {ps : List Press}
    (h : sendAll s ps = some (t,packets)) :
    (receiveAll s.payloadType (DtmfReceiver.new s.payloadType) packets).2 = ps.map Press.digit ↔
      ps.IsChain (fun p q => p.digit = q.digit → Long s.sampleRate q.durationMs) := by
  obtain ⟨xs,hxs,hheard⟩ := sendAll_heard h
  have hreceived := receiveAll_signals (r := DtmfReceiver.new s.payloadType) hxs
  rw [hheard] at hreceived
  change (receiveAll s.payloadType _ packets).2 = _ at hreceived
  rw [hreceived, heard_eq_iff]
  exact and_iff_right (fun _ _ hnone => by cases hnone)

/-- A list of digits is sent at a sample rate with a non-empty interval, and
comes through unless a press repeats the digit before it and is shorter than
two intervals. -/
theorem digits_reported_iff (s : DtmfSender) (ps : List Press) :
    (∃ t packets, sendAll s ps = some (t,packets) ∧
      (receiveAll s.payloadType (DtmfReceiver.new s.payloadType) packets).2 =
        ps.map Press.digit) ↔
      (ps = [] ∨ 20 ≤ s.sampleRate.toNat) ∧
        ps.IsChain (fun p q => p.digit = q.digit → Long s.sampleRate q.durationMs) := by
  rw [← sendAll_returns]
  constructor
  · rintro ⟨t,packets,h,hreceived⟩
    exact ⟨⟨t,packets,h⟩,(received_iff h).mp hreceived⟩
  · rintro ⟨⟨t,packets,h⟩,hchain⟩
    exact ⟨t,packets,h,(received_iff h).mpr hchain⟩

theorem digits_reported_with_repetition :
    ∃ t packets, sendAll (DtmfSender.new 101 7 65535) [⟨.five,50,0⟩,⟨.one,50,400⟩,⟨.one,100,800⟩] =
        some (t,packets) ∧
      (receiveAll 101 (DtmfReceiver.new 101) packets).2 = [.five,.one,.one] :=
  (digits_reported_iff (DtmfSender.new 101 7 65535)
    [⟨.five,50,0⟩,⟨.one,50,400⟩,⟨.one,100,800⟩]).mpr (by decide)

theorem repeated_short_digit_swallowed :
    ∃ t packets, sendAll (DtmfSender.new 101 7 65535) [⟨.one,50,0⟩,⟨.one,50,400⟩] =
        some (t,packets) ∧
      (receiveAll 101 (DtmfReceiver.new 101) packets).2 = [.one] :=
  ⟨_,_,rfl,by decide⟩

end RsipRtp.DtmfDelivery
