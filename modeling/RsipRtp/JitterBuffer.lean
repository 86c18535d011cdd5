import RsipRtp.FiniteMap
import RsipRtp.OutputMachine
import Mathlib.Data.Rat.Floor

/-!
# The adaptive jitter buffer

Packets wait under their timestamps; every pop moves the playout point on and
hands out the packet that is due, skips ahead, or conceals.
-/

namespace RsipRtp.JitterBuffer
open FiniteMap OutputMachine

structure JitterBufferConfig where
  minDelayMs : UInt32
  maxDelayMs : UInt32
  initialDelayMs : UInt32
  clockRate : UInt32
  samplesPerPacket : UInt32

def g711 : JitterBufferConfig := ⟨20,200,60,8000,160⟩

def JitterBufferConfig.msToSamples (c : JitterBufferConfig) (ms : UInt32) : UInt32 :=
  ms*c.clockRate/1000

def JitterBufferConfig.samplesToMs (c : JitterBufferConfig) (samples : UInt32) : Option UInt32 :=
  if c.clockRate = 0 then none else some (samples*1000/c.clockRate)

structure BufferedPacket where
  sequence : UInt16
  timestamp : UInt32
  samples : List Int16
  receivedAt : ℕ

inductive PlayoutDecision
  | play | expand | conceal | accelerate | silence
deriving DecidableEq

structure JitterStats where
  packetsReceived : ℕ := 0
  packetsPlayed : ℕ := 0
  packetsLost : ℕ := 0
  packetsLate : ℕ := 0
  packetsDuplicate : ℕ := 0
  bufferDepth : ℕ := 0
  targetDelayMs : UInt32 := 0

/-- The operations on floating-point numbers: an estimate, how the time
since the last arrival and the step of the timestamps move it, its value in
samples, and the fade of a frame. -/
structure FloatOps (J : Type) where
  zero : J
  update : UInt32 → ℕ → Int32 → J → J
  toSamples : J → UInt32
  fade : List Int16 → List Int16

/-- The operations without rounding: the estimate moves by a sixteenth of
`|elapsed samples - step|`, and a frame fades linearly to one half. -/
def exactOps : FloatOps ℚ where
  zero := 0
  update rate elapsed tsDiff j :=
    let arrivalSamples : ℤ := elapsed*rate.toNat/10^9
    j+(((arrivalSamples-tsDiff.toInt).natAbs : ℚ)-j)/16
  toSamples j := UInt32.ofNat (min ⌊j⌋.toNat (2^32-1))
  fade frame := frame.mapIdx (fun i s =>
    Int16.ofInt (Int.tdiv (s.toInt*(2*frame.length-i : ℕ)) (2*frame.length)))

structure Buffer (J : Type) where
  config : JitterBufferConfig
  packets : Map UInt32 BufferedPacket
  targetDelay : UInt32
  jitter : J
  nextSeq : Option UInt16
  nextPlayoutTs : Option UInt32
  lastArrival : Option (ℕ × UInt32)
  stats : JitterStats
  lastSamples : List Int16
  primed : Bool
  firstPacketTime : Option ℕ

def sequenceDiff (a b : UInt16) : Int16 := (a-b).toInt16

def timestampDiff (a b : UInt32) : Int32 := (a-b).toInt32

def timestampBefore (a b : UInt32) : Bool := timestampDiff a b < 0

def silence (c : JitterBufferConfig) : List Int16 := List.replicate c.samplesPerPacket.toNat 0

section Calls

variable {J : Type} (ops : FloatOps J)

def new (config : JitterBufferConfig) : Buffer J where
  config := config
  packets := ∅
  targetDelay := config.msToSamples config.initialDelayMs
  jitter := ops.zero
  nextSeq := none
  nextPlayoutTs := none
  lastArrival := none
  stats := {}
  lastSamples := silence config
  primed := false
  firstPacketTime := none

def reset (b : Buffer J) : Buffer J := {new ops b.config with stats := b.stats}

def arrive (sequence : UInt16) (timestamp : UInt32) (now : ℕ) (b : Buffer J) : Buffer J :=
  {b with
    stats := {b.stats with packetsReceived := b.stats.packetsReceived+1}
    firstPacketTime := some (b.firstPacketTime.getD now)
    nextSeq := if b.firstPacketTime.isNone then some sequence else b.nextSeq
    nextPlayoutTs := if b.firstPacketTime.isNone then some timestamp else b.nextPlayoutTs
    jitter := match b.lastArrival with
      | some (lastTime,lastTs) =>
        ops.update b.config.clockRate (now-lastTime) (timestampDiff timestamp lastTs) b.jitter
      | none => b.jitter
    lastArrival := some (now,timestamp)}

def late (timestamp : UInt32) (b : Buffer J) : Bool :=
  b.nextPlayoutTs.any (timestampBefore timestamp)

def trackSeq (sequence : UInt16) (b : Buffer J) : Buffer J :=
  match b.nextSeq with
  | some expectedSeq =>
    if 0 ≤ sequenceDiff sequence expectedSeq then {b with nextSeq := some (sequence+1)} else b
  | none => b

def adaptedTarget (b : Buffer J) : UInt32 :=
  let newTarget := min (max (2*ops.toSamples b.jitter) (b.config.msToSamples b.config.minDelayMs))
    (b.config.msToSamples b.config.maxDelayMs)
  if newTarget > b.targetDelay then b.targetDelay+(newTarget-b.targetDelay)/4
  else if newTarget < b.targetDelay then b.targetDelay-(b.targetDelay-newTarget)/16
  else b.targetDelay

def adaptDelay (b : Buffer J) : Option (Buffer J) :=
  (b.config.samplesToMs (adaptedTarget ops b)).map (fun ms =>
    {b with targetDelay := adaptedTarget ops b, stats := {b.stats with targetDelayMs := ms}})

def prime (b : Buffer J) : Option (Buffer J) :=
  if b.primed then some b
  else if b.config.samplesPerPacket = 0 then none
  else
    let packetsNeeded := (b.targetDelay/b.config.samplesPerPacket).toNat
    if max packetsNeeded 1 ≤ size b.packets then some {b with primed := true} else some b

def store (sequence : UInt16) (timestamp : UInt32) (samples : List Int16) (now : ℕ)
    (b : Buffer J) : Option (Buffer J) :=
  let packet : BufferedPacket := ⟨sequence,timestamp,samples,now⟩
  let b := trackSeq sequence b
  (adaptDelay ops {b with packets := b.packets.insert timestamp packet}).bind prime

def push (sequence : UInt16) (timestamp : UInt32) (samples : List Int16) (now : ℕ)
    (b : Buffer J) : Option (Buffer J × Bool) :=
  let b := arrive ops sequence timestamp now b
  if (b.packets.lookup timestamp).isSome then
    some ({b with stats := {b.stats with packetsDuplicate := b.stats.packetsDuplicate+1}},false)
  else if late timestamp b then
    some ({b with stats := {b.stats with packetsLate := b.stats.packetsLate+1}},false)
  else (store ops sequence timestamp samples now b).map (fun b => (b,true))

structure Frame where
  decision : PlayoutDecision
  samples : List Int16
  packet : Option BufferedPacket

/-- The packet that a pop skips to: the one with the smallest timestamp, if it
is more than a packet and more than twice the target delay ahead. -/
def skipTo (playoutTs : UInt32) (b : Buffer J) : Option UInt32 :=
  match firstKey b.packets with
  | some nextTs =>
    let gap := timestampDiff nextTs playoutTs
    if gap ≤ b.config.samplesPerPacket.toInt32 then none
    else if gap > b.targetDelay.toInt32*2 then some nextTs
    else none
  | none => none

def playPacket (decision : PlayoutDecision) (packet : BufferedPacket) (b : Buffer J) :
    Buffer J × Frame :=
  ({b with
    stats := {b.stats with
      packetsPlayed := b.stats.packetsPlayed+1, bufferDepth := size b.packets}
    lastSamples := packet.samples},⟨decision,packet.samples,some packet⟩)

def concealPacket (b : Buffer J) : Buffer J × Frame :=
  let concealed := ops.fade b.lastSamples
  ({b with
    stats := {b.stats with
      packetsLost := b.stats.packetsLost+1, bufferDepth := size b.packets}
    lastSamples := concealed},⟨.conceal,concealed,none⟩)

def pop (b : Buffer J) : Buffer J × Frame :=
  match b.primed, b.nextPlayoutTs with
  | true, some playoutTs =>
    let advanced := {b with nextPlayoutTs := some (playoutTs+b.config.samplesPerPacket)}
    match b.packets.lookup playoutTs with
    | some packet => playPacket .play packet {advanced with packets := b.packets.erase playoutTs}
    | none =>
      -- the source conceals in three places, all alike
      match skipTo playoutTs b with
      | some nextTs =>
        match b.packets.lookup nextTs with
        | some packet => playPacket .accelerate packet
            {b with nextPlayoutTs := some nextTs, packets := b.packets.erase nextTs}
        | none => concealPacket ops advanced
      | none => concealPacket ops advanced
  | _, _ => (b,⟨.silence,silence b.config,none⟩)

end Calls

theorem timestampDiff_toInt (a b : UInt32) : (timestampDiff a b).toInt =
    if (a-b).toNat < 2^31 then ((a-b).toNat : ℤ) else (a-b).toNat-2^32 := by
  have hbits : (timestampDiff a b).toInt = (a-b).toBitVec.toInt := rfl
  have hnat : (a-b).toBitVec.toNat = (a-b).toNat := rfl
  rw [hbits, BitVec.toInt_eq_toNat_cond, hnat]
  split_ifs <;> omega

theorem timestampBefore_iff (a b : UInt32) :
    timestampBefore a b = true ↔ 2^31 ≤ (a-b).toNat := by
  have hlt := (a-b).toNat_lt
  rw [timestampBefore, decide_eq_true_iff, Int32.lt_iff_toInt_lt, timestampDiff_toInt,
    Int32.toInt_zero]
  split_ifs <;> omega

section Effects

variable {J : Type} {ops : FloatOps J} {b c : Buffer J} {sequence : UInt16} {timestamp : UInt32}
  {samples : List Int16} {now : ℕ}

structure Stored (b : Buffer J) (packet : BufferedPacket) (c : Buffer J) : Prop where
  config : c.config = b.config
  packets : c.packets = b.packets.insert packet.timestamp packet
  playout : c.nextPlayoutTs = b.nextPlayoutTs
  started : c.firstPacketTime = b.firstPacketTime
  received : c.stats.packetsReceived = b.stats.packetsReceived
  played : c.stats.packetsPlayed = b.stats.packetsPlayed
  late : c.stats.packetsLate = b.stats.packetsLate
  duplicate : c.stats.packetsDuplicate = b.stats.packetsDuplicate
  stays : b.primed = true → c.primed = true
  primed : c.primed = true → b.primed = true ∨ b.config.samplesPerPacket ≠ 0

theorem trackSeq_eq (sequence : UInt16) (b : Buffer J) :
    ∃ nextSeq, trackSeq sequence b = {b with nextSeq := nextSeq} := by
  unfold trackSeq
  split
  · split_ifs
    · exact ⟨_,rfl⟩
    · exact ⟨_,rfl⟩
  · exact ⟨_,rfl⟩

theorem prime_cases (h : prime b = some c) :
    c = b ∨ b.config.samplesPerPacket ≠ 0 ∧ c = {b with primed := true} := by
  unfold prime at h
  dsimp only at h
  split_ifs at h with _ hzero
  · exact .inl (Option.some.inj h).symm
  · exact .inr ⟨hzero,(Option.some.inj h).symm⟩
  · exact .inl (Option.some.inj h).symm

theorem store_stored (h : store ops sequence timestamp samples now b = some c) :
    Stored b ⟨sequence,timestamp,samples,now⟩ c := by
  obtain ⟨nextSeq,hseq⟩ := trackSeq_eq sequence b
  unfold store at h
  rw [hseq] at h
  obtain ⟨d,hd,hc⟩ := Option.bind_eq_some_iff.mp h
  obtain ⟨ms,_,rfl⟩ := Option.map_eq_some_iff.mp hd
  rcases prime_cases hc with rfl | ⟨hzero,rfl⟩
  · exact ⟨rfl,rfl,rfl,rfl,rfl,rfl,rfl,rfl,id,.inl⟩
  · exact ⟨rfl,rfl,rfl,rfl,rfl,rfl,rfl,rfl,fun _ => rfl,fun _ => .inr hzero⟩

/-- A push rejects a duplicate, rejects a late packet, or stores it. -/
theorem push_cases {accepted : Bool}
    (h : push ops sequence timestamp samples now b = some (c,accepted)) :
    let a := arrive ops sequence timestamp now b
    (accepted = false ∧ (b.packets.lookup timestamp).isSome ∧ c = {a with stats :=
        {a.stats with packetsDuplicate := a.stats.packetsDuplicate+1}}) ∨
      (accepted = false ∧ late timestamp a = true ∧ c = {a with stats :=
        {a.stats with packetsLate := a.stats.packetsLate+1}}) ∨
      (accepted = true ∧ b.packets.lookup timestamp = none ∧ late timestamp a = false ∧
        Stored a ⟨sequence,timestamp,samples,now⟩ c) := by
  intro a
  unfold push at h
  dsimp only at h
  split_ifs at h with hdup hlate
  · cases h
    exact .inl ⟨rfl,hdup,rfl⟩
  · cases h
    exact .inr (.inl ⟨rfl,hlate,rfl⟩)
  · obtain ⟨d,hd,heq⟩ := Option.map_eq_some_iff.mp h
    cases heq
    exact .inr (.inr ⟨rfl,Option.not_isSome_iff_eq_none.mp hdup,Bool.eq_false_iff.mpr hlate,
      store_stored hd⟩)

theorem push_outcome {accepted : Bool}
    (h : push ops sequence timestamp samples now b = some (c,accepted)) :
    let a := arrive ops sequence timestamp now b
    (accepted = false ∧ ∃ stats, c = {a with stats := stats}) ∨
      (accepted = true ∧ b.packets.lookup timestamp = none ∧ late timestamp a = false ∧
        Stored a ⟨sequence,timestamp,samples,now⟩ c) := by
  rcases push_cases h with ⟨hrejected,_,hc⟩ | ⟨hrejected,_,hc⟩ | hstored
  · exact .inl ⟨hrejected,_,hc⟩
  · exact .inl ⟨hrejected,_,hc⟩
  · exact .inr hstored

theorem store_exists (ops : FloatOps J) (sequence : UInt16) (timestamp : UInt32)
    (samples : List Int16) (now : ℕ) (hclock : b.config.clockRate ≠ 0)
    (hspp : b.config.samplesPerPacket ≠ 0) :
    ∃ c, store ops sequence timestamp samples now b = some c := by
  obtain ⟨nextSeq,hseq⟩ := trackSeq_eq sequence b
  simp only [store, hseq, adaptDelay, JitterBufferConfig.samplesToMs, if_neg hclock,
    Option.map_some, Option.bind_some, prime, if_neg hspp]
  split_ifs
  · exact ⟨_,rfl⟩
  · exact ⟨_,rfl⟩
  · exact ⟨_,rfl⟩

theorem push_accepts (ops : FloatOps J) (sequence : UInt16) (samples : List Int16) (now : ℕ)
    (hclock : b.config.clockRate ≠ 0) (hspp : b.config.samplesPerPacket ≠ 0)
    (hnew : b.packets.lookup timestamp = none)
    (hlate : late timestamp (arrive ops sequence timestamp now b) = false) :
    ∃ c, push ops sequence timestamp samples now b = some (c,true) ∧
      Stored (arrive ops sequence timestamp now b) ⟨sequence,timestamp,samples,now⟩ c := by
  obtain ⟨c,hc⟩ := store_exists (b := arrive ops sequence timestamp now b) ops sequence timestamp
    samples now hclock hspp
  refine ⟨c,?_,store_stored hc⟩
  have hnew' : (arrive ops sequence timestamp now b).packets.lookup timestamp = none := hnew
  simp [push, hnew', hlate, hc]

theorem pop_silent (h : b.primed = false ∨ b.nextPlayoutTs = none) :
    pop ops b = (b,⟨.silence,silence b.config,none⟩) := by
  unfold pop
  rcases h with h | h
  · rw [h]
  · rw [h]
    cases b.primed <;> rfl

variable {playoutTs nextTs : UInt32} {packet : BufferedPacket}

theorem pop_play (hprimed : b.primed = true) (hplayout : b.nextPlayoutTs = some playoutTs)
    (hdue : b.packets.lookup playoutTs = some packet) :
    pop ops b = playPacket .play packet {b with
      nextPlayoutTs := some (playoutTs+b.config.samplesPerPacket)
      packets := b.packets.erase playoutTs} := by
  simp only [pop, hprimed, hplayout, hdue]

theorem pop_accelerate (hprimed : b.primed = true) (hplayout : b.nextPlayoutTs = some playoutTs)
    (hdue : b.packets.lookup playoutTs = none) (hskip : skipTo playoutTs b = some nextTs)
    (hnext : b.packets.lookup nextTs = some packet) :
    pop ops b = playPacket .accelerate packet {b with
      nextPlayoutTs := some nextTs, packets := b.packets.erase nextTs} := by
  simp only [pop, hprimed, hplayout, hdue, hskip, hnext]

theorem pop_conceal (hprimed : b.primed = true) (hplayout : b.nextPlayoutTs = some playoutTs)
    (hdue : b.packets.lookup playoutTs = none) (hskip : skipTo playoutTs b = none) :
    pop ops b = concealPacket ops {b with
      nextPlayoutTs := some (playoutTs+b.config.samplesPerPacket)} := by
  simp only [pop, hprimed, hplayout, hdue, hskip]

theorem skipTo_lookup (h : skipTo playoutTs b = some nextTs) :
    ∃ packet, b.packets.lookup nextTs = some packet := by
  unfold skipTo at h
  split at h
  · next first hfirst =>
    dsimp only at h
    split_ifs at h
    cases h
    exact firstKey_lookup hfirst
  · cases h

/-- A pop stays silent, plays the packet that is due, skips to another one, or
conceals. -/
theorem pop_cases (ops : FloatOps J) (b : Buffer J) :
    ((b.primed = false ∨ b.nextPlayoutTs = none) ∧
      pop ops b = (b,⟨.silence,silence b.config,none⟩)) ∨
    ∃ playoutTs, b.primed = true ∧ b.nextPlayoutTs = some playoutTs ∧
      ((∃ packet, b.packets.lookup playoutTs = some packet ∧
          pop ops b = playPacket .play packet {b with
            nextPlayoutTs := some (playoutTs+b.config.samplesPerPacket)
            packets := b.packets.erase playoutTs}) ∨
        (∃ nextTs packet, b.packets.lookup playoutTs = none ∧ skipTo playoutTs b = some nextTs ∧
          b.packets.lookup nextTs = some packet ∧
          pop ops b = playPacket .accelerate packet {b with
            nextPlayoutTs := some nextTs, packets := b.packets.erase nextTs}) ∨
        (b.packets.lookup playoutTs = none ∧ skipTo playoutTs b = none ∧
          pop ops b = concealPacket ops {b with
            nextPlayoutTs := some (playoutTs+b.config.samplesPerPacket)})) := by
  by_cases hsilent : b.primed = false ∨ b.nextPlayoutTs = none
  · exact .inl ⟨hsilent,pop_silent hsilent⟩
  · rw [not_or, Bool.not_eq_false] at hsilent
    obtain ⟨playoutTs,hplayout⟩ := Option.ne_none_iff_exists'.mp hsilent.2
    refine .inr ⟨playoutTs,hsilent.1,hplayout,?_⟩
    cases hdue : b.packets.lookup playoutTs with
    | some packet => exact .inl ⟨packet,rfl,pop_play hsilent.1 hplayout hdue⟩
    | none =>
      cases hskip : skipTo playoutTs b with
      | none => exact .inr (.inr ⟨rfl,rfl,pop_conceal hsilent.1 hplayout hdue hskip⟩)
      | some nextTs =>
        obtain ⟨packet,hnext⟩ := skipTo_lookup hskip
        exact .inr (.inl ⟨nextTs,packet,rfl,rfl,hnext,
          pop_accelerate hsilent.1 hplayout hdue hskip hnext⟩)

end Effects

section Run

variable {J : Type} (ops : FloatOps J)

inductive Op
  | push (sequence : UInt16) (timestamp : UInt32) (samples : List Int16) (now : ℕ)
  | pop
deriving DecidableEq

inductive Event
  | pushed (timestamp : UInt32) (accepted : Bool)
  | popped (frame : Frame)

def step : Step (Buffer J) Op Event := fun b op =>
  match op with
  | .push sequence timestamp samples now => (push ops sequence timestamp samples now b).map
      (fun r => (r.1,[.pushed timestamp r.2]))
  | .pop => some ((pop ops b).1,[.popped (pop ops b).2])

theorem step_push {ops : FloatOps J} {b c : Buffer J} {sequence : UInt16} {timestamp : UInt32}
    {samples : List Int16} {now : ℕ} {out : List Event} :
    step ops b (.push sequence timestamp samples now) = some (c,out) ↔ ∃ accepted,
      push ops sequence timestamp samples now b = some (c,accepted) ∧
        out = [.pushed timestamp accepted] := by
  simp only [step, Option.map_eq_some_iff, Prod.exists, Prod.mk.injEq]
  constructor
  · rintro ⟨d,accepted,hpush,rfl,rfl⟩
    exact ⟨accepted,hpush,rfl⟩
  · rintro ⟨accepted,hpush,rfl⟩
    exact ⟨c,accepted,hpush,rfl,rfl⟩

end Run

end RsipRtp.JitterBuffer
