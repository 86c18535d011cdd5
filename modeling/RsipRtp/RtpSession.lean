import RsipRtp.RtpFormat
import RsipRtp.RtcpReport

/-!
# An RTP session and its reports

The session numbers the packets it creates and keeps statistics about the
packets it receives. The counters of the source are 64 bits wide and are
natural numbers here.
-/

namespace RsipRtp.RtpSession
open SipText RtpFormat RtcpReport

structure ReceiverState where
  maxSeq : UInt16 := 0
  baseSeq : UInt16 := 0
  initialized : Bool := false
  packetsReceived : ℕ := 0
  packetsLost : ℕ := 0
  expectedPackets : ℕ := 0
  lastTimestamp : UInt32 := 0
  jitter : UInt32 := 0
  lastArrival : Option ℕ := none

structure Session where
  ssrc : UInt32
  payloadType : UInt8
  clockRate : UInt32
  nextSeq : UInt16
  currentTimestamp : UInt32
  packetsSent : ℕ
  octetsSent : ℕ
  receiverState : ReceiverState

def new (ssrc : UInt32) (payloadType : UInt8) (clockRate : UInt32) (initialSeq : UInt16)
    (initialTs : UInt32) : Session :=
  ⟨ssrc,payloadType,clockRate,initialSeq,initialTs,0,0,{}⟩

def createPacketAt (payload : Bytes) (timestamp : UInt32) (marker : Bool) (s : Session) :
    Session × RtpPacket :=
  ({s with nextSeq := s.nextSeq+1, currentTimestamp := timestamp
           packetsSent := s.packetsSent+1, octetsSent := s.octetsSent+payload.length},
    (RtpPacket.new s.payloadType s.nextSeq timestamp s.ssrc
      |>.withMarker marker |>.withPayload payload))

def createPacket (payload : Bytes) (samples : UInt32) (marker : Bool) (s : Session) :
    Session × RtpPacket :=
  ({s with nextSeq := s.nextSeq+1, currentTimestamp := s.currentTimestamp+samples
           packetsSent := s.packetsSent+1, octetsSent := s.octetsSent+payload.length},
    (RtpPacket.new s.payloadType s.nextSeq s.currentTimestamp s.ssrc
      |>.withMarker marker |>.withPayload payload))

section Receiver

variable (samplesIn : UInt32 → ℕ → Int32)

def countSeq (seq : UInt16) (s : ReceiverState) : ReceiverState :=
  let seqDiff := sequenceDiff seq s.maxSeq
  if 0 < seqDiff then
    let expectedIncrease := seqDiff.toNat
    {s with
      packetsReceived := s.packetsReceived+1
      expectedPackets := s.expectedPackets+expectedIncrease
      packetsLost := if 1 < expectedIncrease then s.packetsLost+(expectedIncrease-1)
        else s.packetsLost
      maxSeq := seq}
  else {s with packetsReceived := s.packetsReceived+1}

def saturatingAdd (a b : UInt32) : UInt32 := UInt32.ofNat (min (a.toNat+b.toNat) (2^32-1))
def saturatingSub (a b : UInt32) : UInt32 := UInt32.ofNat (a.toNat-b.toNat)

def nextJitter (arrivalSamples tsDiff : Int32) (jitter : UInt32) : UInt32 :=
  let d := UInt32.ofNat (arrivalSamples-tsDiff).toInt.natAbs
  let adjustment := (d.toInt32-jitter.toInt32) >>> 4
  if 0 ≤ adjustment then saturatingAdd jitter adjustment.toUInt32
  else saturatingSub jitter (-adjustment).toUInt32

def countJitter (clockRate : UInt32) (now : ℕ) (packet : RtpPacket) (s : ReceiverState) :
    ReceiverState :=
  match s.lastArrival with
  | some lastArrival =>
    let arrivalSamples := samplesIn clockRate (now-lastArrival)
    let tsDiff := (packet.timestamp-s.lastTimestamp).toInt32
    {s with jitter := nextJitter arrivalSamples tsDiff s.jitter}
  | none => s

def receive (clockRate : UInt32) (now : ℕ) (packet : RtpPacket) (s : ReceiverState) :
    ReceiverState :=
  if !s.initialized then
    {s with
      baseSeq := packet.sequenceNumber, maxSeq := packet.sequenceNumber
      initialized := true
      lastTimestamp := packet.timestamp, lastArrival := some now
      packetsReceived := 1, expectedPackets := 1}
  else
    {countJitter samplesIn clockRate now packet (countSeq packet.sequenceNumber s) with
      lastTimestamp := packet.timestamp, lastArrival := some now}

def receivePacket (now : ℕ) (packet : RtpPacket) (s : Session) : Session :=
  {s with receiverState := receive samplesIn s.clockRate now packet s.receiverState}

end Receiver

/-- `cumulative_lost` is at most `0x7FFFFF`. The loss fraction is computed in
floating point; below `2^45` expected packets it rounds down to the quotient. -/
def reportBlock (remoteSsrc : UInt32) (state : ReceiverState) : ReportBlock where
  ssrc := remoteSsrc
  fractionLost := UInt8.ofNat (if 0 < state.expectedPackets then
    min (state.packetsLost*256/state.expectedPackets) 255 else 0)
  cumulativeLost := Int32.ofNat (min state.packetsLost 0x7FFFFF)
  extendedSeq := state.maxSeq.toUInt32
  jitter := state.jitter
  lastSr := 0
  delaySinceSr := 0

def reportBlocks (remoteSsrc : UInt32) (state : ReceiverState) : List ReportBlock :=
  if state.initialized then [reportBlock remoteSsrc state] else []

def createSenderReport (now : NtpTimestamp) (s : Session) : SenderReport where
  ssrc := s.ssrc
  ntpTimestamp := now
  rtpTimestamp := s.currentTimestamp
  senderPacketCount := UInt32.ofNat s.packetsSent
  senderOctetCount := UInt32.ofNat s.octetsSent
  reportBlocks := reportBlocks 0 s.receiverState

def createReceiverReport (remoteSsrc : UInt32) (s : Session) : ReceiverReport where
  ssrc := s.ssrc
  reportBlocks := reportBlocks remoteSsrc s.receiverState

section Run

variable (samplesIn : UInt32 → ℕ → Int32)

inductive Event
  | create (payload : Bytes) (samples : UInt32) (marker : Bool)
  | createAt (payload : Bytes) (timestamp : UInt32) (marker : Bool)
  | receive (now : ℕ) (packet : RtpPacket)

def step (s : Session) : Event → Session
  | .create payload samples marker => (createPacket payload samples marker s).1
  | .createAt payload timestamp marker => (createPacketAt payload timestamp marker s).1
  | .receive now packet => receivePacket samplesIn now packet s

def run (s : Session) (es : List Event) : Session := es.foldl (step samplesIn) s

def arrivals : List Event → List (ℕ × RtpPacket)
  | [] => []
  | .receive now packet::es => (now,packet)::arrivals es
  | _::es => arrivals es

def receiveAll (clockRate : UInt32) (s : ReceiverState) (ps : List (ℕ × RtpPacket)) :
    ReceiverState :=
  ps.foldl (fun s p => receive samplesIn clockRate p.1 p.2 s) s

/-- Sending leaves the statistics alone. -/
theorem run_receiverState (s : Session) (es : List Event) :
    (run samplesIn s es).receiverState =
      receiveAll samplesIn s.clockRate s.receiverState (arrivals es) := by
  induction es generalizing s with
  | nil => rfl
  | cons e es ih =>
    rw [run, List.foldl_cons, ← run, ih]
    cases e <;> rfl

end Run

end RsipRtp.RtpSession
