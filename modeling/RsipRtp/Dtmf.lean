import RsipRtp.BigEndian
import RsipRtp.SipText

/-!
# DTMF digits as telephone events

The sender turns a key press into one packet for every 50 ms, of which the
last carries the end bit and is sent three times.
-/

namespace RsipRtp.Dtmf
open SipText BigEndian

inductive DtmfDigit
  | zero | one | two | three | four | five | six | seven | eight | nine
  | star | pound | a | b | c | d
deriving DecidableEq

def DtmfDigit.eventCode : DtmfDigit → UInt8
  | .zero => 0 | .one => 1 | .two => 2 | .three => 3 | .four => 4
  | .five => 5 | .six => 6 | .seven => 7 | .eight => 8 | .nine => 9
  | .star => 10 | .pound => 11 | .a => 12 | .b => 13 | .c => 14 | .d => 15

def DtmfDigit.fromEventCode : UInt8 → Option DtmfDigit
  | 0 => some .zero | 1 => some .one | 2 => some .two | 3 => some .three | 4 => some .four
  | 5 => some .five | 6 => some .six | 7 => some .seven | 8 => some .eight | 9 => some .nine
  | 10 => some .star | 11 => some .pound | 12 => some .a | 13 => some .b | 14 => some .c
  | 15 => some .d
  | _ => none

structure DtmfEvent where
  digit : DtmfDigit
  isEnd : Bool
  volume : UInt8
  duration : UInt16

namespace DtmfEvent

def new (digit : DtmfDigit) (duration : UInt16) : DtmfEvent := ⟨digit,false,10,duration⟩

def withEnd (e : DtmfEvent) : DtmfEvent := {e with isEnd := true}

def encode (e : DtmfEvent) : Bytes :=
  [e.digit.eventCode,(if e.isEnd then 0x80 else 0x00) ||| (e.volume &&& 0x3F),
    (e.duration >>> 8).toUInt8,(e.duration &&& 0xFF).toUInt8]

def decode : Bytes → Option DtmfEvent
  | b0::b1::b2::b3::_ => (DtmfDigit.fromEventCode b0).map (fun digit =>
      ⟨digit,b1 &&& 0x80 != 0,b1 &&& 0x3F,getU16 b2 b3⟩)
  | _ => none

end DtmfEvent

structure DtmfSender where
  payloadType : UInt8
  ssrc : UInt32
  sequence : UInt16
  sampleRate : UInt32

def DtmfSender.new (payloadType : UInt8) (ssrc : UInt32) (sequence : UInt16) : DtmfSender :=
  ⟨payloadType,ssrc,sequence,8000⟩

def buildRtpPacket (event : DtmfEvent) (timestamp : UInt32) (marker : Bool) (s : DtmfSender) :
    Bytes :=
  [0x80,(if marker then 0x80 else 0x00) ||| s.payloadType]++putU16 s.sequence ++
    putU32 timestamp++putU32 s.ssrc++event.encode

def advance (s : DtmfSender) : DtmfSender := {s with sequence := s.sequence+1}

def repeatEnd (event : DtmfEvent) (timestamp : UInt32) : ℕ → DtmfSender → DtmfSender × List Bytes
  | 0, s => (s,[])
  | n+1, s =>
    let (t,rest) := repeatEnd event timestamp n (advance s)
    (t,buildRtpPacket event timestamp false (advance s)::rest)

/-- The last `n` rounds of the loop over the intervals, from round `i` on. -/
def sendFrom (digit : DtmfDigit) (timestamp samplesPerPacket packetCount : UInt32) :
    ℕ → UInt32 → DtmfSender → DtmfSender × List Bytes
  | 0, _, s => (s,[])
  | n+1, i, s =>
    let currentDuration := (i+1)*samplesPerPacket
    let event := DtmfEvent.new digit (min currentDuration 0xFFFF).toUInt16
    let packet (event : DtmfEvent) := buildRtpPacket event timestamp (i == 0) s
    let (t,sent) :=
      if i = packetCount-1 then
        let (t,repeats) := repeatEnd event.withEnd timestamp 2 s
        (t,packet event.withEnd::repeats)
      else (s,[packet event])
    let (u,rest) := sendFrom digit timestamp samplesPerPacket packetCount n (i+1) (advance t)
    (u,sent++rest)

/-- A sample rate below 20 makes the interval empty and the division panic. -/
def generatePackets (digit : DtmfDigit) (durationMs timestamp : UInt32) (s : DtmfSender) :
    Option (DtmfSender × List Bytes) :=
  let samplesPerPacket := s.sampleRate/20
  let totalSamples := durationMs*s.sampleRate/1000
  if samplesPerPacket = 0 then none
  else
    let packetCount := max (totalSamples/samplesPerPacket) 1
    some (sendFrom digit timestamp samplesPerPacket packetCount packetCount.toNat 0 s)

structure DtmfReceiver where
  payloadType : UInt8
  currentEvent : Option (DtmfDigit × UInt32)
  lastEvent : Option DtmfDigit

def DtmfReceiver.new (payloadType : UInt8) : DtmfReceiver := ⟨payloadType,none,none⟩

def processPacket (payloadType : UInt8) (payload : Bytes) (r : DtmfReceiver) :
    DtmfReceiver × Option DtmfDigit :=
  if payloadType ≠ r.payloadType then (r,none)
  else
    match DtmfEvent.decode payload with
    | none => (r,none)
    | some event =>
      if event.isEnd then
        if r.lastEvent ≠ some event.digit then
          ({r with currentEvent := none, lastEvent := some event.digit},some event.digit)
        else ({r with currentEvent := none},none)
      else ({r with currentEvent := some (event.digit,0), lastEvent := none},none)

end RsipRtp.Dtmf
