import RsipRtp.RtcpReport
import RsipRtp.Utf8

/-!
# RTCP packets and compounds

Source descriptions, goodbyes, the feedback messages and the compound that
carries them in one datagram.
-/

namespace RsipRtp.RtcpPackets
open SipText BigEndian RtcpReport Utf8

def padWords (buf : Bytes) : Bytes := buf++List.replicate ((4-buf.length%4)%4) 0

inductive SdesType
  | endOfList
  | cName
  | name
  | email
  | phone
  | location
  | tool
  | note
  | privateExtension
deriving DecidableEq

def SdesType.code : SdesType → UInt8
  | .endOfList => 0
  | .cName => 1
  | .name => 2
  | .email => 3
  | .phone => 4
  | .location => 5
  | .tool => 6
  | .note => 7
  | .privateExtension => 8

structure SdesItem where
  itemType : SdesType
  value : Text
deriving DecidableEq

structure SdesChunk where
  ssrc : UInt32
  items : List SdesItem
deriving DecidableEq

structure SourceDescription where
  chunks : List SdesChunk
deriving DecidableEq

def SourceDescription.withCname (ssrc : UInt32) (cname : Text) : SourceDescription :=
  ⟨[⟨ssrc,[⟨.cName,cname⟩]⟩]⟩

def parsedType (itemType : UInt8) : Option SdesType :=
  match itemType.toNat with
  | 1 => some .cName
  | 2 => some .name
  | 3 => some .email
  | 4 => some .phone
  | 5 => some .location
  | 6 => some .tool
  | 7 => some .note
  | 8 => some .privateExtension
  | _ => none

def keepItem (itemType : UInt8) (value : Text) (items : List SdesItem) : List SdesItem :=
  match parsedType itemType with
  | some itemType => ⟨itemType,value⟩::items
  | none => items

/-- The loop over the items of a chunk. Every round takes a byte, so a fuel
above the length never runs out. -/
def parseItems : ℕ → Bytes → Except RtcpParseError (List SdesItem × Bytes)
  | 0, _ => .error (.tooShort 0)
  | _+1, [] => .error (.tooShort 0)
  | fuel+1, itemType::buf =>
    if itemType = 0 then .ok ([],buf)
    else
      match buf with
      | [] => .error (.tooShort 0)
      | len::buf =>
        if buf.length < len.toNat then .error (.tooShort buf.length)
        else do
          let value := fromUtf8Lossy (buf.take len.toNat)
          let (items,rest) ← parseItems fuel (buf.drop len.toNat)
          return (keepItem itemType value items,rest)

def parseChunks : ℕ → Bytes → Except RtcpParseError (List SdesChunk)
  | 0, _ => .ok []
  | n+1, buf =>
    if buf.length < 4 then .error (.tooShort buf.length)
    else do
      let (ssrc,body) := takeU32 buf
      let (items,rest) ← parseItems (body.length+1) body
      let consumed := buf.length-rest.length
      let pad := (4-consumed%4)%4
      if rest.length < pad then .error (.tooShort rest.length)
      else
        let chunks ← parseChunks n (rest.drop pad)
        return ⟨ssrc,items⟩::chunks

def SourceDescription.parse (data : Bytes) : Except RtcpParseError SourceDescription := do
  let (header,rest) ← RtcpHeader.parse data
  if header.packetType ≠ .sourceDescription then
    .error (.unknownPacketType header.packetType.code)
  else
    let declared := header.length.toNat*4
    if rest.length < declared then .error (.tooShort rest.length)
    else
      let chunks ← parseChunks header.count.toNat (rest.take declared)
      return ⟨chunks⟩

def SdesItem.put (buf : Bytes) (item : SdesItem) : Bytes :=
  let valueBytes := utf8 item.value
  buf++[item.itemType.code,UInt8.ofNat valueBytes.length]++valueBytes

def SdesChunk.put (buf : Bytes) (chunk : SdesChunk) : Bytes :=
  padWords (chunk.items.foldl SdesItem.put (buf++putU32 chunk.ssrc)++[0])

def SourceDescription.build (sdes : SourceDescription) : Bytes :=
  let chunkCount := UInt8.ofNat (min sdes.chunks.length 31)
  let buf := sdes.chunks.foldl SdesChunk.put (putU32 0)
  let length := UInt16.ofNat ((buf.length-4)/4)
  let headerByte := ((2 : UInt8) <<< 6) ||| chunkCount
  [headerByte,RtcpType.sourceDescription.code,(length >>> 8).toUInt8,
    (length &&& 0xFF).toUInt8]++buf.drop 4

structure Goodbye where
  ssrcs : List UInt32
  reason : Option Text
deriving DecidableEq

def getSsrcs : ℕ → Bytes → List UInt32 × Bytes
  | 0, buf => ([],buf)
  | n+1, buf =>
    if buf.length < 4 then ([],buf)
    else
      let (ssrc,buf) := takeU32 buf
      let (ssrcs,rest) := getSsrcs n buf
      (ssrc::ssrcs,rest)

def parseReason : Bytes → Except RtcpParseError (Option Text)
  | [] => .ok none
  | len::buf =>
    if buf.length < len.toNat then .error (.tooShort buf.length)
    else .ok (some (fromUtf8Lossy (buf.take len.toNat)))

def Goodbye.parse (data : Bytes) : Except RtcpParseError Goodbye := do
  let (header,rest) ← RtcpHeader.parse data
  if header.packetType ≠ .goodbye then .error (.unknownPacketType header.packetType.code)
  else
    let declared := header.length.toNat*4
    if rest.length < declared then .error (.tooShort rest.length)
    else
      let buf := rest.take declared
      let ssrcCount := header.count.toNat
      if buf.length < ssrcCount*4 then .error (.tooShort buf.length)
      else
        let (ssrcs,buf) := getSsrcs ssrcCount buf
        let reason ← parseReason buf
        return ⟨ssrcs,reason⟩

def Goodbye.contentLen (bye : Goodbye) : ℕ :=
  match bye.reason with
  | some reason => (bye.ssrcs.length*4+(1+(utf8 reason).length)+3)/4*4
  | none => bye.ssrcs.length*4

def Goodbye.build (bye : Goodbye) : Bytes :=
  let ssrcCount := UInt8.ofNat (min bye.ssrcs.length 31)
  let length := UInt16.ofNat (bye.contentLen/4)
  let buf := RtcpHeader.build ⟨2,false,ssrcCount,.goodbye,length⟩++bye.ssrcs.flatMap putU32
  match bye.reason with
  | some reason =>
    let reasonBytes := utf8 reason
    padWords (buf++[UInt8.ofNat reasonBytes.length]++reasonBytes)
  | none => buf

structure NackEntry where
  pid : UInt16
  blp : UInt16
deriving DecidableEq

structure Nack where
  senderSsrc : UInt32
  mediaSsrc : UInt32
  nacks : List NackEntry
deriving DecidableEq

def Nack.build (nack : Nack) : Bytes :=
  let length := UInt16.ofNat (2+nack.nacks.length)
  RtcpHeader.build ⟨2,false,1,.transportFeedback,length⟩ ++
    putU32 nack.senderSsrc++putU32 nack.mediaSsrc ++
    nack.nacks.flatMap (fun entry => putU16 entry.pid++putU16 entry.blp)

def addToMask (pid blp seq : UInt16) : UInt16 :=
  let diff := seq-pid-1
  if diff < 16 then blp ||| (1 <<< diff) else blp

def NackEntry.fromSequences : List UInt16 → Option NackEntry
  | [] => none
  | pid::seqs => some ⟨pid,seqs.foldl (addToMask pid) 0⟩

def NackEntry.lostSequences (entry : NackEntry) : List UInt16 :=
  entry.pid::(List.range 16).filterMap fun i =>
    if (entry.blp >>> UInt16.ofNat i) &&& 1 = 1 then some (entry.pid+UInt16.ofNat (i+1)) else none

def Grouped (pid seq : UInt16) : Prop := 0 < seq-pid ∧ seq-pid ≤ 16

instance (pid seq : UInt16) : Decidable (Grouped pid seq) := inferInstanceAs (Decidable (_ ∧ _))

def group (pid : UInt16) (rest : List UInt16) : List UInt16 :=
  pid::rest.filter fun seq => Grouped pid seq

def newRemaining (pid : UInt16) (rest : List UInt16) : List UInt16 :=
  rest.filter fun seq => ¬Grouped pid seq

/-- The loop over the remaining numbers. A group is never empty, so its entry exists. -/
def groupLost : List UInt16 → List NackEntry
  | [] => []
  | pid::rest =>
    (NackEntry.fromSequences (group pid rest)).get rfl::groupLost (newRemaining pid rest)
termination_by remaining => remaining.length
decreasing_by exact Nat.lt_succ_of_le (List.length_filter_le _ _)

def Nack.fromLostPackets (senderSsrc mediaSsrc : UInt32) (lostSeqs : List UInt16) : Nack :=
  ⟨senderSsrc,mediaSsrc,groupLost (lostSeqs.mergeSort (· ≤ ·))⟩

def Nack.allLostSequences (nack : Nack) : List UInt16 :=
  nack.nacks.flatMap NackEntry.lostSequences

def parseEntries : Bytes → List NackEntry
  | p1::p0::b1::b0::buf => ⟨getU16 p1 p0,getU16 b1 b0⟩::parseEntries buf
  | _ => []

def Nack.parse (data : Bytes) : Except RtcpParseError Nack := do
  let (header,rest) ← RtcpHeader.parse data
  if header.packetType ≠ .transportFeedback ∨ header.count ≠ 1 then
    .error (.unknownPacketType header.packetType.code)
  else if rest.length < 8 then .error (.tooShort rest.length)
  else
    let (senderSsrc,buf) := takeU32 rest
    let (mediaSsrc,buf) := takeU32 buf
    return ⟨senderSsrc,mediaSsrc,parseEntries buf⟩

structure Pli where
  senderSsrc : UInt32
  mediaSsrc : UInt32
deriving DecidableEq

def Pli.build (pli : Pli) : Bytes :=
  RtcpHeader.build ⟨2,false,1,.payloadFeedback,2⟩++putU32 pli.senderSsrc ++
    putU32 pli.mediaSsrc

structure FirEntry where
  ssrc : UInt32
  seqNr : UInt8
deriving DecidableEq

structure Fir where
  senderSsrc : UInt32
  mediaSsrc : UInt32
  entries : List FirEntry
deriving DecidableEq

def Fir.build (fir : Fir) : Bytes :=
  let length := UInt16.ofNat (2+fir.entries.length*2)
  RtcpHeader.build ⟨2,false,4,.payloadFeedback,length⟩ ++
    putU32 fir.senderSsrc++putU32 fir.mediaSsrc ++
    fir.entries.flatMap (fun entry => putU32 entry.ssrc++[entry.seqNr,0]++putU16 0)

structure Remb where
  senderSsrc : UInt32
  mediaSsrc : UInt32
  bitrate : UInt64
  ssrcs : List UInt32
deriving DecidableEq

def uniqueId : Bytes := [0x52,0x45,0x4D,0x42]

def Remb.parse (data : Bytes) : Except RtcpParseError Remb := do
  let (header,rest) ← RtcpHeader.parse data
  if header.packetType ≠ .payloadFeedback ∨ header.count ≠ 15 then
    .error (.unknownPacketType header.packetType.code)
  else if rest.length < 16 then .error (.tooShort rest.length)
  else
    let (senderSsrc,buf) := takeU32 rest
    let (mediaSsrc,buf) := takeU32 buf
    if buf.take 4 ≠ uniqueId then .error (.unknownPacketType 206)
    else
      let (numSsrc,buf) := takeU8 (buf.drop 4)
      let (b13,buf) := takeU8 buf
      let (b14,buf) := takeU8 buf
      let (b15,buf) := takeU8 buf
      let brExp := (b13 &&& 0xFC) >>> 2
      let mantissa : UInt32 := ((b13 &&& 0x03).toUInt32 <<< 16) ||| (b14.toUInt32 <<< 8) |||
        b15.toUInt32
      return {
        senderSsrc, mediaSsrc
        bitrate := mantissa.toUInt64 <<< brExp.toUInt64
        ssrcs := (getSsrcs numSsrc.toNat buf).1 }

def encodeBitrate (bitrate : UInt64) : UInt32 × UInt8 :=
  if bitrate = 0 then (0,0)
  else
    let bits := Nat.log2 bitrate.toNat+1
    if bits ≤ 18 then (bitrate.toUInt32,0)
    else
      let exp := UInt8.ofNat (bits-18)
      let mantissa := (bitrate >>> exp.toUInt64).toUInt32
      (mantissa &&& 0x3FFFF,exp)

def Remb.build (remb : Remb) : Bytes :=
  let ssrcCount := min remb.ssrcs.length 255
  let length := UInt16.ofNat (4+ssrcCount)
  let (mantissa,exp) := encodeBitrate remb.bitrate
  RtcpHeader.build ⟨2,false,15,.payloadFeedback,length⟩ ++
    putU32 remb.senderSsrc++putU32 remb.mediaSsrc++uniqueId ++
    [UInt8.ofNat ssrcCount,(exp <<< 2) ||| ((mantissa >>> 16).toUInt8 &&& 0x03)] ++
    putU16 (mantissa &&& 0xFFFF).toUInt16++(remb.ssrcs.take ssrcCount).flatMap putU32

inductive RtcpPacket
  | senderReport (report : SenderReport)
  | receiverReport (report : ReceiverReport)
  | sourceDescription (sdes : SourceDescription)
  | goodbye (bye : Goodbye)
  | nack (message : Nack)
  | pli (message : Pli)
  | fir (message : Fir)
  | remb (message : Remb)
  | unknown (packetType : UInt8) (bytes : Bytes)
deriving DecidableEq

structure RtcpCompound where
  packets : List RtcpPacket
deriving DecidableEq

def RtcpPacket.build : RtcpPacket → Bytes
  | .senderReport report => report.build
  | .receiverReport report => report.build
  | .sourceDescription sdes => sdes.build
  | .goodbye bye => bye.build
  | .nack message => message.build
  | .pli message => message.build
  | .fir message => message.build
  | .remb message => message.build
  | .unknown _ bytes => bytes

def RtcpCompound.build (compound : RtcpCompound) : Bytes :=
  compound.packets.flatMap RtcpPacket.build

/-- What is made of one packet's bytes, by the type and the subtype of its
header. -/
def parsePacket (pt subtype : UInt8) (pkt : Bytes) : Except Text RtcpPacket :=
  match pt.toNat with
  | 200 => ((SenderReport.parse pkt).map .senderReport).mapError RtcpParseError.display
  | 201 => ((ReceiverReport.parse pkt).map .receiverReport).mapError RtcpParseError.display
  | 202 => ((SourceDescription.parse pkt).map .sourceDescription).mapError
      RtcpParseError.display
  | 203 => ((Goodbye.parse pkt).map .goodbye).mapError RtcpParseError.display
  | 206 =>
    if subtype = 15 ∧ 16 ≤ pkt.length ∧ (pkt.drop 12).take 4 = uniqueId then
      ((Remb.parse pkt).map .remb).mapError RtcpParseError.display
    else .ok (.unknown pt pkt)
  | _ => .ok (.unknown pt pkt)

/-- The loop of the reader, with the bytes that each round cuts off. Every
round takes at least a header, so the length is fuel enough. -/
def walk : ℕ → Bytes → Except Text (List (Bytes × RtcpPacket))
  | _, [] => .ok []
  | 0, _::_ => .ok []
  | fuel+1, b::bs =>
    match b::bs with
    | b0::pt::l1::l0::rest =>
      let remaining := b0::pt::l1::l0::rest
      let version := (b0 >>> 6) &&& 0x03
      let pktLen := ((getU16 l1 l0).toNat+1)*4
      if version ≠ 2 then .error ("invalid RTCP version: "++natText version.toNat)
      else if remaining.length < pktLen then
        .error ("truncated RTCP packet: declared "++natText pktLen++
          " bytes, only "++natText remaining.length++" remain")
      else do
        let pkt := remaining.take pktLen
        let packet ← parsePacket pt (b0 &&& 0x1F) pkt
        let steps ← walk fuel (remaining.drop pktLen)
        return (pkt,packet)::steps
    | remaining => .error ("truncated RTCP packet: "++natText remaining.length++
        " bytes left, need at least 4")

def RtcpCompound.parse (data : Bytes) : Except Text RtcpCompound :=
  (walk data.length data).map (fun steps => ⟨steps.map Prod.snd⟩)

end RsipRtp.RtcpPackets
