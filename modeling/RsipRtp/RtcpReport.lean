import RsipRtp.BigEndian
import RsipRtp.SipText

/-!
# RTCP reports

The common header of RTCP packets, and the sender and receiver reports with
their report blocks, read and written.
-/

namespace RsipRtp.RtcpReport
open SipText BigEndian

inductive RtcpType
  | senderReport
  | receiverReport
  | sourceDescription
  | goodbye
  | applicationDefined
  | transportFeedback
  | payloadFeedback
deriving DecidableEq

inductive RtcpParseError
  | tooShort (len : ℕ)
  | invalidVersion (version : UInt8)
  | unknownPacketType (packetType : UInt8)
  | invalidReportCount
deriving DecidableEq

def RtcpParseError.display : RtcpParseError → Text
  | .tooShort len => "Packet too short: "++natText len++" bytes"
  | .invalidVersion version => "Invalid RTCP version: "++natText version.toNat
  | .unknownPacketType packetType => "Unknown packet type: "++natText packetType.toNat
  | .invalidReportCount => "Invalid report block count"

def RtcpType.code : RtcpType → UInt8
  | .senderReport => 200
  | .receiverReport => 201
  | .sourceDescription => 202
  | .goodbye => 203
  | .applicationDefined => 204
  | .transportFeedback => 205
  | .payloadFeedback => 206

def RtcpType.tryFrom (value : UInt8) : Except RtcpParseError RtcpType :=
  match value.toNat with
  | 200 => .ok .senderReport
  | 201 => .ok .receiverReport
  | 202 => .ok .sourceDescription
  | 203 => .ok .goodbye
  | 204 => .ok .applicationDefined
  | 205 => .ok .transportFeedback
  | 206 => .ok .payloadFeedback
  | _ => .error (.unknownPacketType value)

structure RtcpHeader where
  version : UInt8
  padding : Bool
  count : UInt8
  packetType : RtcpType
  length : UInt16

structure NtpTimestamp where
  seconds : UInt32
  fraction : UInt32
deriving DecidableEq

structure ReportBlock where
  ssrc : UInt32
  fractionLost : UInt8
  cumulativeLost : Int32
  extendedSeq : UInt32
  jitter : UInt32
  lastSr : UInt32
  delaySinceSr : UInt32
deriving DecidableEq

structure SenderReport where
  ssrc : UInt32
  ntpTimestamp : NtpTimestamp
  rtpTimestamp : UInt32
  senderPacketCount : UInt32
  senderOctetCount : UInt32
  reportBlocks : List ReportBlock
deriving DecidableEq

structure ReceiverReport where
  ssrc : UInt32
  reportBlocks : List ReportBlock
deriving DecidableEq

def RtcpHeader.parse (data : Bytes) : Except RtcpParseError (RtcpHeader × Bytes) :=
  match data with
  | firstByte::typeByte::l1::l0::rest =>
    let version := (firstByte >>> 6) &&& 0x03
    let padding := (firstByte >>> 5) &&& 0x01 == 1
    let count := firstByte &&& 0x1F
    if version ≠ 2 then .error (.invalidVersion version)
    else do
      let packetType ← RtcpType.tryFrom typeByte
      return ({version, padding, count, packetType, length := getU16 l1 l0},rest)
  | _ => .error (.tooShort data.length)

/-- A read of `Buf`; every reader below has checked the length before. -/
def takeU8 : Bytes → UInt8 × Bytes
  | b::buf => (b,buf)
  | [] => (0,[])

def takeU32 : Bytes → UInt32 × Bytes
  | b3::b2::b1::b0::buf => (getU32 b3 b2 b1 b0,buf)
  | buf => (0,buf)

def ReportBlock.size : ℕ := 24

def ReportBlock.parse (data : Bytes) : Except RtcpParseError ReportBlock :=
  if data.length < ReportBlock.size then .error (.tooShort data.length)
  else
    let (ssrc,buf) := takeU32 data
    let (fractionLost,buf) := takeU8 buf
    let (lost1,buf) := takeU8 buf
    let (lost2,buf) := takeU8 buf
    let (lost3,buf) := takeU8 buf
    let cumulativeLost := (getU32 0 lost1 lost2 lost3).toInt32 >>> 8
    let (extendedSeq,buf) := takeU32 buf
    let (jitter,buf) := takeU32 buf
    let (lastSr,buf) := takeU32 buf
    let (delaySinceSr,_) := takeU32 buf
    .ok {ssrc, fractionLost, cumulativeLost, extendedSeq, jitter, lastSr, delaySinceSr}

def parseBlocks : ℕ → Bytes → Except RtcpParseError (List ReportBlock)
  | 0, _ => .ok []
  | n+1, buf =>
    if buf.length < ReportBlock.size then .error .invalidReportCount
    else do
      -- the source expects success here: the block has its full size
      let block ← ReportBlock.parse (buf.take ReportBlock.size)
      let blocks ← parseBlocks n (buf.drop ReportBlock.size)
      return block::blocks

def SenderReport.parse (data : Bytes) : Except RtcpParseError SenderReport := do
  let (header,rest) ← RtcpHeader.parse data
  if header.packetType ≠ .senderReport then
    .error (.unknownPacketType header.packetType.code)
  else if rest.length < 24 then .error (.tooShort rest.length)
  else
    let (ssrc,buf) := takeU32 rest
    let (seconds,buf) := takeU32 buf
    let (fraction,buf) := takeU32 buf
    let (rtpTimestamp,buf) := takeU32 buf
    let (senderPacketCount,buf) := takeU32 buf
    let (senderOctetCount,buf) := takeU32 buf
    let reportBlocks ← parseBlocks header.count.toNat buf
    return {
      ssrc, ntpTimestamp := ⟨seconds,fraction⟩, rtpTimestamp
      senderPacketCount, senderOctetCount, reportBlocks }

def ReceiverReport.parse (data : Bytes) : Except RtcpParseError ReceiverReport := do
  let (header,rest) ← RtcpHeader.parse data
  if header.packetType ≠ .receiverReport then
    .error (.unknownPacketType header.packetType.code)
  else if rest.length < 4 then .error (.tooShort rest.length)
  else
    let (ssrc,buf) := takeU32 rest
    let reportBlocks ← parseBlocks header.count.toNat buf
    return {ssrc, reportBlocks}

def RtcpHeader.build (header : RtcpHeader) : Bytes :=
  let firstByte := (header.version <<< 6) ||| (header.padding.toUInt8 <<< 5) |||
    (header.count &&& 0x1F)
  [firstByte,header.packetType.code]++putU16 header.length

def ReportBlock.build (block : ReportBlock) : Bytes :=
  putU32 block.ssrc++[block.fractionLost] ++
    (putU32 block.cumulativeLost.toUInt32).drop 1 ++
    putU32 block.extendedSeq++putU32 block.jitter++putU32 block.lastSr ++
    putU32 block.delaySinceSr

def reportCount (blocks : List ReportBlock) : UInt8 := UInt8.ofNat (min blocks.length 31)

def SenderReport.build (report : SenderReport) : Bytes :=
  let count := reportCount report.reportBlocks
  let length := 6+count.toUInt16*6
  RtcpHeader.build ⟨2,false,count,.senderReport,length⟩ ++
    putU32 report.ssrc++putU32 report.ntpTimestamp.seconds ++
    putU32 report.ntpTimestamp.fraction++putU32 report.rtpTimestamp ++
    putU32 report.senderPacketCount++putU32 report.senderOctetCount ++
    report.reportBlocks.flatMap ReportBlock.build

def ReceiverReport.build (report : ReceiverReport) : Bytes :=
  let count := reportCount report.reportBlocks
  let length := 1+count.toUInt16*6
  RtcpHeader.build ⟨2,false,count,.receiverReport,length⟩ ++
    putU32 report.ssrc++report.reportBlocks.flatMap ReportBlock.build

section Reads

variable {rest : Bytes}

@[simp] theorem takeU8_cons (b : UInt8) (rest : Bytes) : takeU8 (b::rest) = (b,rest) := rfl

@[simp] theorem takeU32_put (n : UInt32) (rest : Bytes) :
    takeU32 (putU32 n++rest) = (n,rest) := by
  obtain ⟨b3,b2,b1,b0,hput,hget⟩ := putU32_read n
  rw [hput, ← hget]
  rfl

theorem tryFrom_code (packetType : RtcpType) :
    RtcpType.tryFrom packetType.code = .ok packetType := by
  cases packetType <;> rfl

theorem headerByte_bits (padding : Bool) (n : Fin 32) :
    let b : UInt8 := ((2 : UInt8) <<< 6) ||| (padding.toUInt8 <<< 5) |||
      (UInt8.ofNat n &&& 0x1F)
    (b >>> 6) &&& 0x03 = 2 ∧ ((b >>> 5) &&& 0x01 == 1) = padding ∧
      b &&& 0x1F = UInt8.ofNat n := by
  revert padding n
  decide

theorem parse_header {header : RtcpHeader} (hversion : header.version = 2)
    (hcount : header.count.toNat < 32) (rest : Bytes) :
    RtcpHeader.parse (RtcpHeader.build header++rest) = .ok (header,rest) := by
  obtain ⟨version,padding,count,packetType,length⟩ := header
  obtain rfl : version = 2 := hversion
  obtain ⟨l1,l0,hput,hget⟩ := putU16_read length
  obtain ⟨hbits,hpadding,hcount'⟩ := headerByte_bits padding ⟨count.toNat,hcount⟩
  simp only [UInt8.ofNat_toNat] at hbits hpadding hcount'
  simp only [RtcpHeader.build, hput, List.cons_append, List.nil_append, RtcpHeader.parse, hbits,
    hpadding, hcount', hget, tryFrom_code, ne_eq, not_true, if_false]
  rfl

end Reads

@[simp] theorem block_build_length (block : ReportBlock) :
    (ReportBlock.build block).length = ReportBlock.size := by
  simp [ReportBlock.build, putU32, ReportBlock.size]

theorem blocks_build_length (blocks : List ReportBlock) :
    (blocks.flatMap ReportBlock.build).length = ReportBlock.size*blocks.length := by
  induction blocks with
  | nil => rfl
  | cons block blocks ih =>
    rw [List.flatMap_cons, List.length_append, block_build_length, ih, List.length_cons]
    ring

def lostReadBack (lost : Int32) : Int32 :=
  (UInt32.ofNat (lost.toUInt32.toNat % 2^24)).toInt32 >>> 8

theorem lost_bytes (lost : Int32) : ∃ l1 l2 l3, (putU32 lost.toUInt32).drop 1 = [l1,l2,l3] ∧
    getU32 0 l1 l2 l3 = UInt32.ofNat (lost.toUInt32.toNat % 2^24) := by
  refine ⟨_,_,_,rfl,?_⟩
  have hmod : decode (encode 3 lost.toUInt32.toNat) = _ := decode_encode_mod 3 _
  have hzero (bs : Bytes) : decode (0::bs) = decode bs := by simp [decode]
  exact congrArg UInt32.ofNat ((hzero _).trans hmod)

theorem toInt32_shiftRight_toInt (n : ℕ) (h : n < 2^24) :
    ((UInt32.ofNat n).toInt32 >>> 8).toInt = n/256 := by
  have hword : ((UInt32.ofNat n).toInt32.toBitVec).toInt = n := by
    rw [UInt32.toBitVec_toInt32, BitVec.toInt_eq_toNat_of_lt]
    · exact_mod_cast Nat.mod_eq_of_lt (h.trans (by decide))
    · exact (Nat.mul_le_mul_left 2 (Nat.mod_le _ _)).trans_lt (by omega)
  rw [← Int32.toInt_toBitVec, Int32.toBitVec_shiftRight, BitVec.toInt_sshiftRight', hword]
  exact Int.shiftRight_eq_div_pow n 8

/-- A loss comes back as its low 24 bits without their last byte, so only the
loss of no packet comes back as it was. -/
theorem lostReadBack_eq_iff (lost : Int32) : lostReadBack lost = lost ↔ lost = 0 := by
  constructor
  · intro h
    have hlow : lost.toUInt32.toNat % 2^24 < 2^24 := Nat.mod_lt _ (by decide)
    have hle : lost.toUInt32.toNat % 2^24 ≤ lost.toUInt32.toNat := Nat.mod_le _ _
    have hback : lost.toInt = (lost.toUInt32.toNat % 2^24/256 : ℕ) := by
      conv_lhs => rw [← h]
      exact_mod_cast toInt32_shiftRight_toInt _ hlow
    have hword : lost.toInt = if 2*lost.toUInt32.toNat < 2^32 then (lost.toUInt32.toNat : ℤ)
        else (lost.toUInt32.toNat : ℤ)-(2^32 : ℕ) := BitVec.toInt_eq_toNat_cond lost.toBitVec
    have hlt := lost.toUInt32.toNat_lt
    apply Int32.toInt_inj.mp
    rw [Int32.toInt_zero]
    split_ifs at hword <;> omega
  · rintro rfl
    rfl

def ReportBlock.readBack (block : ReportBlock) : ReportBlock :=
  {block with cumulativeLost := lostReadBack block.cumulativeLost}

theorem readBack_eq_iff (block : ReportBlock) :
    block.readBack = block ↔ block.cumulativeLost = 0 := by
  rw [← lostReadBack_eq_iff]
  refine ⟨congrArg ReportBlock.cumulativeLost,fun h => ?_⟩
  rw [ReportBlock.readBack, h]

theorem parse_block (block : ReportBlock) :
    ReportBlock.parse (ReportBlock.build block) = .ok block.readBack := by
  obtain ⟨l1,l2,l3,hput,hget⟩ := lost_bytes block.cumulativeLost
  have hlast : takeU32 (putU32 block.delaySinceSr) = (block.delaySinceSr,[]) := by
    simpa using takeU32_put block.delaySinceSr []
  rw [ReportBlock.parse, if_neg (by simp)]
  simp only [ReportBlock.build, hput, List.append_assoc, List.cons_append, List.nil_append,
    takeU32_put, takeU8_cons, hlast, hget]
  rfl

theorem parse_blocks (blocks : List ReportBlock) (rest : Bytes) :
    parseBlocks blocks.length (blocks.flatMap ReportBlock.build++rest) =
      .ok (blocks.map ReportBlock.readBack) := by
  induction blocks with
  | nil => rfl
  | cons block blocks ih =>
    have hsize := block_build_length block
    have hfits : ¬((ReportBlock.build block++(blocks.flatMap ReportBlock.build++rest)).length <
        ReportBlock.size) := by
      rw [List.length_append, hsize]
      omega
    rw [List.flatMap_cons, List.append_assoc, List.length_cons, parseBlocks, if_neg hfits,
      List.take_left' hsize, List.drop_left' hsize, parse_block, ih]
    rfl

theorem map_readBack_eq_iff (blocks : List ReportBlock) :
    blocks.map ReportBlock.readBack = blocks ↔ ∀ block ∈ blocks, block.cumulativeLost = 0 := by
  have hid : blocks.map ReportBlock.readBack = blocks.map id ↔ _ := List.map_eq_map_iff
  rw [List.map_id] at hid
  simpa only [id, readBack_eq_iff] using hid

theorem reportCount_toNat {blocks : List ReportBlock} (h : blocks.length ≤ 31) :
    (reportCount blocks).toNat = blocks.length := by
  rw [reportCount, min_eq_left h, UInt8.toNat_ofNat']
  exact Nat.mod_eq_of_lt (by omega)

theorem parse_senderReport {report : SenderReport} (h : report.reportBlocks.length ≤ 31) :
    SenderReport.parse (SenderReport.build report) =
      .ok {report with reportBlocks := report.reportBlocks.map ReportBlock.readBack} := by
  have hcount := reportCount_toNat h
  have hblocks := parse_blocks report.reportBlocks []
  rw [List.append_nil] at hblocks
  simp only [SenderReport.parse, SenderReport.build, List.append_assoc]
  rw [parse_header rfl (by rw [hcount]; omega)]
  simp only [bind, Except.bind, takeU32_put, hcount, hblocks]
  rw [if_neg (by simp), if_neg (by simp [putU32]; omega)]
  rfl

theorem parse_receiverReport {report : ReceiverReport} (h : report.reportBlocks.length ≤ 31) :
    ReceiverReport.parse (ReceiverReport.build report) =
      .ok {report with reportBlocks := report.reportBlocks.map ReportBlock.readBack} := by
  have hcount := reportCount_toNat h
  have hblocks := parse_blocks report.reportBlocks []
  rw [List.append_nil] at hblocks
  simp only [ReceiverReport.parse, ReceiverReport.build, List.append_assoc]
  rw [parse_header rfl (by rw [hcount]; omega)]
  simp only [bind, Except.bind, takeU32_put, hcount, hblocks]
  rw [if_neg (by simp), if_neg (by simp [putU32])]
  rfl

/-- A report comes back from the wire exactly if no block reports a loss,
whatever its sign. -/
theorem reports_read_back_iff (sender : SenderReport) (receiver : ReceiverReport)
    (hsender : sender.reportBlocks.length ≤ 31) (hreceiver : receiver.reportBlocks.length ≤ 31) :
    (SenderReport.parse (SenderReport.build sender) = .ok sender ↔
      ∀ block ∈ sender.reportBlocks, block.cumulativeLost = 0) ∧
    (ReceiverReport.parse (ReceiverReport.build receiver) = .ok receiver ↔
      ∀ block ∈ receiver.reportBlocks, block.cumulativeLost = 0) := by
  rw [parse_senderReport hsender, parse_receiverReport hreceiver, ← map_readBack_eq_iff,
    ← map_readBack_eq_iff, Except.ok.injEq, Except.ok.injEq]
  refine ⟨⟨congrArg SenderReport.reportBlocks,fun h => ?_⟩,
    ⟨congrArg ReceiverReport.reportBlocks,fun h => ?_⟩⟩
  · rw [h]
  · rw [h]

def lossBlock (lost : Int32) : ReportBlock := ⟨67890,25,lost,50000,160,0,0⟩

theorem reports_read_back_without_loss :
    SenderReport.parse (SenderReport.build ⟨12345,⟨1,2⟩,160000,100,16000,[lossBlock 0]⟩) =
      .ok ⟨12345,⟨1,2⟩,160000,100,16000,[lossBlock 0]⟩ ∧
    ReceiverReport.parse (ReceiverReport.build ⟨12345,[lossBlock 0,lossBlock 0]⟩) =
      .ok ⟨12345,[lossBlock 0,lossBlock 0]⟩ := by
  have h := reports_read_back_iff ⟨12345,⟨1,2⟩,160000,100,16000,[lossBlock 0]⟩
    ⟨12345,[lossBlock 0,lossBlock 0]⟩ (by decide) (by decide)
  exact ⟨h.1.mpr (by simp [lossBlock]),h.2.mpr (by simp [lossBlock])⟩

/-- Ten lost packets are read back as none, minus one as 65535. -/
theorem loss_not_read_back :
    ReceiverReport.parse (ReceiverReport.build ⟨12345,[lossBlock 10,lossBlock (-1)]⟩) =
      .ok ⟨12345,[lossBlock 0,lossBlock 65535]⟩ ∧
    ReceiverReport.parse (ReceiverReport.build ⟨12345,[lossBlock 10,lossBlock (-1)]⟩) ≠
      .ok ⟨12345,[lossBlock 10,lossBlock (-1)]⟩ := by
  decide

end RsipRtp.RtcpReport
