import RsipRtp.BigEndian
import RsipRtp.SipText

/-!
# RTP packets

The reader and the writer of the RTP wire format.
-/

namespace RsipRtp.RtpFormat
open SipText BigEndian

variable {p : RtpPacket}

structure ExtensionHeader where
  profile : UInt16
  data : Bytes
deriving DecidableEq

structure RtpPacket where
  version : UInt8
  padding : Bool
  extension : Bool
  marker : Bool
  payloadType : UInt8
  sequenceNumber : UInt16
  timestamp : UInt32
  ssrc : UInt32
  csrc : List UInt32
  extensionHeader : Option ExtensionHeader
  payload : Bytes
deriving DecidableEq

inductive RtpParseError
  | tooShort (len : ℕ)
  | invalidVersion (version : UInt8)
  | extensionTruncated
  | payloadTruncated
deriving DecidableEq

def getCsrc : ℕ → Bytes → List UInt32 × Bytes
  | 0, buf => ([],buf)
  | n+1, b3::b2::b1::b0::buf =>
    let (csrc,rest) := getCsrc n buf
    (getU32 b3 b2 b1 b0::csrc,rest)
  | _+1, buf => ([],buf)

def getExtension (extension : Bool) (buf : Bytes) :
    Except RtpParseError (Option ExtensionHeader × Bytes) :=
  if extension then
    match buf with
    | p1::p0::l1::l0::buf =>
      let length := (getU16 l1 l0).toNat*4
      if buf.length < length then .error .extensionTruncated
      else .ok (some ⟨getU16 p1 p0,buf.take length⟩,buf.drop length)
    | _ => .error .extensionTruncated
  else .ok (none,buf)

def payloadLen (padding : Bool) (data buf : Bytes) : Except RtpParseError ℕ :=
  if padding && !buf.isEmpty then
    let paddingCount := (data.getLastD 0).toNat
    if buf.length < paddingCount then .error .payloadTruncated
    else .ok (buf.length-paddingCount)
  else .ok buf.length

def parse (data : Bytes) : Except RtpParseError RtpPacket :=
  match data with
  | firstByte::secondByte::s1::s0::t3::t2::t1::t0::r3::r2::r1::r0::buf =>
    let version := (firstByte >>> 6) &&& 0x03
    let padding := (firstByte >>> 5) &&& 0x01 == 1
    let extension := (firstByte >>> 4) &&& 0x01 == 1
    let csrcCount := (firstByte &&& 0x0F).toNat
    if version ≠ 2 then .error (.invalidVersion version)
    else if buf.length < csrcCount*4 then .error (.tooShort data.length)
    else do
      let (csrc,buf) := getCsrc csrcCount buf
      let (extensionHeader,buf) ← getExtension extension buf
      let len ← payloadLen padding data buf
      return {
        version, padding, extension
        marker := (secondByte >>> 7) &&& 0x01 == 1
        payloadType := secondByte &&& 0x7F
        sequenceNumber := getU16 s1 s0
        timestamp := getU32 t3 t2 t1 t0
        ssrc := getU32 r3 r2 r1 r0
        csrc, extensionHeader
        payload := buf.take len }
  | _ => .error (.tooShort data.length)

def firstByte (p : RtpPacket) : UInt8 :=
  (p.version <<< 6) ||| (p.padding.toUInt8 <<< 5) |||
    (p.extensionHeader.isSome.toUInt8 <<< 4) ||| (UInt8.ofNat p.csrc.length &&& 0x0F)

def secondByte (p : RtpPacket) : UInt8 :=
  (p.marker.toUInt8 <<< 7) ||| (p.payloadType &&& 0x7F)

def putExtension : Option ExtensionHeader → Bytes
  | some ext =>
    let wordLen := (ext.data.length+3)/4
    putU16 ext.profile++putU16 (UInt16.ofNat wordLen)++ext.data ++
      List.replicate (wordLen*4-ext.data.length) 0
  | none => []

def build (p : RtpPacket) : Bytes :=
  [firstByte p,secondByte p]++putU16 p.sequenceNumber++putU32 p.timestamp ++
    putU32 p.ssrc++p.csrc.flatMap putU32++putExtension p.extensionHeader++p.payload

def RtpPacket.new (payloadType : UInt8) (sequenceNumber : UInt16) (timestamp ssrc : UInt32) :
    RtpPacket :=
  ⟨2,false,false,false,payloadType,sequenceNumber,timestamp,ssrc,[],none,[]⟩

def RtpPacket.withMarker (marker : Bool) (p : RtpPacket) : RtpPacket := {p with marker}

def RtpPacket.withPayload (payload : Bytes) (p : RtpPacket) : RtpPacket := {p with payload}

def ExtensionHeader.size (ext : ExtensionHeader) : ℕ := 4+(ext.data.length+3)/4*4

def RtpPacket.headerSize (p : RtpPacket) : ℕ :=
  12+p.csrc.length*4+(p.extensionHeader.map ExtensionHeader.size).getD 0

def sequenceDiff (a b : UInt16) : ℤ := (a-b).toInt16.toInt

structure WellFormed (p : RtpPacket) : Prop where
  version : p.version = 2
  payloadType : p.payloadType &&& 0x7F = p.payloadType
  csrc : p.csrc.length < 16
  extension : p.extension = p.extensionHeader.isSome
  words : ∀ ext ∈ p.extensionHeader, ∃ n : UInt16, ext.data.length = n.toNat*4

theorem getCsrc_length (n : ℕ) (buf : Bytes) (h : n*4 ≤ buf.length) :
    (getCsrc n buf).1.length = n := by
  induction n generalizing buf with
  | zero => rfl
  | succ n ih =>
    match buf with
    | b3::b2::b1::b0::buf =>
      simp only [List.length_cons] at h
      rw [getCsrc, List.length_cons, ih buf (by omega)]
    | [] | [_] | [_,_] | [_,_,_] => simp only [List.length_cons, List.length_nil] at h; omega

theorem getCsrc_rest (n : ℕ) (buf : Bytes) (h : n*4 ≤ buf.length) :
    (getCsrc n buf).2 = buf.drop (n*4) := by
  induction n generalizing buf with
  | zero => rfl
  | succ n ih =>
    match buf with
    | b3::b2::b1::b0::buf =>
      simp only [List.length_cons] at h
      rw [getCsrc, Nat.succ_mul]
      exact ih buf (by omega)
    | [] | [_] | [_,_] | [_,_,_] => simp only [List.length_cons, List.length_nil] at h; omega

theorem getCsrc_put (csrc : List UInt32) (rest : Bytes) :
    getCsrc csrc.length (csrc.flatMap putU32++rest) = (csrc,rest) := by
  induction csrc with
  | nil => rfl
  | cons c csrc ih =>
    obtain ⟨b3,b2,b1,b0,hput,hget⟩ := putU32_read c
    simp only [List.flatMap_cons, hput, List.cons_append, List.nil_append, List.length_cons,
      getCsrc, ih, hget]

theorem getExtension_words {extension : Bool} {buf rest : Bytes} {header : Option ExtensionHeader}
    (h : getExtension extension buf = .ok (header,rest)) :
    extension = header.isSome ∧ ∀ ext ∈ header, ∃ n : UInt16, ext.data.length = n.toNat*4 := by
  cases extension with
  | false => cases h; simp
  | true =>
    match buf with
    | p1::p0::l1::l0::buf =>
      simp only [getExtension, if_true] at h
      split at h
      · cases h
      · next hlen =>
        cases h
        refine ⟨rfl,fun ext hext => ⟨getU16 l1 l0,?_⟩⟩
        cases hext
        rw [List.length_take]
        omega
    | [] | [_] | [_,_] | [_,_,_] => cases h

theorem getExtension_put (header : Option ExtensionHeader) (rest : Bytes)
    (h : ∀ ext ∈ header, ∃ n : UInt16, ext.data.length = n.toNat*4) :
    getExtension header.isSome (putExtension header++rest) = .ok (header,rest) := by
  cases header with
  | none => rfl
  | some ext =>
    obtain ⟨n,hn⟩ := h ext rfl
    obtain ⟨p1,p0,hprofile,hprofile'⟩ := putU16_read ext.profile
    obtain ⟨l1,l0,hlength,hlength'⟩ := putU16_read n
    have hwords : (ext.data.length+3)/4 = n.toNat := by omega
    have hput : putExtension (some ext) = p1::p0::l1::l0::ext.data := by
      simp only [putExtension, hwords, ← hn, hprofile, UInt16.ofNat_toNat, hlength, Nat.sub_self,
        List.replicate_zero, List.append_nil, List.cons_append, List.nil_append]
    have hfits : ¬(ext.data++rest).length < n.toNat*4 := by
      rw [List.length_append]
      omega
    simp only [hput, Option.isSome_some, getExtension, if_true, List.cons_append, hlength',
      hprofile', if_neg hfits]
    rw [← hn, List.take_left, List.drop_left]

theorem parse_wellFormed {d : Bytes} (h : parse d = .ok p) : WellFormed p := by
  unfold parse at h
  split at h
  · next firstByte secondByte s1 s0 t3 t2 t1 t0 r3 r2 r1 r0 buf =>
    dsimp only at h
    split at h
    · cases h
    · next hversion =>
      split at h
      · cases h
      · next hcsrc =>
        obtain ⟨⟨header,rest⟩,hext,h⟩ := bind_ok h
        obtain ⟨len,_,h⟩ := bind_ok h
        obtain ⟨hflag,hwords⟩ := getExtension_words hext
        cases h
        exact {
          version := not_not.mp hversion
          payloadType := by rw [UInt8.and_assoc, UInt8.and_self]
          csrc := by
            rw [getCsrc_length _ _ (by omega), UInt8.toNat_and]
            exact lt_of_le_of_lt Nat.and_le_right (by decide)
          extension := hflag
          words := hwords }
  · cases h

theorem firstByte_bits (padding extension : Bool) (n : Fin 16) :
    let b : UInt8 := ((2 : UInt8) <<< 6) ||| (padding.toUInt8 <<< 5) |||
      (extension.toUInt8 <<< 4) ||| (UInt8.ofNat n &&& 0x0F)
    (b >>> 6) &&& 0x03 = 2 ∧ ((b >>> 5) &&& 0x01 == 1) = padding ∧
      ((b >>> 4) &&& 0x01 == 1) = extension ∧ (b &&& 0x0F).toNat = n := by
  revert padding extension n
  decide

theorem secondByte_bits (marker : Bool) (n : Fin 256) :
    let b : UInt8 := (marker.toUInt8 <<< 7) ||| (UInt8.ofNat n &&& 0x7F)
    ((b >>> 7) &&& 0x01 == 1) = marker ∧ b &&& 0x7F = UInt8.ofNat n &&& 0x7F := by
  revert marker n
  decide +kernel

theorem firstByte_read (h : WellFormed p) :
    (firstByte p >>> 6) &&& 0x03 = 2 ∧ ((firstByte p >>> 5) &&& 0x01 == 1) = p.padding ∧
      ((firstByte p >>> 4) &&& 0x01 == 1) = p.extensionHeader.isSome ∧
      (firstByte p &&& 0x0F).toNat = p.csrc.length := by
  rw [firstByte, h.version]
  exact firstByte_bits p.padding p.extensionHeader.isSome ⟨p.csrc.length,h.csrc⟩

theorem secondByte_read (h : WellFormed p) :
    ((secondByte p >>> 7) &&& 0x01 == 1) = p.marker ∧ secondByte p &&& 0x7F = p.payloadType := by
  have hbits := secondByte_bits p.marker ⟨p.payloadType.toNat,p.payloadType.toNat_lt⟩
  simp only [UInt8.ofNat_toNat] at hbits
  exact ⟨hbits.1,hbits.2.trans h.payloadType⟩

theorem parse_build (h : WellFormed p) :
    parse (build p) = (payloadLen p.padding (build p) p.payload).map
      (fun len => {p with payload := p.payload.take len}) := by
  obtain ⟨s1,s0,hseq,hseq'⟩ := putU16_read p.sequenceNumber
  obtain ⟨t3,t2,t1,t0,hts,hts'⟩ := putU32_read p.timestamp
  obtain ⟨r3,r2,r1,r0,hssrc,hssrc'⟩ := putU32_read p.ssrc
  obtain ⟨hversion,hpadding,hextension,hcount⟩ := firstByte_read h
  obtain ⟨hmarker,htype⟩ := secondByte_read h
  have hbuild : build p = firstByte p::secondByte p::s1::s0::t3::t2::t1::t0::r3::r2::r1::r0::
      (p.csrc.flatMap putU32++(putExtension p.extensionHeader++p.payload)) := by
    simp only [build, hseq, hts, hssrc, List.cons_append, List.nil_append, List.append_assoc]
  have hfits : ¬(p.csrc.flatMap putU32++(putExtension p.extensionHeader++p.payload)).length <
      p.csrc.length*4 := by
    simp [putU32, List.length_flatMap]
  rw [hbuild, parse]
  simp only [hversion, hpadding, hextension, hcount, hmarker, htype, hseq', hts', hssrc',
    getCsrc_put, getExtension_put _ _ h.words, ne_eq, not_true, if_false, if_neg hfits]
  change (payloadLen p.padding _ p.payload >>= _) = _
  cases payloadLen p.padding _ p.payload with
  | error => rfl
  | ok len =>
    have hp : p = ⟨2,p.padding,p.extensionHeader.isSome,p.marker,p.payloadType,p.sequenceNumber,
        p.timestamp,p.ssrc,p.csrc,p.extensionHeader,p.payload⟩ := by
      rw [← h.version, ← h.extension]
    conv_rhs => rw [hp]
    rfl

theorem take_payload_eq {len : ℕ} :
    {p with payload := p.payload.take len} = p ↔ p.payload.length ≤ len := by
  rw [← List.take_eq_self_iff]
  exact ⟨congrArg RtpPacket.payload,fun h => by rw [h]⟩

theorem payloadLen_build {front : Bytes} {b : UInt8} (hpadding : p.padding = true)
    (hpayload : p.payload = front++[b]) :
    payloadLen p.padding (build p) p.payload =
      if front.length+1 < b.toNat then .error .payloadTruncated
      else .ok (front.length+1-b.toNat) := by
  have hlast : (build p).getLastD 0 = b := by
    rw [build, hpayload, ← List.append_assoc, List.getLastD_concat]
  simp only [payloadLen, hlast]
  simp [hpadding, hpayload]

/-- The padding itself is not written, so a packet whose flag is set comes
back only if its payload holds nothing that reads as a padding count. -/
theorem parse_build_parse_iff {d : Bytes} {p : RtpPacket} (h : parse d = .ok p) :
    parse (build p) = .ok p ↔
      p.padding = false ∨ p.payload = [] ∨ p.payload.getLast? = some 0 := by
  rw [parse_build (parse_wellFormed h)]
  by_cases hempty : (p.padding && !p.payload.isEmpty) = true
  · rw [Bool.and_eq_true, Bool.not_eq_true', List.isEmpty_eq_false_iff] at hempty
    obtain ⟨front,b,hpayload⟩ := (List.eq_nil_or_concat' p.payload).resolve_left hempty.2
    rw [payloadLen_build hempty.1 hpayload]
    split
    · next hlong =>
      have hzero : b ≠ 0 := fun hz => by rw [hz] at hlong; exact absurd hlong (Nat.not_lt_zero _)
      simp [Except.map, hempty, hpayload, hzero]
    · next hfits =>
      have hzero : front.length+1 ≤ front.length+1-b.toNat ↔ b = 0 := by
        rw [← UInt8.toNat_inj, UInt8.toNat_zero]
        omega
      rw [Except.map, Except.ok.injEq, take_payload_eq]
      simp [hempty, hpayload, hzero]
  · have hlen : payloadLen p.padding (build p) p.payload = .ok p.payload.length := if_neg hempty
    rw [hlen, Except.map, Except.ok.injEq, take_payload_eq]
    have hkept : p.padding = false ∨ p.payload = [] := by
      simpa [Bool.and_eq_true, Classical.or_iff_not_imp_left] using hempty
    exact ⟨fun _ => hkept.imp_right .inl,fun _ => le_refl _⟩

/-- Version 2 with the padding flag, payload type 0, sequence number 1,
timestamp 160, source 12345, a payload of two bytes and two of padding. -/
def paddedDatagram (payload : Bytes) : Bytes :=
  [0xA0,0x00,0x00,0x01,0x00,0x00,0x00,0xA0,0x00,0x00,0x30,0x39]++payload++[0x00,0x02]

def paddedPacket (payload : Bytes) : RtpPacket :=
  ⟨2,true,false,false,0,1,160,12345,[],none,payload⟩

theorem parse_build_parse_zero_tail :
    parse (paddedDatagram [0xAA,0x00]) = .ok (paddedPacket [0xAA,0x00]) ∧
      parse (build (paddedPacket [0xAA,0x00])) = .ok (paddedPacket [0xAA,0x00]) :=
  ⟨by decide,(parse_build_parse_iff (by decide :
    parse (paddedDatagram [0xAA,0x00]) = .ok (paddedPacket [0xAA,0x00]))).mpr (by decide)⟩

theorem padded_packet_not_read_back :
    parse (paddedDatagram [0xAA,0xBB]) = .ok (paddedPacket [0xAA,0xBB]) ∧
      parse (build (paddedPacket [0xAA,0xBB])) = .error .payloadTruncated := by
  decide

end RsipRtp.RtpFormat
