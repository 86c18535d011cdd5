import RsipRtp.RtpFormat
import RsipRtp.SrtpPacket

/-!
# Two walks over one RTP header

The packet reader consumes the header piece by piece; the SRTP context only
adds up how long it is.
-/

namespace RsipRtp.RtpHeader
open SipText BigEndian RtpFormat
open SrtpContext (byteAt getRtpHeaderLen rtpHeaderSize)

theorem extension_flag (b : UInt8) : b &&& 0x10 ≠ 0 ↔ (b >>> 4 &&& 0x01 == 1) = true := by
  have htable : ∀ n : Fin 256, UInt8.ofNat n &&& 0x10 ≠ 0 ↔
      (UInt8.ofNat n >>> 4 &&& 0x01 == 1) = true := by decide +kernel
  simpa only [UInt8.ofNat_toNat] using htable ⟨b.toNat,b.toNat_lt⟩

theorem byteAt_drop (data : Bytes) (n i : ℕ) : byteAt (data.drop n) i = byteAt data (n+i) := by
  simp [byteAt, List.getD_eq_getElem?_getD]

section Walk

def version (data : Bytes) : UInt8 := byteAt data 0 >>> 6 &&& 0x03

def hasPadding (data : Bytes) : Bool := byteAt data 0 >>> 5 &&& 0x01 == 1

def hasExtension (data : Bytes) : Bool := byteAt data 0 >>> 4 &&& 0x01 == 1

def csrcEnd (data : Bytes) : ℕ := rtpHeaderSize+(byteAt data 0 &&& 0x0F).toNat*4

def BadPadding (data : Bytes) (headerLen : ℕ) : Prop :=
  hasPadding data = true ∧ headerLen < data.length ∧
    data.length-headerLen < (data.getLastD 0).toNat

variable {data : Bytes}

def extensionSize (header : Option ExtensionHeader) : ℕ :=
  (header.map ExtensionHeader.size).getD 0

theorem headerLen_fixed {n : ℕ} (h : getRtpHeaderLen data = .ok n) :
    csrcEnd data ≤ data.length := by
  unfold getRtpHeaderLen at h
  dsimp only at h
  unfold csrcEnd
  split_ifs at h <;> omega

theorem headerLen_extension (hend : csrcEnd data ≤ data.length) (hflag : hasExtension data = true) :
    getRtpHeaderLen data =
      if data.length < csrcEnd data+4 then .error "RTP packet too short for extension"
      else
        let extLen := (getU16 (byteAt (data.drop (csrcEnd data)) 2)
          (byteAt (data.drop (csrcEnd data)) 3)).toNat
        if data.length < csrcEnd data+(4+extLen*4) then .error "RTP packet too short for header"
        else .ok (csrcEnd data+(4+extLen*4)) := by
  have hfixed : ¬data.length < rtpHeaderSize := by unfold csrcEnd at hend; omega
  rw [getRtpHeaderLen, if_neg hfixed, byteAt_drop, byteAt_drop]
  dsimp only
  rw [if_pos ((extension_flag _).mpr hflag)]
  rfl

theorem headerLen_plain (hend : csrcEnd data ≤ data.length) (hflag : hasExtension data = false) :
    getRtpHeaderLen data = .ok (csrcEnd data) := by
  have hfixed : ¬data.length < rtpHeaderSize := by unfold csrcEnd at hend; omega
  have hclear : ¬byteAt data 0 &&& 0x10 ≠ 0 := fun h =>
    Bool.false_ne_true (hflag.symm.trans ((extension_flag _).mp h))
  rw [getRtpHeaderLen, if_neg hfixed]
  dsimp only
  rw [if_neg hclear]
  exact if_neg (Nat.not_lt.mpr hend)

theorem extension_walk (hend : csrcEnd data ≤ data.length) :
    (∃ header, getExtension (hasExtension data) (data.drop (csrcEnd data)) =
        .ok (header,data.drop (csrcEnd data+extensionSize header)) ∧
      getRtpHeaderLen data = .ok (csrcEnd data+extensionSize header)) ∨
    (getExtension (hasExtension data) (data.drop (csrcEnd data)) = .error .extensionTruncated ∧
      ∃ message, getRtpHeaderLen data = .error message) := by
  cases hflag : hasExtension data with
  | false => exact .inl ⟨none,rfl,headerLen_plain hend hflag⟩
  | true =>
    rw [headerLen_extension hend hflag]
    have hlen : (data.drop (csrcEnd data)).length = data.length-csrcEnd data := List.length_drop
    have hrest (n : ℕ) : data.drop (csrcEnd data+n) = (data.drop (csrcEnd data)).drop n := by
      rw [List.drop_drop]
    match hbuf : data.drop (csrcEnd data) with
    | p1::p0::l1::l0::buf =>
      rw [hbuf] at hlen
      simp only [List.length_cons] at hlen
      have hfour : ¬data.length < csrcEnd data+4 := by omega
      rw [if_neg hfour]
      simp only [getExtension, if_true]
      change (∃ header, _ ∧ (if data.length < csrcEnd data+(4+(getU16 l1 l0).toNat*4) then _
        else _) = _) ∨ _ ∧
          ∃ message, (if data.length < csrcEnd data+(4+(getU16 l1 l0).toNat*4) then _
        else _) = _
      by_cases hlong : buf.length < (getU16 l1 l0).toNat*4
      · rw [if_pos hlong, if_pos (by omega)]
        exact .inr ⟨rfl,_,rfl⟩
      · have hsize : extensionSize (some ⟨getU16 p1 p0,buf.take ((getU16 l1 l0).toNat*4)⟩) =
            4+(getU16 l1 l0).toNat*4 := by
          simp only [extensionSize, Option.map_some, Option.getD_some, ExtensionHeader.size,
            List.length_take]
          omega
        rw [if_neg hlong, if_neg (by omega)]
        refine .inl ⟨_,?_,congrArg _ (congrArg _ hsize.symm)⟩
        rw [hsize, hrest, hbuf, Nat.add_comm 4]
        rfl
    | [] | [_] | [_,_] | [_,_,_] =>
      rw [hbuf] at hlen
      simp only [List.length_cons, List.length_nil] at hlen
      rw [if_pos (by omega)]
      exact .inr ⟨rfl,_,rfl⟩

end Walk

section Parse

variable {data : Bytes}

/-- The reader behind its tests: the extension, then the payload. The header
of what it returns ends where the extension does. -/
theorem parse_walk (hversion : version data = 2) (hend : csrcEnd data ≤ data.length) :
    ∃ packet : Option ExtensionHeader → Bytes → RtpPacket,
      (parse data = (getExtension (hasExtension data) (data.drop (csrcEnd data))).bind fun e =>
        (payloadLen (hasPadding data) data e.2).bind fun len => .ok (packet e.1 (e.2.take len))) ∧
      ∀ header payload, (packet header payload).headerSize = csrcEnd data+extensionSize header := by
  match data with
  | f::s::s1::s0::t3::t2::t1::t0::r3::r2::r1::r0::buf =>
    have hbuf : (f &&& 0x0F).toNat*4 ≤ buf.length := by
      change 12+(f &&& 0x0F).toNat*4 ≤ buf.length+12 at hend
      omega
    have hdrop : (f::s::s1::s0::t3::t2::t1::t0::r3::r2::r1::r0::buf).drop
        (12+(f &&& 0x0F).toNat*4) = (getCsrc (f &&& 0x0F).toNat buf).2 := by
      rw [getCsrc_rest _ _ hbuf, Nat.add_comm]
      rfl
    refine ⟨fun header payload => ⟨f >>> 6 &&& 0x03,f >>> 5 &&& 0x01 == 1,f >>> 4 &&& 0x01 == 1,
      s >>> 7 &&& 0x01 == 1,s &&& 0x7F,getU16 s1 s0,getU32 t3 t2 t1 t0,getU32 r3 r2 r1 r0,
      (getCsrc (f &&& 0x0F).toNat buf).1,header,payload⟩,?_,fun header payload => ?_⟩
    · have htwo : f >>> 6 &&& 0x03 = 2 := hversion
      rw [parse]
      dsimp only
      rw [if_neg (not_not.mpr htwo), if_neg (Nat.not_lt.mpr hbuf)]
      change _ = (getExtension _ (List.drop (12+(f &&& 0x0F).toNat*4) _)).bind _
      rw [hdrop]
      rfl
    · rw [RtpPacket.headerSize, getCsrc_length _ _ hbuf]
      rfl
  | [] | [_] | [_,_] | [_,_,_] | [_,_,_,_] | [_,_,_,_,_] | [_,_,_,_,_,_] | [_,_,_,_,_,_,_]
  | [_,_,_,_,_,_,_,_] | [_,_,_,_,_,_,_,_,_] | [_,_,_,_,_,_,_,_,_,_] | [_,_,_,_,_,_,_,_,_,_,_] =>
    simp only [csrcEnd, rtpHeaderSize, List.length_cons, List.length_nil] at hend
    omega

theorem parse_ok_fixed {p : RtpPacket} (h : parse data = .ok p) :
    version data = 2 ∧ csrcEnd data ≤ data.length := by
  unfold parse at h
  split at h
  · next f s s1 s0 t3 t2 t1 t0 r3 r2 r1 r0 buf =>
    dsimp only at h
    split_ifs at h with hversion hcsrc
    refine ⟨not_not.mp hversion,?_⟩
    change 12+(f &&& 0x0F).toNat*4 ≤ buf.length+12
    omega
  · cases h

theorem payloadLen_error {padding : Bool} {buf : Bytes} {e : RtpParseError}
    (h : payloadLen padding data buf = .error e) :
    e = .payloadTruncated ∧ padding = true ∧ buf ≠ [] ∧
      buf.length < (data.getLastD 0).toNat := by
  unfold payloadLen at h
  dsimp only at h
  split_ifs at h with hpadding hlong
  rw [Bool.and_eq_true, Bool.not_eq_true', List.isEmpty_eq_false_iff] at hpadding
  exact ⟨(Except.error.inj h).symm,hpadding.1,hpadding.2,hlong⟩

theorem parse_headerLen {p : RtpPacket} (h : parse data = .ok p) :
    getRtpHeaderLen data = .ok p.headerSize := by
  obtain ⟨hversion,hend⟩ := parse_ok_fixed h
  obtain ⟨packet,hparse,hsize⟩ := parse_walk hversion hend
  rw [hparse] at h
  obtain ⟨header,hext,hheader⟩ | ⟨hext,-⟩ := extension_walk hend
  · rw [hext] at h
    change (payloadLen _ _ (data.drop (csrcEnd data+extensionSize header))).bind _ = _ at h
    obtain ⟨len,-,h⟩ := bind_ok h
    cases h
    rw [hsize, hheader]
  · rw [hext] at h
    cases h

theorem parse_error_padding {n : ℕ} {e : RtpParseError} (hversion : version data = 2)
    (hlen : getRtpHeaderLen data = .ok n) (h : parse data = .error e) :
    e = .payloadTruncated ∧ BadPadding data n := by
  have hend := headerLen_fixed hlen
  obtain ⟨packet,hparse,-⟩ := parse_walk hversion hend
  rw [hparse] at h
  obtain ⟨header,hext,hheader⟩ | ⟨-,message,herror⟩ := extension_walk hend
  · rw [hext] at h
    have hn : csrcEnd data+extensionSize header = n := Except.ok.inj (hheader.symm.trans hlen)
    rw [hn] at h
    change (payloadLen _ _ (data.drop n)).bind _ = _ at h
    cases hpayload : payloadLen (hasPadding data) data (data.drop n) with
    | ok len => rw [hpayload] at h; cases h
    | error e' =>
      rw [hpayload] at h
      cases h
      obtain ⟨he,hpadding,hrest,hlong⟩ := payloadLen_error hpayload
      rw [List.length_drop] at hlong
      rw [ne_eq, List.drop_eq_nil_iff, Nat.not_le] at hrest
      exact ⟨he,hpadding,hrest,hlong⟩
  · cases herror.symm.trans hlen

end Parse

/-- A packet that the reader accepts has the header length that the cipher
uses, so that exactly its header is left in clear; and of the packets with
version 2 and a header that fits, only those with a bad padding count are
refused. -/
theorem header_walks_agree (data : Bytes) :
    (∀ p, parse data = .ok p → getRtpHeaderLen data = .ok p.headerSize ∧
      ∀ (c : SrtpKdf.Crypto) (ctx : SrtpContext.Context), ∃ iv tag,
        (SrtpContext.protect c ctx data).1 = .ok (data.take p.headerSize++
          c.applyKeystream ctx.keys.srtpEncKey iv (data.drop p.headerSize)++tag)) ∧
    ∀ n e, version data = 2 → getRtpHeaderLen data = .ok n → parse data = .error e →
      e = .payloadTruncated ∧ BadPadding data n := by
  refine ⟨fun p h => ?_,fun n e => parse_error_padding⟩
  have hlen := parse_headerLen h
  refine ⟨hlen,fun c ctx => ?_⟩
  have hlong : ¬data.length < rtpHeaderSize := by
    have := SrtpPacket.headerLen_bounds hlen
    omega
  rw [SrtpContext.protect_long hlong, hlen]
  exact ⟨_,_,rfl⟩

/-- A packet with one contributing source, an extension of one word and two
bytes of padding behind one byte of payload. -/
def sampleData : Bytes :=
  [0xB1,0x00,0x00,0x01,0x00,0x00,0x00,0xA0,0x00,0x00,0x30,0x39,0,0,0,7,0xBE,0xDE,0,1,1,2,3,4,
    0xAA,0x00,0x02]

def samplePacket : RtpPacket :=
  ⟨2,true,true,false,0,1,160,12345,[7],some ⟨0xBEDE,[1,2,3,4]⟩,[0xAA]⟩

theorem header_walks_agree_at_sample :
    parse sampleData = .ok samplePacket ∧ samplePacket.headerSize = 24 ∧
      getRtpHeaderLen sampleData = .ok samplePacket.headerSize :=
  have hparse : parse sampleData = .ok samplePacket := by decide +kernel
  ⟨hparse,by decide +kernel,((header_walks_agree sampleData).1 samplePacket hparse).1⟩

end RsipRtp.RtpHeader
