import RsipRtp.BigEndian
import RsipRtp.SrtpKdf

/-!
# The SRTP context

One context protects outgoing RTP packets and unprotects incoming ones.
-/

namespace RsipRtp.SrtpContext
open SipText BigEndian SrtpKdf

def rtpHeaderSize : ℕ := 12

structure Context where
  suite : CryptoSuite
  keys : SessionKeys
  senderRoc : UInt32
  receiverRoc : UInt32
  highestSeq : UInt16
  firstPacket : Bool

def fresh (suite : CryptoSuite) (keys : SessionKeys) : Context :=
  { suite, keys, senderRoc := 0, receiverRoc := 0, highestSeq := 0, firstPacket := true }

/-- Byte `i`, which the length tests before it put inside the packet. -/
def byteAt (b : Bytes) (i : ℕ) : UInt8 := b.getD i 0

def seqOf (rtp : Bytes) : UInt16 := getU16 (byteAt rtp 2) (byteAt rtp 3)

def ssrcOf (rtp : Bytes) : UInt32 :=
  getU32 (byteAt rtp 8) (byteAt rtp 9) (byteAt rtp 10) (byteAt rtp 11)

def packetIndex (roc : UInt32) (seq : UInt16) : UInt64 := roc.toUInt64 <<< 16 ||| seq.toUInt64

def bytes48 (n : UInt64) : Bytes := encode 6 n.toNat

/-- The salt, with the SSRC in bytes 4 to 7 and the index in bytes 8 to 13. -/
def buildIv (salt : Octets 14) (ssrc : UInt32) (index : UInt64) : Octets 16 :=
  ⟨(saltBlock salt).1.zipWith (· ^^^ ·) ([0,0,0,0]++putU32 ssrc++bytes48 index++[0,0]),by
    simp [(saltBlock salt).2, putU32, bytes48]⟩

def getRtpHeaderLen (rtp : Bytes) : Except String ℕ :=
  if rtp.length < rtpHeaderSize then .error "RTP packet too short"
  else
    let headerLen := rtpHeaderSize+(byteAt rtp 0 &&& 0x0F).toNat*4
    if byteAt rtp 0 &&& 0x10 ≠ 0 then
      if rtp.length < headerLen+4 then .error "RTP packet too short for extension"
      else
        let extLen := (getU16 (byteAt rtp (headerLen+2)) (byteAt rtp (headerLen+3))).toNat
        let headerLen := headerLen+(4+extLen*4)
        if rtp.length < headerLen then .error "RTP packet too short for header"
        else .ok headerLen
    else if rtp.length < headerLen then .error "RTP packet too short for header"
    else .ok headerLen

def HeaderFits (rtp : Bytes) : Prop := ∃ headerLen, getRtpHeaderLen rtp = .ok headerLen

def estimateRoc (currentRoc : UInt32) (highestSeq newSeq : UInt16) : UInt32 :=
  if highestSeq < 0x8000 then
    if newSeq > highestSeq ∧ newSeq-highestSeq > 0x8000 then currentRoc-1 else currentRoc
  else if newSeq < highestSeq ∧ highestSeq-newSeq > 0x8000 then currentRoc+1
  else currentRoc

def constantTimeCompare (a b : Bytes) : Bool :=
  if a.length ≠ b.length then false
  else (a.zip b).foldl (fun result p => result ||| p.1 ^^^ p.2) 0 == 0

theorem foldl_or_eq_zero (l : List (UInt8 × UInt8)) (acc : UInt8) :
    l.foldl (fun result p => result ||| p.1 ^^^ p.2) acc = 0 ↔
      acc = 0 ∧ ∀ p ∈ l, p.1 = p.2 := by
  induction l generalizing acc with
  | nil => simp
  | cons p l ih => simp [ih, UInt8.or_eq_zero_iff, and_assoc]

theorem zip_forall_eq {a b : Bytes} (hl : a.length = b.length) :
    (∀ p ∈ a.zip b, p.1 = p.2) ↔ a = b := by
  induction a generalizing b with
  | nil => simp [List.length_eq_zero_iff.mp hl.symm]
  | cons x a ih =>
    cases b with
    | nil => cases hl
    | cons y b =>
      rw [List.zip_cons_cons, List.forall_mem_cons, ih (Nat.succ.inj hl), List.cons.injEq]

theorem constantTimeCompare_iff (a b : Bytes) : constantTimeCompare a b = true ↔ a = b := by
  unfold constantTimeCompare
  by_cases hl : a.length = b.length
  · rw [if_neg (not_not.mpr hl), beq_iff_eq, foldl_or_eq_zero, zip_forall_eq hl]
    exact and_iff_right rfl
  · rw [if_pos hl]
    exact ⟨nofun,fun h => absurd (congrArg List.length h) hl⟩

def computeAuthTag (c : Crypto) (keys : SessionKeys) (packet : Bytes) (roc : UInt32) : Octets 20 :=
  c.hmacSha1 keys.srtpAuthKey (packet++putU32 roc)

def cryptPayload (c : Crypto) (keys : SessionKeys) (packet : Bytes) (index : UInt64)
    (headerLen : ℕ) : Bytes :=
  packet.take headerLen++
    c.applyKeystream keys.srtpEncKey (buildIv keys.srtpSalt (ssrcOf packet) index)
      (packet.drop headerLen)

def rollsOver (highestSeq seq : UInt16) : Bool := seq < 0x8000 && highestSeq > 0x8000

def updateSender (ctx : Context) (seq : UInt16) : Context :=
  { ctx with
    senderRoc := if rollsOver ctx.highestSeq seq then ctx.senderRoc+1 else ctx.senderRoc
    highestSeq := seq }

def protect (c : Crypto) (ctx : Context) (rtp : Bytes) : Except String Bytes × Context :=
  if rtp.length < rtpHeaderSize then (.error "RTP packet too short",ctx)
  else
    let seq := seqOf rtp
    let ctx := updateSender ctx seq
    match getRtpHeaderLen rtp with
    | .error e => (.error e,ctx)
    | .ok headerLen =>
      let output := cryptPayload c ctx.keys rtp (packetIndex ctx.senderRoc seq) headerLen
      let tag := computeAuthTag c ctx.keys output ctx.senderRoc
      (.ok (output++tag.1.take ctx.suite.authTagLen),ctx)

/-- The ROC under which a packet is checked. The first packet marks the
context before it is checked. -/
def chooseRoc (ctx : Context) (seq : UInt16) : UInt32 × Context :=
  if ctx.firstPacket then (0,{ ctx with firstPacket := false, highestSeq := seq })
  else (estimateRoc ctx.receiverRoc ctx.highestSeq seq,ctx)

def updateReceiver (ctx : Context) (roc : UInt32) (seq : UInt16) : Context :=
  if packetIndex ctx.receiverRoc ctx.highestSeq < packetIndex roc seq then
    { ctx with receiverRoc := roc, highestSeq := seq }
  else ctx

def splitTag (ctx : Context) (srtp : Bytes) : Bytes × Bytes :=
  srtp.splitAt (srtp.length-ctx.suite.authTagLen)

def unprotect (c : Crypto) (ctx : Context) (srtp : Bytes) : Except String Bytes × Context :=
  let tagLen := ctx.suite.authTagLen
  if srtp.length < rtpHeaderSize+tagLen then (.error "SRTP packet too short",ctx)
  else
    let (packet,receivedTag) := splitTag ctx srtp
    let seq := seqOf packet
    let (roc,ctx) := chooseRoc ctx seq
    if !constantTimeCompare ((computeAuthTag c ctx.keys packet roc).1.take tagLen) receivedTag then
      (.error "Authentication failed",ctx)
    else
      let ctx := updateReceiver ctx roc seq
      match getRtpHeaderLen packet with
      | .error e => (.error e,ctx)
      | .ok headerLen =>
        (.ok (cryptPayload c ctx.keys packet (packetIndex roc seq) headerLen),ctx)

/-- The tag of the packet is the one that the context computes under `roc`. -/
def Authentic (c : Crypto) (ctx : Context) (srtp : Bytes) (roc : UInt32) : Prop :=
  (computeAuthTag c ctx.keys (splitTag ctx srtp).1 roc).1.take ctx.suite.authTagLen =
    (splitTag ctx srtp).2

/-- What `protect` sends under a rollover counter. -/
def sealed (c : Crypto) (suite : CryptoSuite) (keys : SessionKeys) (roc : UInt32) (rtp : Bytes)
    (headerLen : ℕ) : Bytes :=
  let output := cryptPayload c keys rtp (packetIndex roc (seqOf rtp)) headerLen
  output++(computeAuthTag c keys output roc).1.take suite.authTagLen

section Protect

variable {c : Crypto} {ctx : Context} {rtp : Bytes}

theorem protect_short (h : rtp.length < rtpHeaderSize) :
    protect c ctx rtp = (.error "RTP packet too short",ctx) := by
  simp [protect, h]

theorem protect_long (h : ¬rtp.length < rtpHeaderSize) :
    protect c ctx rtp =
      let after := updateSender ctx (seqOf rtp)
      ((getRtpHeaderLen rtp).map (sealed c ctx.suite ctx.keys after.senderRoc rtp),after) := by
  simp only [protect, h, if_false]
  cases getRtpHeaderLen rtp <;> rfl

end Protect

section Unprotect

variable {c : Crypto} {ctx : Context} {srtp : Bytes}

theorem chooseRoc_keys (ctx : Context) (seq : UInt16) : (chooseRoc ctx seq).2.keys = ctx.keys := by
  unfold chooseRoc
  split_ifs <;> rfl

theorem updateReceiver_suite (ctx : Context) (roc : UInt32) (seq : UInt16) :
    (updateReceiver ctx roc seq).suite = ctx.suite := by
  unfold updateReceiver
  split_ifs <;> rfl

theorem updateReceiver_keys (ctx : Context) (roc : UInt32) (seq : UInt16) :
    (updateReceiver ctx roc seq).keys = ctx.keys := by
  unfold updateReceiver
  split_ifs <;> rfl

theorem updateReceiver_firstPacket (ctx : Context) (roc : UInt32) (seq : UInt16) :
    (updateReceiver ctx roc seq).firstPacket = ctx.firstPacket := by
  unfold updateReceiver
  split_ifs <;> rfl

theorem unprotect_short (h : srtp.length < rtpHeaderSize+ctx.suite.authTagLen) :
    unprotect c ctx srtp = (.error "SRTP packet too short",ctx) := by
  simp [unprotect, h]

theorem unprotect_forged (h : ¬srtp.length < rtpHeaderSize+ctx.suite.authTagLen)
    (ha : ¬Authentic c ctx srtp (chooseRoc ctx (seqOf (splitTag ctx srtp).1)).1) :
    unprotect c ctx srtp =
      (.error "Authentication failed",(chooseRoc ctx (seqOf (splitTag ctx srtp).1)).2) := by
  rw [Authentic, ← constantTimeCompare_iff, Bool.not_eq_true] at ha
  simp [unprotect, h, chooseRoc_keys, ha]

theorem unprotect_authentic (h : ¬srtp.length < rtpHeaderSize+ctx.suite.authTagLen)
    (ha : Authentic c ctx srtp (chooseRoc ctx (seqOf (splitTag ctx srtp).1)).1) :
    unprotect c ctx srtp =
      let packet := (splitTag ctx srtp).1
      let p := chooseRoc ctx (seqOf packet)
      ((getRtpHeaderLen packet).map
        (cryptPayload c ctx.keys packet (packetIndex p.1 (seqOf packet))),
        updateReceiver p.2 p.1 (seqOf packet)) := by
  rw [Authentic, ← constantTimeCompare_iff] at ha
  simp only [unprotect, h, if_false, chooseRoc_keys, updateReceiver_keys, ha, Bool.not_true,
    Bool.false_eq_true]
  cases getRtpHeaderLen (splitTag ctx srtp).1 <;> rfl

end Unprotect

/-- The session keys of the source's reference vectors; the SRTCP keys are not
used below. -/
def sampleKeys : SessionKeys where
  srtpEncKey :=
    ⟨[0xC6,0x1E,0x7A,0x93,0x74,0x4F,0x39,0xEE,0x10,0x73,0x4A,0xFE,0x3F,0xF7,0xA0,0x87],rfl⟩
  srtpAuthKey := ⟨[0xCE,0xBE,0x32,0x1F,0x6F,0xF7,0x71,0x6B,0x6F,0xD4,0xAB,0x49,0xAF,0x25,0x6A,0x15,
    0x6D,0x38,0xBA,0xA4],rfl⟩
  srtpSalt := ⟨[0x30,0xCB,0xBC,0x08,0x86,0x3D,0x8C,0x85,0xD4,0x9D,0xB3,0x4A,0x9A,0xE1],rfl⟩
  srtcpEncKey := ⟨List.replicate 16 0,rfl⟩
  srtcpAuthKey := ⟨List.replicate 20 0,rfl⟩
  srtcpSalt := ⟨List.replicate 14 0,rfl⟩

def sampleContext : Context := fresh .aesCm128HmacSha1_80 sampleKeys

def sampleRtp (hi lo : UInt8) : Bytes := [0x80,0,hi,lo,0,0,0,0,0xDE,0xAD,0xBE,0xEF]

/-- HMAC-SHA1 under the authentication key of `sampleKeys`, for some packets. -/
def sampleTags : List (Bytes × Bytes) :=
  [(sampleRtp 0x12 0x34++[0,0,0,0],
    [0x59,0x4F,0x82,0xDC,0x83,0x8A,0x21,0x29,0xC8,0x83,
     0x0B,0x48,0xED,0x70,0xC8,0xDF,0x9D,0xB9,0xD3,0x09]),
  (sampleRtp 0xFF 0xFF++[0,0,0,0],
    [0xBE,0xB8,0xB6,0x88,0xF9,0x40,0xB9,0xD0,0x9E,0xF3,
     0xF6,0xD9,0x91,0x47,0x78,0xCF,0x91,0x10,0x5C,0x94]),
  (sampleRtp 0 0++[0,0,0,1],
    [0x09,0x84,0xE9,0x7A,0xB0,0x99,0xFC,0x66,0xA8,0x19,
     0x2E,0x13,0xC1,0x34,0xFA,0xA0,0x01,0x10,0xEF,0x8B]),
  (sampleRtp 0 1++[0,0,0,0],
    [0x43,0x91,0x5A,0xA3,0xDA,0x88,0xC1,0x42,0x5A,0x49,
     0x9D,0x2E,0x01,0xE9,0x17,0x63,0x45,0xD2,0xF4,0xF7]),
  (sampleRtp 0 1++[0,0,0,1],
    [0x2C,0x5C,0x7E,0x2E,0x47,0xFF,0x1E,0x1D,0x22,0x5D,
     0xC2,0x6C,0x98,0x79,0x7C,0xD7,0x9E,0xAC,0x86,0x27])]

/-- HMAC-SHA1 on the inputs of `sampleTags`. The packets of the closed runs have
no payload, so that no keystream is used. -/
def sampleCrypto : Crypto where
  keystream _ _ _ := 0
  hmacSha1 _ message :=
    let tag := (sampleTags.lookup message).getD []
    if h : tag.length = 20 then ⟨tag,h⟩ else ⟨List.replicate 20 0,rfl⟩

end RsipRtp.SrtpContext
