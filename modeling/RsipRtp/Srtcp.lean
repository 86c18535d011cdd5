import Mathlib.Data.Nat.Bitwise
import RsipRtp.BigEndian
import RsipRtp.SrtpContext

/-!
# The SRTCP context

An SRTCP packet carries a word with the encryption flag and the 31-bit index
behind its payload. The sender counts the index; the receiver keeps nothing.
-/

namespace RsipRtp.Srtcp
open SipText BigEndian SrtpKdf
open SrtpContext (byteAt constantTimeCompare constantTimeCompare_iff sampleKeys sampleCrypto)

structure Context where
  suite : CryptoSuite
  keys : SessionKeys
  /-- SRTCP index (31 bits). -/
  index : UInt32

def fresh (suite : CryptoSuite) (keys : SessionKeys) : Context := { suite, keys, index := 0 }

def ssrcOf (rtcp : Bytes) : UInt32 :=
  getU32 (byteAt rtcp 4) (byteAt rtcp 5) (byteAt rtcp 6) (byteAt rtcp 7)

/-- The salt, with the SSRC in bytes 4 to 7 and the index word in bytes 10 to 13. -/
def buildSrtcpIv (salt : Octets 14) (ssrc index : UInt32) : Octets 16 :=
  ⟨(saltBlock salt).1.zipWith (· ^^^ ·) ([0,0,0,0]++putU32 ssrc++[0,0]++putU32 index++[0,0]),by
    simp [(saltBlock salt).2, putU32]⟩

def computeAuthTag (c : Crypto) (keys : SessionKeys) (packet : Bytes) : Octets 20 :=
  c.hmacSha1 keys.srtcpAuthKey packet

/-- The vector for a packet that carries the word `srtcpIndex`. -/
def ivOf (keys : SessionKeys) (packet : Bytes) (srtcpIndex : UInt32) : Octets 16 :=
  buildSrtcpIv keys.srtcpSalt (ssrcOf packet) srtcpIndex

def cryptPayload (c : Crypto) (keys : SessionKeys) (packet : Bytes) (iv : Octets 16) : Bytes :=
  packet.take 8++c.applyKeystream keys.srtcpEncKey iv (packet.drop 8)

def srtcpIndex (ctx : Context) : UInt32 := 0x80000000 ||| ctx.index

def protect (c : Crypto) (ctx : Context) (rtcp : Bytes) : Except String Bytes × Context :=
  if rtcp.length < 8 then (.error "RTCP packet too short",ctx)
  else
    let word := srtcpIndex ctx
    let output := cryptPayload c ctx.keys rtcp (ivOf ctx.keys rtcp word)++putU32 word
    let tag := computeAuthTag c ctx.keys output
    (.ok (output++tag.1.take ctx.suite.authTagLen),
      { ctx with index := (ctx.index+1) &&& 0x7FFFFFFF })

def receivedIndex (packetWithIndex : Bytes) : UInt32 :=
  let indexOffset := packetWithIndex.length-4
  getU32 (byteAt packetWithIndex indexOffset) (byteAt packetWithIndex (indexOffset+1))
    (byteAt packetWithIndex (indexOffset+2)) (byteAt packetWithIndex (indexOffset+3))

def unprotect (c : Crypto) (ctx : Context) (srtcp : Bytes) : Except String Bytes :=
  let tagLen := ctx.suite.authTagLen
  if srtcp.length < 8+4+tagLen then .error "SRTCP packet too short"
  else
    let (packetWithIndex,receivedTag) := srtcp.splitAt (srtcp.length-tagLen)
    let expectedTag := computeAuthTag c ctx.keys packetWithIndex
    if !constantTimeCompare (expectedTag.1.take tagLen) receivedTag then
      .error "Authentication failed"
    else
      let word := receivedIndex packetWithIndex
      let packet := packetWithIndex.take (packetWithIndex.length-4)
      if word &&& 0x80000000 = 0 then .ok packet
      else .ok (cryptPayload c ctx.keys packet (ivOf ctx.keys packet word))

def standardIv (salt : Octets 14) (ssrc : UInt32) (n : ℕ) : ℕ :=
  decode salt.1*2^16 ^^^ ssrc.toNat*2^64 ^^^ n*2^16

theorem decode_putU32 (n : UInt32) : decode (putU32 n) = n.toNat := by
  rw [putU32, decode_encode n.toNat_lt]

theorem decode_saltBlock (salt : Octets 14) : decode (saltBlock salt).1 = decode salt.1*2^16 := by
  rw [saltBlock, decode_append]
  simp [decode]

theorem decode_buildSrtcpIv (salt : Octets 14) (ssrc index : UInt32) :
    decode (buildSrtcpIv salt ssrc index).1 = standardIv salt ssrc index.toNat := by
  have hindex : index.toNat < 2^32 := index.toNat_lt
  have hlen (n : UInt32) : (putU32 n).length = 4 := rfl
  have hlayout : decode ([0,0,0,0]++putU32 ssrc++[0,0]++putU32 index++[0,0]) =
      ssrc.toNat*2^64+index.toNat*2^16 := by
    simp only [decode_append, decode_putU32, hlen]
    simp [decode]
    omega
  rw [buildSrtcpIv, decode_zipWith_xor _ _ (by simp [(saltBlock salt).2, putU32]), decode_saltBlock,
    hlayout, standardIv, Nat.xor_assoc, mul_pow_xor _ 64 (by omega)]

theorem standardIv_injective {salt : Octets 14} {ssrc : UInt32} {m n : ℕ}
    (h : standardIv salt ssrc m = standardIv salt ssrc n) : m = n := by
  have := Nat.xor_right_inj.mp h
  omega

section Packets

variable (c : Crypto) {ctx peer : Context} {rtcp : Bytes}

/-- The bytes that `protect` sends. -/
def sealed (ctx : Context) (rtcp : Bytes) : Bytes :=
  let output := cryptPayload c ctx.keys rtcp (ivOf ctx.keys rtcp (srtcpIndex ctx))++
    putU32 (srtcpIndex ctx)
  output++(computeAuthTag c ctx.keys output).1.take ctx.suite.authTagLen

theorem protect_long (h : 8 ≤ rtcp.length) :
    protect c ctx rtcp =
      (.ok (sealed c ctx rtcp),{ ctx with index := (ctx.index+1) &&& 0x7FFFFFFF }) := by
  rw [protect, if_neg (Nat.not_lt.mpr h)]
  rfl

theorem protect_short (h : rtcp.length < 8) :
    protect c ctx rtcp = (.error "RTCP packet too short",ctx) := by
  rw [protect, if_pos h]

theorem cryptPayload_length (keys : SessionKeys) (iv : Octets 16) (h : 8 ≤ rtcp.length) :
    (cryptPayload c keys rtcp iv).length = rtcp.length := by
  simp [cryptPayload, h]

theorem ssrcOf_cryptPayload (keys : SessionKeys) (iv : Octets 16) (h : 8 ≤ rtcp.length) :
    ssrcOf (cryptPayload c keys rtcp iv) = ssrcOf rtcp := by
  have hbyte (i : ℕ) (hi : i < 8) : byteAt (cryptPayload c keys rtcp iv) i = byteAt rtcp i := by
    have htake : i < (rtcp.take 8).length := by rwa [List.length_take_of_le h]
    simp only [byteAt, cryptPayload, List.getD_eq_getElem?_getD, List.getElem?_append_left htake,
      List.getElem?_take_of_lt hi]
  rw [ssrcOf, hbyte 4 (by decide), hbyte 5 (by decide), hbyte 6 (by decide), hbyte 7 (by decide)]
  rfl

theorem ivOf_cryptPayload (keys : SessionKeys) (iv : Octets 16) (h : 8 ≤ rtcp.length) :
    ivOf keys (cryptPayload c keys rtcp iv) = ivOf keys rtcp := by
  funext word
  rw [ivOf, ssrcOf_cryptPayload c _ _ h, ivOf]

theorem cryptPayload_involutive (keys : SessionKeys) (iv : Octets 16) (h : 8 ≤ rtcp.length) :
    cryptPayload c keys (cryptPayload c keys rtcp iv) iv = rtcp := by
  have hlen : (rtcp.take 8).length = 8 := List.length_take_of_le h
  unfold cryptPayload
  rw [List.take_left' hlen, List.drop_left' hlen, applyKeystream_involutive, List.take_append_drop]

theorem receivedIndex_append (packet : Bytes) (n : UInt32) :
    receivedIndex (packet++putU32 n) = n := by
  obtain ⟨b3,b2,b1,b0,hput,hget⟩ := putU32_read n
  have hbyte (i : ℕ) : byteAt (packet++[b3,b2,b1,b0]) (packet.length+i) =
      byteAt [b3,b2,b1,b0] i := by
    simp [byteAt, List.getD_eq_getElem?_getD, List.getElem?_append_right]
  have hlen : (packet++[b3,b2,b1,b0]).length-4 = packet.length := by simp
  rw [hput, receivedIndex, hlen, hbyte 1, hbyte 2, hbyte 3]
  exact (congrArg (getU32 · b2 b1 b0) (hbyte 0)).trans hget

theorem take_putU32 (packet : Bytes) (n : UInt32) :
    (packet++putU32 n).take ((packet++putU32 n).length-4) = packet := by
  simp [putU32]

theorem splitAt_sealed (ctx : Context) (rtcp : Bytes) :
    (sealed c ctx rtcp).splitAt ((sealed c ctx rtcp).length-ctx.suite.authTagLen) =
      let output := cryptPayload c ctx.keys rtcp (ivOf ctx.keys rtcp (srtcpIndex ctx))++
        putU32 (srtcpIndex ctx)
      (output,(computeAuthTag c ctx.keys output).1.take ctx.suite.authTagLen) := by
  have htag (output : Bytes) : ((computeAuthTag c ctx.keys output).1.take
      ctx.suite.authTagLen).length = ctx.suite.authTagLen := by
    rw [List.length_take_of_le]
    exact (computeAuthTag c ctx.keys output).2.symm ▸ authTagLen_le ctx.suite
  unfold sealed
  dsimp only
  rw [List.splitAt_eq, List.length_append, htag, Nat.add_sub_cancel, List.take_left, List.drop_left]

theorem srtcpIndex_toNat (h : ctx.index.toNat < 2^31) :
    (srtcpIndex ctx).toNat = 2^31+ctx.index.toNat := by
  rw [srtcpIndex, UInt32.toNat_or]
  have hor := mul_pow_or 1 31 h
  rwa [Nat.one_mul] at hor

theorem srtcpIndex_encrypted (ctx : Context) : srtcpIndex ctx &&& 0x80000000 ≠ 0 := by
  intro h
  have hbit := congrArg (·.toNat.testBit 31) h
  simp only [srtcpIndex, UInt32.toNat_and, UInt32.toNat_or, Nat.testBit_and, Nat.testBit_or] at hbit
  have hflag : (0x80000000 : UInt32).toNat.testBit 31 = true := by decide
  simp only [hflag, Bool.true_or, Bool.true_and] at hbit
  cases hbit

theorem unprotect_sealed (hsuite : peer.suite = ctx.suite) (hkeys : peer.keys = ctx.keys)
    (h : 8 ≤ rtcp.length) : unprotect c peer (sealed c ctx rtcp) = .ok rtcp := by
  have hlen : ¬(sealed c ctx rtcp).length < 8+4+ctx.suite.authTagLen := by
    have ht := authTagLen_le ctx.suite
    simp only [sealed, List.length_append, cryptPayload_length c _ _ h, List.length_take,
      (computeAuthTag c ctx.keys _).2, putU32, encode_length]
    omega
  have htag (output : Bytes) : constantTimeCompare
      ((computeAuthTag c ctx.keys output).1.take ctx.suite.authTagLen)
      ((computeAuthTag c ctx.keys output).1.take ctx.suite.authTagLen) = true :=
    (constantTimeCompare_iff _ _).mpr rfl
  unfold unprotect
  rw [hsuite, hkeys, if_neg hlen, splitAt_sealed]
  simp only [htag, receivedIndex_append, take_putU32, srtcpIndex_encrypted, Bool.not_true,
    Bool.false_eq_true, if_false]
  rw [ivOf_cryptPayload c _ _ h, cryptPayload_involutive c _ _ h]

/-- The vector under which `unprotect` decrypts. -/
def receivedIv (ctx : Context) (srtcp : Bytes) : Octets 16 :=
  let packetWithIndex := srtcp.take (srtcp.length-ctx.suite.authTagLen)
  ivOf ctx.keys (packetWithIndex.take (packetWithIndex.length-4)) (receivedIndex packetWithIndex)

theorem receivedIv_sealed (hsuite : peer.suite = ctx.suite) (hkeys : peer.keys = ctx.keys)
    (h : 8 ≤ rtcp.length) :
    receivedIv peer (sealed c ctx rtcp) = ivOf ctx.keys rtcp (srtcpIndex ctx) := by
  have hsplit : (sealed c ctx rtcp).take ((sealed c ctx rtcp).length-ctx.suite.authTagLen) =
      cryptPayload c ctx.keys rtcp (ivOf ctx.keys rtcp (srtcpIndex ctx))++
        putU32 (srtcpIndex ctx) := by
    have := congrArg Prod.fst (splitAt_sealed c ctx rtcp)
    rwa [List.splitAt_eq] at this
  rw [receivedIv, hsuite, hkeys, hsplit, receivedIndex_append, take_putU32,
    ivOf_cryptPayload c _ _ h]

end Packets

section Counting

def sendAll (c : Crypto) (ctx : Context) (rtcps : List Bytes) : Context :=
  rtcps.foldl (fun ctx rtcp => (protect c ctx rtcp).2) ctx

/-- How many of the packets are sent: a short one is refused and not counted. -/
def sentCount (rtcps : List Bytes) : ℕ := rtcps.countP (8 ≤ ·.length)

variable (c : Crypto) (ctx : Context)

theorem protect_keys (rtcp : Bytes) :
    (protect c ctx rtcp).2.suite = ctx.suite ∧ (protect c ctx rtcp).2.keys = ctx.keys := by
  by_cases h : 8 ≤ rtcp.length
  · rw [protect_long c h]
    exact ⟨rfl,rfl⟩
  · rw [protect_short c (by omega)]
    exact ⟨rfl,rfl⟩

theorem sendAll_keys (rtcps : List Bytes) :
    (sendAll c ctx rtcps).suite = ctx.suite ∧ (sendAll c ctx rtcps).keys = ctx.keys := by
  induction rtcps generalizing ctx with
  | nil => exact ⟨rfl,rfl⟩
  | cons rtcp rest ih =>
    have hstep := protect_keys c ctx rtcp
    exact ⟨(ih _).1.trans hstep.1,(ih _).2.trans hstep.2⟩

theorem protect_index {ctx : Context} {rtcp : Bytes} (h : 8 ≤ rtcp.length)
    (hroom : ctx.index.toNat+1 < 2^31) :
    (protect c ctx rtcp).2.index.toNat = ctx.index.toNat+1 := by
  rw [protect_long c h]
  change ((ctx.index+1) &&& 0x7FFFFFFF).toNat = _
  rw [UInt32.toNat_and, UInt32.toNat_add]
  have hmask := Nat.and_two_pow_sub_one_of_lt_two_pow hroom
  rwa [Nat.mod_eq_of_lt (by simp only [UInt32.toNat_one]; omega)]

theorem sendAll_index {ctx : Context} (rtcps : List Bytes)
    (hroom : ctx.index.toNat+sentCount rtcps < 2^31) :
    (sendAll c ctx rtcps).index.toNat = ctx.index.toNat+sentCount rtcps := by
  induction rtcps generalizing ctx with
  | nil => rfl
  | cons rtcp rest ih =>
    change (sendAll c (protect c ctx rtcp).2 rest).index.toNat = _
    by_cases h : 8 ≤ rtcp.length
    · have hcount : sentCount (rtcp::rest) = sentCount rest+1 := by simp [sentCount, h]
      have hstep := protect_index c h (by omega : ctx.index.toNat+1 < 2^31)
      rw [ih (by omega), hstep, hcount]
      omega
    · have hcount : sentCount (rtcp::rest) = sentCount rest := by simp [sentCount, h]
      rw [hcount] at hroom ⊢
      rw [protect_short c (by omega)]
      exact ih hroom

end Counting

/-- The packet after `n` others is encrypted and decrypted under the standard
vector for `n`, and comes back whole. -/
structure Conforms (c : Crypto) (sender receiver : Context) (n : ℕ) (rtcp srtcp : Bytes) :
    Prop where
  sent : decode (ivOf sender.keys rtcp (srtcpIndex sender)).1 =
    standardIv sender.keys.srtcpSalt (ssrcOf rtcp) n
  received : decode (receivedIv receiver srtcp).1 =
    standardIv receiver.keys.srtcpSalt (ssrcOf rtcp) n
  restored : unprotect c receiver srtcp = .ok rtcp

/-- No packet has the standard vector: the flag is in the vectors of both
sides. Packets do come back whole. -/
theorem srtcp_vectors_hold_flag (c : Crypto) (suite : CryptoSuite) (keys : SessionKeys)
    (earlier : List Bytes) (rtcp : Bytes) (receiver : Context) (hsuite : receiver.suite = suite)
    (hkeys : receiver.keys = keys) (hcount : sentCount earlier < 2^31) (hlen : 8 ≤ rtcp.length) :
    let sender := sendAll c (fresh suite keys) earlier
    ∃ srtcp, (protect c sender rtcp).1 = .ok srtcp ∧
      ¬Conforms c sender receiver (sentCount earlier) rtcp srtcp ∧
      Conforms c sender receiver (2^31+sentCount earlier) rtcp srtcp := by
  intro sender
  have hsender := sendAll_keys c (fresh suite keys) earlier
  have hindex : sender.index.toNat = sentCount earlier :=
    (sendAll_index c earlier (by simpa [fresh] using hcount)).trans (by simp [fresh])
  have hword : (srtcpIndex sender).toNat = 2^31+sentCount earlier := by
    rw [srtcpIndex_toNat (hindex ▸ hcount), hindex]
  have hflagged : Conforms c sender receiver (2^31+sentCount earlier) rtcp
      (sealed c sender rtcp) := by
    have hsuites : receiver.suite = sender.suite := hsuite.trans hsender.1.symm
    have hkeyss : receiver.keys = sender.keys := hkeys.trans hsender.2.symm
    refine ⟨?_,?_,unprotect_sealed c hsuites hkeyss hlen⟩
    · rw [ivOf, decode_buildSrtcpIv, hword]
    · rw [receivedIv_sealed c hsuites hkeyss hlen, ivOf, decode_buildSrtcpIv, hword, hkeyss]
  refine ⟨sealed c sender rtcp,congrArg Prod.fst (protect_long c hlen),fun h => ?_,hflagged⟩
  have := standardIv_injective (h.sent.symm.trans hflagged.sent)
  omega

def sampleRtcp : Bytes := [0x80,201,0,1,0xDE,0xAD,0xBE,0xEF]

theorem second_report_holds_flag :
    let sender := sendAll sampleCrypto (fresh .aesCm128HmacSha1_80 sampleKeys) [sampleRtcp]
    ∃ srtcp, (protect sampleCrypto sender sampleRtcp).1 = .ok srtcp ∧
      ¬Conforms sampleCrypto sender (fresh .aesCm128HmacSha1_80 sampleKeys) 1 sampleRtcp srtcp ∧
      Conforms sampleCrypto sender (fresh .aesCm128HmacSha1_80 sampleKeys)
        (2^31+1) sampleRtcp srtcp :=
  srtcp_vectors_hold_flag sampleCrypto .aesCm128HmacSha1_80 sampleKeys [sampleRtcp] sampleRtcp
    (fresh .aesCm128HmacSha1_80 sampleKeys) rfl rfl (by decide +kernel) (by decide +kernel)

/-- The first packet of a session. -/
theorem first_report_vector :
    decode (ivOf sampleKeys sampleRtcp (srtcpIndex (fresh .aesCm128HmacSha1_80 sampleKeys))).1 =
      0xDEADBEEF*2^64+0x80000000*2^16 ∧
    standardIv sampleKeys.srtcpSalt (ssrcOf sampleRtcp) 0 = 0xDEADBEEF*2^64 := by
  decide +kernel

end RsipRtp.Srtcp
