import Mathlib.Data.List.Sort
import RsipRtp.RtcpSplit

/-!
# Feedback messages

A NACK names lost packets by a first number and a mask over the sixteen that
follow it. The numbers are sorted and grouped greedily.
-/

namespace RsipRtp.RtcpFeedback
open BigEndian RtcpReport RtcpPackets RtcpSplit

/-! ## Lost packets -/

def Marked (blp : UInt16) (i : ℕ) : Prop := blp.toNat.testBit i = true

theorem marked_iff (blp : UInt16) {i : ℕ} (hi : i < 16) :
    (blp >>> UInt16.ofNat i) &&& 1 = 1 ↔ Marked blp i := by
  have hshift : ((blp >>> UInt16.ofNat i) &&& 1).toNat = blp.toNat/2^i%2 := by
    have hword : (UInt16.ofNat i).toNat = i := by
      rw [UInt16.toNat_ofNat']
      exact Nat.mod_eq_of_lt (by omega)
    rw [UInt16.toNat_and, UInt16.toNat_shiftRight, hword, Nat.mod_eq_of_lt hi,
      Nat.shiftRight_eq_div_pow]
    exact Nat.and_one_is_mod _
  rw [Marked, Nat.testBit_eq_decide_div_mod_eq, decide_eq_true_eq, ← hshift]
  exact ⟨fun h => by rw [h]; rfl,fun h => UInt16.toNat_inj.mp h⟩

theorem marked_addToMask (pid blp seq : UInt16) {i : ℕ} (hi : i < 16) :
    Marked (addToMask pid blp seq) i ↔ Marked blp i ∨ (seq-pid-1).toNat = i := by
  rw [addToMask]
  split
  · next hlt =>
    have hdiff : (seq-pid-1).toNat < 16 := hlt
    have hbit : (1 <<< (seq-pid-1) : UInt16).toNat = 2^(seq-pid-1).toNat := by
      rw [UInt16.toNat_shiftLeft, Nat.mod_eq_of_lt hdiff, Nat.shiftLeft_eq]
      rw [show UInt16.toNat 1 = 1 from rfl, Nat.one_mul]
      exact Nat.mod_eq_of_lt (Nat.pow_lt_pow_right (by decide) hdiff)
    rw [Marked, UInt16.toNat_or, Nat.testBit_or, hbit, Nat.testBit_two_pow, Bool.or_eq_true,
      decide_eq_true_eq, Marked]
  · next hge =>
    have hdiff : ¬(seq-pid-1).toNat < 16 := hge
    exact ⟨.inl,fun h => h.resolve_right (by omega)⟩

theorem marked_foldl (pid : UInt16) (seqs : List UInt16) (blp : UInt16) {i : ℕ} (hi : i < 16) :
    Marked (seqs.foldl (addToMask pid) blp) i ↔
      Marked blp i ∨ ∃ seq ∈ seqs, (seq-pid-1).toNat = i := by
  induction seqs generalizing blp with
  | nil => simp
  | cons seq seqs ih =>
    rw [List.foldl_cons, ih, marked_addToMask pid blp seq hi, or_assoc]
    simp

theorem place_after (pid seq : UInt16) : pid+UInt16.ofNat ((seq-pid-1).toNat+1) = seq := by
  rw [UInt16.ofNat_add, UInt16.ofNat_toNat]
  change pid+(seq-pid-1+1) = seq
  rw [UInt16.sub_add_cancel, UInt16.add_comm, UInt16.sub_add_cancel]

theorem mem_lostSequences {pid : UInt16} {seqs : List UInt16}
    (h : ∀ seq ∈ seqs, Grouped pid seq) (seq : UInt16) :
    seq ∈ NackEntry.lostSequences ⟨pid,seqs.foldl (addToMask pid) 0⟩ ↔ seq = pid ∨ seq ∈ seqs := by
  rw [NackEntry.lostSequences, List.mem_cons, List.mem_filterMap]
  refine or_congr Iff.rfl ⟨?_,fun hseq => ?_⟩
  · rintro ⟨i,hi,hmark⟩
    rw [List.mem_range] at hi
    split at hmark
    · next hset =>
      rw [marked_iff _ hi, marked_foldl pid seqs 0 hi] at hset
      obtain ⟨other,hother,rfl⟩ := hset.resolve_left (by simp [Marked])
      rw [← Option.some.inj hmark, place_after]
      exact hother
    · cases hmark
  · obtain ⟨hpos,hle⟩ := h seq hseq
    have hpred : (seq-pid-1).toNat = (seq-pid).toNat-1 := UInt16.toNat_sub_of_le _ _ hpos
    have hsmall : (seq-pid).toNat ≤ 16 := hle
    have hlarge : 0 < (seq-pid).toNat := hpos
    have hi : (seq-pid-1).toNat < 16 := by omega
    refine ⟨(seq-pid-1).toNat,List.mem_range.mpr hi,?_⟩
    rw [if_pos ((marked_iff _ hi).mpr ((marked_foldl pid seqs 0 hi).mpr (.inr ⟨seq,hseq,rfl⟩))),
      place_after]

theorem mem_groupLost (remaining : List UInt16) (seq : UInt16) :
    seq ∈ (groupLost remaining).flatMap NackEntry.lostSequences ↔ seq ∈ remaining := by
  fun_induction groupLost remaining with
  | case1 => simp
  | case2 pid rest ih =>
    have hgroup : ∀ seq ∈ rest.filter (fun seq => Grouped pid seq), Grouped pid seq := by
      intro seq hseq
      simpa using (List.mem_filter.mp hseq).2
    have hentry := mem_lostSequences hgroup seq
    rw [List.flatMap_cons, List.mem_append, ih]
    change seq ∈ NackEntry.lostSequences ⟨pid,_⟩ ∨ _ ↔ _
    rw [hentry, newRemaining, List.mem_cons, List.mem_filter, List.mem_filter]
    by_cases hg : Grouped pid seq <;> simp [hg]

theorem parseEntries_put (entries : List NackEntry) :
    parseEntries (entries.flatMap fun entry => putU16 entry.pid++putU16 entry.blp) = entries := by
  induction entries with
  | nil => rfl
  | cons entry entries ih =>
    obtain ⟨p1,p0,hpid,hgetp⟩ := putU16_read entry.pid
    obtain ⟨b1,b0,hblp,hgetb⟩ := putU16_read entry.blp
    rw [List.flatMap_cons, hpid, hblp]
    simp only [List.cons_append, List.nil_append, parseEntries, hgetp, hgetb, ih]

theorem nack_framed (nack : Nack) : Framed nack.build
    ⟨2,false,1,.transportFeedback,UInt16.ofNat (2+nack.nacks.length)⟩
    (putU32 nack.senderSsrc++(putU32 nack.mediaSsrc++
      nack.nacks.flatMap fun entry => putU16 entry.pid++putU16 entry.blp)) where
  bytes := by
    rw [Nack.build]
    simp only [List.append_assoc]
  version := rfl
  count := by
    change UInt8.toNat 1 < 32
    decide

theorem parse_nack (nack : Nack) : Nack.parse nack.build = .ok nack := by
  have hlong : ¬(putU32 nack.senderSsrc++(putU32 nack.mediaSsrc++
      nack.nacks.flatMap fun entry => putU16 entry.pid++putU16 entry.blp)).length < 8 := by
    simp only [List.length_append, putU32, encode_length]
    omega
  simp only [Nack.parse, (nack_framed nack).parse, bind, Except.bind, ne_eq, not_true, or_self,
    if_false, if_neg hlong, takeU32_put, parseEntries_put]
  rfl

/-- A NACK names the lost packets and no others, and is read back as it was
written. -/
theorem nack_names_lost (senderSsrc mediaSsrc : UInt32) (lostSeqs : List UInt16) :
    (∀ seq, seq ∈ (Nack.fromLostPackets senderSsrc mediaSsrc lostSeqs).allLostSequences ↔
      seq ∈ lostSeqs) ∧
    ∀ nack : Nack, Nack.parse nack.build = .ok nack := by
  refine ⟨fun seq => ?_,parse_nack⟩
  rw [Nack.allLostSequences, Nack.fromLostPackets, mem_groupLost]
  exact List.mem_mergeSort

/-! ## Bitrates -/

def excess (n : ℕ) : ℕ := Nat.log2 n+1-18

def floorBits (n : ℕ) : ℕ := n/2^excess n*2^excess n

theorem lt_of_excess (n : ℕ) : n < 2^(18+excess n) :=
  (@Nat.lt_log2_self n).trans_le (Nat.pow_le_pow_right (by decide) (by rw [excess]; omega))

theorem le_of_excess {n : ℕ} (h : 0 < excess n) : 2^(17+excess n) ≤ n := by
  have hn : n ≠ 0 := by
    rintro rfl
    exact absurd h (by decide)
  have hlog : 17+excess n = n.log2 := by
    rw [excess] at h ⊢
    omega
  rw [hlog]
  exact Nat.log2_self_le hn

theorem excess_eq {n s : ℕ} (hle : 2^(17+s) ≤ n) (hlt : n < 2^(18+s)) : excess n = s := by
  have hn : n ≠ 0 := (Nat.lt_of_lt_of_le (Nat.two_pow_pos _) hle).ne'
  have hlog : n.log2 = 17+s := (Nat.log2_eq_iff hn).mpr ⟨hle,by rwa [show 17+s+1 = 18+s by omega]⟩
  rw [excess, hlog]
  omega

theorem floorBits_le (n : ℕ) : floorBits n ≤ n := Nat.div_mul_le_self _ _

theorem floorBits_small {n : ℕ} (h : n < 2^18) : floorBits n = n := by
  have hzero : excess n = 0 := by
    by_contra hpos
    have hle := le_of_excess (Nat.pos_of_ne_zero hpos)
    have hpow : 2^18 ≤ 2^(17+excess n) := Nat.pow_le_pow_right (by decide) (by omega)
    omega
  rw [floorBits, hzero]
  simp

theorem two_pow_le_floorBits {n : ℕ} (h : 0 < excess n) : 2^(17+excess n) ≤ floorBits n := by
  rw [Nat.pow_add, floorBits]
  refine Nat.mul_le_mul_right _ ((Nat.le_div_iff_mul_le (Nat.two_pow_pos _)).mpr ?_)
  rw [← Nat.pow_add]
  exact le_of_excess h

theorem floorBits_error (n : ℕ) : (n-floorBits n)*2^17 ≤ n := by
  by_cases h : 0 < excess n
  · have hunit : n-floorBits n < 2^excess n := by
      rw [floorBits, Nat.mul_comm, ← Nat.mod_eq_sub_mul_div]
      exact Nat.mod_lt _ (Nat.two_pow_pos _)
    calc (n-floorBits n)*2^17 ≤ 2^excess n*2^17 := Nat.mul_le_mul_right _ hunit.le
      _ = 2^(17+excess n) := by rw [← Nat.pow_add, Nat.add_comm]
      _ ≤ n := le_of_excess h
  · have hsmall := lt_of_excess n
    rw [Nat.eq_zero_of_not_pos h] at hsmall
    rw [floorBits_small hsmall]
    omega

theorem excess_floorBits (n : ℕ) : excess (floorBits n) = excess n := by
  by_cases h : 0 < excess n
  · exact excess_eq (two_pow_le_floorBits h) ((floorBits_le n).trans_lt (lt_of_excess n))
  · have hsmall := lt_of_excess n
    rw [Nat.eq_zero_of_not_pos h] at hsmall
    rw [floorBits_small hsmall]

theorem floorBits_idem (n : ℕ) : floorBits (floorBits n) = floorBits n := by
  rw [floorBits, excess_floorBits]
  nth_rewrite 1 [floorBits]
  rw [Nat.mul_div_cancel _ (Nat.two_pow_pos _)]
  rfl

theorem excess_mono {a b : ℕ} (h : a ≤ b) : excess a ≤ excess b := by
  by_contra hlt
  have hlarge := le_of_excess (n := a) (by omega)
  have hsmall := lt_of_excess b
  have hpow : 2^(18+excess b) ≤ 2^(17+excess a) := Nat.pow_le_pow_right (by decide) (by omega)
  omega

theorem floorBits_mono {a b : ℕ} (h : a ≤ b) : floorBits a ≤ floorBits b := by
  rcases (excess_mono h).eq_or_lt with heq | hlt
  · rw [floorBits, floorBits, heq]
    exact Nat.mul_le_mul_right _ (Nat.div_le_div_right h)
  · calc floorBits a ≤ a := floorBits_le a
      _ ≤ 2^(18+excess a) := (lt_of_excess a).le
      _ ≤ 2^(17+excess b) := Nat.pow_le_pow_right (by decide) (by omega)
      _ ≤ floorBits b := two_pow_le_floorBits (by omega)

theorem excess_lt (bitrate : UInt64) : excess bitrate.toNat < 64 := by
  by_contra hge
  have hword := bitrate.toNat_lt
  have hle := le_of_excess (n := bitrate.toNat) (by omega)
  have hpow : 2^64 ≤ 2^(17+excess bitrate.toNat) := Nat.pow_le_pow_right (by decide) (by omega)
  omega

theorem encodeBitrate_spec (bitrate : UInt64) :
    (encodeBitrate bitrate).1.toNat = bitrate.toNat/2^excess bitrate.toNat ∧
    (encodeBitrate bitrate).2.toNat = excess bitrate.toNat := by
  have hword := bitrate.toNat_lt
  have hlt := lt_of_excess bitrate.toNat
  have hsmall : bitrate.toNat/2^excess bitrate.toNat < 2^18 := by
    rw [Nat.div_lt_iff_lt_mul (Nat.two_pow_pos _), ← Nat.pow_add]
    exact hlt
  rw [encodeBitrate]
  split
  · next hzero =>
    rw [hzero]
    decide
  dsimp only
  split
  · next hbits =>
    have hexcess : excess bitrate.toNat = 0 := by
      rw [excess]
      omega
    rw [hexcess] at hlt ⊢
    refine ⟨?_,rfl⟩
    rw [UInt64.toNat_toUInt32]
    omega
  · next hbits =>
    have hexcess : Nat.log2 bitrate.toNat+1-18 = excess bitrate.toNat := rfl
    have hexp := excess_lt bitrate
    have hexp8 : (UInt8.ofNat (excess bitrate.toNat)).toNat = excess bitrate.toNat := by
      rw [UInt8.toNat_ofNat']
      exact Nat.mod_eq_of_lt (by omega)
    rw [hexcess]
    refine ⟨?_,hexp8⟩
    rw [UInt32.toNat_and, UInt64.toNat_toUInt32, UInt64.toNat_shiftRight, UInt8.toNat_toUInt64,
      hexp8, Nat.mod_eq_of_lt hexp, Nat.shiftRight_eq_div_pow, Nat.mod_eq_of_lt (by omega)]
    change _ &&& (2^18-1) = _
    rw [Nat.and_two_pow_sub_one_eq_mod, Nat.mod_eq_of_lt hsmall]

def readBitrate (bitrate : UInt64) : UInt64 :=
  (encodeBitrate bitrate).1.toUInt64 <<< (encodeBitrate bitrate).2.toUInt64

theorem readBitrate_toNat (bitrate : UInt64) :
    (readBitrate bitrate).toNat = floorBits bitrate.toNat := by
  obtain ⟨hmantissa,hexp⟩ := encodeBitrate_spec bitrate
  have hword := bitrate.toNat_lt
  have hle := floorBits_le bitrate.toNat
  rw [readBitrate, UInt64.toNat_shiftLeft, UInt8.toNat_toUInt64, hexp,
    Nat.mod_eq_of_lt (excess_lt bitrate), UInt32.toNat_toUInt64, hmantissa, Nat.shiftLeft_eq]
  exact Nat.mod_eq_of_lt (hle.trans_lt hword)

theorem exponent_bits (e : Fin 64) (h : Fin 4) :
    ((((UInt8.ofNat e <<< 2) ||| UInt8.ofNat h) &&& 0xFC) >>> 2 = UInt8.ofNat e) ∧
    ((UInt8.ofNat e <<< 2) ||| UInt8.ofNat h) &&& 0x03 = UInt8.ofNat h := by
  revert e h
  decide +kernel

theorem mantissa_lt (bitrate : UInt64) : (encodeBitrate bitrate).1.toNat < 2^18 := by
  rw [(encodeBitrate_spec bitrate).1, Nat.div_lt_iff_lt_mul (Nat.two_pow_pos _), ← Nat.pow_add]
  exact lt_of_excess _

theorem mantissa_bits {m : UInt32} (hm : m.toNat < 2^18) {b1 b0 : UInt8}
    (hlow : getU16 b1 b0 = (m &&& 0xFFFF).toUInt16) :
    ((UInt8.ofNat (m.toNat/2^16)).toUInt32 <<< 16) ||| (b1.toUInt32 <<< 8) ||| b0.toUInt32 = m := by
  have hbytes : b1.toNat*256+b0.toNat = m.toNat%2^16 := by
    have htoNat := congrArg UInt16.toNat hlow
    have hdecode : decode [b1,b0] = b1.toNat*256+b0.toNat := by simp [decode]
    rw [UInt32.toNat_toUInt16, UInt32.toNat_and, getU16, UInt16.toNat_ofNat', hdecode,
      show UInt32.toNat 0xFFFF = 2^16-1 from rfl, Nat.and_two_pow_sub_one_eq_mod,
      Nat.mod_mod] at htoNat
    have hb0 := b0.toNat_lt
    have hb1 := b1.toNat_lt
    omega
  have hb0 : b0.toNat < 2^8 := b0.toNat_lt
  have hb1 : b1.toNat < 2^8 := b1.toNat_lt
  have hhigh : (UInt8.ofNat (m.toNat/2^16)).toNat = m.toNat/2^16 := by
    rw [UInt8.toNat_ofNat']
    omega
  have hupper : ((UInt8.ofNat (m.toNat/2^16)).toUInt32 <<< 16).toNat = (m.toNat/2^16) <<< 16 := by
    rw [UInt32.toNat_shiftLeft, UInt8.toNat_toUInt32, hhigh]
    change (m.toNat/2^16) <<< 16%2^32 = _
    rw [Nat.shiftLeft_eq]
    omega
  have hmiddle : (b1.toUInt32 <<< 8).toNat = b1.toNat <<< 8 := by
    rw [UInt32.toNat_shiftLeft, UInt8.toNat_toUInt32]
    change b1.toNat <<< 8%2^32 = _
    rw [Nat.shiftLeft_eq]
    omega
  rw [← UInt32.toNat_inj, UInt32.toNat_or, UInt32.toNat_or, hupper, hmiddle, UInt8.toNat_toUInt32,
    ← Nat.shiftLeft_add_eq_or_of_lt (by rw [Nat.shiftLeft_eq]; omega)]
  have hshift : (m.toNat/2^16) <<< 16+b1.toNat <<< 8 = (m.toNat/2^16*2^8+b1.toNat) <<< 8 := by
    rw [Nat.shiftLeft_eq, Nat.shiftLeft_eq, Nat.shiftLeft_eq, Nat.add_mul, Nat.mul_assoc]
    rfl
  rw [hshift, ← Nat.shiftLeft_add_eq_or_of_lt hb0, Nat.shiftLeft_eq, Nat.add_mul, Nat.mul_assoc,
    Nat.add_assoc, show b1.toNat*2^8+b0.toNat = m.toNat%2^16 from hbytes]
  exact Nat.div_add_mod' m.toNat (2^16)

theorem upper_bits {m : UInt32} (hm : m.toNat < 2^18) :
    (m >>> 16).toUInt8 &&& 0x03 = UInt8.ofNat (m.toNat/2^16) := by
  have hshift : (m >>> 16).toNat = m.toNat/2^16 := by
    rw [UInt32.toNat_shiftRight]
    exact Nat.shiftRight_eq_div_pow _ _
  rw [← UInt8.toNat_inj, UInt8.toNat_and, UInt32.toNat_toUInt8, hshift, UInt8.toNat_ofNat']
  change _ &&& (2^2-1) = _
  rw [Nat.and_two_pow_sub_one_eq_mod]
  omega

theorem remb_parse (remb : Remb) (hcount : remb.ssrcs.length ≤ 255) :
    Remb.parse remb.build = .ok { remb with bitrate := readBitrate remb.bitrate } := by
  obtain ⟨hmantissa,hexp⟩ := encodeBitrate_spec remb.bitrate
  have hm := mantissa_lt remb.bitrate
  have he : (encodeBitrate remb.bitrate).2.toNat < 64 := by
    rw [hexp]
    exact excess_lt remb.bitrate
  generalize hcode : encodeBitrate remb.bitrate = code at hm he
  obtain ⟨m,e⟩ := code
  dsimp only at hm he
  have hread : readBitrate remb.bitrate = m.toUInt64 <<< e.toUInt64 := by
    rw [readBitrate, hcode]
  obtain ⟨b1,b0,hput,hlow⟩ := putU16_read (m &&& 0xFFFF).toUInt16
  have hhigh := upper_bits hm
  have hbits := exponent_bits ⟨e.toNat,he⟩ ⟨m.toNat/2^16,by omega⟩
  dsimp only at hbits
  rw [UInt8.ofNat_toNat] at hbits
  have hframed : Framed remb.build ⟨2,false,15,.payloadFeedback,
      UInt16.ofNat (4+remb.ssrcs.length)⟩
      (putU32 remb.senderSsrc++(putU32 remb.mediaSsrc++(uniqueId++
        UInt8.ofNat remb.ssrcs.length::((e <<< 2) ||| UInt8.ofNat (m.toNat/2^16))::b1::b0::
          remb.ssrcs.flatMap putU32))) := by
    refine ⟨?_,rfl,(by decide : (15 : UInt8).toNat < 32)⟩
    rw [Remb.build, hcode]
    dsimp only
    rw [Nat.min_eq_left hcount, hput, hhigh, List.take_length]
    simp only [List.append_assoc, List.cons_append, List.nil_append]
  have hlong : ¬(putU32 remb.senderSsrc++(putU32 remb.mediaSsrc++(uniqueId++
      UInt8.ofNat remb.ssrcs.length::((e <<< 2) ||| UInt8.ofNat (m.toNat/2^16))::b1::b0::
        remb.ssrcs.flatMap putU32))).length < 16 := by
    simp only [List.length_append, putU32, encode_length, uniqueId, List.length_cons,
      List.length_nil]
    omega
  have hssrcs : (UInt8.ofNat remb.ssrcs.length).toNat = remb.ssrcs.length := by
    rw [UInt8.toNat_ofNat']
    exact Nat.mod_eq_of_lt (by omega)
  have hsources := getSsrcs_put remb.ssrcs []
  rw [List.append_nil] at hsources
  simp only [Remb.parse, hframed.parse, bind, Except.bind, takeU32_put, if_neg hlong,
    List.take_left' (show uniqueId.length = 4 from rfl),
    List.drop_left' (show uniqueId.length = 4 from rfl), ne_eq, not_true, or_self, if_false,
    takeU8_cons, hbits.1, hbits.2, mantissa_bits hm hlow, hssrcs, hsources, hread]
  rfl

/-- A REMB message is read back with its sources and with a bitrate that keeps
eighteen bits: never more, close, exact below 2^18, stable and monotone. -/
theorem remb_read_back (senderSsrc mediaSsrc : UInt32) (ssrcs : List UInt32)
    (hcount : ssrcs.length ≤ 255) :
    ∃ quantised : UInt64 → UInt64,
      (∀ b, Remb.parse (Remb.build ⟨senderSsrc,mediaSsrc,b,ssrcs⟩) =
        .ok ⟨senderSsrc,mediaSsrc,quantised b,ssrcs⟩) ∧
      (∀ b, quantised b ≤ b ∧ (b.toNat-(quantised b).toNat)*2^17 ≤ b.toNat ∧
        (b.toNat < 2^18 → quantised b = b) ∧ quantised (quantised b) = quantised b) ∧
      ∀ a b, a ≤ b → quantised a ≤ quantised b := by
  refine ⟨readBitrate,fun b => remb_parse ⟨senderSsrc,mediaSsrc,b,ssrcs⟩ hcount,fun b => ?_,
    fun a b h => ?_⟩
  · refine ⟨?_,?_,fun h => ?_,?_⟩
    · rw [UInt64.le_iff_toNat_le, readBitrate_toNat]
      exact floorBits_le _
    · rw [readBitrate_toNat]
      exact floorBits_error _
    · rw [← UInt64.toNat_inj, readBitrate_toNat]
      exact floorBits_small h
    · rw [← UInt64.toNat_inj, readBitrate_toNat, readBitrate_toNat]
      exact floorBits_idem _
  · rw [UInt64.le_iff_toNat_le, readBitrate_toNat, readBitrate_toNat]
    exact floorBits_mono h

theorem one_source_read_back : ∃ b : UInt64,
    Remb.parse (Remb.build ⟨1,2,300001,[3]⟩) = .ok ⟨1,2,b,[3]⟩ ∧ b ≤ 300001 := by
  obtain ⟨quantised,hparse,hbounds,_⟩ := remb_read_back 1 2 [3] (by decide)
  exact ⟨quantised 300001,hparse 300001,(hbounds 300001).1⟩

end RsipRtp.RtcpFeedback
