import RsipRtp.SrtpPacket
import RsipRtp.ReplyMachine

/-!
# Delivery of a protected stream

One context protects a stream, another one made from the same keys gets some
of the packets, in any order and any number of times.
-/

namespace RsipRtp.SrtpDelivery
open SipText SrtpKdf SrtpContext SrtpPacket Rollover ReplyMachine

/-- A packet that was given to `protect`: the packet, its extended sequence
number, the counter of the sender after the call, and the result. -/
structure Sent where
  packet : Bytes
  index : ℕ
  roc : UInt32
  wire : Except String Bytes

/-- The stream from a packet with sequence number `prev` and extended number
`e` on. -/
def sendAll (c : Crypto) : Context → ℕ → UInt16 → List Bytes → List Sent
  | _, _, _, [] => []
  | ctx, e, prev, rtp::rest =>
    let p := protect c ctx rtp
    let index := e+(seqOf rtp-prev).toNat
    { packet := rtp, index, roc := p.2.senderRoc, wire := p.1 }::
      sendAll c p.2 index (seqOf rtp) rest

def stream (c : Crypto) (suite : CryptoSuite) (keys : SessionKeys) (rtps : List Bytes) :
    List Sent :=
  sendAll c (fresh suite keys) 0 0 rtps

def Advance (prev seq : UInt16) : Prop := 1 ≤ (seq-prev).toNat ∧ (seq-prev).toNat ≤ 0x7FFF

/-- Each packet is less than `2^15` from the highest one before it. -/
def NearHighest : ℕ → List Sent → Prop
  | _, [] => True
  | highest, x::xs =>
    (x.index ≤ highest+0x7FFF ∧ highest ≤ x.index+0x7FFF) ∧ NearHighest (max highest x.index) xs

/-- The first packet has counter zero, the others are near the highest one. -/
def Orderly : List Sent → Prop
  | [] => True
  | x::xs => x.roc = 0 ∧ NearHighest x.index xs

instance (prev seq : UInt16) : Decidable (Advance prev seq) :=
  inferInstanceAs (Decidable (_ ∧ _))

instance decidableNearHighest : ∀ highest xs, Decidable (NearHighest highest xs)
  | _, [] => isTrue trivial
  | highest, x::xs =>
    haveI := decidableNearHighest (max highest x.index) xs
    inferInstanceAs (Decidable ((_ ∧ _) ∧ _))

instance : ∀ xs, Decidable (Orderly xs)
  | [] => isTrue trivial
  | _::_ => inferInstanceAs (Decidable (_ ∧ _))

structure Genuine (c : Crypto) (suite : CryptoSuite) (keys : SessionKeys) (x : Sent) : Prop where
  wire : ∃ n, getRtpHeaderLen x.packet = .ok n ∧
    x.wire = .ok (sealed c suite keys x.roc x.packet n)
  index : extend 0x8000 x.roc.toNat (seqOf x.packet).toNat = x.index

section Sender

variable {c : Crypto} {ctx : Context} {e : ℕ} {rtp : Bytes} {rest rtps : List Bytes}

theorem length_of_headerFits (h : HeaderFits rtp) : ¬rtp.length < rtpHeaderSize := by
  obtain ⟨n,hn⟩ := h
  have hb := headerLen_bounds hn
  omega

theorem sendAll_cons (prev : UInt16) (h : ¬rtp.length < rtpHeaderSize) :
    sendAll c ctx e prev (rtp::rest) =
      let after := updateSender ctx (seqOf rtp)
      let index := e+(seqOf rtp-prev).toNat
      ⟨rtp,index,after.senderRoc,
          (getRtpHeaderLen rtp).map (sealed c ctx.suite ctx.keys after.senderRoc rtp)⟩::
        sendAll c after index (seqOf rtp) rest := by
  simp only [sendAll, protect_long h]

theorem sendAll_wire (prev : UInt16) (hfit : ∀ p ∈ rtps, HeaderFits p) :
    ∀ x ∈ sendAll c ctx e prev rtps, ∃ n, getRtpHeaderLen x.packet = .ok n ∧
      x.wire = .ok (sealed c ctx.suite ctx.keys x.roc x.packet n) := by
  induction rtps generalizing ctx e prev with
  | nil => simp [sendAll]
  | cons rtp rest ih =>
    rw [List.forall_mem_cons] at hfit
    obtain ⟨n,hn⟩ := hfit.1
    rw [sendAll_cons prev (length_of_headerFits hfit.1), List.forall_mem_cons]
    refine ⟨⟨n,hn,?_⟩,ih (seqOf rtp) hfit.2⟩
    rw [hn]
    rfl

theorem sendAll_index (he : extend 0x8000 ctx.senderRoc.toNat ctx.highestSeq.toNat = e)
    (hlen : ∀ p ∈ rtps, ¬p.length < rtpHeaderSize)
    (hadv : (ctx.highestSeq::rtps.map seqOf).IsChain Advance)
    (hroom : ∀ x ∈ sendAll c ctx e ctx.highestSeq rtps, x.index < 2^48) :
    ∀ x ∈ sendAll c ctx e ctx.highestSeq rtps,
      extend 0x8000 x.roc.toNat (seqOf x.packet).toNat = x.index := by
  induction rtps generalizing ctx e with
  | nil => simp [sendAll]
  | cons rtp rest ih =>
    rw [List.forall_mem_cons] at hlen
    rw [List.map_cons, List.isChain_cons_cons] at hadv
    rw [sendAll_cons _ hlen.1] at hroom ⊢
    rw [List.forall_mem_cons] at hroom ⊢
    have hindex : extend 0x8000 (updateSender ctx (seqOf rtp)).senderRoc.toNat (seqOf rtp).toNat =
        e+(seqOf rtp-ctx.highestSeq).toNat := by
      rw [← he]
      exact updateSender_index hadv.1.1 (Nat.lt_succ_of_le hadv.1.2) (he ▸ hroom.1)
    exact ⟨hindex,ih hindex hlen.2 hadv.2 hroom.2⟩

theorem stream_index {suite : CryptoSuite} {keys : SessionKeys}
    (hlen : ∀ p ∈ rtps, ¬p.length < rtpHeaderSize) (hadv : (rtps.map seqOf).IsChain Advance)
    (hroom : ∀ x ∈ stream c suite keys rtps, x.index < 2^48) :
    ∀ x ∈ stream c suite keys rtps, extend 0x8000 x.roc.toNat (seqOf x.packet).toNat = x.index := by
  cases rtps with
  | nil => simp [stream, sendAll]
  | cons rtp rest =>
    rw [List.forall_mem_cons] at hlen
    unfold stream at hroom ⊢
    rw [sendAll_cons _ hlen.1] at hroom ⊢
    rw [List.forall_mem_cons] at hroom ⊢
    have hindex : extend 0x8000 (updateSender (fresh suite keys) (seqOf rtp)).senderRoc.toNat
        (seqOf rtp).toNat = 0+(seqOf rtp-0).toNat := by
      simp [updateSender, fresh, rollsOver, extend]
    exact ⟨hindex,sendAll_index hindex hlen.2 hadv hroom.2⟩

theorem stream_genuine {suite : CryptoSuite} {keys : SessionKeys}
    (hfit : ∀ p ∈ rtps, HeaderFits p) (hadv : (rtps.map seqOf).IsChain Advance)
    (hroom : ∀ x ∈ stream c suite keys rtps, x.index < 2^48) :
    ∀ x ∈ stream c suite keys rtps, Genuine c suite keys x := by
  intro x hx
  exact ⟨sendAll_wire 0 hfit x hx,
    stream_index (fun p hp => length_of_headerFits (hfit p hp)) hadv hroom x hx⟩

end Sender

section Receiver

def Holds (ctx : Context) (highest : ℕ) : Prop :=
  ctx.firstPacket = false ∧
    extend 0x8000 ctx.receiverRoc.toNat ctx.highestSeq.toNat = highest

def Delivered (c : Crypto) (ctx : Context) (xs : List Sent) : Prop :=
  ∃ wires, xs.map Sent.wire = wires.map .ok ∧
    replies (unprotect c) ctx wires = xs.map (fun x => .ok x.packet)

variable {c : Crypto} {ctx : Context} {highest : ℕ} {x : Sent} {xs : List Sent}

theorem updateReceiver_holds (hh : Holds ctx highest) (roc : UInt32) (seq : UInt16) :
    Holds (updateReceiver ctx roc seq) (max highest (extend 0x8000 roc.toNat seq.toNat)) := by
  obtain ⟨hf,rfl⟩ := hh
  unfold updateReceiver
  split_ifs with hlt <;> rw [UInt64.lt_iff_toNat_lt, packetIndex_toNat, packetIndex_toNat] at hlt
  · exact ⟨hf,(max_eq_right (le_of_lt hlt)).symm⟩
  · exact ⟨hf,(max_eq_left (not_lt.mp hlt)).symm⟩

theorem delivered_cons {n : ℕ} {ctx' : Context} (hn : getRtpHeaderLen x.packet = .ok n)
    (hw : x.wire = .ok (sealed c ctx.suite ctx.keys x.roc x.packet n))
    (hroc : (chooseRoc ctx (seqOf x.packet)).1 = x.roc)
    (hctx : updateReceiver (chooseRoc ctx (seqOf x.packet)).2 x.roc (seqOf x.packet) = ctx')
    (h : Delivered c ctx' xs) : Delivered c ctx (x::xs) := by
  obtain ⟨wires,hmap,hreplies⟩ := h
  refine ⟨sealed c ctx.suite ctx.keys x.roc x.packet n::wires,?_,?_⟩
  · rw [List.map_cons, List.map_cons, hw, hmap]
  · rw [replies, unprotect_sealed hn hroc, hctx, hreplies, List.map_cons]

theorem delivered_of_near (hh : Holds ctx highest)
    (hx : ∀ x ∈ xs, Genuine c ctx.suite ctx.keys x) (hnear : NearHighest highest xs) :
    Delivered c ctx xs := by
  -- `Holds` carries the highest number from one packet to the next
  induction xs generalizing ctx highest with
  | nil => exact ⟨[],rfl,rfl⟩
  | cons x xs ih =>
    obtain ⟨⟨hle,hge⟩,hrest⟩ := hnear
    rw [List.forall_mem_cons] at hx
    obtain ⟨⟨⟨n,hn,hw⟩,hindex⟩,htail⟩ := hx
    have hchoose : chooseRoc ctx (seqOf x.packet) = (x.roc,ctx) := by
      have hroc : estimateRoc ctx.receiverRoc ctx.highestSeq (seqOf x.packet) = x.roc := by
        apply estimateRoc_eq
        · rw [hindex, hh.2]
          omega
        · rw [hindex, hh.2]
          omega
      simp [chooseRoc, hh.1, hroc]
    refine delivered_cons hn hw (by rw [hchoose]) rfl (ih ?_ ?_ hrest)
    · rw [hchoose, ← hindex]
      exact updateReceiver_holds hh _ _
    · rwa [hchoose, updateReceiver_suite, updateReceiver_keys]

theorem delivered_of_orderly {suite : CryptoSuite} {keys : SessionKeys}
    (hx : ∀ x ∈ xs, Genuine c suite keys x) (ho : Orderly xs) :
    Delivered c (fresh suite keys) xs := by
  cases xs with
  | nil => exact ⟨[],rfl,rfl⟩
  | cons x xs =>
    obtain ⟨hzero,hnear⟩ := ho
    rw [List.forall_mem_cons] at hx
    obtain ⟨⟨⟨n,hn,hw⟩,hindex⟩,htail⟩ := hx
    let first : Context :=
      { fresh suite keys with firstPacket := false, highestSeq := seqOf x.packet }
    have hchoose : chooseRoc (fresh suite keys) (seqOf x.packet) = (x.roc,first) := by
      rw [hzero]
      rfl
    have hfirst : Holds first x.index := by
      rw [hzero] at hindex
      exact ⟨rfl,hindex⟩
    have hhold := updateReceiver_holds hfirst x.roc (seqOf x.packet)
    rw [hindex, max_self] at hhold
    refine delivered_cons hn hw (by rw [hchoose]) rfl ?_
    rw [hchoose]
    exact delivered_of_near hhold (by rwa [updateReceiver_suite, updateReceiver_keys]) hnear

end Receiver

/-- Whatever is lost, repeated or put in another order, a receiver that starts
with a packet of counter zero and stays near the highest number returns the
packets that were protected. -/
theorem schedule_delivered (c : Crypto) (suite : CryptoSuite) (keys : SessionKeys)
    (rtps : List Bytes) (schedule : List Sent) (hfit : ∀ p ∈ rtps, HeaderFits p)
    (hadv : (rtps.map seqOf).IsChain Advance)
    (hroom : ∀ x ∈ stream c suite keys rtps, x.index < 2^48)
    (hsent : ∀ x ∈ schedule, x ∈ stream c suite keys rtps) (ho : Orderly schedule) :
    Delivered c (fresh suite keys) schedule :=
  delivered_of_orderly (fun x hx => stream_genuine hfit hadv hroom x (hsent x hx)) ho

def sampleStream : List Sent :=
  stream sampleCrypto .aesCm128HmacSha1_80 sampleKeys [sampleRtp 0xFF 0xFF,sampleRtp 0 0]

theorem schedule_delivered_twice :
    sampleStream.map Sent.roc = [0,1] ∧
      Delivered sampleCrypto sampleContext (sampleStream++sampleStream) := by
  refine ⟨by decide +kernel,schedule_delivered sampleCrypto .aesCm128HmacSha1_80 sampleKeys
    [sampleRtp 0xFF 0xFF,sampleRtp 0 0] (sampleStream++sampleStream) ?_ (by decide +kernel)
    (by decide +kernel) ?_ (by decide +kernel)⟩
  · exact List.forall_mem_cons.mpr ⟨⟨12,rfl⟩,List.forall_mem_singleton.mpr ⟨12,rfl⟩⟩
  · intro x hx
    rw [List.mem_append, or_self] at hx
    exact hx

end RsipRtp.SrtpDelivery
