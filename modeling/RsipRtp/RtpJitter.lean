import RsipRtp.OutputMachine
import RsipRtp.RtpSession

/-!
# The arithmetic of the jitter estimate of a session

The estimate is updated in signed words of 32 bits.
-/

namespace RsipRtp.RtpJitter
open RtpFormat RtpSession OutputMachine

def Fits32 (z : ℤ) : Prop := -2^31 ≤ z ∧ z < 2^31

def NoOverflow (arrivalSamples tsDiff : Int32) (jitter : UInt32) : Prop :=
  let d := UInt32.ofNat (arrivalSamples-tsDiff).toInt.natAbs
  let adjustment := (d.toInt32-jitter.toInt32) >>> 4
  Fits32 (arrivalSamples.toInt-tsDiff.toInt) ∧
    Fits32 (d.toInt32.toInt-jitter.toInt32.toInt) ∧ Fits32 (-adjustment.toInt)

theorem fits_sub {a b : Int32} (h : Fits32 (a.toInt-b.toInt)) :
    (a-b).toInt = a.toInt-b.toInt := by
  rw [Int32.toInt_sub]
  exact Int.bmod_eq_of_le (by have := h.1; omega) (by have := h.2; omega)

theorem toInt32_small {n : UInt32} (h : n.toNat < 2^31) : n.toInt32.toInt = n.toNat := by
  have hbits : n.toInt32.toInt = n.toBitVec.toInt := rfl
  rw [hbits, BitVec.toInt_eq_toNat_of_lt]
  · rfl
  · change 2*n.toNat < 2^32
    omega

theorem shift_four (x : Int32) : (x >>> 4).toInt = x.toInt/16 := by
  rw [← Int32.toInt_toBitVec, Int32.toBitVec_shiftRight, BitVec.toInt_sshiftRight',
    Int32.toInt_toBitVec]
  exact Int.shiftRight_eq_div_pow _ 4

theorem nonneg_toInt {x : Int32} (h : 0 ≤ x) : 0 ≤ x.toInt := by
  rwa [Int32.le_iff_toInt_le, Int32.toInt_zero] at h

theorem nonneg_toUInt32 {x : Int32} (h : 0 ≤ x) : x.toUInt32.toNat = x.toInt.toNat := by
  have hcond : x.toInt = if 2*x.toUInt32.toNat < 2^32 then (x.toUInt32.toNat : ℤ)
      else (x.toUInt32.toNat : ℤ)-(2^32 : ℕ) := BitVec.toInt_eq_toNat_cond x.toBitVec
  have hnonneg := nonneg_toInt h
  have hlt := x.toUInt32.toNat_lt
  split_ifs at hcond <;> omega

section Update
variable {arrivalSamples tsDiff : Int32} {jitter : UInt32}

theorem distance_small (hpos : 0 ≤ arrivalSamples)
    (hnear : arrivalSamples.toInt-tsDiff.toInt < 2^31) :
    Fits32 (arrivalSamples.toInt-tsDiff.toInt) ∧
    (UInt32.ofNat (arrivalSamples-tsDiff).toInt.natAbs).toNat =
      (arrivalSamples.toInt-tsDiff.toInt).natAbs ∧
    (arrivalSamples.toInt-tsDiff.toInt).natAbs < 2^31 := by
  have hzero := nonneg_toInt hpos
  have hmax := tsDiff.toInt_lt
  have hfits : Fits32 (arrivalSamples.toInt-tsDiff.toInt) := ⟨by omega,hnear⟩
  have habs : (arrivalSamples.toInt-tsDiff.toInt).natAbs < 2^31 := by omega
  refine ⟨hfits,?_,habs⟩
  rw [fits_sub hfits, UInt32.toNat_ofNat']
  exact Nat.mod_eq_of_lt (by omega)

theorem adjustment_eq (hpos : 0 ≤ arrivalSamples)
    (hnear : arrivalSamples.toInt-tsDiff.toInt < 2^31) (hjitter : jitter.toNat < 2^31) :
    (((UInt32.ofNat (arrivalSamples-tsDiff).toInt.natAbs).toInt32-jitter.toInt32) >>> 4).toInt =
      ((arrivalSamples.toInt-tsDiff.toInt).natAbs-(jitter.toNat : ℤ))/16 := by
  obtain ⟨_,hd,habs⟩ := distance_small hpos hnear
  rw [shift_four, fits_sub, toInt32_small (by omega), toInt32_small hjitter, hd]
  rw [toInt32_small (by omega), toInt32_small hjitter, hd]
  exact ⟨by omega,by omega⟩

/-- With an estimate below 2^31, only the first subtraction can leave the range. -/
theorem noOverflow_iff (hpos : 0 ≤ arrivalSamples) (hjitter : jitter.toNat < 2^31) :
    NoOverflow arrivalSamples tsDiff jitter ↔ arrivalSamples.toInt-tsDiff.toInt < 2^31 := by
  refine ⟨fun h => h.1.2,fun hnear => ?_⟩
  obtain ⟨hfits,hd,habs⟩ := distance_small hpos hnear
  refine ⟨hfits,?_,?_⟩
  · rw [toInt32_small (by omega), toInt32_small hjitter, hd]
    exact ⟨by omega,by omega⟩
  · rw [adjustment_eq hpos hnear hjitter]
    exact ⟨by omega,by omega⟩

theorem nextJitter_small (hpos : 0 ≤ arrivalSamples)
    (hnear : arrivalSamples.toInt-tsDiff.toInt < 2^31) (hjitter : jitter.toNat < 2^31) :
    (nextJitter arrivalSamples tsDiff jitter).toNat < 2^31 := by
  have hadjust := adjustment_eq hpos hnear hjitter
  obtain ⟨_,_,habs⟩ := distance_small hpos hnear
  rw [nextJitter]
  generalize ((UInt32.ofNat (arrivalSamples-tsDiff).toInt.natAbs).toInt32-jitter.toInt32) >>> 4 =
    adjustment at hadjust
  split
  · next hge =>
    have hword := nonneg_toUInt32 hge
    have hnonneg := nonneg_toInt hge
    have hsum : jitter.toNat+adjustment.toInt.toNat < 2^31 := by omega
    rw [saturatingAdd, UInt32.toNat_ofNat', hword, Nat.min_eq_left (by omega)]
    omega
  · rw [saturatingSub, UInt32.toNat_ofNat']
    omega

end Update

section Session

structure Arrival where
  now : ℕ
  packet : RtpPacket

variable (samplesIn : UInt32 → ℕ → Int32)

def receiveStep : Step Session Arrival Empty :=
  total fun s a => (receivePacket samplesIn a.now a.packet s,[])

def AtUpdate (P : Int32 → Int32 → UInt32 → Prop) (s : Session) (a : Arrival) : Prop :=
  s.receiverState.initialized = true →
  ∀ lastArrival, s.receiverState.lastArrival = some lastArrival →
    P (samplesIn s.clockRate (a.now-lastArrival))
      (a.packet.timestamp-s.receiverState.lastTimestamp).toInt32 s.receiverState.jitter

/-- The packet is not so far behind the last one that the time between them
does not fit beside the distance. -/
def NotFarBehind (arrivalSamples tsDiff : Int32) (_jitter : UInt32) : Prop :=
  arrivalSamples.toInt-2^31 < tsDiff.toInt

theorem receive_jitter (s : Session) (a : Arrival) :
    (receivePacket samplesIn a.now a.packet s).receiverState.jitter =
      s.receiverState.jitter ∨
    s.receiverState.initialized = true ∧ ∃ lastArrival,
      s.receiverState.lastArrival = some lastArrival ∧
      (receivePacket samplesIn a.now a.packet s).receiverState.jitter =
        nextJitter (samplesIn s.clockRate (a.now-lastArrival))
          (a.packet.timestamp-s.receiverState.lastTimestamp).toInt32 s.receiverState.jitter := by
  have hcount : ∀ seq r, (countSeq seq r).jitter = r.jitter ∧
      (countSeq seq r).lastArrival = r.lastArrival ∧
      (countSeq seq r).lastTimestamp = r.lastTimestamp := by
    intro seq r
    rw [countSeq]
    split <;> exact ⟨rfl,rfl,rfl⟩
  obtain ⟨hjitter,harrival,htimestamp⟩ := hcount a.packet.sequenceNumber s.receiverState
  rw [receivePacket]
  dsimp only
  rw [receive]
  cases hinit : s.receiverState.initialized with
  | false => exact .inl rfl
  | true =>
    rw [Bool.not_true, if_neg Bool.false_ne_true, countJitter, harrival]
    cases hlast : s.receiverState.lastArrival with
    | none => exact .inl hjitter
    | some last =>
      dsimp only
      rw [hjitter, htimestamp]
      exact .inr ⟨rfl,last,rfl,rfl⟩

/-- No update of a run overflows exactly if no packet is too far behind the
one before. -/
theorem jitter_overflow_iff {samplesIn : UInt32 → ℕ → Int32}
    (hpos : ∀ rate gap, 0 ≤ samplesIn rate gap) (ssrc : UInt32)
    (payloadType : UInt8) (clockRate : UInt32) (initialSeq : UInt16) (initialTs : UInt32)
    (arrivals : List Arrival) :
    Guarded (receiveStep samplesIn) (AtUpdate samplesIn NoOverflow)
        (new ssrc payloadType clockRate initialSeq initialTs) arrivals ↔
      Guarded (receiveStep samplesIn) (AtUpdate samplesIn NotFarBehind)
        (new ssrc payloadType clockRate initialSeq initialTs) arrivals := by
  refine guarded_congr (P := fun s => s.receiverState.jitter.toNat < 2^31) ?_ ?_
    (by change (0 : ℕ) < 2^31; decide) arrivals
  · intro s a t out hjitter hsafe hstep
    obtain ⟨rfl,_⟩ := total_eq_some.mp hstep
    rcases receive_jitter samplesIn s a with hkept | ⟨hinit,last,hlast,hnext⟩
    · rw [hkept]
      exact hjitter
    · rw [hnext]
      exact nextJitter_small (hpos _ _)
        ((noOverflow_iff (hpos _ _) hjitter).mp (hsafe hinit last hlast)) hjitter
  · intro s a hjitter
    refine forall_congr' fun _ => forall₂_congr fun last _ => ?_
    rw [noOverflow_iff (hpos _ _) hjitter, NotFarBehind]
    constructor <;> intro h <;> omega

end Session

def packetAt (timestamp : UInt32) : Arrival := ⟨0,RtpPacket.new 0 0 timestamp 1⟩

/-- A stream whose timestamps move on by a packet. -/
theorem steady_stream_fits :
    Guarded (receiveStep fun _ _ => 0) (AtUpdate (fun _ _ => 0) NoOverflow) (new 1 0 8000 0 0)
      [packetAt 0,packetAt 160,packetAt 320] := by
  refine (jitter_overflow_iff (fun _ _ => by decide) 1 0 8000 0 0 _).mpr ?_
  refine guarded_cons ?_ rfl (guarded_cons ?_ rfl (guarded_cons ?_ rfl trivial))
  · intro hinit
    cases hinit
  · exact fun _ _ _ => (by decide : (0 : Int32).toInt-2^31 < ((160 : UInt32)-0).toInt32.toInt)
  · exact fun _ _ _ => (by decide : (0 : Int32).toInt-2^31 < ((320 : UInt32)-160).toInt32.toInt)

/-- A packet 2^31 behind the one before, which came at the same time. -/
theorem half_turn_overflows :
    ¬Guarded (receiveStep fun _ _ => 0) (AtUpdate (fun _ _ => 0) NoOverflow) (new 1 0 8000 0 0)
      [packetAt 0,packetAt 0x80000000] := by
  rintro ⟨_,hrest⟩
  obtain ⟨hsecond,_⟩ := hrest _ _ rfl
  have hfits := (hsecond rfl 0 rfl).1.2
  exact absurd hfits (by decide)

end RsipRtp.RtpJitter
