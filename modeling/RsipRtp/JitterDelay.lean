import Mathlib.Data.UInt
import Mathlib.Tactic.Linarith
import RsipRtp.JitterBuffer
import RsipRtp.WordOrder

/-!
# The target delay of the jitter buffer

The target follows twice the jitter estimate between two bounds, a quarter of
the way up or a sixteenth of the way down at a time.
-/

namespace RsipRtp.JitterDelay
open JitterBuffer OutputMachine WordOrder

def newTarget (b : Buffer ℚ) : UInt32 :=
  min (max (2*exactOps.toSamples b.jitter) (b.config.msToSamples b.config.minDelayMs))
    (b.config.msToSamples b.config.maxDelayMs)

def Fits (b : Buffer ℚ) : Prop :=
  2*(exactOps.toSamples b.jitter).toNat < 2^32 ∧
  (b.targetDelay < newTarget b →
    b.targetDelay.toNat+((newTarget b).toNat-b.targetDelay.toNat)/4 < 2^32) ∧
  (newTarget b < b.targetDelay →
    (b.targetDelay.toNat-(newTarget b).toNat)/16 ≤ b.targetDelay.toNat)

instance (b : Buffer ℚ) : Decidable (Fits b) := inferInstanceAs (Decidable (_ ∧ _))

/-- The same of the adaptation that a packet causes, which is neither a
duplicate nor late. -/
def PushFits (b : Buffer ℚ) : Op → Prop
  | .push sequence timestamp _ now =>
    (arrive exactOps sequence timestamp now b).packets.lookup timestamp = none →
    late timestamp (arrive exactOps sequence timestamp now b) = false →
    Fits (arrive exactOps sequence timestamp now b)
  | .pop => True

instance (b : Buffer ℚ) : (op : Op) → Decidable (PushFits b op)
  | .push _ _ _ _ => inferInstanceAs (Decidable (_ → _))
  | .pop => inferInstanceAs (Decidable True)

def samplesIn (rate : UInt32) (elapsed : ℕ) : ℤ := elapsed*rate.toNat/10^9

/-- The packet is not so far behind the last one that the time between them
and the distance make 2^31. -/
def NotFarBehind (b : Buffer ℚ) : Op → Prop
  | .push _ timestamp _ now => ∀ last ∈ b.lastArrival,
    samplesIn b.config.clockRate (now-last.1)-2^31 < (timestampDiff timestamp last.2).toInt
  | .pop => True

instance (b : Buffer ℚ) : (op : Op) → Decidable (NotFarBehind b op)
  | .push _ _ _ _ => inferInstanceAs (Decidable (∀ _ ∈ b.lastArrival, _))
  | .pop => inferInstanceAs (Decidable True)

structure Regular (c : JitterBufferConfig) : Prop where
  ordered : c.minDelayMs ≤ c.maxDelayMs
  words : (max c.initialDelayMs c.maxDelayMs).toNat*c.clockRate.toNat < 2^32

def lowest (c : JitterBufferConfig) : UInt32 := c.msToSamples (min c.initialDelayMs c.minDelayMs)
def highest (c : JitterBufferConfig) : UInt32 := c.msToSamples (max c.initialDelayMs c.maxDelayMs)

section Bounds
variable {c : JitterBufferConfig}

theorem msToSamples_toNat {ms : UInt32} (h : ms.toNat*c.clockRate.toNat < 2^32) :
    (c.msToSamples ms).toNat = ms.toNat*c.clockRate.toNat/1000 := by
  rw [JitterBufferConfig.msToSamples, UInt32.toNat_div, UInt32.toNat_mul, Nat.mod_eq_of_lt h]
  rfl

theorem msToSamples_le (h : Regular c) {a b : UInt32} (hab : a ≤ b)
    (hb : b ≤ max c.initialDelayMs c.maxDelayMs) : c.msToSamples a ≤ c.msToSamples b := by
  have hle := UInt32.le_iff_toNat_le.mp hab
  have hmax := UInt32.le_iff_toNat_le.mp hb
  have hbwords := (Nat.mul_le_mul_right c.clockRate.toNat hmax).trans_lt h.words
  have hmul := Nat.mul_le_mul_right c.clockRate.toNat hle
  rw [UInt32.le_iff_toNat_le, msToSamples_toNat (hmul.trans_lt hbwords), msToSamples_toNat hbwords]
  exact Nat.div_le_div_right hmul

theorem regular_bounds (h : Regular c) :
    lowest c ≤ c.msToSamples c.minDelayMs ∧
    c.msToSamples c.minDelayMs ≤ c.msToSamples c.maxDelayMs ∧
    c.msToSamples c.maxDelayMs ≤ highest c ∧
    lowest c ≤ c.msToSamples c.initialDelayMs ∧ c.msToSamples c.initialDelayMs ≤ highest c := by
  have hordered := UInt32.le_iff_toNat_le.mp h.ordered
  refine ⟨msToSamples_le h ?_ ?_,msToSamples_le h h.ordered ?_,msToSamples_le h ?_ ?_,
    msToSamples_le h ?_ ?_,msToSamples_le h ?_ ?_⟩ <;>
    rw [UInt32.le_iff_toNat_le] <;> simp only [toNat_max32, toNat_min32] <;> omega

end Bounds

section Step
variable {c : JitterBufferConfig} {b : Buffer ℚ}

structure Kept (c : JitterBufferConfig) (b : Buffer ℚ) : Prop where
  config : b.config = c
  nonneg : 0 ≤ b.jitter
  small : b.jitter < 2^31
  lower : lowest c ≤ b.targetDelay
  upper : b.targetDelay ≤ highest c

theorem new_kept (h : Regular c) : Kept c (new exactOps c) :=
  ⟨rfl,le_refl _,by change (0 : ℚ) < 2^31; norm_num,(regular_bounds h).2.2.2.1,
    (regular_bounds h).2.2.2.2⟩

theorem toSamples_small {j : ℚ} (hsmall : j < 2^31) :
    (exactOps.toSamples j).toNat < 2^31 := by
  have hfloor : ⌊j⌋ < 2^31 := by
    rw [Int.floor_lt]
    exact_mod_cast hsmall
  change (UInt32.ofNat (min ⌊j⌋.toNat (2^32-1))).toNat < 2^31
  rw [UInt32.toNat_ofNat', Nat.min_eq_left (by omega)]
  omega

theorem adaptedTarget_eq (b : Buffer ℚ) : adaptedTarget exactOps b =
    if newTarget b > b.targetDelay then b.targetDelay+(newTarget b-b.targetDelay)/4
    else if newTarget b < b.targetDelay then b.targetDelay-(b.targetDelay-newTarget b)/16
    else b.targetDelay := rfl

theorem newTarget_bounds (h : Regular b.config) :
    lowest b.config ≤ newTarget b ∧ newTarget b ≤ highest b.config := by
  obtain ⟨hlow,hmid,hhigh,_,_⟩ := regular_bounds h
  rw [UInt32.le_iff_toNat_le] at hlow hmid hhigh
  rw [UInt32.le_iff_toNat_le, UInt32.le_iff_toNat_le, newTarget, toNat_min32, toNat_max32]
  omega

theorem adaptedTarget_bounds (h : Regular b.config) (hlow : lowest b.config ≤ b.targetDelay)
    (hhigh : b.targetDelay ≤ highest b.config) :
    lowest b.config ≤ adaptedTarget exactOps b ∧ adaptedTarget exactOps b ≤ highest b.config := by
  obtain ⟨hnewlow,hnewhigh⟩ := newTarget_bounds h
  rw [UInt32.le_iff_toNat_le] at hnewlow hnewhigh hlow hhigh
  rw [adaptedTarget_eq, UInt32.le_iff_toNat_le, UInt32.le_iff_toNat_le]
  have hword := (newTarget b).toNat_lt
  split
  · next hup =>
    have hlt := UInt32.lt_iff_toNat_lt.mp hup
    have hmoved : (b.targetDelay+(newTarget b-b.targetDelay)/4).toNat =
        b.targetDelay.toNat+((newTarget b).toNat-b.targetDelay.toNat)/4 := by
      rw [UInt32.toNat_add, UInt32.toNat_div, UInt32.toNat_sub_of_le _ _
        (UInt32.le_iff_toNat_le.mpr hlt.le)]
      exact Nat.mod_eq_of_lt (by change _+_/4 < _; omega)
    rw [hmoved]
    omega
  split
  · next hdown =>
    have hlt := UInt32.lt_iff_toNat_lt.mp hdown
    have hpart : ((b.targetDelay-newTarget b)/16).toNat =
        (b.targetDelay.toNat-(newTarget b).toNat)/16 := by
      rw [UInt32.toNat_div, UInt32.toNat_sub_of_le _ _ (UInt32.le_iff_toNat_le.mpr hlt.le)]
      rfl
    have hmoved : (b.targetDelay-(b.targetDelay-newTarget b)/16).toNat =
        b.targetDelay.toNat-(b.targetDelay.toNat-(newTarget b).toNat)/16 := by
      rw [UInt32.toNat_sub_of_le _ _ (UInt32.le_iff_toNat_le.mpr (by rw [hpart]; omega)), hpart]
    rw [hmoved]
    omega
  · exact ⟨hlow,hhigh⟩

theorem fits_of_small (h : (exactOps.toSamples b.jitter).toNat < 2^31) : Fits b := by
  have hword := (newTarget b).toNat_lt
  refine ⟨by omega,fun hup => ?_,fun _ => by omega⟩
  have hlt := UInt32.lt_iff_toNat_lt.mp hup
  omega

theorem update_bounds {rate : UInt32} {elapsed : ℕ} {tsDiff : Int32} {j : ℚ} (hnonneg : 0 ≤ j)
    (hsmall : j < 2^31) (hnear : samplesIn rate elapsed-2^31 < tsDiff.toInt) :
    0 ≤ exactOps.update rate elapsed tsDiff j ∧ exactOps.update rate elapsed tsDiff j < 2^31 := by
  have hsamples : 0 ≤ samplesIn rate elapsed := by
    unfold samplesIn
    positivity
  have hdistance : (samplesIn rate elapsed-tsDiff.toInt).natAbs < 2^31 := by
    have := tsDiff.toInt_lt
    omega
  have hcast : ((samplesIn rate elapsed-tsDiff.toInt).natAbs : ℚ) < 2^31 := by
    exact_mod_cast hdistance
  have hzero : (0 : ℚ) ≤ (samplesIn rate elapsed-tsDiff.toInt).natAbs := Nat.cast_nonneg _
  have hupdate : exactOps.update rate elapsed tsDiff j =
      j+(((samplesIn rate elapsed-tsDiff.toInt).natAbs : ℚ)-j)/16 := rfl
  rw [hupdate]
  constructor
  · linarith
  · linarith

section Packet
variable {sequence : UInt16} {timestamp : UInt32} {samples : List Int16} {now : ℕ}

theorem arrive_kept (h : Kept c b)
    (hnear : NotFarBehind b (.push sequence timestamp samples now)) :
    Kept c (arrive exactOps sequence timestamp now b) := by
  have hjitter : 0 ≤ (arrive exactOps sequence timestamp now b).jitter ∧
      (arrive exactOps sequence timestamp now b).jitter < 2^31 := by
    unfold arrive
    cases hlast : b.lastArrival with
    | none => exact ⟨h.nonneg,h.small⟩
    | some last => exact update_bounds h.nonneg h.small (hnear last hlast)
  exact ⟨h.config,hjitter.1,hjitter.2,h.lower,h.upper⟩

theorem store_delay {d : Buffer ℚ} (h : store exactOps sequence timestamp samples now b = some d) :
    d.jitter = b.jitter ∧ d.targetDelay = adaptedTarget exactOps b := by
  obtain ⟨nextSeq,hseq⟩ := trackSeq_eq sequence b
  unfold store at h
  rw [hseq] at h
  obtain ⟨e,he,hd⟩ := Option.bind_eq_some_iff.mp h
  obtain ⟨ms,_,rfl⟩ := Option.map_eq_some_iff.mp he
  rcases prime_cases hd with rfl | ⟨_,rfl⟩
  · exact ⟨rfl,rfl⟩
  · exact ⟨rfl,rfl⟩

theorem push_kept {d : Buffer ℚ} {accepted : Bool} (hregular : Regular c)
    (ha : Kept c (arrive exactOps sequence timestamp now b))
    (h : push exactOps sequence timestamp samples now b = some (d,accepted)) : Kept c d := by
  unfold push at h
  dsimp only at h
  split_ifs at h
  · cases h
    exact ⟨ha.config,ha.nonneg,ha.small,ha.lower,ha.upper⟩
  · cases h
    exact ⟨ha.config,ha.nonneg,ha.small,ha.lower,ha.upper⟩
  · obtain ⟨e,he,heq⟩ := Option.map_eq_some_iff.mp h
    cases heq
    obtain ⟨hjitter,htarget⟩ := store_delay he
    have hconfig := ha.config
    have hbounds := adaptedTarget_bounds (b := arrive exactOps sequence timestamp now b)
      (hconfig ▸ hregular) (hconfig ▸ ha.lower) (hconfig ▸ ha.upper)
    rw [hconfig, ← htarget] at hbounds
    exact ⟨(store_stored he).config.trans hconfig,hjitter ▸ ha.nonneg,hjitter ▸ ha.small,
      hbounds.1,hbounds.2⟩

end Packet

theorem pop_kept (h : Kept c b) : Kept c (pop exactOps b).1 := by
  rcases pop_cases exactOps b with ⟨_,heq⟩ |
    ⟨_,_,_,⟨_,_,heq⟩ | ⟨_,_,_,_,_,heq⟩ | ⟨_,_,heq⟩⟩ <;>
  · rw [heq]
    exact ⟨h.config,h.nonneg,h.small,h.lower,h.upper⟩

theorem step_kept (hregular : Regular c) (op : Op) (d : Buffer ℚ) (out : List Event)
    (h : Kept c b) (hnear : NotFarBehind b op) (hstep : step exactOps b op = some (d,out)) :
    Kept c d := by
  cases op with
  | push sequence timestamp samples now =>
    obtain ⟨accepted,hpush,_⟩ := step_push.mp hstep
    exact push_kept hregular (arrive_kept h hnear) hpush
  | pop =>
    cases hstep
    exact pop_kept h

theorem kept_fits (op : Op) (h : Kept c b) (hnear : NotFarBehind b op) : PushFits b op := by
  cases op with
  | push sequence timestamp samples now =>
    intro _ _
    have ha := arrive_kept h hnear
    exact fits_of_small (toSamples_small ha.small)
  | pop => trivial

end Step

/-- While no packet is far behind the last one, no operation on the delay
leaves its range, and the target stays between the bounds. -/
theorem delay_fits {c : JitterBufferConfig} (hregular : Regular c) (ops : List Op)
    (hnear : Guarded (step exactOps) NotFarBehind (new exactOps c) ops) :
    Guarded (step exactOps) PushFits (new exactOps c) ops ∧
    ∀ b out, run (step exactOps) (new exactOps c) ops = some (b,out) →
      lowest c ≤ b.targetDelay ∧ b.targetDelay ≤ highest c := by
  have hstep := fun s i t out (hs : Kept c s) => step_kept hregular i t out hs
  refine ⟨guarded_imp hstep (fun s i hs => kept_fits i hs) (new_kept hregular) hnear,
    fun b out hrun => ?_⟩
  have hkept := run_guarded_invariant hstep (new_kept hregular) hnear hrun
  exact ⟨hkept.lower,hkept.upper⟩

/-- Two packets that arrive as they were sent. -/
theorem steady_stream_delay :
    let ops : List Op := [.push 0 0 [] 0,.push 1 160 [] 20000000]
    Guarded (step exactOps) PushFits (new exactOps g711) ops ∧
    ∀ b out, run (step exactOps) (new exactOps g711) ops = some (b,out) →
      lowest g711 ≤ b.targetDelay ∧ b.targetDelay ≤ highest g711 :=
  delay_fits ⟨by decide,by decide⟩ _ (by decide +kernel)

/-- Every 20 ms a packet half the range of timestamps from the last one, and
then one that is not late. -/
def swinging : List Op :=
  (List.range 256).map (fun i => .push 0 (if i % 2 = 0 then 0 else 2^31) [] (i*20000000)) ++
    [.push 0 160 [] (256*20000000)]

theorem swinging_overflows : ¬Guarded (step exactOps) PushFits (new exactOps g711) swinging := by
  decide +kernel

end RsipRtp.JitterDelay
