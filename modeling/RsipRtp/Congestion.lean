import Mathlib.Algebra.Group.Nat.Defs
import RsipRtp.OutputMachine
import RsipRtp.WordOrder

/-!
# The congestion controller of the sender

Bitrates are 64-bit words and wrap, as the release build does.
-/

namespace RsipRtp.Congestion
open OutputMachine WordOrder

inductive CongestionState
  | slowStart | congestionAvoidance | recovery
deriving DecidableEq

structure CongestionController where
  state : CongestionState
  targetBitrate : UInt64
  minBitrate : UInt64
  maxBitrate : UInt64
  ssthresh : UInt64
  lastIncrease : ℕ
  lastDecrease : ℕ
  rttSamples : List ℕ
  smoothedRtt : ℕ
  rttVar : ℕ
  nacksInInterval : UInt32
  packetsInInterval : UInt32
  lastRemb : Option UInt64
deriving DecidableEq

def millis (n : ℕ) : ℕ := n*10^6

/-- `Duration::MAX`. -/
def maxDuration : ℕ := 2^64*10^9-1

def new (initialBitrate minBitrate maxBitrate : UInt64) (now : ℕ) : CongestionController where
  state := .slowStart
  targetBitrate := initialBitrate
  minBitrate := minBitrate
  maxBitrate := maxBitrate
  ssthresh := maxBitrate/2
  lastIncrease := now
  lastDecrease := now
  rttSamples := []
  smoothedRtt := millis 100
  rttVar := millis 50
  nacksInInterval := 0
  packetsInInterval := 0
  lastRemb := none

def onPacketSent (c : CongestionController) : CongestionController :=
  {c with packetsInInterval := c.packetsInInterval+1}

def onNack (lostPackets : UInt32) (now : ℕ) (c : CongestionController) : CongestionController :=
  let c := {c with nacksInInterval := c.nacksInInterval+lostPackets}
  if now-c.lastDecrease < c.smoothedRtt then c
  else
    let target := max (c.targetBitrate/2) c.minBitrate
    {c with targetBitrate := target, ssthresh := target, state := .recovery, lastDecrease := now}

def reduceTo (bitrate : UInt64) (now : ℕ) (c : CongestionController) : CongestionController :=
  if bitrate < c.targetBitrate*90/100 then
    let target := max bitrate c.minBitrate
    {c with targetBitrate := target, ssthresh := target
            state := .congestionAvoidance, lastDecrease := now}
  else c

def onRemb (bitrate : UInt64) (now : ℕ) (c : CongestionController) : CongestionController :=
  let c := reduceTo bitrate now {c with lastRemb := some bitrate}
  if bitrate < c.maxBitrate then {c with maxBitrate := bitrate} else c

def checked (d : ℕ) : Option ℕ := if d ≤ maxDuration then some d else none

def pushSample (rtt : ℕ) (samples : List ℕ) : List ℕ :=
  (if 10 ≤ samples.length then samples.tail else samples)++[rtt]

def onRtt (rtt : ℕ) (c : CongestionController) : Option CongestionController :=
  let samples := pushSample rtt c.rttSamples
  if samples.length = 1 then
    some {c with rttSamples := samples, smoothedRtt := rtt, rttVar := rtt/2}
  else do
    let diff := max (c.smoothedRtt-rtt) (rtt-c.smoothedRtt)
    let var ← checked (c.rttVar*3)
    let var ← checked (var/4+diff/4)
    let srtt ← checked (c.smoothedRtt*7)
    let srtt ← checked (srtt/8+rtt/8)
    some {c with rttSamples := samples, smoothedRtt := srtt, rttVar := var}

/-- By how much `update` raises the target before the ceilings. -/
def increase (c : CongestionController) : UInt64 :=
  match c.state with
  | .slowStart => c.targetBitrate/10
  | .congestionAvoidance | .recovery => max (c.targetBitrate/(1200*8)/10) 10000

/-- The loss ratio of two 32-bit counts exceeds the floating-point `0.02`
exactly when the integers say so. -/
def lossy (c : CongestionController) : Bool :=
  c.packetsInInterval.toNat < 50*c.nacksInInterval.toNat && 0 < c.packetsInInterval.toNat

def raise (now : ℕ) (c : CongestionController) : CongestionController :=
  let target := min (c.targetBitrate+increase c) c.maxBitrate
  match c.state with
  | .slowStart =>
    {c with
      targetBitrate := target, lastIncrease := now
      state := if c.ssthresh ≤ target then .congestionAvoidance else .slowStart}
  | .congestionAvoidance | .recovery =>
    {c with
      targetBitrate := c.lastRemb.elim target (min target), lastIncrease := now}

def update (now : ℕ) (c : CongestionController) : CongestionController :=
  let reset := {c with nacksInInterval := 0, packetsInInterval := 0}
  if lossy c then reset
  else if now-c.lastIncrease < millis 100 then reset
  else raise now reset

inductive Call
  | packetSent
  | nack (lostPackets : UInt32) (now : ℕ)
  | remb (bitrate : UInt64) (now : ℕ)
  | rtt (rtt : ℕ)
  | update (now : ℕ)

def call (c : CongestionController) : Call → Option CongestionController
  | .packetSent => some (onPacketSent c)
  | .nack lostPackets now => some (onNack lostPackets now c)
  | .remb bitrate now => some (onRemb bitrate now c)
  | .rtt rtt => onRtt rtt c
  | .update now => some (update now c)

def step : Step CongestionController Call UInt64 := fun c i =>
  (call c i).map (fun t => (t,[t.targetBitrate]))

section Bounds

structure InRange (lo hi : UInt64) (c : CongestionController) : Prop where
  minBitrate : c.minBitrate = lo
  bounds : lo ≤ hi
  target : lo ≤ c.targetBitrate ∧ c.targetBitrate ≤ hi
  maxBitrate : lo ≤ c.maxBitrate ∧ c.maxBitrate ≤ hi
  lastRemb : ∀ remb ∈ c.lastRemb, lo ≤ remb

def Permitted (c : CongestionController) : Call → Prop
  | .remb bitrate _ => c.minBitrate ≤ bitrate
  | .update _ => c.targetBitrate.toNat+(increase c).toNat < 2^64
  | _ => True

variable {lo hi : UInt64} {c : CongestionController}

theorem onNack_inRange (lostPackets : UInt32) (now : ℕ) (h : InRange lo hi c) :
    InRange lo hi (onNack lostPackets now c) := by
  unfold onNack
  by_cases hearly : now-c.lastDecrease < c.smoothedRtt
  · rw [if_pos hearly]
    exact ⟨h.minBitrate,h.bounds,h.target,h.maxBitrate,h.lastRemb⟩
  · rw [if_neg hearly]
    refine ⟨h.minBitrate,h.bounds,?_,h.maxBitrate,h.lastRemb⟩
    have htarget := h.target
    have hbounds := h.bounds
    simp only [h.minBitrate, UInt64.le_iff_toNat_le, toNat_max64, UInt64.toNat_div,
      UInt64.reduceToNat] at htarget hbounds ⊢
    omega

theorem reduceTo_inRange {bitrate : UInt64} (now : ℕ) (h : InRange lo hi c) :
    InRange lo hi (reduceTo bitrate now c) := by
  unfold reduceTo
  by_cases hlow : bitrate < c.targetBitrate*90/100
  · rw [if_pos hlow]
    refine ⟨h.minBitrate,h.bounds,?_,h.maxBitrate,h.lastRemb⟩
    have htarget := h.target
    have hbounds := h.bounds
    have hwrap := Nat.mod_le (c.targetBitrate.toNat*90) (2^64)
    simp only [h.minBitrate, UInt64.lt_iff_toNat_lt, UInt64.le_iff_toNat_le, toNat_max64,
      UInt64.toNat_div, UInt64.toNat_mul, UInt64.reduceToNat] at hlow htarget hbounds ⊢
    omega
  · rw [if_neg hlow]
    exact h

theorem onRemb_inRange {bitrate : UInt64} (now : ℕ) (h : InRange lo hi c) (hb : lo ≤ bitrate) :
    InRange lo hi (onRemb bitrate now c) := by
  have hreduced : InRange lo hi (reduceTo bitrate now {c with lastRemb := some bitrate}) :=
    reduceTo_inRange now ⟨h.minBitrate,h.bounds,h.target,h.maxBitrate,by simpa using hb⟩
  unfold onRemb
  dsimp only
  split_ifs with hcap
  · have hmax := hreduced.maxBitrate.2
    refine ⟨hreduced.minBitrate,hreduced.bounds,hreduced.target,⟨hb,?_⟩,hreduced.lastRemb⟩
    exact UInt64.le_trans (UInt64.le_of_lt hcap) hmax
  · exact hreduced

theorem raised_inRange (h : InRange lo hi c)
    (hfits : c.targetBitrate.toNat+(increase c).toNat < 2^64) :
    lo ≤ min (c.targetBitrate+increase c) c.maxBitrate ∧
      min (c.targetBitrate+increase c) c.maxBitrate ≤ hi := by
  have htarget := h.target
  have hmax := h.maxBitrate
  simp only [UInt64.le_iff_toNat_le, toNat_min64, UInt64.toNat_add, Nat.mod_eq_of_lt hfits]
    at htarget hmax ⊢
  omega

theorem raise_inRange (now : ℕ) (h : InRange lo hi c)
    (hfits : c.targetBitrate.toNat+(increase c).toNat < 2^64) : InRange lo hi (raise now c) := by
  have hraised := raised_inRange h hfits
  have hremb : lo ≤ c.lastRemb.elim (min (c.targetBitrate+increase c) c.maxBitrate)
        (min (min (c.targetBitrate+increase c) c.maxBitrate)) ∧
      c.lastRemb.elim (min (c.targetBitrate+increase c) c.maxBitrate)
        (min (min (c.targetBitrate+increase c) c.maxBitrate)) ≤ hi := by
    cases hl : c.lastRemb with
    | none => exact hraised
    | some remb =>
      have hlow := h.lastRemb remb hl
      simp only [Option.elim_some, UInt64.le_iff_toNat_le, toNat_min64] at hraised hlow ⊢
      omega
  unfold raise
  cases c.state with
  | slowStart => exact ⟨h.minBitrate,h.bounds,hraised,h.maxBitrate,h.lastRemb⟩
  | congestionAvoidance | recovery =>
    exact ⟨h.minBitrate,h.bounds,hremb,h.maxBitrate,h.lastRemb⟩

theorem update_inRange (now : ℕ) (h : InRange lo hi c)
    (hfits : c.targetBitrate.toNat+(increase c).toNat < 2^64) : InRange lo hi (update now c) := by
  have hreset : InRange lo hi {c with nacksInInterval := 0, packetsInInterval := 0} :=
    ⟨h.minBitrate,h.bounds,h.target,h.maxBitrate,h.lastRemb⟩
  unfold update
  dsimp only
  split_ifs
  · exact hreset
  · exact hreset
  · exact raise_inRange now hreset hfits

theorem onRtt_inRange {rtt : ℕ} {t : CongestionController} (h : InRange lo hi c)
    (hs : onRtt rtt c = some t) : InRange lo hi t := by
  unfold onRtt at hs
  dsimp only at hs
  split_ifs at hs
  · cases hs
    exact ⟨h.minBitrate,h.bounds,h.target,h.maxBitrate,h.lastRemb⟩
  · simp only [Option.bind_eq_bind, Option.bind_eq_some_iff] at hs
    obtain ⟨_,_,_,_,_,_,_,_,hs⟩ := hs
    cases hs
    exact ⟨h.minBitrate,h.bounds,h.target,h.maxBitrate,h.lastRemb⟩

theorem call_inRange {t : CongestionController} {i : Call} (h : InRange lo hi c)
    (hg : Permitted c i) (hs : call c i = some t) : InRange lo hi t := by
  cases i with
  | packetSent =>
    cases hs
    exact ⟨h.minBitrate,h.bounds,h.target,h.maxBitrate,h.lastRemb⟩
  | nack lostPackets now => cases hs; exact onNack_inRange lostPackets now h
  | remb bitrate now => cases hs; exact onRemb_inRange now h (h.minBitrate ▸ hg)
  | rtt rtt => exact onRtt_inRange h hs
  | update now => cases hs; exact update_inRange now h hg

/-- While no estimate falls below the minimum and no raise overflows, every
target lies between the bounds given at construction. -/
theorem target_within_bounds (initial lo hi : UInt64) (now : ℕ) (calls : List Call)
    (t : CongestionController) (targets : List UInt64) (hlo : lo ≤ initial) (hhi : initial ≤ hi)
    (hg : Guarded step Permitted (new initial lo hi now) calls)
    (hr : run step (new initial lo hi now) calls = some (t,targets)) :
    ∀ target ∈ targets, lo ≤ target ∧ target ≤ hi := by
  have hinit : InRange lo hi (new initial lo hi now) := by
    have hbounds := UInt64.le_trans hlo hhi
    exact ⟨rfl,hbounds,⟨hlo,hhi⟩,⟨hbounds,UInt64.le_refl hi⟩,by simp [new]⟩
  refine (run_guarded_history (P := fun c targets => InRange lo hi c ∧
    ∀ target ∈ targets, lo ≤ target ∧ target ≤ hi) ?_ (h := []) ⟨hinit,by simp⟩ hg hr).2
  intro c history i u out ⟨hc,hhistory⟩ hi hstep
  obtain ⟨v,hcall,hv⟩ := Option.map_eq_some_iff.mp hstep
  cases hv
  have hu := call_inRange hc hi hcall
  refine ⟨hu,fun target ht => ?_⟩
  rcases List.mem_append.mp ht with hold | hnew
  · exact hhistory target hold
  · rw [List.mem_singleton.mp hnew]
    exact hu.target

theorem target_within_bounds_after_feedback :
    run step (new 500000 50000 5000000 0)
        [.nack 1 (millis 200),.remb 60000 (millis 300),.update (millis 400)] =
      some (⟨.congestionAvoidance,60000,50000,60000,60000,millis 400,millis 300,[],millis 100,
        millis 50,0,0,some 60000⟩,[250000,60000,60000]) ∧
      ∀ target ∈ [(250000 : UInt64),60000,60000], 50000 ≤ target ∧ target ≤ 5000000 := by
  have hrun : run step (new 500000 50000 5000000 0)
      [.nack 1 (millis 200),.remb 60000 (millis 300),.update (millis 400)] =
        some (⟨.congestionAvoidance,60000,50000,60000,60000,millis 400,millis 300,[],millis 100,
          millis 50,0,0,some 60000⟩,[250000,60000,60000]) := by decide
  refine ⟨hrun,target_within_bounds 500000 50000 5000000 0 _ _ _ (by decide) (by decide) ?_ hrun⟩
  exact guarded_cons trivial rfl (guarded_cons (by decide : (50000 : UInt64) ≤ 60000) rfl
    (guarded_cons (by decide : (60000 : UInt64).toNat+(10000 : UInt64).toNat < 2^64) rfl trivial))

theorem remb_zero_sinks_target :
    ∃ c, run step (new 500000 50000 5000000 0) [.remb 0 0,.update (millis 100)] =
      some (c,[50000,0]) ∧ c.targetBitrate < c.minBitrate :=
  ⟨_,rfl,by decide⟩

end Bounds

end RsipRtp.Congestion
