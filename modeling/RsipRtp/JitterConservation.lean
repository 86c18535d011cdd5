import RsipRtp.JitterBuffer

/-!
# Every packet is accounted for

A packet that was received is a duplicate, late, played or still waiting.
-/

namespace RsipRtp.JitterConservation
open FiniteMap OutputMachine JitterBuffer

variable {J : Type} {ops : FloatOps J} {b c : Buffer J}

def Balanced (b : Buffer J) : Prop :=
  b.stats.packetsReceived = b.stats.packetsDuplicate+b.stats.packetsLate+b.stats.packetsPlayed+
    size b.packets

theorem push_size {sequence : UInt16} {timestamp : UInt32} {samples : List Int16} {now : ℕ}
    {accepted : Bool} (h : push ops sequence timestamp samples now b = some (c,accepted)) :
    size c.packets = size b.packets+accepted.toNat := by
  rcases push_outcome h with ⟨rfl,_,rfl⟩ | ⟨rfl,hnew,_,hstored⟩
  · rfl
  · rw [hstored.packets]
    exact size_insert _ hnew

theorem push_balanced {sequence : UInt16} {timestamp : UInt32} {samples : List Int16} {now : ℕ}
    {accepted : Bool} (hb : Balanced b)
    (h : push ops sequence timestamp samples now b = some (c,accepted)) : Balanced c := by
  have hsize := push_size h
  unfold Balanced at hb ⊢
  rcases push_cases h with ⟨rfl,_,rfl⟩ | ⟨rfl,_,rfl⟩ | ⟨rfl,_,_,hstored⟩
  · simp only [arrive] at hsize ⊢
    omega
  · simp only [arrive] at hsize ⊢
    omega
  · rw [hstored.received, hstored.duplicate, hstored.late, hstored.played, hsize]
    simp only [arrive, Bool.toNat_true]
    omega

theorem pop_balanced (hb : Balanced b) : Balanced (pop ops b).1 := by
  unfold Balanced at hb ⊢
  rcases pop_cases ops b with ⟨_,hpop⟩ | ⟨playoutTs,_,_,⟨packet,hdue,hpop⟩ |
    ⟨nextTs,packet,_,_,hnext,hpop⟩ | ⟨_,_,hpop⟩⟩
  · rw [hpop]
    exact hb
  · have hsize := size_erase hdue
    rw [hpop]
    simp only [playPacket]
    omega
  · have hsize := size_erase hnext
    rw [hpop]
    simp only [playPacket]
    omega
  · rw [hpop]
    exact hb

theorem step_balanced {op : Op} {out : List Event} (hb : Balanced b)
    (h : step ops b op = some (c,out)) : Balanced c := by
  cases op with
  | push sequence timestamp samples now =>
    obtain ⟨accepted,hpush,_⟩ := step_push.mp h
    exact push_balanced hb hpush
  | pop =>
    cases h
    exact pop_balanced hb

/-- Over every run from a fresh buffer, and a push accepts a packet exactly
when the buffer grows. -/
theorem packets_conserved (ops : FloatOps J) (config : JitterBufferConfig) (is : List Op)
    (b : Buffer J) (out : List Event) (hr : run (step ops) (new ops config) is = some (b,out)) :
    b.stats.packetsReceived = b.stats.packetsDuplicate+b.stats.packetsLate+
        b.stats.packetsPlayed+size b.packets ∧
      ∀ sequence timestamp samples now c accepted,
        push ops sequence timestamp samples now b = some (c,accepted) →
        (accepted = true ↔ size c.packets = size b.packets+1) := by
  constructor
  · have hfresh : Balanced (new ops config) := rfl
    exact run_invariant (P := Balanced) (fun _ _ _ _ => step_balanced) hfresh hr
  · intro sequence timestamp samples now c accepted h
    rw [push_size h]
    cases accepted <;> simp

/-- Three packets prime the buffer, one of them twice; the first is played
and pushed again. -/
def sampleOps : List Op :=
  [.push 1 0 [7] 0,.push 2 160 [8] 0,.push 2 160 [8] 0,.push 3 320 [9] 0,.pop,.push 1 0 [7] 0]

theorem packets_conserved_with_rejections :
    ∃ b out, run (step exactOps) (new exactOps g711) sampleOps = some (b,out) ∧
      b.stats.packetsReceived = b.stats.packetsDuplicate+b.stats.packetsLate+
        b.stats.packetsPlayed+size b.packets := by
  have hruns : (run (step exactOps) (new exactOps g711) sampleOps).isSome = true := by
    decide +kernel
  obtain ⟨⟨b,out⟩,hr⟩ := Option.isSome_iff_exists.mp hruns
  exact ⟨b,out,hr,(packets_conserved exactOps g711 sampleOps b out hr).1⟩

end RsipRtp.JitterConservation
