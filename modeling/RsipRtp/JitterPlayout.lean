import RsipRtp.JitterBuffer

/-!
# How the playout point moves

The first packet sets the playout point.
-/

namespace RsipRtp.JitterPlayout
open FiniteMap JitterBuffer

section Invariant

variable {J : Type} {ops : FloatOps J} {b c : Buffer J}

/-- What holds of a buffer at any time: nothing happens before the first
packet, the playout point is set from then on, only a buffer with a packet
size is primed, and a packet waits under its own timestamp. -/
structure Sound (b : Buffer J) : Prop where
  fresh : b.firstPacketTime = none →
    b.nextPlayoutTs = none ∧ b.primed = false ∧ ∀ t, b.packets.lookup t = none
  started : b.firstPacketTime ≠ none → b.nextPlayoutTs ≠ none
  spacing : b.primed = true → b.config.samplesPerPacket ≠ 0
  keyed : ∀ t packet, b.packets.lookup t = some packet → packet.timestamp = t

theorem reset_sound (ops : FloatOps J) (b : Buffer J) : Sound (reset ops b) where
  fresh _ := ⟨rfl,rfl,fun _ => rfl⟩
  started h := absurd rfl h
  spacing h := by cases h
  keyed _ _ h := by cases h

variable {sequence : UInt16} {timestamp : UInt32} {samples : List Int16} {now : ℕ}
  {accepted : Bool}

theorem arrive_playout (h : Sound b) : (arrive ops sequence timestamp now b).nextPlayoutTs =
    some (b.nextPlayoutTs.getD timestamp) := by
  cases hfirst : b.firstPacketTime with
  | none => simp [arrive, hfirst, (h.fresh hfirst).1]
  | some first =>
    obtain ⟨p,hp⟩ := Option.ne_none_iff_exists'.mp (h.started (by simp [hfirst]))
    simp [arrive, hfirst, hp]

theorem arrive_sound (h : Sound b) : Sound (arrive ops sequence timestamp now b) where
  fresh hnone := by cases hnone
  started _ := by rw [arrive_playout h]; exact Option.some_ne_none _
  spacing := h.spacing
  keyed := h.keyed

theorem stored_sound {packet : BufferedPacket} (h : Sound b) (hs : Stored b packet c)
    (hfirst : b.firstPacketTime ≠ none) : Sound c where
  fresh hnone := absurd (hs.started.symm.trans hnone) hfirst
  started _ := by rw [hs.playout]; exact h.started hfirst
  spacing hprimed := by
    rw [hs.config]
    exact (hs.primed hprimed).elim h.spacing id
  keyed t stored hl := by
    rw [hs.packets, lookup_insert_eq] at hl
    split_ifs at hl with ht
    · cases hl
      exact ht.symm
    · exact h.keyed t stored hl

theorem push_playout (h : Sound b)
    (hpush : push ops sequence timestamp samples now b = some (c,accepted)) :
    c.nextPlayoutTs = some (b.nextPlayoutTs.getD timestamp) := by
  have harrived : (arrive ops sequence timestamp now b).nextPlayoutTs = _ := arrive_playout h
  rw [← harrived]
  rcases push_outcome hpush with ⟨_,_,rfl⟩ | ⟨_,_,_,hstored⟩
  · rfl
  · exact hstored.playout

theorem push_sound (h : Sound b)
    (hpush : push ops sequence timestamp samples now b = some (c,accepted)) : Sound c := by
  have harrived : Sound (arrive ops sequence timestamp now b) := arrive_sound h
  rcases push_outcome hpush with ⟨_,_,rfl⟩ | ⟨_,_,_,hstored⟩
  · exact ⟨harrived.fresh,harrived.started,harrived.spacing,harrived.keyed⟩
  · exact stored_sound harrived hstored (Option.some_ne_none _)

theorem pop_sound (h : Sound b) : Sound (pop ops b).1 := by
  have hfirst (p : UInt32) (hp : b.nextPlayoutTs = some p) : b.firstPacketTime ≠ none := by
    intro hnone
    rw [(h.fresh hnone).1] at hp
    cases hp
  have herase (k t : UInt32) (packet : BufferedPacket)
      (hl : (b.packets.erase k).lookup t = some packet) : packet.timestamp = t := by
    rw [lookup_erase_eq] at hl
    split_ifs at hl
    exact h.keyed t packet hl
  rcases pop_cases ops b with ⟨_,hpop⟩ | ⟨playoutTs,_,hplayout,⟨packet,_,hpop⟩ |
    ⟨nextTs,packet,_,_,_,hpop⟩ | ⟨_,_,hpop⟩⟩
  · rw [hpop]
    exact h
  · rw [hpop]
    exact ⟨fun hnone => absurd hnone (hfirst _ hplayout),fun _ => Option.some_ne_none _,
      h.spacing,herase _⟩
  · rw [hpop]
    exact ⟨fun hnone => absurd hnone (hfirst _ hplayout),fun _ => Option.some_ne_none _,
      h.spacing,herase _⟩
  · rw [hpop]
    exact ⟨fun hnone => absurd hnone (hfirst _ hplayout),fun _ => Option.some_ne_none _,
      h.spacing,h.keyed⟩

end Invariant

section Movement

variable {J : Type} {ops : FloatOps J} {b : Buffer J} {playoutTs : UInt32}

def reach (playoutTs : UInt32) (b : Buffer J) : ℕ :=
  match b.packets.lookup playoutTs, skipTo playoutTs b with
  | none, some nextTs => (nextTs-playoutTs).toNat
  | _, _ => b.config.samplesPerPacket.toNat

theorem reach_pos (h : Sound b) (hprimed : b.primed = true) : 0 < reach playoutTs b := by
  have hspp : 0 < b.config.samplesPerPacket.toNat :=
    Nat.pos_of_ne_zero (fun hz => h.spacing hprimed (UInt32.toNat_inj.mp hz))
  unfold reach
  split
  · next nextTs hdue hskip =>
    obtain ⟨packet,hnext⟩ := skipTo_lookup hskip
    refine Nat.pos_of_ne_zero (fun hz => ?_)
    have heq : nextTs = playoutTs := by
      have hn := nextTs.toNat_lt
      have hp := playoutTs.toNat_lt
      rw [UInt32.toNat_sub] at hz
      exact UInt32.toNat_inj.mp (by omega)
    rw [heq, hdue] at hnext
    cases hnext
  · exact hspp

/-- What a pop of a primed buffer does: the playout point moves by its reach,
the packets that stay were waiting and not due, and a packet that is handed
out was due or is the one skipped to. -/
structure Moves (b : Buffer J) (playoutTs next : UInt32) (r : Buffer J × Frame) : Prop where
  playout : r.1.nextPlayoutTs = some next
  distance : (next-playoutTs).toNat = reach playoutTs b
  primed : r.1.primed = true
  stay : ∀ t packet, r.1.packets.lookup t = some packet →
    b.packets.lookup t = some packet ∧ t ≠ playoutTs
  handed : ∀ packet ∈ r.2.packet, ∃ t, b.packets.lookup t = some packet ∧
    r.1.packets.lookup t = none ∧ (t = playoutTs ∨ t = next ∧ b.packets.lookup playoutTs = none)

theorem lookup_erase_some {m : Map UInt32 BufferedPacket} {k t : UInt32} {packet : BufferedPacket}
    (h : (m.erase k).lookup t = some packet) : m.lookup t = some packet ∧ t ≠ k := by
  rw [lookup_erase_eq] at h
  split_ifs at h with ht
  exact ⟨h,ht⟩

theorem pop_moves (ops : FloatOps J) (hprimed : b.primed = true)
    (hplayout : b.nextPlayoutTs = some playoutTs) :
    ∃ next, Moves b playoutTs next (pop ops b) := by
  have hgrid : (playoutTs+b.config.samplesPerPacket-playoutTs).toNat =
      b.config.samplesPerPacket.toNat := by
    rw [UInt32.add_comm, UInt32.add_sub_cancel]
  cases hdue : b.packets.lookup playoutTs with
  | some packet =>
    refine ⟨playoutTs+b.config.samplesPerPacket,?_⟩
    rw [pop_play hprimed hplayout hdue]
    refine ⟨rfl,by rw [hgrid, reach, hdue],hprimed,fun t other hl => lookup_erase_some hl,?_⟩
    rintro _ ⟨⟩
    exact ⟨playoutTs,hdue,AList.lookup_erase playoutTs b.packets,.inl rfl⟩
  | none =>
    have hwaiting (t : UInt32) (other : BufferedPacket) (hl : b.packets.lookup t = some other) :
        b.packets.lookup t = some other ∧ t ≠ playoutTs :=
      ⟨hl,fun ht => by rw [ht, hdue] at hl; cases hl⟩
    cases hskip : skipTo playoutTs b with
    | none =>
      refine ⟨playoutTs+b.config.samplesPerPacket,?_⟩
      rw [pop_conceal hprimed hplayout hdue hskip]
      refine ⟨rfl,by rw [hgrid, reach, hdue, hskip],hprimed,hwaiting,?_⟩
      rintro _ ⟨⟩
    | some nextTs =>
      obtain ⟨packet,hnext⟩ := skipTo_lookup hskip
      refine ⟨nextTs,?_⟩
      rw [pop_accelerate hprimed hplayout hdue hskip hnext]
      refine ⟨rfl,by rw [reach, hdue, hskip],hprimed,
        fun t other hl => hwaiting t other (lookup_erase_some hl).1,?_⟩
      rintro _ ⟨⟩
      exact ⟨nextTs,hnext,AList.lookup_erase nextTs b.packets,.inr ⟨rfl,hdue⟩⟩

end Movement

end RsipRtp.JitterPlayout
