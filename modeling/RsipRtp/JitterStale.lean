import RsipRtp.JitterPlayout

/-!
# Packets behind the playout point

A packet that lies between the playout point and the point that a pop moves it
to is left behind, and nothing takes it out again.
-/

namespace RsipRtp.JitterStale
open FiniteMap OutputMachine JitterBuffer JitterPlayout

variable {out : List Event}

variable {J : Type} {ops : FloatOps J} {b c : Buffer J}

def Permitted (b : Buffer J) : Op → Prop
  | .push .. => True
  | .pop => b.primed = true → ∀ playoutTs ∈ b.nextPlayoutTs, ∀ t ∈ b.packets.keys,
      t ≠ playoutTs → reach playoutTs b ≤ (t-playoutTs).toNat

instance decidablePermitted (b : Buffer J) : (op : Op) → Decidable (Permitted b op)
  | .push .. => inferInstanceAs (Decidable True)
  | .pop =>
    -- over the packets that wait, not over all words
    have (playoutTs : UInt32) : Decidable (∀ t ∈ b.packets.keys, t ≠ playoutTs →
        reach playoutTs b ≤ (t-playoutTs).toNat) := List.decidableBAll _ _
    have : Decidable (∀ playoutTs ∈ b.nextPlayoutTs, ∀ t ∈ b.packets.keys, t ≠ playoutTs →
        reach playoutTs b ≤ (t-playoutTs).toNat) := Option.decidableForallMem _
    inferInstanceAs (Decidable (b.primed = true → _))

structure Ahead (b : Buffer J) : Prop where
  sound : Sound b
  ahead : ∀ playoutTs t packet, b.nextPlayoutTs = some playoutTs →
    b.packets.lookup t = some packet → (t-playoutTs).toNat < 2^31

theorem push_ahead {sequence : UInt16} {timestamp : UInt32} {samples : List Int16} {now : ℕ}
    {accepted : Bool} (h : Ahead b)
    (hpush : push ops sequence timestamp samples now b = some (c,accepted)) : Ahead c := by
  have harrived : (arrive ops sequence timestamp now b).nextPlayoutTs = _ :=
    arrive_playout h.sound
  have hplayout := push_playout h.sound hpush
  -- the playout point of a buffer with packets does not move
  have hold (t : UInt32) (packet : BufferedPacket) (hl : b.packets.lookup t = some packet) :
      (t-b.nextPlayoutTs.getD timestamp).toNat < 2^31 := by
    cases hp : b.nextPlayoutTs with
    | some p => exact h.ahead p t packet hp hl
    | none =>
      have hfirst : b.firstPacketTime = none := by
        by_contra hfirst
        exact h.sound.started hfirst hp
      rw [(h.sound.fresh hfirst).2.2 t] at hl
      cases hl
  refine ⟨push_sound h.sound hpush,fun p t packet hp hl => ?_⟩
  rw [hplayout] at hp
  cases hp
  rcases push_outcome hpush with ⟨_,_,rfl⟩ | ⟨_,_,hlate,hstored⟩
  · exact hold t packet hl
  · rw [hstored.packets, lookup_insert_eq] at hl
    split_ifs at hl with ht
    · rw [late, harrived, Option.any_some, Bool.eq_false_iff, ne_eq, timestampBefore_iff] at hlate
      rw [ht]
      exact not_le.mp hlate
    · exact hold t packet hl

theorem distance_sub {t p q : UInt32} (h : (q-p).toNat ≤ (t-p).toNat) :
    (t-q).toNat = (t-p).toNat-(q-p).toNat := by
  have ht := t.toNat_lt
  have hp := p.toNat_lt
  have hq := q.toNat_lt
  simp only [UInt32.toNat_sub] at h ⊢
  omega

theorem pop_ahead (ops : FloatOps J) (h : Ahead b) (hg : Permitted b .pop) :
    Ahead (pop ops b).1 := by
  refine ⟨pop_sound h.sound,?_⟩
  rcases pop_cases ops b with ⟨_,hpop⟩ | ⟨playoutTs,hprimed,hplayout,_⟩
  · rw [hpop]
    exact h.ahead
  · obtain ⟨next,hmoves⟩ := pop_moves ops hprimed hplayout
    intro p t packet hp hl
    cases hmoves.playout.symm.trans hp
    obtain ⟨hwaiting,hne⟩ := hmoves.stay t packet hl
    have hreach := hg hprimed playoutTs hplayout t (AList.mem_keys.mp
      (AList.lookup_isSome.mp (by rw [hwaiting]; rfl))) hne
    rw [← hmoves.distance] at hreach
    have hbound := h.ahead playoutTs t packet hplayout hwaiting
    rw [distance_sub hreach]
    omega

theorem step_ahead {op : Op} (h : Ahead b) (hg : Permitted b op)
    (hstep : step ops b op = some (c,out)) : Ahead c := by
  cases op with
  | push sequence timestamp samples now =>
    obtain ⟨accepted,hpush,_⟩ := step_push.mp hstep
    exact push_ahead h hpush
  | pop =>
    cases hstep
    exact pop_ahead ops h hg

theorem push_primed {sequence : UInt16} {timestamp : UInt32} {samples : List Int16} {now : ℕ}
    {accepted : Bool} (h : b.primed = true)
    (hpush : push ops sequence timestamp samples now b = some (c,accepted)) : c.primed = true := by
  rcases push_outcome hpush with ⟨_,_,rfl⟩ | ⟨_,_,_,hstored⟩
  · exact h
  · exact hstored.stays h

/-- One call leaves the playout point of a primed buffer where it is, or is a
pop that brings every packet that stays nearer to it. -/
theorem step_nearer {op : Op} {playoutTs : UInt32} (h : Ahead b)
    (hg : Permitted b op) (hprimed : b.primed = true)
    (hplayout : b.nextPlayoutTs = some playoutTs) (hstep : step ops b op = some (c,out)) :
    c.primed = true ∧ ∃ next, c.nextPlayoutTs = some next ∧ ∀ t packet,
      c.packets.lookup t = some packet → (op = .pop ∧ (t-next).toNat < (t-playoutTs).toNat) ∨
        (op ≠ .pop ∧ next = playoutTs) := by
  cases op with
  | push sequence timestamp samples now =>
    obtain ⟨accepted,hpush,_⟩ := step_push.mp hstep
    have hkept := push_playout h.sound hpush
    rw [hplayout] at hkept
    exact ⟨push_primed hprimed hpush,playoutTs,hkept,fun _ _ _ => .inr ⟨by simp,rfl⟩⟩
  | pop =>
    cases hstep
    obtain ⟨next,hmoves⟩ := pop_moves ops hprimed hplayout
    refine ⟨hmoves.primed,next,hmoves.playout,fun t packet hl => .inl ⟨rfl,?_⟩⟩
    obtain ⟨hwaiting,hne⟩ := hmoves.stay t packet hl
    have hreach := hg hprimed playoutTs hplayout t (AList.mem_keys.mp
      (AList.lookup_isSome.mp (by rw [hwaiting]; rfl))) hne
    have hpos : 0 < reach playoutTs b := reach_pos h.sound hprimed
    rw [← hmoves.distance] at hreach hpos
    rw [distance_sub hreach]
    omega

/-- More pops than the distance of a packet see it leave the buffer. -/
theorem run_departs {t playoutTs : UInt32} {js : List Op} (h : Ahead b)
    (hprimed : b.primed = true) (hplayout : b.nextPlayoutTs = some playoutTs)
    (hg : Guarded (step ops) Permitted b js) (hr : run (step ops) b js = some (c,out))
    (hcount : (t-playoutTs).toNat < js.count .pop) :
    ∃ ks ls d o, js = ks++ls ∧ run (step ops) b ks = some (d,o) ∧ d.packets.lookup t = none := by
  induction js generalizing b playoutTs out with
  | nil => exact absurd hcount (Nat.not_lt_zero _)
  | cons op js ih =>
    obtain ⟨u,a,o,hstep,hrest,_⟩ := run_cons.mp hr
    have hrun : run (step ops) b [op] = some (u,a) := by
      rw [run_cons]
      exact ⟨u,a,[],hstep,rfl,by simp⟩
    cases hl : u.packets.lookup t with
    | none => exact ⟨[op],js,u,a,rfl,hrun,hl⟩
    | some packet =>
      obtain ⟨hprimed',next,hnext,hnearer⟩ := step_nearer h hg.1 hprimed hplayout hstep
      have hcount' : (t-next).toNat < js.count .pop := by
        rcases hnearer t packet hl with ⟨rfl,hless⟩ | ⟨hpush,rfl⟩
        · rw [List.count_cons_self] at hcount
          omega
        · rwa [List.count_cons_of_ne hpush] at hcount
      obtain ⟨ks,ls,d,o',rfl,hks,hd⟩ := ih (step_ahead h hg.1 hstep) hprimed' hnext
        (hg.2 u a hstep) hrest hcount'
      exact ⟨op::ks,ls,d,a++o',rfl,run_cons.mpr ⟨u,a,o',hstep,hks,rfl⟩,hd⟩

theorem reset_ahead (ops : FloatOps J) (b : Buffer J) : Ahead (reset ops b) :=
  ⟨reset_sound ops b,fun _ _ _ _ h => by cases h⟩

/-- While no pop leaves a packet behind, every waiting packet is at or after
the playout point, and it leaves the buffer after finitely many pops. -/
theorem no_stale_packet (ops : FloatOps J) (b₀ : Buffer J) (is : List Op) (b : Buffer J)
    (out : List Event) (hg : Guarded (step ops) Permitted (reset ops b₀) is)
    (hr : run (step ops) (reset ops b₀) is = some (b,out)) :
    ∀ playoutTs t packet, b.nextPlayoutTs = some playoutTs → b.packets.lookup t = some packet →
      timestampBefore t playoutTs = false ∧
      ∀ js c out', b.primed = true → Guarded (step ops) Permitted b js →
        run (step ops) b js = some (c,out') → (t-playoutTs).toNat < js.count .pop →
        ∃ ks ls d o, js = ks++ls ∧ run (step ops) b ks = some (d,o) ∧
          d.packets.lookup t = none := by
  have hahead : Ahead b :=
    run_guarded_invariant (fun _ _ _ _ => step_ahead) (reset_ahead ops b₀) hg hr
  intro playoutTs t packet hplayout hl
  constructor
  · rw [Bool.eq_false_iff, ne_eq, timestampBefore_iff, not_le]
    exact hahead.ahead playoutTs t packet hplayout hl
  · intro js c out' hprimed hgs hrs hcount
    exact run_departs hahead hprimed hplayout hgs hrs hcount

def gridOps : List Op :=
  [.push 0 4294967136 [] 0,.push 1 0 [] 20000000,.push 2 160 [] 40000000,.pop]

theorem no_stale_packet_on_grid :
    ∃ b out, run (step exactOps) (reset exactOps (new exactOps g711)) gridOps = some (b,out) ∧
      b.nextPlayoutTs = some 0 ∧ (b.packets.lookup 160).isSome = true ∧
      timestampBefore 160 0 = false := by
  have hruns : (run (step exactOps) (reset exactOps (new exactOps g711)) gridOps).map
      (fun r => (r.1.nextPlayoutTs,(r.1.packets.lookup 160).isSome)) = some (some 0,true) := by
    decide +kernel
  obtain ⟨⟨b,out⟩,hr,hb⟩ := Option.map_eq_some_iff.mp hruns
  obtain ⟨hplayout,hwaiting⟩ := Prod.mk.inj hb
  obtain ⟨packet,hl⟩ := Option.isSome_iff_exists.mp hwaiting
  have hg : Guarded (step exactOps) Permitted (reset exactOps (new exactOps g711)) gridOps := by
    decide +kernel
  exact ⟨b,out,hr,hplayout,hwaiting,
    (no_stale_packet exactOps _ gridOps b out hg hr 0 160 packet hplayout hl).1⟩

/-- A packet half a slot after the first is passed by the first pop. -/
theorem off_grid_packet_left_behind :
    (run (step exactOps) (new exactOps g711) [.push 0 0 [] 0,.push 1 80 [] 10000000,.pop]).map
        (fun r => (r.1.nextPlayoutTs,(r.1.packets.lookup 80).isSome)) = some (some 160,true) ∧
      timestampBefore 80 160 = true := by
  decide +kernel

end RsipRtp.JitterStale
