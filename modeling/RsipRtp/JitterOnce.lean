import RsipRtp.JitterPlayout

/-!
# No timestamp is handed out twice

The playout point is a counter of 32 bits. Beside it runs its full value, and
every packet that is handed out is recorded with its own.
-/

namespace RsipRtp.JitterOnce
open FiniteMap OutputMachine JitterBuffer JitterPlayout

variable {J : Type}

/-- A buffer with the full value of its playout point and the timestamps it
has handed out, the last one first, with their full values. -/
structure Tracked (J : Type) where
  buffer : Buffer J
  clock : ℕ
  handed : List (UInt32 × ℕ)

def start (ops : FloatOps J) (b : Buffer J) : Tracked J := ⟨reset ops b,0,[]⟩

def clockAfter (s : Tracked J) (b : Buffer J) : ℕ :=
  match s.buffer.nextPlayoutTs, b.nextPlayoutTs with
  | some playoutTs, some next => s.clock+(next-playoutTs).toNat
  | none, some first => first.toNat
  | _, none => s.clock

def placeOf (s : Tracked J) (packet : BufferedPacket) : ℕ :=
  s.clock+(packet.timestamp-s.buffer.nextPlayoutTs.getD 0).toNat

def handedOut : Event → Option BufferedPacket
  | .popped frame => frame.packet
  | .pushed .. => none

def track (ops : FloatOps J) : Step (Tracked J) Op Event := fun s op =>
  (step ops s.buffer op).map (fun r => (⟨r.1,clockAfter s r.1,
    ((r.2.filterMap handedOut).map (fun p => (p.timestamp,placeOf s p))).reverse++s.handed⟩,r.2))

/-- The packet at the playout point, if it was handed out, is not pushed
again. -/
def Permitted (s : Tracked J) : Op → Prop
  | .push _ timestamp _ _ => (timestamp,s.clock) ∉ s.handed
  | .pop => True

instance decidablePermitted (s : Tracked J) : (op : Op) → Decidable (Permitted s op)
  | .push .. => inferInstanceAs (Decidable (_ ∉ _))
  | .pop => inferInstanceAs (Decidable True)

section Tracking
variable {samples : List Int16} {sequence : UInt16} {accepted : Bool}

variable {ops : FloatOps J} {s s' : Tracked J} {is : List Op} {out : List Event}

/-- The full values only watch the buffer. -/
theorem run_track (h : run (track ops) s is = some (s',out)) :
    run (step ops) s.buffer is = some (s'.buffer,out) ∧
      s'.handed.map Prod.fst =
        ((out.filterMap handedOut).map BufferedPacket.timestamp).reverse++s.handed.map
          Prod.fst := by
  induction is generalizing s out with
  | nil =>
    cases h
    exact ⟨rfl,rfl⟩
  | cons i is ih =>
    obtain ⟨u,a,o,hstep,hrest,rfl⟩ := run_cons.mp h
    obtain ⟨⟨c,events⟩,hc,heq⟩ := Option.map_eq_some_iff.mp hstep
    cases heq
    obtain ⟨hrun,hhanded⟩ := ih hrest
    refine ⟨run_cons.mpr ⟨c,events,o,hc,hrun,rfl⟩,?_⟩
    rw [hhanded]
    simp [List.filterMap_append]

structure Tracks (s : Tracked J) : Prop where
  sound : Sound s.buffer
  fresh : s.buffer.nextPlayoutTs = none → s.handed = []
  point : ∀ playoutTs, s.buffer.nextPlayoutTs = some playoutTs →
    playoutTs.toNat = s.clock % 2^32
  places : ∀ x ∈ s.handed, x.1.toNat = x.2 % 2^32 ∧ x.2 ≤ s.clock
  sorted : s.handed.Pairwise (fun x y => y.2 < x.2)
  gone : ∀ x ∈ s.handed, x.2 = s.clock → s.buffer.packets.lookup x.1 = none

theorem start_tracks (ops : FloatOps J) (b : Buffer J) : Tracks (start ops b) where
  sound := reset_sound ops b
  fresh _ := rfl
  point _ h := by cases h
  places _ h := by cases h
  sorted := .nil
  gone _ h := by cases h

theorem clockAfter_same {b : Buffer J} (h : b.nextPlayoutTs = s.buffer.nextPlayoutTs) :
    clockAfter s b = s.clock := by
  unfold clockAfter
  rw [h]
  cases s.buffer.nextPlayoutTs with
  | none => rfl
  | some p => simp

theorem push_lookup {b c : Buffer J} {timestamp t : UInt32}
    {now : ℕ} (ht : t ≠ timestamp)
    (hpush : push ops sequence timestamp samples now b = some (c,accepted)) :
    c.packets.lookup t = b.packets.lookup t := by
  rcases push_outcome hpush with ⟨_,_,rfl⟩ | ⟨_,_,_,hstored⟩
  · rfl
  · rw [hstored.packets, lookup_insert_eq, if_neg ht]
    rfl

theorem push_tracks {timestamp : UInt32} {now : ℕ}
    {c : Buffer J} (h : Tracks s) (hnew : (timestamp,s.clock) ∉ s.handed)
    (hpush : push ops sequence timestamp samples now s.buffer = some (c,accepted)) :
    Tracks ⟨c,clockAfter s c,s.handed⟩ := by
  have hsound := push_sound h.sound hpush
  have hplayout := push_playout h.sound hpush
  cases hp : s.buffer.nextPlayoutTs with
  | none =>
    rw [hp, Option.getD_none] at hplayout
    have hclock : clockAfter s c = timestamp.toNat := by rw [clockAfter, hp, hplayout]
    have hempty := h.fresh hp
    refine ⟨hsound,fun _ => hempty,fun q hq => ?_,?_,?_,?_⟩
    · cases hplayout.symm.trans hq
      rw [hclock, Nat.mod_eq_of_lt timestamp.toNat_lt]
    · simp [hempty]
    · simp [hempty]
    · simp [hempty]
  | some p =>
    rw [hp, Option.getD_some] at hplayout
    rw [clockAfter_same (hplayout.trans hp.symm)]
    refine ⟨hsound,fun hnone => ?_,fun q hq => ?_,h.places,h.sorted,fun x hx hclock => ?_⟩
    · cases hplayout.symm.trans hnone
    · cases hplayout.symm.trans hq
      exact h.point p hp
    · have hx' : x.1 ≠ timestamp := by
        rintro rfl
        exact hnew (by rw [← hclock]; exact hx)
      rw [push_lookup hx' hpush]
      exact h.gone x hx hclock

theorem due_later {p : UInt32} {packet : BufferedPacket} (h : Tracks s)
    (hplayout : s.buffer.nextPlayoutTs = some p)
    (hdue : s.buffer.packets.lookup p = some packet) : ∀ x ∈ s.handed, x.2 < s.clock := by
  intro x hx
  refine lt_of_le_of_ne (h.places x hx).2 (fun hclock => ?_)
  have hgone := h.gone x hx hclock
  have hp : x.1 = p := by
    apply UInt32.toNat_inj.mp
    rw [(h.places x hx).1, hclock, h.point p hplayout]
  rw [hp, hdue] at hgone
  cases hgone

theorem Tracks.cons {b : Buffer J} {k place : ℕ} {hs : List (UInt32 × ℕ)} {t : UInt32}
    (h : Tracks ⟨b,k,hs⟩) (hb : b.nextPlayoutTs ≠ none)
    (hplace : t.toNat = place % 2^32 ∧ place ≤ k) (hlater : ∀ y ∈ hs, y.2 < place)
    (hgone : b.packets.lookup t = none) : Tracks ⟨b,k,(t,place)::hs⟩ where
  sound := h.sound
  fresh hnone := absurd hnone hb
  point := h.point
  places := List.forall_mem_cons.mpr ⟨hplace,h.places⟩
  sorted := List.pairwise_cons.mpr ⟨hlater,h.sorted⟩
  gone := List.forall_mem_cons.mpr ⟨fun _ => hgone,h.gone⟩

section Popped

variable {p next : UInt32} {r : Buffer J × Frame}

theorem next_toNat (h : Tracks s) (hplayout : s.buffer.nextPlayoutTs = some p)
    (hmoves : Moves s.buffer p next r) :
    next.toNat = (s.clock+reach p s.buffer) % 2^32 := by
  have hpoint := h.point p hplayout
  have hdistance := hmoves.distance
  have hlt := next.toNat_lt
  rw [UInt32.toNat_sub] at hdistance
  omega

theorem moved_tracks (h : Tracks s) (hplayout : s.buffer.nextPlayoutTs = some p)
    (hmoves : Moves s.buffer p next r) (hpos : 0 < reach p s.buffer) (hsound : Sound r.1) :
    Tracks ⟨r.1,s.clock+reach p s.buffer,s.handed⟩ where
  sound := hsound
  fresh hnone := by cases hmoves.playout.symm.trans hnone
  point q hq := by
    cases hmoves.playout.symm.trans hq
    exact next_toNat h hplayout hmoves
  places x hx := ⟨(h.places x hx).1,Nat.le_add_right_of_le (h.places x hx).2⟩
  sorted := h.sorted
  gone x hx hclock :=
    absurd hclock ((h.places x hx).2.trans_lt (Nat.lt_add_of_pos_right hpos)).ne

theorem placeOf_handed (h : Tracks s) (hplayout : s.buffer.nextPlayoutTs = some p)
    (hmoves : Moves s.buffer p next r) {packet : BufferedPacket} (hpacket : packet ∈ r.2.packet) :
    r.1.packets.lookup packet.timestamp = none ∧
      (packet.timestamp = p ∧ placeOf s packet = s.clock ∧ s.buffer.packets.lookup p = some packet ∨
        packet.timestamp = next ∧ placeOf s packet = s.clock+reach p s.buffer) := by
  obtain ⟨t,hwaiting,hgone,ht⟩ := hmoves.handed packet hpacket
  obtain rfl := h.sound.keyed t packet hwaiting
  have hplace : placeOf s packet = s.clock+(packet.timestamp-p).toNat := by
    rw [placeOf, hplayout]
    rfl
  refine ⟨hgone,?_⟩
  rcases ht with hdue | ⟨hskipped,_⟩
  · rw [hdue] at hplace hwaiting
    exact .inl ⟨hdue,by rw [hplace, UInt32.sub_self]; rfl,hwaiting⟩
  · exact .inr ⟨hskipped,by rw [hplace, hskipped, hmoves.distance]⟩

end Popped

theorem pop_tracks (ops : FloatOps J) (h : Tracks s) :
    Tracks ⟨(pop ops s.buffer).1,clockAfter s (pop ops s.buffer).1,
      ((pop ops s.buffer).2.packet.toList.map (fun p => (p.timestamp,placeOf s p))).reverse ++
        s.handed⟩ := by
  rcases pop_cases ops s.buffer with ⟨_,hpop⟩ | ⟨p,hprimed,hplayout,_⟩
  · rw [hpop, clockAfter_same rfl]
    exact h
  · obtain ⟨next,hmoves⟩ := pop_moves ops hprimed hplayout
    have hpos : 0 < reach p s.buffer := reach_pos h.sound hprimed
    have hmoved := moved_tracks h hplayout hmoves hpos (pop_sound h.sound)
    have hstarted : (pop ops s.buffer).1.nextPlayoutTs ≠ none := by
      rw [hmoves.playout]
      exact Option.some_ne_none _
    rw [clockAfter, hplayout, hmoves.playout]
    dsimp only
    rw [hmoves.distance]
    cases hpacket : (pop ops s.buffer).2.packet with
    | none => exact hmoved
    | some packet =>
      obtain ⟨hgone,hcase⟩ := placeOf_handed h hplayout hmoves hpacket
      refine hmoved.cons hstarted ?_ ?_ hgone
      · rcases hcase with ⟨hdue,hat,_⟩ | ⟨hskipped,hat⟩
        · rw [hdue, hat]
          exact ⟨h.point p hplayout,Nat.le_add_right _ _⟩
        · rw [hskipped, hat]
          exact ⟨next_toNat h hplayout hmoves,le_rfl⟩
      · intro x hx
        rcases hcase with ⟨_,hat,hdue⟩ | ⟨_,hat⟩
        · exact (due_later h hplayout hdue x hx).trans_eq hat.symm
        · rw [hat]
          exact (h.places x hx).2.trans_lt (Nat.lt_add_of_pos_right hpos)

theorem step_tracks {op : Op} (h : Tracks s) (hg : Permitted s op)
    (hstep : track ops s op = some (s',out)) : Tracks s' := by
  obtain ⟨⟨c,events⟩,hc,heq⟩ := Option.map_eq_some_iff.mp hstep
  cases heq
  cases op with
  | push sequence timestamp samples now =>
    obtain ⟨accepted,hpush,rfl⟩ := step_push.mp hc
    exact push_tracks h hg hpush
  | pop =>
    cases hc
    have hpacket : [Event.popped (pop ops s.buffer).2].filterMap handedOut =
        (pop ops s.buffer).2.packet.toList := by
      cases hp : (pop ops s.buffer).2.packet <;> simp [handedOut, hp]
    rw [hpacket]
    exact pop_tracks ops h

theorem Tracks.apart (h : Tracks s) :
    s.handed.Pairwise (fun x y => y.2 < x.2 ∧ (x.1 = y.1 → y.2+2^32 ≤ x.2)) := by
  refine h.sorted.imp_of_mem (fun {x y} hx hy hlt => ⟨hlt,fun heq => ?_⟩)
  have hx' := (h.places x hx).1
  have hy' := (h.places y hy).1
  rw [heq] at hx'
  omega

theorem passed_rejected {timestamp : UInt32}
    {now place : ℕ} {c : Buffer J} (h : Tracks s)
    (hhanded : (timestamp,place) ∈ s.handed) (hpassed : place < s.clock)
    (hnear : s.clock ≤ place+2^31)
    (hpush : push ops sequence timestamp samples now s.buffer = some (c,accepted)) :
    accepted = false ∧ c.packets = s.buffer.packets := by
  have harrived : (arrive ops sequence timestamp now s.buffer).nextPlayoutTs = _ :=
    arrive_playout h.sound
  rcases push_outcome hpush with ⟨hrejected,_,rfl⟩ | ⟨_,_,hlate,_⟩
  · exact ⟨hrejected,rfl⟩
  · exfalso
    cases hp : s.buffer.nextPlayoutTs with
    | none =>
      rw [h.fresh hp] at hhanded
      cases hhanded
    | some p =>
      have hpoint := h.point p hp
      have hplace := (h.places _ hhanded).1
      have hlt := timestamp.toNat_lt
      rw [late, harrived, hp, Option.getD_some, Option.any_some, Bool.eq_false_iff, ne_eq,
        timestampBefore_iff, UInt32.toNat_sub] at hlate
      dsimp only at hplace
      omega

end Tracking

/-- While the packet at the playout point is not pushed again once it was
handed out, no timestamp is handed out twice within a cycle, and one that was
handed out is rejected when it comes back within half a cycle. -/
theorem handed_out_once {J : Type} (ops : FloatOps J) (b₀ : Buffer J) (is : List Op)
    (s : Tracked J) (out : List Event)
    (hg : Guarded (track ops) Permitted (start ops b₀) is)
    (hr : run (track ops) (start ops b₀) is = some (s,out)) :
    run (step ops) (reset ops b₀) is = some (s.buffer,out) ∧
    s.handed.map Prod.fst = ((out.filterMap handedOut).map BufferedPacket.timestamp).reverse ∧
    s.handed.Pairwise (fun x y => y.2 < x.2 ∧ (x.1 = y.1 → y.2+2^32 ≤ x.2)) ∧
    ∀ sequence timestamp samples now place c accepted,
      (timestamp,place) ∈ s.handed → s.clock ≤ place+2^31 →
      Permitted s (.push sequence timestamp samples now) →
      push ops sequence timestamp samples now s.buffer = some (c,accepted) →
      accepted = false ∧ c.packets = s.buffer.packets := by
  have htracks : Tracks s :=
    run_guarded_invariant (fun _ _ _ _ => step_tracks) (start_tracks ops b₀) hg hr
  obtain ⟨hrun,hhanded⟩ := run_track hr
  refine ⟨hrun,by rw [hhanded]; exact List.append_nil _,htracks.apart,?_⟩
  intro sequence timestamp samples now place c accepted hmem hnear hnew hpush
  have hpassed : place < s.clock :=
    lt_of_le_of_ne (htracks.places _ hmem).2 (fun heq => hnew (heq ▸ hmem))
  exact passed_rejected htracks hmem hpassed hnear hpush

def returningOps : List Op :=
  [.push 0 4294967136 [] 0,.push 1 0 [] 20000000,.push 2 160 [] 40000000,.pop,.pop]

theorem handed_out_once_over_wrap :
    ∃ s out c, run (track exactOps) (start exactOps (new exactOps g711)) returningOps =
        some (s,out) ∧ s.handed = [(0,4294967296),(4294967136,4294967136)] ∧
      push exactOps 0 4294967136 [] 60000000 s.buffer = some (c,false) ∧
      c.packets = s.buffer.packets := by
  have hruns : (run (track exactOps) (start exactOps (new exactOps g711)) returningOps).map
      (fun r => (r.1.handed,r.1.clock,
        (push exactOps 0 4294967136 [] 60000000 r.1.buffer).isSome)) =
      some ([(0,4294967296),(4294967136,4294967136)],4294967456,true) := by
    decide +kernel
  obtain ⟨⟨s,out⟩,hr,hs⟩ := Option.map_eq_some_iff.mp hruns
  obtain ⟨hhanded,hs⟩ := Prod.mk.inj hs
  obtain ⟨hclock,hpush⟩ := Prod.mk.inj hs
  obtain ⟨⟨c,accepted⟩,hpush⟩ := Option.isSome_iff_exists.mp hpush
  have hg : Guarded (track exactOps) Permitted (start exactOps (new exactOps g711))
      returningOps := by
    decide +kernel
  have hnew : Permitted s (.push 0 4294967136 [] 60000000) := by
    dsimp only at hhanded hclock
    rw [Permitted, hhanded, hclock]
    decide
  obtain ⟨rfl,hkept⟩ := (handed_out_once exactOps _ returningOps s out hg hr).2.2.2
    0 4294967136 [] 60000000 4294967136 c accepted
    (by dsimp only at hhanded; rw [hhanded]; decide)
    (by dsimp only at hclock; rw [hclock]; decide) hnew hpush
  exact ⟨s,out,c,hr,hhanded,hpush,hkept⟩

/-- The packet that a pop skips to is accepted and handed out again. -/
theorem skipped_to_handed_out_twice :
    (run (step exactOps) (new exactOps g711) [.push 0 0 [] 0,.push 1 5000 [] 625000000,.pop,.pop,
        .push 1 5000 [] 630000000,.pop]).map
      (fun r => (r.2.filterMap handedOut).map BufferedPacket.timestamp) =
        some [0,5000,5000] := by
  decide +kernel

end RsipRtp.JitterOnce
