import RsipRtp.JitterBuffer

/-!
# A complete stream is played in order

The packets of a stream fill the slots of the playout grid in whatever order
they arrive, as long as the first one comes first.
-/

namespace RsipRtp.JitterOrder
open FiniteMap OutputMachine JitterBuffer

variable {J : Type} {ops : FloatOps J}

structure Arrival where
  sequence : UInt16
  samples : List Int16
  now : ℕ

/-- A stream of `n` packets on a grid that is shorter than half a cycle. -/
structure Stream (n : ℕ) where
  config : JitterBufferConfig
  start : UInt32
  arrival : ℕ → Arrival
  spacing : config.samplesPerPacket ≠ 0
  span : n*config.samplesPerPacket.toNat < 2^31

variable {n : ℕ} (x : Stream n)

def slot (i : ℕ) : UInt32 := x.start+UInt32.ofNat i*x.config.samplesPerPacket

def packet (i : ℕ) : BufferedPacket :=
  ⟨(x.arrival i).sequence,slot x i,(x.arrival i).samples,(x.arrival i).now⟩

def pushOp (i : ℕ) : Op :=
  .push (x.arrival i).sequence (slot x i) (x.arrival i).samples (x.arrival i).now

def played (i : ℕ) : Event := .popped ⟨.play,(x.arrival i).samples,some (packet x i)⟩

section Grid

variable {x}

theorem slot_zero : slot x 0 = x.start := by
  simp [slot]

theorem slot_succ (i : ℕ) : slot x (i+1) = slot x i+x.config.samplesPerPacket := by
  rw [slot, UInt32.ofNat_add, UInt32.add_mul, ← UInt32.add_assoc]
  exact congrArg (slot x i + ·) (UInt32.one_mul _)

theorem spacing_pos : 0 < x.config.samplesPerPacket.toNat :=
  Nat.pos_of_ne_zero (fun h => x.spacing (UInt32.toNat_inj.mp h))

theorem slot_distance {i : ℕ} (hi : i < n) :
    (slot x i-x.start).toNat = i*x.config.samplesPerPacket.toNat := by
  have hpos := spacing_pos (x := x)
  have hspan : i*x.config.samplesPerPacket.toNat < 2^31 :=
    lt_of_le_of_lt (Nat.mul_le_mul_right _ hi.le) x.span
  have hindex : i ≤ i*x.config.samplesPerPacket.toNat := Nat.le_mul_of_pos_right i hpos
  rw [slot, UInt32.add_comm, UInt32.add_sub_cancel, UInt32.toNat_mul, UInt32.toNat_ofNat',
    Nat.mod_eq_of_lt (a := i) (by omega), Nat.mod_eq_of_lt (by omega)]

theorem slot_injective {i j : ℕ} (hi : i < n) (hj : j < n) (h : slot x i = slot x j) : i = j := by
  have hdistance := slot_distance (x := x) hi
  rw [h, slot_distance hj] at hdistance
  exact (Nat.eq_of_mul_eq_mul_right spacing_pos hdistance).symm

theorem slot_not_late {i : ℕ} (hi : i < n) : timestampBefore (slot x i) x.start = false := by
  rw [Bool.eq_false_iff, ne_eq, timestampBefore_iff, slot_distance hi]
  have hspan : i*x.config.samplesPerPacket.toNat < 2^31 :=
    lt_of_le_of_lt (Nat.mul_le_mul_right _ hi.le) x.span
  omega

end Grid

section Filling

structure Filled (b : Buffer J) (done : List ℕ) : Prop where
  config : b.config = x.config
  playout : b.nextPlayoutTs = some x.start
  started : b.firstPacketTime.isSome = true
  slots : ∀ i < n, b.packets.lookup (slot x i) = if i ∈ done then some (packet x i) else none

variable {x} {b c : Buffer J} {done : List ℕ} {i : ℕ}

theorem Filled.store (h : Filled x b done) (hi : i < n) (hstored : Stored b (packet x i) c) :
    Filled x c (i::done) := by
  refine ⟨hstored.config.trans h.config,hstored.playout.trans h.playout,?_,fun j hj => ?_⟩
  · rw [hstored.started]
    exact h.started
  · rw [hstored.packets, lookup_insert_eq, h.slots j hj]
    by_cases hji : j = i
    · rw [hji, if_pos (show slot x i = (packet x i).timestamp from rfl), if_pos List.mem_cons_self]
    · rw [if_neg (show ¬slot x j = (packet x i).timestamp from
        fun h => hji (slot_injective hj hi h))]
      simp [hji]

theorem Filled.push (ops : FloatOps J) (hclock : x.config.clockRate ≠ 0) (hi : i < n)
    (hnew : i ∉ done)
    (h : Filled x (arrive ops (x.arrival i).sequence (slot x i) (x.arrival i).now b) done) :
    ∃ c, step ops b (pushOp x i) = some (c,[.pushed (slot x i) true]) ∧ Filled x c (i::done) := by
  have hslot : b.packets.lookup (slot x i) = none := (h.slots i hi).trans (if_neg hnew)
  have hconfig : b.config = x.config := h.config
  have hlate : late (slot x i)
      (arrive ops (x.arrival i).sequence (slot x i) (x.arrival i).now b) = false := by
    rw [late, h.playout]
    exact slot_not_late hi
  obtain ⟨c,hpush,hstored⟩ := push_accepts ops (x.arrival i).sequence (x.arrival i).samples
    (x.arrival i).now (by rw [hconfig]; exact hclock) (by rw [hconfig]; exact x.spacing) hslot hlate
  exact ⟨c,step_push.mpr ⟨true,hpush,rfl⟩,h.store hi hstored⟩

theorem arrive_fresh : Filled x (arrive ops (x.arrival 0).sequence (slot x 0) (x.arrival 0).now
    (new ops x.config)) [] where
  config := rfl
  playout := congrArg some slot_zero
  started := rfl
  slots _ _ := rfl

theorem Filled.arrive (h : Filled x b done) (sequence : UInt16) (timestamp : UInt32) (now : ℕ) :
    Filled x (JitterBuffer.arrive ops sequence timestamp now b) done where
  config := h.config
  playout := by
    have hstarted : b.firstPacketTime.isNone = false := by simp [h.started]
    rw [JitterBuffer.arrive, hstarted]
    exact h.playout
  started := rfl
  slots := h.slots

theorem run_pushes (ops : FloatOps J) (hclock : x.config.clockRate ≠ 0) (h : Filled x b done)
    {order : List ℕ} (hnodup : order.Nodup) (hbound : ∀ i ∈ order, i < n)
    (hnew : ∀ i ∈ order, i ∉ done) :
    ∃ c, run (step ops) b (order.map (pushOp x)) =
        some (c,order.map (fun i => .pushed (slot x i) true)) ∧
      Filled x c (order.reverse++done) := by
  induction order generalizing b done with
  | nil => exact ⟨b,rfl,h⟩
  | cons i order ih =>
    obtain ⟨hi,hnodup⟩ := List.nodup_cons.mp hnodup
    obtain ⟨d,hstep,hd⟩ := Filled.push ops hclock (hbound i (by simp)) (hnew i (by simp))
      (h.arrive _ _ _)
    have hrest : ∀ j ∈ order, j ∉ i::done := by
      intro j hj hmem
      rcases List.mem_cons.mp hmem with rfl | hmem
      · exact hi hj
      · exact hnew j (by simp [hj]) hmem
    obtain ⟨c,hrun,hc⟩ := ih hd hnodup (fun j hj => hbound j (by simp [hj])) hrest
    refine ⟨c,run_cons.mpr ⟨d,_,_,hstep,hrun,rfl⟩,?_⟩
    simpa using hc

end Filling

section Playing

/-- The buffer when the packets from slot `k` on are still to be played. -/
structure Playing (b : Buffer J) (k : ℕ) : Prop where
  config : b.config = x.config
  primed : b.primed = true
  playout : b.nextPlayoutTs = some (slot x k)
  slots : ∀ i < n, k ≤ i → b.packets.lookup (slot x i) = some (packet x i)

variable {x} {b : Buffer J}

theorem Playing.pop {k : ℕ} (ops : FloatOps J) (h : Playing x b k) (hk : k < n) :
    ∃ c, step ops b .pop = some (c,[played x k]) ∧ Playing x c (k+1) := by
  have hpop : JitterBuffer.pop ops b = _ := pop_play h.primed h.playout (h.slots k hk (le_refl k))
  refine ⟨(JitterBuffer.pop ops b).1,by rw [step, hpop]; rfl,?_⟩
  rw [hpop]
  refine ⟨h.config,h.primed,?_,fun i hi hki => ?_⟩
  · rw [slot_succ, ← h.config]
    rfl
  · change (b.packets.erase (slot x k)).lookup (slot x i) = _
    rw [lookup_erase_eq, if_neg (fun heq => by have := slot_injective hi hk heq; omega)]
    exact h.slots i hi (by omega)

theorem run_pops {k m : ℕ} (ops : FloatOps J) (h : Playing x b k) (hm : k+m = n) :
    ∃ c, run (step ops) b (List.replicate m .pop) =
      some (c,(List.range' k m).map (played x)) := by
  induction m generalizing b k with
  | zero => exact ⟨b,rfl⟩
  | succ m ih =>
    obtain ⟨d,hstep,hd⟩ := h.pop ops (by omega)
    obtain ⟨c,hrun⟩ := ih hd (by omega)
    rw [List.replicate_succ, List.range'_succ, List.map_cons]
    exact ⟨c,run_cons.mpr ⟨d,_,_,hstep,hrun,rfl⟩⟩

end Playing

/-- Whatever the order of arrival after the first packet, every packet is
accepted, and once the buffer is primed the pops play them in stream order. -/
theorem stream_played_in_order (ops : FloatOps J) (n : ℕ) (x : Stream n) (order : List ℕ)
    (hperm : order.Perm (List.range n)) (hfirst : order.head? = some 0)
    (hclock : x.config.clockRate ≠ 0) :
    ∃ b, run (step ops) (new ops x.config) (order.map (pushOp x)) =
        some (b,order.map (fun i => .pushed (slot x i) true)) ∧
      (b.primed = true → ∃ c, run (step ops) b (List.replicate n .pop) =
        some (c,(List.range n).map (played x))) := by
  have hmem : ∀ i ∈ order, i < n := fun i hi => List.mem_range.mp (hperm.mem_iff.mp hi)
  have hnodup : order.Nodup := hperm.nodup_iff.mpr List.nodup_range
  obtain ⟨rest,rfl⟩ : ∃ rest, order = 0::rest := ⟨_,List.eq_cons_of_mem_head? hfirst⟩
  obtain ⟨hzero,hnodup⟩ := List.nodup_cons.mp hnodup
  obtain ⟨a,hstep,ha⟩ := Filled.push ops hclock (hmem 0 (by simp)) List.not_mem_nil
    (arrive_fresh (x := x))
  obtain ⟨b,hrun,hb⟩ := run_pushes ops hclock ha hnodup (fun i hi => hmem i (by simp [hi]))
    (fun i hi hi' => hzero (by rwa [← List.mem_singleton.mp hi']))
  refine ⟨b,run_cons.mpr ⟨a,_,_,hstep,hrun,rfl⟩,fun hprimed => ?_⟩
  rw [List.range_eq_range']
  refine run_pops ops ⟨hb.config,hprimed,hb.playout.trans (congrArg some slot_zero.symm),?_⟩
    (Nat.zero_add n)
  intro i hi _
  rw [hb.slots i hi]
  have hin : i ∈ 0::rest := hperm.mem_iff.mpr (List.mem_range.mpr hi)
  exact if_pos (by simpa [or_comm] using hin)

def wrapStream : Stream 3 where
  config := g711
  start := 4294967136
  arrival i := ⟨UInt16.ofNat i,[Int16.ofNat i],i*20000000⟩
  spacing := by decide
  span := by decide

theorem stream_played_in_order_over_wrap :
    ∃ b c, run (step exactOps) (new exactOps g711) ([0,2,1].map (pushOp wrapStream)) =
        some (b,[.pushed 4294967136 true,.pushed 160 true,.pushed 0 true]) ∧
      run (step exactOps) b (List.replicate 3 .pop) =
        some (c,[played wrapStream 0,played wrapStream 1,played wrapStream 2]) := by
  obtain ⟨b,hb,hplay⟩ := stream_played_in_order exactOps 3 wrapStream [0,2,1] (by decide) rfl
    (by decide)
  have hprimed : (run (step exactOps) (new exactOps g711)
      ([0,2,1].map (pushOp wrapStream))).map (fun r => r.1.primed) = some true := by
    decide +kernel
  have hb' : run (step exactOps) (new exactOps g711) ([0,2,1].map (pushOp wrapStream)) =
      some (b,[.pushed 4294967136 true,.pushed 160 true,.pushed 0 true]) := hb
  rw [hb'] at hprimed
  obtain ⟨c,hc⟩ := hplay (Option.some.inj hprimed)
  exact ⟨b,c,hb',hc⟩

def stoppedClock : Stream 1 where
  config := ⟨20,200,60,0,160⟩
  start := 0
  arrival _ := ⟨0,[],0⟩
  spacing := by decide
  span := by decide

/-- Without a clock rate the first packet already divides by zero. -/
theorem stopped_clock_panics :
    run (step exactOps) (new exactOps stoppedClock.config) ([0].map (pushOp stoppedClock)) =
      none := by
  decide +kernel

end RsipRtp.JitterOrder
