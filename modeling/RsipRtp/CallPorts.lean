import RsipRtp.CallMedia

/-!
# The RTP ports of the calls

Ports are taken from a counter that goes through the even ports of a range and
starts again at its end. Whether two calls get the same one is a matter of how
many allocations lie between them.
-/

namespace RsipRtp.CallPorts
open OutputMachine FiniteMap SipText SipMessage Sdp CallSession CallTable CallViews
open CallMedia CallManager
open DeferredAnswer (sessionCodecBuilds)
open SdpNegotiation (processAnswer)
open Dialog (DialogId)

/-- The port that the next call gets lies in the range and has the parity of
its start, and the counter goes on from it without an overflow. -/
structure InRange (range : UInt16 × UInt16) (m : CallManager) : Prop where
  low : range.1 ≤ m.allocateRtpPort.2
  high : m.allocateRtpPort.2 ≤ range.2
  parity : m.allocateRtpPort.2.toNat % 2 = range.1.toNat % 2
  room : m.nextRtpPort.toNat+2 < 2^16

def Owns (m : CallManager) (id : CallId) (p : UInt16) : Prop :=
  ∃ v, view m id = some v ∧ v.state ≠ .terminated ∧ v.port = some p

def Apart (m : CallManager) : Prop := ∀ id k p, Owns m id p → Owns m k p → id = k

/-! ## The ledger of the allocations -/

/-- Where a call has its port from: an allocation, by its number, or its ICE
candidate. -/
inductive Source where
  | allocated (n : ℕ)
  | candidate (port : UInt16)

/-- How many ports with the parity of its start a range has. -/
def ports (range : UInt16 × UInt16) : ℕ := (range.2.toNat-range.1.toNat)/2+1

def portAt (range : UInt16 × UInt16) (n : ℕ) : UInt16 :=
  UInt16.ofNat (range.1.toNat+2*(n % ports range))

/-- Two allocations clash if the number of allocations from one to the other
goes through the range a whole number of times. -/
def Clash (range : UInt16 × UInt16) : Source → Source → Prop
  | .allocated i, .allocated j => i % ports range = j % ports range
  | .allocated n, .candidate p | .candidate p, .allocated n => p = portAt range n
  | .candidate p, .candidate q => p = q

/-- The number of the next allocation, and where the calls have their ports from. -/
structure Ledger where
  manager : CallManager
  count : ℕ
  taken : CallId → Option Source

def Ledger.new (config : ManagerConfig) : Ledger := ⟨.new config,0,fun _ => none⟩

/-- The entry that an operation makes. -/
def noted (env : Env) (l : Ledger) : Op → Option (CallId × Option Source)
  | .createCall _ | .acceptInboundInvite _ _ => some (l.manager.nextId,none)
  | .handleIncomingInvite _ offer => some (l.manager.nextId,
    if offered env l.manager offer then some (.allocated l.count) else none)
  | .handleInviteSuccess id _ answer _ _ =>
    if brings env true (some answer) then some (id,some (.allocated l.count)) else none
  | .handleProvisional id hasSdp sdp =>
    if brings env hasSdp sdp then some (id,some (.allocated l.count)) else none
  | .handleProvisionalResponse id _ sdp _ =>
    if brings env sdp.isSome sdp then some (id,some (.allocated l.count)) else none
  | .buildAnswerFor id inputs =>
    if (view l.manager id).any (fun v => v.pending.any (fun p =>
        sessionCodecBuilds env.std env.opusBuilds p.negotiated.codec))
      then some (id,some (.candidate inputs.port)) else none
  | _ => none

def book (env : Env) (l : Ledger) (op : Op) : CallId → Option Source :=
  match noted env l op with
  | some (id,source) => Function.update l.taken id source
  | none => l.taken

def track (env : Env) : Step Ledger Op Output := fun l op =>
  (step env l.manager op).map (fun p =>
    (⟨p.1,bif allocates op then l.count+1 else l.count,book env l op⟩,p.2))

def Live (m : CallManager) (id : CallId) : Prop := ∃ v ∈ view m id, v.state ≠ .terminated

/-- No two calls that are not over have clashing sources. -/
def Unclashed (range : UInt16 × UInt16) (l : Ledger) : Prop :=
  ∀ id k, Live l.manager id → Live l.manager k →
    ∀ s ∈ l.taken id, ∀ t ∈ l.taken k, Clash range s t → id = k

section Decisions

instance (range : UInt16 × UInt16) : (s t : Source) → Decidable (Clash range s t)
  | .allocated i, .allocated j => inferInstanceAs (Decidable (i % ports range = j % ports range))
  | .allocated n, .candidate p => inferInstanceAs (Decidable (p = portAt range n))
  | .candidate p, .allocated n => inferInstanceAs (Decidable (p = portAt range n))
  | .candidate p, .candidate q => inferInstanceAs (Decidable (p = q))

theorem live_iff {m : CallManager} {id : CallId} :
    Live m id ↔ ∃ c, (id,c) ∈ select m.calls (fun c => c.state != .terminated) := by
  simp only [Live, Option.mem_def, view_some, mem_select, bne_iff_ne]
  constructor
  · rintro ⟨_,⟨c,hc,rfl⟩,hstate⟩
    exact ⟨c,hc,hstate⟩
  · rintro ⟨c,hc,hstate⟩
    exact ⟨callView c,⟨c,hc,rfl⟩,hstate⟩

instance (range : UInt16 × UInt16) (l : Ledger) : Decidable (Unclashed range l) :=
  decidable_of_iff (∀ x ∈ select l.manager.calls (fun c => c.state != .terminated),
      ∀ y ∈ select l.manager.calls (fun c => c.state != .terminated),
        ∀ s ∈ l.taken x.1, ∀ t ∈ l.taken y.1, Clash range s t → x.1 = y.1)
    ⟨fun h id k hid hk => (live_iff.mp hid).elim fun c hc => (live_iff.mp hk).elim fun d hd =>
      h (id,c) hc (k,d) hd,
      fun h x hx y hy => h x.1 y.1 (live_iff.mpr ⟨x.2,hx⟩) (live_iff.mpr ⟨y.2,hy⟩)⟩

end Decisions

section Range
variable {range : UInt16 × UInt16} {m m' : CallManager} {n : ℕ}

theorem portAt_toNat (hle : range.1 ≤ range.2) (n : ℕ) :
    (portAt range n).toNat = range.1.toNat+2*(n % ports range) ∧
      range.1.toNat+2*(n % ports range) ≤ range.2.toNat := by
  have hstart : range.1.toNat ≤ range.2.toNat := UInt16.le_iff_toNat_le.mp hle
  have hend : range.2.toNat < 2^16 := range.2.toNat_lt
  have hindex : n % ports range < ports range := Nat.mod_lt n (Nat.succ_pos _)
  have hhigh : range.1.toNat+2*(n % ports range) ≤ range.2.toNat := by
    generalize n % ports range = i at *
    unfold ports at hindex
    omega
  exact ⟨(UInt16.toNat_ofNat ..).trans (Nat.mod_eq_of_lt (Nat.lt_of_le_of_lt hhigh hend)),hhigh⟩

theorem portAt_eq_iff (hle : range.1 ≤ range.2) {i j : ℕ} :
    portAt range i = portAt range j ↔ i % ports range = j % ports range := by
  rw [← UInt16.toNat_inj, (portAt_toNat hle i).1, (portAt_toNat hle j).1]
  omega

/-- The counter goes to the next port of the range, or back to its start. -/
theorem portAt_succ (hle : range.1 ≤ range.2) (hend : range.2.toNat ≤ 65533) (n : ℕ) :
    portAt range (n+1) =
      if portAt range n+2 > range.2 then range.1 else portAt range n+2 := by
  obtain ⟨hport,hhigh⟩ := portAt_toNat hle n
  have hnext : (portAt range n+2).toNat = range.1.toNat+2*(n % ports range)+2 := by
    rw [UInt16.toNat_add, hport]
    exact Nat.mod_eq_of_lt (Nat.lt_of_le_of_lt (Nat.add_le_add_right (hhigh.trans hend) 2)
      (by decide))
  have hindex : n % ports range < ports range := Nat.mod_lt n (Nat.succ_pos _)
  have hsucc : (n+1) % ports range = (n % ports range+1) % ports range := (Nat.mod_add_mod ..).symm
  rw [← UInt16.toNat_inj, (portAt_toNat hle (n+1)).1, hsucc]
  by_cases hlast : n % ports range+1 = ports range
  · have hwrap : portAt range n+2 > range.2 := by
      rw [gt_iff_lt, UInt16.lt_iff_toNat_lt, hnext]
      unfold ports at hlast ⊢
      omega
    rw [hlast, Nat.mod_self, if_pos hwrap]
    rfl
  · have hroom : ¬portAt range n+2 > range.2 := by
      rw [gt_iff_lt, UInt16.lt_iff_toNat_lt, hnext]
      unfold ports at hlast hindex ⊢
      omega
    rw [Nat.mod_eq_of_lt (by omega), if_neg hroom, hnext]
    omega

/-- After a number of allocations the counter stands at the port of the next. -/
structure Ranged (range : UInt16 × UInt16) (m : CallManager) (n : ℕ) : Prop where
  range_eq : m.config.rtpPortRange = range
  next : m.nextRtpPort = portAt range n

theorem Ranged.inRange (hle : range.1 ≤ range.2) (hend : range.2.toNat ≤ 65533)
    (h : Ranged range m n) : InRange range m := by
  obtain ⟨hport,hhigh⟩ := portAt_toNat hle n
  have hnext : m.allocateRtpPort.2.toNat = range.1.toNat+2*(n % ports range) := by
    rw [← hport, ← h.next]
    rfl
  refine ⟨UInt16.le_iff_toNat_le.mpr ?_,UInt16.le_iff_toNat_le.mpr ?_,?_,?_⟩
  · omega
  · omega
  · omega
  · rw [h.next, hport]
    omega

theorem ranged_step {env : Env} {op : Op} {out : List Output} (hle : range.1 ≤ range.2)
    (hend : range.2.toNat ≤ 65533) (h : Ranged range m n) (hstep : step env m op = some (m',out)) :
    Ranged range m' (bif allocates op then n+1 else n) := by
  have hcounter : Counted m op m' := (step_effect hstep).counted
  rw [Counted] at hcounter
  cases hop : allocates op with
  | true =>
    rw [hop] at hcounter
    obtain ⟨hconfig,hport⟩ := Prod.mk.inj hcounter
    refine ⟨(congrArg ManagerConfig.rtpPortRange hconfig).trans h.range_eq,hport.trans ?_⟩
    rw [cond_true, portAt_succ hle hend, ← h.next, ← h.range_eq]
    rfl
  | false =>
    rw [hop] at hcounter
    obtain ⟨hconfig,hport⟩ := Prod.mk.inj hcounter
    exact ⟨(congrArg ManagerConfig.rtpPortRange hconfig).trans h.range_eq,hport.trans h.next⟩

theorem ranged_new (config : ManagerConfig) : Ranged config.rtpPortRange (.new config) 0 := by
  refine ⟨rfl,?_⟩
  simp [portAt, new]

end Range

section Ledgers
variable {env : Env} {range : UInt16 × UInt16} {l l' : Ledger} {op : Op} {out : List Output}
variable {m' : CallManager}

def Source.port (range : UInt16 × UInt16) : Source → UInt16
  | .allocated n => portAt range n
  | .candidate p => p

theorem clash_iff (hle : range.1 ≤ range.2) (s t : Source) :
    Clash range s t ↔ s.port range = t.port range := by
  cases s <;> cases t
  · exact (portAt_eq_iff hle).symm
  · exact eq_comm
  · exact Iff.rfl
  · exact Iff.rfl

/-- What the ledger says about the calls is so. -/
def Entered (range : UInt16 × UInt16) (m : CallManager) (taken : CallId → Option Source) : Prop :=
  ∀ id v, view m id = some v → v.port = (taken id).map (Source.port range)

structure Booked (range : UInt16 × UInt16) (l : Ledger) : Prop where
  kept : EveryCall Kept l.manager
  fresh : Fresh l.manager
  ranged : Ranged range l.manager l.count
  entered : Entered range l.manager l.taken

theorem Entered.changed {m m' : CallManager} {taken taken' : CallId → Option Source}
    (h : Entered range m taken) {id : CallId} {w : View} (hviews : Changed m m' id w)
    (hother : ∀ k, k ≠ id → taken' k = taken k)
    (hport : w.port = (taken' id).map (Source.port range)) : Entered range m' taken' := by
  intro k v hv
  rw [hviews k] at hv
  split_ifs at hv with hk
  · cases hv
    rw [hk]
    exact hport
  · rw [hother k hk]
    exact h k v hv

theorem Entered.made (h : Entered range l.manager l.taken) {id : CallId}
    {w : View} {source : Option Source} (hnoted : noted env l op = some (id,source))
    (hviews : Changed l.manager m' id w) (hport : w.port = source.map (Source.port range)) :
    Entered range m' (book env l op) := by
  have hbook : book env l op = Function.update l.taken id source := by rw [book, hnoted]
  rw [hbook]
  refine h.changed hviews (fun k hk => Function.update_of_ne hk _ _) ?_
  rw [Function.update_self]
  exact hport

theorem Entered.left (h : Entered range l.manager l.taken) {id : CallId}
    {v w : View} (hnoted : noted env l op = none) (hv : view l.manager id = some v)
    (hviews : Changed l.manager m' id w) (hport : w.port = v.port) :
    Entered range m' (book env l op) := by
  have hbook : book env l op = l.taken := by rw [book, hnoted]
  rw [hbook]
  exact h.changed hviews (fun _ _ => rfl) (hport.trans (h id v hv))

theorem book_other {k : CallId} (h : ∀ source, noted env l op ≠ some (k,source)) :
    book env l op k = l.taken k := by
  cases hnoted : noted env l op with
  | none => rw [book, hnoted]
  | some entry =>
    obtain ⟨id,source⟩ := entry
    have hne : k ≠ id := fun heq => h source (heq ▸ hnoted)
    rw [book, hnoted]
    exact Function.update_of_ne hne _ _

/-- An operation that does nothing makes no entry for a call that is there. -/
theorem noted_idle {k : CallId} {v : View} (hfresh : Fresh l.manager)
    (hv : view l.manager k = some v) (hidle : ¬Acts env l.manager op) (source : Option Source) :
    noted env l op ≠ some (k,source) := by
  have hold : k ≠ l.manager.nextId := Nat.ne_of_lt (hfresh k v hv)
  have hseen : (view l.manager k).isSome := by rw [hv]; rfl
  intro hnoted
  cases op with
  | createCall | acceptInboundInvite | handleIncomingInvite =>
    exact hold (congrArg Prod.fst (Option.some.inj hnoted)).symm
  | handleInviteSuccess id dialog answer response now =>
    simp only [noted, Option.ite_none_right_eq_some, Option.some.injEq, Prod.mk.injEq] at hnoted
    obtain ⟨htaken,rfl,-⟩ := hnoted
    exact hidle ⟨hseen,brings_isSome htaken⟩
  | handleProvisional id hasSdp sdp | handleProvisionalResponse id response sdp contact =>
    simp only [noted, Option.ite_none_right_eq_some, Option.some.injEq, Prod.mk.injEq] at hnoted
    obtain ⟨-,rfl,-⟩ := hnoted
    exact hidle hseen
  | buildAnswerFor id inputs =>
    simp only [noted, Option.ite_none_right_eq_some, Option.any_eq_true] at hnoted
    obtain ⟨⟨w,hw,p,hp,-⟩,-⟩ := hnoted
    exact hidle ⟨w,hw,Option.isSome_of_mem hp⟩
  | _ => cases hnoted

theorem entered_effect (h : Booked range l)
    (heffect : Effect env l.manager op m' out) : Entered range m' (book env l op) := by
  have hnext : some l.manager.nextRtpPort =
      (some (Source.allocated l.count)).map (Source.port range) := congrArg some h.ranged.next
  cases heffect with
  | quiet hviews _ _ _ hidle =>
    intro k v hv
    rw [hviews k] at hv
    rw [book_other (noted_idle h.fresh hv hidle)]
    exact h.entered k v hv
  | created hviews => exact h.entered.made rfl hviews rfl
  | invited dialog port pending hop hviews =>
    rcases hop with ⟨offer,rfl,hoffer,rfl,-⟩ | ⟨offer,media,rfl,-,rfl,-⟩
    · have hnoted : noted env l (.handleIncomingInvite dialog offer) =
          some (l.manager.nextId,some (.allocated l.count)) := by rw [noted, hoffer, if_pos rfl]
      exact h.entered.made hnoted hviews hnext
    · exact h.entered.made rfl hviews rfl
  | @progressed _ _ _ id hasSdp sdp v hop hv hviews =>
    have hnoted : noted env l op =
        if brings env hasSdp sdp then some (id,some (.allocated l.count)) else none := by
      cases op <;> cases hop <;> rfl
    cases hbrings : brings env hasSdp sdp with
    | true =>
      rw [hbrings] at hnoted hviews
      exact h.entered.made hnoted hviews hnext
    | false =>
      rw [hbrings] at hnoted hviews
      exact h.entered.left hnoted hv hviews rfl
  | @answered _ _ id dialog answer response now _ hv htaken hviews =>
    have hnoted : noted env l (.handleInviteSuccess id dialog answer response now) =
        some (id,some (.allocated l.count)) := by rw [noted, htaken, if_pos rfl]
    exact h.entered.made hnoted hviews hnext
  | stalled hv hanswer htaken hviews =>
    refine h.entered.left ?_ hv hviews rfl
    rw [noted, htaken]
    rfl
  | ended pending hop hv hviews =>
    refine h.entered.left ?_ hv hviews rfl
    rcases hop with ⟨_,rfl⟩ | ⟨_,rfl,-⟩ | ⟨rfl | rfl,-⟩ <;> rfl
  | picked hv _ _ hviews | closed hv _ hviews => exact h.entered.left rfl hv hviews rfl
  | @built _ _ id inputs _ _ hv hpending _ hbuilds hviews =>
    have hnoted : noted env l (.buildAnswerFor id inputs) =
        some (id,some (.candidate inputs.port)) := by
      rw [noted, hv, Option.any_some, hpending, Option.any_some, hbuilds, if_pos rfl]
    exact h.entered.made hnoted hviews rfl
  | dropped hv hpending hfail hviews =>
    refine h.entered.left ?_ hv hviews rfl
    rw [noted, hv, Option.any_some, hpending, Option.any_some,
      dropped_codec (h.kept _ _ hv) hpending hfail]
    rfl
  | removed hv hviews =>
    intro k w hw
    rw [hviews k] at hw
    split_ifs at hw
    exact h.entered k w hw
  | ticked hviews =>
    intro k w hw
    rcases hviews k with hsame | ⟨v,hv,-,hnow⟩
    · exact h.entered k w (hsame ▸ hw)
    · rw [hnow] at hw
      cases hw
      exact h.entered k v hv

theorem booked_track (hle : range.1 ≤ range.2) (hend : range.2.toNat ≤ 65533)
    (h : Booked range l) (hstep : track env l op = some (l',out)) : Booked range l' := by
  obtain ⟨⟨m',out'⟩,hm,heq⟩ := Option.map_eq_some_iff.mp hstep
  cases heq
  exact ⟨kept_step h.kept hm,fresh_step h.fresh hm,ranged_step hle hend h.ranged hm,
    entered_effect h (step_effect hm)⟩

theorem booked_new (config : ManagerConfig) : Booked config.rtpPortRange (.new config) :=
  ⟨everyCall_new _ config,fresh_new config,ranged_new config,fun _ _ h => nomatch h⟩

/-- Two calls that are not over have the same port exactly if their sources clash. -/
theorem apart_iff_unclashed (hle : range.1 ≤ range.2) (h : Booked range l) :
    Apart l.manager ↔ Unclashed range l := by
  constructor
  · rintro hapart id k ⟨v,hv,hstate⟩ ⟨w,hw,hstate'⟩ s hs t ht hclash
    refine hapart id k (s.port range) ⟨v,hv,hstate,?_⟩ ⟨w,hw,hstate',?_⟩
    · rw [h.entered id v hv, hs]
      rfl
    · rw [h.entered k w hw, ht, (clash_iff hle s t).mp hclash]
      rfl
  · rintro hclear id k p ⟨v,hv,hstate,hp⟩ ⟨w,hw,hstate',hp'⟩
    rw [h.entered id v hv] at hp
    rw [h.entered k w hw] at hp'
    obtain ⟨s,hs,hsp⟩ := Option.map_eq_some_iff.mp hp
    obtain ⟨t,ht,htp⟩ := Option.map_eq_some_iff.mp hp'
    exact hclear id k ⟨v,hv,hstate⟩ ⟨w,hw,hstate'⟩ s hs t ht
      ((clash_iff hle s t).mpr (hsp.trans htp.symm))

end Ledgers

/-- For a range that ends below the last two ports, in a run all ports are
taken from the range, without an overflow, and no two calls that are not over
have the same port, if and only if at no moment two such calls have their ports
from allocations that lie a whole number of rounds apart, or clash over the port
of an ICE candidate. -/
theorem ports_apart_iff (env : Env) (config : ManagerConfig) (ops : List Op)
    (hle : config.rtpPortRange.1 ≤ config.rtpPortRange.2)
    (hend : config.rtpPortRange.2.toNat ≤ 65533) :
    Always (step env) (fun m => InRange config.rtpPortRange m ∧ Apart m) (.new config) ops ↔
      Always (track env) (Unclashed config.rtpPortRange) (.new config) ops := by
  have herase : ∀ (l : Ledger) (op : Op), step env l.manager op =
      (track env l op).map (fun p => (p.1.manager,p.2)) := by
    intro l op
    rw [track, Option.map_map]
    exact Option.map_id'.symm
  refine (always_erase herase (.new config) ops).symm.trans ?_
  refine always_congr (I := Booked config.rtpPortRange)
    (fun l op l' out h => booked_track hle hend h) (fun l h => ?_) (booked_new config) ops
  rw [apart_iff_unclashed hle h]
  exact and_iff_right (h.ranged.inRange hle hend)

def wastedInvite : Op :=
  .handleIncomingInvite (createUas "call-9") (SdpAgreement.createOffer [])

def wrappedCalls : List Op :=
  [.handleIncomingInvite (createUas "call-1") speech,wastedInvite,wastedInvite,
    .handleIncomingInvite (createUas "call-2") speech]

def fewCalls : List Op :=
  [.handleIncomingInvite (createUas "call-1") speech,wastedInvite,
    .handleIncomingInvite (createUas "call-2") speech]

theorem few_calls_apart : Always (step createEnv)
    (fun m => InRange createConfig.rtpPortRange m ∧ Apart m) (.new createConfig) fewCalls :=
  (ports_apart_iff createEnv createConfig fewCalls (by decide) (by decide)).mpr
    (by decide +kernel)

/-- Of three ports, two go to INVITEs that are turned down, and the second
call gets the port of the first; and the last port of a range that ends at
65535 has none after it. -/
theorem wrapped_calls_share :
    ¬Always (step createEnv) (fun m => InRange createConfig.rtpPortRange m ∧ Apart m)
        (.new createConfig) wrappedCalls ∧
      ¬Always (step createEnv) (fun m => InRange (65534,65535) m ∧ Apart m)
        (.new { createConfig with rtpPortRange := (65534,65535) }) [] := by
  constructor
  · intro h
    have hrun : (run (step createEnv) (.new createConfig) wrappedCalls).map (fun p =>
        ((view p.1 0).map (fun v => (v.state,v.port)),
          (view p.1 1).map (fun v => (v.state,v.port)))) =
        some (some (.ringing,some 10000),some (.ringing,some 10000)) := by decide +kernel
    obtain ⟨⟨m,out⟩,hm,hviews⟩ := Option.map_eq_some_iff.mp hrun
    have howns {id : CallId} (hview : (view m id).map (fun v => (v.state,v.port)) =
        some (.ringing,some 10000)) : Owns m id 10000 := by
      obtain ⟨v,hv,heq⟩ := Option.map_eq_some_iff.mp hview
      obtain ⟨hstate,hport⟩ := Prod.mk.inj heq
      exact ⟨v,hv,hstate ▸ nofun,hport⟩
    obtain ⟨hfirst,hsecond⟩ := Prod.mk.inj hviews
    exact absurd ((h wrappedCalls [] m out rfl hm).2 0 1 10000 (howns hfirst) (howns hsecond))
      (by decide)
  · intro h
    have hroom := (h [] [] _ _ rfl rfl).1.room
    exact absurd hroom (by decide)

end RsipRtp.CallPorts
