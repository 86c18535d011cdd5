import RsipRtp.CallViews

/-!
# The course of a call

A call goes through its stages in one direction and ends once.
-/

namespace RsipRtp.CallStates
open OutputMachine Sdp SipMessage CallSession CallTable CallViews CallManager

def stage : CallState → ℕ
  | .idle | .inviting => 0
  | .ringing | .earlyMedia => 1
  | .established => 2
  | .terminating => 3
  | .terminated => 4

theorem stage_le_terminated (s : CallState) : stage s ≤ 4 := by
  cases s <;> decide

theorem terminated_of_stage {s : CallState} (h : 4 ≤ stage s) : s = .terminated := by
  cases s <;> first | rfl | exact absurd h (by decide)

def Forward (m m' : CallManager) : Prop :=
  ∀ id v v', view m id = some v → view m' id = some v' →
    stage v.state ≤ stage v'.state ∧ (v.state = .terminated → v'.state = .terminated)

/-- No operation comes late: a provisional response after the answer, an
answer after the end has begun, a failure or a BYE after the end. -/
def Orderly (env : Env) (m : CallManager) : Op → Prop
  | .handleProvisional id _ _ | .handleProvisionalResponse id _ _ _ =>
    ∀ v ∈ view m id, stage v.state ≤ 1
  | .handleInviteSuccess id _ answer _ _ =>
    brings env true (some answer) = true → ∀ v ∈ view m id, stage v.state ≤ 2
  | .handleInviteFailure id _ => ∀ v ∈ view m id, v.state ≠ .terminated
  | .handleBye d => ∀ id ∈ m.dialogToCall.lookup d, ∀ v ∈ view m id, v.state ≠ .terminated
  | _ => True

section Steps
variable {env : Env} {m m' : CallManager} {op : Op} {out : List Output}

/-- The calls that could have been in the first manager were there, at a
stage no later. Unlike `Forward` this is transitive. -/
structure Later (m m' : CallManager) : Prop where
  next : m.nextId ≤ m'.nextId
  stages : ∀ id v', view m' id = some v' → id < m.nextId →
    ∃ v, view m id = some v ∧ stage v.state ≤ stage v'.state

theorem Later.refl (m : CallManager) : Later m m :=
  ⟨Nat.le_refl _,fun _ v hv _ => ⟨v,hv,Nat.le_refl _⟩⟩

theorem Later.trans {m₁ m₂ m₃ : CallManager} (h : Later m₁ m₂) (h' : Later m₂ m₃) :
    Later m₁ m₃ := by
  refine ⟨h.next.trans h'.next,fun id v₃ hv₃ hid => ?_⟩
  obtain ⟨v₂,hv₂,h₂₃⟩ := h'.stages id v₃ hv₃ (hid.trans_le h.next)
  obtain ⟨v₁,hv₁,h₁₂⟩ := h.stages id v₂ hv₂ hid
  exact ⟨v₁,hv₁,h₁₂.trans h₂₃⟩

theorem Later.forward (h : Later m m') (hfresh : Fresh m) : Forward m m' := by
  intro id v v' hv hv'
  obtain ⟨w,hw,hstage⟩ := h.stages id v' hv' (hfresh id v hv)
  obtain rfl : w = v := Option.some.inj (hw.symm.trans hv)
  refine ⟨hstage,fun hend => terminated_of_stage ?_⟩
  rw [hend] at hstage
  exact hstage

theorem later_changed {id : CallId} {v w : View} (hv : view m id = some v)
    (hviews : Changed m m' id w) (hnext : m.nextId ≤ m'.nextId)
    (hstage : stage v.state ≤ stage w.state) : Later m m' := by
  refine ⟨hnext,fun k x hx _ => ?_⟩
  rw [hviews k] at hx
  split_ifs at hx with hk
  · cases hx
    exact ⟨v,hk ▸ hv,hstage⟩
  · exact ⟨x,hx,Nat.le_refl _⟩

theorem later_added {w : View} (hviews : Changed m m' m.nextId w)
    (hnext : m'.nextId = m.nextId+1) : Later m m' := by
  refine ⟨hnext ▸ Nat.le_succ _,fun k x hx hk => ?_⟩
  rw [hviews k, if_neg hk.ne] at hx
  exact ⟨x,hx,Nat.le_refl _⟩

/-- One orderly operation. -/
theorem later_step (hgood : Orderly env m op) (h : step env m op = some (m',out)) :
    Later m m' := by
  cases step_effect h with
  | quiet hviews hmap hnext => exact ⟨hnext,fun k v hv _ => ⟨v,hviews k ▸ hv,Nat.le_refl _⟩⟩
  | created hviews hmap hnext | invited dialog port pending hop hviews hmap hnext =>
    exact later_added hviews hnext
  | @progressed _ _ _ id hasSdp sdp v hop hv hviews hrest =>
    have hbefore : stage v.state ≤ 1 := by
      cases op with
      | handleProvisional | handleProvisionalResponse =>
        cases hop
        exact hgood v hv
      | _ => cases hop
    refine later_changed hv hviews hrest.next.ge (hbefore.trans ?_)
    cases hasSdp <;> exact Nat.le_refl _
  | answered hv htaken hviews hmap hnext =>
    exact later_changed hv hviews hnext.ge (hgood htaken _ hv)
  | stalled hv _ _ hviews hrest | built hv _ _ _ hviews hrest | dropped hv _ _ hviews hrest =>
    exact later_changed hv hviews hrest.next.ge (Nat.le_refl _)
  | ended pending hop hv hviews hpending hrest =>
    exact later_changed hv hviews hrest.next.ge (stage_le_terminated _)
  | picked hv _ hstate hviews hrest | closed hv hstate hviews hrest =>
    exact later_changed hv hviews hrest.next.ge (by rw [hstate]; exact Nat.le_succ _)
  | removed hv hviews hmap hnext =>
    refine ⟨hnext.ge,fun k x hx _ => ?_⟩
    rw [hviews k] at hx
    split_ifs at hx
    exact ⟨x,hx,Nat.le_refl _⟩
  | ticked hviews hrest =>
    refine ⟨hrest.next.ge,fun k x hx _ => ?_⟩
    rcases hviews k with hk | ⟨v,hv,hstate,hk⟩
    · exact ⟨x,hk ▸ hx,Nat.le_refl _⟩
    · obtain rfl : _ = x := Option.some.inj (hk.symm.trans hx)
      exact ⟨v,hv,by rw [hstate]; exact Nat.le_succ _⟩

end Steps

section Ends
variable {env : Env} {m m' : CallManager} {op : Op} {history out : List Output}

structure Counted (m : CallManager) (history : List Output) : Prop where
  fresh : Fresh m
  none : ∀ id, m.nextId ≤ id → ends id history = 0
  some : ∀ id v, view m id = some v → v.state = .terminated → 1 ≤ ends id history

structure Once (m : CallManager) (history : List Output) : Prop where
  counted : Counted m history
  news : ∀ id, endNews id history ≤ ends id history
  once : ∀ id, ends id history ≤ 1
  closed : ∀ id v, view m id = some v → 1 ≤ ends id history → v.state = .terminated

inductive Adds (env : Env) (m : CallManager) (op : Op) (m' : CallManager) (out : List Output) :
    Prop
  | silent (hout : Silent out)
      (hover : ∀ k v', view m' k = some v' → v'.state = .terminated →
        ∃ v, view m k = some v ∧ v.state = .terminated) : Adds env m op m' out
  | ends {id : CallId} {v w : View} (hv : view m id = some v) (hviews : Changed m m' id w)
      (hstate : w.state = .terminated) (hout : OneEnd id out)
      (hlate : Orderly env m op → v.state ≠ .terminated) : Adds env m op m' out

theorem over_changed {id : CallId} {w : View} (hviews : Changed m m' id w)
    (hw : w.state ≠ .terminated) (k : CallId) (v' : View) (hv' : view m' k = some v')
    (hover : v'.state = .terminated) : ∃ v, view m k = some v ∧ v.state = .terminated := by
  rw [hviews k] at hv'
  split_ifs at hv' with hk
  · cases hv'
    exact absurd hover hw
  · exact ⟨v',hv',hover⟩

theorem over_same {id : CallId} {v w : View} (hv : view m id = some v)
    (hviews : Changed m m' id w) (hw : w.state = v.state) (k : CallId) (v' : View)
    (hv' : view m' k = some v') (hover : v'.state = .terminated) :
    ∃ v, view m k = some v ∧ v.state = .terminated := by
  rw [hviews k] at hv'
  split_ifs at hv' with hk
  · cases hv'
    exact ⟨v,hk ▸ hv,hw ▸ hover⟩
  · exact ⟨v',hv',hover⟩

theorem adds_step (h : step env m op = some (m',out)) : Adds env m op m' out := by
  cases step_effect h with
  | quiet hviews hmap hnext hout => exact .silent hout fun k v hv ho => ⟨v,hviews k ▸ hv,ho⟩
  | created hviews => exact .silent silent_nil (over_changed hviews nofun)
  | invited dialog port pending hop hviews hmap hnext hout
  | answered _ _ hviews _ _ hout | picked _ _ _ hviews _ hout | closed _ _ hviews _ hout =>
    exact .silent hout (over_changed hviews nofun)
  | @progressed _ _ _ id hasSdp sdp v hop hv hviews hrest hout =>
    exact .silent hout (over_changed hviews (by cases hasSdp <;> nofun))
  | ended pending hop hv hviews hpending hrest hout =>
    refine .ends hv hviews rfl hout fun hgood => ?_
    rcases hop with ⟨code,rfl⟩ | ⟨d,rfl,hd⟩ | ⟨-,hstate⟩
    · exact hgood _ hv
    · exact hgood _ hd _ hv
    · rw [hstate]
      nofun
  | stalled hv _ _ hviews _ hout | built hv _ _ _ hviews _ hout | dropped hv _ _ hviews _ hout =>
    exact .silent hout (over_same hv hviews rfl)
  | removed hv hviews =>
    refine .silent silent_nil fun k v' hv' hover => ?_
    rw [hviews k] at hv'
    split_ifs at hv'
    exact ⟨v',hv',hover⟩
  | ticked hviews hrest hout =>
    refine .silent hout fun k v' hv' hover => ?_
    rcases hviews k with hk | ⟨v,hv,hstate,hk⟩
    · exact ⟨v',hk ▸ hv',hover⟩
    · obtain rfl : _ = v' := Option.some.inj (hk.symm.trans hv')
      nomatch hover

theorem nextId_step (h : step env m op = some (m',out)) : m.nextId ≤ m'.nextId := by
  cases step_effect h with
  | quiet _ _ hnext => exact hnext
  | created _ _ hnext | invited _ _ _ _ _ _ hnext => exact hnext ▸ Nat.le_succ _
  | answered _ _ _ _ hnext | removed _ _ _ hnext => exact hnext.ge
  | _ => exact (Rest.next ‹_›).ge

theorem counted_step (hc : Counted m history) (h : step env m op = some (m',out)) :
    Counted m' (history++out) := by
  have hnext := nextId_step h
  refine ⟨fresh_step hc.fresh h,fun id hid => ?_,fun id v' hv' hover => ?_⟩
  · rw [ends_append, hc.none id (hnext.trans hid), Nat.zero_add]
    cases adds_step h with
    | silent hout => exact (hout id).1
    | @ends k v w hv hviews hstate hout =>
      have hne : k < id := (hc.fresh k v hv).trans_le (hnext.trans hid)
      rw [hout.call, if_neg hne.ne']
  · rw [ends_append]
    cases adds_step h with
    | silent hout hsame =>
      obtain ⟨v,hv,hv4⟩ := hsame id v' hv' hover
      exact Nat.le_add_right_of_le (hc.some id v hv hv4)
    | @ends k v w hv hviews hstate hout =>
      by_cases hk : id = k
      · rw [hout.call, if_pos hk]
        exact Nat.le_add_left _ _
      · rw [hviews id, if_neg hk] at hv'
        exact Nat.le_add_right_of_le (hc.some id v' hv' hover)

theorem once_step (ho : Once m history) (hgood : Orderly env m op)
    (h : step env m op = some (m',out)) : Once m' (history++out) := by
  have hlater := later_step hgood h
  have hfresh := fresh_step ho.counted.fresh h
  refine ⟨counted_step ho.counted h,fun id => ?_,fun id => ?_,fun id v' hv' hend => ?_⟩
  all_goals simp only [ends_append, endNews_append] at *
  · refine Nat.add_le_add (ho.news id) ?_
    cases adds_step h with
    | silent hout => rw [(hout id).1, (hout id).2]
    | ends hv hviews hstate hout => exact (hout.manager id).trans (hout.call id).ge
  · cases adds_step h with
    | silent hout =>
      rw [(hout id).1]
      exact ho.once id
    | @ends k v w hv hviews hstate hout hlate =>
      by_cases hk : id = k
      · have hzero : ends id history = 0 := by
          by_contra hne
          exact hlate hgood (ho.closed k v hv (hk ▸ Nat.one_le_iff_ne_zero.mpr hne))
        rw [hzero, hout.call, if_pos hk]
      · rw [hout.call, if_neg hk]
        exact ho.once id
  · -- a call with an end before was over before, and one without ends now
    by_cases hbefore : 1 ≤ ends id history
    · have hold : id < m.nextId := by
        by_contra hid
        rw [ho.counted.none id (not_lt.mp hid)] at hbefore
        exact absurd hbefore (by decide)
      obtain ⟨v,hv,hstage⟩ := hlater.stages id v' hv' hold
      rw [ho.closed id v hv hbefore] at hstage
      exact terminated_of_stage hstage
    · cases adds_step h with
      | silent hout =>
        rw [(hout id).1] at hend
        omega
      | @ends k v w hv hviews hstate hout =>
        by_cases hk : id = k
        · rw [hviews id, if_pos hk] at hv'
          cases hv'
          exact hstate
        · rw [hout.call, if_neg hk] at hend
          omega

theorem counted_new (config : ManagerConfig) : Counted (.new config) [] :=
  ⟨fresh_new config,fun _ _ => rfl,fun _ _ h => nomatch h⟩

theorem once_new (config : ManagerConfig) : Once (.new config) [] :=
  ⟨counted_new config,fun _ => Nat.le_refl _,fun _ => Nat.zero_le _,fun _ _ h => nomatch h⟩

end Ends

section Late
variable {env : Env} {m : CallManager} {history : List Output}
variable {out : List Output} {m' : CallManager}

theorem provisional_early (op : Op) {id : CallId} {hasSdp : Bool}
    {sdp : Option SessionDescription} (hop : provisional op = some (id,hasSdp,sdp))
    (hacts : (view m id).isSome → Acts env m op)
    (h : step env m op = some (m',out)) (hforward : Forward m m') :
    ∀ v ∈ view m id, stage v.state ≤ 1 := by
  intro v hv
  have hseen : (view m id).isSome := by
    rw [Option.mem_def.mp hv]
    rfl
  cases step_effect h with
  | quiet _ _ _ _ hidle => exact absurd (hacts hseen) hidle
  | @progressed _ _ _ k flag answer w hop' hw hviews =>
    cases hop.symm.trans hop'
    have hafter := (hforward id v _ hv ((hviews id).trans (if_pos rfl))).1
    cases hasSdp <;> exact hafter
  | invited _ _ _ hop' =>
    rcases hop' with ⟨_,rfl,-⟩ | ⟨_,_,rfl,-⟩ <;> cases hop
  | ended _ hop' =>
    rcases hop' with ⟨_,rfl⟩ | ⟨_,rfl,-⟩ | ⟨rfl | rfl,-⟩ <;> cases hop
  | _ => cases hop

theorem answer_early {id : CallId} {dialog : Dialog} {answer : SessionDescription}
    {response : Option SipResponse} {now : ℕ}
    (h : step env m (.handleInviteSuccess id dialog answer response now) = some (m',out))
    (hforward : Forward m m') :
      Orderly env m (.handleInviteSuccess id dialog answer response now) := by
  intro htaken v hv
  have hseen : (view m id).isSome := by
    rw [Option.mem_def.mp hv]
    rfl
  cases step_effect h with
  | quiet _ _ _ _ hidle => exact absurd ⟨hseen,brings_isSome htaken⟩ hidle
  | answered hw _ hviews => exact (hforward id v _ hv ((hviews id).trans (if_pos rfl))).1
  | stalled _ _ hfail => exact absurd (htaken.symm.trans hfail) (by decide)
  | invited _ _ _ hop => rcases hop with ⟨_,hop,-⟩ | ⟨_,_,hop,-⟩ <;> cases hop
  | progressed hop => cases hop
  | ended _ hop => rcases hop with ⟨_,hop⟩ | ⟨_,hop,-⟩ | ⟨hop | hop,-⟩ <;> cases hop

def ending (m : CallManager) : Op → Option CallId
  | .handleInviteFailure id _ => some id
  | .handleBye d => m.dialogToCall.lookup d
  | _ => none

theorem end_early (env : Env) (hc : Counted m history) (op : Op) {id : CallId}
    (hop : ending m op = some id)
    (h : step env m op = some (m',out))
    (honce : ends id (history++out) ≤ 1) : ∀ v ∈ view m id, v.state ≠ .terminated := by
  intro v hv hover
  have hseen : (view m id).isSome := by
    rw [Option.mem_def.mp hv]
    rfl
  cases step_effect h with
  | quiet _ _ _ _ hidle =>
    refine hidle ?_
    cases op with
    | handleInviteFailure =>
      cases hop
      exact hseen
    | handleBye d => exact ⟨id,hop,hseen⟩
    | _ => cases hop
  | @ended _ _ _ k _ _ hop' _ _ _ _ hout =>
    have hk : id = k := by
      rcases hop' with ⟨_,rfl⟩ | ⟨_,rfl,hd⟩ | ⟨rfl | rfl,-⟩
      · exact (Option.some.inj hop).symm
      · exact Option.some.inj (hop.symm.trans hd)
      · cases hop
      · cases hop
    have hone := hc.some id v hv hover
    rw [ends_append, hout.call, if_pos hk] at honce
    omega
  | invited _ _ _ hop' => rcases hop' with ⟨_,rfl,-⟩ | ⟨_,_,rfl,-⟩ <;> cases hop
  | @progressed op _ _ _ _ _ _ hop' =>
    cases op with
    | handleProvisional | handleProvisionalResponse => cases hop
    | _ => cases hop'
  | _ => cases hop

end Late

section Result

def Coursed (env : Env) (m : CallManager) (ops : List Op) : Prop :=
  Along (step env) Forward m ops ∧
    ∀ before after m' out, ops = before++after → run (step env) m before = some (m',out) →
      ∀ id, ends id out ≤ 1 ∧ endNews id out ≤ 1

variable (env : Env) (config : ManagerConfig)

theorem once_run {ops : List Op} {m : CallManager} {out : List Output}
    (hgood : Guarded (step env) (Orderly env) (.new config) ops)
    (h : run (step env) (.new config) ops = some (m,out)) : Once m out :=
  run_guarded_history (P := Once) (fun _ _ _ _ _ ho hi hu => once_step ho hi hu)
    (once_new config) hgood h

/-- Late operations or not, no call ends unreported or before it is made. -/
theorem ended_calls_reported {ops : List Op} {m : CallManager} {out : List Output}
    (h : run (step env) (.new config) ops = some (m,out)) : Counted m out :=
  run_history (P := Counted) (fun _ _ _ _ _ hc hu => counted_step hc hu) (counted_new config) h

/-- The calls of a manager go through their stages in order and end once, if
and only if no operation on a call comes late. -/
theorem calls_coursed_iff (ops : List Op) :
    Coursed env (.new config) ops ↔ Guarded (step env) (Orderly env) (.new config) ops := by
  constructor
  · rintro ⟨hforward,hends⟩
    rw [guarded_iff_reached]
    rintro before op after m history rfl hm
    have hcounted : Counted m history := run_history (P := Counted)
      (fun _ _ _ _ _ hc hu => counted_step hc hu) (counted_new config) hm
    have hstep {m' : CallManager} {out : List Output} (h : step env m op = some (m',out)) :
        Forward m m' ∧ ∀ id, ends id (history++out) ≤ 1 := by
      have hone : run (step env) m [op] = some (m',out) :=
        run_cons.mpr ⟨m',out,[],h,rfl,(List.append_nil out).symm⟩
      refine ⟨hforward before [op] after m m' history out (by simp) hm hone,fun id => ?_⟩
      exact (hends (before++[op]) after m' (history++out) (by simp)
        (run_append.mpr ⟨m,history,out,hm,hone,rfl⟩) id).1
    cases op with
    | handleProvisional id hasSdp sdp =>
      exact provisional_early (.handleProvisional id hasSdp sdp) rfl (fun hseen => hseen) rfl
        (hstep rfl).1
    | handleProvisionalResponse id response sdp contact =>
      exact provisional_early (.handleProvisionalResponse id response sdp contact) rfl
        (fun hseen => hseen) rfl (hstep rfl).1
    | handleInviteSuccess id dialog answer response now => exact answer_early rfl (hstep rfl).1
    | handleInviteFailure id code =>
      exact end_early env hcounted (.handleInviteFailure id code) rfl rfl ((hstep rfl).2 id)
    | handleBye d =>
      intro id hid
      exact end_early env hcounted (.handleBye d) hid rfl ((hstep rfl).2 id)
    | _ => trivial
  · intro hgood
    constructor
    · rintro before between after m m' a b rfl hm hm'
      obtain ⟨hbefore,hrest⟩ := guarded_append.mp hgood
      have hlater : Later m m' := run_guarded_rel Later.refl (fun _ _ _ h h' => h.trans h')
        (guarded_imp (P := fun _ => True) (fun _ _ _ _ _ _ _ => trivial)
          (fun _ _ _ hi _ _ hu => later_step hi hu) trivial
          (guarded_append.mp (hrest m a hm)).1) hm'
      exact hlater.forward (once_run env config hbefore hm).counted.fresh
    · rintro before after m out rfl hm id
      have honce := once_run env config (guarded_append.mp hgood).1 hm
      exact ⟨honce.once id,(honce.news id).trans (honce.once id)⟩

end Result

def forkedOps : List Op :=
  [.createCall "sip:bob@b.example",
    .handleInviteSuccess 0 (createUac "call-1") speech none 0,
    .handleProvisional 0 false none]

def byeTwiceOps : List Op :=
  [.handleIncomingInvite (createUas "call-1") speech,
    .handleBye (createUas "call-1").id,.handleBye (createUas "call-1").id]

theorem byes_reported :
    ∃ p ∈ run (step createEnv) (.new createConfig) byeTwiceOps, Counted p.1 p.2 :=
  ⟨_,rfl,@ended_calls_reported createEnv createConfig byeTwiceOps _ _ rfl⟩

/-- A fork that rings after another one has answered sets the call back to
ringing, and a second BYE ends a call again. -/
theorem late_ringing_and_second_bye :
    ¬Coursed createEnv (.new createConfig) forkedOps ∧
      ¬Coursed createEnv (.new createConfig) byeTwiceOps := by
  constructor
  · intro h
    have hrun : (run (step createEnv) (.new createConfig) (forkedOps.take 2)).bind (fun p =>
        (run (step createEnv) p.1 (forkedOps.drop 2)).map (fun q =>
          ((view p.1 0).map View.state,(view q.1 0).map View.state))) =
        some (some .established,some .ringing) := by decide +kernel
    obtain ⟨⟨m,a⟩,hm,hrun⟩ := Option.bind_eq_some_iff.mp hrun
    obtain ⟨⟨m',b⟩,hm',hstates⟩ := Option.map_eq_some_iff.mp hrun
    obtain ⟨hbefore,hafter⟩ := Prod.mk.inj hstates
    obtain ⟨v,hv,hstate⟩ := Option.map_eq_some_iff.mp hbefore
    obtain ⟨v',hv',hstate'⟩ := Option.map_eq_some_iff.mp hafter
    have hforward := (h.1 (forkedOps.take 2) (forkedOps.drop 2) [] m m' a b rfl hm hm' 0 v v'
      hv hv').1
    rw [hstate, hstate'] at hforward
    exact absurd hforward (by decide)
  · intro h
    have hrun : (run (step createEnv) (.new createConfig) byeTwiceOps).map (fun p =>
        ends 0 p.2) = some 2 := by decide +kernel
    obtain ⟨⟨m,out⟩,hm,hends⟩ := Option.map_eq_some_iff.mp hrun
    have honce := (h.2 byeTwiceOps [] m out rfl hm 0).1
    rw [show ends 0 out = 2 from hends] at honce
    exact absurd honce (by decide)

end RsipRtp.CallStates
