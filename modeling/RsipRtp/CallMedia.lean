import RsipRtp.CallViews

/-!
# Media sessions and pending answers

An inbound call rings with its media session at hand or with an answer that is
still to be built, and an established call has a dialog and a session.
-/

namespace RsipRtp.CallMedia
open OutputMachine Sdp SdpNegotiation CallSession CallTable CallViews CallManager
open DeferredAnswer (PendingAnswer IceAnswerInputs patchOffer sessionCodecBuilds isAudio)

structure Provided (v : View) : Prop where
  established : v.state = .established → v.dialogId.isSome ∧ v.port.isSome ∧ v.pending = none
  ringing : v.direction = .inbound → v.state = .ringing → v.port.isSome ≠ v.pending.isSome

structure Kept (v : View) : Prop where
  inbound : v.pending.isSome → v.direction = .inbound
  dialog : v.direction = .inbound → v.dialogId.isSome
  audio : ∀ p ∈ v.pending, (p.offer.media.findIdx? isAudio).isSome

/-- The operation finds what it hands over: a provisional response without
a description sets an inbound call back to ringing, so that call needs one of
the two; an answer finds none pending, and the session of a pending one is
built with a codec that can be built. -/
def Handed (env : Env) (m : CallManager) : Op → Prop
  | .handleProvisional id false _ | .handleProvisionalResponse id _ none _ =>
    ∀ v ∈ view m id, v.direction = .inbound → v.port.isSome ≠ v.pending.isSome
  | .handleInviteSuccess id _ answer _ _ =>
    brings env true (some answer) = true → ∀ v ∈ view m id, v.pending = none
  | .answerCall id =>
    ∀ v ∈ view m id, v.direction = .inbound → v.state = .ringing → v.pending = none
  | .buildAnswerFor id _ => ∀ v ∈ view m id, v.state = .ringing → ∀ p ∈ v.pending,
    sessionCodecBuilds env.std env.opusBuilds p.negotiated.codec = true
  | _ => True

section Audio
variable {env : Env} {m : CallManager}

theorem patchOffer_isSome (std : StdText) (pending : PendingAnswer) (inputs : IceAnswerInputs) :
    (patchOffer std pending inputs).isSome =
      (pending.offer.media.findIdx? isAudio).isSome := by
  unfold patchOffer
  cases pending.offer.media.findIdx? isAudio <;> rfl

theorem acceptable_audio {offer : SessionDescription} {media : NegotiatedMedia}
    (h : acceptable env m offer = some media) : (offer.media.findIdx? isAudio).isSome := by
  obtain ⟨⟨answer,negotiated⟩,hanswer,hlast⟩ := Option.bind_eq_some_iff.mp h
  have hmem := List.mem_of_getLast? hlast
  rw [(createAnswer_eq env.std _ hanswer).2] at hmem
  obtain ⟨⟨line,codec⟩,hline,-⟩ := List.mem_map.mp hmem
  obtain ⟨hline,hchoice⟩ := (mem_takenLines env.std _).mp hline
  rw [List.findIdx?_isSome, List.any_eq_true]
  exact ⟨line,hline,beq_iff_eq.mpr (choice_audio env.std _ hchoice)⟩

end Audio

section Steps
variable {env : Env} {m m' : CallManager} {op : Op} {out : List Output}

theorem kept_step (hk : EveryCall Kept m) (h : step env m op = some (m',out)) :
    EveryCall Kept m' := by
  cases step_effect h with
  | quiet hviews => exact hk.same hviews
  | created hviews => exact (hk.changed_iff hviews).mpr ⟨nofun,nofun,nofun⟩
  | invited dialog port pending hop hviews =>
    refine (hk.changed_iff hviews).mpr ⟨fun _ => rfl,fun _ => rfl,fun p hp => ?_⟩
    rcases hop with ⟨_,-,-,-,rfl⟩ | ⟨offer,media,-,hmedia,-,rfl⟩
    · nomatch hp
    · cases hp
      exact acceptable_audio hmedia
  | progressed _ hv hviews | picked hv _ _ hviews | closed hv _ hviews =>
    have hkv := hk _ _ hv
    exact (hk.changed_iff hviews).mpr ⟨hkv.inbound,hkv.dialog,hkv.audio⟩
  | answered hv _ hviews | stalled hv _ _ hviews =>
    have hkv := hk _ _ hv
    exact (hk.changed_iff hviews).mpr ⟨hkv.inbound,fun _ => rfl,hkv.audio⟩
  | ended pending hop hv hviews hpending =>
    have hkv := hk _ _ hv
    refine (hk.changed_iff hviews).mpr ?_
    rcases hpending with rfl | rfl
    · exact ⟨nofun,hkv.dialog,nofun⟩
    · exact ⟨hkv.inbound,hkv.dialog,hkv.audio⟩
  | built hv _ _ _ hviews | dropped hv _ _ hviews =>
    exact (hk.changed_iff hviews).mpr ⟨nofun,(hk _ _ hv).dialog,nofun⟩
  | removed hv hviews =>
    intro k w hw
    rw [hviews k] at hw
    split_ifs at hw
    exact hk k w hw
  | ticked hviews =>
    intro k w hw
    rcases hviews k with hsame | ⟨v,hv,-,hnow⟩
    · exact hk k w (hsame ▸ hw)
    · have hkv := hk k v hv
      obtain rfl := Option.some.inj (hnow.symm.trans hw)
      exact ⟨hkv.inbound,hkv.dialog,hkv.audio⟩

theorem provided_progressed {id : CallId} {hasSdp : Bool} {sdp : Option SessionDescription}
    {v : View} (hop : provisional op = some (id,hasSdp,sdp)) (hv : view m id = some v) :
    Provided { v with
        state := if hasSdp then .earlyMedia else .ringing
        port := if brings env hasSdp sdp then some m.nextRtpPort else v.port } ↔
      Handed env m op := by
  have hringing : Provided { v with state := .ringing, port := v.port } ↔
      ∀ w ∈ view m id, w.direction = .inbound → w.port.isSome ≠ w.pending.isSome := by
    rw [forall_view hv]
    exact ⟨fun h hdir => h.ringing hdir rfl,fun h => ⟨nofun,fun hdir _ => h hdir⟩⟩
  cases op with
  | handleProvisional k flag answer =>
    cases hop
    cases hasSdp with
    | false => exact hringing
    | true => exact iff_of_true ⟨nofun,nofun⟩ trivial
  | handleProvisionalResponse k response answer contact =>
    cases hop
    cases sdp with
    | none => exact hringing
    | some answer => exact iff_of_true ⟨nofun,nofun⟩ trivial
  | _ => cases hop

theorem dropped_codec {v : View} {pending : PendingAnswer} {inputs : IceAnswerInputs} (hk : Kept v)
    (hpending : v.pending = some pending) (hfail : patchOffer env.std pending inputs = none ∨
      sessionCodecBuilds env.std env.opusBuilds pending.negotiated.codec = false) :
    sessionCodecBuilds env.std env.opusBuilds pending.negotiated.codec = false := by
  refine hfail.resolve_left fun hnone => ?_
  have haudio := hk.audio pending hpending
  rw [← patchOffer_isSome env.std pending inputs, hnone] at haudio
  cases haudio

theorem handed_idle (hidle : ¬Acts env m op) : Handed env m op := by
  cases op with
  | handleProvisional id hasSdp sdp =>
    cases hasSdp with
    | false => exact fun v hv => absurd (Option.isSome_of_mem hv) hidle
    | true => trivial
  | handleProvisionalResponse id response sdp contact =>
    cases sdp with
    | none => exact fun v hv => absurd (Option.isSome_of_mem hv) hidle
    | some answer => trivial
  | handleInviteSuccess id dialog answer response now =>
    exact fun htaken v hv => absurd ⟨Option.isSome_of_mem hv,brings_isSome htaken⟩ hidle
  | answerCall id => exact fun v hv hdir hstate => absurd ⟨v,hv,hdir,hstate⟩ hidle
  | buildAnswerFor id inputs =>
    exact fun v hv _ p hp => absurd ⟨v,hv,Option.isSome_of_mem hp⟩ hidle
  | _ => trivial

/-- Where the calls are provided for, they are so after an operation exactly
if it found what it hands over. -/
theorem provided_effect_iff (hk : EveryCall Kept m) (hp : EveryCall Provided m)
    (heffect : Effect env m op m' out) : EveryCall Provided m' ↔ Handed env m op := by
  cases heffect with
  | quiet hviews _ _ _ hidle => exact iff_of_true (hp.same hviews) (handed_idle hidle)
  | created hviews | closed hv hstate hviews =>
    exact (hp.changed_iff hviews).trans (iff_of_true ⟨nofun,nofun⟩ trivial)
  | invited dialog port pending hop hviews =>
    rw [hp.changed_iff hviews]
    rcases hop with ⟨_,rfl,-,rfl,rfl⟩ | ⟨_,_,rfl,-,rfl,rfl⟩
    · exact iff_of_true ⟨nofun,fun _ _ => nofun⟩ trivial
    · exact iff_of_true ⟨nofun,fun _ _ => nofun⟩ trivial
  | progressed hop hv hviews => exact (hp.changed_iff hviews).trans (provided_progressed hop hv)
  | answered hv htaken hviews =>
    rw [hp.changed_iff hviews, Handed, forall_view hv]
    constructor
    · exact fun h _ => (h.established rfl).2.2
    · exact fun h => ⟨fun _ => ⟨rfl,rfl,h htaken⟩,nofun⟩
  | stalled hv hanswer htaken hviews =>
    have hpv := hp _ _ hv
    rw [hp.changed_iff hviews]
    refine iff_of_true ⟨fun hstate => ⟨rfl,(hpv.established hstate).2⟩,hpv.ringing⟩ fun h => ?_
    exact absurd (h.symm.trans htaken) nofun
  | ended pending hop hv hviews =>
    rw [hp.changed_iff hviews]
    refine iff_of_true ⟨nofun,nofun⟩ ?_
    rcases hop with ⟨_,rfl⟩ | ⟨_,rfl,-⟩ | ⟨rfl | rfl,-⟩ <;> trivial
  | @picked _ _ id v hv hdir hstate hviews =>
    have hport := (hp _ _ hv).ringing hdir hstate
    rw [hp.changed_iff hviews, Handed, forall_view hv]
    constructor
    · exact fun h _ _ => (h.established rfl).2.2
    · intro h
      have hnone := h hdir hstate
      rw [hnone] at hport
      exact ⟨fun _ => ⟨(hk _ _ hv).dialog hdir,Bool.ne_false_iff.mp hport,hnone⟩,nofun⟩
  | built hv hpending hpatch hbuilds hviews =>
    rw [hp.changed_iff hviews, Handed, forall_view hv, hpending]
    refine iff_of_true ⟨fun hstate => ?_,fun _ _ => nofun⟩ fun _ p hpend => ?_
    · exact absurd ((hp _ _ hv).established hstate).2.2 (by rw [hpending]; nofun)
    · cases hpend
      exact hbuilds
  | @dropped _ _ id inputs v pending hv hpending hfail hviews =>
    have hsome : v.pending.isSome := by rw [hpending]; rfl
    have hbuilds := dropped_codec (hk _ _ hv) hpending hfail
    rw [hp.changed_iff hviews, Handed, forall_view hv, hpending]
    constructor
    · intro h hstate
      have hport := h.ringing ((hk _ _ hv).inbound hsome) hstate
      have hbefore := (hp _ _ hv).ringing ((hk _ _ hv).inbound hsome) hstate
      rw [hsome] at hbefore
      exact absurd (Bool.ne_false_iff.mp hport) hbefore
    · intro h
      refine ⟨fun hstate => ?_,fun _ hstate => ?_⟩
      · exact absurd ((hp _ _ hv).established hstate).2.2 (by rw [hpending]; nofun)
      · exact absurd (hbuilds.symm.trans (h hstate pending rfl)) nofun
  | removed hv hviews =>
    refine iff_of_true (fun k w hw => ?_) trivial
    rw [hviews k] at hw
    split_ifs at hw
    exact hp k w hw
  | ticked hviews =>
    refine iff_of_true (fun k w hw => ?_) trivial
    rcases hviews k with hsame | ⟨v,hv,-,hnow⟩
    · exact hp k w (hsame ▸ hw)
    · obtain rfl := Option.some.inj (hnow.symm.trans hw)
      exact ⟨nofun,nofun⟩

theorem handed_of_stop (h : step env m op = none) : Handed env m op := by
  cases op with
  | handleIncomingInvite | handleProvisionalReliable | handleInboundUpdate | tick => trivial
  | _ => nomatch h

end Steps

/-- Whatever is called, a pending answer belongs to an inbound call and to an
offer with audio, and an inbound call has a dialog. -/
theorem calls_kept (env : Env) (config : ManagerConfig) (ops : List Op) :
    Always (step env) (EveryCall Kept) (.new config) ops := by
  intro _ _ _ _ _ hr
  exact run_invariant (fun _ _ _ _ hk hs => kept_step hk hs) (everyCall_new _ config) hr

/-- In a run the established calls have a dialog, a session and no pending
answer, and the inbound calls that ring have one of the two, if and only if
every operation finds what it hands over. -/
theorem calls_provided_iff (env : Env) (config : ManagerConfig) (ops : List Op) :
    Always (step env) (EveryCall Provided) (.new config) ops ↔
      Guarded (step env) (Handed env) (.new config) ops :=
  always_iff (I := EveryCall Kept) (fun _ _ _ _ hk hu => kept_step hk hu)
    (fun _ _ h => handed_of_stop h)
    (fun _ _ _ _ hk hp h => provided_effect_iff hk hp (step_effect h))
    (everyCall_new _ config) (everyCall_new _ config) ops

/-- The application answers before it has built the answer that the call
was accepted for. -/
theorem answered_while_pending : ¬Always (step createEnv) (EveryCall Provided) (.new createConfig)
    [.acceptInboundInvite (createUas "call-1") speech,.answerCall 0] := by
  intro h
  have hrun : (run (step createEnv) (.new createConfig)
      [.acceptInboundInvite (createUas "call-1") speech,.answerCall 0]).map (fun p =>
        (view p.1 0).map (fun v => (v.state,v.port.isSome,v.pending.isSome))) =
      some (some (.established,false,true)) := by decide +kernel
  obtain ⟨⟨m,out⟩,hm,hview⟩ := Option.map_eq_some_iff.mp hrun
  obtain ⟨v,hv,hstate⟩ := Option.map_eq_some_iff.mp hview
  obtain ⟨hstate,hrest⟩ := Prod.mk.inj hstate
  have hport := ((h _ [] m out (List.append_nil _).symm hm 0 v hv).established hstate).2.1
  exact absurd (hport.symm.trans (Prod.mk.inj hrest).1) nofun

end RsipRtp.CallMedia
