import RsipRtp.CallTable

/-!
# The deferred answer of a call

`acceptInboundInvite` negotiates once and keeps the offer with the last stream
of the answer; `buildAnswerFor` later answers from what was kept.
-/

namespace RsipRtp.DeferredCall
open SipText ListSearch IceAgent Sdp SdpNegotiation SdpAgreement CallSession CallTable
open CallManager DeferredAnswer

section Kept
variable {env : Env} {m m' : CallManager} {out : List Output}

theorem accept_kept {dialog : Dialog} {offer : SessionDescription} {callId : CallId}
    (h : m.acceptInboundInvite env dialog offer = (m',out,some callId)) :
    ∃ last c pending, (takenLines env.std m.config.callConfig.codecs offer).getLast? = some last ∧
      m'.calls.lookup callId = some c ∧ c.pendingAnswer = some pending ∧ pending.offer = offer ∧
      pending.negotiated.codec = last.2 ∧
      pending.negotiated.direction = swapDirection last.1.direction := by
  unfold acceptInboundInvite at h
  split at h
  · cases h
  · rename_i media hmedia
    cases h
    obtain ⟨⟨answer,negotiated⟩,hanswer,hmedia⟩ := Option.bind_eq_some_iff.mp hmedia
    rw [(createAnswer_eq env.std m.config.callConfig.codecs hanswer).2, List.getLast?_map,
      Option.map_eq_some_iff] at hmedia
    obtain ⟨last,hlast,rfl⟩ := hmedia
    exact ⟨last,_,_,hlast,AList.lookup_insert _,rfl,rfl,rfl,rfl⟩

theorem built_patched {callId : CallId} {c : Call} {pending : PendingAnswer}
    {inputs : IceAnswerInputs} {answer : SessionDescription}
    (hcall : m.calls.lookup callId = some c) (hpending : c.pendingAnswer = some pending)
    (h : (m.buildAnswerFor env callId inputs).2.2 = some answer) :
    patchOffer env.std pending inputs = some answer := by
  simp only [buildAnswerFor, hcall, hpending] at h
  cases hpatch : patchOffer env.std pending inputs with
  | none =>
    rw [hpatch] at h
    cases h
  | some built =>
    rw [hpatch] at h
    dsimp only at h
    split at h
    · cases h
    · exact h

theorem createAnswer_of_taken {std : StdText} {codecs : List Codec} {offer : SessionDescription}
    {last : MediaDescription × Codec} (h : (takenLines std codecs offer).getLast? = some last)
    (p : UInt16) : ∃ direct negotiated,
      createAnswer std codecs offer p = some (direct,negotiated) := by
  have hne : takenLines std codecs offer ≠ [] := by
    intro hnil
    rw [hnil] at h
    cases h
  refine ⟨_,_,if_neg ?_⟩
  rw [negotiated_eq std codecs, List.isEmpty_iff, List.map_eq_nil_iff]
  exact hne

end Kept

/-- The deferred answer is the direct one, line by line, exactly for the
offers it can be deferred for. -/
theorem deferred_agrees_iff (env : Env) (m m' : CallManager) (dialog : Dialog)
    (out : List Output) (callId : CallId) (offer answer : SessionDescription)
    (inputs : IceAnswerInputs) (hport : inputs.port ≠ 0)
    (haccept : m.acceptInboundInvite env dialog offer = (m',out,some callId))
    (hbuild : (m'.buildAnswerFor env callId inputs).2.2 = some answer) :
    (∃ direct negotiated, createAnswer env.std m.config.callConfig.codecs offer inputs.port =
        some (direct,negotiated) ∧ AnswersAgree answer direct) ↔
      Deferrable env.std m.config.callConfig.codecs offer := by
  obtain ⟨last,c,pending,hlast,hcall,hpending,rfl,hcodec,hdirection⟩ := accept_kept haccept
  obtain ⟨direct,negotiated,hdirect⟩ := createAnswer_of_taken hlast inputs.port
  have hpatch := built_patched hcall hpending hbuild
  generalize env.std = std at *
  generalize m.config.callConfig.codecs = codecs at *
  have hencoding : Encoding pending.negotiated.codec.encoding := by
    rw [hcodec]
    exact choice_encoding std codecs
      ((mem_takenLines std codecs).mp (List.mem_of_getLast? hlast)).2
  have hsplit : ∀ {before first after}, pending.offer.media = before++first::after →
      (∀ m ∈ before, isAudio m = false) → isAudio first = true →
      (AnswersAgree answer direct ↔ (∀ m ∈ before++after, Settled std codecs m) ∧
        ∃ codec, choice std codecs first = some codec ∧
          writtenCodec last.2 = writtenCodec codec ∧
          last.1.direction = swapDirection first.direction) := by
    intro before first after hmedia hbefore hfirst
    rw [AnswersAgree, patchOffer_media std hpatch hmedia hbefore hfirst,
      (createAnswer_eq std codecs hdirect).1, hmedia, forall₂_split,
      deferredLine_agrees_iff hport hencoding, hcodec, hdirection, swapDirection_swap]
    simp only [settled_iff hport]
  constructor
  · rintro ⟨direct',negotiated',hdirect',hagree⟩
    obtain ⟨rfl,rfl⟩ := Prod.mk.inj (Option.some.inj (hdirect'.symm.trans hdirect))
    cases hidx : pending.offer.media.findIdx? isAudio with
    | none => simp [patchOffer, hidx] at hpatch
    | some i =>
      obtain ⟨before,first,after,hmedia,hbefore,hfirst⟩ := split_at_first hidx
      obtain ⟨hsettled,codec,hchoice,hkept⟩ := (hsplit hmedia hbefore hfirst).mp hagree
      refine ⟨before,first,after,codec,hmedia,hbefore,hchoice,hsettled,?_⟩
      intro last' hlast'
      obtain rfl := Option.some.inj (hlast.symm.trans hlast')
      exact hkept
  · rintro ⟨before,first,after,codec,hmedia,hbefore,hchoice,hsettled,hkept⟩
    have hfirst : isAudio first = true := beq_iff_eq.mpr (choice_audio std codecs hchoice)
    exact ⟨direct,negotiated,hdirect,(hsplit hmedia hbefore hfirst).mpr
      ⟨hsettled,codec,hchoice,hkept last hlast⟩⟩

def hostCandidate : Candidate where
  foundation := "host1"
  component := 1
  transport := .udp
  priority := 2130706431
  address := .v4 ⟨[10,0,0,5],rfl⟩ 7100
  candidateType := .host
  relatedAddress := none

def createInputs : IceAnswerInputs where
  defaultCandidate := hostCandidate
  localParams := ⟨"abcd","0123456789",[hostCandidate]⟩

def refusedVideoOffer : SessionDescription :=
  createOffer [createMedia .audio ["0","8"] [],
    { createMedia .video ["31"] [] with port := 0 }]

theorem refused_video_agrees : ∃ m' out answer direct negotiated,
    (CallManager.new createConfig).acceptInboundInvite createEnv (createUas "call-1")
      refusedVideoOffer = (m',out,some 0) ∧
    (m'.buildAnswerFor createEnv 0 createInputs).2.2 = some answer ∧
    createAnswer asciiText [.pcmu,.pcma] refusedVideoOffer createInputs.port =
      some (direct,negotiated) ∧ AnswersAgree answer direct := by
  obtain ⟨direct,negotiated,hdirect,hagree⟩ := (deferred_agrees_iff createEnv (.new createConfig) _
    (createUas "call-1") _ 0 refusedVideoOffer _ createInputs (by decide) rfl rfl).mpr
    ⟨[],_,_,.pcmu,rfl,nofun,rfl,List.forall_mem_singleton.mpr rfl,by decide⟩
  exact ⟨_,_,_,direct,negotiated,rfl,rfl,hdirect,hagree⟩

/-- The deferred answer to a stream that the peer only sends says that this
end only sends too. -/
theorem one_way_deferred_disagrees : ∃ m' out answer direct negotiated,
    (CallManager.new createConfig).acceptInboundInvite createEnv (createUas "call-1") oneWayOffer =
      (m',out,some 0) ∧
    (m'.buildAnswerFor createEnv 0 createInputs).2.2 = some answer ∧
    createAnswer asciiText [.pcmu,.pcma] oneWayOffer createInputs.port =
      some (direct,negotiated) ∧
    answer.media.map (·.direction) = [.sendOnly] ∧ direct.media.map (·.direction) = [.recvOnly] ∧
    ¬AnswersAgree answer direct := by
  refine ⟨_,_,_,_,_,rfl,rfl,rfl,by decide,by decide,fun hagree => ?_⟩
  have hline := (List.forall₂_iff_get.mp hagree).2 0 (by decide) (by decide)
  exact absurd (hline.media (by decide)).direction (by decide)

end RsipRtp.DeferredCall
