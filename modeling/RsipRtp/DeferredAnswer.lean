import RsipRtp.ListSearch
import RsipRtp.SdpAgreement

/-!
# The answer that waits for ICE

A call that waits for ICE keeps the offer with the last stream it negotiated;
the answer is the offer with its first audio line rewritten from that stream and
every other line as it was offered.
-/

namespace RsipRtp.DeferredAnswer
open SipText ListSearch IceAgent Sdp IceSdp SdpNegotiation SdpAgreement

section Model

structure PendingAnswer where
  offer : SessionDescription
  negotiated : NegotiatedMedia

structure IceLocalParams where
  ufrag : Text
  pwd : Text
  candidates : List Candidate

structure IceAnswerInputs where
  defaultCandidate : Candidate
  localParams : IceLocalParams

def IceAnswerInputs.port (inputs : IceAnswerInputs) : UInt16 :=
  inputs.defaultCandidate.address.port

variable (std : StdText)

def sessionCodecBuilds (opusBuilds : Bool) (codec : Codec) : Bool :=
  let name := std.toLowercase codec.encoding
  name == "pcmu" || name == "pcma" || name == "g722" ||
    (name == "opus" && opusBuilds)

def isAudio (m : MediaDescription) : Bool := m.mediaType == .audio

def writeIce (inputs : IceAnswerInputs) (m : MediaDescription) : MediaDescription :=
  writeRtcpMux (writeCandidates std
    (writeIceCredentials m inputs.localParams.ufrag inputs.localParams.pwd)
    inputs.localParams.candidates)

def patchOffer (pending : PendingAnswer) (inputs : IceAnswerInputs) :
    Option SessionDescription := do
  let answerDirection := swapDirection pending.negotiated.direction
  let audioIdx ← pending.offer.media.findIdx? isAudio
  let offer := { pending.offer with media := pending.offer.media.modify audioIdx (fun m =>
    patchedLine m inputs.port pending.negotiated.codec answerDirection) }
  let offer := applyDefaultCandidate std offer audioIdx inputs.defaultCandidate
  return { offer with media := offer.media.modify audioIdx (writeIce std inputs) }

end Model

def named (name : Text) (m : MediaDescription) : List Attribute :=
  m.attributes.filter (fun a => a.name == name)

def directionAttributes (m : MediaDescription) : List Attribute :=
  m.attributes.filter (fun a => (Direction.ofName a.name).isSome)

structure SameMedia (m m' : MediaDescription) : Prop where
  formats : m.formats = m'.formats
  rtpmap : named "rtpmap" m = named "rtpmap" m'
  fmtp : named "fmtp" m = named "fmtp" m'
  direction : directionAttributes m = directionAttributes m'

/-- One line of the deferred answer against the same line of the direct
one: both are rejected or neither is, and a line that is taken is the same. -/
structure LineAgrees (deferred direct : MediaDescription) : Prop where
  rejected : deferred.port = 0 ↔ direct.port = 0
  media : direct.port ≠ 0 → SameMedia deferred direct

def AnswersAgree (deferred direct : SessionDescription) : Prop :=
  List.Forall₂ LineAgrees deferred.media direct.media

section Carried

/-- A line that lists one codec and one direction and nothing else of
either. -/
structure Carries (m : MediaDescription) (codec : Codec) (d : Direction) : Prop where
  formats : m.formats = [u8Text codec.payloadType]
  rtpmap : named "rtpmap" m = [⟨"rtpmap",some (rtpmapText codec)⟩]
  fmtp : named "fmtp" m = fmtpAttributes codec
  direction : directionAttributes m = [⟨d.name,none⟩]

def writtenCodec (codec : Codec) : Codec :=
  { codec with channels := if codec.channels > 1 then codec.channels else 1 }

variable {m m' : MediaDescription} {codec codec' : Codec} {d d' : Direction}

theorem Carries.same_iff (h : Carries m' codec d) : SameMedia m m' ↔ Carries m codec d :=
  ⟨fun hs => ⟨hs.formats.trans h.formats,hs.rtpmap.trans h.rtpmap,hs.fmtp.trans h.fmtp,
    hs.direction.trans h.direction⟩,
  fun hc => ⟨hc.formats.trans h.formats.symm,hc.rtpmap.trans h.rtpmap.symm,
    hc.fmtp.trans h.fmtp.symm,hc.direction.trans h.direction.symm⟩⟩

def iceNames : List Text :=
  ["rtcp-mux","ice-ufrag","ice-pwd","candidate"]

theorem filter_written (p : Text → Bool) (r f t : Bool) (hr : p "rtpmap" = r)
    (hf : p "fmtp" = f) (ht : p d.name = t) :
    (createMediaAttributes codec d).filter (fun a => p a.name) =
      (if r then [⟨"rtpmap",some (rtpmapText codec)⟩] else []) ++
        ((if f then fmtpAttributes codec else [])++if t then [⟨d.name,none⟩] else []) := by
  rw [createMediaAttributes, fmtpAttributes]
  generalize "rtpmap" = rtpmap at hr ⊢
  generalize "fmtp" = fmtp at hf ⊢
  cases codec.fmtp <;> cases r <;> cases f <;> cases t <;> simp [hr, hf, ht]

theorem carries_written {extra : List Attribute} (hextra : ∀ a ∈ extra, a.name ∈ iceNames)
    (hformats : m.formats = [u8Text codec.payloadType])
    (h : m.attributes = createMediaAttributes codec d++extra) : Carries m codec d := by
  have hother : ∀ p : Text → Bool, iceNames.all (fun name => !p name) = true →
      extra.filter (fun a => p a.name) = [] := by
    intro p hp
    refine List.filter_eq_nil_iff.mpr fun a ha => ?_
    simpa using List.all_eq_true.mp hp a.name (hextra a ha)
  have hname : (d.name == "rtpmap") = false ∧ (d.name == "fmtp") = false ∧
      (Direction.ofName d.name).isSome = true := by cases d <;> decide
  refine ⟨hformats,?_,?_,?_⟩
  · rw [named, h, List.filter_append, hother (· == "rtpmap") (by decide),
      filter_written (· == "rtpmap") true false false (by decide) (by decide) hname.1]
    rfl
  · rw [named, h, List.filter_append, hother (· == "fmtp") (by decide),
      filter_written (· == "fmtp") false true false (by decide) (by decide) hname.2.1]
    simp
  · rw [directionAttributes, h, List.filter_append,
      hother (fun name => (Direction.ofName name).isSome) (by decide),
      filter_written (fun name => (Direction.ofName name).isSome) false false true (by decide)
        (by decide) hname.2.2]
    rfl

theorem rtpmapText_writtenCodec (codec : Codec) :
    rtpmapText (writtenCodec codec) = rtpmapText codec := by
  by_cases h : codec.channels > 1
  · rw [writtenCodec, if_pos h]
  · rw [writtenCodec, if_neg h, rtpmapText, rtpmapText, if_neg h]
    rfl

theorem u8Text_inj {a b : UInt8} (h : u8Text a = u8Text b) : a = b := by
  have := congrArg u8Of h
  rwa [u8Of_text, u8Of_text, Option.some.injEq] at this

theorem writtenCodec_eq (he : Encoding codec.encoding) (he' : Encoding codec'.encoding)
    (htext : rtpmapText codec = rtpmapText codec')
    (hfmtp : fmtpAttributes codec = fmtpAttributes codec') :
    writtenCodec codec = writtenCodec codec' := by
  have hread := congrArg RtpMap.parse htext
  rw [rtpmapText_params codec he, rtpmapText_params codec' he', Option.some.injEq,
    RtpMap.mk.injEq] at hread
  obtain ⟨hpt,hencoding,hrate,hparams⟩ := hread
  have hchannels : (if codec.channels > 1 then codec.channels else 1) =
      if codec'.channels > 1 then codec'.channels else 1 := by
    split_ifs at hparams ⊢
    · exact u8Text_inj (Option.some.inj hparams)
    · rfl
  have hfmtp : codec.fmtp = codec'.fmtp := by
    rw [fmtpAttributes, fmtpAttributes, hpt] at hfmtp
    cases hc : codec.fmtp <;> cases hc' : codec'.fmtp <;> simp_all
  rw [writtenCodec, writtenCodec, Codec.mk.injEq]
  exact ⟨hpt,hencoding,hrate,hchannels,hfmtp⟩

theorem carries_writtenCodec : Carries m (writtenCodec codec) d ↔ Carries m codec d := by
  constructor
  · exact fun h => ⟨h.formats,by rw [h.rtpmap, rtpmapText_writtenCodec],h.fmtp,h.direction⟩
  · exact fun h => ⟨h.formats,by rw [h.rtpmap, rtpmapText_writtenCodec],h.fmtp,h.direction⟩

/-- A line carries one codec, as far as it is written, and one direction. -/
theorem carries_iff (he : Encoding codec.encoding) (he' : Encoding codec'.encoding)
    (h : Carries m codec d) :
    Carries m codec' d' ↔ writtenCodec codec = writtenCodec codec' ∧ d = d' := by
  constructor
  · intro h'
    have htext : rtpmapText codec = rtpmapText codec' := by
      simpa using h.rtpmap.symm.trans h'.rtpmap
    have hname : d.name = d'.name := by simpa using h.direction.symm.trans h'.direction
    have hd := congrArg Direction.ofName hname
    rw [Direction.ofName_name, Direction.ofName_name, Option.some.injEq] at hd
    exact ⟨writtenCodec_eq he he' htext (h.fmtp.symm.trans h'.fmtp),hd⟩
  · rintro ⟨hcodec,rfl⟩
    rw [← carries_writtenCodec, ← hcodec, carries_writtenCodec]
    exact h

end Carried

section Lines
variable (std : StdText)

def deferredLine (pending : PendingAnswer) (inputs : IceAnswerInputs) (m : MediaDescription) :
    MediaDescription :=
  writeIce std inputs (defaultCandidate std inputs.defaultCandidate
    (patchedLine m inputs.port pending.negotiated.codec
      (swapDirection pending.negotiated.direction)))

theorem patchOffer_media {pending : PendingAnswer} {inputs : IceAnswerInputs}
    {answer : SessionDescription} {before after : List MediaDescription} {m : MediaDescription}
    (h : patchOffer std pending inputs = some answer)
    (hmedia : pending.offer.media = before++m::after)
    (hbefore : ∀ y ∈ before, isAudio y = false) (hm : isAudio m = true) :
    answer.media = before++deferredLine std pending inputs m::after := by
  simp only [patchOffer, hmedia, findIdx?_split hbefore hm, Option.bind_eq_bind, Option.bind_some,
    applyDefaultCandidate, modify_split, Option.pure_def, Option.some.injEq] at h
  subst h
  rfl

theorem writeIce_eq (inputs : IceAnswerInputs) {m : MediaDescription} {codec : Codec}
    {d : Direction} (h : m.attributes = createMediaAttributes codec d) :
    ∃ extra, (∀ a ∈ extra, a.name ∈ iceNames) ∧ writeIce std inputs m =
      { m with attributes := createMediaAttributes codec d++extra } := by
  have hkept : ∀ p : Text → Bool, p "rtpmap" = true → p "fmtp" = true →
      p d.name = true →
      (createMediaAttributes codec d).filter (fun a => p a.name) =
        createMediaAttributes codec d := fun p hr hf ht => by
    rw [filter_written p true true true hr hf ht]
    rfl
  have hname : (d.name != "ice-ufrag" && d.name != "ice-pwd") = true ∧
      (d.name != "candidate") = true := by cases d <;> decide
  have hcredentials := hkept (fun name => name != "ice-ufrag" && name != "ice-pwd")
    (by decide) (by decide) hname.1
  have hcandidates := hkept (· != "candidate") (by decide) (by decide) hname.2
  obtain ⟨extra,hextra,hmux⟩ := writeRtcpMux_eq (writeCandidates std
    (writeIceCredentials m inputs.localParams.ufrag inputs.localParams.pwd)
    inputs.localParams.candidates)
  rw [writeIce, hmux, writeCandidates, writeIceCredentials, h, hcredentials, List.filter_append,
    hcandidates]
  refine ⟨_,?_,by rw [List.append_assoc, List.append_assoc]⟩
  intro a ha
  simp only [List.mem_append, List.mem_filter, List.mem_map, List.mem_cons, List.not_mem_nil,
    or_false] at ha
  rcases ha with (⟨rfl | rfl,-⟩ | ⟨c,-,rfl⟩) | ha
  · exact List.mem_of_elem_eq_true rfl
  · exact List.mem_of_elem_eq_true rfl
  · exact List.mem_of_elem_eq_true rfl
  · rw [hextra a ha]
    exact List.mem_of_elem_eq_true rfl

theorem deferredLine_carries (pending : PendingAnswer) (inputs : IceAnswerInputs)
    (m : MediaDescription) : (deferredLine std pending inputs m).port = inputs.port ∧
      Carries (deferredLine std pending inputs m) pending.negotiated.codec
        (swapDirection pending.negotiated.direction) := by
  obtain ⟨extra,hextra,hline⟩ := writeIce_eq std inputs (m := defaultCandidate std
    inputs.defaultCandidate (patchedLine m inputs.port pending.negotiated.codec
      (swapDirection pending.negotiated.direction))) rfl
  rw [deferredLine, hline]
  exact ⟨rfl,carries_written hextra rfl rfl⟩

end Lines

section Choice
variable (std : StdText) (codecs : List Codec)

/-- A line that stands in the offer as it would stand in the answer:
refused where the answerer would refuse it, and otherwise with the one codec
and the direction that the answerer would give it. -/
def Settled (m : MediaDescription) : Prop :=
  match choice std codecs m with
  | none => m.port = 0
  | some codec => m.port ≠ 0 ∧ Carries m codec (swapDirection m.direction)

/-- Offers that the deferred path answers as the direct one does. Their
first audio line is taken, every other line is settled, and the stream that
was kept, of the last line taken, has the codec of the first and is offered
in the direction that the first is to be answered in. -/
def Deferrable (offer : SessionDescription) : Prop :=
  ∃ before first after codec, offer.media = before++first::after ∧
    (∀ m ∈ before, isAudio m = false) ∧ choice std codecs first = some codec ∧
    (∀ m ∈ before++after, Settled std codecs m) ∧
    ∀ last ∈ (takenLines std codecs offer).getLast?,
      writtenCodec last.2 = writtenCodec codec ∧
        last.1.direction = swapDirection first.direction

variable {std codecs} {m m' : MediaDescription} {addr : Option Text} {p : UInt16}

theorem takenLine_carries (m : MediaDescription) (p : UInt16) (codec : Codec) :
    (takenLine m p codec).port = p ∧
      Carries (takenLine m p codec) codec (swapDirection m.direction) := by
  obtain ⟨extra,hextra,hline⟩ := takenLine_eq m p codec
  rw [hline]
  refine ⟨rfl,carries_written (fun a ha => ?_) rfl rfl⟩
  rw [hextra a ha]
  exact List.mem_of_elem_eq_true rfl

theorem lineAgrees_some {codec : Codec} (hp : p ≠ 0) (h : choice std codecs m = some codec) :
    LineAgrees m' (answerLine std codecs addr p m).1 ↔
      m'.port ≠ 0 ∧ Carries m' codec (swapDirection m.direction) := by
  obtain ⟨hport,hcarries⟩ := takenLine_carries m p codec
  rw [answerLine_some std codecs h]
  constructor
  · intro ⟨hrejected,hmedia⟩
    rw [hport] at hrejected hmedia
    exact ⟨fun h0 => hp (hrejected.mp h0),hcarries.same_iff.mp (hmedia hp)⟩
  · intro ⟨h0,hc⟩
    exact ⟨by simp [h0, hport, hp],fun _ => hcarries.same_iff.mpr hc⟩

theorem lineAgrees_none (h : choice std codecs m = none) :
    LineAgrees m' (answerLine std codecs addr p m).1 ↔ m'.port = 0 := by
  have hport := (answerLine_none std codecs h addr p).1
  constructor
  · exact fun hline => hline.rejected.mpr hport
  · exact fun h0 => ⟨by rw [h0, hport],fun hne => absurd hport hne⟩

theorem settled_iff (hp : p ≠ 0) :
    LineAgrees m (answerLine std codecs addr p m).1 ↔ Settled std codecs m := by
  unfold Settled
  cases h : choice std codecs m with
  | none => exact lineAgrees_none h
  | some codec => exact lineAgrees_some hp h

/-- The rewritten line agrees exactly when it was to be taken, with the
codec of the stream that was kept and in the direction it was offered. -/
theorem deferredLine_agrees_iff {pending : PendingAnswer} {inputs : IceAnswerInputs}
    (hp : inputs.port ≠ 0) (he : Encoding pending.negotiated.codec.encoding) :
    LineAgrees (deferredLine std pending inputs m)
        (answerLine std codecs addr inputs.port m).1 ↔
      ∃ codec, choice std codecs m = some codec ∧
        writtenCodec pending.negotiated.codec = writtenCodec codec ∧
        swapDirection pending.negotiated.direction = swapDirection m.direction := by
  obtain ⟨hport,hcarries⟩ := deferredLine_carries std pending inputs m
  cases h : choice std codecs m with
  | none => simp [lineAgrees_none h, hport, hp]
  | some codec =>
    rw [lineAgrees_some hp h, hport, carries_iff he (choice_encoding std codecs h) hcarries]
    simp [hp]

end Choice

end RsipRtp.DeferredAnswer
