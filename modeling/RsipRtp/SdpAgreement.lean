import RsipRtp.SdpNegotiation

/-!
# What the two ends make of an answer

The answerer's view is what `createAnswer` negotiated, the offerer's is what
`processAnswer` reads from the answer. Codecs always agree.
-/

namespace RsipRtp.SdpAgreement
open SipText Sdp SdpNegotiation

def sends : Direction → Bool
  | .sendRecv => true
  | .sendOnly => true
  | .recvOnly => false
  | .inactive => false

def receives : Direction → Bool
  | .sendRecv => true
  | .sendOnly => false
  | .recvOnly => true
  | .inactive => false

/-- One stream as both ends see it, each with the direction from its own
side: one sends exactly when the other receives. -/
structure SameStream (offerer answerer : NegotiatedMedia) : Prop where
  payloadType : offerer.codec.payloadType = answerer.codec.payloadType
  encoding : offerer.codec.encoding = answerer.codec.encoding
  clockRate : offerer.codec.clockRate = answerer.codec.clockRate
  forward : sends offerer.direction = receives answerer.direction
  backward : receives offerer.direction = sends answerer.direction

def EndsAgree (offerer answerer : List NegotiatedMedia) : Prop :=
  List.Forall₂ SameStream offerer answerer

theorem complements_itself (d : Direction) :
    (sends (swapDirection d) = receives (swapDirection d)) ↔ d = .sendRecv ∨ d = .inactive := by
  cases d <;> decide

section Offerer
variable (std : StdText) (codecs : List Codec)

/-- The codec as the offerer reads it: one channel unless more are
written, and no format parameters. -/
def heardCodec (codec : Codec) : Codec :=
  { codec with
    channels := RtpMap.channels ⟨codec.payloadType,codec.encoding,codec.clockRate,
      if codec.channels > 1 then some (u8Text codec.channels) else none⟩
    fmtp := none }

theorem answeredCodec_taken (m : MediaDescription) {codec : Codec} (localPort : UInt16)
    (he : Encoding codec.encoding) :
    answeredCodec (takenLine m localPort codec) = some (heardCodec codec) := by
  obtain ⟨extra,-,hline⟩ := takenLine_eq m localPort codec
  rw [answeredCodec, rtpmaps_written he (by rw [hline]), rtpmapText_params codec he]
  rfl

theorem processLine_taken {m : MediaDescription} {codec : Codec} {localPort : UInt16}
    (haudio : m.mediaType = .audio) (he : Encoding codec.encoding) (hport : localPort ≠ 0)
    (sessionAddr : Option Text) :
    processLine sessionAddr (takenLine m localPort codec) = some ⟨heardCodec codec,localPort,
      remoteAddress sessionAddr m,swapDirection m.direction⟩ := by
  have hcodec := answeredCodec_taken m localPort he
  obtain ⟨extra,-,hline⟩ := takenLine_eq m localPort codec
  have hattrs : (takenLine m localPort codec).attributes =
      createMediaAttributes codec (swapDirection m.direction)++extra := by rw [hline]
  have hkept : (takenLine m localPort codec).isRejected = false ∧
      (takenLine m localPort codec).mediaType = .audio := by
    rw [hline]
    exact ⟨beq_eq_false_iff_ne.mpr hport,haudio⟩
  rw [processLine, hcodec, direction_written hattrs, hkept.1, hkept.2, hline]
  rfl

theorem processLine_rejected {m : MediaDescription} (h : m.port = 0) (sessionAddr : Option Text) :
    processLine sessionAddr m = none := by
  rw [processLine, MediaDescription.isRejected, h]
  rfl

theorem processAnswer_eq {offer answer : SessionDescription} {localPort : UInt16}
    {negotiated : List NegotiatedMedia} (hport : localPort ≠ 0)
    (h : createAnswer std codecs offer localPort = some (answer,negotiated)) :
    processAnswer answer = (takenLines std codecs offer).map (fun line =>
      ⟨heardCodec line.2,localPort,remoteAddress (offer.connection.map (·.address)) line.1,
        swapDirection line.1.direction⟩) := by
  rw [(createAnswer_eq std codecs h).1, processAnswer, List.filterMap_map, takenLines,
    List.map_filterMap]
  refine List.filterMap_congr fun m _ => ?_
  cases hchoice : choice std codecs m with
  | none => exact processLine_rejected (answerLine_none std codecs hchoice _ localPort).1 _
  | some codec =>
    rw [Function.comp_apply, answerLine_some std codecs hchoice,
      processLine_taken (choice_audio std codecs hchoice) (choice_encoding std codecs hchoice)
        hport]
    rfl

end Offerer

/-- Both ends hold the same streams with the same codecs, and their
directions complement each other exactly when no line that was taken is
offered one way only. -/
theorem ends_agree_iff (std : StdText) (codecs : List Codec) (offer answer : SessionDescription)
    (localPort : UInt16) (negotiated : List NegotiatedMedia) (hport : localPort ≠ 0)
    (h : createAnswer std codecs offer localPort = some (answer,negotiated)) :
    EndsAgree (processAnswer answer) negotiated ↔
      ∀ m ∈ offer.media, (choice std codecs m).isSome →
        m.direction = .sendRecv ∨ m.direction = .inactive := by
  rw [processAnswer_eq std codecs hport h, (createAnswer_eq std codecs h).2, EndsAgree,
    List.forall₂_map_left_iff, List.forall₂_map_right_iff, List.forall₂_same]
  constructor
  · intro hagree m hmem hsome
    obtain ⟨codec,hchoice⟩ := Option.isSome_iff_exists.mp hsome
    have hline := hagree (m,codec) ((mem_takenLines std codecs).mpr ⟨hmem,hchoice⟩)
    exact (complements_itself m.direction).mp hline.forward
  · rintro hdirections ⟨m,codec⟩ hline
    obtain ⟨hmem,hchoice⟩ := (mem_takenLines std codecs).mp hline
    have hself := (complements_itself m.direction).mpr
      (hdirections m hmem (by rw [hchoice]; rfl))
    exact ⟨rfl,rfl,rfl,hself,hself.symm⟩

def asciiText : StdText where
  toUppercase := toAsciiUppercase
  toLowercase := toAsciiLowercase
  parseIp := fun _ => none
  ipText := fun _ => []

def createMedia (mediaType : MediaType) (formats : List Text) (attributes : List Attribute) :
    MediaDescription :=
  { mediaType, port := 49170, numPorts := none, protocol := "RTP/AVP", formats,
    connection := none, bandwidth := ∅, attributes }

def createOffer (media : List MediaDescription) : SessionDescription :=
  { version := 0
    origin := ⟨"-","1","1","IN","IP4","192.0.2.1"⟩
    sessionName := "-"
    sessionInfo := none
    connection := some ⟨"IN","IP4","192.0.2.1"⟩
    timing := ⟨0,0⟩
    media
    attributes := [] }

def oneWayOffer : SessionDescription :=
  createOffer [createMedia .audio ["0"] [⟨"sendonly",none⟩]]

def twoWayOffer : SessionDescription :=
  createOffer [createMedia .audio ["96","8"]
      [⟨"rtpmap",some "96 pcma/8000"⟩],
    createMedia .video ["31"] []]

theorem two_way_ends_agree : ∃ answer negotiated,
    createAnswer asciiText [.pcmu,.pcma] twoWayOffer 7000 = some (answer,negotiated) ∧
      EndsAgree (processAnswer answer) negotiated := by
  refine ⟨_,_,rfl,(ends_agree_iff asciiText [.pcmu,.pcma] twoWayOffer _ 7000 _ (by decide)
    rfl).mpr ?_⟩
  decide

/-- Both ends of the one-way stream hold that they only receive. -/
theorem one_way_ends_disagree : ∃ answer negotiated,
    createAnswer asciiText [.pcmu] oneWayOffer 7000 = some (answer,negotiated) ∧
      negotiated.map (·.direction) = [.recvOnly] ∧
      (processAnswer answer).map (·.direction) = [.recvOnly] ∧
      ¬ EndsAgree (processAnswer answer) negotiated := by
  refine ⟨_,_,rfl,by decide,by decide,fun hagree => ?_⟩
  have hforward := (List.forall₂_iff_get.mp hagree).2 0 (by decide) (by decide)
  exact absurd hforward.forward (by decide)

end RsipRtp.SdpAgreement
