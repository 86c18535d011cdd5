import RsipRtp.ListSearch
import RsipRtp.SdpAgreement

/-!
# Valid answers

What an answer owes its offer, line by line: the same lines in the same order,
a line disabled in the offer stays disabled, and a line that is accepted names
one payload type, offered on that line and mapped by it to a local codec.
-/

namespace RsipRtp.SdpValidAnswer
open SipText ListSearch Sdp SdpNegotiation SdpAgreement

section Mapping

def offered (m : MediaDescription) : List UInt8 := m.formats.filterMap u8Of

def States (r : RtpMap) (codec : Codec) : Prop :=
  r.payloadType = codec.payloadType ∧ r.encoding = codec.encoding ∧
    r.clockRate = codec.clockRate ∧ r.channels = codec.channels

/-- A line maps the payload type of a codec to that codec by an rtpmap, or
by the static table when no rtpmap is about the payload type. -/
def Maps (m : MediaDescription) (codec : Codec) : Prop :=
  (∃ r ∈ m.rtpmaps, States r codec) ∨
    ((∀ r ∈ m.rtpmaps, r.payloadType ≠ codec.payloadType) ∧
      staticCodec codec.payloadType = some codec)

variable (std : StdText) (codecs : List Codec)

def isLocal (r : RtpMap) : Bool := codecs.any (fun c => c.matches std r)

def asRtpmap (codec : Codec) : RtpMap := ⟨codec.payloadType,codec.encoding,codec.clockRate,none⟩

structure LineAnswered (negotiated : List NegotiatedMedia) (o a : MediaDescription) : Prop where
  mediaType : a.mediaType = o.mediaType
  disabled : o.port = 0 → a.port = 0
  accepted : a.port ≠ 0 → ∃ n ∈ negotiated, answeredCodec a = some (heardCodec n.codec) ∧
    a.formats = [u8Text n.codec.payloadType] ∧ n.codec.payloadType ∈ offered o ∧
    Maps o n.codec ∧ isLocal std codecs (asRtpmap n.codec) = true

def ValidAnswer (offer answer : SessionDescription) (negotiated : List NegotiatedMedia) : Prop :=
  List.Forall₂ (LineAnswered std codecs negotiated) offer.media answer.media

end Mapping

section Consistent
variable (std : StdText) (codecs : List Codec)

def localRtpmap (m : MediaDescription) : Option RtpMap := m.rtpmaps.find? (isLocal std codecs)

def localStatic (m : MediaDescription) : Option UInt8 :=
  (offered m).find? (fun pt => (staticCodec pt).any (fun codec =>
    isLocal std codecs ⟨pt,codec.encoding,codec.clockRate,none⟩))

/-- An audio line with a local codec is enabled, and is consistent about
the payload type of that codec. -/
def Consistent (m : MediaDescription) : Prop :=
  m.mediaType = .audio → iceWithoutMux std m = false →
    (∀ r ∈ localRtpmap std codecs m, m.port ≠ 0 ∧ r.payloadType ∈ offered m) ∧
    (localRtpmap std codecs m = none → ∀ pt ∈ localStatic std codecs m,
      m.port ≠ 0 ∧ ∀ r ∈ m.rtpmaps, r.payloadType ≠ pt)

instance (m : MediaDescription) : Decidable (Consistent std codecs m) :=
  inferInstanceAs (Decidable (_ → _ → _ ∧ _))

end Consistent

section Choice
variable {std : StdText} {codecs : List Codec} {m : MediaDescription} {codec : Codec}

theorem matchRtpmap_none : matchRtpmap std codecs m = none ↔ localRtpmap std codecs m = none := by
  rw [matchRtpmap, localRtpmap, List.findSome?_eq_none_iff, List.find?_eq_none]
  refine forall₂_congr fun r _ => ?_
  rw [isLocal, ← findSome?_if _ (fun c => (⟨r.payloadType,r.encoding,r.clockRate,r.channels,
    c.fmtp⟩ : Codec)), Bool.not_eq_true, Option.isSome_eq_false_iff, Option.isNone_iff_eq_none]

theorem matchRtpmap_some (h : matchRtpmap std codecs m = some codec) :
    ∃ r, localRtpmap std codecs m = some r ∧ States r codec := by
  rw [matchRtpmap, findSome?_find?] at h
  obtain ⟨r,hfind,h⟩ := Option.bind_eq_some_iff.mp h
  simp only [findSome?_if] at hfind
  refine ⟨r,hfind,?_⟩
  obtain ⟨c,-,hc⟩ := List.exists_of_findSome?_eq_some h
  split_ifs at hc
  cases hc
  exact ⟨rfl,rfl,rfl,rfl⟩

theorem staticCodec_payloadType {pt : UInt8} (h : staticCodec pt = some codec) :
    codec.payloadType = pt := by
  unfold staticCodec at h
  split_ifs at h with h0 h8 h9 <;> cases h <;> symm <;> assumption

theorem matchStatic_eq : matchStatic std codecs m = (offered m).findSome? (fun pt =>
    (staticCodec pt).bind (fun codec =>
      if isLocal std codecs ⟨pt,codec.encoding,codec.clockRate,none⟩ then some codec else none)) :=
  (findSome?_filterMap u8Of _ m.formats).symm

theorem static_isSome (pt : UInt8) : ((staticCodec pt).bind (fun codec =>
    if isLocal std codecs ⟨pt,codec.encoding,codec.clockRate,none⟩ then some codec
      else none)).isSome = (staticCodec pt).any (fun codec =>
    isLocal std codecs ⟨pt,codec.encoding,codec.clockRate,none⟩) := by
  cases staticCodec pt with
  | none => rfl
  | some codec =>
    rw [Option.bind_some, Option.any_some]
    split_ifs with h
    · rw [h]; rfl
    · rw [Bool.not_eq_true] at h
      rw [h]; rfl

theorem matchStatic_none : matchStatic std codecs m = none ↔ localStatic std codecs m = none := by
  simp only [matchStatic_eq, localStatic, List.findSome?_eq_none_iff, List.find?_eq_none,
    ← static_isSome, Bool.not_eq_true, Option.isSome_eq_false_iff, Option.isNone_iff_eq_none]

theorem matchStatic_some (h : matchStatic std codecs m = some codec) :
    localStatic std codecs m = some codec.payloadType ∧
      staticCodec codec.payloadType = some codec ∧ isLocal std codecs (asRtpmap codec) = true := by
  rw [matchStatic_eq, findSome?_find?] at h
  obtain ⟨pt,hfind,h⟩ := Option.bind_eq_some_iff.mp h
  obtain ⟨static,hstatic,h⟩ := Option.bind_eq_some_iff.mp h
  simp only [static_isSome] at hfind
  split_ifs at h with hlocal
  cases h
  cases staticCodec_payloadType hstatic
  exact ⟨hfind,hstatic,hlocal⟩

theorem isLocal_states {r : RtpMap} (h : States r codec) :
    isLocal std codecs r = isLocal std codecs (asRtpmap codec) := by
  obtain ⟨-,hencoding,hrate,-⟩ := h
  simp only [isLocal, Codec.matches, asRtpmap, hencoding, hrate]

/-- Where the codec of a line that is taken comes from. -/
theorem choice_cases (h : choice std codecs m = some codec) :
    (∃ r, localRtpmap std codecs m = some r ∧ States r codec) ∨
      (localRtpmap std codecs m = none ∧ localStatic std codecs m = some codec.payloadType ∧
        staticCodec codec.payloadType = some codec ∧
        isLocal std codecs (asRtpmap codec) = true) := by
  unfold choice at h
  split_ifs at h
  rcases Option.or_eq_some_iff.mp h with h | ⟨hnone,h⟩
  · exact .inl (matchRtpmap_some h)
  · exact .inr ⟨matchRtpmap_none.mp hnone,matchStatic_some h⟩

theorem choice_none (haudio : m.mediaType = .audio) (hice : iceWithoutMux std m = false)
    (h : choice std codecs m = none) :
    localRtpmap std codecs m = none ∧ localStatic std codecs m = none := by
  rw [choice, if_neg (by simp [haudio, hice]), Option.or_eq_none_iff] at h
  exact ⟨matchRtpmap_none.mp h.1,matchStatic_none.mp h.2⟩

theorem choice_open (h : choice std codecs m = some codec) :
    m.mediaType = .audio ∧ iceWithoutMux std m = false := by
  unfold choice at h
  split_ifs at h with hskip
  exact ⟨not_not.mp (not_or.mp hskip).1,Bool.not_eq_true _ ▸ (not_or.mp hskip).2⟩

end Choice

section Lines
variable {std : StdText} {codecs : List Codec} {m : MediaDescription} {codec : Codec}

theorem declined_answered (h : choice std codecs m = none) (negotiated : List NegotiatedMedia)
    (sessionAddr : Option Text) (localPort : UInt16) :
    LineAnswered std codecs negotiated m (answerLine std codecs sessionAddr localPort m).1 := by
  have hport := (answerLine_none std codecs h sessionAddr localPort).1
  exact ⟨answerLine_mediaType std codecs sessionAddr localPort m,fun _ => hport,
    fun hne => absurd hport hne⟩

theorem declined_consistent (h : choice std codecs m = none) : Consistent std codecs m := by
  intro haudio hice
  obtain ⟨hrtpmap,hstatic⟩ := choice_none haudio hice h
  rw [hrtpmap, hstatic]
  exact ⟨nofun,fun _ => nofun⟩

/-- A line that is taken is answered as it should be exactly when it is
consistent. -/
theorem taken_answered_iff (h : choice std codecs m = some codec) {sessionAddr : Option Text}
    {localPort : UInt16} (hport : localPort ≠ 0) {negotiated : List NegotiatedMedia}
    (hmem : ∃ n ∈ negotiated, n.codec = codec) :
    LineAnswered std codecs negotiated m (answerLine std codecs sessionAddr localPort m).1 ↔
      Consistent std codecs m := by
  obtain ⟨haudio,hice⟩ := choice_open h
  have htype := answerLine_mediaType std codecs sessionAddr localPort m
  rw [answerLine_some std codecs h] at htype ⊢
  obtain ⟨extra,-,hline⟩ := takenLine_eq m localPort codec
  have htaken : (takenLine m localPort codec).port = localPort ∧
      (takenLine m localPort codec).formats = [u8Text codec.payloadType] := by
    rw [hline]
    exact ⟨rfl,rfl⟩
  have hopen : (takenLine m localPort codec).port ≠ 0 := by rwa [htaken.1]
  have hcodec := answeredCodec_taken m localPort (choice_encoding std codecs h)
  constructor
  · intro hanswered _ _
    have henabled : m.port ≠ 0 := fun hzero => hopen (hanswered.disabled hzero)
    obtain ⟨n,-,-,hformats,hoffered,hmaps,hlocal⟩ := hanswered.accepted hopen
    have hpt : n.codec.payloadType = codec.payloadType := by
      have hsome : u8Of (u8Text n.codec.payloadType) = u8Of (u8Text codec.payloadType) := by
        rw [htaken.2] at hformats
        rw [(List.cons.inj hformats).1]
      simpa using hsome
    rcases choice_cases h with ⟨r,hr,hstates⟩ | ⟨hnone,hstatic,-,-⟩
    · rw [hr]
      refine ⟨?_,nofun⟩
      rintro _ ⟨⟩
      exact ⟨henabled,by rw [hstates.1, ← hpt]; exact hoffered⟩
    · rw [hnone, hstatic]
      refine ⟨nofun,?_⟩
      rintro - _ ⟨⟩
      refine ⟨henabled,?_⟩
      rcases hmaps with ⟨r,hr,hstates⟩ | ⟨hfree,-⟩
      -- an rtpmap of the line that states a local codec would have been chosen
      · rw [← isLocal_states hstates] at hlocal
        exact absurd hlocal (List.find?_eq_none.mp hnone r hr)
      · rwa [hpt] at hfree
  · intro hconsistent
    obtain ⟨hrtpmaps,hstatics⟩ := hconsistent haudio hice
    have hfits : m.port ≠ 0 ∧ codec.payloadType ∈ offered m ∧ Maps m codec ∧
        isLocal std codecs (asRtpmap codec) = true := by
      rcases choice_cases h with ⟨r,hr,hstates⟩ | ⟨hnone,hstatic,htable,hlocal⟩
      · obtain ⟨henabled,hoffered⟩ := hrtpmaps r hr
        exact ⟨henabled,hstates.1 ▸ hoffered,.inl ⟨r,List.mem_of_find?_eq_some hr,hstates⟩,
          (isLocal_states hstates).symm.trans (List.find?_some hr)⟩
      · obtain ⟨henabled,hfree⟩ := hstatics hnone _ hstatic
        exact ⟨henabled,List.mem_of_find?_eq_some hstatic,.inr ⟨hfree,htable⟩,hlocal⟩
    obtain ⟨n,hn,rfl⟩ := hmem
    exact ⟨htype,fun hzero => absurd hzero hfits.1,
      fun _ => ⟨n,hn,hcodec,htaken.2,hfits.2.1,hfits.2.2.1,hfits.2.2.2⟩⟩

theorem portless_answered (negotiated : List NegotiatedMedia) (sessionAddr : Option Text)
    (m : MediaDescription) :
    LineAnswered std codecs negotiated m (answerLine std codecs sessionAddr 0 m).1 := by
  have hport : (answerLine std codecs sessionAddr 0 m).1.port = 0 := by
    cases hchoice : choice std codecs m with
    | none => exact (answerLine_none std codecs hchoice sessionAddr 0).1
    | some codec =>
      obtain ⟨extra,-,hline⟩ := takenLine_eq m 0 codec
      rw [answerLine_some std codecs hchoice, hline]
      rfl
  exact ⟨answerLine_mediaType std codecs sessionAddr 0 m,fun _ => hport,
    fun hne => absurd hport hne⟩

end Lines

/-- The answer to an offer is valid exactly when each line of the offer is
consistent, or the answerer gives no port at all. -/
theorem answer_valid_iff (std : StdText) (codecs : List Codec) (offer answer : SessionDescription)
    (localPort : UInt16) (negotiated : List NegotiatedMedia)
    (h : createAnswer std codecs offer localPort = some (answer,negotiated)) :
    ValidAnswer std codecs offer answer negotiated ↔
      localPort = 0 ∨ ∀ m ∈ offer.media, Consistent std codecs m := by
  obtain ⟨hanswer,hnegotiated⟩ := createAnswer_eq std codecs h
  have hlines : ValidAnswer std codecs offer answer negotiated ↔ ∀ m ∈ offer.media,
      LineAnswered std codecs negotiated m
        (answerLine std codecs (offer.connection.map (·.address)) localPort m).1 := by
    rw [ValidAnswer, hanswer, List.forall₂_map_right_iff, List.forall₂_same]
  rw [hlines]
  by_cases hport : localPort = 0
  · subst hport
    exact iff_of_true (fun m _ => portless_answered negotiated _ m) (.inl rfl)
  rw [or_iff_right hport]
  refine forall₂_congr fun m hm => ?_
  cases hchoice : choice std codecs m with
  | none =>
    exact iff_of_true (declined_answered hchoice negotiated _ localPort)
      (declined_consistent hchoice)
  | some codec =>
    refine taken_answered_iff hchoice hport ?_
    rw [hnegotiated]
    exact ⟨_,List.mem_map_of_mem ((mem_takenLines std codecs).mpr ⟨hm,hchoice⟩),rfl⟩

def disabledOffer : SessionDescription :=
  createOffer [{ createMedia .audio ["0"] [] with port := 0 }]

theorem two_way_answer_valid : ∃ answer negotiated,
    createAnswer asciiText [.pcmu,.pcma] twoWayOffer 7000 = some (answer,negotiated) ∧
      ValidAnswer asciiText [.pcmu,.pcma] twoWayOffer answer negotiated := by
  refine ⟨_,_,rfl,(answer_valid_iff asciiText [.pcmu,.pcma] twoWayOffer _ 7000 _ rfl).mpr
    (.inr ?_)⟩
  decide

/-- A disabled line is answered with a port. -/
theorem disabled_line_answered_open : ∃ answer negotiated,
    createAnswer asciiText [.pcmu] disabledOffer 7000 = some (answer,negotiated) ∧
      answer.media.map (·.port) = [7000] ∧
      ¬ ValidAnswer asciiText [.pcmu] disabledOffer answer negotiated := by
  refine ⟨_,_,rfl,by decide,fun hvalid => ?_⟩
  have hline := (List.forall₂_iff_get.mp hvalid).2 0 (by decide) (by decide)
  exact absurd (hline.disabled (by decide)) (by decide)

end RsipRtp.SdpValidAnswer
