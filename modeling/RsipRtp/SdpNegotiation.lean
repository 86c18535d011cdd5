import RsipRtp.IceSdp

/-!
# Offer and answer

The answerer walks the media lines of an offer: a line is declined or becomes
a line with one codec, and each line it takes adds an entry to what it
negotiated.
-/

namespace RsipRtp.SdpNegotiation
open SipText TextShape Sdp IceSdp

structure Codec where
  payloadType : UInt8
  encoding : Text
  clockRate : UInt32
  channels : UInt8
  fmtp : Option Text
deriving DecidableEq

def Codec.new (pt : UInt8) (encoding : Text) (clockRate : UInt32) : Codec :=
  { payloadType := pt, encoding, clockRate, channels := 1, fmtp := none }

def Codec.pcmu : Codec := Codec.new 0 "PCMU" 8000
def Codec.pcma : Codec := Codec.new 8 "PCMA" 8000
def Codec.g722 : Codec := Codec.new 9 "G722" 8000

def Codec.matches (std : StdText) (c : Codec) (other : RtpMap) : Bool :=
  std.toUppercase c.encoding == std.toUppercase other.encoding && c.clockRate == other.clockRate

def staticCodec (pt : UInt8) : Option Codec :=
  if pt = 0 then some .pcmu
  else if pt = 8 then some .pcma
  else if pt = 9 then some .g722
  else none

structure NegotiatedMedia where
  codec : Codec
  remotePort : UInt16
  remoteAddr : Option Text
  direction : Direction

def swapDirection : Direction → Direction
  | .sendRecv => .sendRecv
  | .sendOnly => .recvOnly
  | .recvOnly => .sendOnly
  | .inactive => .inactive

@[simp] theorem swapDirection_swap (d : Direction) : swapDirection (swapDirection d) = d := by
  cases d <;> rfl

section Answerer
variable (std : StdText) (codecs : List Codec)

def matchRtpmap (m : MediaDescription) : Option Codec :=
  m.rtpmaps.findSome? (fun rtpmap => codecs.findSome? (fun c =>
    if c.matches std rtpmap then some {
      payloadType := rtpmap.payloadType
      encoding := rtpmap.encoding
      clockRate := rtpmap.clockRate
      channels := rtpmap.channels
      fmtp := c.fmtp } else none))

def matchStatic (m : MediaDescription) : Option Codec :=
  m.formats.findSome? (fun fmt => do
    let pt ← u8Of fmt
    let codec ← staticCodec pt
    if codecs.any (fun c => c.matches std ⟨pt,codec.encoding,codec.clockRate,none⟩)
      then some codec else none)

def negotiateMedia (m : MediaDescription) (remoteAddr : Option Text) : Option NegotiatedMedia :=
  ((matchRtpmap std codecs m).or (matchStatic std codecs m)).map (fun codec => {
    codec
    remotePort := m.port
    remoteAddr
    direction := m.direction })

def rtpmapText (codec : Codec) : Text :=
  u8Text codec.payloadType++ ' '::(codec.encoding++ '/'::(u32Text codec.clockRate ++
    if codec.channels > 1 then '/'::u8Text codec.channels else []))

def fmtpAttributes (codec : Codec) : List Attribute :=
  (codec.fmtp.map (fun fmtp =>
    ⟨"fmtp",some (u8Text codec.payloadType++ ' '::fmtp)⟩)).toList

def createMediaAttributes (codec : Codec) (direction : Direction) : List Attribute :=
  ⟨"rtpmap",some (rtpmapText codec)⟩::(fmtpAttributes codec++[⟨direction.name,none⟩])

def remoteAddress (sessionAddr : Option Text) (m : MediaDescription) : Option Text :=
  (m.connection.map (·.address)).or sessionAddr

def iceWithoutMux (m : MediaDescription) : Bool :=
  !(readCandidates std m).isEmpty && !readRtcpMux m

def patchedLine (m : MediaDescription) (localPort : UInt16) (codec : Codec)
    (direction : Direction) : MediaDescription :=
  { m with
    port := localPort
    formats := [u8Text codec.payloadType]
    attributes := createMediaAttributes codec direction }

def takenLine (m : MediaDescription) (localPort : UInt16) (codec : Codec) : MediaDescription :=
  let taken := patchedLine m localPort codec (swapDirection m.direction)
  if readRtcpMux m then writeRtcpMux taken else taken

/-- One turn of the loop in `create_answer`: the line of the answer, and
what the line adds to the negotiated media. -/
def answerLine (sessionAddr : Option Text) (localPort : UInt16) (m : MediaDescription) :
    MediaDescription × Option NegotiatedMedia :=
  if m.mediaType ≠ .audio then ({ m with port := 0 },none)
  else if iceWithoutMux std m then ({ m with port := 0, attributes := [] },none)
  else match negotiateMedia std codecs m (remoteAddress sessionAddr m) with
    | some n => (takenLine m localPort n.codec,
        some { n with direction := swapDirection m.direction })
    | none => ({ m with port := 0 },none)

def createAnswer (offer : SessionDescription) (localPort : UInt16) :
    Option (SessionDescription × List NegotiatedMedia) :=
  let lines := offer.media.map
    (answerLine std codecs (offer.connection.map (·.address)) localPort)
  let negotiated := lines.filterMap (·.2)
  if negotiated.isEmpty then none
  else some ({ offer with media := lines.map (·.1) },negotiated)

end Answerer

def answeredCodec (m : MediaDescription) : Option Codec :=
  match m.rtpmaps.head? with
  | some rtpmap => some {
      payloadType := rtpmap.payloadType
      encoding := rtpmap.encoding
      clockRate := rtpmap.clockRate
      channels := rtpmap.channels
      fmtp := none }
  | none => do
    let fmt ← m.formats.head?
    let pt ← u8Of fmt
    staticCodec pt

def processLine (sessionAddr : Option Text) (m : MediaDescription) : Option NegotiatedMedia :=
  if m.isRejected || m.mediaType ≠ .audio then none
  else (answeredCodec m).map (fun codec => {
    codec
    remotePort := m.port
    remoteAddr := remoteAddress sessionAddr m
    direction := m.direction })

def processAnswer (answer : SessionDescription) : List NegotiatedMedia :=
  answer.media.filterMap (processLine (answer.connection.map (·.address)))

section Choice
variable (std : StdText) (codecs : List Codec)
variable {m : MediaDescription} {codec : Codec}

def choice (m : MediaDescription) : Option Codec :=
  if m.mediaType ≠ .audio ∨ iceWithoutMux std m = true then none
  else (matchRtpmap std codecs m).or (matchStatic std codecs m)

theorem answerLine_some
    (h : choice std codecs m = some codec) (sessionAddr : Option Text) (localPort : UInt16) :
    answerLine std codecs sessionAddr localPort m = (takenLine m localPort codec,
      some ⟨codec,m.port,remoteAddress sessionAddr m,swapDirection m.direction⟩) := by
  unfold choice at h
  split_ifs at h with hskip
  obtain ⟨haudio,hice⟩ := not_or.mp hskip
  rw [answerLine, if_neg haudio, if_neg hice, negotiateMedia, h]
  rfl

theorem answerLine_none (h : choice std codecs m = none)
    (sessionAddr : Option Text) (localPort : UInt16) :
    (answerLine std codecs sessionAddr localPort m).1.port = 0 ∧
      (answerLine std codecs sessionAddr localPort m).2 = none := by
  unfold choice at h
  unfold answerLine
  by_cases haudio : m.mediaType ≠ .audio
  · rw [if_pos haudio]
    exact ⟨rfl,rfl⟩
  by_cases hice : iceWithoutMux std m = true
  · rw [if_neg haudio, if_pos hice]
    exact ⟨rfl,rfl⟩
  rw [if_neg (not_or.mpr ⟨haudio,hice⟩)] at h
  rw [if_neg haudio, if_neg hice, negotiateMedia, h]
  exact ⟨rfl,rfl⟩

theorem choice_audio
    (h : choice std codecs m = some codec) : m.mediaType = .audio := by
  unfold choice at h
  split_ifs at h with hskip
  exact not_not.mp (not_or.mp hskip).1

theorem matchRtpmap_encoding
    (h : matchRtpmap std codecs m = some codec) : Encoding codec.encoding := by
  obtain ⟨rtpmap,hmem,h⟩ := List.exists_of_findSome?_eq_some h
  obtain ⟨c,-,h⟩ := List.exists_of_findSome?_eq_some h
  split_ifs at h
  obtain ⟨a,-,ha⟩ := List.mem_filterMap.mp hmem
  split_ifs at ha
  obtain ⟨value,-,hparse⟩ := Option.bind_eq_some_iff.mp ha
  cases h
  exact RtpMap.parse_encoding hparse

theorem matchStatic_encoding
    (h : matchStatic std codecs m = some codec) : Encoding codec.encoding := by
  obtain ⟨fmt,-,h⟩ := List.exists_of_findSome?_eq_some h
  simp only [Option.bind_eq_bind, Option.bind_eq_some_iff] at h
  obtain ⟨pt,-,c,hc,h⟩ := h
  split_ifs at h
  cases h
  unfold staticCodec at hc
  split_ifs at hc <;> cases hc <;> exact ⟨by decide,by decide,by decide⟩

theorem choice_encoding
    (h : choice std codecs m = some codec) : Encoding codec.encoding := by
  unfold choice at h
  split_ifs at h
  rcases Option.or_eq_some_iff.mp h with h | ⟨-,h⟩
  · exact matchRtpmap_encoding std codecs h
  · exact matchStatic_encoding std codecs h

end Choice

section Written

theorem rtpmapText_params (codec : Codec) (he : Encoding codec.encoding) :
    RtpMap.parse (rtpmapText codec) = some ⟨codec.payloadType,codec.encoding,codec.clockRate,
      if codec.channels > 1 then some (u8Text codec.channels) else none⟩ := by
  have hslash : '/' ∉ u8Text codec.channels := fun h => by cases natText_forall h
  rw [← RtpMap.parse_text codec.payloadType he codec.clockRate]
  · rw [rtpmapText]
    split_ifs <;> rfl
  · intro p hp
    split_ifs at hp <;> cases hp
    exact hslash

variable {m : MediaDescription} {codec : Codec} {d : Direction} {extra : List Attribute}

theorem rtpmaps_written (he : Encoding codec.encoding)
    (h : m.attributes = createMediaAttributes codec d++extra) :
    m.rtpmaps.head? = RtpMap.parse (rtpmapText codec) := by
  have hparse := rtpmapText_params codec he
  rw [MediaDescription.rtpmaps, h, createMediaAttributes, List.cons_append, hparse,
    List.filterMap_cons_some, List.head?_cons]
  exact (if_pos rfl).trans hparse

theorem direction_written (h : m.attributes = createMediaAttributes codec d++extra) :
    m.direction = d := by
  have hrtpmap : Direction.ofName ['r','t','p','m','a','p'] = none := by decide
  have hfmtp : Direction.ofName ['f','m','t','p'] = none := by decide
  rw [MediaDescription.direction, h, createMediaAttributes, fmtpAttributes]
  cases codec.fmtp with
  | none => simp [hrtpmap]
  | some f => simp [hrtpmap, hfmtp]

end Written

section Taken
variable (m : MediaDescription) (localPort : UInt16) (codec : Codec)

theorem takenLine_eq : ∃ extra, (∀ a ∈ extra, a.name = "rtcp-mux".toList) ∧
    takenLine m localPort codec = { patchedLine m localPort codec (swapDirection m.direction) with
      attributes := createMediaAttributes codec (swapDirection m.direction)++extra } := by
  simp only [takenLine]
  split_ifs
  · exact writeRtcpMux_eq (patchedLine m localPort codec (swapDirection m.direction))
  · exact ⟨[],nofun,by rw [List.append_nil]; rfl⟩

end Taken

section Lines
variable (std : StdText) (codecs : List Codec)

theorem answerLine_mediaType (sessionAddr : Option Text) (localPort : UInt16)
    (m : MediaDescription) :
    (answerLine std codecs sessionAddr localPort m).1.mediaType = m.mediaType := by
  unfold answerLine
  split_ifs
  · rfl
  · rfl
  · cases negotiateMedia std codecs m (remoteAddress sessionAddr m) with
    | none => rfl
    | some n =>
      obtain ⟨extra,-,hline⟩ := takenLine_eq m localPort n.codec
      change (takenLine m localPort n.codec).mediaType = m.mediaType
      rw [hline]
      rfl

def takenLines (offer : SessionDescription) : List (MediaDescription × Codec) :=
  offer.media.filterMap (fun m => (choice std codecs m).map (m,·))

theorem mem_takenLines {offer : SessionDescription} {m : MediaDescription} {codec : Codec} :
    (m,codec) ∈ takenLines std codecs offer ↔
      m ∈ offer.media ∧ choice std codecs m = some codec := by
  simp only [takenLines, List.mem_filterMap, Option.map_eq_some_iff, Prod.mk.injEq]
  constructor
  · rintro ⟨m',hmem,codec',hchoice,rfl,rfl⟩
    exact ⟨hmem,hchoice⟩
  · rintro ⟨hmem,hchoice⟩
    exact ⟨m,hmem,codec,hchoice,rfl,rfl⟩

theorem negotiated_eq (offer : SessionDescription) (sessionAddr : Option Text)
    (localPort : UInt16) :
    (offer.media.map (answerLine std codecs sessionAddr localPort)).filterMap (·.2) =
      (takenLines std codecs offer).map (fun line => ⟨line.2,line.1.port,
        remoteAddress sessionAddr line.1,swapDirection line.1.direction⟩) := by
  rw [List.filterMap_map, takenLines, List.map_filterMap]
  refine List.filterMap_congr fun m _ => ?_
  cases hchoice : choice std codecs m with
  | none => simpa using (answerLine_none std codecs hchoice sessionAddr localPort).2
  | some codec => simp [answerLine_some std codecs hchoice]

theorem createAnswer_eq {offer answer : SessionDescription} {localPort : UInt16}
    {negotiated : List NegotiatedMedia}
    (h : createAnswer std codecs offer localPort = some (answer,negotiated)) :
    answer = { offer with media := offer.media.map (fun m =>
      (answerLine std codecs (offer.connection.map (·.address)) localPort m).1) } ∧
    negotiated = (takenLines std codecs offer).map (fun line => ⟨line.2,line.1.port,
      remoteAddress (offer.connection.map (·.address)) line.1,
      swapDirection line.1.direction⟩) := by
  simp only [createAnswer] at h
  split_ifs at h
  cases h
  exact ⟨by rw [List.map_map]; rfl,negotiated_eq std codecs offer _ localPort⟩

end Lines

end RsipRtp.SdpNegotiation
