import RsipRtp.FiniteMap
import RsipRtp.TextShape
import RsipRtp.StunMessage

/-!
# Session descriptions

The description a parsed SDP body becomes, and what its accessors read from
the attributes of a media line.
-/

namespace RsipRtp.Sdp
open SipText TextShape StunMessage
open FiniteMap (Map)

structure StdText where
  toUppercase : Text → Text
  toLowercase : Text → Text
  parseIp : Text → Option IpAddr
  ipText : IpAddr → Text

/-- On ASCII text `to_lowercase` lowers the ASCII letters. -/
def LowersAscii (std : StdText) : Prop :=
  ∀ s : Text, (∀ c ∈ s, c.toNat < 128) → std.toLowercase s = toAsciiLowercase s

/-- What `str::to_lowercase` is known to do: it goes through a text character
by character, ASCII letters have their ASCII lower case, and of the other
characters only the Kelvin sign and the dotted capital I have an ASCII letter
in theirs. -/
def LowersByChar (std : StdText) : Prop :=
  ∀ s : Text, ∃ images : List Text, std.toLowercase s = images.flatten ∧
    List.Forall₂ (fun c image => (c.toNat < 128 → image = [c.toLower]) ∧
      (128 ≤ c.toNat → image ≠ [] ∧ ∀ d ∈ image, d.toNat < 128 → d = 'k' ∨ d = 'i')) s images

def u8Of (s : Text) : Option UInt8 := (parseUnsigned (2^8) s).map UInt8.ofNat
def u16Of (s : Text) : Option UInt16 := (parseU16 s).map UInt16.ofNat
def u32Of (s : Text) : Option UInt32 := (parseU32 s).map UInt32.ofNat

def u8Text (n : UInt8) : Text := natText n.toNat
def u16Text (n : UInt16) : Text := natText n.toNat
def u32Text (n : UInt32) : Text := natText n.toNat

@[simp] theorem u8Of_text (n : UInt8) : u8Of (u8Text n) = some n := by
  rw [u8Of, u8Text, parseUnsigned_natText n.toNat_lt, Option.map_some, UInt8.ofNat_toNat]

@[simp] theorem u32Of_text (n : UInt32) : u32Of (u32Text n) = some n := by
  rw [u32Of, u32Text, parseU32, parseUnsigned_natText n.toNat_lt, Option.map_some,
    UInt32.ofNat_toNat]

structure Origin where
  username : Text
  sessionId : Text
  sessionVersion : Text
  netType : Text
  addrType : Text
  unicastAddress : Text
deriving DecidableEq

structure Connection where
  netType : Text
  addrType : Text
  address : Text
deriving DecidableEq

structure Timing where
  start : UInt64
  stop : UInt64
deriving DecidableEq

inductive MediaType where
  | audio
  | video
  | application
  | message
  | other
deriving DecidableEq

inductive Direction where
  | sendRecv
  | sendOnly
  | recvOnly
  | inactive
deriving DecidableEq

structure Attribute where
  name : Text
  value : Option Text
deriving DecidableEq

structure MediaDescription where
  mediaType : MediaType
  port : UInt16
  numPorts : Option UInt16
  protocol : Text
  formats : List Text
  connection : Option Connection
  bandwidth : Map Text UInt32
  attributes : List Attribute
deriving DecidableEq

structure SessionDescription where
  version : UInt8
  origin : Origin
  sessionName : Text
  sessionInfo : Option Text
  connection : Option Connection
  timing : Timing
  media : List MediaDescription
  attributes : List Attribute
deriving DecidableEq

structure RtpMap where
  payloadType : UInt8
  encoding : Text
  clockRate : UInt32
  params : Option Text

def Direction.name : Direction → Text
  | .sendRecv => "sendrecv"
  | .sendOnly => "sendonly"
  | .recvOnly => "recvonly"
  | .inactive => "inactive"

def Direction.ofName (name : Text) : Option Direction :=
  if name = "sendrecv" then some .sendRecv
  else if name = "sendonly" then some .sendOnly
  else if name = "recvonly" then some .recvOnly
  else if name = "inactive" then some .inactive
  else none

@[simp] theorem Direction.ofName_name (d : Direction) : Direction.ofName d.name = some d := by
  cases d <;> decide

/-- The first attribute that states a direction counts, and none means
both ways. -/
def MediaDescription.direction (m : MediaDescription) : Direction :=
  (m.attributes.findSome? (fun a => Direction.ofName a.name)).getD .sendRecv

def RtpMap.parse (value : Text) : Option RtpMap := do
  let (ptStr,rest) ← splitFirst ' ' value
  let payloadType ← u8Of ptStr
  let parts := rest.splitOn '/'
  let encoding ← (parts.head?.map trim).filter (fun part => !part.isEmpty)
  return {
    payloadType
    encoding
    clockRate := (parts[1]?.bind u32Of).getD 8000
    params := parts[2]? }

def RtpMap.channels (r : RtpMap) : UInt8 := (r.params.bind u8Of).getD 1

def MediaDescription.rtpmaps (m : MediaDescription) : List RtpMap :=
  m.attributes.filterMap (fun a =>
    if a.name = "rtpmap".toList then a.value.bind RtpMap.parse else none)

def MediaDescription.isRejected (m : MediaDescription) : Bool := m.port == 0

structure Encoding (s : Text) : Prop where
  ne : s ≠ []
  trimmed : trim s = s
  slash : '/' ∉ s

theorem RtpMap.parse_encoding {value : Text} {r : RtpMap} (h : RtpMap.parse value = some r) :
    Encoding r.encoding := by
  simp only [RtpMap.parse, Option.bind_eq_bind, Option.bind_eq_some_iff, Option.filter_eq_some_iff,
    Option.map_eq_some_iff, Option.pure_def, Option.some.injEq] at h
  obtain ⟨⟨ptStr,rest⟩,-,pt,-,e,⟨⟨part,hpart,rfl⟩,hne⟩,rfl⟩ := h
  have hmem : part ∈ rest.splitOn '/' := List.mem_of_head? hpart
  refine ⟨by simpa using hne,trim_trim part,fun hslash => ?_⟩
  have hpart := splitOnP_forall hmem '/' (mem_of_mem_trim hslash)
  simp at hpart

theorem beq_slash {s : Text} (h : '/' ∉ s) : ∀ c ∈ s, (c == '/') = false := by
  intro c hc
  refine beq_eq_false_iff_ne.mpr ?_
  rintro rfl
  exact h hc

theorem RtpMap.parse_text (pt : UInt8) {encoding : Text} (he : Encoding encoding)
    (rate : UInt32) (params : Option Text) (hp : ∀ p ∈ params, '/' ∉ p) :
    RtpMap.parse (u8Text pt++ ' '::(encoding++ '/'::(u32Text rate ++
      (params.map ('/'::·)).getD []))) = some ⟨pt,encoding,rate,params⟩ := by
  have hpt : ' ' ∉ u8Text pt := fun h => by cases natText_forall h
  have hrate : '/' ∉ u32Text rate := fun h => by cases natText_forall h
  have hparts : (encoding++ '/'::(u32Text rate++(params.map ('/'::·)).getD [])).splitOn '/' =
      encoding::u32Text rate::params.toList := by
    rw [List.splitOn, List.splitOnP_append_cons _ _ rfl,
      List.splitOnP_eq_singleton (beq_slash he.slash)]
    cases params with
    | none => simp [List.splitOnP_eq_singleton (beq_slash hrate)]
    | some p =>
      rw [Option.map_some, Option.getD_some, List.splitOnP_append_cons _ _ rfl,
        List.splitOnP_eq_singleton (beq_slash hrate),
        List.splitOnP_eq_singleton (beq_slash (hp p rfl))]
      rfl
  simp only [RtpMap.parse, splitFirst_append hpt, Option.bind_eq_bind, Option.bind_some, u8Of_text,
    hparts, List.head?_cons, Option.map_some, he.trimmed]
  cases params <;> simp [Option.filter, he.ne]

end RsipRtp.Sdp
