import RsipRtp.Sdp
import RsipRtp.LineFraming

/-!
# The text of a session description

The parser takes a text line by line: a line is a type letter, an equals sign
and a value, and any other line is skipped.
-/

namespace RsipRtp.SdpText
open SipText Sdp LineFraming

inductive SdpParseError where
  | missingVersion
  | invalidVersion
  | missingOrigin
  | invalidOrigin
  | invalidConnection
  | missingTiming
  | invalidTiming
  | invalidMedia
deriving DecidableEq

def u64Of (s : Text) : Option UInt64 := (parseUnsigned (2^64) s).map UInt64.ofNat
def u64Text (n : UInt64) : Text := natText n.toNat

def Origin.parse (value : Text) : Except SdpParseError Origin :=
  match splitWhitespace value with
  | username::sessionId::sessionVersion::netType::addrType::unicastAddress::_ =>
    .ok { username, sessionId, sessionVersion, netType, addrType, unicastAddress }
  | _ => .error .invalidOrigin

def Connection.parse (value : Text) : Except SdpParseError Connection :=
  match splitWhitespace value with
  | netType::addrType::address::_ => .ok { netType, addrType, address }
  | _ => .error .invalidConnection

def Timing.parse (value : Text) : Except SdpParseError Timing :=
  match splitWhitespace value with
  | start::stop::_ => .ok { start := (u64Of start).getD 0, stop := (u64Of stop).getD 0 }
  | _ => .error .invalidTiming

def MediaType.ofText (std : StdText) (s : Text) : MediaType :=
  let name := std.toLowercase s
  if name = "audio" then .audio
  else if name = "video" then .video
  else if name = "application" then .application
  else if name = "message" then .message
  else .other

def parsePorts (s : Text) : Option (UInt16 × Option UInt16) :=
  match splitFirst '/' s with
  | some (p,n) => do
    let port ← u16Of p
    let numPorts ← u16Of n
    return (port,some numPorts)
  | none => (u16Of s).map (·,none)

def MediaDescription.parse (std : StdText) (value : Text) :
    Except SdpParseError MediaDescription :=
  match splitWhitespace value with
  | mediaType::ports::protocol::format::formats =>
    match parsePorts ports with
    | some (port,numPorts) => .ok {
        mediaType := MediaType.ofText std mediaType
        port
        numPorts
        protocol
        formats := format::formats
        connection := none
        bandwidth := ∅
        attributes := [] }
    | none => .error .invalidMedia
  | _ => .error .invalidMedia

def Attribute.parse (value : Text) : Attribute :=
  match splitFirst ':' value with
  | some (name,val) => ⟨name,some val⟩
  | none => ⟨value,none⟩

/-- The variables of `SessionDescription::parse` between two lines. -/
structure Parser where
  version : Option UInt8 := none
  origin : Option Origin := none
  sessionName : Option Text := none
  sessionInfo : Option Text := none
  connection : Option Connection := none
  timing : Option Timing := none
  attributes : List Attribute := []
  media : List MediaDescription := []
  currentMedia : Option MediaDescription := none

def record (line : Text) : Option (Char × Text) :=
  match trim line with
  | typeChar::eq::value => if typeChar.isAlpha && eq == '=' then some (typeChar,value) else none
  | _ => none

def addBandwidth (m : MediaDescription) (value : Text) : MediaDescription :=
  match splitFirst ':' value with
  | some (btype,bw) => { m with bandwidth := m.bandwidth.insert btype ((u32Of bw).getD 0) }
  | none => m

def mediaField (m : MediaDescription) (typeChar : Char) (value : Text) :
    Except SdpParseError MediaDescription :=
  if typeChar = 'c' then
    (Connection.parse value).map (fun c => { m with connection := some c })
  else if typeChar = 'b' then .ok (addBandwidth m value)
  else if typeChar = 'a' then
    .ok { m with attributes := m.attributes++[Attribute.parse value] }
  else .ok m

def sessionField (p : Parser) (typeChar : Char) (value : Text) : Except SdpParseError Parser :=
  if typeChar = 'v' then
    match u8Of value with
    | some v => .ok { p with version := some v }
    | none => .error .invalidVersion
  else if typeChar = 'o' then
    (Origin.parse value).map (fun o => { p with origin := some o })
  else if typeChar = 's' then .ok { p with sessionName := some value }
  else if typeChar = 'i' then .ok { p with sessionInfo := some value }
  else if typeChar = 'c' then
    (Connection.parse value).map (fun c => { p with connection := some c })
  else if typeChar = 't' then
    (Timing.parse value).map (fun t => { p with timing := some t })
  else if typeChar = 'a' then
    .ok { p with attributes := p.attributes++[Attribute.parse value] }
  else .ok p

def Parser.allMedia (p : Parser) : List MediaDescription := p.media++p.currentMedia.toList

def field (std : StdText) (p : Parser) (r : Char × Text) : Except SdpParseError Parser :=
  if r.1 = 'm' then
    (MediaDescription.parse std r.2).map
      (fun m => { p with media := p.allMedia, currentMedia := some m })
  else match p.currentMedia with
    | some m => (mediaField m r.1 r.2).map (fun m => { p with currentMedia := some m })
    | none => sessionField p r.1 r.2

def finish (p : Parser) : Except SdpParseError SessionDescription := do
  let some version := p.version | .error .missingVersion
  let some origin := p.origin | .error .missingOrigin
  let some timing := p.timing | .error .missingTiming
  return {
    version
    origin
    sessionName := p.sessionName.getD "-"
    sessionInfo := p.sessionInfo
    connection := p.connection
    timing
    media := p.allMedia
    attributes := p.attributes }

def records (sdp : Text) : List (Char × Text) := (lines sdp).filterMap record

def parse (std : StdText) (sdp : Text) : Except SdpParseError SessionDescription := do
  let p ← (records sdp).foldlM (field std) {}
  finish p

def Origin.words (o : Origin) : List Text :=
  [o.username,o.sessionId,o.sessionVersion,o.netType,o.addrType,o.unicastAddress]

def Connection.words (c : Connection) : List Text := [c.netType,c.addrType,c.address]

def Timing.words (t : Timing) : List Text := [u64Text t.start,u64Text t.stop]

def MediaType.text : MediaType → Text
  | .audio => "audio"
  | .video => "video"
  | .application => "application"
  | .message => "message"
  | .other => "other"

def MediaDescription.words (m : MediaDescription) : List Text :=
  MediaType.text m.mediaType::u16Text m.port::m.protocol::m.formats

def Attribute.text (a : Attribute) : Text :=
  match a.value with
  | some value => a.name++ ':'::value
  | none => a.name

def attributeLines (attributes : List Attribute) : List (Char × Text) :=
  attributes.map (fun a => ('a',Attribute.text a))

def connectionLine (connection : Option Connection) : List (Char × Text) :=
  (connection.map (fun c => ('c',join [' '] (Connection.words c)))).toList

def sortedBandwidth (m : MediaDescription) : List ((_ : Text) × UInt32) :=
  m.bandwidth.entries.mergeSort (fun a b => decide (utf8 a.1 ≤ utf8 b.1))

def bandwidthLines (entries : List ((_ : Text) × UInt32)) : List (Char × Text) :=
  entries.map (fun e => ('b',e.1++ ':'::u32Text e.2))

def writeMedia (m : MediaDescription) : List (Char × Text) :=
  ('m',join [' '] (MediaDescription.words m))::(connectionLine m.connection ++
    bandwidthLines (sortedBandwidth m)++attributeLines m.attributes)

/-- The lines that `Display` writes for the session itself. -/
def writeSession (s : SessionDescription) : List (Char × Text) :=
  [('v',u8Text s.version),('o',join [' '] (Origin.words s.origin)),('s',s.sessionName)] ++
    (s.sessionInfo.map (fun info => ('i',info))).toList++connectionLine s.connection ++
    [('t',join [' '] (Timing.words s.timing))]++attributeLines s.attributes

def lineText (r : Char × Text) : Text := r.1:: '='::(r.2++['\n'])

def printed (s : SessionDescription) : List (Char × Text) :=
  writeSession s++s.media.flatMap writeMedia

/-- `Display` for a session description. -/
def fmt (s : SessionDescription) : Text := (printed s).flatMap lineText

end RsipRtp.SdpText
