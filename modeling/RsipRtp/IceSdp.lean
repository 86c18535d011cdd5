import RsipRtp.IceAgent
import RsipRtp.Sdp

/-!
# ICE attributes of a media line

The `candidate` attribute in both directions, and the helpers that read and
write ICE attributes and `rtcp-mux` on a media description.
-/

namespace RsipRtp.IceSdp
open SipText StunMessage IceAgent Sdp

section Candidate
variable (std : StdText)

def typeText : CandidateType → Text
  | .host => "host"
  | .serverReflexive => "srflx"
  | .peerReflexive => "prflx"
  | .relay => "relay"

def typeOf (s : Text) : Option CandidateType :=
  if s = "host" then some .host
  else if s = "srflx" then some .serverReflexive
  else if s = "prflx" then some .peerReflexive
  else if s = "relay" then some .relay
  else none

def transportText : Transport → Text
  | .udp => "UDP"
  | .tcp => "TCP"

def transportOf (s : Text) : Option Transport :=
  if std.toUppercase s = "UDP" then some .udp
  else if std.toUppercase s = "TCP" then some .tcp
  else none

/-- The scan for `raddr` and `rport` among the words after the type: the
last complete pair counts, and one that does not parse fails the line. -/
def scanRelated : Option SocketAddr → List Text → Option (Option SocketAddr)
  | related, word::address::key::port::rest =>
    if word = "raddr" ∧ key = "rport" then do
      let ip ← std.parseIp address
      let port ← u16Of port
      scanRelated (some (SocketAddr.new ip port)) rest
    else scanRelated related (address::key::port::rest)
  | related, _ => some related

def fromSdp (s : Text) : Option Candidate :=
  match splitWhitespace s with
  | foundation::component::transport::priority::ip::port::typ::kind::rest => do
    let component ← u8Of component
    let transport ← transportOf std transport
    let priority ← u32Of priority
    let ip ← std.parseIp ip
    let port ← u16Of port
    if typ ≠ "typ" then none
    else
      let candidateType ← typeOf kind
      let relatedAddress ← scanRelated std none rest
      return {
        foundation
        component
        transport
        priority
        address := SocketAddr.new ip port
        candidateType
        relatedAddress }
  | _ => none

def toSdp (c : Candidate) : Text :=
  join [' '] [c.foundation,u8Text c.component,transportText c.transport,u32Text c.priority,
    std.ipText c.address.ip,u16Text c.address.port,"typ",typeText c.candidateType] ++
  (c.relatedAddress.map (fun r => " raddr "++std.ipText r.ip++ " rport " ++
    u16Text r.port)).getD []

end Candidate

section Attributes
variable (std : StdText)

def readCandidates (m : MediaDescription) : List Candidate :=
  (m.attributes.filter (fun a => a.name == "candidate".toList)).filterMap (fun a =>
    a.value.bind (fromSdp std))

def readRtcpMux (m : MediaDescription) : Bool :=
  m.attributes.any (fun a => a.name == "rtcp-mux")

def writeIceCredentials (m : MediaDescription) (ufrag pwd : Text) : MediaDescription :=
  { m with attributes :=
      m.attributes.filter (fun a => a.name != "ice-ufrag".toList && a.name != "ice-pwd".toList) ++
        [⟨"ice-ufrag".toList,some ufrag⟩,⟨"ice-pwd".toList,some pwd⟩] }

def writeCandidates (m : MediaDescription) (cands : List Candidate) : MediaDescription :=
  { m with attributes :=
      m.attributes.filter (fun a => a.name != "candidate".toList) ++
        cands.map (fun c => ⟨"candidate".toList,some (toSdp std c)⟩) }

def writeRtcpMux (m : MediaDescription) : MediaDescription :=
  if readRtcpMux m then m
  else { m with attributes := m.attributes++[⟨"rtcp-mux",none⟩] }

theorem writeRtcpMux_eq (m : MediaDescription) : ∃ extra, (∀ a ∈ extra,
    a.name = "rtcp-mux".toList) ∧ writeRtcpMux m =
      { m with attributes := m.attributes++extra } := by
  unfold writeRtcpMux
  split_ifs
  · exact ⟨[],nofun,by rw [List.append_nil]⟩
  · exact ⟨_,by simp,rfl⟩

def isIpv4 : SocketAddr → Bool
  | .v4 .. => true
  | .v6 .. => false

def defaultCandidate (cand : Candidate) (m : MediaDescription) : MediaDescription :=
  let addrType := if isIpv4 cand.address then "IP4".toList else "IP6".toList
  let address := std.ipText cand.address.ip
  { m with
    port := cand.address.port
    connection := match m.connection with
      | some conn => some { conn with addrType, address }
      | none => some { netType := "IN", addrType, address } }

def applyDefaultCandidate (sdp : SessionDescription) (index : ℕ) (cand : Candidate) :
    SessionDescription :=
  { sdp with media := sdp.media.modify index (defaultCandidate std cand) }

end Attributes

end RsipRtp.IceSdp
