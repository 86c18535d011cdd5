import RsipRtp.SipHeader

/-!
# SIP messages

A request carries the proof that its Request-URI parses. The framing layer
checks this before it stores a request, and `uri` relies on it.
-/

namespace RsipRtp.SipMessage
open SipText Uri SipHeader

structure Request where
  method : Method
  uri : Text
  version : Text
  headers : Headers
  body : Bytes
deriving DecidableEq

structure Response where
  version : Text
  statusCode : ℕ
  reason : Text
  headers : Headers
  body : Bytes
deriving DecidableEq

def crlf : Text := ['\r','\n']

/-- A `Content-Length` header is written with the length of the body at hand. -/
def writeHeader (bodyLen : ℕ) : Header → Bytes
  | .contentLength _ => utf8 ("Content-Length: "++natText bodyLen++crlf)
  | h => utf8 (h.name++ ": "++h.value++crlf)

def Request.toBytes (r : Request) : Bytes :=
  utf8 (r.method.asStr++ ' '::r.uri++ ' '::r.version++crlf)++
    r.headers.inner.flatMap (writeHeader r.body.length)++utf8 crlf++r.body

def Response.toBytes (r : Response) : Bytes :=
  utf8 (r.version++ ' '::natText r.statusCode++ ' '::r.reason++crlf)++
    r.headers.inner.flatMap (writeHeader r.body.length)++utf8 crlf++r.body

structure SipRequest where
  inner : Request
  uri_parses : (ok (RsipRtp.Uri.parse inner.uri)).isSome
deriving DecidableEq

structure SipResponse where
  inner : Response
deriving DecidableEq

inductive Message where
  | request (r : SipRequest)
  | response (r : SipResponse)
deriving DecidableEq

def firstValue (hs : Headers) (name : Text) : Except SipError Text :=
  match hs.getFirst name with
  | some h => .ok h.value
  | none => .error (.missingHeader name)

def asParse {α : Type} : Except SipError α → Except SipError α
  | .error e => .error (.parse e.display)
  | .ok a => .ok a

def viaBranch (hs : Headers) : Except SipError Text := do
  let via ← asParse (parseTypedVia (← firstValue hs "Via"))
  match via.branch with
  | some b => return b
  | none => throw (.invalidHeader "Via header missing branch")

def fromTagAndUri (hs : Headers) : Except SipError (Text × SipUri) := do
  let addr ← asParse (parseNameAddr (← firstValue hs "From"))
  match addr.tag with
  | some t => return (t,addr.uri)
  | none => throw (.invalidHeader "From header missing tag")

def typedCSeq (hs : Headers) : Except SipError CSeq := do
  asParse (parseCSeq (← firstValue hs "CSeq"))

def findOtherHeader (hs : Headers) (name : Text) : Option Text :=
  hs.inner.findSome? fun
    | .other key value => if eqIgnoreAsciiCase key name then some (trim value) else none
    | _ => none

def toTag (hs : Headers) : Option Text := do
  let addr ← ok (parseNameAddr (← (hs.getFirst "To").map Header.value))
  addr.tag

def contactUri (hs : Headers) : Option SipUri := do
  match ← ok (parseContact (← (hs.getFirst "Contact").map Header.value)) with
  | .wildcard _ => none
  | .addr a => a.uri

def recordRoutes (hs : Headers) : List Text :=
  hs.inner.filterMap fun
    | .recordRoute v => some v
    | _ => none

def SipRequest.method (r : SipRequest) : Method := r.inner.method

def SipRequest.uri (r : SipRequest) : SipUri :=
    (ok (RsipRtp.Uri.parse r.inner.uri)).get r.uri_parses

def SipRequest.callId (r : SipRequest) : Except SipError Text :=
  firstValue r.inner.headers "Call-ID"

def SipRequest.viaBranch (r : SipRequest) : Except SipError Text :=
  RsipRtp.SipMessage.viaBranch r.inner.headers

def SipRequest.fromTagAndUri (r : SipRequest) : Except SipError (Text × SipUri) :=
  RsipRtp.SipMessage.fromTagAndUri r.inner.headers

def SipRequest.fromTag (r : SipRequest) : Except SipError Text := r.fromTagAndUri.map Prod.fst

def SipRequest.toUri (r : SipRequest) : Except SipError SipUri := do
  let addr ← asParse (parseNameAddr (← firstValue r.inner.headers "To"))
  return addr.uri

def SipRequest.cseq (r : SipRequest) : Except SipError ℕ :=
  (typedCSeq r.inner.headers).map CSeq.seq

def SipRequest.cseqMethod (r : SipRequest) : Except SipError Method :=
  (typedCSeq r.inner.headers).map CSeq.method

def SipRequest.toTag (r : SipRequest) : Option Text := RsipRtp.SipMessage.toTag r.inner.headers

def SipRequest.fromUri (r : SipRequest) : Except SipError SipUri := do
  let addr ← asParse (parseNameAddr (← firstValue r.inner.headers "From"))
  return addr.uri

def SipRequest.contactUri (r : SipRequest) : Option SipUri :=
  RsipRtp.SipMessage.contactUri r.inner.headers

def SipRequest.recordRoutes (r : SipRequest) : List Text :=
  RsipRtp.SipMessage.recordRoutes r.inner.headers

def SipRequest.rack (r : SipRequest) : Option RAck :=
  (findOtherHeader r.inner.headers "RAck").bind (fun v => ok (parseRAck v))

def SipRequest.viaHeadersRaw (r : SipRequest) : List Text :=
  r.inner.headers.inner.filterMap fun
    | .via v => some v
    | _ => none

def SipRequest.toBytes (r : SipRequest) : Bytes := r.inner.toBytes

def SipResponse.statusCode (r : SipResponse) : ℕ := r.inner.statusCode

def SipResponse.viaBranch (r : SipResponse) : Except SipError Text :=
  RsipRtp.SipMessage.viaBranch r.inner.headers

def SipResponse.cseqMethod (r : SipResponse) : Except SipError Method :=
  (typedCSeq r.inner.headers).map CSeq.method

def SipResponse.callId (r : SipResponse) : Except SipError Text :=
  firstValue r.inner.headers "Call-ID"

def SipResponse.fromTag (r : SipResponse) : Except SipError Text :=
  (RsipRtp.SipMessage.fromTagAndUri r.inner.headers).map Prod.fst

def SipResponse.toTag (r : SipResponse) : Option Text := RsipRtp.SipMessage.toTag r.inner.headers

def SipResponse.cseq (r : SipResponse) : Except SipError ℕ :=
  (typedCSeq r.inner.headers).map CSeq.seq

def SipResponse.contactUri (r : SipResponse) : Option SipUri :=
  RsipRtp.SipMessage.contactUri r.inner.headers

def SipResponse.recordRoutes (r : SipResponse) : List Text :=
  RsipRtp.SipMessage.recordRoutes r.inner.headers

def SipResponse.viaHeadersRaw (r : SipResponse) : List Text :=
  r.inner.headers.inner.filterMap fun
    | .via v => some v
    | _ => none

def SipResponse.rseq (r : SipResponse) : Option ℕ :=
  (findOtherHeader r.inner.headers "RSeq").bind (fun v => ok (parseRSeq v))

def SipResponse.toBytes (r : SipResponse) : Bytes := r.inner.toBytes

inductive Refresher where
  | uac
  | uas
deriving DecidableEq

def Refresher.display : Refresher → Text
  | .uac => "uac"
  | .uas => "uas"

structure SessionExpires where
  deltaSeconds : ℕ
  refresher : Option Refresher
deriving DecidableEq

def SessionExpires.toHeaderValue (s : SessionExpires) : Text :=
  match s.refresher with
  | some r => natText s.deltaSeconds++ ";refresher="++r.display
  | none => natText s.deltaSeconds

/-- The fields of the request builder. A URI setter keeps either the parsed
URI or the text of its error, which `build` then reports first. -/
structure SipRequestBuilder where
  method : Option Method := none
  uri : Option SipUri := none
  uriError : Option Text := none
  viaBranch : Option Text := none
  viaHost : Option Text := none
  viaPort : Option ℕ := none
  viaTransport : Option Text := none
  fromUri : Option SipUri := none
  fromUriError : Option Text := none
  fromTag : Option Text := none
  fromDisplay : Option Text := none
  toUri : Option SipUri := none
  toUriError : Option Text := none
  toTag : Option Text := none
  callId : Option Text := none
  cseq : Option ℕ := none
  contactUri : Option SipUri := none
  maxForwards : Option ℕ := none
  body : Option Bytes := none
  contentType : Option Text := none
  authorization : Option Text := none
  proxyAuthorization : Option Text := none
  expires : Option ℕ := none
  require : Option (List Text) := none
  supported : Option (List Text) := none
  sessionExpires : Option SessionExpires := none
  minSe : Option ℕ := none
  rack : Option RAck := none
  allow : Option (List Method) := none
  routes : Option (List Text) := none
  otherHeaders : List (Text × Text) := []

namespace SipRequestBuilder

def uriMessage (what uri : Text) (e : SipError) : Text :=
  "Invalid "++what++ " URI '"++uri++ "': "++e.display

def setUri (b : SipRequestBuilder) (uri : Text) : SipRequestBuilder :=
  match RsipRtp.Uri.parse uri with
  | .ok u => { b with uri := some u, uriError := none }
  | .error e => { b with uriError := some (uriMessage "request" uri e) }

def setVia (b : SipRequestBuilder) (host : Text) (port : ℕ) (transport branch : Text) :
    SipRequestBuilder :=
  { b with viaHost := some host, viaPort := some port, viaTransport := some transport,
           viaBranch := some branch }

def setFrom (b : SipRequestBuilder) (uri tag : Text) : SipRequestBuilder :=
  match RsipRtp.Uri.parse uri with
  | .ok u => { b with fromUri := some u, fromUriError := none, fromTag := some tag }
  | .error e => { b with fromUriError := some (uriMessage "From" uri e), fromTag := some tag }

def setTo (b : SipRequestBuilder) (uri : Text) : SipRequestBuilder :=
  match RsipRtp.Uri.parse uri with
  | .ok u => { b with toUri := some u, toUriError := none }
  | .error e => { b with toUriError := some (uriMessage "To" uri e) }

def setContact (b : SipRequestBuilder) (uri : Text) : SipRequestBuilder :=
  match RsipRtp.Uri.parse uri with
  | .ok u => { b with contactUri := some u }
  | .error _ => b

def setRoute (b : SipRequestBuilder) (routes : List Text) : SipRequestBuilder :=
  { b with routes := if routes.isEmpty then none else some routes }

def required {α : Type} (what : Text) : Option α → Except SipError α
  | some a => .ok a
  | none => .error (.invalidHeader ("Missing "++what))

def noError : Option Text → Except SipError Unit
  | some e => .error (.invalidHeader e)
  | none => .ok ()

def angle (u : SipUri) : Text := '<'::display u++ ['>']

/-- The optional headers, in the order in which `build` writes them. -/
def optionalHeaders (b : SipRequestBuilder) : List Header :=
  (b.contactUri.map (fun u => Header.contact (angle u))).toList++
  (b.authorization.map Header.authorization).toList++
  (b.proxyAuthorization.map Header.proxyAuthorization).toList++
  (b.expires.map (fun n => Header.expires (natText n))).toList++
  (b.require.map (fun ts => Header.require (join ", " ts))).toList++
  (b.supported.map (fun ts => Header.supported (join ", " ts))).toList++
  (b.sessionExpires.map (fun s => Header.other "Session-Expires" s.toHeaderValue)).toList++
  (b.minSe.map (fun n => Header.other "Min-SE" (natText n))).toList++
  (b.rack.map (fun r => Header.other "RAck" r.toHeaderValue)).toList++
  (b.allow.map (fun ms => Header.allow (join ", " (ms.map Method.asStr)))).toList++
  (b.routes.getD []).map Header.route++
  b.otherHeaders.map (fun h => Header.other h.1 h.2)

def pushChecked (hs : Headers) (h : Header) : Except SipError Headers :=
  match hs.push h with
  | .ok hs => .ok hs
  | .error e => .error (.invalidHeader e.display)

def build (b : SipRequestBuilder) : Except SipError Request := do
  noError b.uriError
  noError b.fromUriError
  noError b.toUriError
  let method ← required "method" b.method
  let uri ← required "request URI" b.uri
  let fromUri ← required "From URI" b.fromUri
  let fromTag ← required "From tag" b.fromTag
  let toUri ← required "To URI" b.toUri
  let callId ← required "Call-ID" b.callId
  let cseq ← required "CSeq" b.cseq
  let viaHost ← required "Via host" b.viaHost
  let viaBranch ← required "Via branch" b.viaBranch
  let via := "SIP/2.0/"++b.viaTransport.getD "UDP"++ ' '::viaHost++
    ':'::natText (b.viaPort.getD 5060)++ ";branch="++viaBranch
  let from_ := match b.fromDisplay with
    | some d => '"'::d++ "\" "++angle fromUri++ ";tag="++fromTag
    | none => angle fromUri++ ";tag="++fromTag
  let to_ := match b.toTag with
    | some tag => angle toUri++ ";tag="++tag
    | none => angle toUri
  let body := b.body.getD []
  let contentType := if body.isEmpty then [] else (b.contentType.map Header.contentType).toList
  let headers ← ([Header.via via,.from from_,.to to_,.callId callId,
      .cseq (natText cseq++ ' '::method.asStr),
      .maxForwards (natText (b.maxForwards.getD 70))]++optionalHeaders b++contentType++
      [Header.contentLength (natText body.length)]).foldlM pushChecked Headers.empty
  return { method, uri := display uri, version := "SIP/2.0", headers, body }

end SipRequestBuilder

def reasonPhrase : ℕ → Text
  | 100 => "Trying"
  | 180 => "Ringing"
  | 181 => "Call Is Being Forwarded"
  | 182 => "Queued"
  | 183 => "Session Progress"
  | 200 => "OK"
  | 202 => "Accepted"
  | 300 => "Multiple Choices"
  | 301 => "Moved Permanently"
  | 302 => "Moved Temporarily"
  | 305 => "Use Proxy"
  | 380 => "Alternative Service"
  | 400 => "Bad Request"
  | 401 => "Unauthorized"
  | 402 => "Payment Required"
  | 403 => "Forbidden"
  | 404 => "Not Found"
  | 405 => "Method Not Allowed"
  | 406 => "Not Acceptable"
  | 407 => "Proxy Authentication Required"
  | 408 => "Request Timeout"
  | 410 => "Gone"
  | 413 => "Request Entity Too Large"
  | 414 => "Request-URI Too Long"
  | 415 => "Unsupported Media Type"
  | 416 => "Unsupported URI Scheme"
  | 420 => "Bad Extension"
  | 421 => "Extension Required"
  | 423 => "Interval Too Brief"
  | 480 => "Temporarily Unavailable"
  | 481 => "Call/Transaction Does Not Exist"
  | 482 => "Loop Detected"
  | 483 => "Too Many Hops"
  | 484 => "Address Incomplete"
  | 485 => "Ambiguous"
  | 486 => "Busy Here"
  | 487 => "Request Terminated"
  | 488 => "Not Acceptable Here"
  | 491 => "Request Pending"
  | 493 => "Undecipherable"
  | 500 => "Server Internal Error"
  | 501 => "Not Implemented"
  | 502 => "Bad Gateway"
  | 503 => "Service Unavailable"
  | 504 => "Server Time-out"
  | 505 => "Version Not Supported"
  | 513 => "Message Too Large"
  | 600 => "Busy Everywhere"
  | 603 => "Decline"
  | 604 => "Does Not Exist Anywhere"
  | 606 => "Not Acceptable"
  | _ => "Unknown"

/-- The fields of the response builder. Its headers are kept as the texts they
have in the request that is answered. -/
structure SipResponseBuilder where
  statusCode : Option ℕ := none
  reason : Option Text := none
  via : List Text := []
  fromValue : Option Text := none
  toValue : Option Text := none
  callId : Option Text := none
  cseq : Option Text := none
  contactUri : Option SipUri := none
  body : Option Bytes := none
  contentType : Option Text := none
  require : Option (List Text) := none
  supported : Option (List Text) := none
  sessionExpires : Option SessionExpires := none
  minSe : Option ℕ := none
  rseq : Option ℕ := none
  allow : Option (List Method) := none

namespace SipResponseBuilder

def status (b : SipResponseBuilder) (code : ℕ) (reason : Text) : SipResponseBuilder :=
  { b with statusCode := some code, reason := some reason }

def firstFrom : Header → Option Text
  | .from v => some v
  | _ => none

def firstTo : Header → Option Text
  | .to v => some v
  | _ => none

def firstCallId : Header → Option Text
  | .callId v => some v
  | _ => none

def firstCSeq : Header → Option Text
  | .cseq v => some v
  | _ => none

def mirrorCSeq (req : SipRequest) (raw : Text) : Text :=
  match ok req.cseq, ok req.cseqMethod with
  | some seq, some method => natText seq++ ' '::method.asStr
  | _, _ => raw

def fromRequest (b : SipResponseBuilder) (req : SipRequest) : SipResponseBuilder :=
  let hs := req.inner.headers.inner
  { b with
    via := b.via++req.viaHeadersRaw
    fromValue := (hs.findSome? firstFrom).or b.fromValue
    toValue := (hs.findSome? firstTo).or b.toValue
    callId := (hs.findSome? firstCallId).or b.callId
    cseq := ((hs.findSome? firstCSeq).map (mirrorCSeq req)).or b.cseq }

/-- The tag is appended unless the text `tag=` occurs anywhere in the value. -/
def setToTag (b : SipResponseBuilder) (tag : Text) : SipResponseBuilder :=
  match b.toValue with
  | some value =>
    if "tag=" <:+: value then b
    else { b with toValue := some (value++ ";tag="++tag) }
  | none => b

def otherHeaders (b : SipResponseBuilder) : List Header :=
  let body := b.body.getD []
  (b.contactUri.map (fun u => Header.contact (SipRequestBuilder.angle u))).toList++
  (b.require.map (fun ts => Header.require (join ", " ts))).toList++
  (b.supported.map (fun ts => Header.supported (join ", " ts))).toList++
  (b.sessionExpires.map (fun s => Header.other "Session-Expires" s.toHeaderValue)).toList++
  (b.minSe.map (fun n => Header.other "Min-SE" (natText n))).toList++
  (b.rseq.map (fun n => Header.other "RSeq" (natText n))).toList++
  (b.allow.map (fun ms => Header.allow (join ", " (ms.map Method.asStr)))).toList++
  (if body.isEmpty then [] else (b.contentType.map Header.contentType).toList)++
  [Header.contentLength (natText body.length)]

def headerList (b : SipResponseBuilder) : List Header :=
  b.via.map Header.via++(b.fromValue.map Header.from).toList++
  (b.toValue.map Header.to).toList++(b.callId.map Header.callId).toList++
  (b.cseq.map Header.cseq).toList++b.otherHeaders

def build (b : SipResponseBuilder) : Except SipError SipResponse := do
  let statusCode ← SipRequestBuilder.required "status code" b.statusCode
  let headers ← b.headerList.foldlM SipRequestBuilder.pushChecked Headers.empty
  return ⟨{ version := "SIP/2.0", statusCode,
            reason := b.reason.getD (reasonPhrase statusCode), headers,
            body := b.body.getD [] }⟩

end SipResponseBuilder

def createRequest (method : Method) (branch : Text) : SipRequest where
  inner :=
    { method, uri := "sip:bob@example.com", version := "SIP/2.0"
      headers := ⟨[.via ("SIP/2.0/UDP 192.168.1.1:5060;branch="++branch),
        .from "<sip:alice@example.com>;tag=fromtag",.to "<sip:bob@example.com>",
        .callId "test@example.com",.cseq ("1 "++method.asStr),
        .maxForwards "70",.contentLength "0"],by simp [maxHeaders]⟩
      body := [] }
  uri_parses := by
    change (ok (RsipRtp.Uri.parse "sip:bob@example.com")).isSome
    decide +kernel

/-- The response of the source's own tests, to a request of a given method. -/
def createResponse (method : Method) (branch : Text) (code : ℕ) : SipResponse where
  inner :=
    { version := "SIP/2.0", statusCode := code, reason := "Test"
      headers := ⟨[.via ("SIP/2.0/UDP 192.168.1.1:5060;branch="++branch),
        .from "<sip:alice@example.com>;tag=fromtag",
        .to "<sip:bob@example.com>;tag=totag",
        .callId "test@example.com",.cseq ("1 "++method.asStr),
        .contentLength "0"],by simp [maxHeaders]⟩
      body := [] }

def testBranch : Text := "z9hG4bKtest"

end RsipRtp.SipMessage
