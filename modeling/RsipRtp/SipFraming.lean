import RsipRtp.LineFraming
import RsipRtp.SipMessage
import RsipRtp.Utf8

/-!
# Framing and parsing of SIP messages

A message is cut at the first blank line, its head is read as text, the start
line is taken off, and the lines of the header block are unfolded and
recognised one by one.
-/

namespace RsipRtp.SipFraming
open SipText SipHeader LineFraming Utf8
open SipMessage hiding Message

def maxHeaderValueLen : ℕ := 8192
def maxStartLineLen : ℕ := 4096
def maxFoldLinesPerHeader : ℕ := 32

def longNames : List (Text × (Text → Header)) :=
  [("allow",.allow),("authorization",.authorization),("cseq",.cseq),
    ("call-id",.callId),("contact",.contact),
    ("content-length",.contentLength),("content-type",.contentType),
    ("expires",.expires),("from",.from),("max-forwards",.maxForwards),
    ("proxy-authenticate",.proxyAuthenticate),
    ("proxy-authorization",.proxyAuthorization),("record-route",.recordRoute),
    ("require",.require),("route",.route),("supported",.supported),
    ("to",.to),("via",.via),("www-authenticate",.wwwAuthenticate)]

def matchLongName (resolved otherName value : Text) : Header :=
  match longNames.find? (fun e => e.1 == toAsciiLowercase resolved) with
  | some e => e.2 value
  | none => .other otherName value

def buildHeader (rawName value : Text) : Header :=
  let resolved := resolveName rawName
  let trimmedRaw := trim rawName
  let otherName := if utf8Len trimmedRaw = 1 ∧ resolved ≠ trimmedRaw then resolved else rawName
  matchLongName resolved otherName value

def parseLine (line : Text) : Except SipError Header :=
  match splitFirst ':' line with
  | none => .error (.invalidHeader ("missing ':' in header: "++line))
  | some (before,after) =>
    let rawName := trim before
    if rawName.isEmpty then .error (.invalidHeader "empty header name")
    else
      let value := trim after
      if maxHeaderValueLen < utf8Len value then
        .error (.invalidHeader ("header value exceeds "++natText maxHeaderValueLen++
          " bytes"))
      else .ok (buildHeader rawName value)

/-- The loop through the lines of a block: the headers so far, the line that
may still be continued, and its continuations. -/
structure Block where
  headers : Headers
  current : Option Text
  foldLines : ℕ

def flush (b : Block) : Except SipError Headers :=
  match b.current with
  | none => .ok b.headers
  | some line => do
    let header ← parseLine line
    b.headers.push header

def foldLine (b : Block) (rawLine : Text) : Except SipError Block :=
  match b.current with
  | none => .error (.invalidHeader
      ("fold continuation with no preceding header line: "++debug rawLine))
  | some line =>
    let foldLines := b.foldLines+1
    if maxFoldLinesPerHeader < foldLines then
      .error (.invalidHeader ("header has more than "++natText maxFoldLinesPerHeader++
        " fold lines"))
    else
      let folded := line++ ' '::trim rawLine
      if maxHeaderValueLen+maxStartLineLen < utf8Len folded then
        .error (.invalidHeader "folded header exceeds size limit")
      else .ok {b with current := some folded, foldLines}

def headerLine (b : Block) (rawLine : Text) : Except SipError Block :=
  match rawLine with
  | [] => .ok b
  | c::_ =>
    if c = ' ' ∨ c = '\t' then foldLine b rawLine
    else do
      let headers ← flush b
      return {headers, current := some rawLine, foldLines := 0}

def parseHeaderBlock (block : Text) : Except SipError Headers := do
  let b ← (lines block).foldlM headerLine
    {headers := Headers.empty, current := none, foldLines := 0}
  flush b

def parseRequestLine (line : Text) : Except SipError (Method × Text × Text) :=
  if maxStartLineLen < utf8Len line then
    .error (.parse ("request line exceeds "++natText maxStartLineLen++" bytes"))
  else match splitWhitespace line with
    | [methodStr,uriStr,version] => do
      let method ← methodFromStr methodStr
      if version ≠ "SIP/2.0" then
        .error (.parse ("invalid SIP version in request line: "++version))
      else match Uri.parse uriStr with
        | .error e => .error (.parse ("invalid Request-URI: "++e.display))
        | .ok _ => .ok (method,uriStr,version)
    | _ => .error (.parse
        ("invalid request line (expected 3 whitespace-separated parts): "++debug line))

def hexByte (b : UInt8) : Text :=
  [b.toNat/16,b.toNat%16].map (fun n => (Nat.digitChar n).toUpper)

def forbiddenByte (b : UInt8) : Bool := b == 0x7F || (b < 0x20 && b != 0x09)

def parseStatusLine (line : Text) : Except SipError (Text × ℕ × Text) :=
  if maxStartLineLen < utf8Len line then
    .error (.parse ("status line exceeds "++natText maxStartLineLen++" bytes"))
  else match splitFirst ' ' line with
    | none => .error (.parse ("status line missing code: "++debug line))
    | some (version,rest) => match splitFirst ' ' rest with
      | none => .error (.parse "status line missing SP after status code")
      | some (codeStr,reason) =>
        if version ≠ "SIP/2.0" then
          .error (.parse ("invalid SIP version in status line: "++version))
        else if utf8Len codeStr ≠ 3 then
          .error (.parse ("status code must be exactly 3 digits, got "++
            natText (utf8Len codeStr)++" chars: "++debug codeStr))
        else match parseU16 codeStr with
          | none => .error (.parse ("invalid status code: "++codeStr))
          | some code =>
            if code < 100 ∨ 699 < code then
              .error (.parse ("status code out of range: "++natText code))
            else match (utf8 reason).find? forbiddenByte with
              | some b => .error (.parse
                  ("reason phrase contains forbidden control byte 0x"++hexByte b))
              | none => .ok (version,code,reason)

def splitFirstLine (head : Text) : Text × Text :=
  match splitAtFirst ['\r','\n'] head with
  | some (line,rest) => (line,rest)
  | none => (splitFirst '\n' head).getD (head,[])

def findSeparator (data : Bytes) : Option (Bytes × Bytes) :=
  (splitAtFirst [13,10,13,10] data).or (splitAtFirst [10,10] data)

def splitMessage (data : Bytes) : Except SipError (Text × Text × Bytes) :=
  match findSeparator data with
  | none => .error (.parse "no header/body separator found")
  | some (head,body) => match fromUtf8 head with
    | .error e => .error (.parse ("header section not valid UTF-8: "++e.display))
    | .ok headStr =>
      let (startLine,headerBlock) := splitFirstLine headStr
      if maxStartLineLen < utf8Len startLine then
        .error (.parse ("start line exceeds "++natText maxStartLineLen++" bytes"))
      else .ok (startLine,headerBlock,body)

def parseUsize (s : Text) : Option ℕ := parseUnsigned (2^64) s

def trimBody (headers : Headers) (body : Bytes) : Bytes :=
  match (headers.getFirst "Content-Length").bind (fun h => parseUsize (trim h.value)) with
  | some n => if n ≤ body.length then body.take n else body
  | none => body

def parseRequest (data : Bytes) : Except SipError Request := do
  let (startLine,headerBlock,body) ← splitMessage data
  let (method,uri,version) ← parseRequestLine startLine
  let headers ← parseHeaderBlock headerBlock
  return {method, uri, version, headers, body := trimBody headers body}

def parseResponse (data : Bytes) : Except SipError Response := do
  let (startLine,headerBlock,body) ← splitMessage data
  let (version,statusCode,reason) ← parseStatusLine startLine
  let headers ← parseHeaderBlock headerBlock
  return {version, statusCode, reason, headers, body := trimBody headers body}

inductive Message
  | request (r : Request)
  | response (r : Response)
deriving DecidableEq

def firstLineBytes (data : Bytes) : Bytes := data.takeWhile (fun b => b != 13 && b != 10)

def Message.parse (data : Bytes) : Except SipError Message :=
  if utf8 "SIP/" <+: firstLineBytes data then (parseResponse data).map .response
  else (parseRequest data).map .request

def Message.toBytes : Message → Bytes
  | .request r => r.toBytes
  | .response r => r.toBytes

theorem parseRequestLine_uri {line uri version : Text} {method : Method}
    (h : parseRequestLine line = .ok (method,uri,version)) : (ok (Uri.parse uri)).isSome := by
  rw [parseRequestLine] at h
  split_ifs at h
  split at h
  · obtain ⟨m,-,h⟩ := bind_ok h
    split_ifs at h
    split at h
    · cases h
    · next hparse =>
      cases h
      rw [hparse]
      rfl
  · cases h

theorem parse_request_uri {data : Bytes} {r : Request}
    (h : Message.parse data = .ok (.request r)) : (ok (Uri.parse r.uri)).isSome := by
  rw [Message.parse] at h
  split_ifs at h
  · obtain ⟨r',-,heq⟩ := map_ok h
    cases heq
  · obtain ⟨r',hr,heq⟩ := map_ok h
    cases heq
    obtain ⟨⟨startLine,block,body⟩,-,hr⟩ := bind_ok hr
    obtain ⟨⟨method,uri,version⟩,hline,hr⟩ := bind_ok hr
    obtain ⟨headers,-,hr⟩ := bind_ok hr
    cases hr
    exact parseRequestLine_uri hline

/-- `SipMessage::parse`: the message as the layers above hold it. -/
def parseSipMessage (data : Bytes) : Except SipError RsipRtp.SipMessage.Message :=
  match h : Message.parse data with
  | .error e => .error (.parse e.display)
  | .ok (.request r) => .ok (.request ⟨r,parse_request_uri h⟩)
  | .ok (.response r) => .ok (.response ⟨r⟩)

theorem parseSipMessage_request {data : Bytes} {req : SipRequest}
    (h : parseSipMessage data = .ok (.request req)) :
    Message.parse data = .ok (.request req.inner) := by
  unfold parseSipMessage at h
  split at h
  · cases h
  · next hparse =>
    cases h
    exact hparse
  · cases h

end RsipRtp.SipFraming
