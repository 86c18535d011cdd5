import RsipRtp.Uri

/-!
# SIP headers and their typed forms

A header line is recognised into one of nineteen named kinds or kept as
`other` with the name it had on the wire. The typed forms are those that the
transaction layer reads:
-/

namespace RsipRtp.SipHeader
open SipText Uri

def maxHeaders : ℕ := 256

inductive Method where
  | invite | ack | bye | cancel | register | options | info | update
  | refer | notify | subscribe | prack | message | publish
deriving DecidableEq

def Method.asStr : Method → Text
  | .invite => "INVITE"
  | .ack => "ACK"
  | .bye => "BYE"
  | .cancel => "CANCEL"
  | .register => "REGISTER"
  | .options => "OPTIONS"
  | .info => "INFO"
  | .update => "UPDATE"
  | .refer => "REFER"
  | .notify => "NOTIFY"
  | .subscribe => "SUBSCRIBE"
  | .prack => "PRACK"
  | .message => "MESSAGE"
  | .publish => "PUBLISH"

def allMethods : List Method :=
  [.invite,.ack,.bye,.cancel,.register,.options,.info,.update,
    .refer,.notify,.subscribe,.prack,.message,.publish]

def methodFromStr (s : Text) : Except SipError Method :=
  match allMethods.find? (fun m => eqIgnoreAsciiCase s m.asStr) with
  | some m => .ok m
  | none => .error (.parse ("unknown method: "++s))

inductive Header where
  | allow (value : Text)
  | authorization (value : Text)
  | cseq (value : Text)
  | callId (value : Text)
  | contact (value : Text)
  | contentLength (value : Text)
  | contentType (value : Text)
  | expires (value : Text)
  | from (value : Text)
  | maxForwards (value : Text)
  | proxyAuthenticate (value : Text)
  | proxyAuthorization (value : Text)
  | recordRoute (value : Text)
  | require (value : Text)
  | route (value : Text)
  | supported (value : Text)
  | to (value : Text)
  | via (value : Text)
  | wwwAuthenticate (value : Text)
  | other (name value : Text)
deriving DecidableEq

def Header.name : Header → Text
  | .allow _ => "Allow"
  | .authorization _ => "Authorization"
  | .cseq _ => "CSeq"
  | .callId _ => "Call-ID"
  | .contact _ => "Contact"
  | .contentLength _ => "Content-Length"
  | .contentType _ => "Content-Type"
  | .expires _ => "Expires"
  | .from _ => "From"
  | .maxForwards _ => "Max-Forwards"
  | .proxyAuthenticate _ => "Proxy-Authenticate"
  | .proxyAuthorization _ => "Proxy-Authorization"
  | .recordRoute _ => "Record-Route"
  | .require _ => "Require"
  | .route _ => "Route"
  | .supported _ => "Supported"
  | .to _ => "To"
  | .via _ => "Via"
  | .wwwAuthenticate _ => "WWW-Authenticate"
  | .other name _ => name

def Header.value : Header → Text
  | .allow v | .authorization v | .cseq v | .callId v | .contact v | .contentLength v
  | .contentType v | .expires v | .from v | .maxForwards v | .proxyAuthenticate v
  | .proxyAuthorization v | .recordRoute v | .require v | .route v | .supported v
  | .to v | .via v | .wwwAuthenticate v | .other _ v => v

def resolveName (name : Text) : Text :=
  match trim name with
  | [c] => match c.toLower with
    | 'i' => "Call-ID"
    | 'm' => "Contact"
    | 'f' => "From"
    | 't' => "To"
    | 'v' => "Via"
    | 'c' => "Content-Type"
    | 'l' => "Content-Length"
    | 's' => "Subject"
    | 'k' => "Supported"
    | 'e' => "Content-Encoding"
    | 'r' => "Refer-To"
    | 'b' => "Referred-By"
    | 'd' => "Content-Disposition"
    | 'o' => "Event"
    | 'u' => "Allow-Events"
    | _ => [c]
  | trimmed => trimmed

def Header.nameMatches (h : Header) (query : Text) : Bool :=
  eqIgnoreAsciiCase h.name (resolveName query)

structure Headers where
  inner : List Header
  bound : inner.length ≤ maxHeaders
deriving DecidableEq

def Headers.empty : Headers := ⟨[],Nat.zero_le _⟩

def Headers.push (hs : Headers) (h : Header) : Except SipError Headers :=
  if hb : hs.inner.length < maxHeaders then
    .ok ⟨hs.inner++[h],by simpa using Nat.succ_le_of_lt hb⟩
  else .error (.invalidHeader ("too many headers (limit "++natText maxHeaders++ [')']))

def Headers.getFirst (hs : Headers) (name : Text) : Option Header :=
  hs.inner.find? (·.nameMatches name)

def consHead (c : Char) : List Text → List Text
  | [] => [[c]]
  | t::ts => (c::t)::ts

def topLevelChunks : Bool → Text → List Text
  | _, [] => [[]]
  | true, '\\'::c::rest => consHead '\\' (consHead c (topLevelChunks true rest))
  | true, c::rest => consHead c (topLevelChunks (c != '"') rest)
  | false, c::rest =>
    if c = ';' then []::topLevelChunks false rest
    else consHead c (topLevelChunks (c == '"') rest)

def parseParam (chunk : Text) : Option (Text × Option Text) :=
  let chunk := trim chunk
  if chunk.isEmpty then none
  else match splitFirst '=' chunk with
    | some (k,v) => some (trim k,some (trim v))
    | none => some (chunk,none)

/-- The parameter list of `Via` and of a name-address, which differ only in
the message about trailing data. -/
def parseParams (trailing s : Text) : Except SipError (List (Text × Option Text)) :=
  match trimStart s with
  | [] => .ok []
  | ';'::rest => .ok ((topLevelChunks false rest).filterMap parseParam)
  | s => .error (.invalidHeader (trailing++debug s))

def findParam (name : Text) (params : List (Text × Option Text)) : Option Text :=
  (params.find? (fun p => eqIgnoreAsciiCase p.1 name)).bind Prod.snd

structure TypedVia where
  protocol : Text
  transport : Text
  sentBy : Text
  params : List (Text × Option Text)
deriving DecidableEq

def splitSentByParams (rest : Text) : Bool → Text → Except SipError (Text × Text)
  | true, [] => .error (.invalidHeader
      ("Via sent-by has unterminated IPv6 reference: "++debug rest))
  | false, [] => .ok ([],[])
  | true, '['::_ => .error (.invalidHeader ("Via sent-by has nested '[': "++debug rest))
  | false, '['::cs => (splitSentByParams rest true cs).map (fun p => ('['::p.1,p.2))
  | true, ']'::cs => (splitSentByParams rest false cs).map (fun p => (']'::p.1,p.2))
  | false, ']'::_ => .error (.invalidHeader ("Via sent-by has unmatched ']': "++debug rest))
  | false, ';'::cs => .ok ([],';'::cs)
  | v6, c::cs => (splitSentByParams rest v6 cs).map (fun p => (c::p.1,p.2))

def viaTrailing : Text :=
  "Via trailing data after sent-by (expected ';' or end): "

def parseSentProtocol (protoPart : Text) : Except SipError (Text × Text) :=
  match splitLast '/' protoPart with
  | none => .error (.invalidHeader
      ("Via header sent-protocol missing '/': "++debug protoPart))
  | some (protocol,transport) =>
    let protocol := trim protocol
    let transport := trim transport
    if protocol.isEmpty || transport.isEmpty then
      .error (.invalidHeader ("Via header sent-protocol incomplete: "++debug protoPart))
    else if !protocol.contains '/' then .error (.invalidHeader
      ("Via header sent-protocol must be name/version/transport: "++debug protoPart))
    else .ok (protocol,transport)

def parseTypedVia (value : Text) : Except SipError TypedVia := do
  let s := trim value
  if s.isEmpty then throw (.invalidHeader "empty Via header value")
  match splitFirst ' ' s with
  | none => throw (.invalidHeader
      ("Via header missing space between sent-protocol and sent-by: "++debug s))
  | some (protoPart,rest) =>
    let (protocol,transport) ← parseSentProtocol (trim protoPart)
    let (sentBy,paramsPart) ← splitSentByParams (trimStart rest) false (trimStart rest)
    let sentBy := trim sentBy
    if sentBy.isEmpty then
      throw (.invalidHeader ("Via header missing sent-by: "++debug value))
    if sentBy.any (fun c => c == ' ' || c == '\t') then
      throw (.invalidHeader ("Via sent-by contains whitespace: "++debug sentBy))
    let params ← parseParams viaTrailing paramsPart
    return { protocol, transport, sentBy, params }

def TypedVia.branch (v : TypedVia) : Option Text := findParam "branch" v.params

structure CSeq where
  seq : ℕ
  method : Method

def parseCSeq (value : Text) : Except SipError CSeq :=
  match splitWhitespace value with
  | [] => .error (.invalidHeader ("CSeq missing sequence number: "++debug value))
  | [_] => .error (.invalidHeader ("CSeq missing method: "++debug value))
  | [seqTok,methodTok] => match parseU32 seqTok with
    | none => .error (.invalidHeader
        ("CSeq sequence number is not a u32: "++debug seqTok))
    | some seq => match methodFromStr methodTok with
      | .error e => .error (.invalidHeader ("CSeq method invalid: "++e.display))
      | .ok method => .ok { seq, method }
  | _ => .error (.invalidHeader
      ("CSeq has trailing tokens after method: "++debug value))

structure NameAddr where
  displayName : Option Text
  uri : SipUri
  parameters : List (Text × Option Text)
deriving DecidableEq

/-- After the opening quote: the text with its quoted pairs resolved, and
what follows the closing quote. -/
def parseQuotedString : Text → Except SipError (Text × Text)
  | [] => .error (.invalidHeader "unterminated quoted-string in display name")
  | ['\\'] => .error (.invalidHeader "trailing backslash in quoted display name")
  | '\\'::c::rest => (parseQuotedString rest).map (fun p => (c::p.1,p.2))
  | c::rest => if c = '"' then .ok ([],rest)
      else (parseQuotedString rest).map (fun p => (c::p.1,p.2))

/-- What stands before the first angle bracket outside a quoted string, and
the rest from the bracket on. -/
def findAngleBracket : Bool → Text → Option (Text × Text)
  | _, [] => none
  | true, '\\'::c::rest =>
    (findAngleBracket true rest).map (fun p => ('\\'::c::p.1,p.2))
  | true, c::rest => (findAngleBracket (c != '"') rest).map (fun p => (c::p.1,p.2))
  | false, c::rest => if c = '<' then some ([],c::rest)
      else (findAngleBracket (c == '"') rest).map (fun p => (c::p.1,p.2))

def nameAddrTrailing : Text :=
  "trailing data after URI in name-address (expected ';' or end): "

def parseDisplayName (input s : Text) : Except SipError (Option Text × Text) :=
  match s with
  | '"'::quoted => do
    let (name,after) ← parseQuotedString quoted
    let after := trimStart after
    if after.head? = some '<' then return (some name,after)
    else throw (.invalidHeader
      ("quoted display name must be followed by '<addr-spec>': "++debug input))
  | s => match findAngleBracket false s with
    | none => .ok (none,s)
    | some (leading,rest) =>
      let leading := trim leading
      .ok (if leading.isEmpty then none else some leading,rest)

def parseAddrSpec (input rest : Text) : Except SipError (Text × Text) :=
  match rest with
  | '<'::inner => match splitFirst '>' inner with
    | none => .error (.invalidHeader ("missing '>' in name-address: "++debug input))
    | some p => .ok p
  | rest => match splitFirst ';' rest with
    | some (uri,params) => .ok (uri,';'::params)
    | none => .ok (rest,[])

def parseNameAddr (input : Text) : Except SipError NameAddr := do
  let s := trim input
  if s.isEmpty then throw (.invalidHeader "empty name-address value")
  let (displayName,rest) ← parseDisplayName input s
  let (uriText,afterUri) ← parseAddrSpec input rest
  match RsipRtp.Uri.parse (trim uriText) with
  | .error e => throw (.invalidHeader ("invalid URI in name-address: "++e.display))
  | .ok uri =>
    let parameters ← parseParams nameAddrTrailing afterUri
    return { displayName, uri, parameters }

def NameAddr.tag (a : NameAddr) : Option Text := findParam "tag" a.parameters

/-- A `Contact` value: the `*` of a registration, or a name-address. -/
inductive Contact where
  | wildcard (params : List (Text × Option Text))
  | addr (a : NameAddr)

def parseWildcardParams (s : Text) : Except SipError (List (Text × Option Text)) :=
  match trimStart s with
  | [] => .ok []
  | ';'::rest => .ok ((rest.splitOn ';').filterMap parseParam)
  | s => .error (.invalidHeader
      ("trailing data after wildcard Contact (expected ';' or end): "++debug s))

def parseContact (value : Text) : Except SipError Contact :=
  match trim value with
  | [] => .error (.invalidHeader "empty Contact header value")
  | '*'::rest => (parseWildcardParams (trimStart rest)).map .wildcard
  | trimmed => (parseNameAddr trimmed).map .addr

structure RAck where
  rseq : ℕ
  cseq : ℕ
  method : Method
deriving DecidableEq

def RAck.toHeaderValue (r : RAck) : Text :=
  natText r.rseq++ ' '::natText r.cseq++ ' '::r.method.asStr

def parseMethod (value : Text) : Except SipError Method :=
  match allMethods.find? (fun m => toAsciiUppercase value == m.asStr) with
  | some m => .ok m
  | none => .error (.parse ("Unknown SIP method '"++toAsciiUppercase value++ ['\'']))

def parseRAck (value : Text) : Except SipError RAck :=
  match splitWhitespace value with
  | [r,c,m] => match parseU32 r with
    | none => .error (.parse ("Invalid RAck rseq '"++r++ ['\'']))
    | some rseq => match parseU32 c with
      | none => .error (.parse ("Invalid RAck cseq '"++c++ ['\'']))
      | some cseq => (parseMethod m).map (fun method => { rseq, cseq, method })
  | _ => .error (.parse
      ("RAck must be '<rseq> <cseq> <method>', got '"++value++ ['\'']))

def parseRSeq (value : Text) : Except SipError ℕ :=
  match parseU32 (trim value) with
  | some n => .ok n
  | none => .error (.parse ("Invalid RSeq value '"++trim value++ ['\'']))

/-- The option tags of `Require` and `Supported`, lower-cased. -/
def parseOptionTags (value : Text) : Except SipError (List Text) :=
  let tags := ((value.splitOn ',').map (fun t => toAsciiLowercase (trim t))).filter
    (fun t => !t.isEmpty)
  if tags.isEmpty then .error (.parse "Option-tag list must not be empty")
  else .ok tags

/-- The form of `Via` that is read for building messages, with its own parser. -/
structure HeaderVia where
  protocol : Text
  host : Text
  port : ℕ
  branch : Text
  received : Option Text
  rport : Option ℕ

structure ViaParams where
  branch : Text
  received : Option Text
  rport : Option ℕ

def viaParam (acc : ViaParams) (param : Text) : ViaParams :=
  let param := trim param
  match stripPrefix "branch=" param with
  | some v => { acc with branch := v }
  | none => match stripPrefix "received=" param with
    | some v => { acc with received := some v }
    | none => match stripPrefix "rport=" param with
      | some v => { acc with rport := parseU16 v }
      | none => if param = "rport" then { acc with rport := none } else acc

def viaHostPort (hostPort : Text) : Text × ℕ :=
  match splitLast ':' hostPort with
  | none => (hostPort,5060)
  | some (host,portStr) =>
    if portStr.all isAsciiDigit && !hostPort.contains '[' then
      (host,(parseU16 portStr).getD 5060)
    else (hostPort,5060)

def parseHeaderVia (value : Text) : Except SipError HeaderVia :=
  match splitFirst ' ' (trim value) with
  | none => .error (.parse "Invalid Via header format")
  | some (sent,rest) =>
    let protocol := ((sent.splitOn '/').getLast?).getD []
    if protocol.isEmpty then .error (.parse "Missing transport protocol")
    else
      let (hostPort,params) := match splitFirst ';' rest with
        | some (h,p) => (h,some p)
        | none => (rest,none)
      let (host,port) := viaHostPort hostPort
      let acc := ((params.map (·.splitOn ';')).getD []).foldl viaParam
        { branch := [], received := none, rport := none }
      if acc.branch.isEmpty then .error (.parse "Via header missing branch parameter")
      else .ok { protocol, host, port, branch := acc.branch, received := acc.received,
                 rport := acc.rport }

end RsipRtp.SipHeader
