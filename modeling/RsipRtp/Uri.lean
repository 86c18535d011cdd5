import RsipRtp.SipText

/-!
# SIP URIs

`parse` follows the source cut by cut: the scheme ends at the first colon, URI
headers start at the first question mark, and parameters start at the first
semicolon after the userinfo, since a user part may hold semicolons.
-/

namespace RsipRtp.Uri
open SipText

def maxUriHeaders : ℕ := 32
def maxUriHeaderValueLen : ℕ := 256

inductive Scheme where
  | sip
  | sips
  | tel
deriving DecidableEq

def Scheme.asStr : Scheme → Text
  | .sip => "sip"
  | .sips => "sips"
  | .tel => "tel"

structure SipUri where
  scheme : Scheme
  user : Option Text
  host : Text
  port : Option ℕ
  params : List (Text × Option Text)
  headers : List (Text × Text)
deriving DecidableEq

def parseScheme (s : Text) : Except SipError (Scheme × Text) :=
  match splitFirst ':' s with
  | none => .error (.parse "Missing scheme in SIP URI")
  | some (schemeStr,rest) =>
    let schemeStr := toAsciiLowercase schemeStr
    if schemeStr = "sip" then .ok (.sip,rest)
    else if schemeStr = "sips" then .ok (.sips,rest)
    else if schemeStr = "tel" then .ok (.tel,rest)
    else .error (.parse ("Invalid SIP URI scheme: "++schemeStr))

def pushUriHeader (hs : List (Text × Text)) (h : Text) : Except SipError (List (Text × Text)) :=
  if h.isEmpty then .ok hs
  else if maxUriHeaders ≤ hs.length then .error (.parse "too many URI headers")
  else
    let kv := (splitFirst '=' h).getD (h,[])
    if maxUriHeaderValueLen < utf8Len kv.2 then
      .error (.parse "URI header value too long")
    else .ok (hs++[kv])

def parseUriHeaders (rest : Text) : Except SipError (Text × List (Text × Text)) :=
  match splitFirst '?' rest with
  | none => .ok (rest,[])
  | some (uriPart,headerPart) =>
    ((headerPart.splitOn '&').foldlM pushUriHeader []).map (fun hs => (uriPart,hs))

def splitUserHostPort (rest : Text) : Text × Option Text :=
  let (userinfo,tail) := match splitFirst '@' rest with
    | some (u,t) => (u++['@'],t)
    | none => ([],rest)
  match splitFirst ';' tail with
  | some (hostPort,params) => (userinfo++hostPort,some params)
  | none => (rest,none)

def parseHostPort (hostPort : Text) : Except SipError (Text × Option ℕ) :=
  if hostPort.head? = some '[' then
    match splitFirst ']' hostPort with
    | none => .error (.parse "Invalid IPv6 address in SIP URI")
    | some (v6,afterBracket) =>
      .ok (v6++[']'],(stripPrefix [':'] afterBracket).bind parseU16)
  else match splitLast ':' hostPort with
    | none => .ok (hostPort,none)
    | some (host,potentialPort) =>
      if potentialPort.all isAsciiDigit then .ok (host,parseU16 potentialPort)
      else .ok (hostPort,none)

def parseUserHostPort (scheme : Scheme) (userHostPort : Text) :
    Except SipError (Option Text × Text × Option ℕ) :=
  if scheme = .tel then .ok (none,userHostPort,none)
  else
    let (user,hostPort) := match splitFirst '@' userHostPort with
      | some (u,h) => (some u,h)
      | none => (none,userHostPort)
    (parseHostPort hostPort).map (fun hp => (user,hp.1,hp.2))

def parseUriParam (param : Text) : Option (Text × Option Text) :=
  let param := trim param
  if param.isEmpty then none
  else match splitFirst '=' param with
    | some (k,v) => some (k,some v)
    | none => some (param,none)

def parseUriParams : Option Text → List (Text × Option Text)
  | none => []
  | some params => (params.splitOn ';').filterMap parseUriParam

def parse (s : Text) : Except SipError SipUri := do
  let (scheme,rest) ← parseScheme (trim s)
  let (rest,headers) ← parseUriHeaders rest
  let (userHostPort,params) := splitUserHostPort rest
  let (user,host,port) ← parseUserHostPort scheme userHostPort
  return { scheme, user, host, port, params := parseUriParams params, headers }

def displayParam : Text × Option Text → Text
  | (k,some v) => ';'::(k++ '='::v)
  | (k,none) => ';'::k

def display (u : SipUri) : Text :=
  u.scheme.asStr++ ':'::((u.user.map (·++['@'])).getD []++u.host++
    (u.port.map (fun p => ':'::natText p)).getD []++u.params.flatMap displayParam++
    (if u.headers.isEmpty then []
      else '?'::join ['&'] (u.headers.map (fun h => h.1++ '='::h.2))))

end RsipRtp.Uri
