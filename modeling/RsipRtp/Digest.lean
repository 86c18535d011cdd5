import RsipRtp.SdpAgreement

/-!
# Digest credentials

A challenge is read from its header value, and the credentials that answer it
are computed and written as a header value.
-/

namespace RsipRtp.Digest
open SipText TextShape Sdp
open FiniteMap (Map lookup_insert_eq)
open SrtpKdf (Octets)

inductive DigestAuthError where
  | missingField (field : Text)
  | unsupportedAlgorithm (algorithm : Text)
  | unsupportedQop (qop : Text)
  | parseError (text : Text)
deriving DecidableEq

def DigestAuthError.display : DigestAuthError → Text
  | .missingField field => "missing required field: "++field
  | .unsupportedAlgorithm algorithm => "unsupported algorithm: "++algorithm
  | .unsupportedQop qop => "unsupported qop: "++qop
  | .parseError text => "parse error: "++text

inductive Qop where
  | none
  | auth
  | authInt
deriving DecidableEq

def Qop.display : Qop → Text
  | .none => []
  | .auth => "auth"
  | .authInt => "auth-int"

inductive Algorithm where
  | md5
  | md5Sess
  | sha256
  | sha256Sess
  | akaV1Md5
  | akaV2Md5
deriving DecidableEq

def Algorithm.display : Algorithm → Text
  | .md5 => "MD5"
  | .md5Sess => "MD5-sess"
  | .sha256 => "SHA-256"
  | .sha256Sess => "SHA-256-sess"
  | .akaV1Md5 => "AKAv1-MD5"
  | .akaV2Md5 => "AKAv2-MD5"

/-! ## Challenges -/

section Challenge

def parseAuthValue (remaining : Text) : Except DigestAuthError (Text × Text) :=
  match remaining with
  | '"'::quoted => match splitFirst '"' quoted with
    | some p => .ok p
    | none => .error (.parseError "unterminated quoted string")
  | _ => match splitFirst ',' remaining with
    | some (value,rest) => .ok (trim value,','::rest)
    | none => .ok (trim remaining,[])

variable (std : StdText)

/-- The loop of the source. Each round takes at least an equals sign away, so
the length of the text is fuel enough. -/
def parseAuthParamsLoop : ℕ → Text → Map Text Text → Except DigestAuthError (Map Text Text)
  | 0, _, params => .ok params
  | fuel+1, remaining, params =>
    match remaining.dropWhile (fun c => c == ',' || isWhitespace c) with
    | [] => .ok params
    | c::cs => match splitFirst '=' (c::cs) with
      | none => .error (.parseError ("expected '=' in params: "++c::cs))
      | some (key,rest) => do
        let (value,rest) ← parseAuthValue (trimStart rest)
        parseAuthParamsLoop fuel rest (params.insert (std.toLowercase (trim key)) value)

def parseAuthParams (paramsStr : Text) : Except DigestAuthError (Map Text Text) :=
  parseAuthParamsLoop std (trim paramsStr).length (trim paramsStr) ∅

structure DigestChallenge where
  realm : Text
  nonce : Text
  opaqueValue : Option Text
  stale : Bool
  algorithm : Algorithm
  qop : Option Qop
  domain : Option Text
deriving DecidableEq

def algorithmOf : Option Text → Except DigestAuthError Algorithm
  | none => .ok .md5
  | some name =>
    if name = "MD5" then .ok .md5
    else if name = "MD5-sess" then .ok .md5Sess
    else if name = "SHA-256" then .ok .sha256
    else if name = "SHA-256-sess" then .ok .sha256Sess
    else if name = "AKAv1-MD5" then .ok .akaV1Md5
    else if name = "AKAv2-MD5" then .ok .akaV2Md5
    else .error (.unsupportedAlgorithm name)

def qopOf (qopStr : Text) : Qop :=
  if "auth-int" <:+: qopStr ∧ ¬"auth," <:+: qopStr then .authInt
  else if "auth" <:+: qopStr then .auth
  else .none

def field (params : Map Text Text) (name : Text) : Except DigestAuthError Text :=
  match params.lookup name with
  | some value => .ok value
  | none => .error (.missingField name)

/-- No character but a Latin letter has a letter of `digest` as its lower case,
so the seven bytes that the source skips are seven characters. -/
def DigestChallenge.parse (headerValue : Text) : Except DigestAuthError DigestChallenge :=
  let headerValue := trim headerValue
  if ¬"digest ".toList <+: std.toLowercase headerValue then
    .error (.parseError "expected Digest authentication scheme".toList)
  else do
    let params ← parseAuthParams std (headerValue.drop 7)
    let realm ← field params "realm".toList
    let nonce ← field params "nonce".toList
    let algorithm ← algorithmOf (params.lookup "algorithm".toList)
    return { realm, nonce, algorithm
             opaqueValue := params.lookup "opaque".toList
             stale := (params.lookup "stale".toList).any (eqIgnoreAsciiCase · "true".toList)
             qop := (params.lookup "qop".toList).map qopOf
             domain := params.lookup "domain".toList }

end Challenge

/-! ## Responses -/

structure HashFns where
  md5 : Bytes → Bytes
  sha256 : Bytes → Bytes

/-- A hash that hides nothing. -/
def plainHash : HashFns := ⟨id,id⟩

def hexByte (b : UInt8) : Text := [Nat.digitChar (b.toNat/16),Nat.digitChar (b.toNat%16)]

def hexEncode (data : Bytes) : Text := data.flatMap hexByte

/-- A number as the format `08x` prints it. -/
def hex8 (n : UInt32) : Text :=
  let digits := Nat.toDigits 16 n.toNat
  List.replicate (8-digits.length) '0'++digits

structure DigestCredentials where
  username : Text
  password : Text

structure DigestResponse where
  username : Text
  realm : Text
  nonce : Text
  uri : Text
  response : Text
  algorithm : Algorithm
  opaqueValue : Option Text
  qop : Option Qop
  cnonce : Option Text
  nc : Option UInt32

def colons (fields : List Text) : Text := join [':'] fields

section Compute
variable (hash : HashFns)

def hashBytes : Algorithm → Bytes → Text
  | .md5, data | .md5Sess, data | .akaV1Md5, data | .akaV2Md5, data => hexEncode (hash.md5 data)
  | .sha256, data | .sha256Sess, data => hexEncode (hash.sha256 data)

def hashStr (algorithm : Algorithm) (data : Text) : Text := hashBytes hash algorithm (utf8 data)

def computeDigest (username password realm method uri nonce : Text) (algorithm : Algorithm)
    (qop : Option Qop) (cnonce : Option Text) (nc : Option UInt32) (body : Option Bytes) : Text :=
  let ha1Base := hashStr hash algorithm (colons [username,realm,password])
  let ha1 := match algorithm with
    | .md5 | .sha256 | .akaV1Md5 | .akaV2Md5 => ha1Base
    | .md5Sess | .sha256Sess => hashStr hash algorithm (colons [ha1Base,nonce,cnonce.getD []])
  let ha2 := match qop with
    | some .authInt =>
      hashStr hash algorithm (colons [method,uri,hashBytes hash algorithm (body.getD [])])
    | _ => hashStr hash algorithm (colons [method,uri])
  match qop with
  | some .none | none => hashStr hash algorithm (colons [ha1,nonce,ha2])
  | some qop => hashStr hash algorithm
      (colons [ha1,nonce,hex8 (nc.getD 1),cnonce.getD [],qop.display,ha2])

def DigestResponse.fromChallenge (challenge : DigestChallenge) (credentials : DigestCredentials)
    (method uri : Text) (body : Option Bytes) (nc : Option UInt32) (random : Octets 16) :
    Except DigestAuthError DigestResponse :=
  if challenge.realm.isEmpty then .error (.missingField "realm")
  else if challenge.nonce.isEmpty then .error (.missingField "nonce")
  else
    let (cnonce,nc) := if challenge.qop.isSome
      then (some (hexEncode random.1),some (nc.getD 1)) else (none,none)
    .ok { username := credentials.username, realm := challenge.realm, nonce := challenge.nonce, uri
          response := computeDigest hash credentials.username credentials.password challenge.realm
            method uri challenge.nonce challenge.algorithm challenge.qop cnonce nc body
          algorithm := challenge.algorithm, opaqueValue := challenge.opaqueValue,
          qop := challenge.qop
          cnonce, nc }

end Compute

def quotedPart (name value : Text) : Text := name++ '=':: '"'::value++['"']
def tokenPart (name value : Text) : Text := name++ '='::value

/-- The parts of the header value that depend on the quality of protection. -/
def DigestResponse.qopParts (r : DigestResponse) : List Text :=
  match r.qop with
  | some .none | none => []
  | some qop => tokenPart "qop" qop.display::
      ((r.cnonce.map (quotedPart "cnonce")).toList++
        (r.nc.map (tokenPart "nc" ∘ hex8)).toList)

def DigestResponse.toHeaderValue (r : DigestResponse) : Text :=
  join ", "
    ([quotedPart "Digest username" r.username,quotedPart "realm" r.realm,
      quotedPart "nonce" r.nonce,quotedPart "uri" r.uri,
      quotedPart "response" r.response,
      tokenPart "algorithm" r.algorithm.display]++
      (r.opaqueValue.map (quotedPart "opaque")).toList++r.qopParts)

/-! ## Hexadecimal text -/

theorem hexDigit_mem {n : ℕ} (h : n < 16) : Nat.digitChar n ∈ "0123456789abcdef".toList := by
  have hall : ∀ n ∈ List.range 16, Nat.digitChar n ∈ "0123456789abcdef".toList := by decide
  exact hall n (List.mem_range.mpr h)

theorem hexEncode_mem {data : Bytes} {c : Char} (h : c ∈ hexEncode data) :
    c ∈ "0123456789abcdef".toList := by
  obtain ⟨b,_,hc⟩ := List.mem_flatMap.mp h
  have hb : b.toNat < 256 := b.toNat_lt
  simp only [hexByte, List.mem_cons, List.not_mem_nil, or_false] at hc
  rcases hc with rfl | rfl
  · exact hexDigit_mem (by omega)
  · exact hexDigit_mem (by omega)

theorem hexEncode_length (data : Bytes) : (hexEncode data).length = 2*data.length := by
  induction data with
  | nil => rfl
  | cons b data ih =>
    rw [hexEncode, List.flatMap_cons, List.length_append, ← hexEncode, ih, List.length_cons]
    simp only [hexByte, List.length_cons, List.length_nil]
    omega

theorem hexDigit_inj {m n : ℕ} (hm : m < 16) (hn : n < 16)
    (h : Nat.digitChar m = Nat.digitChar n) : m = n := by
  have hall : ∀ m ∈ List.range 16, ∀ n ∈ List.range 16,
      Nat.digitChar m = Nat.digitChar n → m = n := by decide
  exact hall m (List.mem_range.mpr hm) n (List.mem_range.mpr hn) h

theorem hexEncode_inj {a b : Bytes} (h : hexEncode a = hexEncode b) : a = b := by
  induction a generalizing b with
  | nil =>
    cases b with
    | nil => rfl
    | cons y b => cases h
  | cons x a ih =>
    cases b with
    | nil => cases h
    | cons y b =>
      simp only [hexEncode, List.flatMap_cons, hexByte, List.cons_append, List.nil_append,
        List.cons.injEq] at h
      obtain ⟨hhigh,hlow,hrest⟩ := h
      have hx : x.toNat < 256 := x.toNat_lt
      have hy : y.toNat < 256 := y.toNat_lt
      have h1 := hexDigit_inj (by omega) (by omega) hhigh
      have h2 := hexDigit_inj (by omega) (by omega) hlow
      have hxy : x = y := UInt8.toNat_inj.mp (by omega)
      rw [hxy, ih hrest]

theorem digit_of_mem_toDigits {n : ℕ} {c : Char} (h : c ∈ Nat.toDigits 16 n) :
    ∃ d < 16, Nat.digitChar d = c := by
  induction n using Nat.strong_induction_on with
  | _ n ih =>
    rw [Nat.toDigits_eq_if (by decide)] at h
    split_ifs at h with hlt
    · exact ⟨n,hlt,(List.mem_singleton.mp h).symm⟩
    · rcases List.mem_append.mp h with hfront | hlast
      · exact ih (n/16) (by omega) hfront
      · exact ⟨n%16,by omega,(List.mem_singleton.mp hlast).symm⟩

/-! ## Values of a challenge -/

/-- A value of the challenge has no comma if it has a quote: it was not quoted there. -/
def Parsed (v : Text) : Prop := '"' ∈ v → ',' ∉ v

theorem parseAuthValue_parsed {s v rest : Text} (h : parseAuthValue s = .ok (v,rest)) :
    Parsed v := by
  unfold parseAuthValue at h
  split at h
  · split at h
    · rename_i p hp
      cases h
      exact fun hquote => absurd hquote (splitFirst_eq hp).2
    · cases h
  · split at h
    · rename_i value _ hsplit
      cases h
      exact fun _ hcomma => (splitFirst_eq hsplit).2 (mem_of_mem_trim hcomma)
    · rename_i hsplit
      cases h
      exact fun _ hcomma => splitFirst_not_mem hsplit (mem_of_mem_trim hcomma)

theorem parseAuthParamsLoop_parsed {std : StdText} {fuel : ℕ} {s : Text}
    {params params' : Map Text Text} (hp : ∀ k v, params.lookup k = some v → Parsed v)
    (h : parseAuthParamsLoop std fuel s params = .ok params') :
    ∀ k v, params'.lookup k = some v → Parsed v := by
  induction fuel generalizing s params with
  | zero => exact Except.ok.inj h ▸ hp
  | succ fuel ih =>
    rw [parseAuthParamsLoop] at h
    split at h
    · exact Except.ok.inj h ▸ hp
    · split at h
      · cases h
      · obtain ⟨⟨value,rest⟩,hvalue,h⟩ := bind_ok h
        refine ih (fun k v hl => ?_) h
        rw [lookup_insert_eq] at hl
        split_ifs at hl
        · cases hl
          exact parseAuthValue_parsed hvalue
        · exact hp k v hl

theorem parse_opaqueValue {std : StdText} {headerValue : Text} {ch : DigestChallenge}
    (h : DigestChallenge.parse std headerValue = .ok ch) : ∀ o ∈ ch.opaqueValue, Parsed o := by
  unfold DigestChallenge.parse at h
  dsimp only at h
  split_ifs at h
  obtain ⟨params,hparams,h⟩ := bind_ok h
  obtain ⟨realm,_,h⟩ := bind_ok h
  obtain ⟨nonce,_,h⟩ := bind_ok h
  obtain ⟨algorithm,_,h⟩ := bind_ok h
  rw [← Except.ok.inj h]
  intro o ho
  exact parseAuthParamsLoop_parsed (fun k v hl => by cases hl) hparams _ o ho

end RsipRtp.Digest
