import RsipRtp.Digest
import RsipRtp.QuotedText

/-!
# The credentials as a verifier reads them

The verifier knows the password and sees the header value, the method and the
body.
-/

namespace RsipRtp.DigestHeader
open SipText TextShape QuotedText Digest
open SrtpKdf (Octets)

/-! ## The verifier -/

def isTokenChar (c : Char) : Bool := c.isAlphanum || "-.!%*_+`'~".toList.contains c

def isBlank (c : Char) : Bool := c == ' ' || c == '\t'

def readValue : Text → Option (Text × Text)
  | '"'::s => scanQuoted s
  | s => if (s.takeWhile isTokenChar).isEmpty then none
      else some (s.takeWhile isTokenChar,s.dropWhile isTokenChar)

def readParam (s : Text) : Option ((Text × Text) × Text) := do
  let (name,s) ← splitFirst '=' s
  if name.isEmpty || !name.all isTokenChar then none
  else
    let (value,rest) ← readValue s
    return ((toAsciiLowercase name,value),rest)

/-- Parameters up to the end of the text, with a comma between two of them. -/
def readParams : ℕ → Text → Option (List (Text × Text))
  | 0, _ => none
  | fuel+1, s => do
    let (param,rest) ← readParam (s.dropWhile isBlank)
    match rest.dropWhile isBlank with
    | [] => return [param]
    | ','::rest => return param::(← readParams fuel rest)
    | _ => none

def readHeader (value : Text) : Option (List (Text × Text)) := do
  let s ← stripPrefix "Digest " value
  readParams s.length s

structure Fields where
  username : Text
  realm : Text
  nonce : Text
  uri : Text
  algorithm : Algorithm
  qop : Option Qop
  cnonce : Option Text
  nc : Option Text

def readQop : Option Text → Option (Option Qop)
  | none => some none
  | some name =>
    if name = "auth" then some (some .auth)
    else if name = "auth-int" then some (some .authInt)
    else none

def fieldsOf (params : List (Text × Text)) : Option Fields := do
  let username ← params.lookup "username".toList
  let realm ← params.lookup "realm".toList
  let nonce ← params.lookup "nonce".toList
  let uri ← params.lookup "uri".toList
  let algorithm ← (algorithmOf (params.lookup "algorithm".toList)).toOption
  let qop ← readQop (params.lookup "qop".toList)
  return { username, realm, nonce, uri, algorithm, qop, cnonce := params.lookup "cnonce".toList
           nc := params.lookup "nc".toList }

def session : Algorithm → Bool
  | .md5Sess | .sha256Sess => true
  | .md5 | .sha256 | .akaV1Md5 | .akaV2Md5 => false

section Formulas
variable (h : Text → Text)

def secret (session : Bool) (username realm password nonce cnonce : Text) : Text :=
  if session then h (colons [h (colons [username,realm,password]),nonce,cnonce])
  else h (colons [username,realm,password])

end Formulas

/-- The response by the formulas. A client nonce that the header does not have
is read as empty. -/
def expected (hash : HashFns) (password method : Text) (body : Bytes) (f : Fields) :
    Option Text :=
  let h := hashStr hash f.algorithm
  let ha1 := secret h (session f.algorithm) f.username f.realm password f.nonce (f.cnonce.getD [])
  match f.qop with
  | none => some (h (colons [ha1,f.nonce,h (colons [method,f.uri])]))
  | some qop => do
    let nc ← f.nc
    let cnonce ← f.cnonce
    let a2 := if qop = .authInt then colons [method,f.uri,hashBytes hash f.algorithm body]
      else colons [method,f.uri]
    return h (colons [ha1,f.nonce,nc,cnonce,qop.display,h a2])

def recompute (hash : HashFns) (password method : Text) (body : Bytes) (header : Text) :
    Option Text := do
  let params ← readHeader header
  let fields ← fieldsOf params
  expected hash password method body fields

theorem computeDigest_eq (hash : HashFns) (u pw r method uri n : Text) (a : Algorithm)
    (qop : Option Qop) (cnonce : Option Text) (nc : Option UInt32) (body : Option Bytes) :
    computeDigest hash u pw r method uri n a qop cnonce nc body =
      let h := hashStr hash a
      let ha1 := secret h (session a) u r pw n (cnonce.getD [])
      match qop with
      | some .none | none => h (colons [ha1,n,h (colons [method,uri])])
      | some qop =>
        let a2 := if qop = .authInt then colons [method,uri,hashBytes hash a (body.getD [])]
          else colons [method,uri]
        h (colons [ha1,n,hex8 (nc.getD 1),cnonce.getD [],qop.display,h a2]) := by
  rcases qop with _ | _ | _ | _ <;> cases a <;> rfl

/-! ## Reading what was written -/

inductive Part where
  | quoted (name value : Text)
  | token (name value : Text)

def Part.name : Part → Text
  | .quoted name _ | .token name _ => name

def Part.value : Part → Text
  | .quoted _ value | .token _ value => value

def Part.text : Part → Text
  | .quoted name value => quotedPart name value
  | .token name value => tokenPart name value

def Part.param (p : Part) : Text × Text := (p.name,p.value)

def isToken (s : Text) : Bool := !s.isEmpty && s.all isTokenChar

def isName (s : Text) : Bool := isToken s && toAsciiLowercase s == s

def Part.Good : Part → Prop
  | .quoted _ value => quotable value = true
  | .token _ value => isToken value = true

def written (ps : List Part) : Text := join ", " (ps.map Part.text)

theorem written_cons (p q : Part) (ps : List Part) :
    written (p::q::ps) = p.text++ ',':: ' '::written (q::ps) := by
  rw [written, List.map_cons, List.map_cons, join_cons]
  rfl

theorem written_singleton (p : Part) : written [p] = p.text := by simp [written, join]

def next (fuel : ℕ) (param : Text × Text) (rest : Text) : Option (List (Text × Text)) :=
  match rest.dropWhile isBlank with
  | [] => some [param]
  | ','::rest => (readParams fuel rest).map (param::·)
  | _ => none

theorem readParams_succ (fuel : ℕ) (s : Text) : readParams (fuel+1) s =
    (readParam (s.dropWhile isBlank)).bind (fun p => next fuel p.1 p.2) := by
  rw [readParams]
  cases readParam (s.dropWhile isBlank) with
  | none => rfl
  | some p =>
    simp only [Option.bind_eq_bind, Option.bind_some, next]
    split
    · rfl
    · cases readParams fuel _ <;> rfl
    · rfl

theorem readParams_blank (fuel : ℕ) (s : Text) :
    readParams fuel (' '::s) = readParams fuel s := by
  cases fuel with
  | zero => rfl
  | succ fuel => rw [readParams_succ, readParams_succ, List.dropWhile_cons_of_pos (by decide)]

variable {name : Text}

theorem isName_token (h : isName name = true) : isToken name = true := by
  simp only [isName, Bool.and_eq_true] at h
  exact h.1

theorem readParam_eq (h : isName name = true) (s : Text) :
    readParam (name++ '='::s) = (readValue s).map (fun p => ((name,p.1),p.2)) := by
  have heq : '=' ∉ name := by
    intro hmem
    simp only [isName, isToken, Bool.and_eq_true, List.all_eq_true] at h
    cases h.1.2 _ hmem
  have hname : (name.isEmpty || !name.all isTokenChar) = false := by
    have := isName_token h
    simp only [isToken, Bool.and_eq_true, Bool.not_eq_true'] at this
    simp [this.1, this.2]
  have hlower : toAsciiLowercase name = name := by
    simp only [isName, Bool.and_eq_true, beq_iff_eq] at h
    exact h.2
  simp only [readParam, splitFirst_append heq, Option.bind_eq_bind, Option.bind_some, hname, hlower]
  cases readValue s <;> rfl

theorem dropWhile_name (h : isName name = true) (s : Text) :
    (name++s).dropWhile isBlank = name++s := by
  cases name with
  | nil => cases h
  | cons c name =>
    refine List.dropWhile_cons_of_neg ?_
    have hc : isTokenChar c = true := by
      simp only [isName, isToken, List.all_cons, Bool.and_eq_true] at h
      exact h.1.2.1
    simp only [isBlank, Bool.or_eq_true, beq_iff_eq]
    rintro (rfl | rfl) <;> cases hc

theorem readParams_name (h : isName name = true) (fuel : ℕ) (s : Text) :
    readParams (fuel+1) (name++ '='::s) =
      (readValue s).bind (fun p => next fuel (name,p.1) p.2) := by
  rw [readParams_succ, dropWhile_name h, readParam_eq h]
  cases readValue s <;> rfl

theorem readValue_token {value : Text} (h : isToken value = true) {tail : Text}
    (htail : ∀ c ∈ tail.head?, isTokenChar c = false) :
    readValue (value++tail) = some (value,tail) := by
  simp only [isToken, Bool.and_eq_true, Bool.not_eq_true', List.all_eq_true] at h
  have htake : (value++tail).takeWhile isTokenChar = value := by
    rw [List.takeWhile_append_of_pos h.2]
    cases tail with
    | nil => simp
    | cons c tail => rw [List.takeWhile_cons_of_neg (by simp [htail c rfl]), List.append_nil]
  have hdrop : (value++tail).dropWhile isTokenChar = tail := by
    rw [List.dropWhile_append_of_pos h.2]
    cases tail with
    | nil => rfl
    | cons c tail => rw [List.dropWhile_cons_of_neg (by simp [htail c rfl])]
  rw [readValue, htake, hdrop, h.1]
  · rfl
  · intro s hs
    cases value with
    | nil => cases h.1
    | cons c value =>
      cases (List.cons.inj hs).1
      cases h.2 '"' (by simp)

theorem readParams_good {p : Part} (hname : isName p.name = true) (hp : p.Good) (tail : Text)
    (htail : ∀ c ∈ tail.head?, c = ',') (fuel : ℕ) :
    readParams (fuel+1) (p.text++tail) = next fuel p.param tail := by
  cases p with
  | quoted name value =>
    have htext : (Part.quoted name value).text++tail = name++ '=':: '"'::(value++ '"'::tail) := by
      simp [Part.text, quotedPart]
    have hname : isName name = true := hname
    rw [htext, readParams_name hname, readValue, scanQuoted_quotable hp]
    rfl
  | token name value =>
    have htext : (Part.token name value).text++tail = name++ '='::(value++tail) := by
      simp [Part.text, tokenPart]
    have hname : isName name = true := hname
    rw [htext, readParams_name hname, readValue_token hp fun c hc => htail c hc ▸ rfl]
    rfl

theorem readParams_written {good rest : List Part} (hname : ∀ p ∈ good, isName p.name = true)
    (hgood : ∀ p ∈ good, p.Good) (hrest : rest ≠ []) (fuel : ℕ) :
    readParams (fuel+good.length) (written (good++rest)) =
      (readParams fuel (written rest)).map (good.map Part.param++·) := by
  induction good with
  | nil => simp
  | cons p good ih =>
    obtain ⟨q,ps,hps⟩ := List.exists_cons_of_ne_nil
      (List.append_ne_nil_of_right_ne_nil good hrest)
    have hstep := readParams_good (hname p (by simp)) (hgood p (by simp))
      (',':: ' '::written (q::ps)) (by simp) (fuel+good.length)
    have hrec := ih (fun p hp => hname p (by simp [hp])) (fun p hp => hgood p (by simp [hp]))
    rw [List.cons_append, hps, written_cons, List.length_cons, ← Nat.add_assoc, hstep]
    simp only [next, List.dropWhile_cons_of_neg (by decide : ¬isBlank ',' = true), readParams_blank]
    rw [← hps, hrec, Option.map_map]
    rfl

theorem readParams_all {ps : List Part} (hname : ∀ p ∈ ps, isName p.name = true)
    (hgood : ∀ p ∈ ps, p.Good) (hne : ps ≠ []) {fuel : ℕ} (hfuel : ps.length ≤ fuel) :
    readParams fuel (written ps) = some (ps.map Part.param) := by
  obtain ⟨k,rfl⟩ := Nat.exists_eq_add_of_le' hfuel
  obtain ⟨good,p,rfl⟩ := List.eq_nil_or_concat ps |>.resolve_left hne
  rw [List.concat_eq_append] at *
  have hlast := readParams_good (hname p (by simp)) (hgood p (by simp)) [] (by simp) k
  have hfront : readParams (k+1+good.length) (written (good++[p])) =
      (readParams (k+1) (written [p])).map (good.map Part.param++·) :=
    readParams_written (fun q hq => hname q (by simp [hq])) (fun q hq => hgood q (by simp [hq]))
      (by simp) (k+1)
  rw [List.length_append, List.length_singleton, Nat.add_comm good.length 1, ← Nat.add_assoc,
    hfront, written_singleton, ← List.append_nil p.text, hlast]
  simp [next]

theorem readParams_quoted {value : Text} {rest : List Part} {fuel : ℕ}
    {ps : List (Text × Text)} (hname : isName name = true)
    (h : readParams fuel (written (.quoted name value::rest)) = some ps) :
    ∃ w ps', ps = (name,w)::ps' ∧ Parted w value ∧ quotable w = true := by
  have htext : ∃ tail, written (.quoted name value::rest) =
      name++ '=':: '"'::(value++ '"'::tail) := by
    cases rest with
    | nil => exact ⟨[],by simp [written_singleton, Part.text, quotedPart]⟩
    | cons q rest =>
      exact ⟨',':: ' '::written (q::rest),by simp [written_cons, Part.text, quotedPart]⟩
  obtain ⟨tail,htext⟩ := htext
  cases fuel with
  | zero => cases h
  | succ fuel =>
    rw [htext, readParams_name hname, readValue] at h
    obtain ⟨⟨w,left⟩,hscan,hnext⟩ := Option.bind_eq_some_iff.mp h
    refine ⟨w,ps.tail,?_,parted_of_scan hscan,(scanQuoted_sound hscan).2⟩
    unfold next at hnext
    split at hnext
    · cases hnext
      rfl
    · obtain ⟨ps',_,rfl⟩ := Option.map_eq_some_iff.mp hnext
      rfl
    · cases hnext

theorem readParams_quoted_at {good rest : List Part} {name value : Text} {fuel : ℕ}
    {ps : List (Text × Text)} (hnames : ∀ p ∈ good, isName p.name = true)
    (hgood : ∀ p ∈ good, p.Good) (hname : isName name = true) (hfuel : good.length ≤ fuel)
    (h : readParams fuel (written (good++.quoted name value::rest)) = some ps) :
    ∃ w ps', ps = good.map Part.param++(name,w)::ps' ∧ Parted w value ∧ quotable w = true := by
  obtain ⟨k,rfl⟩ := Nat.exists_eq_add_of_le' hfuel
  rw [readParams_written hnames hgood (by simp)] at h
  obtain ⟨read,hread,rfl⟩ := Option.map_eq_some_iff.mp h
  obtain ⟨w,ps',rfl,hw⟩ := readParams_quoted hname hread
  exact ⟨w,ps',rfl,hw⟩

theorem length_le_written (ps : List Part) (h : ∀ p ∈ ps, isName p.name = true) :
    ps.length ≤ (written ps).length := by
  induction ps with
  | nil => simp
  | cons p ps ih =>
    have hp : 1 ≤ p.text.length := by
      cases p <;> simp [Part.text, quotedPart, tokenPart] <;> omega
    cases ps with
    | nil => simpa [written_singleton] using hp
    | cons q ps =>
      have hrec := ih fun p hp => h p (by simp [hp])
      rw [written_cons]
      simp only [List.length_append, List.length_cons] at hrec ⊢
      omega

/-! ## The parts of a response -/

section Parts
variable (r : DigestResponse)

def qopPartsOf : List Part :=
  match r.qop with
  | some .none | none => []
  | some qop => .token "qop" qop.display::
      ((r.cnonce.map (Part.quoted "cnonce")).toList++
        (r.nc.map (Part.token "nc" ∘ hex8)).toList)

def partsOf : List Part :=
  [.quoted "username" r.username,.quoted "realm" r.realm,
    .quoted "nonce" r.nonce,.quoted "uri" r.uri,
    .quoted "response" r.response,.token "algorithm" r.algorithm.display]++
    (r.opaqueValue.map (Part.quoted "opaque")).toList++qopPartsOf r

theorem qopPartsOf_text : (qopPartsOf r).map Part.text = r.qopParts := by
  unfold qopPartsOf DigestResponse.qopParts
  rcases r.qop with _ | _ | _ | _ <;> cases r.cnonce <;> cases r.nc <;> rfl

theorem toHeaderValue_eq : r.toHeaderValue = "Digest "++written (partsOf r) := by
  have hfront : quotedPart "Digest username" r.username =
      "Digest "++quotedPart "username" r.username := rfl
  rw [DigestResponse.toHeaderValue, ← qopPartsOf_text, hfront, written, partsOf]
  simp only [List.map_append, List.map_cons, List.cons_append, join_cons, List.append_assoc,
    List.nil_append]
  cases r.opaqueValue <;> rfl

theorem readHeader_eq : readHeader r.toHeaderValue =
    readParams (written (partsOf r)).length (written (partsOf r)) := by
  have hstrip : stripPrefix "Digest " ("Digest "++written (partsOf r)) =
      some (written (partsOf r)) := by
    rw [stripPrefix, if_pos (List.isPrefixOf_iff_prefix.mpr (List.prefix_append _ _)),
      List.drop_left]
  rw [readHeader, toHeaderValue_eq, hstrip]
  rfl

theorem partsOf_names : ∀ p ∈ partsOf r, isName p.name = true := by
  intro p hp
  simp only [partsOf, qopPartsOf, List.mem_append, List.mem_cons, List.not_mem_nil, or_false,
    Option.mem_toList, Option.map_eq_some_iff] at hp
  rcases hp with ((rfl | rfl | rfl | rfl | rfl | rfl) | ⟨_,_,rfl⟩) | hq
  · exact (by decide +kernel : isName "username" = true)
  · exact (by decide +kernel : isName "realm" = true)
  · exact (by decide +kernel : isName "nonce" = true)
  · exact (by decide +kernel : isName "uri" = true)
  · exact (by decide +kernel : isName "response" = true)
  · exact (by decide +kernel : isName "algorithm" = true)
  · exact (by decide +kernel : isName "opaque" = true)
  split at hq
  · cases hq
  · cases hq
  · simp only [List.mem_cons, List.mem_append, Option.mem_toList, Option.map_eq_some_iff] at hq
    rcases hq with rfl | ⟨_,_,rfl⟩ | ⟨_,_,rfl⟩
    · exact (by decide +kernel : isName "qop" = true)
    · exact (by decide +kernel : isName "cnonce" = true)
    · exact (by decide +kernel : isName "nc" = true)

theorem length_le_fuel : (partsOf r).length ≤ (written (partsOf r)).length :=
  length_le_written _ (partsOf_names r)

end Parts

/-! ## What was written is read -/

structure Answers (hash : HashFns) (ch : DigestChallenge) (cred : DigestCredentials)
    (method uri : Text) (body : Option Bytes) (random : Octets 16) (r : DigestResponse) : Prop where
  username : r.username = cred.username
  realm : r.realm = ch.realm
  nonce : r.nonce = ch.nonce
  uri_eq : r.uri = uri
  algorithm : r.algorithm = ch.algorithm
  opaqueValue : r.opaqueValue = ch.opaqueValue
  qop : r.qop = ch.qop
  cnonce : r.cnonce = ch.qop.map (fun _ => hexEncode random.1)
  nc : r.nc.isSome = ch.qop.isSome
  response : r.response = computeDigest hash cred.username cred.password ch.realm method uri
    ch.nonce ch.algorithm ch.qop r.cnonce r.nc body

theorem fromChallenge_ok {hash : HashFns} {ch : DigestChallenge} {cred : DigestCredentials}
    {method uri : Text} {body : Option Bytes} {nc : Option UInt32} {random : Octets 16}
    {r : DigestResponse}
    (h : DigestResponse.fromChallenge hash ch cred method uri body nc random = .ok r) :
    (ch.realm ≠ [] ∧ ch.nonce ≠ []) ∧ Answers hash ch cred method uri body random r := by
  unfold DigestResponse.fromChallenge at h
  split_ifs at h with hrealm hnonce hqop
  · obtain ⟨q,hq⟩ := Option.isSome_iff_exists.mp hqop
    refine ⟨⟨by simpa using hrealm,by simpa using hnonce⟩,?_⟩
    rw [← Except.ok.inj h]
    constructor <;> simp [hq]
  · have hq : ch.qop = none := by simpa using hqop
    refine ⟨⟨by simpa using hrealm,by simpa using hnonce⟩,?_⟩
    rw [← Except.ok.inj h]
    constructor <;> simp [hq]

theorem fromChallenge_exists (hash : HashFns) (ch : DigestChallenge) (cred : DigestCredentials)
    (method uri : Text) (body : Option Bytes) (nc : Option UInt32) (random : Octets 16)
    (hrealm : ch.realm ≠ []) (hnonce : ch.nonce ≠ []) :
    ∃ r, DigestResponse.fromChallenge hash ch cred method uri body nc random = .ok r := by
  unfold DigestResponse.fromChallenge
  rw [if_neg (by simpa using hrealm), if_neg (by simpa using hnonce)]
  exact ⟨_,rfl⟩

theorem display_token (a : Algorithm) : isToken a.display = true := by
  cases a <;> decide +kernel

theorem algorithmOf_display (a : Algorithm) : algorithmOf (some a.display) = .ok a := by
  cases a <;> decide +kernel

theorem hexEncode_quotable (data : Bytes) : quotable (hexEncode data) = true := by
  refine quotable_of_plain fun c hc => ?_
  have hmem := hexEncode_mem hc
  exact ⟨fun h => absurd (h ▸ hmem) (by decide),fun h => absurd (h ▸ hmem) (by decide)⟩

theorem hex8_token (n : UInt32) : isToken (hex8 n) = true := by
  have hdigits : ∀ c ∈ Nat.toDigits 16 n.toNat, isTokenChar c = true := by
    intro c hc
    have hmem : c ∈ "0123456789abcdef".toList := by
      obtain ⟨d,hd,rfl⟩ := digit_of_mem_toDigits hc
      exact hexDigit_mem hd
    revert hmem
    exact (TextShape.forall_of_all (p := fun c => isTokenChar c = true) (by decide +kernel)) c
  simp only [isToken, hex8, Bool.and_eq_true, List.all_eq_true]
  refine ⟨?_,fun c hc => ?_⟩
  · simp [Nat.toDigits_ne_nil]
  · rcases List.mem_append.mp hc with hpad | hdigit
    · rw [List.eq_of_mem_replicate hpad]
      rfl
    · exact hdigits c hdigit

section Sufficient
variable {hash : HashFns} {pw method : Text} {body : Option Bytes} {r : DigestResponse}

def Computed (hash : HashFns) (pw method : Text) (body : Option Bytes) (r : DigestResponse) :
    Prop :=
  r.response = computeDigest hash r.username pw r.realm method r.uri r.nonce r.algorithm r.qop
    r.cnonce r.nc body

structure Quotable (r : DigestResponse) : Prop where
  username : quotable r.username = true
  realm : quotable r.realm = true
  nonce : quotable r.nonce = true
  uri : quotable r.uri = true
  opaqueValue : ∀ o ∈ r.opaqueValue, quotable o = true

theorem response_quotable (h : Computed hash pw method body r) : quotable r.response = true := by
  have hhash : ∀ data, quotable (hashStr hash r.algorithm data) = true := by
    intro data
    cases r.algorithm <;> exact hexEncode_quotable _
  rw [h, computeDigest_eq]
  dsimp only
  split <;> exact hhash _

theorem qopPartsOf_good (hc : ∀ c ∈ r.cnonce, ∃ data, c = hexEncode data) :
    ∀ p ∈ qopPartsOf r, p.Good := by
  intro p hp
  unfold qopPartsOf at hp
  split at hp
  · cases hp
  · cases hp
  · rename_i qop hne _
    simp only [List.mem_cons, List.mem_append, Option.mem_toList, Option.map_eq_some_iff] at hp
    rcases hp with rfl | ⟨c,hcnonce,rfl⟩ | ⟨n,_,rfl⟩
    · cases qop with
      | none => exact absurd rfl hne
      | auth => exact (by decide +kernel : isToken "auth" = true)
      | authInt => exact (by decide +kernel : isToken "auth-int" = true)
    · obtain ⟨data,rfl⟩ := hc c hcnonce
      exact hexEncode_quotable data
    · exact hex8_token n

theorem partsOf_good (h : Computed hash pw method body r) (hq : Quotable r)
    (hc : ∀ c ∈ r.cnonce, ∃ data, c = hexEncode data) : ∀ p ∈ partsOf r, p.Good := by
  intro p hp
  simp only [partsOf, List.mem_append, List.mem_cons, List.not_mem_nil, or_false, Option.mem_toList,
    Option.map_eq_some_iff] at hp
  rcases hp with ((rfl | rfl | rfl | rfl | rfl | rfl) | ⟨o,ho,rfl⟩) | hp
  · exact hq.username
  · exact hq.realm
  · exact hq.nonce
  · exact hq.uri
  · exact response_quotable h
  · exact display_token r.algorithm
  · exact hq.opaqueValue o ho
  · exact qopPartsOf_good hc p hp

/-- The quality of protection that the header shows, with the client nonce and
the count that go with it. -/
def shown (r : DigestResponse) : Option Qop × Option Text × Option Text :=
  match r.qop with
  | some .none | none => (none,none,none)
  | some qop => (some qop,r.cnonce,r.nc.map hex8)

theorem fieldsOf_parts (r : DigestResponse) : fieldsOf ((partsOf r).map Part.param) =
    some { username := r.username, realm := r.realm, nonce := r.nonce, uri := r.uri
           algorithm := r.algorithm, qop := (shown r).1, cnonce := (shown r).2.1
           nc := (shown r).2.2 } := by
  have hshown : ((partsOf r).map Part.param).lookup "qop".toList = (shown r).1.map Qop.display ∧
      ((partsOf r).map Part.param).lookup "cnonce".toList = (shown r).2.1 ∧
      ((partsOf r).map Part.param).lookup "nc".toList = (shown r).2.2 := by
    obtain ⟨username,realm,nonce,uri,response,algorithm,o,qop,cnonce,nc⟩ := r
    cases o <;> rcases qop with _ | _ | _ | _ <;> cases cnonce <;> cases nc <;> exact ⟨rfl,rfl,rfl⟩
  have hqop : readQop ((shown r).1.map Qop.display) = some (shown r).1 := by
    unfold shown
    rcases r.qop with _ | _ | _ | _ <;> rfl
  have husername : ((partsOf r).map Part.param).lookup "username".toList = some r.username := rfl
  have hrealm : ((partsOf r).map Part.param).lookup "realm".toList = some r.realm := rfl
  have hnonce : ((partsOf r).map Part.param).lookup "nonce".toList = some r.nonce := rfl
  have huri : ((partsOf r).map Part.param).lookup "uri".toList = some r.uri := rfl
  have halgorithm : ((partsOf r).map Part.param).lookup "algorithm".toList =
      some r.algorithm.display := rfl
  unfold fieldsOf
  rw [husername, hrealm, hnonce, huri, halgorithm, algorithmOf_display, hshown.1, hqop, hshown.2.1,
    hshown.2.2]
  rfl

def Shown (r : DigestResponse) : Prop :=
  (session r.algorithm = true → r.qop ≠ some .none) ∧ (r.qop.isSome → r.nc.isSome) ∧
    r.cnonce.isSome = r.qop.isSome

theorem expected_shown (h : Computed hash pw method body r) (hs : Shown r) :
    expected hash pw method (body.getD [])
      { username := r.username, realm := r.realm, nonce := r.nonce, uri := r.uri
        algorithm := r.algorithm, qop := (shown r).1, cnonce := (shown r).2.1
        nc := (shown r).2.2 } = some r.response := by
  obtain ⟨hsession,hnc,hcnonce⟩ := hs
  rw [h, computeDigest_eq]
  unfold expected shown
  rcases hq : r.qop with _ | _ | _ | _
  · rw [hq] at hcnonce
    have hnone : r.cnonce = none := by simpa using hcnonce
    rw [hnone]
  · have hplain : session r.algorithm = false := by
      cases hs : session r.algorithm with
      | false => rfl
      | true => exact absurd hq (hsession hs)
    simp only [secret, hplain, Bool.false_eq_true, if_false]
  all_goals
    rw [hq] at hnc hcnonce
    obtain ⟨n,hn⟩ := Option.isSome_iff_exists.mp (hnc rfl)
    obtain ⟨c,hc⟩ := Option.isSome_iff_exists.mp hcnonce
    rw [hn, hc]
    rfl

theorem hex_of_cnonce {random : Octets 16} {qop : Option Qop}
    (hc : r.cnonce = qop.map fun _ => hexEncode random.1) :
    ∀ c ∈ r.cnonce, ∃ data, c = hexEncode data := by
  intro c hmem
  rw [hc] at hmem
  obtain ⟨_,_,rfl⟩ := Option.map_eq_some_iff.mp hmem
  exact ⟨random.1,rfl⟩

theorem recompute_parts (h : Computed hash pw method body r) (hq : Quotable r)
    (hc : ∀ c ∈ r.cnonce, ∃ data, c = hexEncode data) (b : Bytes) :
    recompute hash pw method b r.toHeaderValue = expected hash pw method b
      { username := r.username, realm := r.realm, nonce := r.nonce, uri := r.uri
        algorithm := r.algorithm, qop := (shown r).1, cnonce := (shown r).2.1
        nc := (shown r).2.2 } := by
  have hread : readHeader r.toHeaderValue = some ((partsOf r).map Part.param) := by
    rw [readHeader_eq]
    exact readParams_all (partsOf_names r) (partsOf_good h hq hc) (by simp [partsOf])
      (length_le_fuel r)
  rw [recompute, hread, Option.bind_eq_bind, Option.bind_some, fieldsOf_parts, Option.bind_eq_bind,
    Option.bind_some]

end Sufficient

/-- The values stand between quotes as they are, and no session is bound to a
client nonce without a quality of protection. -/
structure Legible (ch : DigestChallenge) (cred : DigestCredentials) (uri : Text) : Prop where
  username : quotable cred.username = true
  realm : quotable ch.realm = true
  nonce : quotable ch.nonce = true
  uri : quotable uri = true
  opaqueValue : ∀ o ∈ ch.opaqueValue, quotable o = true
  session : session ch.algorithm = true → ch.qop ≠ some .none

section Legible
variable {hash : HashFns} {ch : DigestChallenge} {cred : DigestCredentials} {method uri : Text}
  {body : Option Bytes} {random : Octets 16} {r : DigestResponse}

theorem Answers.computed (h : Answers hash ch cred method uri body random r) :
    Computed hash cred.password method body r := by
  rw [Computed, h.response, h.username, h.realm, h.nonce, h.uri_eq, h.algorithm, h.qop]

theorem Answers.quotable_iff (h : Answers hash ch cred method uri body random r) :
    Legible ch cred uri ↔ Quotable r ∧ (session r.algorithm = true → r.qop ≠ some .none) := by
  constructor
  · intro hl
    refine ⟨⟨?_,?_,?_,?_,?_⟩,?_⟩
    · exact h.username ▸ hl.username
    · exact h.realm ▸ hl.realm
    · exact h.nonce ▸ hl.nonce
    · exact h.uri_eq ▸ hl.uri
    · exact h.opaqueValue ▸ hl.opaqueValue
    · rw [h.algorithm, h.qop]
      exact hl.session
  · rintro ⟨hq,hs⟩
    refine ⟨?_,?_,?_,?_,?_,?_⟩
    · exact h.username ▸ hq.username
    · exact h.realm ▸ hq.realm
    · exact h.nonce ▸ hq.nonce
    · exact h.uri_eq ▸ hq.uri
    · exact h.opaqueValue ▸ hq.opaqueValue
    · rw [← h.algorithm, ← h.qop]
      exact hs

theorem Answers.recomputed (h : Answers hash ch cred method uri body random r)
    (hl : Legible ch cred uri) : recompute hash cred.password method (body.getD [])
      r.toHeaderValue = some r.response := by
  obtain ⟨hq,hs⟩ := h.quotable_iff.mp hl
  rw [recompute_parts h.computed hq (hex_of_cnonce h.cnonce)]
  refine expected_shown h.computed ⟨hs,fun hsome => ?_,?_⟩
  · rw [h.nc, ← h.qop]
    exact hsome
  · rw [h.cnonce, h.qop, Option.isSome_map]

end Legible

end RsipRtp.DigestHeader
