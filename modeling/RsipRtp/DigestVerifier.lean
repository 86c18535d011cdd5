import RsipRtp.DigestHeader

/-!
# When the verifier arrives at the response

With hashes that hide nothing, equal responses come from equal fields.
-/

namespace RsipRtp.DigestVerifier
open SipText TextShape Sdp QuotedText Digest DigestHeader
open SrtpKdf (Octets)

/-! ## A hash that hides nothing -/

section Plain

def plain (s : Text) : Text := hexEncode (utf8 s)

theorem hashStr_plain (a : Algorithm) (s : Text) : hashStr plainHash a s = plain s := by
  cases a <;> rfl

theorem colon_not_mem_plain (s : Text) : ':' ∉ plain s :=
  fun h => absurd (hexEncode_mem h) (by decide)

theorem quote_not_mem_plain (s : Text) : '"' ∉ plain s :=
  fun h => absurd (hexEncode_mem h) (by decide)

theorem plain_inj {s t : Text} (h : plain s = plain t) : s = t := by
  have hutf8 : utf8 s = utf8 t := hexEncode_inj h
  have hs := Utf8.fromUtf8_utf8 s
  rw [hutf8, Utf8.fromUtf8_utf8] at hs
  exact (Except.ok.inj hs).symm

theorem length_lt_plain {s : Text} (h : s ≠ []) : s.length < (plain s).length := by
  have hlen : s.length ≤ (utf8 s).length := Utf8.length_le_utf8 s
  have hpos : 0 < s.length := List.length_pos_of_ne_nil h
  rw [plain, hexEncode_length]
  omega

theorem colons_three (a b c : Text) : colons [a,b,c] = a++ ':'::(b++ ':'::c) := by
  simp [colons, join]

theorem cut_first {a b x y : Text} (ha : ':' ∉ a) (hb : ':' ∉ b) (h : a++ ':'::x = b++ ':'::y) :
    a = b ∧ x = y := by
  have hs := splitFirst_append (b := x) ha
  rw [h, splitFirst_append hb] at hs
  cases hs
  exact ⟨rfl,rfl⟩

theorem cut_last {a b x y : Text} (hx : ':' ∉ x) (hy : ':' ∉ y) (h : a++ ':'::x = b++ ':'::y) :
    x = y := by
  have hrev := congrArg List.reverse h
  simp only [List.reverse_append, List.reverse_cons, List.append_assoc, List.cons_append,
    List.nil_append] at hrev
  exact List.reverse_injective (cut_first (by simpa using hx) (by simpa using hy) hrev).1

section Secret
variable {u r w r' pw n n' c c' : Text} {s s' : Bool}

theorem secret_inj (hw : Parted w u)
    (h : secret plain s u r pw n c = secret plain s' w r' pw n' c') :
    w++ ':'::r' = u++ ':'::r := by
  have hlen : ∀ x y : Text, x.length < (plain (colons [x,y,pw])).length := by
    intro x y
    refine lt_trans ?_ (length_lt_plain (by simp [colons_three]))
    simp [colons_three]
  have hbase : colons [u,r,pw] = colons [w,r',pw] → w++ ':'::r' = u++ ':'::r := by
    intro he
    simp only [colons_three, ← List.append_assoc, ← List.cons_append] at he
    exact (List.append_cancel_right he).symm
  cases s <;> cases s'
  · exact hbase (plain_inj (by simpa [secret] using h))
  · have he := plain_inj (s := colons [u,r,pw]) (by simpa [secret] using h)
    rw [colons_three, colons_three (plain _)] at he
    have hle := hw.symm.field_le (colon_not_mem_plain _) (quote_not_mem_plain _) he
    exact absurd hle (not_le.mpr (hlen w r'))
  · have he := plain_inj (t := colons [w,r',pw]) (by simpa [secret] using h)
    rw [colons_three (plain _), colons_three w] at he
    have hle := hw.field_le (colon_not_mem_plain _) (quote_not_mem_plain _) he.symm
    exact absurd hle (not_le.mpr (hlen u r))
  · have he := plain_inj (by simpa [secret] using h)
    rw [colons_three (plain _), colons_three (plain _)] at he
    exact hbase (plain_inj (cut_first (colon_not_mem_plain _) (colon_not_mem_plain _) he).1)

end Secret

def outline (ha1 nonce mid method uri tail : Text) : Text :=
  ha1++ ':'::(nonce++(mid++ ':'::plain (method++ ':'::(uri++tail))))

def Joint (s : Text) : Prop := s.head? ≠ some '"'

theorem joint_nil : Joint [] := by simp [Joint]
theorem joint_colon (s : Text) : Joint (':'::s) := by simp [Joint]

theorem joint_append {mid : Text} (h : Joint mid) (s : Text) : Joint (mid++ ':'::s) := by
  cases mid with
  | nil => exact joint_colon s
  | cons c mid => simpa [Joint] using h

section Outline
variable {ha1 ha1' nonce nonce' mid mid' method uri uri' tail tail' : Text}

theorem outline_secret (h : ':' ∉ ha1) (h' : ':' ∉ ha1')
    (he : outline ha1 nonce mid method uri tail = outline ha1' nonce' mid' method uri' tail') :
    ha1 = ha1' := (cut_first h h' he).1

theorem outline_nonce (h : ':' ∉ ha1) (h' : ':' ∉ ha1') (hmid : Joint mid) (hmid' : Joint mid')
    (hn : Parted nonce' nonce)
    (he : outline ha1 nonce mid method uri tail = outline ha1' nonce' mid' method uri' tail') :
    nonce' = nonce :=
  hn.eq_of_append (joint_append hmid' _) (joint_append hmid _) (cut_first h h' he).2.symm

theorem outline_uri (htail : Joint tail) (htail' : Joint tail') (hu : Parted uri' uri)
    (he : outline ha1 nonce mid method uri tail = outline ha1' nonce' mid' method uri' tail') :
    uri' = uri := by
  simp only [outline, ← List.append_assoc, ← List.cons_append] at he
  have ha2 := plain_inj (cut_last (colon_not_mem_plain _) (colon_not_mem_plain _) he)
  simp only [List.append_assoc, List.cons_append, List.append_cancel_left_eq, List.cons.injEq,
    true_and] at ha2
  exact hu.eq_of_append htail' htail ha2.symm

end Outline

theorem colon_not_mem_secret (s : Bool) (u r pw n c : Text) : ':' ∉ secret plain s u r pw n c := by
  unfold secret
  split_ifs
  · exact colon_not_mem_plain _
  · exact colon_not_mem_plain _

theorem expected_outline {pw method out : Text} {body : Bytes} {f : Fields}
    (h : expected plainHash pw method body f = some out) :
    ∃ mid tail, Joint mid ∧ Joint tail ∧ out = plain (outline (secret plain (session f.algorithm)
      f.username f.realm pw f.nonce (f.cnonce.getD [])) f.nonce mid method f.uri tail) := by
  have hh : hashStr plainHash f.algorithm = plain := funext (hashStr_plain f.algorithm)
  unfold expected at h
  rw [hh] at h
  cases hq : f.qop with
  | none =>
    simp only [hq] at h
    refine ⟨[],[],joint_nil,joint_nil,?_⟩
    rw [← Option.some.inj h]
    simp [outline, colons, join]
  | some qop =>
    simp only [hq] at h
    obtain ⟨nc,_,h⟩ := Option.bind_eq_some_iff.mp h
    obtain ⟨cnonce,_,h⟩ := Option.bind_eq_some_iff.mp h
    refine ⟨':'::colons [nc,cnonce,qop.display],
      if qop = .authInt then ':'::hashBytes plainHash f.algorithm body else [],
      joint_colon _,?_,?_⟩
    · split_ifs
      · exact joint_colon _
      · exact joint_nil
    · rw [← Option.some.inj h]
      split_ifs <;> simp [outline, colons, join]

theorem computeDigest_outline (u pw r method uri n : Text) (a : Algorithm) (qop : Option Qop)
    (cnonce : Option Text) (nc : Option UInt32) (body : Option Bytes) :
    ∃ mid tail, Joint mid ∧ Joint tail ∧ computeDigest plainHash u pw r method uri n a qop cnonce nc
      body = plain (outline (secret plain (session a) u r pw n (cnonce.getD [])) n mid method uri
        tail) := by
  have hh : hashStr plainHash a = plain := funext (hashStr_plain a)
  rw [computeDigest_eq, hh]
  rcases qop with _ | _ | _ | _
  · exact ⟨[],[],joint_nil,joint_nil,by simp [outline, colons, join]⟩
  · exact ⟨[],[],joint_nil,joint_nil,by simp [outline, colons, join]⟩
  · exact ⟨':'::colons [hex8 (nc.getD 1),cnonce.getD [],Qop.auth.display],[],
      joint_colon _,joint_nil,
      by simp [outline, colons, join]⟩
  · exact ⟨':'::colons [hex8 (nc.getD 1),cnonce.getD [],Qop.authInt.display],
      ':'::hashBytes plainHash a (body.getD []),joint_colon _,joint_colon _,
      by simp [outline, colons, join]⟩

end Plain

/-! ## What the response shows -/

section Necessary
variable {pw method : Text} {body : Option Bytes} {b : Bytes} {r : DigestResponse}
variable {random : Octets 16}

structure Recomputed (pw method : Text) (b : Bytes) (r : DigestResponse)
    (ps : List (Text × Text)) (f : Fields) : Prop where
  read : readParams (written (partsOf r)).length (written (partsOf r)) = some ps
  username : ps.lookup "username".toList = some f.username
  realm : ps.lookup "realm".toList = some f.realm
  nonce : ps.lookup "nonce".toList = some f.nonce
  uri : ps.lookup "uri".toList = some f.uri
  result : expected plainHash pw method b f = some r.response

theorem recompute_some (h : recompute plainHash pw method b r.toHeaderValue = some r.response) :
    ∃ ps f, Recomputed pw method b r ps f := by
  obtain ⟨ps,hread,h⟩ := Option.bind_eq_some_iff.mp h
  obtain ⟨f,hfields,hresult⟩ := Option.bind_eq_some_iff.mp h
  rw [readHeader_eq] at hread
  obtain ⟨username,husername,hfields⟩ := Option.bind_eq_some_iff.mp hfields
  obtain ⟨realm,hrealm,hfields⟩ := Option.bind_eq_some_iff.mp hfields
  obtain ⟨nonce,hnonce,hfields⟩ := Option.bind_eq_some_iff.mp hfields
  obtain ⟨uri,huri,hfields⟩ := Option.bind_eq_some_iff.mp hfields
  obtain ⟨algorithm,_,hfields⟩ := Option.bind_eq_some_iff.mp hfields
  obtain ⟨qop,_,hfields⟩ := Option.bind_eq_some_iff.mp hfields
  cases hfields
  exact ⟨ps,_,hread,husername,hrealm,hnonce,huri,hresult⟩

section Fields
variable {ps : List (Text × Text)} {f : Fields} (h : Recomputed pw method b r ps f)
  (hr : Computed plainHash pw method body r)

theorem Recomputed.outlines (h : Recomputed pw method b r ps f)
    (hr : Computed plainHash pw method body r) : ∃ mid tail mid' tail', Joint mid ∧ Joint tail ∧
      Joint mid' ∧ Joint tail' ∧
      outline (secret plain (session r.algorithm) r.username r.realm pw r.nonce
        (r.cnonce.getD [])) r.nonce mid method r.uri tail =
      outline (secret plain (session f.algorithm) f.username f.realm pw f.nonce
        (f.cnonce.getD [])) f.nonce mid' method f.uri tail' := by
  obtain ⟨mid,tail,hmid,htail,hcomputed⟩ := computeDigest_outline r.username pw r.realm method r.uri
    r.nonce r.algorithm r.qop r.cnonce r.nc body
  obtain ⟨mid',tail',hmid',htail',hexpected⟩ := expected_outline h.result
  refine ⟨mid,tail,mid',tail',hmid,htail,hmid',htail',plain_inj ?_⟩
  rw [← hcomputed, ← hexpected]
  exact hr.symm

theorem Recomputed.quoted_at (h : Recomputed pw method b r ps f) (good : List Part)
    {rest : List Part} {name value : Text} (hparts : partsOf r = good++.quoted name value::rest)
    (hgood : ∀ p ∈ good, p.Good) :
    ∃ w ps', ps = good.map Part.param++(name,w)::ps' ∧ Parted w value ∧ quotable w = true := by
  have hnames := partsOf_names r
  have hfuel := length_le_fuel r
  have hread := h.read
  rw [hparts] at hnames hfuel hread
  refine readParams_quoted_at (fun p hp => hnames p (by simp [hp])) hgood
    (hnames (.quoted name value) (by simp)) (le_trans ?_ hfuel) hread
  simp

include h hr

theorem Recomputed.secrets (hu : Parted f.username r.username) :
    f.username++ ':'::f.realm = r.username++ ':'::r.realm := by
  obtain ⟨mid,tail,mid',tail',_,_,_,_,he⟩ := h.outlines hr
  exact secret_inj hu (outline_secret (colon_not_mem_secret _ _ _ _ _ _)
    (colon_not_mem_secret _ _ _ _ _ _) he)

theorem Recomputed.quotable_username : quotable r.username = true := by
  obtain ⟨w,ps',hps,hparted,hw⟩ := h.quoted_at [] rfl (by simp)
  obtain rfl : w = f.username := by
    have hl := h.username
    rw [hps] at hl
    exact Option.some.inj hl
  have he := h.secrets hr hparted
  rwa [hparted.eq_of_append (joint_colon _) (joint_colon _) he] at hw

theorem Recomputed.quotable_realm (hu : quotable r.username = true) :
    quotable r.realm = true := by
  obtain ⟨w,ps',hps,hparted,hw⟩ := h.quoted_at [.quoted "username" r.username] rfl
    (by simpa [Part.Good] using hu)
  obtain rfl : w = f.realm := by
    have hl := h.realm
    rw [hps] at hl
    exact Option.some.inj hl
  have husername : r.username = f.username := by
    have hl := h.username
    rw [hps] at hl
    exact Option.some.inj hl
  have he := h.secrets hr (.same husername.symm)
  rw [husername, List.append_cancel_left_eq, List.cons.injEq] at he
  rwa [he.2] at hw

theorem Recomputed.quotable_nonce (hu : quotable r.username = true)
    (hrealm : quotable r.realm = true) : quotable r.nonce = true := by
  obtain ⟨w,ps',hps,hparted,hw⟩ := h.quoted_at
    [.quoted "username" r.username,.quoted "realm" r.realm] rfl
    (by simpa [Part.Good] using ⟨hu,hrealm⟩)
  obtain rfl : w = f.nonce := by
    have hl := h.nonce
    rw [hps] at hl
    exact Option.some.inj hl
  obtain ⟨mid,tail,mid',tail',hmid,_,hmid',_,he⟩ := h.outlines hr
  rwa [outline_nonce (colon_not_mem_secret _ _ _ _ _ _) (colon_not_mem_secret _ _ _ _ _ _) hmid
    hmid' hparted he] at hw

theorem Recomputed.quotable_uri (hu : quotable r.username = true)
    (hrealm : quotable r.realm = true) (hnonce : quotable r.nonce = true) :
    quotable r.uri = true := by
  obtain ⟨w,ps',hps,hparted,hw⟩ := h.quoted_at
    [.quoted "username" r.username,.quoted "realm" r.realm,
      .quoted "nonce" r.nonce] rfl (by simpa [Part.Good] using ⟨hu,hrealm,hnonce⟩)
  obtain rfl : w = f.uri := by
    have hl := h.uri
    rw [hps] at hl
    exact Option.some.inj hl
  obtain ⟨mid,tail,mid',tail',_,htail,_,htail',he⟩ := h.outlines hr
  rwa [outline_uri htail htail' hparted he] at hw

end Fields

theorem dropWhile_quote {y : Text} (hcomma : ',' ∉ y) (t : Text) :
    ∃ c s, (y++ '"'::t).dropWhile isBlank = c::s ∧ c ≠ ',' := by
  induction y with
  | nil => exact ⟨'"',t,rfl,by decide⟩
  | cons c y ih =>
    rw [List.cons_append, List.dropWhile_cons]
    split_ifs
    · exact ih fun hmem => hcomma (by simp [hmem])
    · exact ⟨c,y++ '"'::t,rfl,fun hc => hcomma (by simp [hc])⟩

theorem next_stuck {fuel : ℕ} {param : Text × Text} {rest s : Text} {c : Char}
    (h : rest.dropWhile isBlank = c::s) (hc : c ≠ ',') : next fuel param rest = none := by
  unfold next
  rw [h]
  split
  · rename_i he
    cases he
  · rename_i he
    exact absurd (List.cons.inj he).1 hc
  · rfl

theorem qop_rest (hc : r.cnonce = r.qop.map fun _ => hexEncode random.1)
    (hne : qopPartsOf r ≠ []) : ∃ w c s, scanQuoted (',':: ' '::written (qopPartsOf r)) =
      some (w,c::s) ∧ isBlank c = false ∧ c ≠ ',' := by
  obtain ⟨c,s,hhex⟩ : ∃ c s, hexEncode random.1 = c::s := by
    obtain ⟨data,hlen⟩ := random
    cases data with
    | nil => cases hlen
    | cons x data => exact ⟨_,_,rfl⟩
  have hdigit : c ∈ "0123456789abcdef".toList := hexEncode_mem (hhex ▸ List.mem_cons_self)
  have hblank : isBlank c = false ∧ c ≠ ',' :=
    TextShape.forall_of_all (p := fun c => isBlank c = false ∧ c ≠ ',') (by decide +kernel) c hdigit
  have hscan : ∀ (qop : Qop) (ps : List Part),
      quotable (", qop="++qop.display++ ", cnonce=") = true →
      ∃ w t, scanQuoted (',':: ' '::written (.token "qop" qop.display::
        .quoted "cnonce" (hexEncode random.1)::ps)) = some (w,c::t) := by
    intro qop ps hquotable
    obtain ⟨t,ht⟩ : ∃ t, written (.quoted "cnonce" (hexEncode random.1)::ps) =
        "cnonce="++ '"'::(hexEncode random.1++ '"'::t) := by
      cases ps with
      | nil => exact ⟨[],by simp [written_singleton, Part.text, quotedPart]⟩
      | cons q ps =>
        exact ⟨',':: ' '::written (q::ps),by simp [written_cons, Part.text, quotedPart]⟩
    refine ⟨_,s++ '"'::t,(congrArg scanQuoted ?_).trans (scanQuoted_quotable hquotable _)⟩
    rw [written_cons, ht, hhex]
    simp [Part.text, tokenPart]
  unfold qopPartsOf at hne ⊢
  rcases hq : r.qop with _ | _ | _ | _
  · simp [hq] at hne
  · simp [hq] at hne
  · rw [hc, hq]
    obtain ⟨w,t,h⟩ := hscan .auth (r.nc.map (Part.token "nc" ∘ hex8)).toList
      (by decide +kernel)
    exact ⟨w,c,t,h,hblank⟩
  · rw [hc, hq]
    obtain ⟨w,t,h⟩ := hscan .authInt (r.nc.map (Part.token "nc" ∘ hex8)).toList
      (by decide +kernel)
    exact ⟨w,c,t,h,hblank⟩

theorem readParams_opaqueValue {o : Text}
    (hc : r.cnonce = r.qop.map fun _ => hexEncode random.1) (ho : Parsed o)
    (hq : quotable o = false) (fuel : ℕ) :
    readParams fuel (written (.quoted "opaque" o::qopPartsOf r)) = none := by
  obtain ⟨tail,htext,htail⟩ : ∃ tail, written (.quoted "opaque" o::qopPartsOf r) =
      "opaque"++ '=':: '"'::(o++ '"'::tail) ∧
      tail = if qopPartsOf r = [] then [] else ',':: ' '::written (qopPartsOf r) := by
    refine ⟨_,?_,rfl⟩
    cases qopPartsOf r with
    | nil => simp [written_singleton, Part.text, quotedPart]
    | cons q ps => simp [written_cons, Part.text, quotedPart]
  cases fuel with
  | zero => rfl
  | succ fuel =>
    rw [htext, readParams_name (by decide +kernel), readValue]
    rcases quotable_cases o with h | ⟨w,y,rfl,hw⟩ | h
    · rw [h] at hq
      cases hq
    · rw [List.append_assoc, List.cons_append, scanQuoted_quotable hw]
      have hcomma : ',' ∉ y := fun hmem => ho (by simp) (by simp [hmem])
      obtain ⟨c,s,hdrop,hne⟩ := dropWhile_quote hcomma tail
      exact next_stuck hdrop hne
    · rw [h, htail]
      split_ifs with hnil
      · rfl
      · obtain ⟨w,c,s,hscan,hblank,hne⟩ := qop_rest hc hnil
        rw [hscan]
        exact next_stuck (List.dropWhile_cons_of_neg (by simp [hblank])) hne

theorem Recomputed.quotable_opaqueValue {ps : List (Text × Text)} {f : Fields}
    (h : Recomputed pw method b r ps f) (hr : Computed plainHash pw method body r)
    (hc : r.cnonce = r.qop.map fun _ => hexEncode random.1)
    (hparsed : ∀ o ∈ r.opaqueValue, Parsed o) (hu : quotable r.username = true)
    (hrealm : quotable r.realm = true) (hnonce : quotable r.nonce = true)
    (huri : quotable r.uri = true) : ∀ o ∈ r.opaqueValue, quotable o = true := by
  intro o ho
  let front : List Part := [.quoted "username" r.username,.quoted "realm" r.realm,
    .quoted "nonce" r.nonce,.quoted "uri" r.uri,
    .quoted "response" r.response,.token "algorithm" r.algorithm.display]
  have hparts : partsOf r = front++.quoted "opaque" o::qopPartsOf r := by
    rw [partsOf, ho]
    rfl
  have hgood : ∀ p ∈ front, p.Good := by
    simpa [front, Part.Good] using
      ⟨hu,hrealm,hnonce,huri,response_quotable hr,display_token r.algorithm⟩
  have hnames := partsOf_names r
  have hfuel := length_le_fuel r
  have hread := h.read
  rw [hparts] at hnames hfuel hread
  obtain ⟨k,hk⟩ := Nat.exists_eq_add_of_le' (le_trans (by simp) hfuel : front.length ≤ _)
  rw [hk, readParams_written (fun p hp => hnames p (by simp [hp])) hgood (by simp)] at hread
  by_contra hq
  rw [readParams_opaqueValue hc (hparsed o ho) (by simpa using hq)] at hread
  cases hread

theorem session_shown (hr : Computed plainHash pw method body r)
    (hq : Quotable r) (hc : r.cnonce = r.qop.map fun _ => hexEncode random.1)
    (h : recompute plainHash pw method (body.getD []) r.toHeaderValue = some r.response)
    (hs : session r.algorithm = true) : r.qop ≠ some .none := by
  intro hnone
  rw [hnone] at hc
  have hshown : shown r = (none,none,none) := by
    unfold shown
    rw [hnone]
  have hh : hashStr plainHash r.algorithm = plain := funext (hashStr_plain r.algorithm)
  rw [recompute_parts hr hq (hex_of_cnonce hc), hshown, hr, computeDigest_eq, hnone, hc] at h
  simp only [expected, hh, hs, secret, if_true, Option.map_some, Option.getD_some, Option.getD_none,
    Option.some.injEq] at h
  have houter := plain_inj h
  rw [colons_three, colons_three (plain (colons [plain _,_,hexEncode _]))] at houter
  have hinner := plain_inj (cut_first (colon_not_mem_plain _) (colon_not_mem_plain _) houter).1
  rw [colons_three, colons_three (plain _) _ (hexEncode _)] at hinner
  have hempty : hexEncode random.1 = [] := by simpa using hinner
  have hlen := hexEncode_length random.1
  rw [hempty, random.2] at hlen
  cases hlen

end Necessary

/-! ## The credentials and their verifier -/

theorem legible_of_recompute {ch : DigestChallenge} {cred : DigestCredentials} {method uri : Text}
    {body : Option Bytes} {random : Octets 16} {r : DigestResponse}
    (h : Answers plainHash ch cred method uri body random r)
    (hparsed : ∀ o ∈ ch.opaqueValue, Parsed o)
    (hr : recompute plainHash cred.password method (body.getD []) r.toHeaderValue =
      some r.response) : Legible ch cred uri := by
  obtain ⟨ps,f,hf⟩ := recompute_some hr
  have hc : r.cnonce = r.qop.map fun _ => hexEncode random.1 := h.qop ▸ h.cnonce
  have husername := hf.quotable_username h.computed
  have hrealm := hf.quotable_realm h.computed husername
  have hnonce := hf.quotable_nonce h.computed husername hrealm
  have huri := hf.quotable_uri h.computed husername hrealm hnonce
  have hopaqueValue := hf.quotable_opaqueValue h.computed hc (h.opaqueValue ▸ hparsed) husername
      hrealm
    hnonce huri
  have hq : Quotable r := ⟨husername,hrealm,hnonce,huri,hopaqueValue⟩
  exact h.quotable_iff.mpr ⟨hq,session_shown h.computed hq hc hr⟩

/-- Whatever the hashes are, a verifier recomputes the response from the header,
exactly if no header is made at all or the header is legible. -/
theorem response_recomputed_iff {std : StdText} {headerValue : Text} {ch : DigestChallenge}
    (hparse : DigestChallenge.parse std headerValue = .ok ch) (cred : DigestCredentials)
    (method uri : Text) (body : Option Bytes) (nc : Option UInt32) (random : Octets 16) :
    (∀ (hash : HashFns) (r : DigestResponse),
      DigestResponse.fromChallenge hash ch cred method uri body nc random = .ok r →
      recompute hash cred.password method (body.getD []) r.toHeaderValue = some r.response) ↔
    (ch.realm = [] ∨ ch.nonce = [] ∨ Legible ch cred uri) := by
  constructor
  · intro h
    by_cases hrealm : ch.realm = []
    · exact .inl hrealm
    by_cases hnonce : ch.nonce = []
    · exact .inr (.inl hnonce)
    obtain ⟨r,hr⟩ := fromChallenge_exists plainHash ch cred method uri body nc random hrealm hnonce
    exact .inr (.inr (legible_of_recompute (fromChallenge_ok hr).2 (parse_opaqueValue hparse)
      (h plainHash r hr)))
  · intro h hash r hr
    obtain ⟨⟨hrealm,hnonce⟩,hanswers⟩ := fromChallenge_ok hr
    rcases h with hempty | hempty | hlegible
    · exact absurd hempty hrealm
    · exact absurd hempty hnonce
    · exact hanswers.recomputed hlegible

def sessionChallenge : Text :=
  "Digest realm=\"r\", nonce=\"n\", algorithm=MD5-sess, qop=\"none\""

def alice : DigestCredentials := ⟨"alice","secret"⟩

def zeroRandom : Octets 16 := StunMessage.zeroOctets 16

theorem plain_challenge_recomputed :
    ∃ ch, DigestChallenge.parse SdpAgreement.asciiText
        "Digest realm=\"r\", nonce=\"n\", qop=\"auth\"" = .ok ch ∧
      ∀ (hash : HashFns) (r : DigestResponse),
        DigestResponse.fromChallenge hash ch alice "REGISTER" "sip:r" none (some 1)
          zeroRandom = .ok r →
        recompute hash alice.password "REGISTER" [] r.toHeaderValue = some r.response := by
  let ch : DigestChallenge := ⟨['r'],['n'],none,false,.md5,some .auth,none⟩
  have hparse : DigestChallenge.parse SdpAgreement.asciiText
      "Digest realm=\"r\", nonce=\"n\", qop=\"auth\"" = .ok ch := by decide +kernel
  refine ⟨ch,hparse,(response_recomputed_iff hparse _ _ _ none _ _).mpr (.inr (.inr ?_))⟩
  constructor <;> decide +kernel

/-- The session key uses a client nonce that the header leaves out. -/
theorem session_nonce_not_sent :
    ¬∀ (std : StdText) (headerValue : Text) (ch : DigestChallenge),
      DigestChallenge.parse std headerValue = .ok ch → ∀ (cred : DigestCredentials)
        (method uri : Text) (body : Option Bytes) (nc : Option UInt32) (random : Octets 16)
        (hash : HashFns) (r : DigestResponse),
        DigestResponse.fromChallenge hash ch cred method uri body nc random = .ok r →
        recompute hash cred.password method (body.getD []) r.toHeaderValue = some r.response := by
  intro h
  let ch : DigestChallenge := ⟨['r'],['n'],none,false,.md5Sess,some .none,none⟩
  have hparse : DigestChallenge.parse SdpAgreement.asciiText sessionChallenge = .ok ch := by
    decide +kernel
  obtain ⟨r,hr⟩ := fromChallenge_exists plainHash ch alice "REGISTER" "sip:r"
    none none zeroRandom (by decide) (by decide)
  have hlegible := legible_of_recompute (fromChallenge_ok hr).2 (parse_opaqueValue hparse)
    (h _ _ ch hparse alice _ _ none none zeroRandom plainHash r hr)
  exact hlegible.session rfl rfl

end RsipRtp.DigestVerifier
