import RsipRtp.CallTransfer
import RsipRtp.SdpRoundTrip

/-!
# The Refer-To header of an attended transfer

The Replaces value is written into the URI percent-encoded.
-/

namespace RsipRtp.CallTransfer
open SipText TextShape Sdp SdpAgreement SdpRoundTrip

def replace (c : Char) (new s : Text) : Text := s.flatMap (fun x => if x = c then new else [x])

def urlEncode (s : Text) : Text :=
  replace '@' "%40" (replace '&' "%26" (replace '=' "%3D" (replace ';' "%3B"
    (replace '%' "%25" s))))

def hexDigit (c : Char) : Option ℕ :=
  if isAsciiDigit c then some (c.toNat-48)
  else if 'a' ≤ c ∧ c ≤ 'f' then some (c.toNat-87)
  else if 'A' ≤ c ∧ c ≤ 'F' then some (c.toNat-55)
  else none

/-- `u8::from_str_radix` in base 16, which accepts a plus sign before the digits. -/
def u8FromHex (s : Text) : Option ℕ :=
  let digits := (stripPrefix "+" s).getD s
  if digits.isEmpty then none
  else (digits.foldlM (fun n c => (hexDigit c).map (16*n+·)) 0).filter (· < 2^8)

def octet (hex : Text) : Text :=
  match u8FromHex hex with
  | some byte => [Char.ofNat byte]
  | none => '%'::hex

def urlDecode : Text → Text
  | [] => []
  | [c] => if c = '%' then octet [] else [c]
  | [c,a] => if c = '%' then octet [a] else c::urlDecode [a]
  | c::a::b::rest =>
    if c = '%' then octet [a,b]++urlDecode rest else c::urlDecode (a::b::rest)

def ReplacesHeader.toHeader (r : ReplacesHeader) : Text :=
  let s := r.callId++";to-tag="++r.toTag++";from-tag="++r.fromTag
  if r.earlyOnly then s++";early-only" else s

def ReplacesHeader.toUriParam (r : ReplacesHeader) : Text :=
  let encoded : Text := "Replaces="++urlEncode r.callId++"%3Bto-tag%3D"++urlEncode r.toTag++
    "%3Bfrom-tag%3D"++urlEncode r.fromTag
  if r.earlyOnly then encoded++"%3Bearly-only" else encoded

def ReferTo.toHeader (r : ReferTo) : Text :=
  match r.replaces with
  | some replaces => '<'::(r.uri++ '?'::replaces.toUriParam)++['>']
  | none => '<'::r.uri++['>']

structure Tags where
  toTag : Option Text
  fromTag : Option Text
  earlyOnly : Bool

def Tags.replaces (callId : Text) : Tags → Except TransferError ReplacesHeader
  | ⟨none,_,_⟩ => .error (.invalidReferTo "missing to-tag")
  | ⟨some _,none,_⟩ => .error (.invalidReferTo "missing from-tag")
  | ⟨some toTag,some fromTag,earlyOnly⟩ => .ok ⟨callId,toTag,fromTag,earlyOnly⟩

section Reader

variable (std : StdText)

def readPart (tags : Tags) (part : Text) : Tags :=
  let part := trim part
  match splitFirst '=' part with
  | some (key,value) =>
    if std.toLowercase key = "to-tag" then { tags with toTag := some value }
    else if std.toLowercase key = "from-tag" then { tags with fromTag := some value }
    else tags
  | none => if eqIgnoreAsciiCase part "early-only" then { tags with earlyOnly := true } else tags

def ReplacesHeader.parse (s : Text) : Except TransferError ReplacesHeader :=
  let parts := s.splitOn ';'
  let callId := trim (parts.headD [])
  let tags := parts.tail.foldl (readPart std) ⟨none,none,false⟩
  if callId.isEmpty then .error (.invalidReferTo "missing call-id") else tags.replaces callId

def parseReplacesParam (params : Text) : Except TransferError (Option ReplacesHeader) :=
  match (params.splitOn '&').findSome? (stripPrefix "Replaces=") with
  | some value => (ReplacesHeader.parse std (urlDecode value)).map some
  | none => .ok none

def ReferTo.parse (s : Text) : Except TransferError ReferTo :=
  let s := ((trim s).dropWhile (· == '<')).rdropWhile (· == '>')
  match splitFirst '?' s with
  | some (uri,params) => (parseReplacesParam std params).map (⟨uri,·⟩)
  | none => .ok ⟨s,none⟩

end Reader

section Coding

variable {s : Text}

theorem urlEncode_append (s t : Text) : urlEncode (s++t) = urlEncode s++urlEncode t := by
  simp only [urlEncode, replace, List.flatMap_append]

def hexDigits : Text := "0123456BD"

/-- A character stands for itself or is written as two digits of its code. -/
theorem urlEncode_char (c : Char) : (urlEncode [c] = [c] ∧ c ≠ '%' ∧ c ≠ '&') ∨
    ∃ a b, urlEncode [c] = ['%',a,b] ∧ octet [a,b] = [c] ∧ a ∈ hexDigits ∧ b ∈ hexDigits := by
  by_cases hc : c ∈ ['%',';','=','&','@']
  · right
    simp only [List.mem_cons, List.not_mem_nil, or_false] at hc
    rcases hc with rfl | rfl | rfl | rfl | rfl <;> exact ⟨_,_,rfl,by decide +kernel⟩
  · left
    simp only [List.mem_cons, List.not_mem_nil, or_false, not_or] at hc
    obtain ⟨hpercent,hsemi,heq,hamp,hat⟩ := hc
    simp [urlEncode, replace, hpercent, hsemi, heq, hamp, hat]

theorem urlDecode_cons {c : Char} (hc : c ≠ '%') : ∀ s, urlDecode (c::s) = c::urlDecode s
  | [] => if_neg hc
  | [_] => if_neg hc
  | _::_::_ => if_neg hc

theorem urlDecode_urlEncode (s : Text) : urlDecode (urlEncode s) = s := by
  induction s with
  | nil => rfl
  | cons c s ih =>
    rw [← List.singleton_append, urlEncode_append]
    obtain ⟨hself,hpercent,_⟩ | ⟨a,b,hcode,hoctet,_⟩ := urlEncode_char c
    · rw [hself]
      exact (urlDecode_cons hpercent _).trans (congrArg (c::·) ih)
    · rw [hcode]
      change (if '%' = '%' then octet [a,b]++urlDecode (urlEncode s) else _) = c::s
      rw [if_pos rfl, hoctet, ih]
      rfl

theorem mem_urlEncode {x : Char} (h : x ∈ urlEncode s) :
    x ∈ '%'::hexDigits ∨ x ∈ s ∧ x ≠ '&' := by
  induction s with
  | nil => cases h
  | cons c s ih =>
    rw [← List.singleton_append, urlEncode_append] at h
    rcases List.mem_append.mp h with h | h
    · obtain ⟨hself,_,hamp⟩ | ⟨a,b,hcode,_,ha,hb⟩ := urlEncode_char c
      · rw [hself, List.mem_singleton] at h
        exact .inr ⟨by simp [h],h ▸ hamp⟩
      · simp only [hcode, List.mem_cons, List.not_mem_nil, or_false] at h
        left
        rcases h with rfl | rfl | rfl <;> simp [ha, hb]
    · exact (ih h).imp id (And.imp_left (List.mem_cons_of_mem c))

theorem toUriParam_eq (r : ReplacesHeader) :
    r.toUriParam = "Replaces="++urlEncode r.toHeader := by
  have hto : urlEncode ";to-tag=" = "%3Bto-tag%3D" := by decide +kernel
  have hfrom : urlEncode ";from-tag=" = "%3Bfrom-tag%3D" := by decide +kernel
  have hearly : urlEncode ";early-only" = "%3Bearly-only" := by decide +kernel
  unfold ReplacesHeader.toUriParam ReplacesHeader.toHeader
  cases r.earlyOnly <;>
    simp only [Bool.false_eq_true, if_false, if_true, urlEncode_append, hto, hfrom, hearly,
      List.append_assoc]

end Coding

section RoundTrip

variable {std : StdText} {s : Text} {r : ReplacesHeader}

def ReplacesHeader.Separate (r : ReplacesHeader) : Prop :=
  ';' ∉ r.callId ∧ ';' ∉ r.toTag ∧ ';' ∉ r.fromTag

def Tags.Separate (tags : Tags) : Prop :=
  ∀ t, tags.toTag = some t ∨ tags.fromTag = some t → ';' ∉ t

theorem readPart_separate {tags : Tags} {part : Text} (hpart : ';' ∉ part) (h : tags.Separate) :
    (readPart std tags part).Separate := by
  unfold readPart
  dsimp only
  split
  · next key value hsplit =>
    have hvalue : ';' ∉ value := fun hmem => hpart (mem_of_mem_trim (by
      rw [(splitFirst_eq hsplit).1]
      simp [hmem]))
    split_ifs
    · rintro t (ht | ht)
      · exact Option.some.inj ht ▸ hvalue
      · exact h t (.inr ht)
    · rintro t (ht | ht)
      · exact h t (.inl ht)
      · exact Option.some.inj ht ▸ hvalue
    · exact h
  · split_ifs <;> exact h

/-- What is read between semicolons has none. -/
theorem parse_separate (h : ReplacesHeader.parse std s = .ok r) : r.Separate := by
  have hpieces : ∀ p ∈ s.splitOn ';', ';' ∉ p := fun p hp hmem => by
    simpa using splitOnP_forall hp ';' hmem
  have hhead : ';' ∉ (s.splitOn ';').headD [] := by
    cases hs : s.splitOn ';' with
    | nil => exact List.not_mem_nil
    | cons head tail => exact hpieces head (hs ▸ List.mem_cons_self)
  have htags : ((s.splitOn ';').tail.foldl (readPart std) ⟨none,none,false⟩).Separate :=
    List.foldlRecOn _ (readPart std) (by simp [Tags.Separate]) fun _ htags part hpart =>
      readPart_separate (hpieces part (List.mem_of_mem_tail hpart)) htags
  unfold ReplacesHeader.parse at h
  dsimp only at h
  split_ifs at h
  generalize (s.splitOn ';').tail.foldl (readPart std) ⟨none,none,false⟩ = tags at h htags
  match tags with
  | ⟨none,_,_⟩ => cases h
  | ⟨some _,none,_⟩ => cases h
  | ⟨some t,some f,_⟩ =>
    cases h
    exact ⟨fun hmem => hhead (mem_of_mem_trim hmem),htags t (.inl rfl),htags f (.inr rfl)⟩

structure Identifier (s : Text) : Prop where
  ne : s ≠ []
  plain : ∀ c ∈ s, isWhitespace c = false ∧ c ≠ '<' ∧ c ≠ '>'

theorem Identifier.not_mem (h : Identifier s) : '<' ∉ s ∧ '>' ∉ s :=
  ⟨fun hmem => (h.plain _ hmem).2.1 rfl,fun hmem => (h.plain _ hmem).2.2 rfl⟩

theorem readPart_pair (hstd : LowersAscii std) (h : Identifier s) (tags : Tags) (key : Text)
    (hkey : ∀ c ∈ key, (c ≠ '=' ∧ isWhitespace c = false) ∧ c.toNat < 128 ∧ c.toLower = c) :
    readPart std tags (key++ '='::s) = if key = "to-tag" then { tags with toTag := some s }
      else if key = "from-tag" then { tags with fromTag := some s } else tags := by
  have htrim : trim (key++ '='::s) = key++ '='::s := by
    refine trim_of_forall fun c hc => ?_
    rcases List.mem_append.mp hc with hc | hc
    · exact (hkey c hc).1.2
    · rcases List.mem_cons.mp hc with rfl | hc
      · decide
      · exact (h.plain c hc).1
  have hlower : std.toLowercase key = key := by
    rw [hstd key fun c hc => (hkey c hc).2.1, toAsciiLowercase,
      List.map_congr_left fun c hc => (hkey c hc).2.2, List.map_id']
  unfold readPart
  dsimp only
  rw [htrim, splitFirst_append fun hmem => (hkey _ hmem).1.1 rfl]
  dsimp only
  rw [hlower]

/-- The parts of a Replaces value as they stand between the semicolons. -/
def ReplacesHeader.parts (r : ReplacesHeader) : List Text :=
  r.callId::("to-tag="++r.toTag)::("from-tag="++r.fromTag)::
    if r.earlyOnly then ["early-only".toList] else []

theorem toHeader_eq (r : ReplacesHeader) : r.toHeader = [';'].intercalate r.parts := by
  unfold ReplacesHeader.toHeader ReplacesHeader.parts
  cases r.earlyOnly <;> simp [List.intercalate]

theorem parse_toHeader (hstd : LowersAscii std) (hcall : Identifier r.callId)
    (hto : Identifier r.toTag) (hfrom : Identifier r.fromTag) (h : r.Separate) :
    ReplacesHeader.parse std r.toHeader = .ok r := by
  have hfree : ∀ p ∈ r.parts, ';' ∉ p := by
    obtain ⟨hc,ht,hf⟩ := h
    unfold ReplacesHeader.parts
    cases r.earlyOnly <;> simp [hc, ht, hf]
  have hreadTo (tags : Tags) : readPart std tags ("to-tag="++r.toTag) =
      { tags with toTag := some r.toTag } :=
    (readPart_pair hstd hto tags "to-tag" (forall_of_all (by decide +kernel))).trans rfl
  have hreadFrom (tags : Tags) : readPart std tags ("from-tag="++r.fromTag) =
      { tags with fromTag := some r.fromTag } :=
    (readPart_pair hstd hfrom tags "from-tag" (forall_of_all (by decide +kernel))).trans rfl
  have htags : r.parts.tail.foldl (readPart std) ⟨none,none,false⟩ =
      ⟨some r.toTag,some r.fromTag,r.earlyOnly⟩ := by
    refine (congrArg (List.foldl (readPart std) · (if r.earlyOnly then ["early-only".toList]
      else [])) ((congrArg (readPart std · _) (hreadTo _)).trans (hreadFrom _))).trans ?_
    cases r.earlyOnly <;> rfl
  have hid : trim (r.parts.headD []) = r.callId :=
    trim_of_forall fun c hc => (hcall.plain c hc).1
  rw [ReplacesHeader.parse, toHeader_eq, List.splitOn_intercalate ';' hfree (List.cons_ne_nil _ _),
    htags, hid, if_neg (by simpa using hcall.ne), Tags.replaces]

theorem toUriParam_not_mem {c : Char} (hc : c ∈ ['<','>']) (hcall : c ∉ r.callId)
    (hto : c ∉ r.toTag) (hfrom : c ∉ r.fromTag) : c ∉ r.toUriParam := by
  rw [toUriParam_eq, List.mem_append, not_or]
  simp only [List.mem_cons, List.not_mem_nil, or_false] at hc
  have hheader : c ∉ r.toHeader := by
    unfold ReplacesHeader.toHeader
    rcases hc with rfl | rfl <;> cases r.earlyOnly <;> simp [hcall, hto, hfrom]
  have hdigits : c ∉ '%'::hexDigits := by rcases hc with rfl | rfl <;> decide
  exact ⟨by rcases hc with rfl | rfl <;> decide,
    fun h => (mem_urlEncode h).elim hdigits fun h => hheader h.1⟩

theorem unbracket {inner : Text} (hlt : '<' ∉ inner) (hgt : '>' ∉ inner) :
    ((trim ('<'::inner++['>'])).dropWhile (· == '<')).rdropWhile (· == '>') = inner := by
  have htrim : trim ('<'::inner++['>']) = '<'::inner++['>'] := by
    rw [trim, trimStart, List.cons_append, List.dropWhile_cons_of_neg (by decide),
      ← List.cons_append, trimEnd, List.rdropWhile_concat_neg _ _ _ (by decide)]
  have hstart : (inner++['>']).dropWhile (· == '<') = inner++['>'] := by
    cases inner with
    | nil => rfl
    | cons c inner =>
      exact List.dropWhile_cons_of_neg (by simpa using fun h : c = '<' => hlt (by simp [h]))
  rw [htrim, List.cons_append, List.dropWhile_cons_of_pos (by decide), hstart,
    List.rdropWhile_concat_pos _ _ _ (by decide)]
  refine List.rdropWhile_eq_self_iff.mpr fun hne h => hgt ?_
  rw [← beq_iff_eq.mp h]
  exact List.getLast_mem hne

theorem parse_attended {uri : Text} (hask : '?' ∉ uri) (hlt : '<' ∉ uri) (hgt : '>' ∉ uri)
    (hcall : Identifier r.callId) (hto : Identifier r.toTag) (hfrom : Identifier r.fromTag) :
    ReferTo.parse std (ReferTo.attended uri r).toHeader =
      (ReplacesHeader.parse std r.toHeader).map (ReferTo.attended uri) := by
  have hinner := @unbracket (uri++ '?'::r.toUriParam)
    (by simp [hlt, toUriParam_not_mem (c := '<') (by simp) hcall.not_mem.1 hto.not_mem.1
      hfrom.not_mem.1])
    (by simp [hgt, toUriParam_not_mem (c := '>') (by simp) hcall.not_mem.2 hto.not_mem.2
      hfrom.not_mem.2])
  have hamp : '&' ∉ r.toUriParam := by
    rw [toUriParam_eq, List.mem_append, not_or]
    exact ⟨by decide,fun h => (mem_urlEncode h).elim (by decide) fun h => h.2 rfl⟩
  have hwhole : r.toUriParam.splitOn '&' = [r.toUriParam] :=
    List.splitOnP_eq_singleton fun c hc => beq_false_of_ne fun heq => hamp (heq ▸ hc)
  have hparams : parseReplacesParam std r.toUriParam =
      (ReplacesHeader.parse std r.toHeader).map some := by
    have hvalue : stripPrefix "Replaces=" r.toUriParam = some (urlEncode r.toHeader) := by
      rw [toUriParam_eq]
      rfl
    rw [parseReplacesParam, hwhole, List.findSome?_cons, hvalue]
    dsimp only
    rw [urlDecode_urlEncode]
  unfold ReferTo.parse ReferTo.attended ReferTo.toHeader
  dsimp only
  rw [hinner, splitFirst_append hask]
  dsimp only
  rw [hparams]
  cases ReplacesHeader.parse std r.toHeader <;> rfl

/-- The Refer-To of an attended transfer is read back exactly if no semicolon
stands in the Call-ID or in a tag. -/
theorem attended_reread_iff (std : StdText) (uri : Text) (r : ReplacesHeader)
    (hstd : LowersAscii std) (hask : '?' ∉ uri) (hlt : '<' ∉ uri) (hgt : '>' ∉ uri)
    (hcall : Identifier r.callId) (hto : Identifier r.toTag) (hfrom : Identifier r.fromTag) :
    ReferTo.parse std (ReferTo.attended uri r).toHeader = .ok (ReferTo.attended uri r) ↔
      r.Separate := by
  rw [parse_attended hask hlt hgt hcall hto hfrom]
  constructor
  · intro h
    obtain ⟨r',hparse,heq⟩ := map_ok h
    cases heq
    exact parse_separate hparse
  · intro h
    rw [parse_toHeader hstd hcall hto hfrom h]
    rfl

end RoundTrip

def coded : ReplacesHeader := ⟨"a=b%3B&c@host","t=1","f",true⟩

theorem coded_reread : ReferTo.parse asciiText (ReferTo.attended "sip:bob@host" coded).toHeader =
    .ok (ReferTo.attended "sip:bob@host" coded) :=
  have identifier {s : Text} (hne : s ≠ []) (hall : s.all (fun c =>
      decide (isWhitespace c = false ∧ c ≠ '<' ∧ c ≠ '>')) = true) : Identifier s :=
    ⟨hne,forall_of_all hall⟩
  (attended_reread_iff asciiText "sip:bob@host" coded (fun _ _ => rfl) (by decide) (by decide)
    (by decide) (identifier (by decide) (by decide +kernel))
    (identifier (by decide) (by decide +kernel)) (identifier (by decide) (by decide +kernel))).mpr
      ⟨by decide,by decide,by decide⟩

theorem semicolon_cut : ReferTo.parse asciiText
    (ReferTo.attended "sip:bob@host" ⟨"a;b","t","f",false⟩).toHeader =
      .ok (ReferTo.attended "sip:bob@host" ⟨"a","t","f",false⟩) := by
  decide +kernel

end RsipRtp.CallTransfer
