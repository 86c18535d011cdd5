import RsipRtp.NameAddrText
import RsipRtp.SipRoundTrip

/-!
# The response to a request

A response copies the headers that identify the transaction, and its `To` gets
a tag when the request had none.
-/

namespace RsipRtp.SipReply
open SipText SipHeader TextShape NameAddrText SipFraming SipHeaderBlock SipRoundTrip
open SipMessage hiding Message

section Tokens

def isTokenChar (c : Char) : Bool := c.isAlphanum || "-.!%*_+`'~".toList.contains c

/-- A `token` of the SIP grammar. -/
structure Token (t : Text) : Prop where
  ne : t ≠ []
  chars : t.all isTokenChar = true

variable {t : Text}

theorem Token.not_mem {c : Char} (ht : Token t) (hc : isTokenChar c = false) : c ∉ t := by
  intro hmem
  have htrue := List.all_eq_true.mp ht.chars c hmem
  rw [hc] at htrue
  cases htrue

theorem isTokenChar_visible {c : Char} (h : isTokenChar c = true) : isWhitespace c = false := by
  rcases Bool.or_eq_true_iff.mp h with halnum | hmark
  · delta Char.isAlphanum Char.isAlpha Char.isUpper Char.isLower Char.isDigit at halnum
    simp only [Bool.or_eq_true, Bool.and_eq_true, decide_eq_true_eq, UInt32.le_iff_toNat_le,
      ge_iff_le] at halnum
    change ((65 ≤ c.toNat ∧ c.toNat ≤ 90) ∨ (97 ≤ c.toNat ∧ c.toNat ≤ 122)) ∨
      (48 ≤ c.toNat ∧ c.toNat ≤ 57) at halnum
    exact isWhitespace_visible (by omega) (by omega)
  · have hall : "-.!%*_+`'~".toList.all (fun c => !isWhitespace c) = true := by decide
    simpa using List.all_eq_true.mp hall c (List.contains_iff_mem.mp hmark)

theorem Token.trim_eq (ht : Token t) : trim t = t :=
  trim_of_forall (fun c hc => isTokenChar_visible (List.all_eq_true.mp ht.chars c hc))

/-- The text that `to_tag` appends. -/
def tagSuffix (t : Text) : Text := ";tag="++t

theorem tagSuffix_last (ht : Token t) : ∃ z c, tagSuffix t = z++[c] ∧ isWhitespace c = false := by
  refine ⟨";tag="++t.dropLast,t.getLast ht.ne,?_,?_⟩
  · rw [List.append_assoc, List.dropLast_append_getLast]
    rfl
  · exact isTokenChar_visible (List.all_eq_true.mp ht.chars _ (List.getLast_mem ht.ne))

theorem parseParam_tag (ht : Token t) :
    parseParam ("tag=".toList++t) = some ("tag".toList,some t) := by
  have htrim : trim ("tag=".toList++t) = "tag=".toList++t := by
    refine trim_of_forall (fun c hc => ?_)
    rcases List.mem_append.mp hc with hc | hc
    · have hall : "tag=".toList.all (fun c => !isWhitespace c) = true := by decide
      simpa using List.all_eq_true.mp hall c hc
    · exact isTokenChar_visible (List.all_eq_true.mp ht.chars c hc)
  have hsplit : splitFirst '=' ("tag=".toList++t) = some ("tag".toList,t) :=
    splitFirst_append (a := "tag".toList) (by decide)
  rw [parseParam, htrim]
  simp only [hsplit, ht.trim_eq]
  rfl

end Tokens

section Tags

def isTag (p : Text × Option Text) : Bool := eqIgnoreAsciiCase p.1 "tag"

def unclosed (w : Text) : Bool :=
  match nameAddrCut w (trim w) with
  | .ok (_,_,after) => quoteOpen false after
  | .error _ => false

/-- When a tag can be appended: behind closed quotes unless the first tag
parameter has no value, behind an open quote only if a tag comes before the
parameter that holds the quote. -/
def Appendable (w : Text) (a : NameAddr) : Prop :=
  if unclosed w then (findParam "tag" a.parameters.dropLast).isSome = true
  else ∀ p, a.parameters.find? isTag = some p → p.2.isSome = true

instance (w : Text) (a : NameAddr) : Decidable (Appendable w a) :=
  if h : unclosed w then
    decidable_of_iff ((findParam "tag" a.parameters.dropLast).isSome = true) (by
      rw [Appendable, if_pos h])
  else
    decidable_of_iff ((a.parameters.find? isTag).all (·.2.isSome) = true) (by
      rw [Appendable, if_neg h]
      cases a.parameters.find? isTag <;> simp)

variable {t w last : Text} {ps init : List (Text × Option Text)}

theorem findParam_append (name : Text) (ps qs : List (Text × Option Text)) :
    findParam name (ps++qs) = ((ps.find? (fun p => eqIgnoreAsciiCase p.1 name)).or
      (qs.find? (fun p => eqIgnoreAsciiCase p.1 name))).bind Prod.snd := by
  rw [findParam, List.find?_append]

theorem findParam_tagged (ps : List (Text × Option Text)) (t : Text) :
    findParam "tag".toList (ps++[("tag".toList,some t)]) = (findParam "tag".toList ps).or (some t) ↔
      ∀ p, ps.find? isTag = some p → p.2.isSome := by
  rw [findParam_append, findParam]
  change (((ps.find? isTag).or (some ("tag",some t))).bind Prod.snd =
    ((ps.find? isTag).bind Prod.snd).or (some t)) ↔ _
  rcases ps.find? isTag with _ | ⟨k,_ | v⟩ <;> simp

theorem findParam_single (q : Text × Option Text) :
    findParam "tag" [q] = if isTag q then q.2 else none := by
  rw [findParam, List.find?_singleton]
  change (if isTag q then some q else none).bind Prod.snd = _
  split_ifs <;> rfl

theorem parseParam_eq {chunk : Text} (h : trim chunk ≠ []) :
    parseParam chunk = match splitFirst '=' (trim chunk) with
      | some (k,v) => some (trim k,some (trim v))
      | none => some (trim chunk,none) := by
  have hne : ¬(trim chunk).isEmpty = true := by simpa using h
  exact if_neg hne

theorem trim_longer (ht : Token t) (v tl : Text) :
    (trim v).length < (trim (v++(tl++tagSuffix t))).length := by
  obtain ⟨z,c,hz,hc⟩ := tagSuffix_last ht
  rw [hz, ← List.append_assoc tl]
  by_cases hv : trimStart v = []
  · have hmem : c ∈ trim (v++(tl++z++[c])) := mem_trim (by simp) hc
    rw [trim, hv]
    exact List.length_pos_of_mem hmem
  · have hle : (trim v).length ≤ (trimStart v).length :=
      (List.rdropWhile_prefix _ _).length_le
    rw [trim_append hv hc, List.length_append, List.length_append, List.length_singleton]
    omega

/-- What an open parameter becomes when the tag is written behind it: its
value grows, or its name is no longer `tag`. -/
theorem swallowed_tag (ht : Token t) (hquote : '"' ∈ last) :
    ∃ q q', parseParam last = some q ∧ parseParam (last++tagSuffix t) = some q' ∧
      findParam "tag" [q'] ≠ (findParam "tag" [q]).or (some t) := by
  have hmem : '"' ∈ trim last := mem_trim hquote (by decide)
  have hne : trim last ≠ [] := List.ne_nil_of_mem hmem
  obtain ⟨tl,htl⟩ : trim last <+: trimStart last := List.rdropWhile_prefix _ _
  have hstart : trimStart last ≠ [] := by
    rw [← htl]
    exact List.append_ne_nil_of_left_ne_nil hne _
  have htrim : trim (last++tagSuffix t) = trim last++(tl++tagSuffix t) := by
    obtain ⟨z,c,hz,hc⟩ := tagSuffix_last ht
    rw [hz, trim_append hstart hc, ← htl, List.append_assoc]
  have hne' : trim (last++tagSuffix t) ≠ [] := by
    rw [htrim]
    exact List.append_ne_nil_of_left_ne_nil hne _
  rw [parseParam_eq hne, parseParam_eq hne', htrim]
  cases hsplit : splitFirst '=' (trim last) with
  | some p =>
    obtain ⟨k,v⟩ := p
    rw [splitFirst_extend hsplit]
    refine ⟨_,_,rfl,rfl,?_⟩
    rw [findParam_single, findParam_single]
    change (if isTag (trim k,none) then some (trim (v++(tl++tagSuffix t))) else none) ≠
      (if isTag (trim k,none) then some (trim v) else none).or (some t)
    split_ifs
    · intro heq
      have hlen := trim_longer ht v tl
      rw [Option.some.inj heq] at hlen
      exact Nat.lt_irrefl _ hlen
    · intro heq
      cases heq
  | none =>
    have hequal : '=' ∉ last := fun hmem => splitFirst_not_mem hsplit (mem_trim hmem (by decide))
    have hkey : '=' ∉ trim last++(tl++";tag") := by
      rw [← List.append_assoc, htl]
      intro hmem
      rcases List.mem_append.mp hmem with hmem | hmem
      · exact hequal ((List.dropWhile_sublist _).subset hmem)
      · exact absurd hmem (by decide)
    have hcut : trim last++(tl++tagSuffix t) = trim last++(tl++";tag")++ '='::t := by
      rw [List.append_assoc, List.append_assoc]
      rfl
    rw [hcut, splitFirst_append hkey]
    refine ⟨_,_,rfl,rfl,?_⟩
    have hname : isTag (trim (trim last++(tl++";tag")),some (trim t)) = false := by
      rw [isTag, eqIgnoreAsciiCase, beq_eq_false_iff_ne]
      intro heq
      have hin : '"' ∈ trim (trim last++(tl++";tag")) :=
        mem_trim (List.mem_append_left _ hmem) (by decide)
      have hlower := List.mem_map_of_mem (f := Char.toLower) hin
      rw [toAsciiLowercase] at heq
      rw [heq] at hlower
      exact absurd hlower (by decide)
    rw [findParam_single, findParam_single, if_neg (by rw [hname]; exact Bool.false_ne_true)]
    intro heq
    split_ifs at heq <;> cases heq

theorem findParam_swallowed {q q' : Text × Option Text}
    (hne : findParam "tag" [q'] ≠ (findParam "tag" [q]).or (some t)) :
    findParam "tag" (init++[q']) = (findParam "tag" (init++[q])).or (some t) ↔
      (findParam "tag" init).isSome = true := by
  rw [findParam_append, findParam_append, findParam]
  rw [findParam, findParam] at hne
  change (((init.find? isTag).or ([q'].find? isTag)).bind Prod.snd =
    (((init.find? isTag).or ([q].find? isTag)).bind Prod.snd).or (some t)) ↔
      ((init.find? isTag).bind Prod.snd).isSome = true
  rcases init.find? isTag with _ | ⟨k,_ | v⟩
  · exact iff_of_false hne Bool.false_ne_true
  · exact iff_of_false (fun heq => by cases heq) Bool.false_ne_true
  · exact iff_of_true rfl rfl

/-- The tag that is read behind a `To` value after one has been appended. -/
theorem parseNameAddr_tagged {a : NameAddr} (hw : trim w = w) (ht : Token t)
    (h : parseNameAddr w = .ok a) :
    ∃ ps, parseNameAddr (w++tagSuffix t) = .ok { a with parameters := ps } ∧
      (findParam "tag" ps = a.tag.or (some t) ↔ Appendable w a) := by
  obtain ⟨hne,u,after,hcut,huri,hparams⟩ := parseNameAddr_iff.mp h
  rw [hw] at hne hcut
  have hy : '<' ∉ tagSuffix t := by
    simpa [tagSuffix] using ht.not_mem (c := '<') (by decide)
  have hquote : '"' ∉ tagSuffix t := by
    simpa [tagSuffix] using ht.not_mem (c := '"') (by decide)
  have hunclosed : unclosed w = quoteOpen false after := by rw [unclosed, hw, hcut]
  have htrim : trim (w++tagSuffix t) = w++tagSuffix t := by
    obtain ⟨z,c,hz,hc⟩ := tagSuffix_last ht
    have hstart : trimStart w = w := trimStart_of_trim hw
    rw [hz, trim_append (by rw [hstart]; exact hne) hc, hstart]
  have hcut' : nameAddrCut (w++tagSuffix t) (trim (w++tagSuffix t)) =
      .ok (a.displayName,u,after++tagSuffix t) := by
    rw [htrim]
    exact nameAddrCut_append hcut (anchored_of_not_mem hy)
  have hread : ∀ ps, parseParams nameAddrTrailing (after++tagSuffix t) = .ok ps →
      parseNameAddr (w++tagSuffix t) = .ok { a with parameters := ps } := fun ps hps =>
    parseNameAddr_iff.mpr ⟨by rw [htrim]; simp [tagSuffix],u,_,hcut',huri,hps⟩
  cases hopen : quoteOpen false after with
  | false =>
    have hsemi : ';' ∉ "tag=".toList++t := by
      simpa using ht.not_mem (c := ';') (by decide)
    have hplain : '"' ∉ "tag=".toList++t := fun hmem => hquote (List.mem_cons_of_mem _ hmem)
    have hps := parseParams_append (x := "tag="++t) hopen hparams
    rw [topLevelChunks_plain hsemi hplain] at hps
    refine ⟨_,hread _ hps,?_⟩
    rw [Appendable, hunclosed, hopen, if_neg Bool.false_ne_true]
    have hchunk : ["tag=".toList++t].filterMap parseParam = [("tag".toList,some t)] := by
      rw [List.filterMap_cons, parseParam_tag ht]
      rfl
    rw [hchunk]
    exact findParam_tagged a.parameters t
  | true =>
    obtain ⟨init,last,hmem,hinit,hswallow⟩ := parseParams_swallow hopen hparams
    obtain ⟨q,q',hq,hq',hdiff⟩ := swallowed_tag (t := t) ht hmem
    rw [hq] at hinit
    have hps := hswallow (tagSuffix t) hquote
    rw [hq'] at hps
    refine ⟨_,hread _ hps,?_⟩
    rw [Appendable, hunclosed, hopen, if_pos rfl, NameAddr.tag, hinit]
    change _ ↔ (findParam "tag" (init++[q]).dropLast).isSome = true
    rw [List.dropLast_concat]
    exact findParam_swallowed hdiff

end Tags

theorem parseCSeq_lt {value : Text} {c : CSeq} (h : parseCSeq value = .ok c) : c.seq < 2^32 := by
  rw [parseCSeq] at h
  split at h
  · cases h
  · cases h
  · split at h
    · cases h
    · next hseq =>
      split at h
      · cases h
      · cases h
        exact parseUnsigned_lt hseq
  · cases h

theorem parseCSeq_text {n : ℕ} (hn : n < 2^32) (m : Method) :
    parseCSeq (natText n++ ' '::m.asStr) = .ok { seq := n, method := m } := by
  rw [parseCSeq, splitWhitespace_pair (natText_word n) (method_word m)]
  simp only [parseU32, parseUnsigned_natText hn, methodFromStr_asStr]

theorem parseCSeq_mirror {req : SipRequest} {raw : Text}
    (hraw : firstValue req.inner.headers "CSeq" = .ok raw) :
    asParse (parseCSeq (SipResponseBuilder.mirrorCSeq req raw)) = typedCSeq req.inner.headers := by
  have htyped : typedCSeq req.inner.headers = asParse (parseCSeq raw) := by
    rw [typedCSeq, hraw]
    rfl
  rw [SipResponseBuilder.mirrorCSeq, SipRequest.cseq, SipRequest.cseqMethod, htyped]
  cases hparse : parseCSeq raw with
  | error e => exact congrArg asParse hparse
  | ok c =>
    change asParse (parseCSeq (natText c.seq++ ' '::c.method.asStr)) = _
    rw [parseCSeq_text (parseCSeq_lt hparse)]

section Replies
variable {hs : Headers}

open SipResponseBuilder

theorem getFirst_named {query : Text} {mk : Text → Header}
    {sel : Header → Option Text} (hmatch : ∀ v, (mk v).nameMatches query = true)
    (hsel : ∀ v, sel (mk v) = some v) (hmk : ∀ h v, sel h = some v → h = mk v)
    (honly : ∀ h ∈ hs.inner, h.nameMatches query = true → h = mk h.value) :
    hs.getFirst query = (hs.inner.findSome? sel).map mk := by
  rw [Headers.getFirst]
  generalize hs.inner = list at honly ⊢
  induction list with
  | nil => rfl
  | cons h list ih =>
    have hrest := ih (fun h' hmem => honly h' (List.mem_cons_of_mem h hmem))
    cases hname : h.nameMatches query with
    | true =>
      have hkind := honly h List.mem_cons_self hname
      have hvalue : sel h = some h.value := by
        rw [hkind, hsel]
        exact congrArg (fun h => some (Header.value h)) hkind
      rw [List.findSome?_cons, hvalue, List.find?_cons, hname]
      exact congrArg some hkind
    | false =>
      have hnone : sel h = none := by
        cases hv : sel h with
        | none => rfl
        | some v =>
          rw [hmk h v hv, hmatch] at hname
          cases hname
      rw [List.findSome?_cons, hnone, List.find?_cons, hname]
      exact hrest

variable {hs : Headers}

theorem getFirst_from (hgood : ∀ h ∈ hs.inner, Good h) :
    hs.getFirst "From" = (hs.inner.findSome? firstFrom).map .from :=
  getFirst_named (fun _ => rfl) (fun _ => rfl) (fun h v hv => by cases h <;> cases hv; rfl)
    (fun h hmem => named_of_matches (e := ("from",.from)) (hgood h hmem) rfl (by decide))

theorem getFirst_to (hgood : ∀ h ∈ hs.inner, Good h) :
    hs.getFirst "To" = (hs.inner.findSome? firstTo).map .to :=
  getFirst_named (fun _ => rfl) (fun _ => rfl) (fun h v hv => by cases h <;> cases hv; rfl)
    (fun h hmem => named_of_matches (e := ("to",.to)) (hgood h hmem) rfl (by decide))

theorem getFirst_callId (hgood : ∀ h ∈ hs.inner, Good h) :
    hs.getFirst "Call-ID" = (hs.inner.findSome? firstCallId).map .callId :=
  getFirst_named (fun _ => rfl) (fun _ => rfl) (fun h v hv => by cases h <;> cases hv; rfl)
    (fun h hmem => named_of_matches (e := ("call-id",.callId)) (hgood h hmem) rfl (by decide))

theorem getFirst_cseq (hgood : ∀ h ∈ hs.inner, Good h) :
    hs.getFirst "CSeq" = (hs.inner.findSome? firstCSeq).map .cseq :=
  getFirst_named (fun _ => rfl) (fun _ => rfl) (fun h v hv => by cases h <;> cases hv; rfl)
    (fun h hmem => named_of_matches (e := ("cseq",.cseq)) (hgood h hmem) rfl (by decide))

def reply (req : SipRequest) (code : ℕ) (reason t : Text) : Except SipError SipResponse :=
  ((((({} : SipResponseBuilder).status code reason).fromRequest req).setToTag t)).build

structure Answers (req : SipRequest) (t : Text) (resp : SipResponse) : Prop where
  toTag : resp.toTag = req.toTag.or (some t)
  vias : resp.viaHeadersRaw = req.viaHeadersRaw
  fromValue : firstValue resp.inner.headers "From" =
    firstValue req.inner.headers "From"
  callId : resp.callId = req.callId
  cseq : resp.cseq = req.cseq
  cseqMethod : resp.cseqMethod = req.cseqMethod

def newTo (w t : Text) : Text := if "tag=" <:+: w then w else w++tagSuffix t

def replyHeaders (req : SipRequest) (w t : Text) : List Header :=
  let hs := req.inner.headers.inner
  req.viaHeadersRaw.map Header.via++((hs.findSome? firstFrom).map Header.from).toList++
    [Header.to (newTo w t)]++((hs.findSome? firstCallId).map Header.callId).toList++
    (((hs.findSome? firstCSeq).map (mirrorCSeq req)).map Header.cseq).toList++
    [Header.contentLength (natText 0)]

variable {req : SipRequest} {w t reason : Text} {code : ℕ} {resp : SipResponse}

theorem setToTag_some {b : SipResponseBuilder} (hb : b.toValue = some w) :
    b.setToTag t = { b with toValue := some (newTo w t) } := by
  rw [setToTag, hb, newTo]
  dsimp only
  split_ifs
  · rw [← hb]
  · rw [tagSuffix, List.append_assoc]

theorem reply_headers (hto : req.inner.headers.inner.findSome? firstTo = some w) :
    (((({} : SipResponseBuilder).status code reason).fromRequest req).setToTag t).headerList =
      replyHeaders req w t := by
  have hb : ((({} : SipResponseBuilder).status code reason).fromRequest req).toValue = some w := by
    simp only [fromRequest, hto, Option.some_or]
  rw [setToTag_some hb]
  simp only [headerList, otherHeaders, fromRequest, status, replyHeaders, Option.or_none,
    List.nil_append, Option.map_some, Option.toList_some, Option.map_none, Option.toList_none,
    List.append_nil, Option.getD_none, List.isEmpty_nil, if_true, List.length_nil]

theorem reply_ok (hto : req.inner.headers.inner.findSome? firstTo = some w) :
    reply req code reason t = .ok resp ↔ ∃ hs : Headers, hs.inner = replyHeaders req w t ∧
      resp = ⟨{ version := "SIP/2.0", statusCode := code, reason, headers := hs,
                body := [] }⟩ := by
  have hb : ((({} : SipResponseBuilder).status code reason).fromRequest req).toValue = some w := by
    simp only [fromRequest, hto, Option.some_or]
  have hbuild : reply req code reason t =
      ((replyHeaders req w t).foldlM SipRequestBuilder.pushChecked Headers.empty).map (fun hs =>
        ⟨{ version := "SIP/2.0", statusCode := code, reason, headers := hs,
           body := [] }⟩) := by
    rw [reply, build, reply_headers hto, setToTag_some hb]
    rfl
  rw [hbuild]
  constructor
  · intro h
    obtain ⟨hs,hpush,heq⟩ := map_ok h
    exact ⟨hs,pushAll_ok.mp hpush,heq.symm⟩
  · rintro ⟨hs,hinner,rfl⟩
    rw [pushAll_ok.mpr hinner]
    rfl

theorem find?_via {query : Text} (vs : List Text)
    (h : ∀ v, (Header.via v).nameMatches query = false) :
    (vs.map Header.via).find? (·.nameMatches query) = none := by
  rw [List.find?_eq_none]
  intro h' hmem
  obtain ⟨v,-,rfl⟩ := List.mem_map.mp hmem
  rw [h v]
  exact Bool.false_ne_true

theorem reply_lookup (hinner : hs.inner = replyHeaders req w t) :
    hs.getFirst "From" = (req.inner.headers.inner.findSome? firstFrom).map .from ∧
      hs.getFirst "To" = some (.to (newTo w t)) ∧
      hs.getFirst "Call-ID" = (req.inner.headers.inner.findSome? firstCallId).map .callId ∧
      hs.getFirst "CSeq" =
        ((req.inner.headers.inner.findSome? firstCSeq).map (mirrorCSeq req)).map .cseq := by
  simp only [Headers.getFirst, hinner, replyHeaders, List.find?_append]
  rw [find?_via _ (fun _ => rfl), find?_via _ (fun _ => rfl), find?_via _ (fun _ => rfl),
    find?_via _ (fun _ => rfl)]
  generalize req.inner.headers.inner.findSome? firstFrom = f
  generalize req.inner.headers.inner.findSome? firstCallId = c
  generalize (req.inner.headers.inner.findSome? firstCSeq).map (mirrorCSeq req) = s
  refine ⟨?_,?_,?_,?_⟩ <;> rcases f with _ | _ <;> rcases c with _ | _ <;> rcases s with _ | _ <;>
    rfl

theorem reply_vias (hinner : hs.inner = replyHeaders req w t) :
    (hs.inner.filterMap fun | .via v => some v | _ => none) = req.viaHeadersRaw := by
  have hcopy : (req.viaHeadersRaw.map Header.via).filterMap
      (fun | .via v => some v | _ => none) = req.viaHeadersRaw := by
    rw [List.filterMap_map]
    exact List.filterMap_some
  rw [hinner]
  simp only [replyHeaders, List.filterMap_append, hcopy]
  generalize req.inner.headers.inner.findSome? firstFrom = f
  generalize req.inner.headers.inner.findSome? firstCallId = c
  generalize (req.inner.headers.inner.findSome? firstCSeq).map (mirrorCSeq req) = s
  rcases f with _ | _ <;> rcases c with _ | _ <;> rcases s with _ | _ <;> simp

theorem toTag_of_getFirst {value : Text}
    (hfirst : hs.getFirst "To" = some (.to value)) :
    RsipRtp.SipMessage.toTag hs = (ok (parseNameAddr value)).bind NameAddr.tag := by
  rw [RsipRtp.SipMessage.toTag, hfirst]
  rfl

/-- When the tag of the response is what it should be: the text `tag=` occurs
in the value of a `To` with a tag, or it does not and a tag can be appended. -/
def TagSettled (w : Text) (a : NameAddr) : Prop :=
  if "tag=" <:+: w then a.tag.isSome = true else Appendable w a

instance (w : Text) (a : NameAddr) : Decidable (TagSettled w a) :=
  inferInstanceAs (Decidable (if "tag=" <:+: w then a.tag.isSome = true else Appendable w a))

theorem newTo_tag {a : NameAddr} (hw : trim w = w) (ht : Token t)
    (haddr : parseNameAddr w = .ok a) :
    (ok (parseNameAddr (newTo w t))).bind NameAddr.tag = a.tag.or (some t) ↔ TagSettled w a := by
  rw [TagSettled, newTo]
  split_ifs
  · rw [haddr]
    change a.tag = a.tag.or (some t) ↔ _
    cases a.tag <;> simp
  · obtain ⟨ps,hps,hiff⟩ := parseNameAddr_tagged hw ht haddr
    rw [hps]
    exact hiff

def replySize (req : SipRequest) : ℕ :=
  let hs := req.inner.headers.inner
  req.viaHeadersRaw.length+(hs.findSome? firstFrom).toList.length+
    (hs.findSome? firstCallId).toList.length+(hs.findSome? firstCSeq).toList.length+2

theorem length_replyHeaders (req : SipRequest) (w t : Text) :
    (replyHeaders req w t).length = replySize req := by
  simp only [replyHeaders, replySize, List.length_append, List.length_map, List.length_singleton,
    Option.length_toList, Option.isSome_map]
  omega

theorem reply_sequence (hgood : ∀ h ∈ req.inner.headers.inner, Good h)
    (hinner : hs.inner = replyHeaders req w t) :
    typedCSeq hs = typedCSeq req.inner.headers := by
  obtain ⟨-,-,-,hcseq⟩ := reply_lookup hinner
  have hreq := getFirst_cseq hgood
  cases hraw : req.inner.headers.inner.findSome? firstCSeq with
  | none =>
    rw [hraw] at hcseq hreq
    rw [typedCSeq, typedCSeq, firstValue, firstValue, hcseq, hreq]
    rfl
  | some raw =>
    rw [hraw] at hcseq hreq
    have hvalue : firstValue req.inner.headers "CSeq" = .ok raw := by
      rw [firstValue, hreq]
      rfl
    rw [← parseCSeq_mirror hvalue, typedCSeq, firstValue, hcseq]
    rfl

/-- The response to a request carries what the request had, and the tag of
its `To` or else the given one, exactly if there is room for its headers and
the tag is settled. -/
theorem reply_answers_iff {data : Bytes} {a : NameAddr}
    (hparse : parseSipMessage data = .ok (.request req))
    (hto : firstValue req.inner.headers "To" = .ok w) (haddr : parseNameAddr w = .ok a)
    (ht : Token t) :
    (∃ resp, reply req code reason t = .ok resp ∧ Answers req t resp) ↔
      replySize req ≤ maxHeaders ∧ TagSettled w a := by
  have hgood : ∀ h ∈ req.inner.headers.inner, Good h :=
    headersOf_good (m := .request req.inner) (parseSipMessage_request hparse)
  have hfirst := getFirst_to hgood
  obtain ⟨hfound,hw⟩ : req.inner.headers.inner.findSome? firstTo = some w ∧ trim w = w := by
    rw [firstValue] at hto
    cases hfind : req.inner.headers.inner.findSome? firstTo with
    | none =>
      rw [hfirst, hfind] at hto
      cases hto
    | some w' =>
      rw [hfirst, hfind] at hto
      cases hto
      rw [hfind] at hfirst
      exact ⟨rfl,(hgood _ (List.mem_of_find?_eq_some hfirst)).value_trim⟩
  have htag : req.toTag = a.tag := by
    rw [SipRequest.toTag, toTag_of_getFirst (hfirst.trans (by rw [hfound]; rfl)), haddr]
    rfl
  constructor
  · rintro ⟨resp,hreply,hans⟩
    obtain ⟨hs,hinner,rfl⟩ := (reply_ok hfound).mp hreply
    obtain ⟨-,hnew,-,-⟩ := reply_lookup hinner
    have hcase := hans.toTag
    rw [htag, SipResponse.toTag, toTag_of_getFirst hnew] at hcase
    refine ⟨?_,(newTo_tag hw ht haddr).mp hcase⟩
    rw [← length_replyHeaders req w t, ← hinner]
    exact hs.bound
  · rintro ⟨hsize,hsettled⟩
    rw [← length_replyHeaders req w t] at hsize
    have hinner : (⟨replyHeaders req w t,hsize⟩ : Headers).inner = replyHeaders req w t := rfl
    obtain ⟨hfrom,hnew,hcall,-⟩ := reply_lookup hinner
    have hcseq := reply_sequence hgood hinner
    refine ⟨_,(reply_ok hfound).mpr ⟨_,hinner,rfl⟩,?_,reply_vias hinner,?_,?_,?_,?_⟩
    · rw [htag, SipResponse.toTag, toTag_of_getFirst hnew]
      exact (newTo_tag hw ht haddr).mpr hsettled
    · rw [firstValue, firstValue, hfrom, getFirst_from hgood]
    · rw [SipResponse.callId, SipRequest.callId, firstValue, firstValue, hcall,
        getFirst_callId hgood]
    · rw [SipResponse.cseq, SipRequest.cseq, hcseq]
    · rw [SipResponse.cseqMethod, SipRequest.cseqMethod, hcseq]

/-- A request with a given `To` value, as it is received and as it is parsed. -/
def askBytes (value : Text) : Bytes :=
  utf8 ("OPTIONS sip:b@x SIP/2.0\r\nVia: SIP/2.0/UDP h;branch=z\r\nTo: "++value++
    "\r\nCSeq: 1 OPTIONS\r\n\r\n")

def ask (value : Text) : SipRequest where
  inner :=
    { method := .options, uri := "sip:b@x", version := "SIP/2.0"
      headers := ⟨[.via "SIP/2.0/UDP h;branch=z",.to value,.cseq "1 OPTIONS"],
        by simp [maxHeaders]⟩
      body := [] }
  uri_parses := by
    change (ok (RsipRtp.Uri.parse "sip:b@x")).isSome
    decide +kernel

def plainAddr (name : Option Text) (ps : List (Text × Option Text)) : NameAddr where
  displayName := name
  uri := { scheme := .sip, user := some "b", host := "x", port := none,
           params := [], headers := [] }
  parameters := ps

/-- A tag in other letters, which the text search does not see. -/
theorem capital_tag_answered :
    ∃ resp, reply (ask "<sip:b@x>;TAG=7") 200 "OK" "t1" = .ok resp ∧
      Answers (ask "<sip:b@x>;TAG=7") "t1" resp :=
  have hparse : parseSipMessage (askBytes "<sip:b@x>;TAG=7") =
      .ok (.request (ask "<sip:b@x>;TAG=7")) := by decide +kernel
  have haddr : parseNameAddr "<sip:b@x>;TAG=7" =
      .ok (plainAddr none [("TAG",some "7")]) := by decide +kernel
  (reply_answers_iff hparse rfl haddr ⟨by decide,by decide⟩).mpr
    ⟨by decide +kernel,by decide +kernel⟩

/-- A display name with `tag=` in it: the response has no tag. -/
theorem display_name_hides_tag :
    parseSipMessage (askBytes "\"tag=\" <sip:b@x>") =
        .ok (.request (ask "\"tag=\" <sip:b@x>")) ∧
      parseNameAddr "\"tag=\" <sip:b@x>" = .ok (plainAddr (some "tag=") []) ∧
      (ask "\"tag=\" <sip:b@x>").toTag = none ∧ Token "t1" ∧
      (reply (ask "\"tag=\" <sip:b@x>") 200 "OK" "t1").toOption.map
        SipResponse.toTag = some none :=
  ⟨by decide +kernel,by decide +kernel,by decide +kernel,⟨by decide,by decide⟩,by decide +kernel⟩

end Replies

end RsipRtp.SipReply
