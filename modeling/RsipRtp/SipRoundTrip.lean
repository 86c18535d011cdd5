import RsipRtp.SipHeaderBlock

/-!
# Printing and parsing SIP messages

A message that was parsed is printed in one layout: its start line, its
headers a line each, a blank line and the body.
-/

namespace RsipRtp.SipRoundTrip
open SipText Utf8 TextShape LineFraming SipHeader SipFraming SipHeaderBlock
open SipMessage hiding Message

variable {line uri version : Text} {method : Method}

variable {line version reason : Text}

section Normal

variable {n : ℕ} {h : Header}

/-- A header as it is printed before a body of `n` bytes. -/
def normalize (n : ℕ) : Header → Header
  | .contentLength _ => .contentLength (natText n)
  | h => h

def normalHeaders (n : ℕ) (hs : Headers) : Headers :=
  ⟨hs.inner.map (normalize n),by rw [List.length_map]; exact hs.bound⟩

def normalized : Message → Message
  | .request r => .request {r with headers := normalHeaders r.body.length r.headers}
  | .response r => .response {r with headers := normalHeaders r.body.length r.headers}

theorem normalize_name (n : ℕ) (h : Header) : (normalize n h).name = h.name := by
  cases h <;> rfl

theorem normalize_good (hn : n < 2^64) (hg : Good h) : Good (normalize n h) := by
  cases h with
  | contentLength v =>
    have hline : '\n' ∉ natText n := fun hmem => by cases natText_forall hmem
    have htwenty : utf8Len (natText n) ≤ 20 :=
      (natText_utf8Len_le_iff (by decide)).mpr (hn.trans (by decide))
    have hlen : utf8Len (natText n) ≤ maxHeaderValueLen := htwenty.trans (by decide)
    have hnamed : ("content-length".toList,Header.contentLength) ∈ longNames := by
      simp [longNames]
    exact good_of_named hnamed (trim_natText n) hline hlen
  | _ => exact hg

theorem normalHeaders_good {hs : Headers} (hn : n < 2^64) (hgood : ∀ h ∈ hs.inner, Good h) :
    ∀ h ∈ (normalHeaders n hs).inner, Good h := by
  intro h hmem
  obtain ⟨h',hmem',rfl⟩ := List.mem_map.mp hmem
  exact normalize_good hn (hgood h' hmem')

theorem writeHeader_eq (n : ℕ) (h : Header) :
    writeHeader n h = utf8 (headerText (normalize n h)++crlf) := by
  cases h <;> rfl

theorem writeHeader_normalize (n : ℕ) (h : Header) :
    writeHeader n (normalize n h) = writeHeader n h := by
  cases h <;> rfl

theorem flatMap_normalHeaders (n : ℕ) (hs : Headers) :
    (normalHeaders n hs).inner.flatMap (writeHeader n) = hs.inner.flatMap (writeHeader n) := by
  rw [normalHeaders, List.flatMap_map]
  simp only [writeHeader_normalize]

theorem normalized_toBytes (m : Message) : (normalized m).toBytes = m.toBytes := by
  cases m with
  | request r =>
    simp only [normalized, Message.toBytes, Request.toBytes, flatMap_normalHeaders]
  | response r =>
    simp only [normalized, Message.toBytes, Response.toBytes, flatMap_normalHeaders]

theorem resolveName_long {name : Text} (hlong : (trim name).length ≠ 1) :
    resolveName name = trim name := by
  unfold resolveName
  split
  · next c heq => exact absurd (by rw [heq]; rfl) hlong
  · rfl

theorem named_of_matches {query : Text} {e : Text × (Text → Header)} (hg : Good h)
    (hquery : recognise query = some e) (hlong : (resolveName query).length ≠ 1)
    (hmatch : h.nameMatches query = true) : h = e.2 h.value := by
  have hlower : toAsciiLowercase h.name = toAsciiLowercase (resolveName query) := eq_of_beq hmatch
  have hcount : h.name.length = (resolveName query).length := by
    have hmap := congrArg List.length hlower
    rwa [toAsciiLowercase, toAsciiLowercase, List.length_map, List.length_map] at hmap
  have hresolve : resolveName h.name = h.name := by
    rw [resolveName_long (by rw [hg.name_trim, hcount]; exact hlong), hg.name_trim]
  have hfind : recognise h.name = some e := by
    rw [recognise, hresolve, hlower]
    exact hquery
  exact hg.rebuild.symm.trans (buildHeader_named hfind)

theorem contentLength_of_matches (hg : Good h)
    (hmatch : h.nameMatches "Content-Length" = true) : h = .contentLength h.value :=
  named_of_matches (e := ("content-length",.contentLength)) hg rfl (by decide) hmatch

theorem normalize_value (hg : Good h)
    (hmatch : (normalize n h).nameMatches "Content-Length" = true) :
    (normalize n h).value = natText n := by
  rw [Header.nameMatches, normalize_name] at hmatch
  rw [contentLength_of_matches hg hmatch]
  rfl

theorem trimBody_normalHeaders {hs : Headers} {body : Bytes} (hn : body.length < 2^64)
    (hgood : ∀ h ∈ hs.inner, Good h) : trimBody (normalHeaders body.length hs) body = body := by
  cases hfirst : (normalHeaders body.length hs).getFirst "Content-Length" with
  | none =>
    rw [trimBody, hfirst]
    rfl
  | some h =>
    obtain ⟨h',hmem,rfl⟩ := List.mem_map.mp (List.mem_of_find?_eq_some hfirst)
    have hmatch : (normalize body.length h').nameMatches "Content-Length" = true :=
      List.find?_some (p := fun h : Header => h.nameMatches "Content-Length") hfirst
    have hvalue := normalize_value (hgood h' hmem) hmatch
    have hparse : parseUsize (trim (natText body.length)) = some body.length := by
      rw [trim_natText]
      exact parseUnsigned_natText hn
    rw [trimBody, hfirst, Option.bind_some, hvalue, hparse]
    dsimp only
    rw [if_pos (Nat.le_refl _), List.take_length]

end Normal

section Layout

variable {start : Text} {hs : List Header} {body : Bytes}

def layout (start : Text) (hs : List Header) (body : Bytes) : Bytes :=
  utf8 start++broken 13 10 ((hs.map headerText).map utf8)++13::10::13::10::body

theorem utf8_crlf : utf8 crlf = [13,10] := rfl

theorem utf8_broken (ls : List Text) :
    utf8 (broken '\r' '\n' ls) = broken 13 10 (ls.map utf8) := by
  induction ls with
  | nil => rfl
  | cons l ls ih =>
    have hbreak : utf8 (broken '\r' '\n' (l::ls)) =
        13::10::(utf8 (l++broken '\r' '\n' ls)) := rfl
    rw [hbreak, utf8_append, ih]
    rfl

theorem flatMap_broken (l : Text) (ls : List Text) :
    utf8 (l++crlf)++ls.flatMap (fun l => utf8 (l++crlf)) =
      utf8 l++broken 13 10 (ls.map utf8)++[13,10] := by
  induction ls generalizing l with
  | nil => simp only [utf8_append, utf8_crlf, List.flatMap_nil, List.append_nil, List.map_nil,
    broken]
  | cons l' ls ih =>
    rw [List.flatMap_cons, ih l']
    simp only [utf8_append, utf8_crlf, broken, List.map_cons, List.flatMap_cons, List.append_assoc,
      List.cons_append, List.nil_append]

theorem printed_layout (start : Text) (hs : List Header) (body : Bytes) :
    utf8 (start++crlf)++hs.flatMap (writeHeader body.length)++utf8 crlf++body =
      layout start (hs.map (normalize body.length)) body := by
  have hwrite : hs.flatMap (writeHeader body.length) =
      ((hs.map (normalize body.length)).map headerText).flatMap (fun l => utf8 (l++crlf)) := by
    rw [List.flatMap_map, List.flatMap_map, funext (writeHeader_eq body.length)]
  rw [hwrite, flatMap_broken, layout, utf8_crlf]
  simp only [List.append_assoc, List.cons_append, List.nil_append]

theorem splitFirstLine_broken {ls : List Text} (hstart : '\n' ∉ start) :
    splitFirstLine (start++broken '\r' '\n' ls) = (start,blockText ls) := by
  cases ls with
  | nil =>
    have happend : start++broken '\r' '\n' [] = start := List.append_nil start
    rw [happend, splitFirstLine, splitAtFirst_none hstart, splitFirst_none hstart]
    rfl
  | cons l ls =>
    have hbreak : start++broken '\r' '\n' (l::ls) =
        start++ '\r':: '\n'::(l++broken '\r' '\n' ls) := rfl
    rw [hbreak, splitFirstLine, splitAtFirst_line hstart (by decide)]
    rfl

theorem utf8_line {l : Text} (hl : l ≠ [] ∧ '\n' ∉ l) : utf8 l ≠ [] ∧ (10 : UInt8) ∉ utf8 l := by
  refine ⟨fun hnil => ?_,lf_not_mem_utf8 hl.2⟩
  have hlen := length_le_utf8 l
  rw [hnil] at hlen
  exact hl.1 (List.eq_nil_of_length_eq_zero (Nat.le_zero.mp hlen))

theorem splitAtFirst_layout (hstart : ¬[13,10,13,10] <:+: utf8 start++[13,10])
    (hgood : ∀ h ∈ hs, Good h) :
    splitAtFirst [13,10,13,10] (layout start hs body) =
      some (utf8 (start++broken '\r' '\n' (hs.map headerText)),body) := by
  have hlines : ∀ l ∈ (hs.map headerText).map utf8, l ≠ [] ∧ (10 : UInt8) ∉ l := by
    intro l hl
    obtain ⟨text,htext,rfl⟩ := List.mem_map.mp hl
    obtain ⟨h,hmem,rfl⟩ := List.mem_map.mp htext
    exact utf8_line (headerText_line (hgood h hmem))
  rw [layout, splitAtFirst_broken hstart (by decide) hlines, utf8_append, utf8_broken]

theorem findSeparator_layout (hstart : ¬[13,10,13,10] <:+: utf8 start++[13,10])
    (hgood : ∀ h ∈ hs, Good h) :
    findSeparator (layout start hs body) =
      some (utf8 (start++broken '\r' '\n' (hs.map headerText)),body) := by
  rw [findSeparator, splitAtFirst_layout hstart hgood]
  rfl

theorem splitMessage_layout (hstart : '\n' ∉ start) (hlen : utf8Len start ≤ maxStartLineLen)
    (hgood : ∀ h ∈ hs, Good h) :
    splitMessage (layout start hs body) = .ok (start,blockText (hs.map headerText),body) := by
  have hline := no_blank_in_line (lf_not_mem_utf8 hstart) (show (13 : UInt8) ≠ 10 by decide)
  rw [splitMessage, findSeparator_layout hline hgood]
  dsimp only
  rw [fromUtf8_utf8]
  dsimp only
  rw [splitFirstLine_broken hstart]
  exact if_neg (Nat.not_lt.mpr hlen)

end Layout

structure LineFits (line : Text) : Prop where
  one : '\n' ∉ line
  short : utf8Len line ≤ maxStartLineLen

theorem method_letters (m : Method) : ∀ c ∈ m.asStr, isWhitespace c = false ∧ c.toNat < 128 := by
  have hall : m.asStr.all (fun c => !isWhitespace c && decide (c.toNat < 128)) = true := by
    cases m <;> rfl
  intro c hc
  simpa using List.all_eq_true.mp hall c hc

theorem method_word (m : Method) : Word m.asStr :=
  ⟨by cases m <;> decide,fun c hc => (method_letters m c hc).1⟩

theorem methodFromStr_asStr (m : Method) : methodFromStr m.asStr = .ok m := by
  cases m <;> decide +kernel

theorem methodFromStr_lower {s : Text} {m : Method} (h : methodFromStr s = .ok m) :
    toAsciiLowercase s = toAsciiLowercase m.asStr := by
  rw [methodFromStr] at h
  cases hfind : allMethods.find? (fun m => eqIgnoreAsciiCase s m.asStr) with
  | none =>
    rw [hfind] at h
    cases h
  | some m' =>
    rw [hfind] at h
    cases h
    exact eq_of_beq (List.find?_some (p := fun m : Method => eqIgnoreAsciiCase s m.asStr) hfind)

theorem methodFromStr_length {s : Text} {m : Method} (h : methodFromStr s = .ok m) :
    m.asStr.length = s.length := by
  have hlen := congrArg List.length (methodFromStr_lower h)
  rw [toAsciiLowercase, toAsciiLowercase, List.length_map, List.length_map] at hlen
  exact hlen.symm

def requestLine (method : Method) (uri version : Text) : Text :=
  method.asStr++ ' '::uri++ ' '::version

theorem parseRequestLine_words
    (h : parseRequestLine line = .ok (method,uri,version)) :
    utf8Len line ≤ maxStartLineLen ∧ version = "SIP/2.0" ∧
      (∃ parsed, Uri.parse uri = .ok parsed) ∧ Word uri ∧ Word version ∧
      ∃ methodStr, splitWhitespace line = [methodStr,uri,version] ∧
        methodFromStr methodStr = .ok method := by
  rw [parseRequestLine] at h
  split_ifs at h with hlong
  split at h
  · next methodStr uriStr version' hwords =>
    obtain ⟨method',hmethod,h⟩ := bind_ok h
    split_ifs at h with hversion
    cases huri : Uri.parse uriStr with
    | error e =>
      rw [huri] at h
      cases h
    | ok parsed =>
      rw [huri] at h
      cases h
      exact ⟨Nat.not_lt.mp hlong,not_not.mp hversion,⟨parsed,huri⟩,
        mem_splitWhitespace (by rw [hwords]; simp),mem_splitWhitespace (by rw [hwords]; simp),
        methodStr,hwords,hmethod⟩
  · cases h

theorem requestLine_fits
    (h : parseRequestLine line = .ok (method,uri,version)) :
    LineFits (requestLine method uri version) := by
  obtain ⟨hlen,-,-,huriWord,hversionWord,methodStr,hwords,hmethod⟩ := parseRequestLine_words h
  constructor
  · intro hmem
    rcases List.mem_append.mp hmem with hmem | hmem
    · rcases List.mem_append.mp hmem with hmem | hmem
      · exact (method_word method).lf_not_mem hmem
      · exact huriWord.lf_not_mem ((List.mem_cons.mp hmem).resolve_left (by decide))
    · exact hversionWord.lf_not_mem ((List.mem_cons.mp hmem).resolve_left (by decide))
  · have hfit := splitWhitespace_utf8Len line
    rw [hwords] at hfit
    have hmethodLen : utf8Len method.asStr ≤ utf8Len methodStr := by
      rw [utf8Len_ascii (fun c hc => (method_letters method c hc).2), methodFromStr_length hmethod]
      exact length_le_utf8Len methodStr
    have hspace : (' ').utf8Size = 1 := rfl
    rw [requestLine, utf8Len_append, utf8Len_append, utf8Len_cons, utf8Len_cons, hspace]
    simp only [List.map_cons, List.map_nil, List.sum_cons, List.sum_nil, List.length_cons,
      List.length_nil] at hfit
    omega

theorem parseRequestLine_requestLine
    (h : parseRequestLine line = .ok (method,uri,version)) :
    parseRequestLine (requestLine method uri version) = .ok (method,uri,version) := by
  have hfits := requestLine_fits h
  obtain ⟨-,hversion,⟨parsed,huri⟩,huriWord,hversionWord,-⟩ := parseRequestLine_words h
  have hsplit : splitWhitespace (requestLine method uri version) =
      [method.asStr,uri,version] := by
    rw [requestLine, List.append_assoc]
    exact splitWhitespace_words (method_word method) huriWord hversionWord
  rw [parseRequestLine, if_neg (Nat.not_lt.mpr hfits.short), hsplit]
  dsimp only
  rw [methodFromStr_asStr]
  simp only [bind, Except.bind, hversion, ne_eq, not_true_eq_false, if_false, huri]

def statusLine (version : Text) (code : ℕ) (reason : Text) : Text :=
  version++ ' '::natText code++ ' '::reason

theorem parseStatusLine_parts {code : ℕ}
    (h : parseStatusLine line = .ok (version,code,reason)) :
    utf8Len line ≤ maxStartLineLen ∧ version = "SIP/2.0" ∧ 100 ≤ code ∧ code ≤ 699 ∧
      (utf8 reason).find? forbiddenByte = none ∧
      ∃ codeStr, line = version++ ' '::(codeStr++ ' '::reason) ∧ utf8Len codeStr = 3 ∧
        parseU16 codeStr = some code := by
  rw [parseStatusLine] at h
  split_ifs at h with hlong
  split at h
  · cases h
  · next version' rest hfirst =>
    split at h
    · cases h
    · next codeStr reason' hsecond =>
      split_ifs at h with hversion hcodeLen
      split at h
      · cases h
      · next code' hcode =>
        split_ifs at h with hrange
        split at h
        · cases h
        · next hfind =>
          cases h
          obtain ⟨hline,-⟩ := splitFirst_eq hfirst
          obtain ⟨hrest,-⟩ := splitFirst_eq hsecond
          exact ⟨Nat.not_lt.mp hlong,not_not.mp hversion,by omega,by omega,hfind,codeStr,
            by rw [hline, hrest],not_not.mp hcodeLen,hcode⟩

theorem natText_status {code : ℕ} (hlow : 100 ≤ code) (hhigh : code ≤ 699) :
    utf8Len (natText code) = 3 := by
  have hthree : utf8Len (natText code) ≤ 3 := (natText_utf8Len_le_iff (by decide)).mpr (by omega)
  have htwo : ¬utf8Len (natText code) ≤ 2 := fun h =>
    absurd ((natText_utf8Len_le_iff (by decide)).mp h) (by omega)
  omega

theorem lf_not_mem_reason {reason : Text} (h : (utf8 reason).find? forbiddenByte = none) :
    '\n' ∉ reason := by
  intro hmem
  have hbyte : (10 : UInt8) ∈ utf8 reason :=
    List.mem_flatMap.mpr ⟨'\n',hmem,by decide⟩
  exact absurd (List.find?_eq_none.mp h 10 hbyte) (by decide)

theorem statusLine_fits {code : ℕ}
    (h : parseStatusLine line = .ok (version,code,reason)) :
    LineFits (statusLine version code reason) := by
  obtain ⟨hlen,hversion,hlow,hhigh,hreason,codeStr,hline,hcodeLen,-⟩ := parseStatusLine_parts h
  constructor
  · intro hmem
    rcases List.mem_append.mp hmem with hmem | hmem
    · rcases List.mem_append.mp hmem with hmem | hmem
      · rw [hversion] at hmem
        exact absurd hmem (by decide)
      · have hdigit := natText_forall ((List.mem_cons.mp hmem).resolve_left (by decide))
        cases hdigit
    · exact lf_not_mem_reason hreason ((List.mem_cons.mp hmem).resolve_left (by decide))
  · have hthree := natText_status hlow hhigh
    rw [hline, utf8Len_append, utf8Len_cons, utf8Len_append, utf8Len_cons] at hlen
    rw [statusLine, utf8Len_append, utf8Len_append, utf8Len_cons, utf8Len_cons]
    omega

theorem parseStatusLine_statusLine {code : ℕ}
    (h : parseStatusLine line = .ok (version,code,reason)) :
    parseStatusLine (statusLine version code reason) = .ok (version,code,reason) := by
  have hfits := statusLine_fits h
  obtain ⟨-,hversion,hlow,hhigh,hreason,-⟩ := parseStatusLine_parts h
  have hfirst : splitFirst ' ' (statusLine version code reason) =
      some (version,natText code++ ' '::reason) := by
    rw [statusLine, List.append_assoc]
    exact splitFirst_append (by rw [hversion]; decide)
  have hsecond : splitFirst ' ' (natText code++ ' '::reason) = some (natText code,reason) :=
    splitFirst_append (fun hmem => by cases natText_forall hmem)
  have hcode : parseU16 (natText code) = some code :=
    parseUnsigned_natText (hhigh.trans_lt (by decide))
  have hrange : ¬(code < 100 ∨ 699 < code) := by omega
  rw [parseStatusLine, if_neg (Nat.not_lt.mpr hfits.short), hfirst]
  dsimp only
  rw [hsecond]
  dsimp only
  rw [if_neg (not_not.mpr hversion), if_neg (not_not.mpr (natText_status hlow hhigh)), hcode]
  dsimp only
  rw [if_neg hrange, hreason]

section Messages

variable {data body : Bytes}

theorem splitAtFirst_length {pat before after : Bytes}
    (h : splitAtFirst pat data = some (before,after)) : after.length ≤ data.length := by
  rw [splitAtFirst_eq h, List.length_append]
  exact Nat.le_add_left _ _

theorem splitMessage_length {startLine block : Text}
    (h : splitMessage data = .ok (startLine,block,body)) : body.length ≤ data.length := by
  rw [splitMessage] at h
  split at h
  · cases h
  · next head body' hsep =>
    split at h
    · cases h
    · dsimp only at h
      split_ifs at h
      cases h
      rcases Option.or_eq_some_iff.mp hsep with hsep | ⟨-,hsep⟩
      · exact splitAtFirst_length hsep
      · exact splitAtFirst_length hsep

theorem trimBody_length (hs : Headers) (body : Bytes) :
    (trimBody hs body).length ≤ body.length := by
  unfold trimBody
  split
  · split_ifs
    · exact List.length_take_le' _ _
    · exact Nat.le_refl _
  · exact Nat.le_refl _

structure Parsed (data : Bytes) (headers : Headers) (body : Bytes) : Prop where
  good : ∀ h ∈ headers.inner, Good h
  len : body.length ≤ data.length

theorem parseRequest_parts {r : Request} (h : parseRequest data = .ok r) :
    Parsed data r.headers r.body ∧
      ∃ line, parseRequestLine line = .ok (r.method,r.uri,r.version) := by
  obtain ⟨⟨startLine,block,body⟩,hsplit,h⟩ := bind_ok h
  obtain ⟨⟨method,uri,version⟩,hline,h⟩ := bind_ok h
  obtain ⟨headers,hblock,h⟩ := bind_ok h
  cases h
  exact ⟨⟨parseHeaderBlock_good hblock,
    (trimBody_length headers body).trans (splitMessage_length hsplit)⟩,startLine,hline⟩

theorem parseResponse_parts {r : Response} (h : parseResponse data = .ok r) :
    Parsed data r.headers r.body ∧
      ∃ line, parseStatusLine line = .ok (r.version,r.statusCode,r.reason) := by
  obtain ⟨⟨startLine,block,body⟩,hsplit,h⟩ := bind_ok h
  obtain ⟨⟨version,code,reason⟩,hline,h⟩ := bind_ok h
  obtain ⟨headers,hblock,h⟩ := bind_ok h
  cases h
  exact ⟨⟨parseHeaderBlock_good hblock,
    (trimBody_length headers body).trans (splitMessage_length hsplit)⟩,startLine,hline⟩

theorem printed_read {start : Text} {headers : Headers} (hparts : Parsed data headers body)
    (hlen : data.length < 2^64) (hfits : LineFits start) :
    ∃ block, splitMessage (utf8 (start++crlf) ++
        headers.inner.flatMap (writeHeader body.length)++utf8 crlf++body) =
          .ok (start,block,body) ∧
      parseHeaderBlock block = .ok (normalHeaders body.length headers) ∧
      trimBody (normalHeaders body.length headers) body = body := by
  have hn : body.length < 2^64 := hparts.len.trans_lt hlen
  have hgood := normalHeaders_good hn hparts.good
  refine ⟨_,?_,parseHeaderBlock_headerText _ hgood,trimBody_normalHeaders hn hparts.good⟩
  rw [printed_layout]
  exact splitMessage_layout hfits.one hfits.short hgood

theorem request_dispatch (m : Method) (rest : Bytes) :
    ¬utf8 "SIP/" <+: firstLineBytes (utf8 m.asStr++rest) := by
  intro hpre
  obtain ⟨tail,htail⟩ := hpre.trans (List.takeWhile_prefix _)
  have htwo : 2 ≤ (utf8 m.asStr).length ∧ (utf8 m.asStr).take 2 ≠ [83,73] := by
    cases m <;> decide +kernel
  have htake := congrArg (List.take 2) htail
  rw [List.take_append_of_le_length htwo.1] at htake
  exact htwo.2 htake.symm

theorem response_dispatch (rest : Bytes) :
    utf8 "SIP/" <+: firstLineBytes (utf8 "SIP/2.0"++rest) :=
  ⟨_,rfl⟩

theorem request_reparsed {r : Request} (hlen : data.length < 2^64)
    (h : parseRequest data = .ok r) :
    Message.parse r.toBytes = .ok (normalized (.request r)) := by
  obtain ⟨hparts,line,hline⟩ := parseRequest_parts h
  obtain ⟨block,hsplit,hblock,hbody⟩ := printed_read hparts hlen (requestLine_fits hline)
  have hdispatch : ¬utf8 "SIP/" <+: firstLineBytes r.toBytes := by
    simp only [Request.toBytes, utf8_append, List.append_assoc]
    exact request_dispatch r.method _
  have hsplit' : splitMessage r.toBytes =
      .ok (requestLine r.method r.uri r.version,block,r.body) := hsplit
  rw [Message.parse, if_neg hdispatch, parseRequest, hsplit']
  simp only [bind, Except.bind, parseRequestLine_requestLine hline, hblock, hbody]
  rfl

theorem response_reparsed {r : Response} (hlen : data.length < 2^64)
    (h : parseResponse data = .ok r) :
    Message.parse r.toBytes = .ok (normalized (.response r)) := by
  obtain ⟨hparts,line,hline⟩ := parseResponse_parts h
  obtain ⟨block,hsplit,hblock,hbody⟩ := printed_read hparts hlen (statusLine_fits hline)
  have hdispatch : utf8 "SIP/" <+: firstLineBytes r.toBytes := by
    simp only [Response.toBytes, (parseStatusLine_parts hline).2.1, utf8_append, List.append_assoc]
    exact response_dispatch _
  have hsplit' : splitMessage r.toBytes =
      .ok (statusLine r.version r.statusCode r.reason,block,r.body) := hsplit
  rw [Message.parse, if_pos hdispatch, parseResponse, hsplit']
  simp only [bind, Except.bind, parseStatusLine_statusLine hline, hblock, hbody]
  rfl

def headersOf : Message → Headers
  | .request r => r.headers
  | .response r => r.headers

def bodyOf : Message → Bytes
  | .request r => r.body
  | .response r => r.body

theorem parse_cases {m : Message} (h : Message.parse data = .ok m) :
    (∃ r, m = .request r ∧ parseRequest data = .ok r) ∨
      ∃ r, m = .response r ∧ parseResponse data = .ok r := by
  rw [Message.parse] at h
  split_ifs at h
  · obtain ⟨r,hr,rfl⟩ := map_ok h
    exact .inr ⟨r,rfl,hr⟩
  · obtain ⟨r,hr,rfl⟩ := map_ok h
    exact .inl ⟨r,rfl,hr⟩

theorem headersOf_good {m : Message} (h : Message.parse data = .ok m) :
    ∀ h ∈ (headersOf m).inner, Good h := by
  rcases parse_cases h with ⟨r,rfl,hr⟩ | ⟨r,rfl,hr⟩
  · exact (parseRequest_parts hr).1.good
  · exact (parseResponse_parts hr).1.good

theorem headersOf_normalized (m : Message) :
    headersOf (normalized m) = normalHeaders (bodyOf m).length (headersOf m) := by
  cases m <;> rfl

/-- Printing a parsed message and parsing it again gives the message with the
length of its body in every Content-Length, and that message is printed as
the same bytes. The length of the data is one that a `usize` holds. -/
theorem reparse_fixed_point {m : Message} (hlen : data.length < 2^64)
    (hparse : Message.parse data = .ok m) :
    Message.parse m.toBytes = .ok (normalized m) ∧
      (normalized m).toBytes = m.toBytes ∧
      ∀ h ∈ (headersOf (normalized m)).inner, h.nameMatches "Content-Length" = true →
        h.value = natText (bodyOf m).length := by
  refine ⟨?_,normalized_toBytes m,fun h hmem hmatch => ?_⟩
  · rcases parse_cases hparse with ⟨r,rfl,hr⟩ | ⟨r,rfl,hr⟩
    · exact request_reparsed hlen hr
    · exact response_reparsed hlen hr
  · rw [headersOf_normalized] at hmem
    obtain ⟨h',hmem',rfl⟩ := List.mem_map.mp hmem
    exact normalize_value (headersOf_good hparse h' hmem') hmatch

def looseRequest : Bytes :=
  utf8 "invite  sip:a@b SIP/2.0\nl: 9\nv: x\n  y\ne: z\n\nhi"

def looseParsed : Message :=
  .request {
    method := .invite, uri := "sip:a@b", version := "SIP/2.0"
    headers := ⟨[.contentLength "9",.via "x y",
      .other "Content-Encoding" "z"],by decide⟩
    body := utf8 "hi"}

theorem loose_request_fixed :
    Message.parse looseRequest = .ok looseParsed ∧
      Message.parse looseParsed.toBytes = .ok (normalized looseParsed) ∧
      (normalized looseParsed).toBytes = looseParsed.toBytes ∧
      ∀ h ∈ (headersOf (normalized looseParsed)).inner,
        h.nameMatches "Content-Length" = true →
          h.value = natText (bodyOf looseParsed).length :=
  have hlen : looseRequest.length < 2^64 := by decide +kernel
  have hparse : Message.parse looseRequest = .ok looseParsed := by decide +kernel
  ⟨hparse,reparse_fixed_point hlen hparse⟩

end Messages

end RsipRtp.SipRoundTrip
