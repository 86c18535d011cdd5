import RsipRtp.ChunkedFraming
import RsipRtp.SipRoundTrip
import RsipRtp.SdpAgreement

/-!
# SIP messages out of a TCP stream

The read half of a connection keeps a buffer, strips keep-alives from its
front and cuts a message off as soon as its head and the body that the head
announces have arrived.
-/

namespace RsipRtp.TcpFraming
open SipText Utf8 TextShape LineFraming SipHeader SipFraming SipHeaderBlock SipRoundTrip
open ChunkedFraming
open Sdp (StdText LowersByChar)
open SdpAgreement (asciiText)
open SipMessage hiding Message

def maxTcpSize : ℕ := 65536
def readSize : ℕ := 4096
def keepalivePing : Bytes := [13,10,13,10]
def keepalivePong : Bytes := [13,10]

def stripLeadingKeepalives (buf : Bytes) : Bytes × ℕ :=
  ((stripPairs 13 10 buf).1,(stripPairs 13 10 buf).2/2)

def findHeaderEnd (data : Bytes) : Option ℕ :=
  (splitAtFirst [13,10,13,10] data).map (fun cut => cut.1.length+4)

/-- The length that a line of the head announces, if it is a Content-Length. -/
def lineLength (std : StdText) (line : Text) : Option ℕ :=
  let lineLower := std.toLowercase line
  if "content-length:" <+: lineLower ∨ "l:" <+: lineLower then
    parseUsize (trim (((splitFirst ':' line).map (·.2)).getD []))
  else none

def parseContentLength (std : StdText) (headers : Bytes) : ℕ :=
  match fromUtf8 headers with
  | .ok headersStr => ((lines headersStr).findSome? (lineLength std)).getD 0
  | .error _ => 0

/-- The total length is a `usize` that wraps as in a release build. -/
def tryParseMessageFromBuf (std : StdText) (buf : Bytes) : Option (Bytes × Bytes) :=
  match findHeaderEnd buf with
  | none => none
  | some headerEnd =>
    let totalLength := (headerEnd+parseContentLength std (buf.take headerEnd)) % 2^64
    if buf.length < totalLength then none
    else some (buf.take totalLength,buf.drop totalLength)

/-- How one read of the socket ends: with bytes (none when the peer has
closed), with an error, or not before the next keep-alive is due. -/
inductive Read where
  | data (bytes : Bytes)
  | failed
  | timedOut
deriving DecidableEq

inductive Outcome where
  | message (bytes : Bytes)
  | closed
  | failed
  | messageTooLarge (size max : ℕ)
  | waiting

structure ReadHalfState where
  readBuf : Bytes
  reads : List Read
  written : List Bytes

/-- `waiting` is a call that has used up the reads and awaits another. -/
def readMessage (std : StdText) (reads : List Read) (readBuf : Bytes) (written : List Bytes) :
    Outcome × ReadHalfState :=
  let stripped := stripLeadingKeepalives readBuf
  let written := written++List.replicate stripped.2 keepalivePong
  match tryParseMessageFromBuf std stripped.1 with
  | some (msg,rest) => (.message msg,⟨rest,reads,written⟩)
  | none => match reads with
    | [] => (.waiting,⟨stripped.1,[],written⟩)
    | .failed::reads => (.failed,⟨stripped.1,reads,written⟩)
    | .timedOut::reads => readMessage std reads stripped.1 (written++[keepalivePing])
    | .data bytes::reads =>
      if bytes.isEmpty then (.closed,⟨stripped.1,reads,written⟩)
      else if maxTcpSize < (stripped.1++bytes).length then
        (.messageTooLarge (stripped.1++bytes).length maxTcpSize,
          ⟨stripped.1++bytes,reads,written⟩)
      else readMessage std reads (stripped.1++bytes) written

/-- The messages that the read loop passes on in at most `calls` calls, and
how it ended. -/
def readLoop (std : StdText) : ℕ → ReadHalfState → List Bytes × Option Outcome
  | 0, _ => ([],none)
  | calls+1, s => match readMessage std s.reads s.readBuf s.written with
    | (.message data,s) => (data::(readLoop std calls s).1,(readLoop std calls s).2)
    | (outcome,_) => ([],some outcome)

theorem toLower_high {c : Char} (h : 128 ≤ c.toNat) : c.toLower = c := by
  refine dif_neg (fun hupper => ?_)
  have hle : c.toNat ≤ 90 := hupper.2
  omega

/-- Text without a k or an i is found at the front of the lower case exactly
if it is found with ASCII letters only. -/
theorem lower_starts_iff {std : StdText} (hstd : LowersByChar std) {p : Text}
    (hp : ∀ d ∈ p, d.toNat < 128 ∧ d ≠ 'k' ∧ d ≠ 'i') (s : Text) :
    p <+: std.toLowercase s ↔ p <+: toAsciiLowercase s := by
  obtain ⟨images,himages,hchars⟩ := hstd s
  rw [himages, toAsciiLowercase]
  clear himages
  induction hchars generalizing p with
  | nil => rfl
  | @cons c image s images hc _ ih =>
    cases p with
    | nil => simp
    | cons d p =>
      obtain ⟨hd,hp⟩ := List.forall_mem_cons.mp hp
      rcases Nat.lt_or_ge c.toNat 128 with hlow | hhigh
      · rw [hc.1 hlow, List.map_cons, List.flatten_cons, List.singleton_append,
          List.cons_prefix_cons, List.cons_prefix_cons, ih hp]
      · obtain ⟨hne,hascii⟩ := hc.2 hhigh
        obtain ⟨e,tail,rfl⟩ := List.exists_cons_of_ne_nil hne
        rw [List.map_cons, List.flatten_cons, List.cons_append, List.cons_prefix_cons,
          List.cons_prefix_cons, toLower_high hhigh]
        refine iff_of_false (fun hpre => ?_) (fun hpre => ?_)
        · obtain ⟨rfl,-⟩ := hpre
          rcases hascii d List.mem_cons_self hd.1 with heq | heq
          · exact hd.2.1 heq
          · exact hd.2.2 heq
        · obtain ⟨rfl,-⟩ := hpre
          omega

section Length
variable {std : StdText}

theorem cut_at_colon {p a b : Text} (hp : ':' ∉ p) (ha : ':' ∉ a)
    (h : p++[':'] <+: a++ ':'::b) : p = a := by
  obtain ⟨tail,htail⟩ := h
  have hfirst := splitFirst_append (b := b) ha
  rw [← htail, List.append_assoc, List.singleton_append, splitFirst_append hp] at hfirst
  exact congrArg Prod.fst (Option.some.inj hfirst)

theorem colon_lower {s : Text} (h : ':' ∉ s) : ':' ∉ toAsciiLowercase s := by
  intro hmem
  obtain ⟨c,hc,heq⟩ := List.mem_map.mp hmem
  rcases toLower_cases c with hlower | ⟨hlow,-,hval⟩
  · exact h ((hlower.symm.trans heq) ▸ hc)
  · have hcolon : c.toLower.toNat = 58 := congrArg Char.toNat heq
    omega

theorem recognise_length {name : Text} (htrim : trim name = name)
    (h : toAsciiLowercase name = "content-length".toList ∨ toAsciiLowercase name = "l".toList) :
    recognise name = some ("content-length".toList,Header.contentLength) := by
  rcases h with h | h
  · have hlong : (trim name).length ≠ 1 := by
      have hlen := congrArg List.length h
      rw [toAsciiLowercase, List.length_map] at hlen
      rw [htrim, hlen]
      decide
    rw [recognise, resolveName_long hlong, htrim, h]
    rfl
  · have hone : name.length = 1 := by
      have hlen := congrArg List.length h
      rwa [toAsciiLowercase, List.length_map] at hlen
    obtain ⟨c,rfl⟩ := List.length_eq_one_iff.mp hone
    have hlower : c.toLower = 'l' := (List.cons.inj h).1
    rw [recognise, resolveName, htrim]
    simp only [hlower]
    rfl

theorem length_line {h : Header} (hg : Good h)
    (hline : "content-length:" <+: toAsciiLowercase (headerText h) ∨
      "l:" <+: toAsciiLowercase (headerText h)) : ∃ v, h = .contentLength v := by
  have htext : toAsciiLowercase (headerText h) =
      toAsciiLowercase h.name++ ':':: ' '::toAsciiLowercase h.value := by
    simp [headerText, toAsciiLowercase]
  have hcolon := colon_lower hg.name_colon
  rw [htext] at hline
  have hname : toAsciiLowercase h.name = "content-length" ∨
      toAsciiLowercase h.name = "l" := by
    rcases hline with hline | hline
    · exact .inl (cut_at_colon (by decide) hcolon hline).symm
    · exact .inr (cut_at_colon (by decide) hcolon hline).symm
  exact ⟨h.value,hg.rebuild.symm.trans (buildHeader_named (recognise_length hg.name_trim hname))⟩

theorem lineLength_other (hstd : LowersByChar std) {line : Text}
    (h : ¬("content-length:" <+: toAsciiLowercase line ∨
      "l:" <+: toAsciiLowercase line)) : lineLength std line = none := by
  rw [lineLength]
  simp only [lower_starts_iff hstd (p := "content-length:")
      (forall_of_all (by decide)),
    lower_starts_iff hstd (p := "l:") (forall_of_all (by decide))]
  exact if_neg h

theorem lineLength_printed (hstd : LowersByChar std) {n : ℕ} (hn : n < 2^64) :
    lineLength std (headerText (.contentLength (natText n))) = some n := by
  have htext : headerText (.contentLength (natText n)) =
      "Content-Length"++ ':':: ' '::natText n := by
    rw [headerText, List.append_assoc]
    rfl
  have hstarts : "content-length:" <+:
      toAsciiLowercase (headerText (.contentLength (natText n))) := by
    have hlower : toAsciiLowercase ("Content-Length"++[':']) =
        "content-length:" := by decide +kernel
    rw [htext, ← List.singleton_append, ← List.append_assoc, toAsciiLowercase, List.map_append,
      ← toAsciiLowercase, hlower]
    exact List.prefix_append _ _
  rw [lineLength]
  simp only [lower_starts_iff hstd (p := "content-length:")
      (forall_of_all (by decide))]
  rw [if_pos (.inl hstarts), htext, splitFirst_append (by decide)]
  have htrim : trim (' '::natText n) = natText n := (trim_space _).trans (trim_natText n)
  rw [Option.map_some, Option.getD_some, htrim]
  exact parseUnsigned_natText hn

theorem findSome?_lineLength (hstd : LowersByChar std) {start : Text} {hs : List Header} {n : ℕ}
    (hn : n < 2^64) (hstart : lineLength std start = none) (hgood : ∀ h ∈ hs, Good h)
    (hsome : ∃ v, Header.contentLength v ∈ hs) :
    (start::((hs.map (normalize n)).map headerText++[[]])).findSome? (lineLength std) =
      some n := by
  have hempty : lineLength std [] = none := lineLength_other hstd (by decide)
  have hline : ∀ h ∈ hs, ∀ k ∈ lineLength std (headerText (normalize n h)), k = n := by
    intro h hmem k hk
    by_cases hlength : ∃ v, h = .contentLength v
    · obtain ⟨v,rfl⟩ := hlength
      exact (Option.some.inj ((lineLength_printed hstd hn).symm.trans hk)).symm
    · have hsame : normalize n h = h := by
        cases h with
        | contentLength v => exact absurd ⟨v,rfl⟩ hlength
        | _ => rfl
      rw [hsame, lineLength_other hstd (fun hl => hlength (length_line (hgood h hmem) hl))] at hk
      cases hk
  cases hfind : (start::((hs.map (normalize n)).map headerText++[[]])).findSome?
      (lineLength std) with
  | none =>
    obtain ⟨v,hv⟩ := hsome
    have hnone := List.findSome?_eq_none_iff.mp hfind
      (headerText (.contentLength (natText n))) (by
        refine List.mem_cons_of_mem _ (List.mem_append_left _ ?_)
        exact List.mem_map_of_mem (List.mem_map.mpr ⟨_,hv,rfl⟩))
    rw [lineLength_printed hstd hn] at hnone
    cases hnone
  | some k =>
    obtain ⟨line,hmem,hk⟩ := List.exists_of_findSome?_eq_some hfind
    simp only [List.mem_cons, List.mem_append, List.mem_map, List.not_mem_nil, or_false] at hmem
    rcases hmem with rfl | ⟨_,⟨h,hh,rfl⟩,rfl⟩ | rfl
    · rw [hstart] at hk
      cases hk
    · rw [hline h hh k hk]
    · rw [hempty] at hk
      cases hk

end Length

section Cutting
variable {std : StdText}

theorem frame_of_head {head body : Bytes}
    (hsplit : ∀ rest, splitAtFirst [13,10,13,10] (head++13::10::13::10::rest) =
      some (head,rest))
    (hlen : parseContentLength std (head++[13,10,13,10]) = body.length)
    (hsize : (head++13::10::13::10::body).length < 2^64) :
    Frame (tryParseMessageFromBuf std) (head++13::10::13::10::body) := by
  have hmsg : (head++13::10::13::10::body).length = head.length+4+body.length := by
    simp only [List.length_append, List.length_cons]
    omega
  have htake (rest : Bytes) : (head++13::10::13::10::rest).take (head.length+4) =
      head++[13,10,13,10] := by
    rw [List.take_length_add_append]
    rfl
  have htotal : (head.length+4+body.length) % 2^64 = head.length+4+body.length := by
    rw [Nat.mod_eq_of_lt]
    rwa [← hmsg]
  constructor
  · intro rest
    have hbuf : head++13::10::13::10::body++rest = head++13::10::13::10::(body++rest) := by
      simp
    have hcut : head.length+4+body.length = (head++13::10::13::10::body).length := hmsg.symm
    rw [tryParseMessageFromBuf, findHeaderEnd, hbuf, hsplit]
    simp only [Option.map_some, htake, hlen, htotal]
    rw [← hbuf, hcut, if_neg (by rw [List.length_append]; omega), List.take_left, List.drop_left]
  · rintro p ⟨q,hq⟩ hshort
    rw [tryParseMessageFromBuf, findHeaderEnd]
    cases hfirst : splitAtFirst [13,10,13,10] p with
    | none => rfl
    | some cut =>
      have hwhole := splitAtFirst_append q hfirst
      rw [hq, hsplit] at hwhole
      have hhead : cut.1 = head := (congrArg Prod.fst (Option.some.inj hwhole)).symm
      have hp : p = head++13::10::13::10::cut.2 := by
        rw [splitAtFirst_eq hfirst, hhead]
        simp
      simp only [Option.map_some]
      rw [hhead, hp, htake, hlen, htotal, if_pos (by rw [← hp]; omega)]

def openings : List Text := "SIP/2.0"::allMethods.map Method.asStr

theorem openings_apart : ∀ w ∈ openings, (toAsciiLowercase w).take 2 ≠ "co" ∧
    (toAsciiLowercase w).take 1 ≠ "l" ∧ 2 ≤ w.length ∧
    utf8 w ≠ [] ∧ (utf8 w).head? ≠ some 13 := by
  decide +kernel

theorem opening_not_length {w : Text} (hw : w ∈ openings) (rest : Text) :
    ¬("content-length:" <+: toAsciiLowercase (w++rest) ∨
      "l:" <+: toAsciiLowercase (w++rest)) := by
  obtain ⟨hco,hl,hlen,-⟩ := openings_apart w hw
  have happend : toAsciiLowercase (w++rest) = toAsciiLowercase w++toAsciiLowercase rest :=
    List.map_append
  have hlower : 2 ≤ (toAsciiLowercase w).length := by rwa [toAsciiLowercase, List.length_map]
  rw [happend]
  rintro (⟨tail,htail⟩ | ⟨tail,htail⟩)
  · have htwo := congrArg (List.take 2) htail
    rw [List.take_append_of_le_length hlower] at htwo
    exact hco htwo.symm
  · have hone := congrArg (List.take 1) htail
    have hpos : 1 ≤ (toAsciiLowercase w).length := by omega
    rw [List.take_append_of_le_length hpos] at hone
    exact hl hone.symm

theorem toBytes_layout {data : Bytes} {m : Message} (h : Message.parse data = .ok m) :
    ∃ w ∈ openings, ∃ rest, LineFits (w++rest) ∧ m.toBytes = layout (w++rest)
      ((headersOf m).inner.map (normalize (bodyOf m).length)) (bodyOf m) := by
  rcases parse_cases h with ⟨r,rfl,hr⟩ | ⟨r,rfl,hr⟩
  · obtain ⟨-,line,hline⟩ := parseRequest_parts hr
    have hmethod : r.method ∈ allMethods := by cases r.method <;> decide
    refine ⟨r.method.asStr,List.mem_cons_of_mem _ (List.mem_map_of_mem hmethod),
      ' '::r.uri++ ' '::r.version,?_,?_⟩
    · have hfits := requestLine_fits hline
      rwa [requestLine, List.append_assoc] at hfits
    · rw [← printed_layout]
      simp [Message.toBytes, Request.toBytes, headersOf, bodyOf]
  · obtain ⟨-,line,hline⟩ := parseResponse_parts hr
    refine ⟨r.version,by rw [(parseStatusLine_parts hline).2.1]; exact List.mem_cons_self,
      ' '::natText r.statusCode++ ' '::r.reason,?_,?_⟩
    · have hfits := statusLine_fits hline
      rwa [statusLine, List.append_assoc] at hfits
    · rw [← printed_layout]
      simp [Message.toBytes, Response.toBytes, headersOf, bodyOf]

/-- A message to be sent: parsed, with a Content-Length, and so short that
one more read fits into the buffer beside it. -/
structure Sent (m : Message) : Prop where
  parsed : ∃ data, Message.parse data = .ok m
  announced : ∃ h ∈ (headersOf m).inner, h.nameMatches "Content-Length" = true
  short : m.toBytes.length ≤ maxTcpSize - readSize

theorem layout_frame (hstd : LowersByChar std) {start : Text} {hs : List Header} {body : Bytes}
    (hline : '\n' ∉ start) (hstart : lineLength std start = none)
    (hgood : ∀ h ∈ hs, Good h) (hsome : ∃ v, Header.contentLength v ∈ hs)
    (hsize : (layout start (hs.map (normalize body.length)) body).length < 2^64) :
    Frame (tryParseMessageFromBuf std) (layout start (hs.map (normalize body.length)) body) := by
  have hbody : body.length < 2^64 := by
    refine Nat.lt_of_le_of_lt ?_ hsize
    rw [layout]
    simp only [List.length_append, List.length_cons]
    omega
  have hnormal : ∀ h ∈ hs.map (normalize body.length), Good h := by
    intro h hmem
    obtain ⟨h',hmem',rfl⟩ := List.mem_map.mp hmem
    exact normalize_good hbody (hgood h' hmem')
  have hblank := no_blank_in_line (lf_not_mem_utf8 hline) (show (13 : UInt8) ≠ 10 by decide)
  have hhead (rest : Bytes) : layout start (hs.map (normalize body.length)) rest =
      utf8 (start++broken '\r' '\n' ((hs.map (normalize body.length)).map headerText)) ++
        13::10::13::10::rest := by
    rw [layout, utf8_append, utf8_broken]
  rw [hhead] at hsize ⊢
  refine frame_of_head (fun rest => ?_) ?_ hsize
  · rw [← hhead]
    exact splitAtFirst_layout hblank hnormal
  · have htext : utf8 (start++broken '\r' '\n'
        ((hs.map (normalize body.length)).map headerText))++[13,10,13,10] =
        utf8 (start++broken '\r' '\n' ((hs.map (normalize body.length)).map headerText) ++
          ['\r','\n','\r','\n']) := by
      rw [utf8_append (start++_)]
      rfl
    have hlines : ∀ l ∈ (hs.map (normalize body.length)).map headerText, '\n' ∉ l := by
      intro l hl
      obtain ⟨h,hmem,rfl⟩ := List.mem_map.mp hl
      exact (headerText_line (hnormal h hmem)).2
    rw [htext, parseContentLength, fromUtf8_utf8]
    dsimp only
    rw [lines_head hline hlines, findSome?_lineLength hstd hbody hstart hgood hsome]
    rfl

theorem sent_frame (hstd : LowersByChar std) {m : Message} (hm : Sent m) :
    Frame (tryParseMessageFromBuf std) m.toBytes ∧ m.toBytes ≠ [] ∧
      ∀ b ∈ m.toBytes.head?, b ≠ 13 := by
  obtain ⟨data,hparse⟩ := hm.parsed
  obtain ⟨w,hw,rest,hfits,hlayout⟩ := toBytes_layout hparse
  have hgood := headersOf_good hparse
  have hsize : m.toBytes.length < 2^64 := hm.short.trans_lt (by decide)
  have hsome : ∃ v, Header.contentLength v ∈ (headersOf m).inner := by
    obtain ⟨h,hmem,hmatch⟩ := hm.announced
    exact ⟨h.value,contentLength_of_matches (hgood h hmem) hmatch ▸ hmem⟩
  have hstart := lineLength_other hstd (opening_not_length hw rest)
  obtain ⟨-,-,-,hne,hhead⟩ := openings_apart w hw
  obtain ⟨b,tail,htail⟩ := List.exists_cons_of_ne_nil hne
  have hcons : ∃ more, m.toBytes = b::more := by
    rw [hlayout, layout, utf8_append, htail]
    exact ⟨_,rfl⟩
  obtain ⟨more,hmore⟩ := hcons
  refine ⟨?_,by rw [hmore]; exact List.cons_ne_nil _ _,?_⟩
  · rw [hlayout] at hsize ⊢
    exact layout_frame hstd hfits.one hstart hgood hsome hsize
  · rw [hmore]
    rintro _ ⟨⟩ hb
    exact hhead (by rw [htail, hb]; rfl)

end Cutting

section Reading
variable {std : StdText}

def Read.bytes : Read → Bytes
  | .data bytes => bytes
  | .failed => []
  | .timedOut => []

/-- A read that goes well: some bytes, as many as the reader takes at most,
or none in time. -/
def Read.Fine : Read → Prop
  | .data bytes => 1 ≤ bytes.length ∧ bytes.length ≤ readSize
  | .failed => False
  | .timedOut => True

theorem read_fits {buf bytes : Bytes} (hbuf : buf.length < maxTcpSize - readSize)
    (hbytes : bytes.length ≤ readSize) : ¬maxTcpSize < (buf++bytes).length := by
  rw [List.length_append]
  simp only [maxTcpSize, readSize] at *
  omega

theorem tryParse_short {buf : Bytes} (h : buf.length ≤ 1) :
    tryParseMessageFromBuf std buf = none := by
  have hnone : splitAtFirst [13,10,13,10] buf = none := by
    rw [splitAtFirst_eq_none]
    intro hinfix
    have hlen := hinfix.length_le
    simp only [List.length_cons, List.length_nil] at hlen
    omega
  rw [tryParseMessageFromBuf, findHeaderEnd, hnone]
  rfl

theorem stripped_arrived {m : Bytes} (hm : Frame (tryParseMessageFromBuf std) m) (hne : m ≠ [])
    (hhead : ∀ b ∈ m.head?, b ≠ 13) (hshort : m.length ≤ maxTcpSize - readSize)
    {buf later more : Bytes} {k : ℕ} (h : buf++later = pairs 13 10 k++(m++more)) :
    (∃ rest, tryParseMessageFromBuf std (stripLeadingKeepalives buf).1 = some (m,rest) ∧
      rest++later = more) ∨
    (tryParseMessageFromBuf std (stripLeadingKeepalives buf).1 = none ∧
      (stripLeadingKeepalives buf).1.length < maxTcpSize - readSize ∧ later ≠ [] ∧
      ∃ j, (stripLeadingKeepalives buf).1++later = pairs 13 10 j++(m++more)) := by
  have hstart : ∀ b ∈ (m++more).head?, b ≠ 13 := by
    rwa [List.head?_append_of_ne_nil _ hne]
  obtain ⟨j,hrest,hpadding⟩ := stripPairs_arrived hstart h
  have hlater (hlen : (stripPairs 13 10 buf).1.length < (pairs 13 10 j++(m++more)).length) :
      later ≠ [] := by
    rintro rfl
    rw [List.append_nil] at hrest
    rw [hrest] at hlen
    exact Nat.lt_irrefl _ hlen
  have hpos := List.length_pos_of_ne_nil hne
  cases j with
  | zero =>
    rcases hm.arrived hrest with harrived | ⟨hnone,hlen⟩
    · exact .inl harrived
    · refine .inr ⟨hnone,hlen.trans_le hshort,hlater ?_,0,hrest⟩
      rw [List.length_append, List.length_append]
      omega
  | succ j =>
    have hone : (stripPairs 13 10 buf).1.length ≤ 1 := hpadding.resolve_left (Nat.succ_ne_zero j)
    refine .inr ⟨tryParse_short hone,?_,hlater ?_,j+1,hrest⟩
    · exact hone.trans_lt (by decide)
    · rw [pairs_succ]
      simp only [List.cons_append, List.length_cons]
      omega

theorem stripped_padding (std : StdText) {buf later : Bytes} {k : ℕ}
    (h : buf++later = pairs 13 10 k) :
    tryParseMessageFromBuf std (stripLeadingKeepalives buf).1 = none ∧
      (stripLeadingKeepalives buf).1.length < maxTcpSize - readSize ∧
      ∃ j, (stripLeadingKeepalives buf).1++later = pairs 13 10 j := by
  obtain ⟨j,hrest,hpadding⟩ := stripPairs_arrived (s := []) nofun
    (h.trans (List.append_nil _).symm)
  rw [List.append_nil] at hrest
  have hone : (stripPairs 13 10 buf).1.length ≤ 1 := by
    rcases hpadding with rfl | hone
    · rw [(List.append_eq_nil_iff.mp hrest).1]
      exact Nat.zero_le _
    · exact hone
  exact ⟨tryParse_short hone,hone.trans_lt (by decide),j,hrest⟩

theorem readMessage_cut {buf m rest : Bytes} (reads : List Read) (written : List Bytes)
    (h : tryParseMessageFromBuf std (stripLeadingKeepalives buf).1 = some (m,rest)) :
    ∃ written', readMessage std reads buf written = (.message m,⟨rest,reads,written'⟩) := by
  rw [readMessage.eq_def]
  simp only [h]
  exact ⟨_,rfl⟩

theorem readMessage_more {r : Read} {buf : Bytes} (reads : List Read) (written : List Bytes)
    (h : tryParseMessageFromBuf std (stripLeadingKeepalives buf).1 = none)
    (hroom : (stripLeadingKeepalives buf).1.length < maxTcpSize - readSize) (hr : r.Fine) :
    ∃ written', readMessage std (r::reads) buf written =
      readMessage std reads ((stripLeadingKeepalives buf).1++r.bytes) written' := by
  rw [readMessage.eq_def]
  simp only [h]
  cases r with
  | failed => exact absurd hr id
  | timedOut =>
    rw [Read.bytes, List.append_nil]
    exact ⟨_,rfl⟩
  | data bytes =>
    have hempty : bytes.isEmpty = false := by
      have hone : 1 ≤ bytes.length := hr.1
      cases bytes with
      | nil => cases hone
      | cons b bytes => rfl
    simp only [hempty, Bool.false_eq_true, if_false, if_neg (read_fits hroom hr.2)]
    exact ⟨_,rfl⟩

theorem readMessage_first {m : Bytes} (hm : Frame (tryParseMessageFromBuf std) m) (hne : m ≠ [])
    (hhead : ∀ b ∈ m.head?, b ≠ 13) (hshort : m.length ≤ maxTcpSize - readSize)
    {reads : List Read} (hreads : ∀ r ∈ reads, r.Fine) {buf more : Bytes} {k : ℕ}
    (h : buf++reads.flatMap Read.bytes = pairs 13 10 k++(m++more))
    (written : List Bytes) : ∃ rest reads' written',
      readMessage std reads buf written = (.message m,⟨rest,reads',written'⟩) ∧
      (∀ r ∈ reads', r.Fine) ∧ rest++reads'.flatMap Read.bytes = more := by
  induction reads generalizing buf k written with
  | nil =>
    rcases stripped_arrived hm hne hhead hshort h with ⟨rest,hcut,hrest⟩ | ⟨-,-,hlater,-⟩
    · obtain ⟨written',hcall⟩ := readMessage_cut [] written hcut
      exact ⟨rest,[],written',hcall,hreads,hrest⟩
    · exact absurd rfl hlater
  | cons r reads ih =>
    obtain ⟨hr,hreads'⟩ := List.forall_mem_cons.mp hreads
    rcases stripped_arrived hm hne hhead hshort h with
      ⟨rest,hcut,hrest⟩ | ⟨hnone,hroom,-,j,hrest⟩
    · obtain ⟨written',hcall⟩ := readMessage_cut (r::reads) written hcut
      exact ⟨rest,r::reads,written',hcall,hreads,hrest⟩
    · obtain ⟨written',hcall⟩ := readMessage_more reads written hnone hroom hr
      rw [List.flatMap_cons, ← List.append_assoc] at hrest
      rw [hcall]
      exact ih hreads' hrest written'

theorem readMessage_padding (std : StdText) {reads : List Read} (hreads : ∀ r ∈ reads, r.Fine)
    {buf : Bytes} {k : ℕ} (h : buf++reads.flatMap Read.bytes = pairs 13 10 k)
      (written : List Bytes) :
    (readMessage std reads buf written).1 = .waiting := by
  obtain ⟨hnone,hroom,j,hrest⟩ := stripped_padding std h
  induction reads generalizing buf k j written with
  | nil =>
    rw [readMessage.eq_def]
    simp only [hnone]
  | cons r reads ih =>
    obtain ⟨hr,hreads'⟩ := List.forall_mem_cons.mp hreads
    obtain ⟨written',hcall⟩ := readMessage_more reads written hnone hroom hr
    rw [List.flatMap_cons, ← List.append_assoc] at hrest
    obtain ⟨hnone',hroom',j',hrest'⟩ := stripped_padding std hrest
    rw [hcall]
    exact ih hreads' hrest written' hnone' hroom' j' hrest'

def stream (msgs : List (ℕ × Message)) (tail : ℕ) : Bytes :=
  msgs.flatMap (fun e => pairs 13 10 e.1++e.2.toBytes)++pairs 13 10 tail

theorem readLoop_stream (hstd : LowersByChar std) {msgs : List (ℕ × Message)}
    (hmsgs : ∀ e ∈ msgs, Sent e.2) {tail : ℕ} {s : ReadHalfState}
    (hreads : ∀ r ∈ s.reads, r.Fine)
    (h : s.readBuf++s.reads.flatMap Read.bytes = stream msgs tail) {calls : ℕ}
    (hcalls : msgs.length < calls) :
    readLoop std calls s = (msgs.map (fun e => e.2.toBytes),some .waiting) := by
  induction msgs generalizing s calls with
  | nil =>
    obtain ⟨calls,rfl⟩ := Nat.exists_eq_add_one_of_ne_zero (Nat.ne_of_gt hcalls)
    have hwait := readMessage_padding std hreads h s.written
    rw [readLoop]
    split
    · rename_i data s' hcall
      rw [hcall] at hwait
      cases hwait
    · rename_i outcome s' _ hcall
      rw [hcall] at hwait
      have houtcome : outcome = .waiting := hwait
      rw [houtcome]
      rfl
  | cons e msgs ih =>
    obtain ⟨calls,rfl⟩ := Nat.exists_eq_add_one_of_ne_zero (Nat.ne_of_gt (Nat.zero_lt_of_lt hcalls))
    obtain ⟨he,hmsgs'⟩ := List.forall_mem_cons.mp hmsgs
    obtain ⟨hframe,hne,hhead⟩ := sent_frame hstd he
    have hstream : stream (e::msgs) tail =
        pairs 13 10 e.1++(e.2.toBytes++stream msgs tail) := by
      simp [stream]
    rw [hstream] at h
    obtain ⟨rest,reads',written',hcall,hreads',hrest⟩ :=
      readMessage_first hframe hne hhead he.short hreads h s.written
    have hloop := ih hmsgs' (s := ⟨rest,reads',written'⟩) hreads' hrest
      (Nat.lt_of_succ_lt_succ hcalls)
    rw [readLoop, hcall]
    simp only [hloop]
    rfl

end Reading

/-- Parsed messages with a Content-Length that are printed, one behind the
other with keep-alives between them, are returned as they were sent by
enough calls, however the stream is cut into reads, and no call fails. -/
theorem stream_returned (std : StdText) (hstd : LowersByChar std) (msgs : List (ℕ × Message))
    (hmsgs : ∀ e ∈ msgs, Sent e.2) (tail : ℕ) (reads : List Read)
    (hreads : ∀ r ∈ reads, r.Fine) (hstream : reads.flatMap Read.bytes = stream msgs tail)
    (calls : ℕ) (hcalls : msgs.length < calls) :
    readLoop std calls ⟨[],reads,[]⟩ = (msgs.map (fun e => e.2.toBytes),some .waiting) :=
  readLoop_stream hstd hmsgs (s := ⟨[],reads,[]⟩) hreads hstream hcalls

theorem asciiText_lowers : LowersByChar asciiText := by
  intro s
  refine ⟨s.map (fun c => [c.toLower]),?_,?_⟩
  · induction s with
    | nil => rfl
    | cons c s ih => exact congrArg (c.toLower::·) ih
  · rw [List.forall₂_map_right_iff, List.forall₂_same]
    intro c _
    refine ⟨fun _ => rfl,fun hhigh => ⟨List.cons_ne_nil _ _,fun d hd hlow => ?_⟩⟩
    rw [List.mem_singleton.mp hd, toLower_high hhigh] at hlow
    omega

def sampleOptions : Message := .request {
  method := .options
  uri := "sip:a"
  version := "SIP/2.0"
  headers := ⟨[.contentLength "2"],by decide⟩
  body := [13,10] }

/-- The sample twice, cut in the middle of the first, with a timeout there. -/
def sampleReads : List Read :=
  [.data (13::10::sampleOptions.toBytes.take 20),.timedOut,
    .data (sampleOptions.toBytes.drop 20++13::10::sampleOptions.toBytes)]

theorem sampleOptions_sent : Sent sampleOptions :=
  ⟨⟨sampleOptions.toBytes,by decide +kernel⟩,⟨.contentLength "2",by decide +kernel,
    by decide +kernel⟩,by decide +kernel⟩

theorem cut_stream_returned : readLoop asciiText 3 ⟨[],sampleReads,[]⟩ =
    ([sampleOptions.toBytes,sampleOptions.toBytes],some .waiting) := by
  refine stream_returned asciiText asciiText_lowers [(1,sampleOptions),(1,sampleOptions)] ?_ 0
    sampleReads ?_ (by decide +kernel) 3 (by decide)
  · intro e he
    simp only [List.mem_cons, List.not_mem_nil, or_false, or_self] at he
    rw [he]
    exact sampleOptions_sent
  · intro r hr
    simp only [sampleReads, List.mem_cons, List.not_mem_nil, or_false] at hr
    rcases hr with rfl | rfl | rfl
    · exact ⟨by decide +kernel,by decide +kernel⟩
    · trivial
    · exact ⟨by decide +kernel,by decide +kernel⟩

end RsipRtp.TcpFraming
