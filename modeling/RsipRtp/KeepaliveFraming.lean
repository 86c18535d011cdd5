import RsipRtp.TlsFraming

/-!
# Keep-alives in the two read loops

The TCP loop drops the keep-alives in front of a message, the TLS loop takes
them for the start of one.
-/

namespace RsipRtp.KeepaliveFraming
open SipText Utf8 LineFraming ChunkedFraming TlsFraming
open Sdp (StdText LowersByChar)
open SdpAgreement (asciiText)
open TcpFraming (Read lineLength)

theorem stripped_pair (rest : Bytes) : stripped (13::10::rest) = stripped rest := by
  rw [stripped, TcpFraming.stripLeadingKeepalives, stripPairs, if_pos ⟨rfl,rfl⟩]
  rfl

theorem stripped_unpadded {buf : Bytes} (h : ¬[13,10] <+: buf) : stripped buf = buf := by
  match buf with
  | [] => rfl
  | [a] => rfl
  | a::b::rest =>
    have hpair : ¬(a = 13 ∧ b = 10) := by
      rintro ⟨rfl,rfl⟩
      exact h (List.prefix_append [13,10] rest)
    rw [stripped, TcpFraming.stripLeadingKeepalives, stripPairs, if_neg hpair]

theorem padded_cases (buf : Bytes) : (∃ rest, buf = 13::10::rest) ∨ ¬[13,10] <+: buf := by
  by_cases h : [13,10] <+: buf
  · obtain ⟨rest,rfl⟩ := h
    exact .inl ⟨rest,rfl⟩
  · exact .inr h

theorem unpadded_stripped (buf : Bytes) : ¬[13,10] <+: stripped buf := by
  rcases padded_cases buf with ⟨rest,rfl⟩ | h
  · rw [stripped_pair]
    exact unpadded_stripped rest
  · rwa [stripped_unpadded h]
termination_by buf.length

/-- What a reader may do with its buffer before it cuts: take off what it
would have taken off later too, and nothing once a message may have begun. -/
structure Prepares (prepare : Bytes → Bytes) : Prop where
  shorter : ∀ buf, (prepare buf).length ≤ buf.length
  absorbs : ∀ buf later, prepare (prepare buf++later) = prepare (buf++later)
  settles : ∀ buf later, 2 ≤ (prepare buf).length →
    prepare (prepare buf++later) = prepare buf++later

theorem prepares_id : Prepares id :=
  ⟨fun _ => Nat.le_refl _,fun _ _ => rfl,fun _ _ _ => rfl⟩

theorem stripped_absorbs (buf later : Bytes) :
    stripped (stripped buf++later) = stripped (buf++later) := by
  rcases padded_cases buf with ⟨rest,rfl⟩ | h
  · rw [stripped_pair, List.cons_append, List.cons_append, stripped_pair]
    exact stripped_absorbs rest later
  · rw [stripped_unpadded h]
termination_by buf.length

theorem prepares_stripped : Prepares stripped where
  shorter := fun buf => (stripped_suffix buf).length_le
  absorbs := stripped_absorbs
  settles := by
    intro buf later hlen
    refine stripped_unpadded fun hpad => unpadded_stripped buf ?_
    exact List.prefix_of_prefix_length_le hpad (List.prefix_append _ _) hlen

section Calls
variable {std : StdText} {prepare : Bytes → Bytes}

def arriving : List Read → Bytes
  | [] => []
  | .failed::_ => []
  | .timedOut::reads => arriving reads
  | .data bytes::reads => if bytes.isEmpty then [] else bytes++arriving reads

theorem cut_settled (hp : Prepares prepare) {buf m rest : Bytes} (later : Bytes)
    (h : tryParseMessage std (prepare buf) = some (m,rest)) :
    prepare (buf++later) = prepare buf++later := by
  obtain ⟨-,-,hfour⟩ := cut_parts h
  rw [← hp.absorbs]
  exact hp.settles buf later (by omega)

theorem take_settled {q later : Bytes} (h : q.length ≤ maxTlsSize) :
    (q++later).take maxTlsSize = q++later.take (maxTlsSize - q.length) := by
  rw [List.take_append, List.take_of_length_le h]

theorem returned_front (hp : Prepares prepare) {reads reads' : List Read} {buf m rest : Bytes}
    (hbuf : buf.length ≤ maxTlsSize)
    (h : readWith std prepare reads buf = (.message m,rest,reads')) :
    (∃ tail, tryParseMessage std ((prepare (buf++arriving reads)).take maxTlsSize) =
      some (m,tail)) ∧ rest++arriving reads' = (prepare (buf++arriving reads)).drop m.length ∧
      rest.length ≤ maxTlsSize := by
  have hnow {reads : List Read} {buf : Bytes} (hbuf : buf.length ≤ maxTlsSize)
      (hcut : tryParseMessage std (prepare buf) = some (m,rest)) :
      (∃ tail, tryParseMessage std ((prepare (buf++arriving reads)).take maxTlsSize) =
        some (m,tail)) ∧ rest++arriving reads = (prepare (buf++arriving reads)).drop m.length ∧
        rest.length ≤ maxTlsSize := by
    have hlen := (hp.shorter buf).trans hbuf
    obtain ⟨hparts,hrest,-⟩ := cut_parts hcut
    have hsum := congrArg List.length hparts
    rw [List.length_append] at hsum
    rw [cut_settled hp _ hcut, take_settled hlen]
    refine ⟨⟨_,cut_append _ hcut⟩,?_,by omega⟩
    rw [List.drop_append_of_le_length (by omega), ← hrest]
  fun_induction readWith std prepare reads buf with
  | case1 reads buf msg rest' hcut =>
    cases h
    exact hnow hbuf hcut
  | case4 buf hnone reads ih =>
    have hread := ih ((hp.shorter buf).trans hbuf) h
    rwa [hp.absorbs] at hread
  | case7 buf hnone bytes reads hempty hlarge ih =>
    have hread := ih (Nat.not_lt.mp hlarge) h
    rw [List.append_assoc, hp.absorbs] at hread
    rwa [arriving, if_neg hempty]
  | _ => cases h

def bytewise (bytes : Bytes) : List Read := bytes.map (fun b => .data [b])

theorem arriving_bytewise (bytes : Bytes) : arriving (bytewise bytes) = bytes := by
  induction bytes with
  | nil => rfl
  | cons b bytes ih => exact congrArg (b::·) ih

theorem bytewise_returned (hp : Prepares prepare) {later buf m tail : Bytes}
    (hbuf : buf.length ≤ maxTlsSize)
    (h : tryParseMessage std ((prepare (buf++later)).take maxTlsSize) = some (m,tail)) :
    ∃ rest later', readWith std prepare (bytewise later) buf =
      (.message m,rest,bytewise later') := by
  induction later generalizing buf with
  | nil =>
    rw [List.append_nil, List.take_of_length_le ((hp.shorter buf).trans hbuf)] at h
    rw [bytewise, List.map_nil, readWith.eq_def, h]
    exact ⟨tail,[],rfl⟩
  | cons b later ih =>
    cases hcut : tryParseMessage std (prepare buf) with
    | some cut =>
      have hcall : readWith std prepare (bytewise (b::later)) buf =
          (.message cut.1,cut.2,bytewise (b::later)) := by
        rw [readWith.eq_def, hcut]
      obtain ⟨⟨tail',hfront⟩,-⟩ := returned_front hp hbuf hcall
      rw [arriving_bytewise, h] at hfront
      cases hfront
      exact ⟨_,_,hcall⟩
    | none =>
      have hroom : ¬maxTlsSize < (prepare buf++[b]).length := by
        intro hfull
        rw [List.length_append, List.length_singleton] at hfull
        have hlen : (prepare buf).length = maxTlsSize := by
          have := (hp.shorter buf).trans hbuf
          omega
        have hsettled := hp.settles buf (b::later) (by rw [hlen]; decide)
        rw [hp.absorbs] at hsettled
        rw [hsettled, ← hlen, List.take_left, hcut] at h
        cases h
      have hnext : readWith std prepare (bytewise (b::later)) buf =
          readWith std prepare (bytewise later) (prepare buf++[b]) := by
        rw [bytewise, List.map_cons, readWith.eq_def, hcut]
        exact if_neg hroom
      rw [hnext]
      refine ih (Nat.not_lt.mp hroom) ?_
      rwa [List.append_assoc, hp.absorbs]

theorem unpadded_call {reads : List Read} {buf : Bytes} (h : ¬[13,10] <+: buf++arriving reads) :
    readWith std stripped reads buf = readWith std id reads buf := by
  have hbuf {later : Bytes} (h : ¬[13,10] <+: buf++later) : stripped buf = buf :=
    stripped_unpadded fun hpad => h (hpad.trans (List.prefix_append _ _))
  induction reads generalizing buf with
  | nil => rw [readWith.eq_def, readWith.eq_def, hbuf h, id]
  | cons r reads ih =>
    rw [readWith.eq_def, readWith.eq_def, hbuf h, id]
    cases tryParseMessage std buf with
    | some cut => rfl
    | none => cases r with
      | failed => rfl
      | timedOut => exact ih h hbuf
      | data bytes =>
        dsimp only
        split_ifs with hempty hlarge
        · rfl
        · rfl
        · rw [arriving, if_neg hempty, ← List.append_assoc] at h
          refine ih h fun {later} hlater => stripped_unpadded fun hpad =>
            hlater (hpad.trans (List.prefix_append _ _))

end Calls

section Streams
variable (std : StdText)
variable {prepare : Bytes → Bytes} {reads : List Read}

/-- Where a message of a stream starts, as long as none of those before it has
a line break in front. -/
inductive Boundary : Bytes → Bytes → Prop
  | start {stream : Bytes} : Boundary stream stream
  | next {stream ahead m tail : Bytes} : Boundary stream ahead → ¬[13,10] <+: ahead →
      tryParseMessage std (ahead.take maxTlsSize) = some (m,tail) →
      Boundary stream (ahead.drop m.length)

/-- No message of the stream that a buffer can hold has a line break in front,
whether the line break is dropped or taken for its start. -/
def Unpadded (stream : Bytes) : Prop :=
  ∀ ahead, Boundary std stream ahead → [13,10] <+: ahead →
    tryParseMessage std (ahead.take maxTlsSize) = none ∧
      tryParseMessage std ((stripped ahead).take maxTlsSize) = none

variable {std}

theorem silent_call (hp : Prepares prepare)
    {buf : Bytes} (hbuf : buf.length ≤ maxTlsSize)
    (h : tryParseMessage std ((prepare (buf++arriving reads)).take maxTlsSize) = none)
    (calls : ℕ) : (loopWith std prepare calls reads buf).1 = [] := by
  cases calls with
  | zero => rfl
  | succ calls =>
    rw [loopWith]
    split
    · rename_i hcall
      obtain ⟨⟨tail,hcut⟩,-⟩ := returned_front hp hbuf hcall
      rw [h] at hcut
      cases hcut
    · rfl

theorem first_call (hp : Prepares prepare) {later buf : Bytes}
    (hbuf : buf.length ≤ maxTlsSize) : (loopWith std prepare 1 (bytewise later) buf).1 =
      ((tryParseMessage std ((prepare (buf++later)).take maxTlsSize)).map (·.1)).toList := by
  cases hcut : tryParseMessage std ((prepare (buf++later)).take maxTlsSize) with
  | none => exact silent_call hp hbuf (by rwa [arriving_bytewise]) 1
  | some cut =>
    obtain ⟨rest,later',hcall⟩ := bytewise_returned hp hbuf hcut
    rw [loopWith, hcall]
    rfl

theorem loop_front (hp : Prepares prepare) (calls : ℕ)
    {buf buf' later : Bytes} (hbuf : buf.length ≤ maxTlsSize)
    (hbuf' : buf'.length ≤ maxTlsSize) (h : buf++arriving reads = buf'++later) :
    (loopWith std prepare calls reads buf).1 <+:
      (loopWith std prepare calls (bytewise later) buf').1 := by
  induction calls generalizing reads buf buf' later with
  | zero => exact List.nil_prefix
  | succ calls ih =>
    rw [loopWith]
    split
    · rename_i m rest reads' hcall
      obtain ⟨⟨tail,hcut⟩,hrest,hlen⟩ := returned_front hp hbuf hcall
      rw [h] at hcut hrest
      obtain ⟨rest',later',hcall'⟩ := bytewise_returned hp hbuf' hcut
      obtain ⟨-,hrest',hlen'⟩ := returned_front hp hbuf' hcall'
      rw [arriving_bytewise, arriving_bytewise] at hrest'
      rw [loopWith, hcall']
      exact List.cons_prefix_cons.mpr ⟨rfl,ih hlen hlen' (hrest.trans hrest'.symm)⟩
    · exact List.nil_prefix

theorem loops_agree {stream : Bytes} (h : Unpadded std stream) (calls : ℕ)
    {buf : Bytes} (hbuf : buf.length ≤ maxTlsSize)
    (hahead : Boundary std stream (buf++arriving reads)) :
    (loopWith std stripped calls reads buf).1 = (loopWith std id calls reads buf).1 ∧
      ∀ m ∈ (loopWith std id calls reads buf).1, ¬[13,10] <+: m := by
  induction calls generalizing reads buf with
  | zero => exact ⟨rfl,fun m hm => absurd hm List.not_mem_nil⟩
  | succ calls ih =>
    by_cases hpad : [13,10] <+: buf++arriving reads
    · obtain ⟨htls,htcp⟩ := h _ hahead hpad
      rw [silent_call prepares_stripped hbuf htcp, silent_call prepares_id hbuf htls]
      exact ⟨rfl,fun m hm => absurd hm List.not_mem_nil⟩
    · rw [loopWith, loopWith, unpadded_call hpad]
      split
      · rename_i m rest reads' hcall
        obtain ⟨⟨tail,hcut⟩,hrest,hlen⟩ := returned_front prepares_id hbuf hcall
        have hnext : Boundary std stream (rest++arriving reads') := by
          rw [hrest]
          exact hahead.next hpad hcut
        obtain ⟨hsame,hall⟩ := ih hlen hnext
        refine ⟨congrArg (m::·) hsame,?_⟩
        intro m' hm'
        rcases List.mem_cons.mp hm' with rfl | hm'
        · intro hm
          obtain ⟨hparts,-,-⟩ := cut_parts hcut
          refine hpad (hm.trans ?_)
          exact (List.IsPrefix.trans ⟨tail,hparts⟩ (List.take_prefix _ _))
        · exact hall m' hm'
      · exact ⟨rfl,fun m hm => absurd hm List.not_mem_nil⟩

theorem boundary_reached {stream ahead : Bytes} (h : Boundary std stream ahead) :
    ∃ k buf later msgs, buf++later = ahead ∧ buf.length ≤ maxTlsSize ∧ ∀ calls,
      (loopWith std id (k+calls) (bytewise stream) []).1 =
        msgs++(loopWith std id calls (bytewise later) buf).1 ∧
      (loopWith std stripped (k+calls) (bytewise stream) []).1 =
        msgs++(loopWith std stripped calls (bytewise later) buf).1 := by
  induction h with
  | start =>
    refine ⟨0,[],stream,[],rfl,Nat.zero_le _,fun calls => ?_⟩
    rw [Nat.zero_add]
    exact ⟨rfl,rfl⟩
  | @next ahead m tail _ hpad hcut ih =>
    obtain ⟨k,buf,later,msgs,rfl,hbuf,hloops⟩ := ih
    obtain ⟨rest,later',hcall⟩ := bytewise_returned prepares_id hbuf hcut
    obtain ⟨-,hrest,hlen⟩ := returned_front prepares_id hbuf hcall
    rw [arriving_bytewise, arriving_bytewise] at hrest
    have hcall' := hcall
    rw [← unpadded_call (by rwa [arriving_bytewise])] at hcall'
    refine ⟨k+1,rest,later',msgs++[m],hrest,hlen,fun calls => ?_⟩
    obtain ⟨htls,htcp⟩ := hloops (calls+1)
    rw [loopWith, hcall] at htls
    rw [loopWith, hcall'] at htcp
    rw [Nat.add_assoc, Nat.add_comm 1, htls, htcp, List.append_assoc, List.append_assoc]
    exact ⟨rfl,rfl⟩

end Streams

section Apart
variable {std : StdText}

theorem fromUtf8_break {bytes : Bytes} {t : Text} (h : fromUtf8 (13::10::bytes) = .ok t) :
    ∃ s, t = '\r':: '\n'::s ∧ fromUtf8 bytes = .ok s := by
  obtain ⟨t',h',rfl⟩ := map_ok h
  obtain ⟨s,hs,rfl⟩ := map_ok h'
  have hbytes := utf8_of_fromUtf8Loop bytes.length _ bytes s (Nat.le_refl _) hs
  exact ⟨s,rfl,by rw [← hbytes, fromUtf8_utf8]⟩

theorem parseContentLength_break (hstd : LowersByChar std) {bytes : Bytes}
    (h : parseContentLength std (13::10::bytes) ≠ 0) :
    parseContentLength std (13::10::bytes) = parseContentLength std bytes := by
  rw [parseContentLength, TcpFraming.parseContentLength] at h ⊢
  cases hutf : fromUtf8 (13::10::bytes) with
  | error e =>
    rw [hutf] at h
    exact absurd rfl h
  | ok t =>
    obtain ⟨s,rfl,hs⟩ := fromUtf8_break hutf
    have hlines : lines ('\r':: '\n'::s) = []::lines s := lines_break s List.not_mem_nil
    have hempty : lineLength std [] = none := TcpFraming.lineLength_other hstd (by decide)
    rw [parseContentLength, TcpFraming.parseContentLength, hs]
    dsimp only
    rw [hlines, List.findSome?_cons, hempty]

theorem findHeaderEnd_break {rest : Bytes} (h : ¬[13,10] <+: rest) :
    findHeaderEnd (13::10::rest) = (findHeaderEnd rest).map (·+2) := by
  have hpass : splitAtFirst [13,10,13,10] ([]++13::10::rest) = _ :=
    splitAtFirst_pass (by decide) (by decide) h
  rw [List.nil_append] at hpass
  rw [findHeaderEnd, TcpFraming.findHeaderEnd, hpass, findHeaderEnd, TcpFraming.findHeaderEnd,
    Option.map_map, Option.map_map]
  rfl

theorem wraps_of_short {buf m tail : Bytes} (h : tryParseMessage std buf = some (m,tail))
    (hbuf : buf.length ≤ maxTlsSize) (hshort : m.length < 2) :
    ∃ headerEnd, findHeaderEnd buf = some headerEnd ∧
      headerEnd+parseContentLength std (buf.take headerEnd) = 2^64+m.length := by
  obtain ⟨headerEnd,hend,total,htotal,hle,hm,-⟩ := cut_iff.mp h
  obtain ⟨hfour,hlen⟩ := findHeaderEnd_le hend
  have hmlen : m.length = total := by rw [hm, List.length_take_of_le hle]
  have hlt := parseContentLength_lt std (buf.take headerEnd)
  have hmax : maxTlsSize = 65536 := rfl
  exact ⟨headerEnd,hend,by omega⟩

theorem break_not_short (hstd : LowersByChar std) {rest m tail tail' : Bytes}
    (htls : tryParseMessage std ((13::10::rest).take maxTlsSize) = some (m,tail))
    (htcp : tryParseMessage std ((stripped (13::10::rest)).take maxTlsSize) = some (m,tail'))
    (hshort : m.length < 2) : False := by
  have hmax : maxTlsSize = 65534+2 := rfl
  have htake : (13::10::rest).take maxTlsSize = 13::10::rest.take 65534 := by
    rw [hmax, List.take_succ_cons, List.take_succ_cons]
  obtain ⟨headerEnd,hend,hsum⟩ := wraps_of_short htls (List.length_take_le _ _) hshort
  obtain ⟨hfour,hlen⟩ := findHeaderEnd_le hend
  have hsize := hlen.trans (List.length_take_le _ _)
  rw [htake] at hend hsum
  rcases padded_cases rest with ⟨rest',rfl⟩ | hpad
  · -- two line breaks are the whole head, which announces nothing
    have hfirst : findHeaderEnd (13::10::(13::10::rest').take 65534) = some 4 := by
      rw [findHeaderEnd, TcpFraming.findHeaderEnd]
      exact congrArg (Option.map _) (if_pos (List.prefix_append [13,10,13,10] _))
    cases hfirst.symm.trans hend
    have hhead : (13::10::(13::10::rest').take 65534).take 4 = [13,10,13,10] := rfl
    rw [hhead] at hsum
    have hbreak : parseContentLength std [13,10,13,10] ≠ 0 := by omega
    rw [parseContentLength_break hstd hbreak] at hbreak
    rw [parseContentLength_break hstd hbreak] at hbreak
    exact hbreak rfl
  · have hahead : ¬[13,10] <+: rest.take 65534 := fun hpre =>
        hpad (hpre.trans (List.take_prefix _ _))
    rw [findHeaderEnd_break hahead] at hend
    obtain ⟨headerEnd',hend',rfl⟩ := Option.map_eq_some_iff.mp hend
    have hhead : (13::10::rest.take 65534).take (headerEnd'+2) =
        13::10::(rest.take 65534).take headerEnd' := rfl
    rw [hhead] at hsum
    rw [parseContentLength_break hstd (by omega)] at hsum
    have hrest : rest.take maxTlsSize = rest.take 65534++(rest.drop 65534).take 2 := by
      rw [hmax, List.take_add]
    rw [stripped_pair, stripped_unpadded hpad, hrest] at htcp
    obtain ⟨headerEnd,hend,total,htotal,hle,hm,-⟩ := cut_iff.mp htcp
    cases (findHeaderEnd_append _ hend').symm.trans hend
    rw [List.take_append_of_le_length (findHeaderEnd_le hend').2] at htotal
    rw [← hrest] at hle
    have := hle.trans (List.length_take_le _ _)
    omega

/-- The two never return the same message where a line break is in front: the
one starts with it, unless its length wraps, and then the other waits. -/
theorem padded_apart (hstd : LowersByChar std) {ahead m tail tail' : Bytes}
    (hpad : [13,10] <+: ahead)
    (htls : tryParseMessage std (ahead.take maxTlsSize) = some (m,tail))
    (htcp : tryParseMessage std ((stripped ahead).take maxTlsSize) = some (m,tail')) : False := by
  have hfront : m <+: ahead := List.IsPrefix.trans ⟨tail,(cut_parts htls).1⟩ (List.take_prefix _ _)
  have hfront' : m <+: stripped ahead :=
    List.IsPrefix.trans ⟨tail',(cut_parts htcp).1⟩ (List.take_prefix _ _)
  have hshort : m.length < 2 := by
    by_contra hlong
    have hm : [13,10] <+: m := List.prefix_of_prefix_length_le hpad hfront (Nat.not_lt.mp hlong)
    exact unpadded_stripped ahead (hm.trans hfront')
  obtain ⟨rest,rfl⟩ := hpad
  exact break_not_short hstd htls htcp hshort

end Apart

/-- A TLS connection returns what a TCP read half returns, and no message that
starts with a keep-alive, over every way to cut a stream into reads, exactly if
no message of the stream has a line break in front. -/
theorem tls_reads_like_tcp_iff (std : StdText) (hstd : LowersByChar std) (stream : Bytes) :
    (∀ reads, arriving reads = stream → .timedOut ∉ reads → ∀ calls,
        (readLoop std calls ⟨[],reads⟩).1 = (TcpFraming.readLoop std calls ⟨[],reads,[]⟩).1 ∧
          ∀ m ∈ (readLoop std calls ⟨[],reads⟩).1, ¬[13,10] <+: m) ↔ Unpadded std stream := by
  simp only [tls_loop, tcp_loop]
  constructor
  · intro h ahead hahead hpad
    obtain ⟨k,buf,later,msgs,rfl,hbuf,hloops⟩ := boundary_reached hahead
    have hquiet : Read.timedOut ∉ bytewise stream := by
      intro hmem
      obtain ⟨b,-,hb⟩ := List.mem_map.mp hmem
      cases hb
    obtain ⟨hsame,-⟩ := h (bytewise stream) (arriving_bytewise stream) hquiet (k+1)
    obtain ⟨htls,htcp⟩ := hloops 1
    rw [htls, htcp, List.append_cancel_left_eq, first_call prepares_id hbuf,
      first_call prepares_stripped hbuf, id] at hsame
    cases hcut : tryParseMessage std ((buf++later).take maxTlsSize) with
    | none =>
      rw [hcut] at hsame
      cases hcut' : tryParseMessage std ((stripped (buf++later)).take maxTlsSize) with
      | none => exact ⟨rfl,rfl⟩
      | some cut' =>
        rw [hcut'] at hsame
        cases hsame
    | some cut =>
      rw [hcut] at hsame
      cases hcut' : tryParseMessage std ((stripped (buf++later)).take maxTlsSize) with
      | none =>
        rw [hcut'] at hsame
        cases hsame
      | some cut' =>
        rw [hcut'] at hsame
        have hm : cut.1 = cut'.1 := (List.cons.inj hsame).1
        have hcut'' : tryParseMessage std ((stripped (buf++later)).take maxTlsSize) =
            some (cut.1,cut'.2) := by rw [hcut', hm]
        exact (padded_apart hstd hpad hcut hcut'').elim
  · intro h reads harriving _ calls
    have hstart : Boundary std stream ([]++arriving reads) := by
      rw [harriving]
      exact .start
    obtain ⟨hsame,hall⟩ := loops_agree h calls (Nat.zero_le _) hstart
    exact ⟨hsame.symm,hall⟩

def plainStream : Bytes := utf8 "OPTIONS sip:a SIP/2.0\r\n\r\n"

/-- Two requests, and a line break that may be a keepalive or the start of more. -/
def requestPair : Bytes := plainStream++plainStream++[13,10]

theorem requestPair_unpadded : Unpadded asciiText requestPair := by
  have hfirst : tryParseMessage asciiText (requestPair.take maxTlsSize) =
      some (plainStream,plainStream++[13,10]) := by decide +kernel
  have hsecond : tryParseMessage asciiText ((plainStream++[13,10]).take maxTlsSize) =
      some (plainStream,[13,10]) := by decide +kernel
  have hahead : ∀ ahead, Boundary asciiText requestPair ahead →
      ahead = requestPair ∨ ahead = plainStream++[13,10] ∨ ahead = [13,10] := by
    intro ahead h
    induction h with
    | start => exact .inl rfl
    | @next ahead m tail _ hpad hcut ih =>
      rcases ih with rfl | rfl | rfl
      · rw [hfirst] at hcut
        cases hcut
        exact .inr (.inl (by decide +kernel))
      · rw [hsecond] at hcut
        cases hcut
        exact .inr (.inr List.drop_left)
      · exact absurd List.prefix_rfl hpad
  intro ahead h hpad
  rcases hahead ahead h with rfl | rfl | rfl
  · exact absurd hpad (by decide +kernel)
  · exact absurd hpad (by decide +kernel)
  · exact ⟨by decide +kernel,by decide +kernel⟩

theorem plain_requests_read_alike : Unpadded asciiText requestPair ∧
    (readLoop asciiText 3 ⟨[],bytewise requestPair⟩).1 =
      (TcpFraming.readLoop asciiText 3 ⟨[],bytewise requestPair,[]⟩).1 := by
  have halike := (tls_reads_like_tcp_iff asciiText TcpFraming.asciiText_lowers requestPair).mpr
    requestPair_unpadded
  refine ⟨requestPair_unpadded,?_⟩
  exact (halike (bytewise requestPair) (arriving_bytewise requestPair) (by decide +kernel) 3).1

/-- A ping in front of the request is passed on as a message of its own, and a
pong in front of it becomes its first line. -/
theorem keepalive_returned_as_message :
    (readLoop asciiText 3 ⟨[],[.data (13::10::13::10::plainStream)]⟩).1 =
        [[13,10,13,10],plainStream] ∧
      (TcpFraming.readLoop asciiText 3 ⟨[],[.data (13::10::13::10::plainStream)],[]⟩).1 =
        [plainStream] ∧
      (readLoop asciiText 3 ⟨[],[.data (13::10::plainStream)]⟩).1 = [13::10::plainStream] ∧
      (TcpFraming.readLoop asciiText 3 ⟨[],[.data (13::10::plainStream)],[]⟩).1 =
        [plainStream] := by
  decide +kernel

/-- However a stream is cut into reads, a TCP and a TLS connection return the
first of the messages that they return when it comes byte by byte. -/
theorem chunks_irrelevant (std : StdText) (reads : List Read) (calls : ℕ) :
    (TcpFraming.readLoop std calls ⟨[],reads,[]⟩).1 <+:
        (TcpFraming.readLoop std calls ⟨[],bytewise (arriving reads),[]⟩).1 ∧
      (readLoop std calls ⟨[],reads⟩).1 <+:
        (readLoop std calls ⟨[],bytewise (arriving reads)⟩).1 := by
  simp only [tls_loop, tcp_loop]
  exact ⟨loop_front prepares_stripped calls (Nat.zero_le _) (Nat.zero_le _) rfl,
    loop_front prepares_id calls (Nat.zero_le _) (Nat.zero_le _) rfl⟩

end RsipRtp.KeepaliveFraming
