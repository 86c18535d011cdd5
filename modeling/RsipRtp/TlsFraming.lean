import RsipRtp.TcpFraming

/-!
# The TLS read loop, and what an extraction takes off the buffer

A TLS connection cuts messages off its buffer with copies of the functions
that the TCP read half uses. Its loop leaves keep-alives where they are.
-/

namespace RsipRtp.TlsFraming
open SipText LineFraming ChunkedFraming
open Sdp (StdText)
open SdpAgreement (asciiText)
open TcpFraming (Read Outcome ReadHalfState stripLeadingKeepalives maxTcpSize)

def maxTlsSize : ℕ := 65536

def findHeaderEnd (data : Bytes) : Option ℕ := TcpFraming.findHeaderEnd data

def parseContentLength (std : StdText) (headers : Bytes) : ℕ :=
  TcpFraming.parseContentLength std headers

def tryParseMessage (std : StdText) (readBuf : Bytes) : Option (Bytes × Bytes) :=
  TcpFraming.tryParseMessageFromBuf std readBuf

structure TlsConnectionState where
  readBuf : Bytes
  reads : List Read

def readMessage (std : StdText) (reads : List Read) (readBuf : Bytes) :
    Outcome × TlsConnectionState :=
  match tryParseMessage std readBuf with
  | some (msg,rest) => (.message msg,⟨rest,reads⟩)
  | none => match reads with
    | [] => (.waiting,⟨readBuf,[]⟩)
    | .failed::reads => (.failed,⟨readBuf,reads⟩)
    | .timedOut::reads => readMessage std reads readBuf
    | .data bytes::reads =>
      if bytes.isEmpty then (.closed,⟨readBuf,reads⟩)
      else if maxTlsSize < (readBuf++bytes).length then
        (.messageTooLarge (readBuf++bytes).length maxTlsSize,⟨readBuf++bytes,reads⟩)
      else readMessage std reads (readBuf++bytes)

def readLoop (std : StdText) : ℕ → TlsConnectionState → List Bytes × Option Outcome
  | 0, _ => ([],none)
  | calls+1, s => match readMessage std s.reads s.readBuf with
    | (.message data,s) => (data::(readLoop std calls s).1,(readLoop std calls s).2)
    | (outcome,_) => ([],some outcome)

section Cutting
variable {std : StdText}
variable {buf m rest : Bytes}

/-- Everything an extraction can do. -/
theorem cut_iff :
    tryParseMessage std buf = some (m,rest) ↔ ∃ headerEnd, findHeaderEnd buf = some headerEnd ∧
      ∃ total, total = (headerEnd+parseContentLength std (buf.take headerEnd)) % 2^64 ∧
        total ≤ buf.length ∧ m = buf.take total ∧ rest = buf.drop total := by
  rw [tryParseMessage, TcpFraming.tryParseMessageFromBuf, findHeaderEnd]
  cases TcpFraming.findHeaderEnd buf with
  | none => simp
  | some headerEnd =>
    simp only [Option.some.injEq, exists_eq_left']
    split_ifs with hshort
    · simp only [false_iff]
      rintro ⟨total,htotal,hle,-⟩
      rw [htotal, parseContentLength] at hle
      omega
    · simp only [Option.some.injEq, Prod.mk.injEq, exists_eq_left, parseContentLength]
      constructor
      · rintro ⟨rfl,rfl⟩
        exact ⟨Nat.not_lt.mp hshort,rfl,rfl⟩
      · rintro ⟨-,rfl,rfl⟩
        exact ⟨rfl,rfl⟩

theorem findHeaderEnd_eq {buf : Bytes} {headerEnd : ℕ} (h : findHeaderEnd buf = some headerEnd) :
    ∃ head after, buf = head++13::10::13::10::after ∧ headerEnd = head.length+4 := by
  obtain ⟨⟨head,after⟩,hsplit,rfl⟩ := Option.map_eq_some_iff.mp h
  refine ⟨head,after,?_,rfl⟩
  rw [splitAtFirst_eq hsplit]
  simp

theorem findHeaderEnd_le {buf : Bytes} {headerEnd : ℕ} (h : findHeaderEnd buf = some headerEnd) :
    4 ≤ headerEnd ∧ headerEnd ≤ buf.length := by
  obtain ⟨head,after,rfl,rfl⟩ := findHeaderEnd_eq h
  simp only [List.length_append, List.length_cons]
  omega

theorem findHeaderEnd_append {buf : Bytes} {headerEnd : ℕ} (later : Bytes)
    (h : findHeaderEnd buf = some headerEnd) : findHeaderEnd (buf++later) = some headerEnd := by
  obtain ⟨⟨head,after⟩,hsplit,rfl⟩ := Option.map_eq_some_iff.mp h
  rw [findHeaderEnd, TcpFraming.findHeaderEnd, splitAtFirst_append later hsplit]
  rfl

theorem cut_append (later : Bytes)
    (h : tryParseMessage std buf = some (m,rest)) :
    tryParseMessage std (buf++later) = some (m,rest++later) := by
  obtain ⟨headerEnd,hend,total,htotal,hle,rfl,rfl⟩ := cut_iff.mp h
  obtain ⟨-,hlen⟩ := findHeaderEnd_le hend
  refine cut_iff.mpr ⟨headerEnd,findHeaderEnd_append later hend,total,?_,?_,?_,?_⟩
  · rw [List.take_append_of_le_length hlen]
    exact htotal
  · rw [List.length_append]
    omega
  · rw [List.take_append_of_le_length hle]
  · rw [List.drop_append_of_le_length hle]

theorem cut_parts (h : tryParseMessage std buf = some (m,rest)) :
    m++rest = buf ∧ rest = buf.drop m.length ∧ 4 ≤ buf.length := by
  obtain ⟨headerEnd,hend,total,-,hle,rfl,rfl⟩ := cut_iff.mp h
  obtain ⟨hfour,hlen⟩ := findHeaderEnd_le hend
  exact ⟨List.take_append_drop _ _,by rw [List.length_take_of_le hle],by omega⟩

end Cutting

section Bounds
variable (std : StdText)
variable {buf : Bytes}

def NoOverflow (buf : Bytes) : Prop :=
  ∀ headerEnd, findHeaderEnd buf = some headerEnd →
    headerEnd+parseContentLength std (buf.take headerEnd) < 2^64

/-- An extraction takes the head off with its blank line, and what is left is
shorter. -/
def TakesHead (cut : Bytes → Option (Bytes × Bytes)) (buf : Bytes) : Prop :=
  ∀ headerEnd m rest, findHeaderEnd buf = some headerEnd → cut buf = some (m,rest) →
    m++rest = buf ∧ headerEnd ≤ m.length ∧ rest.length < buf.length

/-- The number in the first Content-Length line of the head, 0 where there is
none, leaves room for the head below the limit of a `usize`. -/
def Announced (buf : Bytes) : Prop :=
  ∀ headerEnd, findHeaderEnd buf = some headerEnd →
    parseContentLength std (buf.take headerEnd) < 2^64 - headerEnd

theorem parseContentLength_lt (headers : Bytes) : parseContentLength std headers < 2^64 := by
  rw [parseContentLength, TcpFraming.parseContentLength]
  split
  · rename_i s _
    cases hfind : (lines s).findSome? (TcpFraming.lineLength std) with
    | none => exact Nat.two_pow_pos 64
    | some n =>
      obtain ⟨line,-,hline⟩ := List.exists_of_findSome?_eq_some hfind
      rw [TcpFraming.lineLength] at hline
      split_ifs at hline
      exact TextShape.parseUnsigned_lt hline
  · exact Nat.two_pow_pos 64

variable {std}

theorem takesHead_of_announced (h : Announced std buf) :
    TakesHead (tryParseMessage std) buf := by
  intro headerEnd m rest hend hcut
  have hlen := h headerEnd hend
  obtain ⟨hfour,hle⟩ := findHeaderEnd_le hend
  obtain ⟨headerEnd',hend',total,htotal,hfits,rfl,rfl⟩ := cut_iff.mp hcut
  cases hend.symm.trans hend'
  rw [Nat.mod_eq_of_lt (by omega)] at htotal
  refine ⟨List.take_append_drop _ _,?_,?_⟩
  · rw [List.length_take_of_le hfits]
    omega
  · rw [List.length_drop]
    omega

theorem wrapped_lt {headerEnd : ℕ} (hend : findHeaderEnd buf = some headerEnd)
    (hlarge : ¬parseContentLength std (buf.take headerEnd) < 2^64 - headerEnd) :
    (headerEnd+parseContentLength std (buf.take headerEnd)) % 2^64 < headerEnd := by
  obtain ⟨hfour,-⟩ := findHeaderEnd_le hend
  have hlt := parseContentLength_lt std (buf.take headerEnd)
  by_cases hhead : headerEnd < 2^64
  · omega
  · exact (Nat.mod_lt _ (Nat.two_pow_pos 64)).trans_le (Nat.not_lt.mp hhead)

theorem announced_of_takesHead (h : TakesHead (tryParseMessage std) buf) :
    Announced std buf := by
  intro headerEnd hend
  by_contra hlarge
  obtain ⟨-,hle⟩ := findHeaderEnd_le hend
  have hshort := wrapped_lt hend hlarge
  have hfits := (hshort.trans_le hle).le
  obtain ⟨-,hwhole,-⟩ := h headerEnd _ _ hend (cut_iff.mpr ⟨headerEnd,hend,_,rfl,hfits,rfl,rfl⟩)
  rw [List.length_take_of_le hfits] at hwhole
  omega

theorem noOverflow_of_announced (h : Announced std buf) : NoOverflow std buf := by
  intro headerEnd hend
  have := h headerEnd hend
  omega

end Bounds

section Loops
variable {std : StdText}

def readWith (std : StdText) (prepare : Bytes → Bytes) (reads : List Read) (buf : Bytes) :
    Outcome × Bytes × List Read :=
  match tryParseMessage std (prepare buf) with
  | some (msg,rest) => (.message msg,rest,reads)
  | none => match reads with
    | [] => (.waiting,prepare buf,[])
    | .failed::reads => (.failed,prepare buf,reads)
    | .timedOut::reads => readWith std prepare reads (prepare buf)
    | .data bytes::reads =>
      if bytes.isEmpty then (.closed,prepare buf,reads)
      else if maxTlsSize < (prepare buf++bytes).length then
        (.messageTooLarge (prepare buf++bytes).length maxTlsSize,prepare buf++bytes,reads)
      else readWith std prepare reads (prepare buf++bytes)

def loopWith (std : StdText) (prepare : Bytes → Bytes) :
    ℕ → List Read → Bytes → List Bytes × Option Outcome
  | 0, _, _ => ([],none)
  | calls+1, reads, buf => match readWith std prepare reads buf with
    | (.message data,buf,reads) =>
      (data::(loopWith std prepare calls reads buf).1,(loopWith std prepare calls reads buf).2)
    | (outcome,_,_) => ([],some outcome)

/-- The buffers that the loop cuts its messages from. -/
def cutBuffers (std : StdText) (prepare : Bytes → Bytes) : ℕ → List Read → Bytes → List Bytes
  | 0, _, _ => []
  | calls+1, reads, buf => match readWith std prepare reads buf with
    | (.message data,buf,reads) => (data++buf)::cutBuffers std prepare calls reads buf
    | _ => []

def stripped (buf : Bytes) : Bytes := (stripLeadingKeepalives buf).1

theorem tls_call (reads : List Read) (buf : Bytes) : readMessage std reads buf =
    ((readWith std id reads buf).1,⟨(readWith std id reads buf).2.1,
      (readWith std id reads buf).2.2⟩) := by
  induction reads generalizing buf with
  | nil =>
    rw [readMessage.eq_def, readWith.eq_def, id]
    cases tryParseMessage std buf <;> rfl
  | cons r reads ih =>
    rw [readMessage.eq_def, readWith.eq_def, id]
    cases tryParseMessage std buf with
    | some cut => rfl
    | none => cases r with
      | failed => rfl
      | timedOut => exact ih buf
      | data bytes =>
        dsimp only
        split_ifs
        · rfl
        · rfl
        · exact ih (buf++bytes)

theorem tcp_call (reads : List Read) (buf : Bytes) (written : List Bytes) :
    ∃ written', TcpFraming.readMessage std reads buf written =
      ((readWith std stripped reads buf).1,⟨(readWith std stripped reads buf).2.1,
        (readWith std stripped reads buf).2.2,written'⟩) := by
  have hcopy (buf : Bytes) : TcpFraming.tryParseMessageFromBuf std (stripLeadingKeepalives buf).1 =
      tryParseMessage std (stripped buf) := rfl
  induction reads generalizing buf written with
  | nil =>
    rw [TcpFraming.readMessage.eq_def, readWith.eq_def]
    cases hcut : tryParseMessage std (stripped buf) with
    | some cut | none =>
      simp only [hcopy, hcut]
      exact ⟨_,rfl⟩
  | cons r reads ih =>
    rw [TcpFraming.readMessage.eq_def, readWith.eq_def]
    cases hcut : tryParseMessage std (stripped buf) with
    | some cut =>
      simp only [hcopy, hcut]
      exact ⟨_,rfl⟩
    | none =>
      simp only [hcopy, hcut]
      cases r with
      | failed => exact ⟨_,rfl⟩
      | timedOut => exact ih _ _
      | data bytes =>
        dsimp only
        rw [show maxTcpSize = maxTlsSize from rfl, show (stripLeadingKeepalives buf).1 =
          stripped buf from rfl]
        split_ifs
        · exact ⟨_,rfl⟩
        · exact ⟨_,rfl⟩
        · exact ih _ _

theorem tls_loop (calls : ℕ) (s : TlsConnectionState) :
    readLoop std calls s = loopWith std id calls s.reads s.readBuf := by
  induction calls generalizing s with
  | zero => rfl
  | succ calls ih =>
    rw [readLoop, loopWith, tls_call]
    rcases readWith std id s.reads s.readBuf with ⟨outcome,buf,reads⟩
    cases outcome with
    | message data => simp only [ih]
    | _ => rfl

theorem tcp_loop (calls : ℕ) (s : ReadHalfState) :
    TcpFraming.readLoop std calls s = loopWith std stripped calls s.reads s.readBuf := by
  induction calls generalizing s with
  | zero => rfl
  | succ calls ih =>
    obtain ⟨written,hcall⟩ := @tcp_call std s.reads s.readBuf s.written
    rw [TcpFraming.readLoop, loopWith, hcall]
    rcases readWith std stripped s.reads s.readBuf with ⟨outcome,buf,reads⟩
    cases outcome with
    | message data => simp only [ih]
    | _ => rfl

def waiting (reads : List Read) (buf : Bytes) : Bytes := buf++reads.flatMap Read.bytes

theorem stripped_suffix (buf : Bytes) : stripped buf <:+ buf := by
  rw [stripped, stripLeadingKeepalives]
  induction buf using stripPairs.induct (13 : UInt8) 10 with
  | case1 a b rest hpair ih =>
    rw [stripPairs, if_pos hpair]
    exact ih.trans (List.suffix_append [a,b] rest)
  | case2 a b rest hpair =>
    have hsame : stripPairs (13 : UInt8) 10 (a::b::rest) = (a::b::rest,0) := if_neg hpair
    exact hsame ▸ List.suffix_rfl
  | case3 buf hshort =>
    cases buf with
    | nil => exact List.suffix_rfl
    | cons a rest =>
      cases rest with
      | nil => exact List.suffix_rfl
      | cons b rest => exact absurd rfl (hshort a b rest)

theorem returned {prepare : Bytes → Bytes} (hprepare : ∀ buf, prepare buf <:+ buf)
    {reads reads' : List Read} {buf m rest : Bytes}
    (h : readWith std prepare reads buf = (.message m,rest,reads')) :
    ∃ cut, tryParseMessage std cut = some (m,rest) ∧ waiting reads' cut <:+ waiting reads buf := by
  have hfront (reads : List Read) (buf : Bytes) :
      waiting reads (prepare buf) <:+ waiting reads buf := by
    obtain ⟨front,hbuf⟩ := hprepare buf
    refine ⟨front,?_⟩
    rw [waiting, ← List.append_assoc, hbuf, waiting]
  fun_induction readWith std prepare reads buf with
  | case1 reads buf msg rest' hcut =>
    cases h
    exact ⟨prepare buf,hcut,hfront reads' buf⟩
  | case4 buf hnone reads ih =>
    obtain ⟨cut,hcut,hrest⟩ := ih h
    exact ⟨cut,hcut,hrest.trans (hfront (.timedOut::reads) buf)⟩
  | case7 buf hnone bytes reads hempty hlarge ih =>
    obtain ⟨cut,hcut,hrest⟩ := ih h
    refine ⟨cut,hcut,hrest.trans ?_⟩
    rw [waiting, List.append_assoc]
    exact hfront (.data bytes::reads) buf
  | _ => cases h

/-- Where every buffer that a message is cut from announces a length that fits,
the loop comes to an end before it has returned as many messages as bytes wait. -/
theorem loop_ends {prepare : Bytes → Bytes} (hprepare : ∀ buf, prepare buf <:+ buf)
    (reads : List Read) (buf : Bytes) (calls : ℕ)
    (hall : ∀ cut ∈ cutBuffers std prepare calls reads buf, Announced std cut)
    (hcalls : (waiting reads buf).length < calls) :
    (loopWith std prepare calls reads buf).2 ≠ none := by
  induction calls generalizing reads buf with
  | zero => exact absurd hcalls (Nat.not_lt_zero _)
  | succ calls ih =>
    rw [loopWith]
    split
    · rename_i data rest reads' hcall
      rw [cutBuffers, hcall, List.forall_mem_cons] at hall
      obtain ⟨cut,hcut,hsuffix⟩ := returned hprepare hcall
      obtain ⟨headerEnd,hend,total,-,-,hm,hrest⟩ := cut_iff.mp hcut
      have hparts : data++rest = cut := by rw [hm, hrest, List.take_append_drop]
      rw [hparts] at hall
      obtain ⟨-,-,hshort⟩ := takesHead_of_announced hall.1 headerEnd data rest hend hcut
      have hlen := hsuffix.length_le
      refine ih reads' rest hall.2 ?_
      simp only [waiting, List.length_append] at hlen hcalls ⊢
      omega
    · exact Option.some_ne_none _

end Loops

/-- The sum of head and body is counted without a wrap, and an extraction
takes the whole head and leaves less, exactly if the announced length fits
behind the head below 2^64. Where that is so of every buffer that a loop cuts
from, it comes to an end. -/
theorem extraction_takes_head_iff (std : StdText) :
    (∀ buf, NoOverflow std buf ∧ TakesHead (TcpFraming.tryParseMessageFromBuf std) buf ∧
        TakesHead (tryParseMessage std) buf ↔ Announced std buf) ∧
      (∀ (s : ReadHalfState) (calls : ℕ),
        (∀ buf ∈ cutBuffers std stripped calls s.reads s.readBuf, Announced std buf) →
        (waiting s.reads s.readBuf).length < calls →
        (TcpFraming.readLoop std calls s).2 ≠ none) ∧
      ∀ (s : TlsConnectionState) (calls : ℕ),
        (∀ buf ∈ cutBuffers std id calls s.reads s.readBuf, Announced std buf) →
        (waiting s.reads s.readBuf).length < calls → (readLoop std calls s).2 ≠ none := by
  refine ⟨fun buf => ?_,fun s calls hall hcalls => ?_,fun s calls hall hcalls => ?_⟩
  · constructor
    · rintro ⟨-,-,htakes⟩
      exact announced_of_takesHead htakes
    · intro h
      have htakes := takesHead_of_announced h
      exact ⟨noOverflow_of_announced h,htakes,htakes⟩
  · rw [tcp_loop]
    exact loop_ends stripped_suffix s.reads s.readBuf calls hall hcalls
  · rw [tls_loop]
    exact loop_ends (fun buf => List.suffix_rfl) s.reads s.readBuf calls hall hcalls

def wrappingHead : Bytes :=
  utf8 "OPTIONS sip:a@example SIP/2.0\r\nContent-Length: 18446744073709551545\r\n\r\n"

/-- The sum is 0: nothing is taken off, and the same buffer is left. -/
theorem wrapped_length_returns_nothing :
    tryParseMessage asciiText wrappingHead = some ([],wrappingHead) ∧
      TcpFraming.tryParseMessageFromBuf asciiText wrappingHead = some ([],wrappingHead) := by
  decide +kernel

end RsipRtp.TlsFraming
