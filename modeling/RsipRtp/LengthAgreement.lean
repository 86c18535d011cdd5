import RsipRtp.SipWire
import RsipRtp.TlsFraming

/-!
# Where a message ends, for the framer and for the parser

The framer takes the length of the body from the first line of the head that
looks like a Content-Length and has a number.
-/

namespace RsipRtp.LengthAgreement
open SipText Utf8 TextShape LineFraming SipHeader SipFraming SipHeaderBlock SipRoundTrip SipHeading
open SipWire TlsFraming
open Sdp (StdText LowersByChar)
open SdpAgreement (asciiText)
open TcpFraming (lineLength cut_at_colon colon_lower recognise_length)

section Folding
variable {b c : Block} {hs : Headers}

def continuation (rawLine : Text) : Text := if rawLine = [] then [] else ' '::trim rawLine

/-- The lines of a block that open a header, each with the lines up to the next. -/
def groups : List Text → List (Text × List Text)
  | [] => []
  | l::ls => if opens l then (l,ls.takeWhile (fun x => !opens x))::groups ls else groups ls

def unfolded (g : Text × List Text) : Text := g.1++g.2.flatMap continuation

def Reads (t : Text) (h : Header) : Prop := parseLine t = .ok h

theorem flush_reads (h : flush b = .ok hs) :
    ∃ more, hs.inner = b.headers.inner++more ∧ List.Forall₂ Reads b.current.toList more := by
  rw [flush] at h
  cases hcurrent : b.current with
  | none =>
    rw [hcurrent] at h
    cases h
    exact ⟨[],(List.append_nil _).symm,.nil⟩
  | some line =>
    rw [hcurrent] at h
    obtain ⟨header,hread,hpush⟩ := bind_ok h
    exact ⟨[header],push_inner hpush,.cons hread .nil⟩

theorem foldlM_reads {ls : List Text} (hrun : ls.foldlM headerLine b = .ok c)
    (hflush : flush c = .ok hs) :
    ∃ more, hs.inner = b.headers.inner++more ∧ List.Forall₂ Reads
      ((b.current.map fun l => unfolded (l,ls.takeWhile fun x => !opens x)).toList ++
        (groups ls).map unfolded) more := by
  induction ls generalizing b with
  | nil =>
    cases hrun
    obtain ⟨more,hinner,hreads⟩ := flush_reads hflush
    refine ⟨more,hinner,?_⟩
    cases hcurrent : c.current with
    | none => simpa [hcurrent, groups] using hreads
    | some line => simpa [hcurrent, groups, unfolded] using hreads
  | cons l ls ih =>
    obtain ⟨b',hline,hrun⟩ := bind_ok hrun
    obtain ⟨more,hinner,hreads⟩ := ih hrun
    cases l with
    | nil =>
      cases hline
      refine ⟨more,hinner,?_⟩
      simpa [groups, opens, unfolded, continuation] using hreads
    | cons x xs =>
      rw [headerLine] at hline
      split_ifs at hline with hfold
      · have hopens : opens (x::xs) = false := by rw [opens, decide_eq_true hfold]; rfl
        obtain ⟨line,hcurrent,rfl⟩ := foldLine_ok hline
        refine ⟨more,hinner,?_⟩
        simpa [hcurrent, groups, hopens, unfolded, continuation] using hreads
      · have hopens : opens (x::xs) = true := by rw [opens, decide_eq_false hfold]; rfl
        obtain ⟨headers,hflushed,hline⟩ := bind_ok hline
        cases hline
        obtain ⟨before,hbefore,hread⟩ := flush_reads hflushed
        refine ⟨before++more,?_,?_⟩
        · rw [hinner, hbefore, List.append_assoc]
        · have hfirst : ((b.current.map fun l => unfolded (l,((x::xs)::ls).takeWhile
              fun x => !opens x)).toList) = b.current.toList := by
            cases b.current <;> simp [hopens, unfolded]
          rw [hfirst, groups, if_pos hopens, List.map_cons]
          exact List.rel_append hread (by simpa using hreads)

theorem parseHeaderBlock_reads {block : Text} (h : parseHeaderBlock block = .ok hs) :
    List.Forall₂ Reads ((groups (lines block)).map unfolded) hs.inner := by
  obtain ⟨c,hrun,hflush⟩ := bind_ok h
  obtain ⟨more,hinner,hreads⟩ := foldlM_reads hrun hflush
  rw [hinner]
  simpa [Headers.empty] using hreads

end Folding

theorem linesFrom_piece {revLine s l : Text} (h : l ∈ linesFrom revLine s) :
    ∃ a b, revLine.reverse++s = a++(l++b) ∧ (a = [] ∨ ∃ a', a = a'++['\n']) ∧
      (b = [] ∨ ∃ c b', b = c::b' ∧ isWhitespace c = true) := by
  induction s generalizing revLine with
  | nil =>
    rw [linesFrom] at h
    split_ifs at h
    · cases h
    · rw [List.mem_singleton.mp h]
      exact ⟨[],[],by simp,.inl rfl,.inl rfl⟩
  | cons c cs ih =>
    rw [linesFrom] at h
    split_ifs at h with hc
    · subst hc
      rcases List.mem_cons.mp h with rfl | h
      · unfold stripCr
        split
        · next line => exact ⟨[],'\r':: '\n'::cs,by simp,.inl rfl,.inr ⟨'\r',_,rfl,rfl⟩⟩
        · next line _ => exact ⟨[],'\n'::cs,rfl,.inl rfl,.inr ⟨'\n',_,rfl,rfl⟩⟩
      · obtain ⟨a,b,hcs,ha,hb⟩ := ih h
        refine ⟨revLine.reverse++ '\n'::a,b,?_,.inr ?_,hb⟩
        · rw [List.reverse_nil, List.nil_append] at hcs
          rw [hcs, List.append_assoc, List.cons_append]
        · rcases ha with rfl | ⟨a',rfl⟩
          · exact ⟨_,rfl⟩
          · exact ⟨revLine.reverse++ '\n'::a',by simp⟩
    · obtain ⟨a,b,hcs,ha,hb⟩ := ih h
      exact ⟨a,b,by rw [← hcs]; simp,ha,hb⟩

theorem lines_piece {s l : Text} (h : l ∈ lines s) :
    ∃ a b, s = a++(l++b) ∧ (a = [] ∨ ∃ a', a = a'++['\n']) ∧
      (b = [] ∨ ∃ c b', b = c::b' ∧ isWhitespace c = true) := linesFrom_piece h

def firstWord (l : Text) : Text := l.takeWhile (fun c => !isWhitespace c)

theorem firstWord_mem (l : Text) : firstWord l ∈ l.splitOnP isWhitespace := by
  have hsolid : ∀ c ∈ firstWord l, isWhitespace c = false := by
    intro c hc
    simpa using List.mem_takeWhile_imp hc
  have hsingle : (firstWord l).splitOnP isWhitespace = [firstWord l] :=
    List.splitOnP_eq_singleton hsolid
  have hparts : firstWord l++l.dropWhile (fun c => !isWhitespace c) = l :=
    List.takeWhile_append_dropWhile
  cases hrest : l.dropWhile (fun c => !isWhitespace c) with
  | nil =>
    rw [hrest, List.append_nil] at hparts
    rw [hparts] at hsingle ⊢
    rw [hsingle]
    exact List.mem_singleton_self _
  | cons c rest =>
    have hc : isWhitespace c = true := by
      have hhead := List.head_dropWhile_not (fun c => !isWhitespace c)
        (List.ne_nil_of_mem (by rw [hrest]; exact List.mem_cons_self))
      simpa [hrest] using hhead
    rw [hrest] at hparts
    have hsplit := List.splitOnP_append_cons (firstWord l) rest hc
    rw [hparts, hsingle] at hsplit
    rw [hsplit]
    exact List.mem_append_left _ (List.mem_singleton_self _)

theorem word_of_line {s l : Text} (h : l ∈ lines s) (hne : firstWord l ≠ []) :
    firstWord l ∈ splitWhitespace s := by
  refine List.mem_filter.mpr ⟨?_,by simpa using hne⟩
  obtain ⟨a,b,rfl,ha,hb⟩ := lines_piece h
  have hbehind : firstWord l ∈ (l++b).splitOnP isWhitespace := by
    rcases hb with rfl | ⟨c,b',rfl,hc⟩
    · rw [List.append_nil]
      exact firstWord_mem l
    · rw [List.splitOnP_append_cons l b' hc]
      exact List.mem_append_left _ (firstWord_mem l)
  rcases ha with rfl | ⟨a',rfl⟩
  · exact hbehind
  · rw [List.append_assoc, List.singleton_append, List.splitOnP_append_cons a' _ rfl]
    exact List.mem_append_right _ hbehind

theorem splitWhitespace_gap (s : Text) {gap : Text} (h : ∀ c ∈ gap, isWhitespace c = true) :
    splitWhitespace (s++gap) = splitWhitespace s := by
  induction gap generalizing s with
  | nil => rw [List.append_nil]
  | cons c gap ih =>
    have hc := h c List.mem_cons_self
    have hstep : splitWhitespace (s++c::gap) = splitWhitespace s++splitWhitespace gap := by
      rw [splitWhitespace, List.splitOnP_append_cons s gap hc, List.filter_append]
      rfl
    have hgap := ih [] (fun d hd => h d (List.mem_cons_of_mem c hd))
    rw [hstep, ← List.nil_append gap, hgap]
    exact List.append_nil _

theorem firstWord_starts {p l : Text} (hp : ∀ c ∈ p, isWhitespace c = false)
    (h : p <+: toAsciiLowercase l) : p <+: toAsciiLowercase (firstWord l) := by
  have hword : toAsciiLowercase (firstWord l) =
      (toAsciiLowercase l).takeWhile (fun c => !isWhitespace c) := by
    rw [toAsciiLowercase, toAsciiLowercase, List.takeWhile_map, firstWord]
    congr 2
    funext c
    exact congrArg not (isWhitespace_toLower c).symm
  obtain ⟨tail,htail⟩ := h
  rw [hword, ← htail, List.takeWhile_append_of_pos (fun c hc => by rw [hp c hc]; rfl)]
  exact List.prefix_append _ _

section StartLine
variable {std : StdText}

def LengthLine (l : Text) : Prop :=
  "content-length:" <+: toAsciiLowercase l ∨ "l:" <+: toAsciiLowercase l

theorem LengthLine.starts {l : Text} (h : LengthLine l) :
    ∃ name, (name = "content-length".toList ∨ name = "l".toList) ∧ ':' ∉ name ∧
      (∀ c ∈ name++[':'], isWhitespace c = false) ∧ name++[':'] <+: toAsciiLowercase l := by
  rcases h with h | h
  · exact ⟨_,.inl rfl,by decide,forall_of_all (by decide),h⟩
  · exact ⟨_,.inr rfl,by decide,forall_of_all (by decide),h⟩

theorem LengthLine.head {l : Text} (h : LengthLine l) :
    ∃ c rest, l = c::rest ∧ (c.toLower = 'c' ∨ c.toLower = 'l') := by
  cases l with
  | nil =>
    rcases h with h | h
    · exact absurd h (by decide)
    · exact absurd h (by decide)
  | cons c rest =>
    refine ⟨c,rest,rfl,?_⟩
    rcases h with h | h
    · exact .inl (List.cons_prefix_cons.mp h).1.symm
    · exact .inr (List.cons_prefix_cons.mp h).1.symm

theorem methodFromStr_colon {s : Text} {m : Method} (h : methodFromStr s = .ok m) :
    ':' ∉ toAsciiLowercase s := by
  rw [methodFromStr_lower h]
  cases m <;> decide

theorem scheme_of_starts {uri name : Text} {parsed : Uri.SipUri} (h : Uri.parse uri = .ok parsed)
    (htrim : trim uri = uri) (hcolon : ':' ∉ name) (hname : name++[':'] <+: toAsciiLowercase uri) :
    name = "sip" ∨ name = "sips" ∨ name = "tel" := by
  obtain ⟨⟨scheme,rest⟩,hscheme,-⟩ := bind_ok h
  rw [Uri.parseScheme, htrim] at hscheme
  cases hsplit : splitFirst ':' uri with
  | none =>
    rw [hsplit] at hscheme
    cases hscheme
  | some cut =>
    obtain ⟨before,after⟩ := cut
    obtain ⟨rfl,hbefore⟩ := splitFirst_eq hsplit
    rw [toAsciiLowercase, List.map_append, List.map_cons] at hname
    have hsame : name = toAsciiLowercase before :=
      cut_at_colon hcolon (colon_lower hbefore) hname
    rw [hsplit] at hscheme
    dsimp only at hscheme
    rw [← hsame] at hscheme
    split_ifs at hscheme with hsip hsips htel
    · exact .inl hsip
    · exact .inr (.inl hsips)
    · exact .inr (.inr htel)

theorem requestLine_silent {line gap : Text} {r : Method × Text × Text}
    (h : parseRequestLine line = .ok r) (hgap : ∀ c ∈ gap, isWhitespace c = true) {l : Text}
    (hl : l ∈ lines (line++gap)) : ¬LengthLine l := by
  intro hlength
  obtain ⟨name,hname,hcolon,hsolid,hstarts⟩ := hlength.starts
  have hword := firstWord_starts hsolid hstarts
  have hne : firstWord l ≠ [] := by
    intro hnil
    rw [hnil] at hword
    simp [toAsciiLowercase] at hword
  have hmem := word_of_line hl hne
  obtain ⟨-,hversion,⟨parsed,huri⟩,huriWord,-,methodStr,hwords,hmethod⟩ := parseRequestLine_words h
  have hcolon' : ':' ∈ toAsciiLowercase (firstWord l) :=
    hword.subset (List.mem_append_right _ (List.mem_singleton_self _))
  rw [splitWhitespace_gap line hgap, hwords] at hmem
  simp only [List.mem_cons, List.not_mem_nil, or_false] at hmem
  rcases hmem with heq | heq | heq
  · exact methodFromStr_colon hmethod (heq ▸ hcolon')
  · rw [heq] at hword
    have hscheme := scheme_of_starts huri (trim_of_forall huriWord.solid) hcolon hword
    rcases hname with rfl | rfl
    · exact absurd hscheme (by decide)
    · exact absurd hscheme (by decide)
  · rw [heq, hversion] at hcolon'
    exact absurd hcolon' (by decide)

theorem statusLine_silent {line gap : Text} {r : Text × ℕ × Text}
    (h : parseStatusLine line = .ok r) (hgap : ∀ c ∈ gap, isWhitespace c = true) {l : Text}
    (hl : l ∈ lines (line++gap)) : ¬LengthLine l := by
  intro hlength
  obtain ⟨a,b,hline,ha,-⟩ := lines_piece hl
  obtain ⟨version,code,reason⟩ := r
  obtain ⟨-,rfl,-,-,hreason,codeStr,hparts,-,hcode⟩ := parseStatusLine_parts h
  have hlf : '\n' ∉ line := by
    rw [hparts]
    simp only [List.mem_append, List.mem_cons, not_or]
    exact ⟨by decide,by decide,(parseUnsigned_word hcode).lf_not_mem,by decide,
      lf_not_mem_reason hreason⟩
  obtain ⟨c,rest,rfl,hc⟩ := hlength.head
  rcases ha with rfl | ⟨a',rfl⟩
  · -- the line starts as the status line does
    rw [hparts] at hline
    have hhead : 'S' = c := (List.cons.inj hline).1
    rw [← hhead] at hc
    exact absurd hc (by decide)
  · -- or in the blanks behind it
    rcases List.append_eq_append_iff.mp hline with ⟨t,-,hrest⟩ | ⟨t,hrest,-⟩
    · have hmem : c ∈ gap := by
        rw [hrest]
        exact List.mem_append_right _ List.mem_cons_self
      have hblank := hgap c hmem
      rw [← isWhitespace_toLower] at hblank
      rcases hc with hc | hc
      · rw [hc] at hblank
        cases hblank
      · rw [hc] at hblank
        cases hblank
    · refine hlf ?_
      rw [hrest]
      simp

end StartLine

section Framer
variable {std : StdText}

theorem lines_break_end (s : Text) :
    lines (s++['\r','\n']) = lines s ∨ lines (s++['\r','\n']) = lines s++[[]] := by
  have hfrom : ∀ revLine, linesFrom revLine (s++['\r','\n']) = linesFrom revLine s ∨
      linesFrom revLine (s++['\r','\n']) = linesFrom revLine s++[[]] := by
    induction s with
    | nil =>
      intro revLine
      cases revLine with
      | nil => exact .inr rfl
      | cons c revLine => exact .inl rfl
    | cons c s ih =>
      intro revLine
      rw [List.cons_append, linesFrom, linesFrom]
      split_ifs
      · rcases ih [] with h | h
        · exact .inl (by rw [h])
        · exact .inr (by rw [h, List.cons_append])
      · exact ih _
  exact hfrom []

variable {f : Text → Option ℕ}

theorem findSome?_break_end (hf : f [] = none) (s : Text) :
    (lines (s++['\r','\n'])).findSome? f = (lines s).findSome? f := by
  rcases lines_break_end s with h | h
  · rw [h]
  · rw [h, List.findSome?_append, List.findSome?_cons, hf]
    exact Option.or_none

theorem findSome?_head (hf : f [] = none) {s start block : Text}
    (hcut : splitFirstLine s = (start,block))
    (hstart : ∀ gap, (∀ c ∈ gap, isWhitespace c = true) → ∀ l ∈ lines (start++gap), f l = none) :
    (lines (s++['\r','\n']++['\r','\n'])).findSome? f = (lines block).findSome? f := by
  have hbehind (gap : Text) {rest : Text} (hgap : ∀ c ∈ gap, isWhitespace c = true)
      (hlines : lines s = lines (start++gap)++lines rest) :
      (lines s).findSome? f = (lines rest).findSome? f := by
    rw [hlines, List.findSome?_append, List.findSome?_eq_none_iff.mpr (hstart gap hgap)]
    exact Option.none_or
  rw [findSome?_break_end hf, findSome?_break_end hf]
  rw [splitFirstLine] at hcut
  cases hbreak : splitAtFirst ['\r','\n'] s with
  | some cut =>
    rw [hbreak] at hcut
    cases hcut
    refine hbehind ['\r','\n'] (forall_of_all (by decide)) ?_
    have hlines := lines_append (cut.1++['\r']) cut.2
    rw [List.append_assoc, List.append_assoc] at hlines
    rw [splitAtFirst_eq hbreak, List.append_assoc]
    exact hlines
  | none =>
    rw [hbreak] at hcut
    cases hfeed : splitFirst '\n' s with
    | some cut =>
      rw [hfeed] at hcut
      cases hcut
      refine hbehind ['\n'] (forall_of_all (by decide)) ?_
      rw [(splitFirst_eq hfeed).1]
      exact lines_append _ _
    | none =>
      rw [hfeed] at hcut
      cases hcut
      exact hbehind [] (fun c hc => absurd hc List.not_mem_nil) (by simp [lines, linesFrom])

theorem findSome?_groups (hstd : LowersByChar std) (ls : List Text) :
    ls.findSome? (lineLength std) = ((groups ls).map (·.1)).findSome? (lineLength std) := by
  induction ls with
  | nil => rfl
  | cons l ls ih =>
    rw [List.findSome?_cons, groups]
    split_ifs with hopens
    · rw [List.map_cons, List.findSome?_cons, ih]
    · have hsilent : lineLength std l = none := by
        refine TcpFraming.lineLength_other hstd fun hlength => hopens ?_
        obtain ⟨c,rest,rfl,hc⟩ := LengthLine.head hlength
        have hblank : ¬(c = ' ' ∨ c = '\t') := by
          rintro (rfl | rfl)
          · exact absurd hc (by decide)
          · exact absurd hc (by decide)
        rw [opens, decide_eq_false hblank]
        rfl
      rw [hsilent, ih]

theorem lineLength_parts (hstd : LowersByChar std) {l : Text} {n : ℕ}
    (h : lineLength std l = some n) :
    ∃ name value, l = name++ ':'::value ∧ ':' ∉ name ∧
      (toAsciiLowercase name = "content-length" ∨ toAsciiLowercase name = "l") ∧
      parseUsize (trim value) = some n := by
  have hline : LengthLine l := by
    by_contra hother
    rw [TcpFraming.lineLength_other hstd hother] at h
    cases h
  rw [lineLength] at h
  split_ifs at h
  obtain ⟨name,hname,hcolon,-,hstarts⟩ := hline.starts
  cases hsplit : splitFirst ':' l with
  | none =>
    have hlower := colon_lower (splitFirst_not_mem hsplit)
    exact absurd (hstarts.subset (List.mem_append_right _ (List.mem_singleton_self _))) hlower
  | some cut =>
    rw [hsplit] at h
    obtain ⟨rfl,hbefore⟩ := splitFirst_eq hsplit
    rw [toAsciiLowercase, List.map_append, List.map_cons] at hstarts
    have hsame : name = toAsciiLowercase cut.1 :=
      cut_at_colon hcolon (colon_lower hbefore) hstarts
    exact ⟨cut.1,cut.2,rfl,hbefore,hsame ▸ hname,h⟩

end Framer

section Agreement
variable (std : StdText)

def lengthText (t : Text) : Option Text :=
  match parseLine t with
  | .ok h => if h.nameMatches "Content-Length" then some h.value else none
  | .error _ => none

def statedLength (p : Message) : Option ℕ :=
  match (headersOf p).getFirst "Content-Length" with
  | none => some 0
  | some h => parseUsize (trim h.value)

def bodyExtent (m : Bytes) : Option ℕ := (splitAtFirst crlfBlank m).map (·.2.length)

/-- The first Content-Length is one line with a number that the framer reads,
all continued with blanks only; or a line that the framer passes over, and
the first number it reads further on, 0 if there is none, is the same. -/
def Agreed : List (Text × List Text) → Prop
  | [] => True
  | g::post => match lengthText (unfolded g) with
    | none => Agreed post
    | some v => ((lineLength std g.1).isSome ∧ ∀ f ∈ g.2, trim f = []) ∨
        (lineLength std g.1 = none ∧
          parseUsize (trim v) = some (((post.map (·.1)).findSome? (lineLength std)).getD 0))

variable {std}

theorem lengthText_of_reads {t : Text} {h : Header} (hread : Reads t h) :
    lengthText t = if h.nameMatches "Content-Length" then some h.value else none := by
  rw [lengthText, show parseLine t = .ok h from hread]

theorem statedLength_eq {p : Message} {ts : List Text}
    (h : List.Forall₂ Reads ts (headersOf p).inner) : statedLength p =
      match ts.findSome? lengthText with | none => some 0 | some v => parseUsize (trim v) := by
  have hfirst : ((headersOf p).inner.find? (·.nameMatches "Content-Length")).map
      Header.value = ts.findSome? lengthText := by
    generalize (headersOf p).inner = hs at h
    induction h with
    | nil => rfl
    | @cons t h ts hs hread _ ih =>
      rw [List.findSome?_cons, lengthText_of_reads hread, List.find?_cons]
      cases hmatch : h.nameMatches "Content-Length" with
      | true => rfl
      | false => exact ih
  rw [statedLength, Headers.getFirst, ← hfirst]
  cases (headersOf p).inner.find? (·.nameMatches "Content-Length") <;> rfl

theorem parseUsize_continued {value : Text} {folds : List Text} {n : ℕ}
    (hvalue : parseUsize (trim value) = some n) :
    parseUsize (trim (value++folds.flatMap continuation)) = some n ↔ ∀ f ∈ folds, trim f = [] := by
  constructor
  · intro hnumber f hf
    by_contra hne
    obtain ⟨pre,post,rfl⟩ := List.append_of_mem hf
    have hcontinued : continuation f = ' '::trim f := by
      refine if_neg fun hnil => hne ?_
      rw [hnil]
      rfl
    have hfront : ∃ c ∈ value++pre.flatMap continuation, isWhitespace c = false := by
      obtain ⟨c,hmem,hc⟩ := trim_ne_nil_iff.mp (parseUnsigned_word hvalue).ne
      exact ⟨c,List.mem_append_left _ hmem,hc⟩
    have hback : ∃ c ∈ trim f++post.flatMap continuation, isWhitespace c = false := by
      obtain ⟨c,hmem,hc⟩ := trim_ne_nil_iff.mp hne
      exact ⟨c,List.mem_append_left _ (mem_trim hmem hc),hc⟩
    have hblank := blank_mem_trim hfront hback
    rw [List.flatMap_append, List.flatMap_cons, hcontinued, ← List.append_assoc,
      List.cons_append] at hnumber
    exact absurd ((parseUnsigned_word hnumber).solid ' ' hblank) (by decide)
  · intro hblank
    rw [trim_gap, hvalue]
    intro c hc
    obtain ⟨f,hf,hc⟩ := List.mem_flatMap.mp hc
    rw [continuation, hblank f hf] at hc
    split_ifs at hc
    · cases hc
    · rw [List.mem_singleton.mp hc]
      rfl

theorem lengthText_of_line (hstd : LowersByChar std) {g : Text × List Text} {h : Header} {n : ℕ}
    (hread : Reads (unfolded g) h) (hline : lineLength std g.1 = some n) :
    ∃ value, parseUsize (trim value) = some n ∧
      lengthText (unfolded g) = some (trim (value++g.2.flatMap continuation)) := by
  obtain ⟨name,value,hparts,hcolon,hname,hvalue⟩ := lineLength_parts hstd hline
  have hsolid : ∀ c ∈ name, isWhitespace c = false := by
    intro c hc
    rw [← isWhitespace_toLower]
    have hmem : c.toLower ∈ toAsciiLowercase name := List.mem_map_of_mem hc
    rcases hname with hname | hname
    · rw [hname] at hmem
      exact forall_of_all (p := fun c => isWhitespace c = false) (by decide) _ hmem
    · rw [hname] at hmem
      exact forall_of_all (p := fun c => isWhitespace c = false) (by decide) _ hmem
  have htrim := trim_of_forall hsolid
  have htext : unfolded g = name++ ':'::(value++g.2.flatMap continuation) := by
    rw [unfolded, hparts, List.append_assoc, List.cons_append]
  refine ⟨value,hvalue,?_⟩
  rw [lengthText_of_reads hread]
  have hread' : parseLine (unfolded g) = .ok h := hread
  rw [parseLine, htext, splitFirst_append hcolon] at hread'
  dsimp only at hread'
  split_ifs at hread'
  rw [htrim, buildHeader_named (recognise_length htrim hname)] at hread'
  cases hread'
  rfl

theorem agreed_iff (hstd : LowersByChar std) {gs : List (Text × List Text)} {hs : List Header}
    (hreads : List.Forall₂ Reads (gs.map unfolded) hs) :
    (match (gs.map unfolded).findSome? lengthText with
      | none => some 0
      | some v => parseUsize (trim v)) =
        some (((gs.map (·.1)).findSome? (lineLength std)).getD 0) ↔ Agreed std gs := by
  induction gs generalizing hs with
  | nil => exact ⟨fun _ => trivial,fun _ => rfl⟩
  | cons g gs ih =>
    rw [List.map_cons] at hreads
    cases hreads with
    | cons hread hreads =>
      rw [List.map_cons, List.map_cons, List.findSome?_cons, List.findSome?_cons, Agreed]
      cases hline : lineLength std g.1 with
      | none =>
        cases hlength : lengthText (unfolded g) with
        | none => exact ih hreads
        | some v => simp
      | some n =>
        obtain ⟨value,hvalue,hlength⟩ := lengthText_of_line hstd hread hline
        rw [hlength]
        simp [trim_trim, parseUsize_continued hvalue]

theorem parse_head {data : Bytes} {p : Message} (h : Message.parse data = .ok p) :
    ∃ start block, headParts data = .ok (start,block) ∧
      ((∃ r, parseRequestLine start = .ok r) ∨ ∃ r, parseStatusLine start = .ok r) ∧
      parseHeaderBlock block = .ok (headersOf p) := by
  rcases parse_cases h with ⟨r,rfl,hr⟩ | ⟨r,rfl,hr⟩
  · obtain ⟨⟨start,block,body⟩,hsplit,hr⟩ := bind_ok hr
    obtain ⟨line,hline,hr⟩ := bind_ok hr
    obtain ⟨headers,hblock,hr⟩ := bind_ok hr
    cases hr
    exact ⟨start,block,by rw [headParts, hsplit]; rfl,.inl ⟨line,hline⟩,hblock⟩
  · obtain ⟨⟨start,block,body⟩,hsplit,hr⟩ := bind_ok hr
    obtain ⟨line,hline,hr⟩ := bind_ok hr
    obtain ⟨headers,hblock,hr⟩ := bind_ok hr
    cases hr
    exact ⟨start,block,by rw [headParts, hsplit]; rfl,.inr ⟨line,hline⟩,hblock⟩

theorem headParts_text {data head after : Bytes} {start block : Text}
    (hcut : splitAtFirst crlfBlank data = some (head,after))
    (h : headParts data = .ok (start,block)) :
    ∃ s, head = utf8 s ∧ splitFirstLine s = (start,block) := by
  obtain ⟨⟨line,rest,body⟩,hsplit,hparts⟩ := map_ok h
  cases hparts
  rw [splitMessage, findSeparator_of_crlf hcut] at hsplit
  dsimp only at hsplit
  cases htext : fromUtf8 head with
  | error e =>
    rw [htext] at hsplit
    cases hsplit
  | ok s =>
    rw [htext] at hsplit
    dsimp only at hsplit
    split_ifs at hsplit
    cases hsplit
    exact ⟨s,(utf8_of_fromUtf8 htext).symm,rfl⟩

theorem parseContentLength_groups (hstd : LowersByChar std) {s start block : Text}
    (hcut : splitFirstLine s = (start,block))
    (hstart : (∃ r, parseRequestLine start = .ok r) ∨ ∃ r, parseStatusLine start = .ok r) :
    parseContentLength std (utf8 s++crlfBlank) =
      (((groups (lines block)).map (·.1)).findSome? (lineLength std)).getD 0 := by
  have htext : utf8 s++crlfBlank = utf8 (s++['\r','\n']++['\r','\n']) := by
    rw [utf8_append, utf8_append, List.append_assoc]
    rfl
  have hsilent : ∀ gap, (∀ c ∈ gap, isWhitespace c = true) → ∀ l ∈ lines (start++gap),
      lineLength std l = none := by
    intro gap hgap l hl
    refine TcpFraming.lineLength_other hstd ?_
    rcases hstart with ⟨r,hr⟩ | ⟨r,hr⟩
    · exact requestLine_silent hr hgap hl
    · exact statusLine_silent hr hgap hl
  have hempty : lineLength std [] = none := TcpFraming.lineLength_other hstd (by decide)
  rw [parseContentLength, TcpFraming.parseContentLength, htext, fromUtf8_utf8]
  dsimp only
  rw [findSome?_head hempty hcut hsilent, findSome?_groups hstd]

theorem cut_extent {buf m rest : Bytes} (hm : tryParseMessage std buf = some (m,rest))
    (hann : Announced std buf) : ∃ head after after', splitAtFirst crlfBlank buf =
      some (head,after) ∧
      splitAtFirst crlfBlank m = some (head,after') ∧
      bodyExtent m = some (parseContentLength std (head++crlfBlank)) := by
  obtain ⟨headerEnd,hend,total,htotal,hle,rfl,-⟩ := cut_iff.mp hm
  have hsmall := hann headerEnd hend
  rw [Nat.mod_eq_of_lt (by omega)] at htotal
  obtain ⟨⟨head,after⟩,hsplit,rfl⟩ := Option.map_eq_some_iff.mp hend
  have hbuf : buf = head++crlfBlank++after := splitAtFirst_eq hsplit
  have hblank : (head++crlfBlank).length = head.length+4 := by
    rw [List.length_append]
    rfl
  have hhead : buf.take (head.length+4) = head++crlfBlank := by
    rw [hbuf, ← hblank, List.take_left]
  dsimp only at htotal
  rw [hhead] at htotal
  have htake : buf.take total = head++crlfBlank ++
      after.take (parseContentLength std (head++crlfBlank)) := by
    rw [hbuf, htotal, ← hblank, List.take_length_add_append]
  have hlen : parseContentLength std (head++crlfBlank) ≤ after.length := by
    rw [hbuf, List.length_append, hblank] at hle
    omega
  have hsplit' : splitAtFirst crlfBlank (head++crlfBlank ++
      after.take (parseContentLength std (head++crlfBlank))) = some (head,_) :=
    splitAtFirst_other _ hsplit
  refine ⟨head,after,_,hsplit,by rw [htake]; exact hsplit',?_⟩
  rw [bodyExtent, htake, hsplit']
  exact congrArg some (List.length_take_of_le hlen)

theorem announced_of_extent {buf m rest : Bytes} (hm : tryParseMessage std buf = some (m,rest))
    {n : ℕ} (h : bodyExtent m = some n) : Announced std buf := by
  intro headerEnd hend
  by_contra hlarge
  have hshort := wrapped_lt hend hlarge
  obtain ⟨headerEnd',hend',total,htotal,hle,rfl,-⟩ := cut_iff.mp hm
  cases hend.symm.trans hend'
  obtain ⟨⟨head,after⟩,hsplit,-⟩ := Option.map_eq_some_iff.mp h
  have hwhole := splitAtFirst_append (buf.drop total) hsplit
  rw [List.take_append_drop] at hwhole
  rw [findHeaderEnd, TcpFraming.findHeaderEnd,
    show splitAtFirst [13,10,13,10] buf = _ from hwhole] at hend
  cases hend
  have hlen := congrArg List.length (splitAtFirst_eq hsplit)
  rw [List.length_take_of_le hle] at hlen
  simp only [List.length_append, crlfBlank, List.length_cons, List.length_nil] at hlen
  dsimp only at hshort htotal
  omega

end Agreement

/-- The bytes behind the head of a message that the framer takes off are as
many as its first Content-Length says exactly if the announced length fits
below 2^64 with the head, and that header is one line the framer reads, or one
it passes over with the same number where it reads on. -/
theorem framer_agrees_with_parser_iff (std : StdText) (hstd : LowersByChar std)
    (buf m rest : Bytes) (p : Message)
    (hm : TcpFraming.tryParseMessageFromBuf std buf = some (m,rest))
    (hp : Message.parse m = .ok p) :
    (∃ n, bodyExtent m = some n ∧ statedLength p = some n) ↔ Announced std buf ∧
      ∀ start block, headParts buf = .ok (start,block) → Agreed std (groups (lines block)) := by
  by_cases hann : Announced std buf
  · obtain ⟨head,after,after',hbuf,hmsg,hextent⟩ := cut_extent hm hann
    obtain ⟨start,block,hparts,hstart,hblock⟩ := parse_head hp
    obtain ⟨s,rfl,hcut⟩ := headParts_text hmsg hparts
    have hreads := parseHeaderBlock_reads hblock
    have hsame : headParts buf = .ok (start,block) := by
      rw [← hparts]
      exact splitMessage_cut (findSeparator_of_crlf hbuf) (findSeparator_of_crlf hmsg)
    rw [hextent, parseContentLength_groups hstd hcut hstart, statedLength_eq hreads, hsame]
    constructor
    · rintro ⟨n,hn,hstated⟩
      refine ⟨hann,fun start' block' heq => ?_⟩
      cases heq
      rw [← hn] at hstated
      exact (agreed_iff hstd hreads).mp hstated
    · rintro ⟨-,hagreed⟩
      exact ⟨_,rfl,(agreed_iff hstd hreads).mpr (hagreed start block rfl)⟩
  · refine iff_of_false (fun h => ?_) (fun h => hann h.1)
    obtain ⟨n,hextent,-⟩ := h
    exact hann (announced_of_extent hm hextent)

def measuredRequest : Bytes := utf8 "OPTIONS sip:a SIP/2.0\r\nContent-Length: 5\r\n\r\nhello"

def measuredParsed : Message :=
  .request ⟨.options,"sip:a","SIP/2.0",⟨[.contentLength "5"],by decide⟩,
    utf8 "hello"⟩

theorem measured_request_agrees : Announced asciiText measuredRequest ∧
    ∀ start block, headParts measuredRequest = .ok (start,block) →
      Agreed asciiText (groups (lines block)) :=
  (framer_agrees_with_parser_iff asciiText TcpFraming.asciiText_lowers measuredRequest
    measuredRequest [] measuredParsed (by decide +kernel) (by decide +kernel)).mp
    ⟨5,by decide +kernel,by decide +kernel⟩

def spacedHead : Bytes := utf8 "OPTIONS sip:a SIP/2.0\r\nContent-Length : 21\r\n\r\n"

def hiddenRequest : Bytes := utf8 "BYE sip:a SIP/2.0\r\n\r\n"

/-- The parser gives the message a body of 21 bytes, the framer ends it before
them and takes them for a request of their own. -/
theorem spaced_length_hides_request :
    TcpFraming.tryParseMessageFromBuf asciiText (spacedHead++hiddenRequest) =
        some (spacedHead,hiddenRequest) ∧
      bodyExtent spacedHead = some 0 ∧ (ok (Message.parse spacedHead)).bind statedLength = some 21 ∧
      TcpFraming.tryParseMessageFromBuf asciiText hiddenRequest = some (hiddenRequest,[]) ∧
      (ok (Message.parse hiddenRequest)).isSome := by
  decide +kernel

end RsipRtp.LengthAgreement
