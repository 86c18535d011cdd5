import RsipRtp.SipHeading

/-!
# What is read back from a printed header list

Headers are written line by line under a start line, and nothing in them is
escaped.
-/

namespace RsipRtp.SipWire
open SipText Utf8 TextShape LineFraming SipHeader SipFraming SipHeaderBlock SipRoundTrip SipHeading
open SipMessage hiding Message

section Writable
variable {hs : List Header}

variable {h g : Header}

def pair (h : Header) : Text × Text := (h.name,h.value)

/-- A header that its own line gives back: the name is kept in this spelling
and stands alone before the colon, the value has no line feed, nothing to
trim and no more than the bytes a value may have. -/
structure Writable (h : Header) : Prop where
  name : NameShape h.name
  spelled : (buildHeader h.name h.value).name = h.name
  value_trim : trim h.value = h.value
  value_line : '\n' ∉ h.value
  value_len : utf8Len h.value ≤ maxHeaderValueLen

instance (h : Header) : Decidable (Writable h) :=
  decidable_of_iff (NameShape h.name ∧ (buildHeader h.name h.value).name = h.name ∧
      trim h.value = h.value ∧ '\n' ∉ h.value ∧ utf8Len h.value ≤ maxHeaderValueLen)
    ⟨fun h => ⟨h.1,h.2.1,h.2.2.1,h.2.2.2.1,h.2.2.2.2⟩,
      fun h => ⟨h.name,h.spelled,h.value_trim,h.value_line,h.value_len⟩⟩

def asRead (h : Header) : Header := buildHeader h.name h.value

theorem asRead_value (h : Header) : (asRead h).value = h.value := by
  cases hfind : recognise h.name with
  | some e =>
    rw [asRead, buildHeader_named hfind]
    exact (longNames_value e (List.mem_of_find?_eq_some hfind) h.value).1
  | none =>
    rw [asRead, buildHeader_other hfind]
    rfl

theorem Writable.good (hw : Writable h) : Good (asRead h) := by
  have hname : (asRead h).name = h.name := hw.spelled
  have hvalue := asRead_value h
  constructor
  · rw [hname]; exact hw.name.ne
  · rw [hname]; exact hw.name.trimmed
  · rw [hname]; exact hw.name.colon
  · rw [hname]; exact hw.name.line
  · rw [hvalue]; exact hw.value_trim
  · rw [hvalue]; exact hw.value_line
  · rw [hvalue]; exact hw.value_len
  · rw [hname, hvalue]; rfl

theorem Writable.pair_asRead (hw : Writable h) : pair (asRead h) = pair h :=
  Prod.ext hw.spelled (asRead_value h)

theorem Writable.headerText_asRead (hw : Writable h) : headerText (asRead h) = headerText h := by
  rw [headerText, headerText, asRead_value, show (asRead h).name = h.name from hw.spelled]

theorem writable_of_pair (hg : Good g) (hpair : pair g = pair h) :
    Writable h ∧ g = asRead h := by
  obtain ⟨hname,hvalue⟩ := Prod.mk.inj hpair
  have hread : g = asRead h := by
    rw [asRead, ← hname, ← hvalue]
    exact hg.rebuild.symm
  refine ⟨⟨⟨?_,?_,?_,?_⟩,?_,?_,?_,?_⟩,hread⟩
  · rw [← hname]; exact hg.name_ne
  · rw [← hname]; exact hg.name_trim
  · rw [← hname]; exact hg.name_colon
  · rw [← hname]; exact hg.name_line
  · rw [← hname, ← hvalue]; exact congrArg Header.name hg.rebuild
  · rw [← hvalue]; exact hg.value_trim
  · rw [← hvalue]; exact hg.value_line
  · rw [← hvalue]; exact hg.value_len

theorem writable_of_pairs {gs hs : List Header} (hg : ∀ g ∈ gs, Good g)
    (hpairs : gs.map pair = hs.map pair) : ∀ h ∈ hs, Writable h := by
  intro h hmem
  have hin : pair h ∈ gs.map pair := by
    rw [hpairs]
    exact List.mem_map_of_mem hmem
  obtain ⟨g,hgmem,heq⟩ := List.mem_map.mp hin
  exact (writable_of_pair (hg g hgmem) heq).1

theorem good_asRead (hw : ∀ h ∈ hs, Writable h) :
    ∀ g ∈ hs.map asRead, Good g := by
  intro g hg
  obtain ⟨h,hmem,rfl⟩ := List.mem_map.mp hg
  exact (hw h hmem).good

theorem texts_asRead (hw : ∀ h ∈ hs, Writable h) :
    (hs.map asRead).map headerText = hs.map headerText := by
  rw [List.map_map]
  exact List.map_congr_left fun h hmem => (hw h hmem).headerText_asRead

theorem pairs_asRead (hw : ∀ h ∈ hs, Writable h) :
    (hs.map asRead).map pair = hs.map pair := by
  rw [List.map_map]
  exact List.map_congr_left fun h hmem => (hw h hmem).pair_asRead

end Writable

section Count

variable {b c : Block} {hs : Headers}

def opens : Text → Bool
  | [] => false
  | c::_ => !decide (c = ' ' ∨ c = '\t')

def pending (b : Block) : ℕ := b.headers.inner.length+b.current.toList.length

theorem flush_pending (h : flush b = .ok hs) : hs.inner.length = pending b := by
  rw [flush] at h
  cases hcurrent : b.current with
  | none =>
    rw [hcurrent] at h
    cases h
    simp [pending, hcurrent]
  | some line =>
    rw [hcurrent] at h
    obtain ⟨header,-,hpush⟩ := bind_ok h
    rw [push_inner hpush, pending, hcurrent]
    simp

theorem headerLine_pending {l : Text} (h : headerLine b l = .ok c) :
    pending c = pending b+if opens l then 1 else 0 := by
  unfold headerLine at h
  split at h
  · cases h
    rfl
  · next x xs =>
    split_ifs at h with hfold
    · obtain ⟨line,hcurrent,rfl⟩ := foldLine_ok h
      rw [opens, decide_eq_true hfold]
      simp [pending, hcurrent]
    · obtain ⟨headers,hflush,h⟩ := bind_ok h
      cases h
      rw [opens, decide_eq_false hfold]
      simp [pending, flush_pending hflush]

theorem foldlM_pending {ls : List Text} (h : ls.foldlM headerLine b = .ok c) :
    pending c = pending b+ls.countP opens := by
  induction ls generalizing b with
  | nil =>
    cases h
    rfl
  | cons l ls ih =>
    obtain ⟨b',hline,h⟩ := bind_ok h
    rw [ih h, headerLine_pending hline, List.countP_cons, Nat.add_assoc, Nat.add_comm (ite _ _ _)]

theorem all_empty_of_closed {ls : List Text} (hnone : b.current = none)
    (hopens : ls.countP opens = 0) (h : ls.foldlM headerLine b = .ok c) : ∀ l ∈ ls, l = [] := by
  induction ls with
  | nil => exact fun l hl => absurd hl List.not_mem_nil
  | cons l ls ih =>
    obtain ⟨b',hline,h⟩ := bind_ok h
    rw [List.countP_eq_zero] at hopens
    have hl : l = [] := by
      cases l with
      | nil => rfl
      | cons x xs =>
        have hfold : x = ' ' ∨ x = '\t' := by
          by_contra hopen
          exact hopens (x::xs) List.mem_cons_self (by rw [opens, decide_eq_false hopen]; rfl)
        rw [headerLine, if_pos hfold, foldLine, hnone] at hline
        cases hline
    subst hl
    cases hline
    have hrest := ih (List.countP_eq_zero.mpr fun l' hl' =>
      hopens l' (List.mem_cons_of_mem _ hl')) h
    exact List.forall_mem_cons.mpr ⟨rfl,hrest⟩

theorem foldlM_empty {ls : List Text} (h : ∀ l ∈ ls, l = []) : ls.foldlM headerLine b = .ok b := by
  induction ls with
  | nil => rfl
  | cons l ls ih =>
    obtain ⟨rfl,hrest⟩ := List.forall_mem_cons.mp h
    exact ih hrest

end Count

section Blocks

variable {L : List Header} {rest : Text}

theorem lines_append (s t : Text) : lines (s++ '\n'::t) = lines (s++['\n'])++lines t := by
  have hfrom : ∀ revLine, linesFrom revLine (s++ '\n'::t) =
      linesFrom revLine (s++['\n'])++lines t := by
    induction s with
    | nil =>
      intro revLine
      simp [linesFrom, lines]
    | cons c s ih =>
      intro revLine
      rw [List.cons_append, List.cons_append, linesFrom, linesFrom]
      split_ifs
      · rw [ih, List.cons_append]
      · exact ih _
  exact hfrom []

theorem lines_rest {start line : Text} (hcut : start++crlf = line++crlf++rest) (t : Text) :
    lines (rest++t) = lines rest++lines t := by
  rcases List.eq_nil_or_concat rest with rfl | ⟨init,c,rfl⟩
  · rfl
  · have hc : c = '\n' := by
      have hlast : (start++crlf).getLast? = some c := by
        rw [hcut, List.concat_eq_append, ← List.append_assoc, List.getLast?_concat]
      simpa [crlf] using hlast.symm
    rw [hc, List.concat_eq_append, List.append_assoc, List.singleton_append]
    exact lines_append init t

theorem opens_headerText (hgood : ∀ h ∈ L, Good h) :
    (L.map headerText).countP opens = L.length := by
  rw [List.countP_map, List.countP_eq_length]
  intro h hmem
  obtain ⟨x,tail,htext,hopen⟩ := headerText_head (hgood h hmem)
  rw [Function.comp_apply, htext, opens, decide_eq_false hopen]
  rfl

theorem all_empty_of_count {hs : Headers} (hgood : ∀ h ∈ L, Good h)
    (hlines : ∀ t, lines (rest++t) = lines rest++lines t)
    (hparse : parseHeaderBlock (rest++blockText (L.map headerText)) = .ok hs)
    (hcount : hs.inner.length = L.length) : ∀ l ∈ lines rest, l = [] := by
  obtain ⟨c,hrun,hflush⟩ := bind_ok hparse
  rw [hlines, lines_blockText hgood] at hrun
  have hpending := foldlM_pending hrun
  rw [← flush_pending hflush, hcount, List.countP_append, opens_headerText hgood] at hpending
  have hzero : (lines rest).countP opens = 0 := by
    simp only [pending, Headers.empty, List.length_nil, Option.toList_none] at hpending
    omega
  rw [List.foldlM_append] at hrun
  obtain ⟨c',hrest,-⟩ := bind_ok hrun
  exact all_empty_of_closed rfl hzero hrest

theorem parseHeaderBlock_behind (hgood : ∀ h ∈ L, Good h) (hlen : L.length ≤ maxHeaders)
    (hlines : ∀ t, lines (rest++t) = lines rest++lines t)
    (hempty : ∀ l ∈ lines rest, l = []) :
    parseHeaderBlock (rest++blockText (L.map headerText)) = .ok ⟨L,hlen⟩ := by
  have hread := parseHeaderBlock_headerText ⟨L,hlen⟩ hgood
  rw [parseHeaderBlock, lines_blockText hgood] at hread
  rw [parseHeaderBlock, hlines, lines_blockText hgood, List.foldlM_append, foldlM_empty hempty]
  exact hread

end Blocks

section Reading

variable (accepts : Text → Prop) (start : Text) (L : List Header) (body : Bytes)

def headParts (data : Bytes) : Except SipError (Text × Text) :=
  (splitMessage data).map (fun p => (p.1,p.2.1))

/-- The message has an accepted start line and the headers of the list, name
by name and value by value. -/
def ReadsBack (data : Bytes) : Prop :=
  ∃ line block headers, headParts data = .ok (line,block) ∧ accepts line ∧
    parseHeaderBlock block = .ok headers ∧ headers.inner.map pair = L.map pair

/-- A start line that leaves the header list to stand as it is. Without a
blank line in it, its first line is accepted and every further line of it is
empty; with one, all that is read is in the start line itself. -/
def StartKept : Prop :=
  match splitAtFirst crlfBlank (utf8 (start++crlf)) with
  | none => accepts (splitFirstLine (start++crlf)).1 ∧
      ∀ l ∈ lines (splitFirstLine (start++crlf)).2, l = []
  | some _ => ReadsBack accepts L (utf8 (start++crlf))

variable {accepts start L body}

theorem startKept_line (hstart : '\n' ∉ start) : StartKept accepts start L ↔ accepts start := by
  have hblank : splitAtFirst crlfBlank (utf8 (start++crlf)) = none := by
    rw [splitAtFirst_eq_none, utf8_append, utf8_crlf]
    exact no_blank_in_line (lf_not_mem_utf8 hstart) (by decide)
  have hcut : splitAtFirst ['\r','\n'] (start++crlf) = some (start,[]) :=
    splitAtFirst_line hstart (by decide)
  have hfirst : splitFirstLine (start++crlf) = (start,[]) := by rw [splitFirstLine, hcut]
  have hlines : ∀ l ∈ lines [], l = [] := by decide
  rw [StartKept, hblank]
  simp only [hfirst]
  exact and_iff_left hlines

theorem findSeparator_of_crlf {data : Bytes} {cut : Bytes × Bytes}
    (h : splitAtFirst crlfBlank data = some cut) : findSeparator data = some cut := by
  change (splitAtFirst crlfBlank data).or _ = _
  rw [h]
  rfl

theorem layout_tail (hne : L ≠ []) : layout start L body = utf8 (start++crlf) ++
    (utf8 (blockText (L.map headerText))++13::10::13::10::body) := by
  obtain ⟨h,hs,rfl⟩ := List.exists_cons_of_ne_nil hne
  rw [layout, utf8_append, utf8_crlf, List.map_cons, blockText, utf8_append, utf8_broken]
  simp [broken]

theorem headParts_cut {before after : Bytes} (hne : L ≠ [])
    (hcut : splitAtFirst crlfBlank (utf8 (start++crlf)) = some (before,after)) :
    headParts (layout start L body) = headParts (utf8 (start++crlf)) := by
  rw [layout_tail hne]
  exact splitMessage_cut (findSeparator_of_crlf (splitAtFirst_append _ hcut))
    (findSeparator_of_crlf hcut)

theorem headParts_whole {line rest : Text} (hw : ∀ h ∈ L, Writable h) (hne : L ≠ [])
    (hcut : splitAtFirst crlfBlank (utf8 (start++crlf)) = none)
    (hline : splitAtFirst ['\r','\n'] (start++crlf) = some (line,rest)) {p : Text × Text} :
    headParts (layout start L body) = .ok p ↔ utf8Len line ≤ maxStartLineLen ∧
      p = (line,rest++blockText (L.map headerText)) := by
  have htexts := texts_asRead hw
  have hread : layout start L body = layout start (L.map asRead) body := by
    rw [layout, layout, htexts]
  have hblank : ¬[13,10,13,10] <:+: utf8 start++[13,10] := by
    have hnone := splitAtFirst_eq_none.mp hcut
    rwa [utf8_append] at hnone
  have hhead : start++broken '\r' '\n' (L.map headerText) =
      start++crlf++blockText (L.map headerText) := by
    obtain ⟨h,hs,rfl⟩ := List.exists_cons_of_ne_nil hne
    simp [broken, blockText, crlf]
  have hfirst : splitFirstLine (start++crlf++blockText (L.map headerText)) =
      (line,rest++blockText (L.map headerText)) := by
    rw [splitFirstLine, splitAtFirst_append _ hline]
  rw [headParts, hread, splitMessage, findSeparator_layout hblank (good_asRead hw), htexts, hhead]
  dsimp only
  rw [fromUtf8_utf8]
  dsimp only
  rw [hfirst]
  dsimp only
  split_ifs with hlong
  · exact ⟨fun h => (by cases h),fun h => absurd h.1 (Nat.not_le.mpr hlong)⟩
  · exact ⟨fun h => ⟨Nat.not_lt.mp hlong,(Except.ok.inj h).symm⟩,fun h => congrArg _ h.2.symm⟩

theorem readsBack_writable {data : Bytes} (h : ReadsBack accepts L data) :
    ∀ h ∈ L, Writable h := by
  obtain ⟨line,block,headers,-,-,hblock,hpairs⟩ := h
  exact writable_of_pairs (parseHeaderBlock_good hblock) hpairs

/-- A head without a blank line in its start line: the list is read back
when the lines in front of it are empty. -/
theorem readsBack_whole_iff (haccepts : ∀ line, accepts line → utf8Len line ≤ maxStartLineLen)
    {line rest : Text} (hw : ∀ h ∈ L, Writable h) (hne : L ≠ []) (hlen : L.length ≤ maxHeaders)
    (hcut : splitAtFirst crlfBlank (utf8 (start++crlf)) = none)
    (hline : splitAtFirst ['\r','\n'] (start++crlf) = some (line,rest)) :
    ReadsBack accepts L (layout start L body) ↔ accepts line ∧ ∀ l ∈ lines rest, l = [] := by
  have hlines := lines_rest (splitAtFirst_eq hline)
  have hcount : (L.map asRead).length = L.length := List.length_map asRead
  constructor
  · rintro ⟨line',block,headers,hparts,haccept,hread,hpairs⟩
    obtain ⟨-,hcase⟩ := (headParts_whole hw hne hcut hline).mp hparts
    obtain ⟨rfl,rfl⟩ := Prod.mk.inj hcase
    have hsame : headers.inner.length = (L.map asRead).length := by
      rw [hcount]
      simpa using congrArg List.length hpairs
    rw [← texts_asRead hw] at hread
    exact ⟨haccept,all_empty_of_count (good_asRead hw) hlines hread hsame⟩
  · rintro ⟨haccept,hempty⟩
    have hread := parseHeaderBlock_behind (good_asRead hw) (hcount.trans_le hlen) hlines hempty
    rw [texts_asRead hw] at hread
    exact ⟨line,_,_,(headParts_whole hw hne hcut hline).mpr ⟨haccepts line haccept,rfl⟩,haccept,
      hread,pairs_asRead hw⟩

/-- The header list is read back exactly when every header can be written
and the start line leaves the list alone. -/
theorem readsBack_layout_iff (haccepts : ∀ line, accepts line → utf8Len line ≤ maxStartLineLen)
    (hne : L ≠ []) (hlen : L.length ≤ maxHeaders) :
    ReadsBack accepts L (layout start L body) ↔
      (∀ h ∈ L, Writable h) ∧ StartKept accepts start L := by
  obtain ⟨⟨line,rest⟩,hline⟩ := Option.isSome_iff_exists.mp (splitAtFirst_isSome crlf start)
  have hfirst : splitFirstLine (start++crlf) = (line,rest) := by
    rw [splitFirstLine, show splitAtFirst ['\r','\n'] (start++crlf) = _ from hline]
  unfold StartKept
  cases hcut : splitAtFirst crlfBlank (utf8 (start++crlf)) with
  | some cut =>
    have hsame : ReadsBack accepts L (layout start L body) ↔
        ReadsBack accepts L (utf8 (start++crlf)) := by
      rw [ReadsBack, ReadsBack, headParts_cut hne hcut]
    rw [hsame]
    exact ⟨fun h => ⟨readsBack_writable h,h⟩,fun h => h.2⟩
  | none =>
    rw [hfirst]
    constructor
    · intro h
      have hw := readsBack_writable h
      exact ⟨hw,(readsBack_whole_iff haccepts hw hne hlen hcut hline).mp h⟩
    · rintro ⟨hw,h⟩
      exact (readsBack_whole_iff haccepts hw hne hlen hcut hline).mpr h

end Reading

end RsipRtp.SipWire
