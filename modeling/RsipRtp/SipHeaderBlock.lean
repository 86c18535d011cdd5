import RsipRtp.SipFraming
import RsipRtp.TextShape

/-!
# Header blocks and the lines they are printed as

What the parser accepts has headers of a good shape: trimmed, on one line, and
recognised under the name they are printed with.
-/

namespace RsipRtp.SipHeaderBlock
open SipText TextShape LineFraming SipHeader SipFraming
open SipMessage hiding Message

structure Good (h : Header) : Prop where
  name_ne : h.name ≠ []
  name_trim : trim h.name = h.name
  name_colon : ':' ∉ h.name
  name_line : '\n' ∉ h.name
  value_trim : trim h.value = h.value
  value_line : '\n' ∉ h.value
  value_len : utf8Len h.value ≤ maxHeaderValueLen
  rebuild : buildHeader h.name h.value = h

def headerText (h : Header) : Text := h.name++ ": "++h.value

theorem parseLine_headerText {h : Header} (hg : Good h) : parseLine (headerText h) = .ok h := by
  have hsplit : splitFirst ':' (headerText h) = some (h.name,' '::h.value) := by
    rw [headerText, List.append_assoc]
    exact splitFirst_append hg.name_colon
  have hname : h.name.isEmpty = false := by simpa using hg.name_ne
  rw [parseLine, hsplit]
  simp only [hg.name_trim, hname, trim_space, hg.value_trim, Nat.not_lt.mpr hg.value_len,
    hg.rebuild, Bool.false_eq_true, if_false]

structure NameShape (name : Text) : Prop where
  ne : name ≠ []
  trimmed : trim name = name
  colon : ':' ∉ name
  line : '\n' ∉ name

instance (name : Text) : Decidable (NameShape name) :=
  decidable_of_iff (name ≠ [] ∧ trim name = name ∧ ':' ∉ name ∧ '\n' ∉ name)
    ⟨fun h => ⟨h.1,h.2.1,h.2.2.1,h.2.2.2⟩,fun h => ⟨h.ne,h.trimmed,h.colon,h.line⟩⟩

theorem longNames_value : ∀ e ∈ longNames, ∀ v,
    (e.2 v).value = v ∧ (e.2 v).name = (e.2 []).name := by
  simp only [longNames, List.forall_mem_cons]
  refine ⟨?_,?_,?_,?_,?_,?_,?_,?_,?_,?_,?_,?_,?_,?_,?_,?_,?_,?_,?_,
    fun e he => absurd he List.not_mem_nil⟩ <;>
  exact fun v => ⟨rfl,rfl⟩

theorem longNames_recognised : ∀ i < longNames.length, ∀ e ∈ longNames[i]?,
    NameShape (e.2 []).name ∧ longNames.findIdx?
      (fun e' => e'.1 == toAsciiLowercase (resolveName (e.2 []).name)) = some i := by
  decide +kernel

def recognise (rawName : Text) : Option (Text × (Text → Header)) :=
  longNames.find? (fun e => e.1 == toAsciiLowercase (resolveName rawName))

theorem buildHeader_named {rawName value : Text} {e : Text × (Text → Header)}
    (h : recognise rawName = some e) : buildHeader rawName value = e.2 value := by
  unfold recognise at h
  simp only [buildHeader, matchLongName, h]

theorem buildHeader_other {rawName value : Text} (h : recognise rawName = none) :
    buildHeader rawName value = .other (if utf8Len (trim rawName) = 1 ∧
      resolveName rawName ≠ trim rawName then resolveName rawName else rawName) value := by
  unfold recognise at h
  simp only [buildHeader, matchLongName, h]

theorem good_of_named {e : Text × (Text → Header)} {v : Text} (he : e ∈ longNames)
    (htrim : trim v = v) (hline : '\n' ∉ v) (hlen : utf8Len v ≤ maxHeaderValueLen) :
    Good (e.2 v) := by
  obtain ⟨hvalue,hname⟩ := longNames_value e he v
  obtain ⟨i,hi,rfl⟩ := List.mem_iff_getElem.mp he
  obtain ⟨hshape,hfind⟩ := longNames_recognised i hi _ (List.getElem?_eq_getElem hi)
  refine ⟨hname ▸ hshape.ne,by rw [hname]; exact hshape.trimmed,hname ▸ hshape.colon,
    hname ▸ hshape.line,by rw [hvalue]; exact htrim,by rw [hvalue]; exact hline,
    by rw [hvalue]; exact hlen,?_⟩
  rw [hvalue, hname]
  apply buildHeader_named
  rw [recognise, List.find?_eq_bind_findIdx?_getElem?, hfind, Option.bind_some,
    List.getElem?_eq_getElem hi]

def compactNames : List Text :=
  ["Call-ID","Contact","From","To","Via",
    "Content-Type","Content-Length","Subject","Supported",
    "Content-Encoding","Refer-To","Referred-By",
    "Content-Disposition","Event","Allow-Events"]

theorem resolveName_cases (name : Text) :
    resolveName name = trim name ∨ resolveName name ∈ compactNames := by
  unfold resolveName
  split
  · split
    all_goals first
      | exact .inr (by decide +kernel)
      | exact .inl (Eq.symm (by assumption))
  · exact .inl rfl

theorem compactNames_shape : ∀ name ∈ compactNames, NameShape name ∧ utf8Len (trim name) ≠ 1 ∧
    resolveName name = name := by
  decide +kernel

example : resolveName "I" = "Call-ID" ∧ resolveName "q" = "q" := by
  decide +kernel

theorem good_of_parseLine {line : Text} {h : Header} (hline : '\n' ∉ line)
    (hparse : parseLine line = .ok h) : Good h := by
  rw [parseLine] at hparse
  cases hsplit : splitFirst ':' line with
  | none =>
    rw [hsplit] at hparse
    cases hparse
  | some cut =>
    obtain ⟨before,after⟩ := cut
    obtain ⟨rfl,hcolon⟩ := splitFirst_eq hsplit
    rw [hsplit] at hparse
    dsimp only at hparse
    split_ifs at hparse with hempty hlong
    have hne : trim before ≠ [] := by simpa using hempty
    have hvalueLine : '\n' ∉ trim after := fun hmem =>
      hline (List.mem_append_right _ (List.mem_cons_of_mem _ (mem_of_mem_trim hmem)))
    have hnameLine : '\n' ∉ trim before := fun hmem =>
      hline (List.mem_append_left _ (mem_of_mem_trim hmem))
    have hnameColon : ':' ∉ trim before := fun hmem => hcolon (mem_of_mem_trim hmem)
    have hlen := Nat.not_lt.mp hlong
    have hbuild : h = buildHeader (trim before) (trim after) := (Except.ok.inj hparse).symm
    cases hfind : recognise (trim before) with
    | some e =>
      rw [hbuild, buildHeader_named hfind]
      exact good_of_named (List.mem_of_find?_eq_some hfind) (trim_trim _) hvalueLine hlen
    | none =>
      have hother := hbuild.trans (buildHeader_other hfind)
      split_ifs at hother with hcompact
      · obtain ⟨hshape,hlong,hresolve⟩ := compactNames_shape _
          ((resolveName_cases (trim before)).resolve_left hcompact.2)
        have hagain : recognise (resolveName (trim before)) = none := by
          rw [recognise, hresolve]
          exact hfind
        rw [hother]
        refine ⟨hshape.ne,hshape.trimmed,hshape.colon,hshape.line,trim_trim _,hvalueLine,hlen,?_⟩
        exact (buildHeader_other hagain).trans (by rw [if_neg (fun hc => hlong hc.1)]; rfl)
      · have hrebuild : buildHeader (trim before) (trim after) = h := hbuild.symm
        rw [hother] at hrebuild ⊢
        exact ⟨hne,trim_trim _,hnameColon,hnameLine,trim_trim _,hvalueLine,hlen,hrebuild⟩

section Blocks

variable {b c : Block} {hs acc : Headers} {h : Header}

theorem push_inner (hpush : acc.push h = .ok hs) : hs.inner = acc.inner++[h] := by
  rw [Headers.push] at hpush
  split_ifs at hpush
  cases hpush
  rfl

theorem push_of_lt (h : Header) (hlt : acc.inner.length < maxHeaders) :
    ∃ hs, acc.push h = .ok hs ∧ hs.inner = acc.inner++[h] := by
  rw [Headers.push, dif_pos hlt]
  exact ⟨_,rfl,rfl⟩

structure BlockGood (b : Block) : Prop where
  headers : ∀ h ∈ b.headers.inner, Good h
  current : ∀ line, b.current = some line → '\n' ∉ line

theorem flush_good (hb : BlockGood b) (hflush : flush b = .ok hs) : ∀ h ∈ hs.inner, Good h := by
  rw [flush] at hflush
  cases hcurrent : b.current with
  | none =>
    rw [hcurrent] at hflush
    cases hflush
    exact hb.headers
  | some line =>
    rw [hcurrent] at hflush
    obtain ⟨h,hparse,hpush⟩ := bind_ok hflush
    rw [push_inner hpush]
    intro h' hmem
    rcases List.mem_append.mp hmem with hmem | hmem
    · exact hb.headers h' hmem
    · rw [List.mem_singleton.mp hmem]
      exact good_of_parseLine (hb.current line hcurrent) hparse

/-- A continuation is added to the line that is still open. -/
theorem foldLine_ok {rawLine : Text} (h : foldLine b rawLine = .ok c) :
    ∃ line, b.current = some line ∧
      c = { b with current := some (line++ ' '::trim rawLine), foldLines := b.foldLines+1 } := by
  rw [foldLine] at h
  cases hcurrent : b.current with
  | none =>
    rw [hcurrent] at h
    cases h
  | some line =>
    rw [hcurrent] at h
    dsimp only at h
    split_ifs at h
    exact ⟨line,rfl,(Except.ok.inj h).symm⟩

theorem foldLine_good {rawLine : Text} (hb : BlockGood b) (hraw : '\n' ∉ rawLine)
    (hfold : foldLine b rawLine = .ok c) : BlockGood c := by
  obtain ⟨line,hcurrent,rfl⟩ := foldLine_ok hfold
  refine ⟨hb.headers,fun folded hfolded => ?_⟩
  cases hfolded
  intro hmem
  rcases List.mem_append.mp hmem with hmem | hmem
  · exact hb.current line hcurrent hmem
  · rcases List.mem_cons.mp hmem with hspace | hmem
    · cases hspace
    · exact hraw (mem_of_mem_trim hmem)

theorem headerLine_good {rawLine : Text} (hb : BlockGood b) (hraw : '\n' ∉ rawLine)
    (hstep : headerLine b rawLine = .ok c) : BlockGood c := by
  cases rawLine with
  | nil =>
    cases hstep
    exact hb
  | cons x xs =>
    rw [headerLine] at hstep
    split_ifs at hstep
    · exact foldLine_good hb hraw hstep
    · obtain ⟨headers,hflush,heq⟩ := bind_ok hstep
      cases heq
      refine ⟨flush_good hb hflush,fun line hline => ?_⟩
      cases hline
      exact hraw

theorem foldlM_headerLine_good {rawLines : List Text} (hb : BlockGood b)
    (hraw : ∀ l ∈ rawLines, '\n' ∉ l) (hrun : rawLines.foldlM headerLine b = .ok c) :
    BlockGood c := by
  induction rawLines generalizing b with
  | nil =>
    cases hrun
    exact hb
  | cons l rawLines ih =>
    rw [List.foldlM_cons] at hrun
    obtain ⟨d,hstep,hrest⟩ := bind_ok hrun
    exact ih (headerLine_good hb (hraw l List.mem_cons_self) hstep)
      (fun l' hl' => hraw l' (List.mem_cons_of_mem l hl')) hrest

theorem parseHeaderBlock_good {block : Text} (hparse : parseHeaderBlock block = .ok hs) :
    ∀ h ∈ hs.inner, Good h := by
  obtain ⟨c,hrun,hflush⟩ := bind_ok hparse
  have hstart : BlockGood {headers := Headers.empty, current := none, foldLines := 0} :=
    ⟨fun h hmem => absurd hmem List.not_mem_nil,fun line hline => nomatch hline⟩
  exact flush_good (foldlM_headerLine_good hstart
    (fun l hl => lf_not_mem_linesFrom List.not_mem_nil hl) hrun) hflush

theorem headerText_line (hg : Good h) : headerText h ≠ [] ∧ '\n' ∉ headerText h := by
  constructor
  · intro hnil
    rw [headerText, List.append_assoc] at hnil
    exact hg.name_ne (List.append_eq_nil_iff.mp hnil).1
  · intro hmem
    rcases List.mem_append.mp hmem with hmem | hmem
    · rcases List.mem_append.mp hmem with hmem | hmem
      · exact hg.name_line hmem
      · exact absurd hmem (by decide)
    · exact hg.value_line hmem

theorem headerText_head (hg : Good h) :
    ∃ x tail, headerText h = x::tail ∧ ¬(x = ' ' ∨ x = '\t') := by
  obtain ⟨x,xs,hname⟩ := List.exists_cons_of_ne_nil hg.name_ne
  have hx : isWhitespace x = false := trim_head (hg.name_trim.trans hname)
  refine ⟨x,xs++ ": "++h.value,by rw [headerText, hname]; rfl,?_⟩
  rintro (rfl | rfl)
  · cases hx
  · cases hx

theorem headerLine_headerText (hg : Good h) (hflush : flush b = .ok acc) :
    headerLine b (headerText h) =
      .ok {headers := acc, current := some (headerText h), foldLines := 0} := by
  obtain ⟨x,tail,htext,hopen⟩ := headerText_head hg
  rw [htext, headerLine, if_neg hopen, hflush]
  rfl

theorem foldlM_headerText {list : List Header} (hgood : ∀ h ∈ list, Good h)
    (hflush : flush b = .ok acc) (hlen : acc.inner.length+list.length ≤ maxHeaders) :
    ∃ c, (list.map headerText).foldlM headerLine b = .ok c ∧
      ∃ hs, flush c = .ok hs ∧ hs.inner = acc.inner++list := by
  induction list generalizing b acc with
  | nil => exact ⟨b,rfl,acc,hflush,(List.append_nil _).symm⟩
  | cons h list ih =>
    have hg := hgood h List.mem_cons_self
    rw [List.length_cons] at hlen
    obtain ⟨acc',hpush,hinner⟩ := push_of_lt h (show acc.inner.length < maxHeaders by omega)
    have hflush' : flush {headers := acc, current := some (headerText h), foldLines := 0} =
        .ok acc' := by
      rw [flush]
      dsimp only
      rw [parseLine_headerText hg]
      exact hpush
    have hlen' : acc'.inner.length+list.length ≤ maxHeaders := by
      rw [hinner, List.length_append, List.length_singleton]
      omega
    obtain ⟨c,hrun,hs,hc,hsum⟩ :=
      ih (fun h' hmem => hgood h' (List.mem_cons_of_mem h hmem)) hflush' hlen'
    refine ⟨c,?_,hs,hc,by rw [hsum, hinner, List.append_assoc]; rfl⟩
    rw [List.map_cons, List.foldlM_cons, headerLine_headerText hg hflush]
    exact hrun

def blockText : List Text → Text
  | [] => []
  | l::ls => l++broken '\r' '\n' ls

theorem lines_blockText {list : List Header} (hgood : ∀ h ∈ list, Good h) :
    lines (blockText (list.map headerText)) = list.map headerText := by
  cases list with
  | nil => rfl
  | cons h list =>
    refine lines_broken (headerText_line (hgood h List.mem_cons_self)) (fun l hl => ?_)
    obtain ⟨h',hmem,rfl⟩ := List.mem_map.mp hl
    exact headerText_line (hgood h' (List.mem_cons_of_mem h hmem))

theorem parseHeaderBlock_headerText (hs : Headers) (hgood : ∀ h ∈ hs.inner, Good h) :
    parseHeaderBlock (blockText (hs.inner.map headerText)) = .ok hs := by
  have hempty : flush {headers := Headers.empty, current := none, foldLines := 0} =
      .ok Headers.empty := rfl
  obtain ⟨c,hrun,hs',hflush,hinner⟩ := foldlM_headerText hgood hempty
    (by rw [show Headers.empty.inner.length = 0 from rfl, Nat.zero_add]; exact hs.bound)
  have hsame : hs' = hs := by
    cases hs
    cases hs'
    simpa [Headers.empty] using hinner
  rw [parseHeaderBlock, lines_blockText hgood, hrun]
  exact hflush.trans (congrArg _ hsame)

end Blocks

section Built
variable {list : List Header}

variable {hs acc : Headers}

theorem pushChecked_inner {h : Header} (hpush : SipRequestBuilder.pushChecked acc h = .ok hs) :
    hs.inner = acc.inner++[h] := by
  rw [SipRequestBuilder.pushChecked] at hpush
  split at hpush
  · next hok =>
    cases hpush
    exact push_inner hok
  · cases hpush

theorem pushChecked_of_lt (h : Header) (hlt : acc.inner.length < maxHeaders) :
    ∃ hs, SipRequestBuilder.pushChecked acc h = .ok hs ∧ hs.inner = acc.inner++[h] := by
  obtain ⟨hs,hpush,hinner⟩ := push_of_lt h hlt
  exact ⟨hs,by rw [SipRequestBuilder.pushChecked, hpush],hinner⟩

theorem headers_ext {hs hs' : Headers} (h : hs.inner = hs'.inner) : hs = hs' := by
  cases hs
  cases hs'
  cases h
  rfl

theorem foldlM_pushChecked :
    list.foldlM SipRequestBuilder.pushChecked acc = .ok hs ↔ hs.inner = acc.inner++list := by
  induction list generalizing acc with
  | nil =>
    rw [List.append_nil]
    exact ⟨fun h => by cases h; rfl,fun h => congrArg _ (headers_ext h).symm⟩
  | cons h list ih =>
    rw [List.foldlM_cons]
    constructor
    · intro hfold
      obtain ⟨acc',hpush,hfold⟩ := bind_ok hfold
      rw [ih.mp hfold, pushChecked_inner hpush, List.append_assoc]
      rfl
    · intro hinner
      have hbound := hs.bound
      rw [hinner, List.length_append, List.length_cons] at hbound
      obtain ⟨acc',hpush,hinner'⟩ :=
        pushChecked_of_lt h (show acc.inner.length < maxHeaders by omega)
      rw [hpush]
      refine ih.mpr ?_
      rw [hinner, hinner', List.append_assoc]
      rfl

theorem pushAll_ok :
    list.foldlM SipRequestBuilder.pushChecked Headers.empty = .ok hs ↔ hs.inner = list :=
  foldlM_pushChecked

theorem pushAll_exists :
    (∃ hs, list.foldlM SipRequestBuilder.pushChecked Headers.empty = .ok hs) ↔
      list.length ≤ maxHeaders := by
  constructor
  · rintro ⟨hs,hfold⟩
    rw [← pushAll_ok.mp hfold]
    exact hs.bound
  · exact fun hlen => ⟨⟨list,hlen⟩,pushAll_ok.mpr rfl⟩

end Built

end RsipRtp.SipHeaderBlock
