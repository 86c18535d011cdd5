import RsipRtp.SipReply

/-!
# A parameter written behind others

The text `;name=value` is written behind an address or a sent-by without
looking at either.
-/

namespace RsipRtp.ParamText
open SipText SipHeader TextShape TextScanner NameAddrText SipReply

section Chunks

variable {b : Bool} {s t last : Text} {init : List Text}

theorem chunks_join (b : Bool) (s : Text) :
    ∃ h ts, topLevelChunks b s = h::ts ∧ h++ts.flatMap (';'::·) = s := by
  rw [topLevelChunks_eq]
  generalize quoteOf b = q
  induction s generalizing q with
  | nil => exact ⟨[],[],rfl,rfl⟩
  | cons c s ih =>
    cases hstep : quoteStep ';' q c with
    | none =>
      obtain ⟨h,ts,hchunks,rfl⟩ := ih .outside
      rw [pieces_stop hstep, hchunks, (quoteStep_eq_none.mp hstep).2]
      exact ⟨[],h::ts,rfl,rfl⟩
    | some q' =>
      obtain ⟨h,ts,hchunks,rfl⟩ := ih q'
      rw [pieces_step hstep, hchunks]
      exact ⟨c::h,ts,rfl,rfl⟩

theorem length_chunk {chunk : Text} {ts : List Text} (h : chunk ∈ ts) :
    chunk.length+1 ≤ (ts.flatMap (';'::·)).length := by
  obtain ⟨before,after,rfl⟩ := List.append_of_mem h
  simp only [List.flatMap_append, List.flatMap_cons, List.length_append, List.length_cons]
  omega

theorem chunks_append (b : Bool) (s y : Text) : ∃ init last,
    topLevelChunks b s = init++[last] ∧ topLevelChunks b (s++ ';'::y) =
      init++(topLevelChunks (quoteOpen b s) (';'::y)).modifyHead (last++·) := by
  obtain ⟨init,last,hpieces,hgrow,-⟩ := pieces_last (quoteStep ';') .outside (quoteOf b) s
  refine ⟨init,last,by rw [topLevelChunks_eq, hpieces],?_⟩
  rw [topLevelChunks_eq, topLevelChunks_eq, hgrow, quoteOpen_eq]
  -- a backslash at the end escapes the semicolon, which is quoted anyway
  cases final (quoteStep ';') .outside (quoteOf b) s <;> rfl

theorem chunks_quoted {z : Text} (hquote : '"' ∉ z) (hback : '\\' ∉ z) (t : Text) :
    topLevelChunks true (z++t) = (topLevelChunks true t).modifyHead (z++·) := by
  rw [topLevelChunks_eq, topLevelChunks_eq]
  refine pieces_walk ?_ t
  induction z with
  | nil => rfl
  | cons c z ih =>
    rw [List.mem_cons, not_or] at hquote hback
    rw [walk_cons]
    change (quoteStep ';' .inside c).bind _ = _
    rw [quoteStep, if_neg (Ne.symm hquote.1), if_neg (Ne.symm hback.1)]
    exact ih hquote.2 hback.2

theorem chunks_unquoted {z : Text} (hquote : '"' ∉ z) (hsemi : ';' ∉ z) (t : Text) :
    topLevelChunks false (z++t) = (topLevelChunks false t).modifyHead (z++·) := by
  rw [topLevelChunks_eq, topLevelChunks_eq]
  exact pieces_walk (walk_outside hsemi hquote) t

theorem length_trim_le (s : Text) : (trim s).length ≤ s.length :=
  ((List.rdropWhile_prefix _ _).length_le).trans (List.dropWhile_suffix _).length_le

/-- A single parameter value: no semicolon outside its quoted strings and
nothing to trim. -/
def Plain (t : Text) : Prop := topLevelChunks false t = [t] ∧ trim t = t

instance (t : Text) : Decidable (Plain t) :=
  inferInstanceAs (Decidable (topLevelChunks false t = [t] ∧ trim t = t))

theorem plain_iff {h : Text} {ts : List Text} (hchunks : topLevelChunks false t = h::ts) :
    trim h = t ↔ Plain t := by
  obtain ⟨h',ts',hchunks',hjoin⟩ := chunks_join false t
  obtain ⟨rfl,rfl⟩ := List.cons.inj (hchunks.symm.trans hchunks')
  constructor
  · intro htrim
    have hle := length_trim_le h
    have hts : ts = [] := by
      cases ts with
      | nil => rfl
      | cons u us =>
        have hlen := congrArg List.length hjoin
        rw [htrim] at hle
        simp only [List.length_append, List.flatMap_cons, List.length_cons] at hlen
        omega
    subst hts
    have heq : h = t := by simpa using hjoin
    subst heq
    exact ⟨hchunks,htrim⟩
  · rintro ⟨hone,htrim⟩
    obtain ⟨rfl,-⟩ := List.cons.inj (hchunks.symm.trans hone)
    exact htrim

example : Plain "\"a;b\"" ∧ ¬Plain "a;b" ∧ ¬Plain " a" := by decide +kernel

end Chunks

section Parameters

variable {name trailing after t : Text} {ps : List (Text × Option Text)}

theorem trimEnd_append {c : Char} (a s : Text) (hc : isWhitespace c = false) :
    trimEnd (a++c::s) = a++c::trimEnd s := by
  induction s using List.reverseRecOn with
  | nil =>
    rw [trimEnd, List.rdropWhile_concat_neg]
    · rfl
    · rw [hc]
      exact Bool.false_ne_true
  | append_singleton s d ih =>
    by_cases hd : isWhitespace d = true
    · rw [← List.cons_append, ← List.append_assoc, trimEnd, List.rdropWhile_concat_pos _ _ _ hd,
        trimEnd, List.rdropWhile_concat_pos _ _ _ hd]
      exact ih
    · rw [← List.cons_append, ← List.append_assoc, trimEnd, List.rdropWhile_concat_neg _ _ _ hd,
        trimEnd, List.rdropWhile_concat_neg _ _ _ hd, List.append_assoc]
      rfl

theorem trim_trimEnd (s : Text) : trim (trimEnd s) = trim s := by
  have hsplit : s.takeWhile isWhitespace++trimStart s = s := List.takeWhile_append_dropWhile
  have hblank : trimStart (s.takeWhile isWhitespace) = [] :=
    List.dropWhile_eq_nil_iff.mpr (fun _ => List.mem_takeWhile_imp)
  cases hstart : trimStart s with
  | nil =>
    have hend : trimEnd s = [] :=
      List.rdropWhile_eq_nil_iff.mpr (List.dropWhile_eq_nil_iff.mp hstart)
    rw [hend, trim, trim, hstart]
    rfl
  | cons c rest =>
    have hc : isWhitespace c = false := by
      have hhead := trimStart_head (s := s) (by rw [hstart]; exact List.cons_ne_nil _ _)
      simpa only [hstart, List.head_cons] using hhead
    have hcons : ∀ x, trimStart (s.takeWhile isWhitespace++c::x) = c::x := fun x => by
      rw [trimStart_blank _ hblank, trimStart_cons, hc]
      rfl
    rw [hstart] at hsplit
    have hend : trimEnd s = s.takeWhile isWhitespace++c::trimEnd rest := by
      rw [← trimEnd_append _ _ hc, hsplit]
    have hrest : trimEnd (c::rest) = c::trimEnd rest := trimEnd_append [] rest hc
    rw [trim, trim, hstart, hend, hcons, ← hrest]
    exact List.rdropWhile_idempotent _ _

theorem parseParam_named (hname : Token name) (h : Text) :
    parseParam (name++ '='::h) = some (name,some (trim h)) := by
  have htrim : trim (name++ '='::h) = name++ '='::trimEnd h := by
    have hstart : trimStart (name++ '='::h) = name++ '='::h := by
      have hname' : trimStart name = name := trimStart_of_trim hname.trim_eq
      rw [trimStart_append _ (hname'.symm ▸ hname.ne), hname']
    rw [trim, hstart, trimEnd_append _ _ (by decide)]
  have hne : trim (name++ '='::h) ≠ [] := by simp [htrim]
  have hsplit : splitFirst '=' (name++ '='::trimEnd h) = some (name,trimEnd h) :=
    splitFirst_append (hname.not_mem (by decide))
  rw [parseParam_eq hne, htrim, hsplit]
  simp only [hname.trim_eq, trim_trimEnd]

theorem length_parseParam {chunk k v : Text} (h : parseParam chunk = some (k,some v)) :
    k.length+v.length+1 ≤ chunk.length := by
  have hne : trim chunk ≠ [] := by
    intro hnil
    rw [parseParam, hnil] at h
    cases h
  rw [parseParam_eq hne] at h
  cases hsplit : splitFirst '=' (trim chunk) with
  | none =>
    rw [hsplit] at h
    cases h
  | some p =>
    obtain ⟨k',v'⟩ := p
    rw [hsplit] at h
    cases h
    have hlen := congrArg List.length (splitFirst_eq hsplit).1
    rw [List.length_append, List.length_cons] at hlen
    have hk := length_trim_le k'
    have hv := length_trim_le v'
    have hchunk := length_trim_le chunk
    omega

theorem length_eqIgnoreAsciiCase {k name : Text} (h : eqIgnoreAsciiCase k name = true) :
    k.length = name.length := by
  have heq := congrArg List.length (beq_iff_eq.mp h)
  simpa [toAsciiLowercase] using heq

theorem length_findParam {chunks : List Text} {v : Text}
    (h : findParam name (chunks.filterMap parseParam) = some v) :
    ∃ chunk ∈ chunks, name.length+v.length+1 ≤ chunk.length := by
  rw [findParam, Option.bind_eq_some_iff] at h
  obtain ⟨⟨k,o⟩,hfind,rfl⟩ := h
  obtain ⟨chunk,hmem,hparse⟩ := List.mem_filterMap.mp (List.mem_of_find?_eq_some hfind)
  have hname : eqIgnoreAsciiCase k name = true := by simpa using List.find?_some hfind
  have hlen := length_parseParam hparse
  rw [length_eqIgnoreAsciiCase hname] at hlen
  exact ⟨chunk,hmem,hlen⟩

theorem length_found {v : Text} (hparams : parseParams trailing after = .ok ps)
    (hfind : findParam name ps = some v) : name.length+v.length+2 ≤ after.length := by
  rcases parseParams_cases hparams with ⟨-,rfl,-⟩ | ⟨rest,hrest,-,rfl⟩
  · cases hfind
  · obtain ⟨chunk,hmem,hlen⟩ := length_findParam hfind
    obtain ⟨h,ts,hchunks,hjoin⟩ := chunks_join false rest
    have hjoined : chunk.length ≤ rest.length := by
      rw [← hjoin, List.length_append]
      rcases List.mem_cons.mp (hchunks ▸ hmem) with rfl | hmem
      · omega
      · have := length_chunk hmem
        omega
    have hafter : (trimStart after).length ≤ after.length := (List.dropWhile_suffix _).length_le
    rw [hrest, List.length_cons] at hafter
    omega

end Parameters

section Landing

variable {name trailing after t : Text} {ps : List (Text × Option Text)}

def paramText (name t : Text) : Text := ';'::(name++ '='::t)

def named (name : Text) (p : Text × Option Text) : Bool := eqIgnoreAsciiCase p.1 name

/-- The last chunk of parameters that end inside a quoted string, with what
the string takes in of the parameter behind them. -/
def swallowed (name after t : Text) : Text :=
  (topLevelChunks false (trimStart after).tail).getLast?.getD [] ++
    (topLevelChunks true (paramText name t)).head?.getD []

/-- When `;name=t` behind the parameters of `after` is read as `t`. Behind
closed quotes the value is a single one and the first of its name, or the
first has this very value. Behind an open quote the parameters before the last
or the one that swallows the text have it. -/
def Lands (trailing name after t : Text) : Prop :=
  ∃ ps, parseParams trailing after = .ok ps ∧
    if quoteOpen false after then
      findParam name (ps.dropLast++(parseParam (swallowed name after t)).toList) = some t
    else findParam name ps = some t ∨ (ps.find? (named name) = none ∧ Plain t)

theorem findParam_eq (name : Text) (ps : List (Text × Option Text)) :
    findParam name ps = (ps.find? (named name)).bind Prod.snd := rfl

theorem findParam_behind (hnone : ps.find? (named name) = none) (qs : List (Text × Option Text)) :
    findParam name (ps++qs) = findParam name qs := by
  rw [findParam_eq, List.find?_append, hnone, Option.none_or, findParam_eq]

theorem findParam_before {p : Text × Option Text} (hsome : ps.find? (named name) = some p)
    (qs : List (Text × Option Text)) : findParam name (ps++qs) = p.2 := by
  rw [findParam_eq, List.find?_append, hsome, Option.some_or, Option.bind_some]

theorem parseParams_error {s : Text} (h : ∀ ps, parseParams trailing after ≠ .ok ps)
    (ps : List (Text × Option Text)) : parseParams trailing (after++s) ≠ .ok ps := by
  cases hstart : trimStart after with
  | nil =>
    refine absurd ?_ (h [])
    rw [parseParams, hstart]
  | cons c rest =>
    have hne : trimStart after ≠ [] := by simp [hstart]
    by_cases hc : c = ';'
    · subst hc
      refine absurd ?_ (h ((topLevelChunks false rest).filterMap parseParam))
      rw [parseParams, hstart]
      rfl
    · rw [parseParams, trimStart_append _ hne, hstart, List.cons_append]
      split
      · next heq => cases heq
      · next heq => exact absurd (List.cons.inj heq).1 hc
      · exact fun heq => by cases heq

theorem lands_closed (hname : Token name) (hclosed : quoteOpen false after = false)
    (hparams : parseParams trailing after = .ok ps) :
    ∃ ps', parseParams trailing (after++paramText name t) = .ok ps' ∧
      (findParam name ps' = some t ↔
        findParam name ps = some t ∨ (ps.find? (named name) = none ∧ Plain t)) := by
  obtain ⟨h,ts,hchunks,-⟩ := chunks_join false t
  have hvalue : topLevelChunks false (name++ '='::t) = (name++ '='::h)::ts := by
    have hplain := chunks_unquoted (z := name++['=']) (t := t)
      (by simpa using hname.not_mem (c := '"') (by decide))
      (by simpa using hname.not_mem (c := ';') (by decide))
    rw [hchunks, List.modifyHead_cons] at hplain
    simpa using hplain
  refine ⟨_,parseParams_append hclosed hparams,?_⟩
  rw [hvalue, List.filterMap_cons, parseParam_named hname]
  cases hfind : ps.find? (named name) with
  | some p =>
    rw [findParam_before hfind, findParam_eq, hfind]
    simp
  | none =>
    have hself : named name (name,some (trim h)) = true := by simp [named, eqIgnoreAsciiCase]
    rw [findParam_behind hfind, findParam_eq, List.find?_cons_of_pos hself, findParam_eq, hfind,
      ← plain_iff hchunks]
    simp

theorem chunks_param_quoted (hname : Token name) (t : Text) : ∃ h ts,
    topLevelChunks true (paramText name t) = (';'::(name++ '='::h))::ts ∧
      h++ts.flatMap (';'::·) = t := by
  obtain ⟨h,ts,hvalue,hjoin⟩ := chunks_join true t
  have hplain := chunks_quoted (z := ';'::(name++['='])) (t := t)
    (by simpa using hname.not_mem (c := '"') (by decide))
    (by simpa using hname.not_mem (c := '\\') (by decide))
  rw [hvalue, List.modifyHead_cons] at hplain
  exact ⟨h,ts,by simpa [paramText] using hplain,hjoin⟩

/-- The parameters behind an open quote: those before the last, the one that
swallows, and what the value itself goes on with. -/
theorem params_open (hname : Token name) (hopen : quoteOpen false after = true)
    (hparams : parseParams trailing after = .ok ps) :
    ∃ (h : Text) (ts : List Text), h++ts.flatMap (';'::·) = t ∧
      parseParams trailing (after++paramText name t) = .ok (ps.dropLast ++
        (parseParam (swallowed name after t)).toList++ts.filterMap parseParam) := by
  rcases parseParams_cases hparams with ⟨-,-,hclosed⟩ | ⟨rest,hcons,hquotes,rfl⟩
  · rw [hopen] at hclosed
    cases hclosed
  rw [hquotes] at hopen
  obtain ⟨init,last,hchunks,happend⟩ := chunks_append false rest (name++ '='::t)
  obtain ⟨h,ts,hquoted,hjoin⟩ := chunks_param_quoted hname t
  have hswallowed : swallowed name after t = last++ ';'::(name++ '='::h) := by
    rw [swallowed, hcons, List.tail_cons, hchunks, hquoted, List.getLast?_concat]
    rfl
  have hlast : ∃ q, parseParam last = some q := by
    obtain ⟨init',last',hchunks',hmem,-⟩ := exists_dangling hopen
    obtain ⟨-,heq⟩ := List.append_inj' (hchunks.symm.trans hchunks') rfl
    have hne : trim last' ≠ [] := List.ne_nil_of_mem (mem_trim hmem (by decide))
    rw [List.singleton_inj.mp heq, parseParam_eq hne]
    split <;> exact ⟨_,rfl⟩
  obtain ⟨q,hq⟩ := hlast
  have hdrop : ((topLevelChunks false rest).filterMap parseParam).dropLast =
      init.filterMap parseParam := by
    rw [hchunks, List.filterMap_append, List.filterMap_cons, hq]
    exact List.dropLast_concat
  have hread : topLevelChunks false (rest++paramText name t) =
      init++(swallowed name after t)::ts := by
    change topLevelChunks false (rest++paramText name t) =
      init++(topLevelChunks (quoteOpen false rest) (paramText name t)).modifyHead
        (last++·) at happend
    rw [happend, hopen, hquoted, List.modifyHead_cons, hswallowed]
  have hone : ∀ c, (c::ts).filterMap parseParam =
      (parseParam c).toList++ts.filterMap parseParam := fun c => by
    cases hc : parseParam c <;> simp [hc]
  refine ⟨h,ts,hjoin,?_⟩
  rw [parseParams, trimStart_append _ (by simp [hcons]), hcons, hdrop, List.append_assoc, ← hone,
    ← List.filterMap_append, ← hread]
  rfl

theorem lands_open (hname : Token name) (hopen : quoteOpen false after = true)
    (hparams : parseParams trailing after = .ok ps) :
    ∃ ps', parseParams trailing (after++paramText name t) = .ok ps' ∧
      (findParam name ps' = some t ↔
        findParam name (ps.dropLast++(parseParam (swallowed name after t)).toList) = some t) := by
  obtain ⟨h,ts,hjoin,hread⟩ := params_open (t := t) hname hopen hparams
  refine ⟨_,hread,?_⟩
  cases hfind : (ps.dropLast++(parseParam (swallowed name after t)).toList).find?
      (named name) with
  | some p =>
    rw [findParam_before hfind, findParam_eq, hfind]
    rfl
  | none =>
    rw [findParam_behind hfind]
    refine iff_of_false (fun hlate => ?_) (fun hnone => ?_)
    · obtain ⟨chunk,hmem,hlen⟩ := length_findParam hlate
      have hchunk := length_chunk hmem
      have ht := congrArg List.length hjoin
      rw [List.length_append] at ht
      omega
    · rw [findParam_eq, hfind] at hnone
      cases hnone

theorem lands_iff (hname : Token name) :
    (∃ ps, parseParams trailing (after++paramText name t) = .ok ps ∧
      findParam name ps = some t) ↔ Lands trailing name after t := by
  cases hparams : parseParams trailing after with
  | error e =>
    constructor
    · rintro ⟨ps,h,-⟩
      exact absurd h (parseParams_error (fun ps hok => by rw [hparams] at hok; cases hok) ps)
    · rintro ⟨ps,h,-⟩
      rw [hparams] at h
      cases h
  | ok ps =>
    have hok : ∀ {P : Prop}, (∃ ps', parseParams trailing (after++paramText name t) = .ok ps' ∧
        (findParam name ps' = some t ↔ P)) →
        ((∃ ps', parseParams trailing (after++paramText name t) = .ok ps' ∧
          findParam name ps' = some t) ↔ P) := by
      rintro P ⟨ps',hps',hiff⟩
      rw [← hiff, hps']
      simp
    rw [Lands]
    simp only [hparams, Except.ok.injEq, exists_eq_left']
    cases hopen : quoteOpen false after with
    | true => exact hok (lands_open hname hopen hparams)
    | false => exact hok (lands_closed hname hopen hparams)

/-- With nothing before it, the value only has to be a single one. -/
theorem lands_first_iff : Lands trailing name [] t ↔ Plain t := by
  constructor
  · rintro ⟨ps,hps,hfound⟩
    cases hps
    rcases hfound with hfound | ⟨-,hplain⟩
    · cases hfound
    · exact hplain
  · intro hplain
    exact ⟨[],rfl,.inr ⟨rfl,hplain⟩⟩

end Landing

section Tags

variable {w t : Text}

theorem length_paramText (name t : Text) : (paramText name t).length = name.length+t.length+2 := by
  simp only [paramText, List.length_append, List.length_cons]
  omega

/-- When a tag behind the address `w` is read as `t`: the address is one by
itself, and the tag lands behind its parameters. -/
def TagLands (w t : Text) : Prop :=
  ∃ d u after, nameAddrCut w w = .ok (d,u,after) ∧
    (∃ uri, RsipRtp.Uri.parse (trim u) = .ok uri) ∧ Lands nameAddrTrailing "tag" after t

theorem tag_token : Token "tag" := ⟨by decide,by decide⟩

theorem tag_lands_iff (htrim : trim (w++paramText "tag" t) = w++paramText "tag" t) :
    (∃ a, parseNameAddr (w++paramText "tag" t) = .ok a ∧ a.tag = some t) ↔
      TagLands w t ∧ Anchored w (paramText "tag" t) := by
  constructor
  · rintro ⟨a,hparse,htag⟩
    obtain ⟨-,u,after',hcut,huri,hparams⟩ := parseNameAddr_iff.mp hparse
    rw [htrim] at hcut
    have hroom := length_found hparams htag
    have hlen : (paramText "tag" t).length ≤ after'.length := by
      rw [length_paramText]
      omega
    refine ⟨?_,anchored_of_cut hcut hlen⟩
    rcases nameAddrCut_beyond w hcut with ⟨after,hafter,rfl⟩ | hshort
    · exact ⟨_,u,after,hafter,⟨_,huri⟩,(lands_iff tag_token).mp ⟨_,hparams,htag⟩⟩
    · exact absurd hlen (Nat.not_le.mpr hshort)
  · rintro ⟨⟨d,u,after,hcut,⟨uri,huri⟩,hlands⟩,hanchored⟩
    obtain ⟨ps,hparams,htag⟩ := (lands_iff tag_token).mpr hlands
    refine ⟨⟨d,uri,ps⟩,parseNameAddr_iff.mpr ⟨?_,u,_,?_,huri,hparams⟩,htag⟩
    · rw [htrim]
      simp [paramText]
    · rw [htrim]
      exact nameAddrCut_append hcut hanchored

end Tags

section Branches
variable {v6 : Bool}

variable {w t rest sentBy after : Text}

/-- How a `Via` value falls into its protocol and transport, its sent-by and
what stands behind the sent-by. -/
def ViaCut (s : Text) (protocol : Text × Text) (sentBy after : Text) : Prop :=
  ∃ protoPart rest raw, splitFirst ' ' s = some (protoPart,rest) ∧
    parseSentProtocol (trim protoPart) = .ok protocol ∧
    splitSentByParams (trimStart rest) false (trimStart rest) = .ok (raw,after) ∧
    sentBy = trim raw ∧ sentBy ≠ [] ∧ sentBy.any (fun c => c == ' ' || c == '\t') = false

theorem parseTypedVia_iff {v : TypedVia} : parseTypedVia w = .ok v ↔
    ∃ after, ViaCut (trim w) (v.protocol,v.transport) v.sentBy after ∧
      parseParams viaTrailing after = .ok v.params := by
  unfold parseTypedVia
  constructor
  · intro h
    dsimp only at h
    split_ifs at h
    · cases h
    split at h
    · cases h
    · next protoPart rest hsplit =>
      obtain ⟨⟨protocol,transport⟩,hproto,h⟩ := bind_ok h
      obtain ⟨⟨raw,after⟩,hsent,h⟩ := bind_ok h
      dsimp only at h
      by_cases hempty : (trim raw).isEmpty = true
      · rw [if_pos hempty] at h
        cases h
      by_cases hspace : (trim raw).any (fun c => c == ' ' || c == '\t') = true
      · rw [if_neg hempty, if_pos hspace] at h
        cases h
      rw [if_neg hempty, if_neg hspace] at h
      obtain ⟨params,hparams,h⟩ := bind_ok h
      cases h
      exact ⟨after,⟨protoPart,rest,raw,hsplit,hproto,hsent,rfl,by simpa using hempty,
        Bool.eq_false_of_not_eq_true hspace⟩,hparams⟩
  · rintro ⟨after,⟨protoPart,rest,raw,hsplit,hproto,hsent,hraw,hne,hspace⟩,hparams⟩
    have hw : (trim w).isEmpty = false := by
      rw [List.isEmpty_eq_false_iff]
      intro hnil
      rw [hnil] at hsplit
      cases hsplit
    have hempty : v.sentBy.isEmpty = false := List.isEmpty_eq_false_iff.mpr hne
    simp only [hw, Bool.false_eq_true, if_false, hsplit]
    rw [hproto]
    simp only [bind, Except.bind, hsent, ← hraw, hempty, hspace, Bool.false_eq_true, if_false,
      hparams]
    rfl

def sentByStep (v6 : Bool) (c : Char) : Option Bool :=
  if c = '[' then (if v6 then none else some true)
  else if c = ']' then (if v6 then some false else none)
  else if c = ';' ∧ v6 = false then none else some v6

/-- What is split off is closed and goes up to a semicolon or the end. -/
def SentBySplit (v6 : Bool) (rest sentBy after : Text) : Prop :=
  sentBy++after = rest ∧ walk sentByStep v6 sentBy = some false ∧
    (after = [] ∨ after.head? = some ';')

theorem sentBySplit_cons {v6 v6' : Bool} {c : Char} {cs : Text} (hstep : sentByStep v6 c = some v6')
    (hc : c = ';' → v6 = true) : SentBySplit v6 (c::cs) sentBy after ↔
      ∃ s, SentBySplit v6' cs s after ∧ c::s = sentBy := by
  constructor
  · rintro ⟨hjoin,hwalk,hafter⟩
    cases sentBy with
    | nil =>
      rw [List.nil_append] at hjoin
      subst hjoin
      rw [hc (by simpa using hafter)] at hwalk
      cases hwalk
    | cons d s =>
      obtain ⟨rfl,htail⟩ := List.cons.inj hjoin
      rw [walk_cons, hstep] at hwalk
      exact ⟨s,⟨htail,hwalk,hafter⟩,rfl⟩
  · rintro ⟨s,⟨hjoin,hwalk,hafter⟩,rfl⟩
    exact ⟨congrArg (c::·) hjoin,by rwa [walk_cons, hstep],hafter⟩

theorem sentBySplit_stop {c : Char} {cs : Text} (hstep : sentByStep v6 c = none)
    (h : SentBySplit v6 (c::cs) sentBy after) : sentBy = [] ∧ c = ';' := by
  obtain ⟨hjoin,hwalk,hafter⟩ := h
  cases sentBy with
  | nil =>
    rw [List.nil_append] at hjoin
    subst hjoin
    exact ⟨rfl,by simpa using hafter⟩
  | cons d s =>
    rw [walk_cons, (List.cons.inj hjoin).1, hstep] at hwalk
    cases hwalk

theorem map_cons_ok_iff {x : Except SipError (Text × Text)} {c : Char} :
    x.map (fun p => (c::p.1,p.2)) = .ok (sentBy,after) ↔
      ∃ s, x = .ok (s,after) ∧ c::s = sentBy := by
  constructor
  · intro h
    obtain ⟨p,hp,heq⟩ := map_ok h
    obtain ⟨hs,rfl⟩ := Prod.mk.inj heq
    exact ⟨p.1,hp,hs⟩
  · rintro ⟨s,rfl,rfl⟩
    rfl

theorem splitSentByParams_ok_iff {e : Text} :
    splitSentByParams e v6 rest = .ok (sentBy,after) ↔ SentBySplit v6 rest sentBy after := by
  induction v6, rest using splitSentByParams.induct generalizing sentBy with
  | case1 =>
    refine iff_of_false nofun fun ⟨hjoin,hwalk,_⟩ => ?_
    rw [(List.append_eq_nil_iff.mp hjoin).1] at hwalk
    cases hwalk
  | case2 =>
    constructor
    · rintro ⟨⟩
      exact ⟨rfl,rfl,.inl rfl⟩
    · rintro ⟨hjoin,-,-⟩
      obtain ⟨rfl,rfl⟩ := List.append_eq_nil_iff.mp hjoin
      rfl
  | case3 cs | case6 cs => exact iff_of_false nofun fun h => by cases (sentBySplit_stop rfl h).2
  | case4 cs ih | case5 cs ih =>
    rw [splitSentByParams, map_cons_ok_iff, sentBySplit_cons rfl (by decide)]
    simp only [ih]
  | case7 cs =>
    constructor
    · rintro ⟨⟩
      exact ⟨rfl,rfl,.inr rfl⟩
    · intro h
      obtain ⟨rfl,-⟩ := sentBySplit_stop rfl h
      rw [splitSentByParams, ← h.1, List.nil_append]
  | case8 v6 c cs h1 h2 h3 h4 h5 ih =>
    have hstep : sentByStep v6 c = some v6 ∧ (c = ';' → v6 = true) := by
      cases v6 <;> simp_all [sentByStep]
    rw [splitSentByParams.eq_8 _ _ _ _ h1 h2 h3 h4 h5, map_cons_ok_iff,
      sentBySplit_cons hstep.1 hstep.2]
    simp only [ih]

theorem splitSentByParams_append {e : Text} (e' y : Text)
    (h : splitSentByParams e v6 rest = .ok (sentBy,after)) :
    splitSentByParams e' v6 (rest++ ';'::y) = .ok (sentBy,after++ ';'::y) := by
  obtain ⟨rfl,hwalk,hafter⟩ := splitSentByParams_ok_iff.mp h
  refine splitSentByParams_ok_iff.mpr ⟨by simp,hwalk,.inr ?_⟩
  rcases hafter with rfl | hafter
  · rfl
  · rw [List.head?_append, hafter]
    rfl

theorem splitSentByParams_beyond {e e' y after' : Text} {err : SipError}
    (hrest : splitSentByParams e v6 rest = .error err)
    (h : splitSentByParams e' v6 (rest++ ';'::y) = .ok (sentBy,after')) :
    after'.length < (';'::y).length := by
  obtain ⟨hjoin,hwalk,hafter⟩ := splitSentByParams_ok_iff.mp h
  by_contra hlong
  have hlen := congrArg List.length hjoin
  rw [List.length_append, List.length_append] at hlen
  obtain ⟨b,rfl⟩ : sentBy <+: rest :=
    List.prefix_of_prefix_length_le ⟨_,hjoin⟩ ⟨_,rfl⟩ (by omega)
  rw [List.append_assoc, List.append_right_inj] at hjoin
  have hok : splitSentByParams e v6 (sentBy++b) = .ok (sentBy,b) := by
    refine splitSentByParams_ok_iff.mpr ⟨rfl,hwalk,?_⟩
    cases b with
    | nil => exact .inl rfl
    | cons d b => exact .inr (by simpa [hjoin] using hafter)
  rw [hok] at hrest
  cases hrest

theorem viaCut_append {p : Text × Text} (y : Text) (h : ViaCut w p sentBy after) :
    ViaCut (w++ ';'::y) p sentBy (after++ ';'::y) := by
  obtain ⟨protoPart,rest,raw,hsplit,hproto,hsent,rfl,hne,hspace⟩ := h
  have hrest : trimStart rest ≠ [] := by
    intro hnil
    rw [hnil] at hsent
    cases hsent
    exact hne rfl
  refine ⟨protoPart,rest++ ';'::y,raw,splitFirst_extend hsplit,hproto,?_,rfl,hne,hspace⟩
  rw [trimStart_append _ hrest]
  exact splitSentByParams_append _ y hsent

theorem viaCut_beyond {p : Text × Text} {y after' : Text}
    (h : ViaCut (w++ ';'::y) p sentBy after') :
    (∃ after, ViaCut w p sentBy after ∧ after' = after++ ';'::y) ∨
      after'.length < (';'::y).length := by
  obtain ⟨protoPart,rest',raw,hsplit,hproto,hsent,rfl,hne,hspace⟩ := h
  rcases splitFirst_beyond hsplit with ⟨rest,hfirst,rfl⟩ | hlen
  · have hrest : trimStart rest ≠ [] := by
      intro hnil
      rw [trimStart_blank _ hnil] at hsent
      cases hsent
      exact hne rfl
    rw [trimStart_append _ hrest] at hsent
    cases hshort : splitSentByParams (trimStart rest) false (trimStart rest) with
    | error e => exact .inr (splitSentByParams_beyond hshort hsent)
    | ok q =>
      rw [splitSentByParams_append _ y hshort] at hsent
      cases hsent
      exact .inl ⟨q.2,⟨protoPart,rest,q.1,hfirst,hproto,hshort,rfl,hne,hspace⟩,rfl⟩
  · right
    exact (List.IsSuffix.length_le ⟨raw,(splitSentByParams_ok_iff.mp hsent).1⟩).trans_lt
      ((List.dropWhile_suffix _).length_le.trans_lt hlen)

/-- When a branch behind the sent-by is read as `t`. -/
def BranchLands (w t : Text) : Prop :=
  ∃ protocol sentBy after, ViaCut w protocol sentBy after ∧
    Lands viaTrailing "branch" after t

theorem branch_token : Token "branch" := ⟨by decide,by decide⟩

theorem branch_lands_iff
    (htrim : trim (w++paramText "branch" t) = w++paramText "branch" t) :
    (∃ v, parseTypedVia (w++paramText "branch" t) = .ok v ∧ v.branch = some t) ↔
      BranchLands w t := by
  constructor
  · rintro ⟨v,hparse,hbranch⟩
    obtain ⟨after',hcut,hparams⟩ := parseTypedVia_iff.mp hparse
    rw [htrim] at hcut
    rcases viaCut_beyond hcut with ⟨after,hafter,rfl⟩ | hlen
    · exact ⟨_,_,after,hafter,(lands_iff branch_token).mp ⟨_,hparams,hbranch⟩⟩
    · have hroom := length_found hparams hbranch
      change after'.length < (paramText "branch" t).length at hlen
      rw [length_paramText] at hlen
      omega
  · rintro ⟨protocol,sentBy,after,hcut,hlands⟩
    obtain ⟨ps,hparams,hbranch⟩ := (lands_iff branch_token).mpr hlands
    refine ⟨⟨protocol.1,protocol.2,sentBy,ps⟩,parseTypedVia_iff.mpr ⟨_,?_,hparams⟩,hbranch⟩
    rw [htrim]
    exact viaCut_append _ hcut

end Branches

end RsipRtp.ParamText
