import RsipRtp.UriStable

/-!
# A Via value written and read again

The printer writes a parsed value without the blanks the parser has dropped.
-/

namespace RsipRtp.ViaText
open SipText SipHeader TextShape TextScanner NameAddrText ParamText UriStable
open SipReply (parseParam_eq)

/-- A parameter as it is written behind its semicolon. -/
def paramBody (p : Text × Option Text) : Text :=
  match p.2 with
  | some v => p.1++ '='::v
  | none => p.1

def TypedVia.display (v : TypedVia) : Text :=
  v.protocol++ '/'::(v.transport++ ' '::(v.sentBy++v.params.flatMap (fun p => ';'::paramBody p)))

section Blanks

variable {w s : Text} {q q' : Quote}

def Blank (w : Text) : Prop := ∀ c ∈ w, isWhitespace c = true

theorem exists_trim (s : Text) : ∃ w w', Blank w ∧ Blank w' ∧ s = w++(trim s++w') := by
  refine ⟨s.takeWhile isWhitespace,(trimStart s).rtakeWhile isWhitespace,
    fun _ => List.mem_takeWhile_imp,fun _ => List.mem_rtakeWhile_imp,?_⟩
  rw [trim, trimEnd, List.rdropWhile_append_rtakeWhile]
  exact List.takeWhile_append_dropWhile.symm

theorem walk_blank (h : Blank w) (hq : q ≠ .escaped) : walk (quoteStep ';') q w = some q := by
  induction w with
  | nil => rfl
  | cons c w ih =>
    obtain ⟨hc,hw⟩ := List.forall_mem_cons.mp h
    have hne {d : Char} (hd : isWhitespace d = false) : c ≠ d := by
      rintro rfl
      rw [hc] at hd
      cases hd
    rw [walk_cons]
    cases q with
    | outside | inside =>
      rw [quoteStep, if_neg (hne (by decide)), if_neg (hne (by decide))]
      exact ih hw
    | escaped => exact absurd rfl hq

theorem walk_blank_equals (h : Blank w) (q : Quote) :
    walk (quoteStep ';') q (w++['=']) = walk (quoteStep ';') q ['='] := by
  cases w with
  | nil => rfl
  | cons c w =>
    cases q with
    | outside | inside => rw [walk_append, walk_blank h (by decide)]; rfl
    | escaped =>
      have hw : Blank w := (List.forall_mem_cons.mp h).2
      change walk (quoteStep ';') .inside (w++['=']) = _
      rw [walk_append, walk_blank hw (by decide)]
      rfl

theorem outside_of_blank (h : Blank w) (hwalk : walk (quoteStep ';') q w = some .outside) :
    q = .outside := by
  by_cases hq : q = .escaped
  · subst hq
    cases w with
    | nil => cases hwalk
    | cons c w =>
      change walk (quoteStep ';') .inside w = _ at hwalk
      rw [walk_blank (List.forall_mem_cons.mp h).2 (by decide)] at hwalk
      cases hwalk
  · rw [walk_blank h hq] at hwalk
    exact Option.some.inj hwalk

/-- Blanks at the ends of a text do not matter to a scanner that is outside
behind them. -/
theorem walk_trim (hq : q ≠ .escaped) (h : walk (quoteStep ';') q s = some q') :
    ∃ p, walk (quoteStep ';') q (trim s) = some p ∧ (q' = .outside → p = .outside) := by
  obtain ⟨w,w',hw,hw',hs⟩ := exists_trim s
  rw [hs, walk_append, walk_blank hw hq, Option.bind_some, walk_append] at h
  obtain ⟨p,hp,h⟩ := Option.bind_eq_some_iff.mp h
  exact ⟨p,hp,fun hout => outside_of_blank hw' (hout ▸ h)⟩

end Blanks

section Parameters

variable {chunk : Text} {p : Text × Option Text} {q : Quote}

theorem parseParam_cases (h : parseParam chunk = some p) :
    (p = (trim chunk,none) ∧ trim chunk ≠ [] ∧ '=' ∉ trim chunk) ∨
      ∃ k v, trim chunk = k++ '='::v ∧ '=' ∉ k ∧ p = (trim k,some (trim v)) := by
  have hne : trim chunk ≠ [] := by
    intro hnil
    rw [parseParam, hnil] at h
    cases h
  rw [parseParam_eq hne] at h
  cases hsplit : splitFirst '=' (trim chunk) with
  | none =>
    rw [hsplit] at h
    cases h
    exact .inl ⟨rfl,hne,splitFirst_not_mem hsplit⟩
  | some kv =>
    rw [hsplit] at h
    cases h
    obtain ⟨heq,hk⟩ := splitFirst_eq hsplit
    exact .inr ⟨kv.1,kv.2,heq,hk,rfl⟩

theorem walk_paramBody (hp : parseParam chunk = some p)
    (h : walk (quoteStep ';') .outside chunk = some q) :
    ∃ q', walk (quoteStep ';') .outside (paramBody p) = some q' ∧
      (q = .outside → q' = .outside) := by
  obtain ⟨r,hr,hout⟩ := walk_trim (by decide) h
  rcases parseParam_cases hp with ⟨rfl,-,-⟩ | ⟨k,v,hchunk,-,rfl⟩
  · exact ⟨r,hr,hout⟩
  · obtain ⟨w,w',hw,hw',hk⟩ := exists_trim k
    rw [hchunk, hk, List.append_assoc, List.append_assoc, walk_append, walk_blank hw (by decide),
      Option.bind_some, walk_append, ← List.singleton_append, ← List.append_assoc] at hr
    obtain ⟨a,ha,hr⟩ := Option.bind_eq_some_iff.mp hr
    rw [walk_append, walk_blank_equals hw'] at hr
    obtain ⟨b,hb,hr⟩ := Option.bind_eq_some_iff.mp hr
    have hplain : b ≠ .escaped := by
      cases a <;> cases hb <;> nofun
    obtain ⟨c,hc,hend⟩ := walk_trim hplain hr
    refine ⟨c,?_,fun hq => hend (hout hq)⟩
    change walk (quoteStep ';') .outside (trim k++(['=']++trim v)) = _
    rw [walk_append, ha, Option.bind_some, walk_append, hb, Option.bind_some, hc]

theorem trimEnd_append_trimmed {a s : Text} (hs : s ≠ []) (h : trim s = s) :
    trimEnd (a++s) = a++s := by
  obtain ⟨c,rest,rfl⟩ := List.exists_cons_of_ne_nil hs
  have hc := trim_head h
  have hend : trimEnd (c::rest) = c::rest := by
    rw [trim, trimStart_of_trim h] at h
    exact h
  have hrest : c::trimEnd rest = c::rest := (trimEnd_append [] rest hc).symm.trans hend
  rw [trimEnd_append a rest hc, hrest]

theorem trim_paramBody (hp : parseParam chunk = some p) : trim (paramBody p) = paramBody p := by
  rcases parseParam_cases hp with ⟨rfl,-,-⟩ | ⟨k,v,-,-,rfl⟩
  · exact trim_trim chunk
  · change trim (trim k++ '='::trim v) = trim k++ '='::trim v
    have hstart : trimStart (trim k++ '='::trim v) = trim k++ '='::trim v := by
      cases hk : trim k with
      | nil => rfl
      | cons c rest => rw [List.cons_append, trimStart_cons, trim_head hk]; rfl
    have hend : trimEnd (trim v) = trim v := by
      rw [trim]
      exact List.rdropWhile_idempotent _ _
    rw [trim, hstart, trimEnd_append _ _ (by decide), hend]

theorem parseParam_paramBody (hp : parseParam chunk = some p) :
    parseParam (paramBody p) = some p := by
  have htrim := trim_paramBody hp
  rcases parseParam_cases hp with ⟨rfl,hne,hfree⟩ | ⟨k,v,-,hfree,rfl⟩
  · change parseParam (trim chunk) = _
    rw [parseParam_eq (by rwa [trim_trim]), trim_trim, splitFirst_none hfree]
  · change trim (trim k++ '='::trim v) = trim k++ '='::trim v at htrim
    change parseParam (trim k++ '='::trim v) = _
    have hk : '=' ∉ trim k := fun hmem => hfree (mem_of_mem_trim hmem)
    rw [parseParam_eq (by rw [htrim]; simp), htrim, splitFirst_append hk]
    simp only [trim_trim]

/-- Chunks between semicolons: each but the last closes its strings. -/
def Parted (q : Quote) : List Text → Prop
  | [] => True
  | [b] => ∃ q', walk (quoteStep ';') q b = some q'
  | b::bs => walk (quoteStep ';') q b = some .outside ∧ Parted .outside bs

theorem parted_pieces (q : Quote) (s : Text) : Parted q (pieces (quoteStep ';') .outside q s) := by
  induction s generalizing q with
  | nil => exact ⟨q,rfl⟩
  | cons c s ih =>
    cases hstep : quoteStep ';' q c with
    | none =>
      have hrest := ih .outside
      rw [pieces_stop hstep, (quoteStep_eq_none.mp hstep).1]
      obtain ⟨b,bs,hb⟩ := List.exists_cons_of_ne_nil
        (@pieces_ne_nil _ _ (quoteStep ';') .outside .outside s)
      rw [hb] at hrest ⊢
      exact ⟨rfl,hrest⟩
    | some q' =>
      have hrest := ih q'
      rw [pieces_step hstep]
      match pieces (quoteStep ';') .outside q' s, hrest with
      | [], _ => trivial
      | [b], ⟨r,hr⟩ => exact ⟨r,by rwa [walk_cons, hstep]⟩
      | b::b'::bs, ⟨hb,hbs⟩ => exact ⟨by rwa [walk_cons, hstep],hbs⟩

theorem pieces_parted {b : Text} {bs : List Text} (h : Parted .outside (b::bs)) :
    pieces (quoteStep ';') .outside .outside (b++bs.flatMap (';'::·)) = b::bs := by
  induction bs generalizing b with
  | nil =>
    obtain ⟨q,hq⟩ := h
    rw [List.flatMap_nil, List.append_nil, pieces_of_walk hq]
  | cons b' bs ih =>
    rw [List.flatMap_cons, List.cons_append, pieces_walk h.1, pieces_stop rfl, ih h.2,
      List.modifyHead_cons, List.append_nil]

theorem parted_params {chunks : List Text} (h : Parted .outside chunks) :
    Parted .outside ((chunks.filterMap parseParam).map paramBody) := by
  match chunks, h with
  | [], _ => trivial
  | [c], ⟨q,hq⟩ =>
    cases hc : parseParam c with
    | none => simp [hc, Parted]
    | some p =>
      obtain ⟨q',hq',-⟩ := walk_paramBody hc hq
      simpa [hc] using ⟨q',hq'⟩
  | c::c'::cs, ⟨hc,hcs⟩ =>
    have hrest := parted_params hcs
    cases hp : parseParam c with
    | none => rwa [List.filterMap_cons, hp]
    | some p =>
      obtain ⟨q',hq',hout⟩ := walk_paramBody hp hc
      rw [hout rfl] at hq'
      rw [List.filterMap_cons, hp, List.map_cons]
      cases hbs : ((c'::cs).filterMap parseParam).map paramBody with
      | nil => exact ⟨.outside,hq'⟩
      | cons b bs => exact ⟨hq',hbs ▸ hrest⟩

theorem params_reread {trailing after : Text} {ps : List (Text × Option Text)}
    (h : parseParams trailing after = .ok ps) :
    parseParams trailing (ps.flatMap fun p => ';'::paramBody p) = .ok ps := by
  rcases parseParams_cases h with ⟨-,rfl,-⟩ | ⟨rest,-,-,hps⟩
  · rfl
  · have hparted := parted_params (parted_pieces .outside rest)
    have hchunks : topLevelChunks false rest = pieces (quoteStep ';') .outside .outside rest :=
      topLevelChunks_eq false rest
    rw [← hchunks, ← hps] at hparted
    have hread : (ps.map paramBody).filterMap parseParam = ps := by
      rw [List.filterMap_map]
      refine (List.filterMap_congr fun p hp => ?_).trans List.filterMap_some
      obtain ⟨chunk,-,hchunk⟩ := List.mem_filterMap.mp (hps ▸ hp)
      exact parseParam_paramBody hchunk
    cases ps with
    | nil => rfl
    | cons p ps =>
      have hpieces := pieces_parted hparted
      rw [List.flatMap_map] at hpieces
      have htop := topLevelChunks_eq false (paramBody p++ps.flatMap fun p => ';'::paramBody p)
      rw [List.flatMap_cons, List.cons_append, parseParams, trimStart_cons, if_neg (by decide)]
      change Except.ok ((topLevelChunks false _).filterMap parseParam) = _
      rw [htop]
      exact congrArg (fun l => Except.ok (l.filterMap parseParam)) hpieces |>.trans
        (congrArg _ hread)

end Parameters

section Values

theorem splitLast_not_mem {c : Char} {s a b : Text} (h : splitLast c s = some (a,b)) : c ∉ b := by
  obtain ⟨⟨x,y⟩,hfirst,heq⟩ := Option.map_eq_some_iff.mp h
  cases heq
  simpa using (splitFirst_eq hfirst).2

/-- A protocol and a transport as the parser returns them. -/
structure Protocol (protocol transport : Text) : Prop where
  ne : protocol ≠ [] ∧ transport ≠ []
  trimmed : trim protocol = protocol ∧ trim transport = transport
  slash : '/' ∈ protocol ∧ '/' ∉ transport
  space : ' ' ∉ protocol ∧ ' ' ∉ transport

theorem parseSentProtocol_shape {part : Text} {p : Text × Text} (hpart : ' ' ∉ part)
    (h : parseSentProtocol part = .ok p) : Protocol p.1 p.2 := by
  unfold parseSentProtocol at h
  cases hsplit : splitLast '/' part with
  | none => rw [hsplit] at h; cases h
  | some ab =>
    obtain ⟨a,b⟩ := ab
    rw [hsplit] at h
    dsimp only at h
    split_ifs at h with hempty hslash
    cases h
    rw [splitLast_eq hsplit] at hpart
    simp only [Bool.or_eq_true, List.isEmpty_iff, not_or] at hempty
    simp only [List.mem_append, List.mem_cons, not_or] at hpart
    exact ⟨hempty,⟨trim_trim a,trim_trim b⟩,
      ⟨by simpa using hslash,fun hmem => splitLast_not_mem hsplit (mem_of_mem_trim hmem)⟩,
      fun hmem => hpart.1 (mem_of_mem_trim hmem),fun hmem => hpart.2.2 (mem_of_mem_trim hmem)⟩

theorem Protocol.read {a b : Text} (h : Protocol a b) :
    trim (a++ '/'::b) = a++ '/'::b ∧ parseSentProtocol (a++ '/'::b) = .ok (a,b) := by
  constructor
  · have hstart : trimStart a = a := trimStart_of_trim h.trimmed.1
    have hend : trimEnd (a++['/']++b) = a++['/']++b := trimEnd_append_trimmed h.ne.2 h.trimmed.2
    rw [trim, trimStart_append _ (by rw [hstart]; exact h.ne.1), hstart]
    simpa using hend
  · unfold parseSentProtocol
    rw [splitLast_append h.slash.2]
    simp [h.trimmed, h.ne, h.slash.1]

theorem walk_sentBy_blank {w : Text} (h : Blank w) (v6 : Bool) :
    walk sentByStep v6 w = some v6 := by
  induction w with
  | nil => rfl
  | cons c w ih =>
    obtain ⟨hc,hw⟩ := List.forall_mem_cons.mp h
    have hne {d : Char} (hd : isWhitespace d = false) : c ≠ d := by
      rintro rfl
      rw [hc] at hd
      cases hd
    rw [walk_cons, sentByStep, if_neg (hne (by decide)), if_neg (hne (by decide)),
      if_neg fun h => hne (by decide) h.1]
    exact ih hw

theorem splitSentByParams_trim {e raw after : Text} {rest : Text}
    (h : splitSentByParams e false rest = .ok (raw,after)) (e' : Text) {y : Text}
    (hy : y = [] ∨ y.head? = some ';') :
    splitSentByParams e' false (trim raw++y) = .ok (trim raw,y) := by
  obtain ⟨w,w',hw,hw',hraw⟩ := exists_trim raw
  have hwalk := (splitSentByParams_ok_iff.mp h).2.1
  rw [hraw, walk_append, walk_sentBy_blank hw, Option.bind_some, walk_append] at hwalk
  obtain ⟨v,hv,hend⟩ := Option.bind_eq_some_iff.mp hwalk
  rw [walk_sentBy_blank hw'] at hend
  exact splitSentByParams_ok_iff.mpr ⟨rfl,hv.trans hend,hy⟩

theorem trimEnd_params {x : Text} {ps : List (Text × Option Text)} (hx : trimEnd x = x)
    (hps : ∀ p ∈ ps, trim (paramBody p) = paramBody p) :
    trimEnd (x++ps.flatMap fun p => ';'::paramBody p) =
      x++ps.flatMap fun p => ';'::paramBody p := by
  induction ps generalizing x with
  | nil => simpa using hx
  | cons p ps ih =>
    obtain ⟨hp,hps'⟩ := List.forall_mem_cons.mp hps
    have hend : trimEnd (paramBody p) = paramBody p := by
      rw [← hp, trim]
      exact List.rdropWhile_idempotent _ _
    have hnext := ih (x := x++ ';'::paramBody p)
      (by rw [trimEnd_append _ _ (by decide), hend]) hps'
    simpa using hnext

end Values

/-- A parsed Via is printed as a text that is read as the same Via. -/
theorem via_reread {w : Text} {v : TypedVia} (h : parseTypedVia w = .ok v) :
    parseTypedVia (TypedVia.display v) = .ok v := by
  obtain ⟨after,⟨part,rest,raw,hsplit,hproto,hsent,hraw,hne,hspace⟩,hparams⟩ :=
    parseTypedVia_iff.mp h
  have hpart : ' ' ∉ trim part := fun hmem => (splitFirst_eq hsplit).2 (mem_of_mem_trim hmem)
  have hp := parseSentProtocol_shape hpart hproto
  obtain ⟨htrim,hread⟩ := hp.read
  have hbodies : ∀ p ∈ v.params, trim (paramBody p) = paramBody p := by
    rcases parseParams_cases hparams with ⟨-,hnil,-⟩ | ⟨chunks,-,-,hps⟩
    · rw [hnil]
      exact fun p hp => absurd hp List.not_mem_nil
    · intro p hp
      rw [hps] at hp
      obtain ⟨chunk,-,hchunk⟩ := List.mem_filterMap.mp hp
      exact trim_paramBody hchunk
  have hsentBy : trim v.sentBy = v.sentBy := by rw [hraw, trim_trim]
  generalize hy : v.params.flatMap (fun p => ';'::paramBody p) = y at *
  have hy' : y = [] ∨ y.head? = some ';' := by
    rw [← hy]
    cases v.params with
    | nil => exact .inl rfl
    | cons p ps => exact .inr rfl
  have hdisplay : TypedVia.display v = v.protocol++ '/'::v.transport++ ' '::(v.sentBy++y) := by
    rw [TypedVia.display, hy]
    simp
  have hwhole : trim (TypedVia.display v) = TypedVia.display v := by
    have hbase : trimEnd (v.protocol++ '/'::v.transport++[' ']++v.sentBy) =
        v.protocol++ '/'::v.transport++[' ']++v.sentBy := trimEnd_append_trimmed hne hsentBy
    have hend := trimEnd_params hbase hbodies
    rw [hy] at hend
    have hstart : trimStart v.protocol = v.protocol := trimStart_of_trim hp.trimmed.1
    rw [hdisplay, trim, List.append_assoc, trimStart_append _ (by rw [hstart]; exact hp.ne.1),
      hstart]
    simpa using hend
  have hstart : trimStart (v.sentBy++y) = v.sentBy++y := by
    rw [trimStart_append _ (by rwa [trimStart_of_trim hsentBy]), trimStart_of_trim hsentBy]
  refine parseTypedVia_iff.mpr ⟨y,⟨v.protocol++ '/'::v.transport,v.sentBy++y,v.sentBy,?_,?_,?_,
    hsentBy.symm,hne,hspace⟩,hy ▸ params_reread hparams⟩
  · rw [hwhole, hdisplay]
    refine splitFirst_append ?_
    simpa [not_or] using ⟨hp.space.1,hp.space.2⟩
  · rw [htrim]
    exact hread
  · rw [hstart, hraw]
    exact splitSentByParams_trim hsent _ hy'

/-- A quoted pair whose second half is a blank before an equals sign. -/
theorem blank_pair_reread : parseTypedVia (TypedVia.display ⟨"SIP/2.0","UDP","[::1]:5060",
    [("\"a \\",some "b\""),("rport",none),("c",some [])]⟩) = .ok ⟨"SIP/2.0","UDP","[::1]:5060",
    [("\"a \\",some "b\""),("rport",none),("c",some [])]⟩ :=
  via_reread (w := "SIP/2.0/UDP  [::1]:5060 ;\"a \\ = b\"; rport;;c=") (by decide +kernel)

end RsipRtp.ViaText
