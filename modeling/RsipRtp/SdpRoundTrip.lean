import RsipRtp.SdpText
import RsipRtp.SdpAgreement

/-!
# Session descriptions printed and parsed again

What the parser accepts has a shape that the printer keeps: words without
blanks, values that fit on a line, attribute names and bandwidth types cut at
the first colon.
-/

namespace RsipRtp.SdpRoundTrip
open SipText TextShape LineFraming Sdp SdpText
open FiniteMap (insertAll lookup_insertAll_perm)

variable {m : MediaDescription} {v : Text}

structure Clean (v : Text) : Prop where
  line : '\n' ∉ v
  solid : ∀ c ∈ v.getLast?, isWhitespace c = false

theorem isWhitespace_alpha {c : Char} (h : c.isAlpha = true) : isWhitespace c = false := by
  delta Char.isAlpha Char.isUpper Char.isLower at h
  simp only [Bool.or_eq_true, Bool.and_eq_true, decide_eq_true_eq] at h
  have h' : (65 ≤ c.toNat ∧ c.toNat ≤ 90) ∨ (97 ≤ c.toNat ∧ c.toNat ≤ 122) := h
  exact isWhitespace_visible (by omega) (by omega)

theorem line_solid (c : Char) (hv : Clean v) :
    ∀ e ∈ (c:: '='::v).getLast?, isWhitespace e = false := by
  intro e he
  cases v with
  | nil =>
    have heq : '=' = e := by simpa using he
    rw [← heq]
    decide
  | cons d v => exact hv.solid e (by simpa using he)

theorem trim_line {c : Char} (hc : c.isAlpha = true) (hv : Clean v) :
    trim (c:: '='::v) = c:: '='::v := by
  have hstart : trimStart (c:: '='::v) = c:: '='::v :=
    List.dropWhile_cons_of_neg (by rw [isWhitespace_alpha hc]; exact Bool.false_ne_true)
  rw [trim, hstart, trimEnd_eq_iff]
  exact line_solid c hv

theorem record_line {c : Char} (hc : c.isAlpha = true) (hv : Clean v) :
    record (c:: '='::v) = some (c,v) := by
  simp [record, trim_line hc hv, hc]

theorem record_clean {line : Text} (hline : '\n' ∉ line) {r : Char × Text}
    (h : record line = some r) : Clean r.2 := by
  unfold record at h
  split at h
  · rename_i c eq v htrim
    split_ifs at h
    cases h
    have hsolid := (trimEnd_eq_iff (trim line)).mp (List.rdropWhile_idempotent _ _)
    rw [htrim] at hsolid
    refine ⟨fun hmem => hline (mem_of_mem_trim (by rw [htrim]; simp [hmem])),fun e he => ?_⟩
    refine hsolid e ?_
    cases v with
    | nil => cases he
    | cons d v => simpa using he
  · cases h

theorem records_clean {sdp : Text} {r : Char × Text} (h : r ∈ records sdp) : Clean r.2 := by
  obtain ⟨line,hmem,hrecord⟩ := List.mem_filterMap.mp h
  exact record_clean (lf_not_mem_linesFrom List.not_mem_nil hmem) hrecord

theorem records_text {rs : List (Char × Text)}
    (h : ∀ r ∈ rs, r.1.isAlpha = true ∧ Clean r.2) : records (rs.flatMap lineText) = rs := by
  induction rs with
  | nil => rfl
  | cons r rs ih =>
    obtain ⟨hc,hv⟩ := h r List.mem_cons_self
    have hrest := ih (fun r' hr' => h r' (List.mem_cons_of_mem r hr'))
    have hfeed : '\n' ∉ r.1:: '='::r.2 := by
      simp only [List.mem_cons, not_or]
      refine ⟨?_,by decide,hv.line⟩
      rintro heq
      rw [← heq] at hc
      cases hc
    have htext : (r::rs).flatMap lineText = r.1:: '='::r.2++ '\n'::rs.flatMap lineText := by
      simp [lineText]
    have hstrip : stripCr (r.1:: '='::r.2).reverse = r.1:: '='::r.2 := by
      unfold stripCr
      split
      · rename_i l hl
        have hsolid := line_solid r.1 hv '\r' (by
          rw [List.getLast?_eq_head?_reverse, hl]
          rfl)
        cases hsolid
      · rw [List.reverse_reverse]
    rw [records, htext, lines_feed _ hfeed, hstrip, List.filterMap_cons_some (record_line hc hv)]
    exact congrArg (r::·) hrest

theorem word_clean {ws : List Text} (h : ∀ w ∈ ws, Word w) : Clean (join [' '] ws) := by
  induction ws with
  | nil => exact ⟨List.not_mem_nil,nofun⟩
  | cons w ws ih =>
    have hw := h w List.mem_cons_self
    have hrest := ih (fun v hv => h v (List.mem_cons_of_mem w hv))
    cases ws with
    | nil =>
      have hone : join [' '] [w] = w := by simp [join]
      rw [hone]
      exact ⟨hw.lf_not_mem,fun c hc => hw.solid c (List.mem_of_getLast? hc)⟩
    | cons v ws =>
      have hne : join [' '] (v::ws) ≠ [] := by
        have hv := (h v (by simp)).ne
        cases ws with
        | nil => simpa [join] using hv
        | cons u ws => rw [join_cons]; simp
      rw [join_cons]
      refine ⟨?_,fun c hc => ?_⟩
      · simp only [List.mem_append, List.mem_singleton, not_or]
        exact ⟨hw.lf_not_mem,by decide,hrest.line⟩
      · rw [List.getLast?_append_of_ne_nil _ (by simp), List.getLast?_append_of_ne_nil _ hne] at hc
        exact hrest.solid c hc

theorem number_clean (n : ℕ) : Clean (natText n) :=
  ⟨(natText_word n).lf_not_mem,fun c hc => (natText_word n).solid c (List.mem_of_getLast? hc)⟩

@[simp] theorem u64Of_text (n : UInt64) : u64Of (u64Text n) = some n := by
  rw [u64Of, u64Text, parseUnsigned_natText n.toNat_lt, Option.map_some, UInt64.ofNat_toNat]

@[simp] theorem u16Of_text (n : UInt16) : u16Of (u16Text n) = some n := by
  rw [u16Of, u16Text, parseU16, parseUnsigned_natText n.toNat_lt, Option.map_some,
    UInt16.ofNat_toNat]

theorem origin_read {o : Origin} (h : ∀ w ∈ Origin.words o, Word w) :
    Origin.parse (join [' '] (Origin.words o)) = .ok o := by
  rw [Origin.parse, splitWhitespace_join h]
  rfl

theorem origin_words {o : Origin} (h : Origin.parse v = .ok o) :
    ∀ w ∈ Origin.words o, Word w := by
  unfold Origin.parse at h
  split at h
  · rename_i hsplit
    cases h
    intro w hw
    refine mem_splitWhitespace (s := v) ?_
    rw [hsplit]
    exact List.mem_append_left _ hw
  · cases h

theorem connection_read {c : Connection} (h : ∀ w ∈ Connection.words c, Word w) :
    Connection.parse (join [' '] (Connection.words c)) = .ok c := by
  rw [Connection.parse, splitWhitespace_join h]
  rfl

theorem connection_words {c : Connection} (h : Connection.parse v = .ok c) :
    ∀ w ∈ Connection.words c, Word w := by
  unfold Connection.parse at h
  split at h
  · rename_i hsplit
    cases h
    intro w hw
    refine mem_splitWhitespace (s := v) ?_
    rw [hsplit]
    exact List.mem_append_left _ hw
  · cases h

theorem timing_words (t : Timing) : ∀ w ∈ Timing.words t, Word w := by
  intro w hw
  simp only [Timing.words, List.mem_cons, List.not_mem_nil, or_false] at hw
  rcases hw with rfl | rfl <;> exact natText_word _

theorem timing_read (t : Timing) : Timing.parse (join [' '] (Timing.words t)) = .ok t := by
  rw [Timing.parse, splitWhitespace_join (timing_words t)]
  simp [Timing.words]

structure AttributeFits (a : Attribute) : Prop where
  clean : Clean (Attribute.text a)
  read : Attribute.parse (Attribute.text a) = a

theorem attribute_text (v : Text) : Attribute.text (Attribute.parse v) = v := by
  unfold Attribute.parse
  split
  · rename_i name val hsplit
    exact (splitFirst_eq hsplit).1.symm
  · rfl

theorem attribute_fits (hv : Clean v) : AttributeFits (Attribute.parse v) :=
  ⟨by rwa [attribute_text],by rw [attribute_text]⟩

theorem mediaType_read {std : StdText} (hstd : LowersAscii std) (t : MediaType) :
    MediaType.ofText std (MediaType.text t) = t := by
  have hlow : std.toLowercase (MediaType.text t) = MediaType.text t := by
    rw [hstd _ (forall_of_all (by cases t <;> decide))]
    cases t <;> decide
  rw [MediaType.ofText, hlow]
  cases t <;> decide

theorem mediaType_word (t : MediaType) : Word (MediaType.text t) := by
  cases t <;> exact ⟨by decide,forall_of_all (by decide)⟩

structure MediaFits (m : MediaDescription) : Prop where
  protocol : Word m.protocol
  some_format : m.formats ≠ []
  formats : ∀ f ∈ m.formats, Word f
  connection : ∀ c ∈ m.connection, ∀ w ∈ Connection.words c, Word w
  bandwidth : ∀ k ∈ m.bandwidth, '\n' ∉ k ∧ ':' ∉ k
  attributes : ∀ a ∈ m.attributes, AttributeFits a

theorem media_fits {std : StdText}
    (h : MediaDescription.parse std v = .ok m) : MediaFits m := by
  unfold MediaDescription.parse at h
  split at h
  · rename_i mediaType ports protocol format formats hsplit
    have hword : ∀ w ∈ mediaType::ports::protocol::format::formats, Word w :=
      fun w hw => mem_splitWhitespace (s := v) (by rwa [hsplit])
    split at h
    · cases h
      exact ⟨hword _ (by simp),List.cons_ne_nil _ _,fun f hf => hword f (by simp_all),nofun,
        fun k hk => absurd hk (AList.notMem_empty k),nofun⟩
    · cases h
  · cases h

theorem mediaField_fits {m m' : MediaDescription} {c : Char} (hm : MediaFits m)
    (hv : Clean v) (h : mediaField m c v = .ok m') : MediaFits m' := by
  unfold mediaField at h
  split_ifs at h
  · obtain ⟨connection,hparse,rfl⟩ := map_ok h
    exact { hm with connection := by rintro _ ⟨⟩; exact connection_words hparse }
  · cases h
    unfold addBandwidth
    split
    · rename_i btype bw hsplit
      obtain ⟨heq,hcolon⟩ := splitFirst_eq hsplit
      refine { hm with bandwidth := fun k hk => ?_ }
      rcases (AList.mem_insert _).mp hk with rfl | hk
      · exact ⟨fun hlf => hv.line (by rw [heq]; simp [hlf]),hcolon⟩
      · exact hm.bandwidth k hk
    · exact hm
  · cases h
    refine { hm with attributes := fun a ha => ?_ }
    rcases List.mem_append.mp ha with ha | ha
    · exact hm.attributes a ha
    · rw [List.mem_singleton.mp ha]
      exact attribute_fits hv
  · cases h
    exact hm

theorem media_words (hm : MediaFits m) :
    ∀ w ∈ MediaDescription.words m, Word w := by
  intro w hw
  simp only [MediaDescription.words, List.mem_cons] at hw
  rcases hw with rfl | rfl | rfl | hw
  · exact mediaType_word _
  · exact natText_word _
  · exact hm.protocol
  · exact hm.formats w hw

theorem media_read {std : StdText} (hstd : LowersAscii std)
    (hm : MediaFits m) : MediaDescription.parse std (join [' '] (MediaDescription.words m)) =
      .ok { m with numPorts := none, connection := none, bandwidth := ∅, attributes := [] } := by
  have hslash : '/' ∉ u16Text m.port := fun h => by cases natText_forall h
  have hports : parsePorts (u16Text m.port) = some (m.port,none) := by
    rw [parsePorts, splitFirst_none hslash]
    simp
  obtain ⟨f,fs,hformats⟩ := List.exists_cons_of_ne_nil hm.some_format
  rw [MediaDescription.parse, splitWhitespace_join (media_words hm), MediaDescription.words,
    hformats]
  simp only [hports, mediaType_read hstd]

theorem connection_again {connection : Option Connection}
    (hm : m.connection = none) (h : ∀ c ∈ connection, ∀ w ∈ Connection.words c, Word w) :
    (connectionLine connection).foldlM (fun m r => mediaField m r.1 r.2) m =
      .ok { m with connection } := by
  cases connection with
  | none =>
    cases m
    cases hm
    rfl
  | some c =>
    have hread := connection_read (h c rfl)
    simp only [connectionLine, Option.map_some, Option.toList_some, List.foldlM_cons,
      List.foldlM_nil, mediaField, if_true, hread]
    rfl

theorem bandwidth_again (m : MediaDescription) {entries : List ((_ : Text) × UInt32)}
    (h : ∀ e ∈ entries, ':' ∉ e.1) :
    (bandwidthLines entries).foldlM (fun m r => mediaField m r.1 r.2) m =
      .ok { m with bandwidth := insertAll m.bandwidth entries } := by
  induction entries generalizing m with
  | nil => rfl
  | cons e entries ih =>
    have hread : mediaField m 'b' (e.1++ ':'::u32Text e.2) =
        .ok { m with bandwidth := m.bandwidth.insert e.1 e.2 } := by
      rw [mediaField, if_neg (by decide), if_pos rfl, addBandwidth,
        splitFirst_append (h e List.mem_cons_self)]
      simp
    rw [bandwidthLines, List.map_cons, List.foldlM_cons, hread]
    exact ih _ (fun e' he' => h e' (List.mem_cons_of_mem e he'))

theorem attributes_again (m : MediaDescription) {attributes : List Attribute}
    (h : ∀ a ∈ attributes, AttributeFits a) :
    (attributeLines attributes).foldlM (fun m r => mediaField m r.1 r.2) m =
      .ok { m with attributes := m.attributes++attributes } := by
  induction attributes generalizing m with
  | nil => rw [List.append_nil]; rfl
  | cons a attributes ih =>
    have hread : mediaField m 'a' (Attribute.text a) =
        .ok { m with attributes := m.attributes++[a] } := by
      rw [mediaField, if_neg (by decide), if_neg (by decide), if_pos rfl,
        (h a List.mem_cons_self).read]
    rw [attributeLines, List.map_cons, List.foldlM_cons, hread]
    refine (ih _ (fun a' ha' => h a' (List.mem_cons_of_mem a ha'))).trans ?_
    rw [List.append_assoc]
    rfl

def reread (m : MediaDescription) : MediaDescription :=
  { m with numPorts := none, bandwidth := insertAll ∅ (sortedBandwidth m) }

theorem body_again (hm : MediaFits m) :
    (connectionLine m.connection++bandwidthLines (sortedBandwidth m) ++
      attributeLines m.attributes).foldlM (fun m r => mediaField m r.1 r.2)
        { m with numPorts := none, connection := none, bandwidth := ∅, attributes := [] } =
      .ok (reread m) := by
  have hkeys : ∀ e ∈ sortedBandwidth m, ':' ∉ e.1 := by
    intro e he
    have hmem : e ∈ m.bandwidth.entries := (List.mergeSort_perm _ _).mem_iff.mp he
    exact (hm.bandwidth e.1 (List.mem_keys_of_mem hmem)).2
  rw [List.foldlM_append, List.foldlM_append, connection_again rfl hm.connection]
  change ((bandwidthLines (sortedBandwidth m)).foldlM _ _ >>= _) = _
  rw [bandwidth_again _ hkeys]
  change (attributeLines m.attributes).foldlM _ _ = _
  rw [attributes_again _ hm.attributes]
  rfl

section Session
variable {std : StdText}
variable {s : SessionDescription}

theorem fold_below {p : Parser} {m m' : MediaDescription} {rs : List (Char × Text)}
    (hp : p.currentMedia = some m) (hrs : ∀ r ∈ rs, r.1 ≠ 'm')
    (h : rs.foldlM (fun m r => mediaField m r.1 r.2) m = .ok m') :
    rs.foldlM (field std) p = .ok { p with currentMedia := some m' } := by
  induction rs generalizing p m with
  | nil =>
    cases h
    rw [← hp]
    rfl
  | cons r rs ih =>
    rw [List.foldlM_cons] at h
    obtain ⟨m₁,hstep,hrest⟩ := bind_ok h
    rw [List.foldlM_cons, field, if_neg (hrs r List.mem_cons_self), hp]
    simp only [hstep]
    exact ih (p := { p with currentMedia := some m₁ }) rfl
      (fun r' hr' => hrs r' (List.mem_cons_of_mem r hr')) hrest

theorem connectionLine_letter {c : Option Connection} {r : Char × Text}
    (h : r ∈ connectionLine c) : r.1 = 'c' := by
  cases c with
  | none => cases h
  | some c => rw [List.mem_singleton.mp h]

theorem writeMedia_read (hstd : LowersAscii std) {m : MediaDescription} (hm : MediaFits m)
    (p : Parser) : (writeMedia m).foldlM (field std) p =
      .ok { p with media := p.allMedia, currentMedia := some (reread m) } := by
  rw [writeMedia, List.foldlM_cons, field, if_pos rfl, media_read hstd hm]
  refine fold_below (p := { p with media := p.allMedia, currentMedia := some _ }) rfl ?_
    (body_again hm)
  intro r hr
  simp only [bandwidthLines, attributeLines, List.mem_append, List.mem_map] at hr
  rcases hr with (hr | ⟨e,-,rfl⟩) | ⟨a,-,rfl⟩
  · rw [connectionLine_letter hr]
    decide
  · exact show 'b' ≠ 'm' by decide
  · exact show 'a' ≠ 'm' by decide

theorem media_again (hstd : LowersAscii std) {media : List MediaDescription}
    (h : ∀ m ∈ media, MediaFits m) (p : Parser) : ∃ done open',
    (media.flatMap writeMedia).foldlM (field std) p =
        .ok { p with media := done, currentMedia := open' } ∧
      done++open'.toList = p.allMedia++media.map reread := by
  induction media generalizing p with
  | nil => exact ⟨p.media,p.currentMedia,rfl,by simp [Parser.allMedia]⟩
  | cons m media ih =>
    obtain ⟨done,open',hfold,hall⟩ := ih (fun m' hm' => h m' (List.mem_cons_of_mem m hm'))
      { p with media := p.allMedia, currentMedia := some (reread m) }
    refine ⟨done,open',?_,?_⟩
    · rw [List.flatMap_cons, List.foldlM_append, writeMedia_read hstd (h m List.mem_cons_self)]
      exact hfold
    · rw [hall]
      simp [Parser.allMedia]

structure SessionFits (s : SessionDescription) : Prop where
  origin : ∀ w ∈ Origin.words s.origin, Word w
  sessionName : Clean s.sessionName
  sessionInfo : ∀ v ∈ s.sessionInfo, Clean v
  connection : ∀ c ∈ s.connection, ∀ w ∈ Connection.words c, Word w
  attributes : ∀ a ∈ s.attributes, AttributeFits a
  media : ∀ m ∈ s.media, MediaFits m

theorem field_session {p : Parser} {c : Char} (hp : p.currentMedia = none) (hc : c ≠ 'm')
    (v : Text) : field std p (c,v) = sessionField p c v := by
  rw [field, if_neg hc, hp]

theorem session_attributes_again {p : Parser} (hp : p.currentMedia = none)
    {attributes : List Attribute} (h : ∀ a ∈ attributes, AttributeFits a) :
    (attributeLines attributes).foldlM (field std) p =
      .ok { p with attributes := p.attributes++attributes } := by
  induction attributes generalizing p with
  | nil => rw [List.append_nil]; rfl
  | cons a attributes ih =>
    rw [attributeLines, List.map_cons, List.foldlM_cons, field_session hp (by decide), sessionField,
      (h a List.mem_cons_self).read]
    refine (ih (p := { p with attributes := p.attributes++[a] }) hp
      (fun a' ha' => h a' (List.mem_cons_of_mem a ha'))).trans ?_
    rw [List.append_assoc]
    rfl

theorem writeSession_read (hs : SessionFits s) :
    (writeSession s).foldlM (field std) {} = .ok {
      version := some s.version
      origin := some s.origin
      sessionName := some s.sessionName
      sessionInfo := s.sessionInfo
      connection := s.connection
      timing := some s.timing
      attributes := s.attributes } := by
  have hinfo (p : Parser) (hp : p.currentMedia = none) (hnew : p.sessionInfo = none) :
      (s.sessionInfo.map (fun info => ('i',info))).toList.foldlM (field std) p =
        .ok { p with sessionInfo := s.sessionInfo } := by
    cases s.sessionInfo with
    | none =>
      cases p
      cases hnew
      rfl
    | some info =>
      rw [Option.map_some, Option.toList_some, List.foldlM_cons, field_session hp (by decide)]
      rfl
  have hconnection (p : Parser) (hp : p.currentMedia = none) (hnew : p.connection = none) :
      (connectionLine s.connection).foldlM (field std) p =
        .ok { p with connection := s.connection } := by
    cases hconn : s.connection with
    | none =>
      cases p
      cases hnew
      rfl
    | some c =>
      rw [connectionLine, Option.map_some, Option.toList_some, List.foldlM_cons,
        field_session hp (by decide), sessionField, connection_read (hs.connection c hconn)]
      rfl
  have hhead : [('v',u8Text s.version),('o',join [' '] (Origin.words s.origin)),
      ('s',s.sessionName)].foldlM (field std) {} = .ok {
        version := some s.version
        origin := some s.origin
        sessionName := some s.sessionName } := by
    simp [field, sessionField, origin_read hs.origin, ok_bind, Except.map]
  have htiming (p : Parser) (hp : p.currentMedia = none) :
      [('t',join [' '] (Timing.words s.timing))].foldlM (field std) p =
        .ok { p with timing := some s.timing } := by
    rw [List.foldlM_cons, field_session hp (by decide), sessionField, timing_read]
    rfl
  rw [writeSession, List.foldlM_append, List.foldlM_append, List.foldlM_append, List.foldlM_append,
    hhead, ok_bind, hinfo _ rfl rfl, ok_bind, hconnection _ rfl rfl, ok_bind, htiming _ rfl,
    ok_bind, session_attributes_again rfl hs.attributes]
  rfl

def rereadSession (s : SessionDescription) : SessionDescription :=
  { s with media := s.media.map reread }

theorem bandwidth_clean {k : Text} (hk : '\n' ∉ k) (n : UInt32) :
    Clean (k++ ':'::u32Text n) := by
  have hnumber := number_clean n.toNat
  refine ⟨?_,fun c hc => hnumber.solid c ?_⟩
  · simp only [List.mem_append, List.mem_cons, not_or]
    exact ⟨hk,by decide,hnumber.line⟩
  · rw [List.getLast?_append_of_ne_nil _ (List.cons_ne_nil _ _)] at hc
    cases htext : u32Text n with
    | nil => exact absurd htext (natText_ne_nil _)
    | cons d ds =>
      rw [htext] at hc
      rw [← u32Text, htext]
      simpa using hc

theorem connectionLine_clean {connection : Option Connection}
    (h : ∀ c ∈ connection, ∀ w ∈ Connection.words c, Word w) :
    ∀ r ∈ connectionLine connection, r.1.isAlpha = true ∧ Clean r.2 := by
  cases connection with
  | none => nofun
  | some c =>
    intro r hr
    rw [List.mem_singleton.mp hr]
    exact ⟨rfl,word_clean (h c rfl)⟩

theorem attributeLines_clean {attributes : List Attribute}
    (h : ∀ a ∈ attributes, AttributeFits a) :
    ∀ r ∈ attributeLines attributes, r.1.isAlpha = true ∧ Clean r.2 := by
  intro r hr
  obtain ⟨a,ha,rfl⟩ := List.mem_map.mp hr
  exact ⟨rfl,(h a ha).clean⟩

theorem writeMedia_clean {m : MediaDescription} (hm : MediaFits m) :
    ∀ r ∈ writeMedia m, r.1.isAlpha = true ∧ Clean r.2 := by
  intro r hr
  simp only [writeMedia, List.mem_cons, List.mem_append] at hr
  rcases hr with rfl | (hr | hr) | hr
  · exact ⟨rfl,word_clean (media_words hm)⟩
  · exact connectionLine_clean hm.connection r hr
  · obtain ⟨e,he,rfl⟩ := List.mem_map.mp hr
    have hmem : e ∈ m.bandwidth.entries := (List.mergeSort_perm _ _).mem_iff.mp he
    exact ⟨rfl,bandwidth_clean (hm.bandwidth e.1 (List.mem_keys_of_mem hmem)).1 e.2⟩
  · exact attributeLines_clean hm.attributes r hr

theorem printed_clean (hs : SessionFits s) :
    ∀ r ∈ printed s, r.1.isAlpha = true ∧ Clean r.2 := by
  intro r hr
  simp only [printed, writeSession, List.mem_append, List.mem_cons, List.not_mem_nil, or_false,
    List.mem_flatMap, Option.mem_toList, Option.map_eq_some_iff] at hr
  rcases hr with (((((rfl | rfl | rfl) | ⟨v,hv,rfl⟩) | hr) | rfl) | hr) | ⟨m,hm,hr⟩
  · exact ⟨rfl,number_clean _⟩
  · exact ⟨rfl,word_clean hs.origin⟩
  · exact ⟨rfl,hs.sessionName⟩
  · exact ⟨rfl,hs.sessionInfo v hv⟩
  · exact connectionLine_clean hs.connection r hr
  · exact ⟨rfl,word_clean (timing_words _)⟩
  · exact attributeLines_clean hs.attributes r hr
  · exact writeMedia_clean (hs.media m hm) r hr

theorem parse_fmt (hstd : LowersAscii std) (hs : SessionFits s) :
    parse std (fmt s) = .ok (rereadSession s) := by
  obtain ⟨done,open',hfold,hall⟩ := media_again hstd hs.media {
      version := some s.version
      origin := some s.origin
      sessionName := some s.sessionName
      sessionInfo := s.sessionInfo
      connection := s.connection
      timing := some s.timing
      attributes := s.attributes }
  rw [parse, fmt, records_text (printed_clean hs), printed, List.foldlM_append,
    writeSession_read hs]
  rw [ok_bind, hfold, ok_bind]
  simp only [finish, Parser.allMedia, hall]
  rfl

end Session

section Accepted
variable {std : StdText}
variable {p p' : Parser}

structure ParserFits (p : Parser) : Prop where
  origin : ∀ o ∈ p.origin, ∀ w ∈ Origin.words o, Word w
  sessionName : ∀ v ∈ p.sessionName, Clean v
  sessionInfo : ∀ v ∈ p.sessionInfo, Clean v
  connection : ∀ c ∈ p.connection, ∀ w ∈ Connection.words c, Word w
  attributes : ∀ a ∈ p.attributes, AttributeFits a
  media : ∀ m ∈ p.allMedia, MediaFits m

theorem sessionField_fits {c : Char} {v : Text} (hp : ParserFits p)
    (hv : Clean v) (h : sessionField p c v = .ok p') : ParserFits p' := by
  unfold sessionField at h
  split_ifs at h
  · split at h
    · cases h
      exact { hp with }
    · cases h
  · obtain ⟨o,hparse,rfl⟩ := map_ok h
    exact { hp with origin := by rintro _ ⟨⟩; exact origin_words hparse }
  · cases h
    exact { hp with sessionName := by rintro _ ⟨⟩; exact hv }
  · cases h
    exact { hp with sessionInfo := by rintro _ ⟨⟩; exact hv }
  · obtain ⟨connection,hparse,rfl⟩ := map_ok h
    exact { hp with connection := by rintro _ ⟨⟩; exact connection_words hparse }
  · obtain ⟨t,-,rfl⟩ := map_ok h
    exact { hp with }
  · cases h
    refine { hp with attributes := fun a ha => ?_ }
    rcases List.mem_append.mp ha with ha | ha
    · exact hp.attributes a ha
    · rw [List.mem_singleton.mp ha]
      exact attribute_fits hv
  · cases h
    exact hp

/-- All that one line can do to the media descriptions: open one, change
the open one, or leave them. -/
theorem field_cases {r : Char × Text} (h : field std p r = .ok p') :
    (r.1 = 'm' ∧ ∃ m, MediaDescription.parse std r.2 = .ok m ∧
      p' = { p with media := p.allMedia, currentMedia := some m }) ∨
    (r.1 ≠ 'm' ∧ ∃ m m', p.currentMedia = some m ∧ mediaField m r.1 r.2 = .ok m' ∧
      p' = { p with currentMedia := some m' }) ∨
    (r.1 ≠ 'm' ∧ p.currentMedia = none ∧ sessionField p r.1 r.2 = .ok p') := by
  unfold field at h
  split_ifs at h with hm
  · obtain ⟨m,hparse,rfl⟩ := map_ok h
    exact .inl ⟨hm,m,hparse,rfl⟩
  · cases hcurrent : p.currentMedia with
    | none =>
      rw [hcurrent] at h
      exact .inr (.inr ⟨hm,rfl,h⟩)
    | some m =>
      rw [hcurrent] at h
      obtain ⟨m',hfield,rfl⟩ := map_ok h
      exact .inr (.inl ⟨hm,m,m',rfl,hfield,rfl⟩)

theorem field_fits {r : Char × Text} (hp : ParserFits p) (hr : Clean r.2)
    (h : field std p r = .ok p') : ParserFits p' := by
  rcases field_cases h with ⟨-,m,hparse,rfl⟩ | ⟨-,m,m',hcurrent,hfield,rfl⟩ | ⟨-,-,hfield⟩
  · refine { hp with media := fun m' hm' => ?_ }
    rcases List.mem_append.mp hm' with hm' | hm'
    · exact hp.media m' hm'
    · rw [List.mem_singleton.mp hm']
      exact media_fits hparse
  · refine { hp with media := fun m₁ hm₁ => ?_ }
    rcases List.mem_append.mp hm₁ with hm₁ | hm₁
    · exact hp.media m₁ (List.mem_append_left _ hm₁)
    · rw [List.mem_singleton.mp hm₁]
      refine mediaField_fits (hp.media m (List.mem_append_right _ ?_)) hr hfield
      rw [hcurrent]
      exact List.mem_singleton_self m
  · exact sessionField_fits hp hr hfield

theorem fold_fits {rs : List (Char × Text)} (hrs : ∀ r ∈ rs, Clean r.2)
    (hp : ParserFits p) (h : rs.foldlM (field std) p = .ok p') : ParserFits p' := by
  induction rs generalizing p with
  | nil =>
    cases h
    exact hp
  | cons r rs ih =>
    rw [List.foldlM_cons] at h
    obtain ⟨p₁,hstep,hrest⟩ := bind_ok h
    exact ih (fun r' hr' => hrs r' (List.mem_cons_of_mem r hr'))
      (field_fits hp (hrs r List.mem_cons_self) hstep) hrest

theorem finish_ok {p : Parser} {s : SessionDescription} (h : finish p = .ok s) :
    some s.origin = p.origin ∧ s.sessionName = p.sessionName.getD "-" ∧
      s.sessionInfo = p.sessionInfo ∧ s.connection = p.connection ∧
      s.attributes = p.attributes ∧ s.media = p.allMedia := by
  unfold finish at h
  cases hversion : p.version with
  | none => rw [hversion] at h; cases h
  | some version =>
    cases horigin : p.origin with
    | none => rw [hversion, horigin] at h; cases h
    | some origin =>
      cases htiming : p.timing with
      | none => rw [hversion, horigin, htiming] at h; cases h
      | some timing =>
        rw [hversion, horigin, htiming] at h
        cases h
        exact ⟨rfl,rfl,rfl,rfl,rfl,rfl⟩

theorem parse_fits {sdp : Text} {s : SessionDescription} (h : parse std sdp = .ok s) :
    SessionFits s := by
  obtain ⟨p,hfold,hfinish⟩ := bind_ok h
  have hstart : ParserFits {} := by
    constructor <;> intro x hx <;> cases hx
  have hp : ParserFits p := fold_fits (fun r hr => records_clean hr) hstart hfold
  obtain ⟨horigin,hname,hinfo,hconnection,hattributes,hmedia⟩ := finish_ok hfinish
  refine ⟨hp.origin s.origin horigin.symm,?_,by rw [hinfo]; exact hp.sessionInfo,
    by rw [hconnection]; exact hp.connection,by rw [hattributes]; exact hp.attributes,
    by rw [hmedia]; exact hp.media⟩
  rw [hname]
  cases hsome : p.sessionName with
  | none =>
    refine ⟨by decide,fun c hc => ?_⟩
    have hlast : '-' = c := Option.some.inj hc
    rw [← hlast]
    rfl
  | some v => exact hp.sessionName v hsome

end Accepted

section Ports
variable {std : StdText}

def SinglePort (r : Char × Text) : Prop :=
  r.1 = 'm' → ∀ w ∈ (splitWhitespace r.2)[1]?, '/' ∉ w

instance (r : Char × Text) : Decidable (SinglePort r) := inferInstanceAs (Decidable (_ → _))

theorem parsePorts_single {w : Text} {ports : UInt16 × Option UInt16}
    (h : parsePorts w = some ports) : ports.2 = none ↔ '/' ∉ w := by
  unfold parsePorts at h
  cases hsplit : splitFirst '/' w with
  | none =>
    rw [hsplit] at h
    obtain ⟨port,-,rfl⟩ := Option.map_eq_some_iff.mp h
    exact iff_of_true rfl (splitFirst_not_mem hsplit)
  | some cut =>
    rw [hsplit] at h
    simp only [Option.bind_eq_bind, Option.bind_eq_some_iff] at h
    obtain ⟨port,-,numPorts,-,h⟩ := h
    cases h
    refine iff_of_false nofun ?_
    rw [(splitFirst_eq (a := cut.1) (b := cut.2) hsplit).1]
    simp

theorem media_single {v : Text} {m : MediaDescription}
    (h : MediaDescription.parse std v = .ok m) : m.numPorts = none ↔ SinglePort ('m',v) := by
  unfold MediaDescription.parse at h
  split at h
  · rename_i mediaType ports protocol format formats hsplit
    have hsecond : SinglePort ('m',v) ↔ '/' ∉ ports := by
      simp [SinglePort, hsplit]
    rw [hsecond]
    split at h
    · rename_i port numPorts hports
      cases h
      exact parsePorts_single hports
    · cases h
  · cases h

theorem mediaField_numPorts {m m' : MediaDescription} {c : Char} {v : Text}
    (h : mediaField m c v = .ok m') : m'.numPorts = m.numPorts := by
  unfold mediaField at h
  split_ifs at h
  · obtain ⟨connection,-,rfl⟩ := map_ok h
    rfl
  · cases h
    unfold addBandwidth
    split <;> rfl
  · cases h
    rfl
  · cases h
    rfl

theorem sessionField_allMedia {p p' : Parser} {c : Char} {v : Text}
    (h : sessionField p c v = .ok p') : p'.allMedia = p.allMedia := by
  unfold sessionField at h
  split_ifs at h
  · split at h
    · cases h
      rfl
    · cases h
  · obtain ⟨o,-,rfl⟩ := map_ok h
    rfl
  · cases h
    rfl
  · cases h
    rfl
  · obtain ⟨connection,-,rfl⟩ := map_ok h
    rfl
  · obtain ⟨t,-,rfl⟩ := map_ok h
    rfl
  · cases h
    rfl
  · cases h
    rfl

def AllSingle (p : Parser) : Prop := ∀ m ∈ p.allMedia, m.numPorts = none

theorem field_single {p p' : Parser} {r : Char × Text} (h : field std p r = .ok p') :
    AllSingle p' ↔ AllSingle p ∧ SinglePort r := by
  rcases field_cases h with ⟨hm,m,hparse,rfl⟩ | ⟨hm,m,m',hcurrent,hfield,rfl⟩ |
    ⟨hm,-,hfield⟩
  · have hsingle : SinglePort r ↔ SinglePort ('m',r.2) := by rw [← hm]
    rw [hsingle, ← media_single hparse]
    simp [AllSingle, Parser.allMedia, or_imp, forall_and, and_assoc]
  · have hnone : SinglePort r := fun hm' => absurd hm' hm
    simp [AllSingle, Parser.allMedia, hcurrent, mediaField_numPorts hfield, hnone, or_imp,
      forall_and]
  · have hnone : SinglePort r := fun hm' => absurd hm' hm
    simp [AllSingle, sessionField_allMedia hfield, hnone]

theorem fold_single {rs : List (Char × Text)} {p p' : Parser}
    (h : rs.foldlM (field std) p = .ok p') :
    AllSingle p' ↔ AllSingle p ∧ ∀ r ∈ rs, SinglePort r := by
  induction rs generalizing p with
  | nil =>
    cases h
    simp
  | cons r rs ih =>
    rw [List.foldlM_cons] at h
    obtain ⟨p₁,hstep,hrest⟩ := bind_ok h
    rw [ih hrest, field_single hstep, List.forall_mem_cons, and_assoc]

theorem parse_single {sdp : Text} {s : SessionDescription} (h : parse std sdp = .ok s) :
    (∀ m ∈ s.media, m.numPorts = none) ↔ ∀ r ∈ records sdp, SinglePort r := by
  obtain ⟨p,hfold,hfinish⟩ := bind_ok h
  have hrun := fold_single hfold
  rw [(finish_ok hfinish).2.2.2.2.2]
  exact hrun.trans (and_iff_right fun m hm => by cases hm)

end Ports

/-- `==` of two media descriptions: hash maps are equal if they hold the
same entries. -/
structure SameMedia (m m' : MediaDescription) : Prop where
  fields : { m with bandwidth := ∅ } = { m' with bandwidth := ∅ }
  bandwidth : ∀ k, m.bandwidth.lookup k = m'.bandwidth.lookup k

/-- `==` of two session descriptions. -/
structure Same (s s' : SessionDescription) : Prop where
  fields : { s with media := [] } = { s' with media := [] }
  media : List.Forall₂ SameMedia s.media s'.media

theorem reread_same_iff (m : MediaDescription) : SameMedia (reread m) m ↔ m.numPorts = none := by
  constructor
  · intro h
    exact (congrArg MediaDescription.numPorts h.fields).symm
  · intro h
    refine ⟨?_,fun k => lookup_insertAll_perm (List.mergeSort_perm _ _) k⟩
    simp only [reread, h]

theorem rereadSession_same_iff (s : SessionDescription) :
    Same (rereadSession s) s ↔ ∀ m ∈ s.media, m.numPorts = none := by
  have hmedia : List.Forall₂ SameMedia (rereadSession s).media s.media ↔
      ∀ m ∈ s.media, m.numPorts = none := by
    rw [rereadSession, List.forall₂_map_left_iff, List.forall₂_same]
    exact forall₂_congr fun m _ => reread_same_iff m
  exact ⟨fun h => hmedia.mp h.media,fun h => ⟨rfl,hmedia.mpr h⟩⟩

/-- A description parsed from a text survives printing and parsing exactly
when no media line of the text gives a number of ports. -/
theorem printed_parses_back_iff (std : StdText) (hstd : LowersAscii std) (sdp : Text)
    (s : SessionDescription) (h : parse std sdp = .ok s) :
    (∃ s', parse std (fmt s) = .ok s' ∧ Same s' s) ↔ ∀ r ∈ records sdp, SinglePort r := by
  rw [parse_fmt hstd (parse_fits h), ← parse_single h, ← rereadSession_same_iff]
  constructor
  · rintro ⟨s',heq,hsame⟩
    rwa [Except.ok.inj heq]
  · exact fun hsame => ⟨_,rfl,hsame⟩

def sampleText (media : String) : Text :=
  ("v=0\r\no=- 1 1 IN IP4 192.0.2.1\r\ns=-\r\nt=0 0\r\n"++media).toList

def samplePorts (numPorts : Option UInt16) : SessionDescription :=
  { version := 0
    origin := ⟨"-","1","1","IN","IP4","192.0.2.1"⟩
    sessionName := "-"
    sessionInfo := none
    connection := none
    timing := ⟨0,0⟩
    media := [{
      mediaType := .audio
      port := 49170
      numPorts
      protocol := "RTP/AVP"
      formats := ["0"]
      connection := none
      bandwidth := ∅
      attributes := [] }]
    attributes := [] }

theorem single_port_parses_back :
    parse SdpAgreement.asciiText (sampleText "m=audio 49170 RTP/AVP 0\r\n") =
        .ok (samplePorts none) ∧
      ∃ s', parse SdpAgreement.asciiText (fmt (samplePorts none)) = .ok s' ∧
        Same s' (samplePorts none) := by
  have hparse : parse SdpAgreement.asciiText (sampleText "m=audio 49170 RTP/AVP 0\r\n") =
      .ok (samplePorts none) := by decide +kernel
  exact ⟨hparse,(printed_parses_back_iff SdpAgreement.asciiText (fun _ _ => rfl) _ _ hparse).mpr
    (by decide +kernel)⟩

/-- A pair of ports does not come back. -/
theorem port_pair_lost :
    parse SdpAgreement.asciiText (sampleText "m=audio 49170/2 RTP/AVP 0\r\n") =
        .ok (samplePorts (some 2)) ∧
      ¬ ∃ s', parse SdpAgreement.asciiText (fmt (samplePorts (some 2))) = .ok s' ∧
        Same s' (samplePorts (some 2)) := by
  have hparse : parse SdpAgreement.asciiText (sampleText "m=audio 49170/2 RTP/AVP 0\r\n") =
      .ok (samplePorts (some 2)) := by decide +kernel
  refine ⟨hparse,?_⟩
  rintro ⟨s',hagain,hsame⟩
  rw [parse_fmt (fun _ _ => rfl) (parse_fits hparse)] at hagain
  rw [← Except.ok.inj hagain, rereadSession_same_iff] at hsame
  cases hsame _ (List.mem_singleton_self _)

end RsipRtp.SdpRoundTrip
