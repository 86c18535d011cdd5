import RsipRtp.TextShape
import RsipRtp.Uri

/-!
# Writing a URI that was read

`display` does not give the text back that `parse` was given: parameters lose
their blanks and a header without a value gains its equals sign.
-/

namespace RsipRtp.UriText
open SipText TextShape Uri

section Gap

def Blank (gap : Text) : Prop := ∀ c ∈ gap, isWhitespace c = true

theorem trimEnd_gap (s : Text) : ∃ gap, s = trimEnd s++gap ∧ Blank gap := by
  refine ⟨(s.reverse.takeWhile isWhitespace).reverse,?_,fun c hc => ?_⟩
  · rw [trimEnd, List.rdropWhile, ← List.reverse_append, List.takeWhile_append_dropWhile,
      List.reverse_reverse]
  · exact List.mem_takeWhile_imp (List.mem_reverse.mp hc)

theorem trim_start {a : Char} {head rest : Text} {c : Char} (ha : isWhitespace a = false)
    (hc : isWhitespace c = false) : trim (a::(head++ c::rest)) = a::(head++ c::trimEnd rest) := by
  have hstart : trimStart (a::(head++ c::rest)) = a::(head++ c::rest) :=
    List.dropWhile_cons_of_neg (by rw [ha]; exact Bool.false_ne_true)
  rw [trim, hstart]
  obtain ⟨gap,hgap,hblank⟩ := trimEnd_gap rest
  have hend : (trimEnd rest).reverse.dropWhile isWhitespace = (trimEnd rest).reverse := by
    have := List.rdropWhile_idempotent isWhitespace rest
    rw [List.rdropWhile, List.reverse_eq_iff] at this
    exact this
  have hskip : gap.reverse.dropWhile isWhitespace = [] :=
    List.dropWhile_eq_nil_iff.mpr fun x hx => hblank x (List.mem_reverse.mp hx)
  nth_rewrite 1 [hgap]
  rw [trimEnd, List.rdropWhile, show a::(head++ c::(trimEnd rest++gap)) =
      (a::(head++[c]))++(trimEnd rest++gap) by simp, List.reverse_append, List.reverse_append,
    List.append_assoc, List.dropWhile_append, hskip, List.isEmpty_nil, if_pos rfl,
    List.dropWhile_append, hend]
  cases hrest : trimEnd rest with
  | nil => simp [hc]
  | cons x xs => simp

variable {c : Char} {s gap before after : Text}

theorem mem_of_mem_splitOnP {p : Char → Bool} {w : Text} (hw : w ∈ s.splitOnP p) (hc : c ∈ w) :
    c ∈ s := by
  induction s generalizing w with
  | nil =>
    rw [List.splitOnP_nil, List.mem_singleton] at hw
    subst hw
    cases hc
  | cons x xs ih =>
    rw [List.splitOnP_cons_eq_if_modifyHead] at hw
    split_ifs at hw
    · rcases List.mem_cons.mp hw with rfl | hw
      · cases hc
      · exact List.mem_cons_of_mem _ (ih hw hc)
    · cases hsplit : xs.splitOnP p with
      | nil => exact absurd hsplit (List.splitOnP_ne_nil p xs)
      | cons v vs =>
        rw [hsplit, List.modifyHead_cons, List.mem_cons] at hw
        rcases hw with rfl | hw
        · rcases List.mem_cons.mp hc with rfl | hc
          · exact List.mem_cons_self
          · exact List.mem_cons_of_mem _ (ih (hsplit ▸ List.mem_cons_self) hc)
        · exact List.mem_cons_of_mem _ (ih (hsplit ▸ List.mem_cons_of_mem v hw) hc)

end Gap

section Address

/-- The host and its port, where `parse` looks for them. -/
def hostPortOf (rest : Text) : Text :=
  let tail := ((splitFirst '@' rest).map Prod.snd).getD rest
  ((splitFirst ';' tail).map Prod.fst).getD tail

def Closed (hostPort : Text) : Prop := hostPort.head? = some '[' → ']' ∈ hostPort

variable {scheme : Scheme} {rest gap : Text}

/-- The cuts that `parse` makes in the address, in the order of the text. -/
theorem userHostPort_eq (htel : scheme ≠ .tel) :
    parseUserHostPort scheme (splitUserHostPort rest).1 =
      (parseHostPort (hostPortOf rest)).map (fun hp =>
        ((splitFirst '@' rest).map Prod.fst,hp.1,hp.2)) := by
  rw [parseUserHostPort, if_neg htel, splitUserHostPort, hostPortOf]
  cases hat : splitFirst '@' rest with
  | none =>
    have hfree := splitFirst_not_mem hat
    cases hsemi : splitFirst ';' rest with
    | none => simp [hsemi, hat]
    | some p =>
      obtain ⟨heq,-⟩ := splitFirst_eq hsemi
      have hnone : splitFirst '@' p.1 = none :=
        splitFirst_none fun hmem => hfree (heq ▸ List.mem_append_left _ hmem)
      simp [hsemi, hnone]
  | some q =>
    obtain ⟨heq,hfree⟩ := splitFirst_eq hat
    have hcut (t : Text) : splitFirst '@' (q.1++ '@'::t) = some (q.1,t) := splitFirst_append hfree
    cases hsemi : splitFirst ';' q.2 with
    | none => simp [hsemi, hat]
    | some p => simp [hsemi, hcut]

end Address

def pieceValue (piece : Text) : Text := ((splitFirst '=' piece).getD (piece,[])).2

theorem pushUriHeader_ok {hs hs' : List (Text × Text)} {piece : Text}
    (h : pushUriHeader hs piece = .ok hs') : hs' = hs ∨ hs.length < maxUriHeaders ∧
      hs' = hs++[(splitFirst '=' piece).getD (piece,[])] ∧
      utf8Len (pieceValue piece) ≤ maxUriHeaderValueLen := by
  rw [pushUriHeader] at h
  dsimp only at h
  split_ifs at h with hempty hmany hlong
  · exact .inl (Except.ok.inj h).symm
  · exact .inr ⟨not_le.mp hmany,(Except.ok.inj h).symm,not_lt.mp hlong⟩

/-- A header as it is kept: its name ends at the first equals sign, and
neither part holds the separator. -/
structure KeptHeader (h : Text × Text) : Prop where
  name : '&' ∉ h.1
  value : '&' ∉ h.2
  plain : '=' ∉ h.1
  short : utf8Len h.2 ≤ maxUriHeaderValueLen

theorem keptHeader {piece : Text} (hpiece : '&' ∉ piece)
    (hshort : utf8Len (pieceValue piece) ≤ maxUriHeaderValueLen) :
    KeptHeader ((splitFirst '=' piece).getD (piece,[])) := by
  rw [pieceValue] at hshort
  cases hs : splitFirst '=' piece with
  | none => exact ⟨hpiece,List.not_mem_nil,splitFirst_not_mem hs,Nat.zero_le _⟩
  | some p =>
    obtain ⟨heq,hplain⟩ := splitFirst_eq hs
    rw [hs] at hshort
    rw [heq] at hpiece
    exact ⟨fun h => hpiece (List.mem_append_left _ h),
      fun h => hpiece (List.mem_append_right _ (List.mem_cons_of_mem _ h)),hplain,hshort⟩

theorem foldlM_pushUriHeader_kept {pieces : List Text} {hs hs' : List (Text × Text)}
    (hpieces : ∀ p ∈ pieces, '&' ∉ p) (hlen : hs.length ≤ maxUriHeaders)
    (hkept : ∀ h ∈ hs, KeptHeader h) (h : pieces.foldlM pushUriHeader hs = .ok hs') :
    hs'.length ≤ maxUriHeaders ∧ ∀ h ∈ hs', KeptHeader h := by
  induction pieces generalizing hs with
  | nil =>
    cases h
    exact ⟨hlen,hkept⟩
  | cons p pieces ih =>
    rw [List.foldlM_cons] at h
    obtain ⟨hs1,h1,hrun⟩ := bind_ok h
    have hrest := fun q hq => hpieces q (List.mem_cons_of_mem p hq)
    rcases pushUriHeader_ok h1 with rfl | ⟨hroom,rfl,hshort⟩
    · exact ih hrest hlen hkept hrun
    · refine ih hrest (by rw [List.length_append]; exact hroom) (fun x hx => ?_) hrun
      rcases List.mem_append.mp hx with hx | hx
      · exact hkept x hx
      · rw [List.mem_singleton] at hx
        exact hx ▸ keptHeader (hpieces p List.mem_cons_self) hshort

def headerText (h : Text × Text) : Text := h.1++ '='::h.2

def address (u : SipUri) : Text :=
  (u.user.map (·++['@'])).getD []++u.host++(u.port.map (fun p => ':'::natText p)).getD []++
    u.params.flatMap displayParam

/-- What `parse` ensures of a URI, as far as reading it again depends on it. -/
structure Kept (u : SipUri) : Prop where
  question : '?' ∉ address u
  user : u.scheme ≠ .tel → ∀ x ∈ u.user, '@' ∉ x
  plain : u.scheme ≠ .tel → u.user = none → '@' ∉ address u
  host : u.scheme ≠ .tel → ';' ∉ u.host
  closed : u.scheme ≠ .tel → Closed u.host
  count : u.headers.length ≤ maxUriHeaders
  headers : ∀ h ∈ u.headers, KeptHeader h

theorem mem_portText {port : Option ℕ} {c : Char}
    (h : c ∈ (port.map (fun p => ':'::natText p)).getD []) : c = ':' ∨ isAsciiDigit c = true := by
  cases port with
  | none => cases h
  | some p =>
    rcases List.mem_cons.mp h with rfl | h
    · exact .inl rfl
    · exact .inr (natText_forall h)

theorem mem_params {params : Option Text} {c : Char}
    (h : c ∈ (parseUriParams params).flatMap displayParam) :
    c = ';' ∨ c = '=' ∨ ∃ p ∈ params, c ∈ p := by
  cases params with
  | none => cases h
  | some p =>
    obtain ⟨kv,hkv,hc⟩ := List.mem_flatMap.mp h
    obtain ⟨piece,hpiece,hparse⟩ := List.mem_filterMap.mp hkv
    have hin : ∀ x ∈ trim piece, ∃ q ∈ some p, x ∈ q :=
      fun x hx => ⟨p,rfl,mem_of_mem_splitOnP hpiece (mem_of_mem_trim hx)⟩
    rw [parseUriParam] at hparse
    split_ifs at hparse
    split at hparse
    · rename_i k v hcut
      cases hparse
      obtain ⟨heq,-⟩ := splitFirst_eq hcut
      simp only [displayParam, List.mem_cons, List.mem_append] at hc
      rcases hc with rfl | hc | rfl | hc
      · exact .inl rfl
      · exact .inr (.inr (hin c (by rw [heq]; simp [hc])))
      · exact .inr (.inl rfl)
      · exact .inr (.inr (hin c (by rw [heq]; simp [hc])))
    · cases hparse
      rcases List.mem_cons.mp hc with rfl | hc
      · exact .inl rfl
      · exact .inr (.inr (hin c hc))

theorem parseUriHeaders_kept {rest rest' : Text} {hs : List (Text × Text)}
    (h : parseUriHeaders rest = .ok (rest',hs)) : '?' ∉ rest' ∧ hs.length ≤ maxUriHeaders ∧
      ∀ x ∈ hs, KeptHeader x := by
  rw [parseUriHeaders] at h
  split at h
  · rename_i hnone
    cases h
    exact ⟨splitFirst_not_mem hnone,Nat.zero_le _,fun x hx => absurd hx List.not_mem_nil⟩
  · rename_i uriPart headerPart hcut
    obtain ⟨hs',hfold,heq⟩ := map_ok h
    cases heq
    have hpieces : ∀ p ∈ headerPart.splitOn '&', '&' ∉ p := fun p hp hmem => by
      simpa using splitOnP_forall hp '&' hmem
    exact ⟨(splitFirst_eq hcut).2,foldlM_pushUriHeader_kept hpieces (Nat.zero_le _)
      (fun x hx => absurd hx List.not_mem_nil) hfold⟩

theorem parseHostPort_host {hostPort host : Text} {port : Option ℕ}
    (h : parseHostPort hostPort = .ok (host,port)) : host ⊆ hostPort ∧ Closed host := by
  rw [parseHostPort] at h
  split_ifs at h with hopen
  · split at h
    · cases h
    · rename_i v6 after hcut
      cases h
      obtain ⟨rfl,-⟩ := splitFirst_eq hcut
      refine ⟨fun c hc => ?_,fun _ => by simp⟩
      simp only [List.mem_append, List.mem_cons, List.not_mem_nil, or_false] at hc ⊢
      tauto
  · split at h
    · cases h
      exact ⟨fun c hc => hc,fun hhead => absurd hhead hopen⟩
    · rename_i before after hcut
      obtain ⟨⟨a,b⟩,hfirst,heq⟩ := Option.map_eq_some_iff.mp hcut
      cases heq
      have heq := congrArg List.reverse (splitFirst_eq hfirst).1
      rw [List.reverse_reverse, List.reverse_append, List.reverse_cons, List.append_assoc] at heq
      split_ifs at h
      · cases h
        subst heq
        refine ⟨List.subset_append_left _ _,fun hhead => absurd ?_ hopen⟩
        rw [List.head?_append, hhead]
        rfl
      · cases h
        exact ⟨fun c hc => hc,fun hhead => absurd hhead hopen⟩

theorem splitUserHostPort_subset (rest : Text) : (splitUserHostPort rest).1 ⊆ rest ∧
    ∀ p ∈ (splitUserHostPort rest).2, p ⊆ rest := by
  rw [splitUserHostPort]
  cases hat : splitFirst '@' rest with
  | none =>
    cases hsemi : splitFirst ';' rest with
    | none => simp [hsemi]
    | some p =>
      have heq := (splitFirst_eq hsemi).1
      simp only [hsemi, List.nil_append, Option.mem_def, Option.some.injEq, forall_eq']
      rw [heq]
      exact ⟨List.subset_append_left _ _,fun c hc => by simp [hc]⟩
  | some q =>
    have hrest := (splitFirst_eq hat).1
    cases hsemi : splitFirst ';' q.2 with
    | none => simp [hsemi]
    | some p =>
      have htail := (splitFirst_eq hsemi).1
      simp only [hsemi, Option.mem_def, Option.some.injEq, forall_eq']
      rw [hrest, htail]
      refine ⟨fun c hc => ?_,fun c hc => by simp [hc]⟩
      simp only [List.mem_append, List.mem_cons, List.not_mem_nil, or_false] at hc ⊢
      tauto

theorem hostPortOf_subset (rest : Text) : hostPortOf rest ⊆ rest ∧ ';' ∉ hostPortOf rest := by
  have htail : ((splitFirst '@' rest).map Prod.snd).getD rest ⊆ rest := by
    cases hat : splitFirst '@' rest with
    | none => exact fun c hc => hc
    | some q =>
      have heq := (splitFirst_eq hat).1
      rw [heq]
      exact fun c hc => List.mem_append_right _ (List.mem_cons_of_mem _ hc)
  rw [hostPortOf]
  generalize ((splitFirst '@' rest).map Prod.snd).getD rest = tail at htail
  cases hsemi : splitFirst ';' tail with
  | none => exact ⟨htail,splitFirst_not_mem hsemi⟩
  | some p =>
    obtain ⟨heq,hfree⟩ := splitFirst_eq hsemi
    exact ⟨fun c hc => htail (heq ▸ List.mem_append_left _ hc),hfree⟩

/-- The characters of the address, but for those that `display` adds, come
from the text that was read. -/
theorem mem_address {u : SipUri} {rest : Text} {c : Char}
    (hhost : u.host ⊆ rest) (hparams : u.params = parseUriParams (splitUserHostPort rest).2)
    (huser : ∀ x ∈ u.user, x++['@'] ⊆ rest) (hc : c ∈ address u) :
    c ∈ rest ∨ c = ':' ∨ isAsciiDigit c = true ∨ c = ';' ∨ c = '=' := by
  simp only [address, List.mem_append] at hc
  rcases hc with ((hc | hc) | hc) | hc
  · cases hu : u.user with
    | none => rw [hu] at hc; cases hc
    | some x =>
      rw [hu] at hc
      exact .inl (huser x hu hc)
  · exact .inl (hhost hc)
  · rcases mem_portText hc with hc | hc
    · exact .inr (.inl hc)
    · exact .inr (.inr (.inl hc))
  · rw [hparams] at hc
    rcases mem_params hc with hc | hc | ⟨p,hp,hc⟩
    · exact .inr (.inr (.inr (.inl hc)))
    · exact .inr (.inr (.inr (.inr hc)))
    · exact .inl ((splitUserHostPort_subset rest).2 p hp hc)

theorem parse_kept {s : Text} {u : SipUri} (h : parse s = .ok u) : Kept u := by
  obtain ⟨⟨scheme,text⟩,-,h⟩ := bind_ok h
  obtain ⟨⟨rest,headers⟩,hheaders,h⟩ := bind_ok h
  obtain ⟨⟨user,host,port⟩,haddr,h⟩ := bind_ok h
  cases h
  change parseUserHostPort scheme (splitUserHostPort rest).1 = _ at haddr
  obtain ⟨hquestion,hcount,hkept⟩ := parseUriHeaders_kept hheaders
  by_cases htel : scheme = .tel
  · rw [parseUserHostPort, if_pos htel] at haddr
    cases haddr
    refine ⟨fun hc => ?_,fun h => absurd htel h,fun h => absurd htel h,fun h => absurd htel h,
      fun h => absurd htel h,hcount,hkept⟩
    rcases mem_address (splitUserHostPort_subset rest).1 rfl
      (fun x hx => absurd hx (Option.not_mem_none x)) hc with hc | hc | hc | hc | hc
    · exact hquestion hc
    all_goals exact absurd hc (by decide)
  · rw [userHostPort_eq htel] at haddr
    obtain ⟨⟨host',port'⟩,hhost,heq⟩ := map_ok haddr
    cases heq
    obtain ⟨hsub,hclosed⟩ := parseHostPort_host hhost
    obtain ⟨hin,hsemi⟩ := hostPortOf_subset rest
    have huser : ∀ x ∈ (splitFirst '@' rest).map Prod.fst, x++['@'] ⊆ rest ∧ '@' ∉ x := by
      rintro x hx
      obtain ⟨q,hq,rfl⟩ := Option.map_eq_some_iff.mp hx
      obtain ⟨heq,hfree⟩ := splitFirst_eq hq
      refine ⟨fun c hc => ?_,hfree⟩
      rw [heq]
      simp only [List.mem_append, List.mem_cons, List.not_mem_nil, or_false] at hc ⊢
      tauto
    have hmem {c : Char} := @mem_address ⟨scheme,(splitFirst '@' rest).map Prod.fst,host',port',
      parseUriParams (splitUserHostPort rest).2,headers⟩ rest c
      (fun c hc => hin (hsub hc)) rfl fun x hx => (huser x hx).1
    refine ⟨fun hc => ?_,fun _ x hx => (huser x hx).2,fun _ hnone hc => ?_,
      fun _ hc => hsemi (hsub hc),fun _ => hclosed,hcount,hkept⟩
    · rcases hmem hc with hc | hc | hc | hc | hc
      · exact hquestion hc
      all_goals exact absurd hc (by decide)
    · rcases hmem hc with hc | hc | hc | hc | hc
      · exact splitFirst_not_mem (Option.map_eq_none_iff.mp hnone) hc
      all_goals exact absurd hc (by decide)

def headersText (u : SipUri) : Text :=
  if u.headers.isEmpty then [] else '?'::join ['&'] (u.headers.map headerText)

theorem display_eq (u : SipUri) :
    display u = u.scheme.asStr++ ':'::(address u++headersText u) := by
  simp only [display, address, headersText, List.append_assoc]
  rfl

theorem parseScheme_display (scheme : Scheme) (rest : Text) :
    parseScheme (trim (scheme.asStr++ ':'::rest)) = .ok (scheme,trimEnd rest) := by
  have htrim (a : Char) (head : Text) (ha : isWhitespace a = false) :
      trim (a::head++ ':'::rest) = a::head++ ':'::trimEnd rest :=
    trim_start ha (by decide)
  have hcut (head : Text) (hfree : ':' ∉ head) :
      splitFirst ':' (head++ ':'::trimEnd rest) = some (head,trimEnd rest) :=
        splitFirst_append hfree
  cases scheme with
  | sip =>
    rw [parseScheme, Scheme.asStr, show "sip" = 's'::"ip" from rfl,
      htrim _ _ (by decide), hcut _ (by decide)]
    rfl
  | sips =>
    rw [parseScheme, Scheme.asStr, show "sips" = 's'::"ips" from rfl,
      htrim _ _ (by decide), hcut _ (by decide)]
    rfl
  | tel =>
    rw [parseScheme, Scheme.asStr, show "tel" = 't'::"el" from rfl,
      htrim _ _ (by decide), hcut _ (by decide)]
    rfl

end RsipRtp.UriText
