import RsipRtp.ParamText
import RsipRtp.UriText

/-!
# Which URIs come back

A URI that was read is written and read again, part by part.
-/

namespace RsipRtp.UriStable
open SipText TextShape Uri UriText
open ParamText (trimEnd_append)

variable {p : Text × Option Text}

theorem trimEnd_length_lt {s : Text} {c : Char} (hc : c ∈ s.getLast?)
    (hblank : isWhitespace c = true) :
    (trimEnd s).length < s.length := by
  have hne : trimEnd s ≠ s := fun h => by
    rw [(trimEnd_eq_iff s).mp h c hc] at hblank
    cases hblank
  exact lt_of_le_of_ne (List.rdropWhile_prefix _ _).length_le fun hlen =>
    hne ((List.rdropWhile_prefix _ _).eq_of_length hlen)

theorem trim_getLast {s : Text} (h : trim s = s) : ∀ c ∈ s.getLast?, isWhitespace c = false := by
  refine (trimEnd_eq_iff s).mp ?_
  nth_rewrite 1 [← h]
  rw [trim, trimEnd, trimEnd, List.rdropWhile_idempotent]
  exact h

theorem join_concat (sep : Text) (ws : List Text) : ∃ front, ∀ w, join sep (ws++[w]) =
    front++w := by
  induction ws with
  | nil => exact ⟨[],fun w => by simp [join]⟩
  | cons v ws ih =>
    obtain ⟨front,h⟩ := ih
    refine ⟨v++(sep++front),fun w => ?_⟩
    cases ws with
    | nil =>
      have hw := h w
      rw [List.nil_append] at hw
      rw [List.cons_append, List.nil_append, join_cons, hw]
      simp only [List.append_assoc]
    | cons u ws =>
      rw [List.cons_append, List.cons_append, join_cons, ← List.cons_append, h w]
      simp only [List.append_assoc]

theorem pushUriHeader_text {hs : List (Text × Text)} {x : Text × Text} (hx : KeptHeader x)
    (hlen : hs.length < maxUriHeaders) : pushUriHeader hs (headerText x) = .ok (hs++[x]) := by
  have hne : (headerText x).isEmpty = false := by simp [headerText]
  have hsplit : splitFirst '=' (headerText x) = some (x.1,x.2) := splitFirst_append hx.plain
  rw [pushUriHeader, hne, if_neg Bool.false_ne_true, if_neg (not_le.mpr hlen), hsplit]
  exact if_neg (not_lt.mpr hx.short)

theorem foldlM_headerText {hs acc : List (Text × Text)} (hkept : ∀ x ∈ hs, KeptHeader x)
    (hlen : acc.length+hs.length ≤ maxUriHeaders) :
    (hs.map headerText).foldlM pushUriHeader acc = .ok (acc++hs) := by
  induction hs generalizing acc with
  | nil => rw [List.append_nil]; rfl
  | cons x hs ih =>
    rw [List.length_cons] at hlen
    rw [List.map_cons, List.foldlM_cons,
      pushUriHeader_text (hkept x List.mem_cons_self) (by omega : acc.length < maxUriHeaders)]
    have hrest := @ih (acc++[x]) (fun y hy => hkept y (List.mem_cons_of_mem x hy))
      (by rw [List.length_append, List.length_singleton]; omega)
    rw [List.append_assoc] at hrest
    exact hrest

theorem splitOn_headers {hs : List (Text × Text)} (hne : hs ≠ []) (hkept : ∀ x ∈ hs, KeptHeader x) :
    (join ['&'] (hs.map headerText)).splitOn '&' = hs.map headerText := by
  refine List.splitOn_intercalate '&' (fun w hw => ?_) (by simpa using hne)
  obtain ⟨x,hx,rfl⟩ := List.mem_map.mp hw
  simp only [headerText, List.mem_append, List.mem_cons, not_or]
  exact ⟨(hkept x hx).name,by decide,(hkept x hx).value⟩

theorem parseUriHeaders_text {u : SipUri} (hquestion : '?' ∉ address u)
    (hcount : u.headers.length ≤ maxUriHeaders) (hkept : ∀ x ∈ u.headers, KeptHeader x) :
    parseUriHeaders (address u++headersText u) = .ok (address u,u.headers) := by
  by_cases hempty : u.headers = []
  · rw [headersText, hempty, List.isEmpty_nil, if_pos rfl, List.append_nil, parseUriHeaders,
      splitFirst_none hquestion]
  · rw [headersText, if_neg (by simpa using hempty), parseUriHeaders, splitFirst_append hquestion]
    dsimp only
    rw [splitOn_headers hempty hkept, foldlM_headerText hkept (by simpa using hcount)]
    rfl

def paramText : Text × Option Text → Text
  | (k,some v) => k++ '='::v
  | (k,none) => k

theorem displayParam_eq (p : Text × Option Text) : displayParam p = ';'::paramText p := by
  obtain ⟨k,v⟩ := p
  cases v <;> rfl

/-- A parameter as it is kept: a trimmed text up to a semicolon, with the name
up to its first equals sign. -/
structure KeptParam (p : Text × Option Text) : Prop where
  ne : paramText p ≠ []
  solid : trim (paramText p) = paramText p
  single : ';' ∉ paramText p
  plain : '=' ∉ p.1

theorem parseUriParam_kept {piece : Text} (hpiece : ';' ∉ piece)
    (h : parseUriParam piece = some p) : KeptParam p := by
  have htext : paramText p = trim piece ∧ trim piece ≠ [] ∧ '=' ∉ p.1 := by
    rw [parseUriParam] at h
    split_ifs at h with hempty
    have hne : trim piece ≠ [] := by simpa using hempty
    split at h
    · rename_i k v hcut
      cases h
      obtain ⟨heq,hfree⟩ := splitFirst_eq hcut
      exact ⟨heq.symm,hne,hfree⟩
    · rename_i hcut
      cases h
      exact ⟨rfl,hne,splitFirst_not_mem hcut⟩
  obtain ⟨heq,hne,hplain⟩ := htext
  exact ⟨heq ▸ hne,by rw [heq, trim_trim],fun hc => hpiece (mem_of_mem_trim (heq ▸ hc)),hplain⟩

theorem parseUriParam_text (h : KeptParam p) :
    parseUriParam (paramText p) = some p := by
  have hne : (paramText p).isEmpty = false := by simpa using h.ne
  rw [parseUriParam, h.solid, hne, if_neg Bool.false_ne_true]
  obtain ⟨k,v⟩ := p
  cases v with
  | none => rw [paramText, splitFirst_none h.plain]
  | some v => rw [paramText, splitFirst_append h.plain]

def paramsText (ps : List (Text × Option Text)) : Text := ps.flatMap displayParam

theorem paramsText_cons (p : Text × Option Text) (ps : List (Text × Option Text)) :
    paramsText (p::ps) = ';'::join [';'] ((p::ps).map paramText) := by
  induction ps generalizing p with
  | nil => simp [paramsText, displayParam_eq, join]
  | cons q ps ih =>
    have hrest : (q::ps).flatMap displayParam = _ := ih q
    have hjoin : join [';'] ((p::q::ps).map paramText) =
        paramText p++([';']++join [';'] ((q::ps).map paramText)) := join_cons _ _ _ _
    rw [paramsText, List.flatMap_cons, hrest, displayParam_eq, hjoin]
    rfl

theorem parseUriParams_text {ps : List (Text × Option Text)}
    (h : ∀ x ∈ p::ps, KeptParam x) :
    parseUriParams (some (join [';'] ((p::ps).map paramText))) = p::ps := by
  have hsplit : (join [';'] ((p::ps).map paramText)).splitOn ';' = (p::ps).map paramText := by
    refine List.splitOn_intercalate ';' (fun w hw => ?_) (by simp)
    obtain ⟨x,hx,rfl⟩ := List.mem_map.mp hw
    exact (h x hx).single
  rw [parseUriParams, hsplit, List.filterMap_map]
  have hall : ∀ qs : List (Text × Option Text), (∀ x ∈ qs, KeptParam x) →
      qs.filterMap (parseUriParam ∘ paramText) = qs := by
    intro qs hqs
    induction qs with
    | nil => rfl
    | cons q qs ih =>
      have hq : (parseUriParam ∘ paramText) q = some q :=
        parseUriParam_text (hqs q List.mem_cons_self)
      rw [List.filterMap_cons_some hq, ih fun x hx => hqs x (List.mem_cons_of_mem q hx)]
  exact hall _ h

/-- Userinfo, host and port, where a semicolon behind them starts the
parameters: behind the first at sign, or there is none. -/
def Cut (main tail : Text) : Prop :=
  (∃ a b, main = a++ '@'::b ∧ '@' ∉ a ∧ ';' ∉ b) ∨ ('@' ∉ main++tail ∧ ';' ∉ main)

theorem splitUserHostPort_nil {main : Text} (h : Cut main []) :
    splitUserHostPort main = (main,none) := by
  rw [splitUserHostPort]
  rcases h with ⟨a,b,rfl,ha,hb⟩ | ⟨hat,hsemi⟩
  · rw [splitFirst_append ha]
    dsimp only
    rw [splitFirst_none hb]
  · rw [List.append_nil] at hat
    rw [splitFirst_none hat]
    dsimp only
    rw [splitFirst_none hsemi]

theorem splitUserHostPort_cons {main tail : Text} (h : Cut main (';'::tail)) :
    splitUserHostPort (main++ ';'::tail) = (main,some tail) := by
  rw [splitUserHostPort]
  rcases h with ⟨a,b,rfl,ha,hb⟩ | ⟨hat,hsemi⟩
  · rw [List.append_assoc, List.cons_append, splitFirst_append ha]
    dsimp only
    rw [splitFirst_append hb]
    dsimp only
    rw [List.append_assoc]
    rfl
  · rw [splitFirst_none hat]
    dsimp only
    rw [splitFirst_append hsemi]
    rfl

theorem splitUserHostPort_text {main : Text} {ps : List (Text × Option Text)}
    (hcut : Cut main (paramsText ps)) (hps : ∀ p ∈ ps, KeptParam p) :
    (splitUserHostPort (main++paramsText ps)).1 = main ∧
      parseUriParams (splitUserHostPort (main++paramsText ps)).2 = ps := by
  cases ps with
  | nil =>
    have hnil : paramsText [] = [] := rfl
    rw [hnil] at hcut ⊢
    rw [List.append_nil, splitUserHostPort_nil hcut]
    exact ⟨rfl,rfl⟩
  | cons p ps =>
    rw [paramsText_cons] at hcut ⊢
    rw [splitUserHostPort_cons hcut]
    exact ⟨rfl,parseUriParams_text hps⟩

section Host

variable {host : Text}

theorem splitLast_append {c : Char} {a b : Text} (h : c ∉ b) :
    splitLast c (a++ c::b) = some (a,b) := by
  have hrev : (a++ c::b).reverse = b.reverse++ c::a.reverse := by simp
  rw [splitLast, hrev, splitFirst_append (by simpa using h)]
  simp

theorem splitLast_eq {c : Char} {s a b : Text} (h : splitLast c s = some (a,b)) : s = a++ c::b := by
  obtain ⟨⟨x,y⟩,hfirst,heq⟩ := Option.map_eq_some_iff.mp h
  cases heq
  have hrev := congrArg List.reverse (splitFirst_eq hfirst).1
  simpa using hrev

def Bracketed (host : Text) : Prop :=
  host.head? = some '[' → ∃ v6, host = v6++[']'] ∧ ']' ∉ v6

def endsInPort (host : Text) : Bool :=
  match splitLast ':' host with
  | some (_,digits) => digits.all isAsciiDigit
  | none => false

theorem parseHostPort_bracket {v6 after : Text} (hopen : (v6++[']']).head? = some '[')
    (hfree : ']' ∉ v6) : parseHostPort ((v6++[']'])++after) =
      .ok (v6++[']'],(stripPrefix [':'] after).bind parseU16) := by
  have hhead : ((v6++[']'])++after).head? = some '[' := by
    rw [List.head?_append, hopen]
    rfl
  rw [parseHostPort, if_pos hhead, List.append_assoc, List.singleton_append,
    splitFirst_append hfree]

theorem parseHostPort_port (hbracket : Bracketed host) {p : ℕ} (hp : p < 2^16) :
    parseHostPort (host++ ':'::natText p) = .ok (host,some p) := by
  have hcolon : ':' ∉ natText p := fun hc => absurd (natText_forall hc) (by decide)
  have hread : parseU16 (natText p) = some p := parseUnsigned_natText hp
  by_cases hopen : host.head? = some '['
  · obtain ⟨v6,rfl,hfree⟩ := hbracket hopen
    rw [parseHostPort_bracket hopen hfree, stripPrefix, if_pos (by simp)]
    exact congrArg (fun q => Except.ok (v6++[']'],q)) hread
  · have hhead : ¬(host++ ':'::natText p).head? = some '[' := by
      cases host with
      | nil => exact fun h => absurd (Option.some.inj h) (by decide)
      | cons c host => exact hopen
    have hdigits : (natText p).all isAsciiDigit = true :=
      List.all_eq_true.mpr fun c hc => natText_forall hc
    rw [parseHostPort, if_neg hhead, splitLast_append hcolon]
    dsimp only
    rw [if_pos hdigits, hread]

theorem parseHostPort_plain (hbracket : Bracketed host) :
    (endsInPort host = false → parseHostPort host = .ok (host,none)) ∧
      (endsInPort host = true → ∃ h p, parseHostPort host = .ok (h,p) ∧
        h.length < host.length) := by
  by_cases hopen : host.head? = some '['
  · obtain ⟨v6,rfl,hfree⟩ := hbracket hopen
    have hread := @parseHostPort_bracket v6 [] hopen hfree
    rw [List.append_nil] at hread
    refine ⟨fun _ => hread,fun hport => ?_⟩
    rw [endsInPort] at hport
    split at hport
    · rename_i before digits hsplit
      have hlast := congrArg List.getLast? (splitLast_eq hsplit)
      cases hdigits : digits with
      | nil =>
        rw [hdigits, List.getLast?_concat, List.getLast?_concat] at hlast
        exact absurd (Option.some.inj hlast) (by decide)
      | cons d ds =>
        have hmem : ']' ∈ digits := by
          refine List.mem_of_getLast? ?_
          rw [List.getLast?_concat, List.getLast?_append_of_ne_nil _ (List.cons_ne_nil _ _),
            hdigits, List.getLast?_cons_cons] at hlast
          rw [hdigits]
          exact hlast.symm
        exact absurd (List.all_eq_true.mp hport _ hmem) (by decide)
    · cases hport
  · rw [parseHostPort, if_neg hopen, endsInPort]
    cases hsplit : splitLast ':' host with
    | none => exact ⟨fun _ => rfl,fun h => by cases h⟩
    | some q =>
      dsimp only
      constructor
      · intro hport
        rw [if_neg (by rw [hport]; exact Bool.false_ne_true)]
      · intro hport
        refine ⟨q.1,parseU16 q.2,if_pos hport,?_⟩
        have hlen := congrArg List.length (splitLast_eq hsplit)
        rw [List.length_append, List.length_cons] at hlen
        omega

theorem parseHostPort_length {hostPort h : Text} {p : Option ℕ}
    (hread : parseHostPort hostPort = .ok (h,p)) : h.length ≤ hostPort.length := by
  rw [parseHostPort] at hread
  split_ifs at hread with hopen
  · split at hread
    · cases hread
    · rename_i v6 after hcut
      cases hread
      rw [(splitFirst_eq hcut).1]
      simp
  · split at hread
    · cases hread
      exact Nat.le_refl _
    · rename_i before after hcut
      split_ifs at hread
      · cases hread
        rw [splitLast_eq hcut]
        simp
      · cases hread
        exact Nat.le_refl _

end Host

/-- What `parse` ensures of a URI, as far as getting it back depends on it. -/
structure Shaped (u : SipUri) : Prop where
  kept : Kept u
  params : ∀ p ∈ u.params, KeptParam p
  port : ∀ p ∈ u.port, p < 2^16
  bracket : u.scheme ≠ .tel → Bracketed u.host
  tel : u.scheme = .tel → u.user = none ∧ u.port = none ∧ Cut u.host (paramsText u.params)

theorem parseHostPort_shape {hostPort host : Text} {port : Option ℕ}
    (h : parseHostPort hostPort = .ok (host,port)) :
    Bracketed host ∧ ∀ p ∈ port, p < 2^16 := by
  rw [parseHostPort] at h
  split_ifs at h with hopen
  · split at h
    · cases h
    · rename_i v6 after hcut
      cases h
      refine ⟨fun _ => ⟨v6,rfl,(splitFirst_eq hcut).2⟩,fun p hp => ?_⟩
      obtain ⟨t,-,ht⟩ := Option.bind_eq_some_iff.mp hp
      exact parseUnsigned_lt ht
  · split at h
    · cases h
      exact ⟨fun hhead => absurd hhead hopen,fun _ hp => by cases hp⟩
    · rename_i before after hcut
      split_ifs at h
      · cases h
        refine ⟨fun hhead => absurd ?_ hopen,fun p hp => parseUnsigned_lt hp⟩
        rw [splitLast_eq hcut, List.head?_append, hhead]
        rfl
      · cases h
        exact ⟨fun hhead => absurd hhead hopen,fun _ hp => by cases hp⟩

theorem parseUriParams_kept (params : Option Text) : ∀ p ∈ parseUriParams params, KeptParam p := by
  cases params with
  | none => exact fun p hp => absurd hp List.not_mem_nil
  | some text =>
    intro p hp
    obtain ⟨piece,hpiece,hparse⟩ := List.mem_filterMap.mp hp
    refine parseUriParam_kept (fun hc => ?_) hparse
    simpa using splitOnP_forall hpiece ';' hc

theorem splitUserHostPort_cut (rest : Text) :
    Cut (splitUserHostPort rest).1 (paramsText (parseUriParams (splitUserHostPort rest).2)) := by
  have htail {c : Char} (hc : c ∈ paramsText (parseUriParams (splitUserHostPort rest).2)) :
      c = ';' ∨ c = '=' ∨ c ∈ rest := by
    rcases mem_params hc with hc | hc | ⟨p,hp,hc⟩
    · exact .inl hc
    · exact .inr (.inl hc)
    · exact .inr (.inr ((splitUserHostPort_subset rest).2 p hp hc))
  have hmain := (splitUserHostPort_subset rest).1
  cases hat : splitFirst '@' rest with
  | none =>
    have hfree := splitFirst_not_mem hat
    refine .inr ⟨fun hc => ?_,?_⟩
    · rcases List.mem_append.mp hc with hc | hc
      · exact hfree (hmain hc)
      · rcases htail hc with hc | hc | hc
        · exact absurd hc (by decide)
        · exact absurd hc (by decide)
        · exact hfree hc
    · rw [splitUserHostPort, hat]
      dsimp only
      cases hsemi : splitFirst ';' rest with
      | none => exact splitFirst_not_mem hsemi
      | some p => exact (splitFirst_eq hsemi).2
  | some q =>
    obtain ⟨heq,hfree⟩ := splitFirst_eq hat
    refine .inl ⟨q.1,((splitFirst ';' q.2).map Prod.fst).getD q.2,?_,hfree,?_⟩
    · rw [splitUserHostPort, hat]
      dsimp only
      cases splitFirst ';' q.2 with
      | none => exact heq
      | some p => simp
    · cases hsemi : splitFirst ';' q.2 with
      | none => exact splitFirst_not_mem hsemi
      | some p => exact (splitFirst_eq hsemi).2

theorem parse_shaped {s : Text} {u : SipUri} (h : parse s = .ok u) : Shaped u := by
  have hkept := parse_kept h
  obtain ⟨⟨scheme,text⟩,-,h⟩ := bind_ok h
  obtain ⟨⟨rest,headers⟩,-,h⟩ := bind_ok h
  obtain ⟨⟨user,host,port⟩,haddr,h⟩ := bind_ok h
  cases h
  change parseUserHostPort scheme (splitUserHostPort rest).1 = _ at haddr
  have hparams := parseUriParams_kept (splitUserHostPort rest).2
  by_cases htel : scheme = .tel
  · rw [parseUserHostPort, if_pos htel] at haddr
    cases haddr
    exact ⟨hkept,hparams,fun _ hp => (by cases hp),fun hne => absurd htel hne,
      fun _ => ⟨rfl,rfl,splitUserHostPort_cut rest⟩⟩
  · rw [userHostPort_eq htel] at haddr
    obtain ⟨⟨host',port'⟩,hhost,heq⟩ := map_ok haddr
    cases heq
    obtain ⟨hbracket,hport⟩ := parseHostPort_shape hhost
    exact ⟨hkept,hparams,hport,fun _ => hbracket,fun h => absurd h htel⟩

section Reading

variable {u : SipUri}

def portText (port : Option ℕ) : Text := (port.map (fun p => ':'::natText p)).getD []

def mainPart (u : SipUri) : Text := (u.user.map (·++['@'])).getD []++u.host++portText u.port

theorem address_eq (u : SipUri) : address u = mainPart u++paramsText u.params := rfl

theorem mainPart_user {x : Text} (h : u.user = some x) :
    mainPart u = x++ '@'::(u.host++portText u.port) := by
  simp [mainPart, h]

theorem mainPart_plain (h : u.user = none) : mainPart u = u.host++portText u.port := by
  simp [mainPart, h]

theorem Shaped.cut (hs : Shaped u) : Cut (mainPart u) (paramsText u.params) := by
  by_cases htel : u.scheme = .tel
  · obtain ⟨huser,hport,hcut⟩ := hs.tel htel
    have hmain : mainPart u = u.host := by simp [mainPart_plain huser, hport, portText]
    rwa [hmain]
  · have hsemi : ';' ∉ u.host++portText u.port := fun hc => by
      rcases List.mem_append.mp hc with hc | hc
      · exact hs.kept.host htel hc
      · rcases mem_portText hc with hc | hc
        all_goals exact absurd hc (by decide)
    cases huser : u.user with
    | some x => exact .inl ⟨x,_,mainPart_user huser,hs.kept.user htel x huser,hsemi⟩
    | none => exact .inr ⟨hs.kept.plain htel huser,mainPart_plain huser ▸ hsemi⟩

def readHost (u : SipUri) : Except SipError (Text × Option ℕ) :=
  if u.scheme = .tel then .ok (u.host,u.port) else parseHostPort (u.host++portText u.port)

theorem parseUserHostPort_main (hs : Shaped u) :
    parseUserHostPort u.scheme (mainPart u) =
      (readHost u).map (fun hp => (u.user,hp.1,hp.2)) := by
  rw [parseUserHostPort, readHost]
  by_cases htel : u.scheme = .tel
  · obtain ⟨huser,hport,-⟩ := hs.tel htel
    rw [if_pos htel, if_pos htel, mainPart_plain huser, huser, hport, portText, Option.map_none,
      Option.getD_none, List.append_nil]
    rfl
  · rw [if_neg htel, if_neg htel]
    cases huser : u.user with
    | some x => rw [mainPart_user huser, splitFirst_append (hs.kept.user htel x huser)]
    | none =>
      have hfree : '@' ∉ mainPart u := fun hc =>
        hs.kept.plain htel huser (address_eq u ▸ List.mem_append_left _ hc)
      rw [splitFirst_none hfree, mainPart_plain huser]

theorem parse_bind {s : Text} {scheme : Scheme} {text rest : Text} {headers : List (Text × Text)}
    (hscheme : parseScheme (trim s) = .ok (scheme,text))
    (hheaders : parseUriHeaders text = .ok (rest,headers)) :
    parse s = (parseUserHostPort scheme (splitUserHostPort rest).1).map (fun a =>
      ⟨scheme,a.1,a.2.1,a.2.2,parseUriParams (splitUserHostPort rest).2,headers⟩) := by
  rw [parse, hscheme, ok_bind]
  dsimp only
  rw [hheaders, ok_bind]
  cases parseUserHostPort scheme (splitUserHostPort rest).1 <;> rfl

theorem readHost_map (hs : Shaped u) (headers : List (Text × Text)) :
    (parseUserHostPort u.scheme (splitUserHostPort (address u)).1).map (fun a =>
      (⟨u.scheme,a.1,a.2.1,a.2.2,parseUriParams (splitUserHostPort (address u)).2,headers⟩ :
        SipUri)) =
      (readHost u).map (fun hp => { u with host := hp.1, port := hp.2, headers }) := by
  obtain ⟨hmain,hparams⟩ := splitUserHostPort_text hs.cut hs.params
  rw [address_eq, hmain, hparams, parseUserHostPort_main hs]
  cases readHost u <;> rfl

theorem parse_untrimmed (hs : Shaped u)
    (hend : trimEnd (address u++headersText u) = address u++headersText u) :
    parse (display u) = (readHost u).map (fun hp => { u with host := hp.1, port := hp.2 }) := by
  have hscheme := parseScheme_display u.scheme (address u++headersText u)
  rw [hend, ← display_eq] at hscheme
  rw [parse_bind hscheme (parseUriHeaders_text hs.kept.question hs.kept.count hs.kept.headers),
    readHost_map hs]

end Reading

section Stable

variable {u : SipUri}

/-- No blank stands at the end of what is written: not behind the host if that
comes last, and not behind the last header. -/
def EndStable (u : SipUri) : Prop :=
  (u.headers = [] → u.params = [] → u.port = none →
    ∀ c ∈ u.host.getLast?, isWhitespace c = false) ∧
  ∀ h ∈ u.headers.getLast?, ∀ c ∈ h.2.getLast?, isWhitespace c = false

/-- A host without a port does not end like one with a port, and no blank
stands at the end. -/
structure Stable (u : SipUri) : Prop where
  host : u.scheme ≠ .tel → u.port = none → endsInPort u.host = false
  ends : EndStable u

theorem readHost_iff (hs : Shaped u) : readHost u = .ok (u.host,u.port) ↔
    (u.scheme ≠ .tel → u.port = none → endsInPort u.host = false) := by
  rw [readHost]
  by_cases htel : u.scheme = .tel
  · rw [if_pos htel]
    exact iff_of_true rfl fun h => absurd htel h
  · rw [if_neg htel]
    cases hport : u.port with
    | some p =>
      exact iff_of_true (parseHostPort_port (hs.bracket htel) (hs.port p hport)) fun _ => nofun
    | none =>
      obtain ⟨hwhole,hcut⟩ := parseHostPort_plain (hs.bracket htel)
      rw [portText, Option.map_none, Option.getD_none, List.append_nil]
      constructor
      · intro hread _ _
        rw [← Bool.not_eq_true]
        intro hends
        obtain ⟨h,p,hread',hlt⟩ := hcut hends
        cases hread.symm.trans hread'
        exact lt_irrefl _ hlt
      · exact fun h => hwhole (h htel rfl)

theorem headersText_concat (u : SipUri) (init : List (Text × Text)) (k : Text) :
    ∃ front, ∀ w, headersText { u with headers := init++[(k,w)] } = front++ '='::w := by
  obtain ⟨front,hfront⟩ := join_concat ['&'] (init.map headerText)
  refine ⟨'?'::(front++k),fun w => ?_⟩
  rw [headersText, if_neg (by simp), List.map_append, List.map_singleton, hfront]
  simp [headerText]

theorem trimEnd_written (hs : Shaped u) (h : EndStable u) :
    trimEnd (address u++headersText u) = address u++headersText u := by
  rw [trimEnd_eq_iff]
  intro c hc
  rcases List.eq_nil_or_concat' u.headers with hempty | ⟨init,⟨k,v⟩,hheaders⟩
  swap
  · obtain ⟨front,hfront⟩ := headersText_concat u init k
    have hv := hfront v
    rw [← hheaders] at hv
    change headersText u = _ at hv
    rw [hv, ← List.append_assoc] at hc
    cases v with
    | nil =>
      rw [List.getLast?_concat] at hc
      cases hc
      rfl
    | cons d v =>
      rw [List.getLast?_append_of_ne_nil _ (List.cons_ne_nil _ _), List.getLast?_cons_cons] at hc
      exact h.2 (k,d::v) (by rw [hheaders, List.getLast?_concat]; rfl) c hc
  · rw [headersText, hempty, List.isEmpty_nil, if_pos rfl, List.append_nil, address_eq] at hc
    rcases List.eq_nil_or_concat' u.params with hparams | ⟨init,p,hparams⟩
    swap
    · have hp := hs.params p (by rw [hparams]; simp)
      have htext : paramsText u.params = paramsText init++ ';'::paramText p := by
        simp [paramsText, hparams, displayParam_eq]
      obtain ⟨d,ds,hcons⟩ := List.exists_cons_of_ne_nil hp.ne
      rw [htext, ← List.append_assoc, hcons,
        List.getLast?_append_of_ne_nil _ (List.cons_ne_nil _ _), List.getLast?_cons_cons,
        ← hcons] at hc
      exact trim_getLast hp.solid c hc
    · have htext : paramsText u.params = [] := by rw [hparams]; rfl
      rw [htext, List.append_nil] at hc
      cases hport : u.port with
      | some p =>
        obtain ⟨d,ds,hcons⟩ := List.exists_cons_of_ne_nil (natText_ne_nil p)
        have hptext : portText u.port = ':'::natText p := by rw [hport]; rfl
        rw [mainPart, hptext, hcons, List.getLast?_append_of_ne_nil _ (List.cons_ne_nil _ _),
          List.getLast?_cons_cons, ← hcons] at hc
        exact isWhitespace_digit (natText_forall (List.mem_of_getLast? hc))
      | none =>
        have hptext : portText u.port = [] := by rw [hport]; rfl
        rw [mainPart, hptext, List.append_nil] at hc
        cases hhost : u.host with
        | cons d host =>
          rw [hhost, List.getLast?_append_of_ne_nil _ (List.cons_ne_nil _ _), ← hhost] at hc
          exact h.1 hempty hparams hport c hc
        | nil =>
          rw [hhost, List.append_nil] at hc
          cases huser : u.user with
          | none => rw [huser] at hc; cases hc
          | some x =>
            rw [huser] at hc
            change c ∈ (x++['@']).getLast? at hc
            rw [List.getLast?_concat] at hc
            cases hc
            rfl

theorem keptHeader_trimEnd {k v : Text} (h : KeptHeader (k,v)) : KeptHeader (k,trimEnd v) := by
  obtain ⟨gap,hgap,-⟩ := trimEnd_gap v
  refine ⟨h.name,fun hc => h.value ((List.rdropWhile_prefix _ _).subset hc),h.plain,?_⟩
  have hshort := h.short
  dsimp only at hshort
  rw [hgap, utf8Len_append] at hshort
  exact (Nat.le_add_right _ _).trans hshort

theorem last_header_of_reread (hs : Shaped u) (hread : parse (display u) = .ok u)
    {init : List (Text × Text)} {k v : Text} (hheaders : u.headers = init++[(k,v)]) :
    trimEnd v = v := by
  obtain ⟨front,hfront⟩ := headersText_concat u init k
  have hwritten := hfront v
  rw [← hheaders] at hwritten
  change headersText u = _ at hwritten
  have htrim : trimEnd (address u++headersText u) =
      address u++headersText { u with headers := init++[(k,trimEnd v)] } := by
    rw [hwritten, hfront, ← List.append_assoc, trimEnd_append _ _ (by decide), List.append_assoc]
  have hkept : ∀ x ∈ init++[(k,trimEnd v)], KeptHeader x := by
    intro x hx
    rcases List.mem_append.mp hx with hx | hx
    · exact hs.kept.headers x (by rw [hheaders]; exact List.mem_append_left _ hx)
    · rw [List.mem_singleton.mp hx]
      exact keptHeader_trimEnd (hs.kept.headers (k,v) (by rw [hheaders]; simp))
  have hcount : (init++[(k,trimEnd v)]).length ≤ maxUriHeaders := by
    have := hs.kept.count
    rw [hheaders] at this
    simpa using this
  have hscheme := parseScheme_display u.scheme (address u++headersText u)
  rw [htrim, ← display_eq] at hscheme
  have hparse := parse_bind hscheme (parseUriHeaders_text
    (u := { u with headers := init++[(k,trimEnd v)] }) hs.kept.question hcount hkept)
  rw [hread] at hparse
  obtain ⟨hp,-,heq⟩ := map_ok ((readHost_map hs _).symm.trans hparse.symm)
  have hlast := congrArg SipUri.headers heq
  dsimp only at hlast
  rw [hheaders] at hlast
  have hpair := List.singleton_injective (List.append_cancel_left hlast)
  exact (Prod.mk.inj hpair).2

theorem cutParams_length (w : Text) :
    (((splitFirst ';' w).map Prod.fst).getD w).length ≤ w.length := by
  cases hcut : splitFirst ';' w with
  | none => exact Nat.le_refl _
  | some p =>
    nth_rewrite 2 [(splitFirst_eq hcut).1]
    simp

theorem hostPortOf_length {x w : Text} (h : '@' ∉ x) :
    (hostPortOf (x++ '@'::w)).length ≤ w.length := by
  rw [hostPortOf, splitFirst_append h]
  exact cutParams_length w

theorem hostPortOf_plain_length {w : Text} (h : '@' ∉ w) : (hostPortOf w).length ≤ w.length := by
  rw [hostPortOf, splitFirst_none h]
  exact cutParams_length w

theorem splitUserHostPort_length (rest : Text) :
    (splitUserHostPort rest).1.length ≤ rest.length := by
  rw [splitUserHostPort]
  cases hat : splitFirst '@' rest with
  | none =>
    have hlen := cutParams_length rest
    dsimp only
    cases hsemi : splitFirst ';' rest with
    | none => exact Nat.le_refl _
    | some p => simpa [hsemi] using hlen
  | some q =>
    have hlen := cutParams_length q.2
    have hrest := congrArg List.length (splitFirst_eq hat).1
    dsimp only
    cases hsemi : splitFirst ';' q.2 with
    | none => exact Nat.le_refl _
    | some p =>
      rw [hsemi] at hlen
      simp only [Option.map_some, Option.getD_some, List.length_append, List.length_cons,
        List.length_nil] at hlen hrest ⊢
      omega

theorem last_host_of_reread (hs : Shaped u) (hread : parse (display u) = .ok u)
    (hheaders : u.headers = []) (hparams : u.params = []) (hport : u.port = none) :
    u.host.length ≤ (trimEnd u.host).length := by
  have hmain : address u = mainPart u := by
    rw [address_eq, hparams]
    exact List.append_nil _
  have hptext : u.host++portText u.port = u.host := by
    rw [hport]
    exact List.append_nil _
  have hwritten : address u++headersText u = mainPart u := by
    rw [headersText, hheaders, hmain]
    exact List.append_nil _
  have hscheme := parseScheme_display u.scheme (address u++headersText u)
  rw [← display_eq, hwritten] at hscheme
  have hfree : '?' ∉ trimEnd (mainPart u) := fun hc =>
    hs.kept.question (hmain ▸ (List.rdropWhile_prefix _ _).subset hc)
  have hrest : parseUriHeaders (trimEnd (mainPart u)) = .ok (trimEnd (mainPart u),[]) := by
    rw [parseUriHeaders, splitFirst_none hfree]
  have hparse := parse_bind hscheme hrest
  rw [hread] at hparse
  obtain ⟨⟨user,host,port⟩,hsplit,heq⟩ := map_ok hparse.symm
  have hhost : host = u.host := congrArg SipUri.host heq
  by_cases htel : u.scheme = .tel
  · rw [parseUserHostPort, if_pos htel] at hsplit
    cases hsplit
    rw [mainPart_plain (hs.tel htel).1, hptext] at hhost
    have hlen := splitUserHostPort_length (trimEnd u.host)
    rwa [hhost] at hlen
  · rw [userHostPort_eq htel] at hsplit
    obtain ⟨⟨h,p⟩,hhp,hpair⟩ := map_ok hsplit
    cases hpair
    have hlen := parseHostPort_length hhp
    dsimp only at hhost
    rw [hhost] at hlen
    refine hlen.trans ?_
    cases huser : u.user with
    | some x =>
      rw [mainPart_user huser, hptext, trimEnd_append _ _ (by decide)]
      exact hostPortOf_length (hs.kept.user htel x huser)
    | none =>
      rw [mainPart_plain huser, hptext]
      refine hostPortOf_plain_length fun hc => hs.kept.plain htel huser ?_
      rw [hmain, mainPart_plain huser, hptext]
      exact (List.rdropWhile_prefix _ _).subset hc

theorem endStable_of_reread (hs : Shaped u) (hread : parse (display u) = .ok u) : EndStable u := by
  constructor
  · intro hheaders hparams hport c hc
    rw [← Bool.not_eq_true]
    intro hblank
    exact absurd (last_host_of_reread hs hread hheaders hparams hport)
      (not_le.mpr (trimEnd_length_lt hc hblank))
  · rintro ⟨k,v⟩ hlast
    obtain ⟨init,hheaders⟩ := List.getLast?_eq_some_iff.mp hlast
    exact (trimEnd_eq_iff v).mp (last_header_of_reread hs hread hheaders)

end Stable

/-- A URI that was read comes back from what is written exactly if its host
cannot be taken for a host with a port and no blank is written last. -/
theorem uri_reread_iff {s : Text} {u : SipUri} (h : parse s = .ok u) :
    parse (display u) = .ok u ↔ Stable u := by
  have hs := parse_shaped h
  constructor
  · intro hread
    have hends := endStable_of_reread hs hread
    rw [parse_untrimmed hs (trimEnd_written hs hends)] at hread
    obtain ⟨⟨host,port⟩,hhost,heq⟩ := map_ok hread
    have hsame : (host,port) = (u.host,u.port) :=
      Prod.ext (congrArg SipUri.host heq) (congrArg SipUri.port heq)
    exact ⟨(readHost_iff hs).mp (hsame ▸ hhost),hends⟩
  · rintro ⟨hhost,hends⟩
    rw [parse_untrimmed hs (trimEnd_written hs hends), (readHost_iff hs).mpr hhost]
    rfl

theorem uri_reread_headers : ∃ u, parse "SIP:alice@[::1]:05060; lr ?Subject" = .ok u ∧
    parse (display u) = .ok u := by
  refine ⟨⟨.sip,some "alice","[::1]",some 5060,[("lr",none)],
    [("Subject",[])]⟩,?_,?_⟩
  · decide +kernel
  · refine (uri_reread_iff (s := "SIP:alice@[::1]:05060; lr ?Subject")
      (by decide +kernel)).mpr ⟨fun _ => nofun,nofun,?_⟩
    rintro h hh c hc
    cases hh
    cases hc

/-- The port behind the second colon cannot be read; what is left of the host
is written like a host with a port. With a third colon the same happens once
more, so that the second round loses text like the first. -/
theorem uri_host_not_reread :
    parse "sip:example.com:5060:" =
        .ok ⟨.sip,none,"example.com:5060",none,[],[]⟩ ∧
      parse (display ⟨.sip,none,"example.com:5060",none,[],[]⟩) =
        .ok ⟨.sip,none,"example.com",some 5060,[],[]⟩ ∧
      parse "sip:h:1:99999:" = .ok ⟨.sip,none,"h:1:99999",none,[],[]⟩ ∧
      parse (display ⟨.sip,none,"h:1:99999",none,[],[]⟩) = .ok ⟨.sip,none,"h:1",none,[],[]⟩ ∧
      parse (display ⟨.sip,none,"h:1",none,[],[]⟩) = .ok ⟨.sip,none,"h",some 1,[],[]⟩ := by
  decide +kernel

end RsipRtp.UriStable
