import RsipRtp.SipHeader
import RsipRtp.TextScanner
import RsipRtp.TextShape

/-!
# A parameter behind a name-address

What becomes of a name-address when a parameter is written behind it. The
display name and the address are read as before.
-/

namespace RsipRtp.NameAddrText
open SipText SipHeader TextShape TextScanner

/-- Whether a text ends inside a quoted string, from whether it starts there. -/
def quoteOpen : Bool → Text → Bool
  | b, [] => b
  | true, '\\'::_::rest => quoteOpen true rest
  | true, c::rest => quoteOpen (c != '"') rest
  | false, c::rest => quoteOpen (c == '"') rest

/-- Where a scanner is that knows quoted strings and quoted pairs in them. -/
inductive Quote where
  | outside
  | inside
  | escaped
deriving DecidableEq

def quoteStep (stop : Char) : Quote → Char → Option Quote
  | .outside, c => if c = stop then none else some (if c = '"' then .inside else .outside)
  | .inside, c => some (if c = '"' then .outside else if c = '\\' then .escaped else .inside)
  | .escaped, _ => some .inside

def quoteOf (b : Bool) : Quote := if b then .inside else .outside

theorem quoteStep_inside {stop c : Char} (h : c ≠ '\\') :
    quoteStep stop .inside c = some (quoteOf (c != '"')) := by
  by_cases hc : c = '"' <;> simp [quoteStep, quoteOf, h, hc]

theorem quoteStep_outside {stop c : Char} (h : c ≠ stop) :
    quoteStep stop .outside c = some (quoteOf (c == '"')) := by
  rw [quoteStep, if_neg h]
  by_cases hc : c = '"' <;> simp [quoteOf, hc]

theorem quoteStep_eq_none {stop c : Char} {q : Quote} :
    quoteStep stop q c = none ↔ q = .outside ∧ c = stop := by
  cases q <;> simp [quoteStep]

theorem nil_of_unescaped {c : Char} {rest : Text} (hc : c = '\\')
    (h : ∀ c' rest', c = '\\' → rest = c'::rest' → False) : rest = [] := by
  cases rest with
  | nil => rfl
  | cons x xs => exact (h x xs hc rfl).elim

theorem consHead_eq {ts : List Text} (c : Char) (h : ts ≠ []) :
    consHead c ts = ts.modifyHead (c::·) := by
  cases ts with
  | nil => exact absurd rfl h
  | cons t ts => rfl

theorem topLevelChunks_eq (b : Bool) (s : Text) :
    topLevelChunks b s = pieces (quoteStep ';') .outside (quoteOf b) s := by
  induction b, s using topLevelChunks.induct with
  | case1 b => rfl
  | case2 c rest ih =>
    rw [topLevelChunks, ih, consHead_eq c (pieces_ne_nil _ _),
      consHead_eq '\\' (by simp [pieces_ne_nil])]
    rfl
  | case3 c rest hesc ih =>
    by_cases hc : c = '\\'
    · obtain rfl := nil_of_unescaped hc hesc
      subst hc
      rfl
    · rw [topLevelChunks.eq_3 _ _ hesc, ih, consHead_eq c (pieces_ne_nil _ _)]
      exact (pieces_step (quoteStep_inside hc) rest).symm
  | case4 rest ih =>
    rw [topLevelChunks, if_pos rfl, ih]
    rfl
  | case5 c rest hc ih =>
    rw [topLevelChunks, if_neg hc, ih, consHead_eq c (pieces_ne_nil _ _)]
    exact (pieces_step (quoteStep_outside hc) rest).symm

theorem quoteOpen_eq (b : Bool) (s : Text) :
    quoteOpen b s = (final (quoteStep ';') .outside (quoteOf b) s != .outside) := by
  induction b, s using quoteOpen.induct with
  | case1 b => cases b <;> rfl
  | case2 c rest ih => exact ih
  | case3 c rest hesc ih =>
    by_cases hc : c = '\\'
    · obtain rfl := nil_of_unescaped hc hesc
      subst hc
      rfl
    · rw [quoteOpen.eq_3 _ _ hesc, ih, final, final, List.foldl_cons]
      change _ = (rest.foldl _ ((quoteStep ';' .inside c).getD .outside) != _)
      rw [quoteStep_inside hc, Option.getD_some]
  | case4 c rest ih =>
    have hnext : (quoteStep ';' .outside c).getD .outside = quoteOf (c == '"') := by
      by_cases hc : c = ';'
      · subst hc
        rfl
      · rw [quoteStep_outside hc, Option.getD_some]
    rw [quoteOpen, ih, final, final, List.foldl_cons]
    exact congrArg (fun q => rest.foldl _ q != Quote.outside) hnext.symm

theorem findAngleBracket_eq (b : Bool) (s : Text) :
    findAngleBracket b s = cut (quoteStep '<') (quoteOf b) s := by
  induction b, s using findAngleBracket.induct with
  | case1 b => rfl
  | case2 c rest ih =>
    rw [findAngleBracket, ih]
    change _ = ((cut (quoteStep '<') .inside rest).map _).map _
    rw [Option.map_map]
    rfl
  | case3 c rest hesc ih =>
    by_cases hc : c = '\\'
    · obtain rfl := nil_of_unescaped hc hesc
      subst hc
      rfl
    · rw [findAngleBracket.eq_3 _ _ hesc, ih]
      exact (cut_step (quoteStep_inside hc) rest).symm
  | case4 rest =>
    rw [findAngleBracket, if_pos rfl]
    rfl
  | case5 c rest hc ih =>
    rw [findAngleBracket, if_neg hc, ih]
    exact (cut_step (quoteStep_outside hc) rest).symm

theorem walk_outside {stop : Char} {z : Text} (hstop : stop ∉ z) (hquote : '"' ∉ z) :
    walk (quoteStep stop) .outside z = some .outside := by
  induction z with
  | nil => rfl
  | cons c z ih =>
    rw [List.mem_cons, not_or] at hstop hquote
    rw [walk_cons, quoteStep, if_neg (Ne.symm hstop.1), if_neg (Ne.symm hquote.1)]
    exact ih hstop.2 hquote.2

theorem walk_quoteless {stop : Char} {z : Text} {q : Quote} (hquote : '"' ∉ z)
    (h : walk (quoteStep stop) .outside z = some q) : q = .outside := by
  induction z with
  | nil => exact (Option.some.inj h).symm
  | cons c z ih =>
    rw [List.mem_cons, not_or] at hquote
    rw [walk_cons, quoteStep, if_neg (Ne.symm hquote.1)] at h
    split_ifs at h
    · cases h
    · exact ih hquote.2 h

theorem walk_quoted {stop : Char} {z : Text} {q : Quote} (h : '"' ∉ z) (hq : q ≠ .outside) :
    ∃ q', walk (quoteStep stop) q z = some q' ∧ q' ≠ .outside := by
  induction z generalizing q with
  | nil => exact ⟨q,rfl,hq⟩
  | cons c z ih =>
    rw [List.mem_cons, not_or] at h
    have hnext : ∃ p, quoteStep stop q c = some p ∧ p ≠ .outside := by
      cases q with
      | outside => exact absurd rfl hq
      | inside => exact ⟨_,rfl,by rw [if_neg (Ne.symm h.1)]; split <;> nofun⟩
      | escaped => exact ⟨_,rfl,nofun⟩
    obtain ⟨p,hp,hne⟩ := hnext
    rw [walk_cons, hp]
    exact ih h.2 hne

theorem topLevelChunks_append {b : Bool} {s : Text} (t : Text) (h : quoteOpen b s = false) :
    topLevelChunks b (s++ ';'::t) = topLevelChunks b s++topLevelChunks false t := by
  rw [quoteOpen_eq, bne_eq_false_iff_eq] at h
  obtain ⟨init,last,hpieces,hgrow,-⟩ := pieces_last (quoteStep ';') .outside (quoteOf b) s
  rw [topLevelChunks_eq, topLevelChunks_eq, topLevelChunks_eq, hgrow, hpieces, h, pieces_stop rfl]
  simp [quoteOf]

theorem topLevelChunks_plain {z : Text} (hsemi : ';' ∉ z) (hquote : '"' ∉ z) :
    topLevelChunks false z = [z] := by
  rw [topLevelChunks_eq]
  exact pieces_of_walk (walk_outside hsemi hquote)

example : topLevelChunks false "a=\"x;y\";b".toList = ["a=\"x;y\"".toList,['b']] := by
  decide +kernel

/-- The last chunk of a text that ends inside a quoted string, which takes in
whatever does not close the string. -/
theorem exists_dangling {s : Text} (h : quoteOpen false s = true) : ∃ init last,
    topLevelChunks false s = init++[last] ∧ '"' ∈ last ∧
      ∀ z, '"' ∉ z → topLevelChunks false (s++z) = init++[last++z] := by
  rw [quoteOpen_eq, bne_iff_ne] at h
  change final (quoteStep ';') .outside .outside s ≠ _ at h
  obtain ⟨init,last,hpieces,hgrow,hwalk⟩ := pieces_last (quoteStep ';') .outside .outside s
  rw [ite_self] at hwalk
  refine ⟨init,last,by rw [topLevelChunks_eq]; exact hpieces,?_,fun z hz => ?_⟩
  · by_contra hquote
    exact h (walk_quoteless hquote hwalk)
  · obtain ⟨q,hq,-⟩ := walk_quoted hz h
    rw [topLevelChunks_eq]
    refine (hgrow z).trans ?_
    rw [pieces_of_walk hq]
    rfl

section Parameters

variable {trailing after x : Text} {ps : List (Text × Option Text)}

theorem trimStart_cons (c : Char) (rest : Text) :
    trimStart (c::rest) = if isWhitespace c then trimStart rest else c::rest :=
  List.dropWhile_cons

theorem quoteOpen_trimStart (s : Text) : quoteOpen false (trimStart s) = quoteOpen false s := by
  induction s with
  | nil => rfl
  | cons c rest ih =>
    rw [trimStart_cons]
    split_ifs with hc
    · have hquote : (c == '"') = false := by
        rw [beq_eq_false_iff_ne]
        rintro rfl
        cases hc
      rw [ih, quoteOpen, hquote]
    · rfl

theorem trimStart_append {s : Text} (x : Text) (h : trimStart s ≠ []) :
    trimStart (s++x) = trimStart s++x := by
  induction s with
  | nil => exact absurd rfl h
  | cons c rest ih =>
    rw [trimStart_cons] at h
    rw [List.cons_append, trimStart_cons, trimStart_cons]
    split_ifs at h ⊢
    · exact ih h
    · rfl

theorem trimStart_blank {s : Text} (x : Text) (h : trimStart s = []) :
    trimStart (s++x) = trimStart x := by
  induction s with
  | nil => rfl
  | cons c rest ih =>
    rw [trimStart_cons] at h
    rw [List.cons_append, trimStart_cons]
    split_ifs at h ⊢
    exact ih h

theorem trim_append {s z : Text} {c : Char} (hs : trimStart s ≠ []) (hc : isWhitespace c = false) :
    trim (s++(z++[c])) = trimStart s++(z++[c]) := by
  rw [trim, trimStart_append _ hs, trimEnd, ← List.append_assoc, List.rdropWhile_concat_neg]
  rw [hc]
  exact Bool.false_ne_true

theorem parseParams_cases (h : parseParams trailing after = .ok ps) :
    (trimStart after = [] ∧ ps = [] ∧ quoteOpen false after = false) ∨
      ∃ rest, trimStart after = ';'::rest ∧ quoteOpen false after = quoteOpen false rest ∧
        ps = (topLevelChunks false rest).filterMap parseParam := by
  rw [← quoteOpen_trimStart]
  unfold parseParams at h
  split at h
  · next hnil =>
    cases h
    exact .inl ⟨hnil,rfl,by rw [hnil]; rfl⟩
  · next rest hcons =>
    cases h
    exact .inr ⟨rest,hcons,by rw [hcons]; rfl,rfl⟩
  · cases h

theorem parseParams_append (hclosed : quoteOpen false after = false)
    (h : parseParams trailing after = .ok ps) :
    parseParams trailing (after++ ';'::x) =
      .ok (ps++(topLevelChunks false x).filterMap parseParam) := by
  rcases parseParams_cases h with ⟨hnil,rfl,-⟩ | ⟨rest,hcons,hquotes,rfl⟩
  · rw [parseParams, trimStart_blank _ hnil]
    rfl
  · rw [parseParams, trimStart_append _ (hcons ▸ List.cons_ne_nil _ _), hcons]
    simp only [List.cons_append]
    rw [topLevelChunks_append x (hquotes ▸ hclosed), List.filterMap_append]

theorem parseParams_swallow (hopen : quoteOpen false after = true)
    (h : parseParams trailing after = .ok ps) :
    ∃ init last, '"' ∈ last ∧ ps = init++(parseParam last).toList ∧
      ∀ z, '"' ∉ z → parseParams trailing (after++z) =
        .ok (init++(parseParam (last++z)).toList) := by
  rcases parseParams_cases h with ⟨-,-,hclosed⟩ | ⟨rest,hcons,hquotes,rfl⟩
  · rw [hopen] at hclosed
    cases hclosed
  · obtain ⟨init,last,hchunks,hquote,hgrows⟩ := exists_dangling (hquotes ▸ hopen)
    have hlast : ∀ t : Text, [t].filterMap parseParam = (parseParam t).toList := fun t => by
      cases ht : parseParam t <;> simp [ht]
    refine ⟨init.filterMap parseParam,last,hquote,?_,fun z hz => ?_⟩
    · rw [hchunks, List.filterMap_append, hlast]
    · rw [parseParams, trimStart_append _ (hcons ▸ List.cons_ne_nil _ _), hcons]
      simp only [List.cons_append]
      rw [hgrows z hz, List.filterMap_append, hlast]

example : parseParams nameAddrTrailing " ;a=1;;b" =
    .ok [(['a'],some ['1']),(['b'],none)] := by decide +kernel

end Parameters

section Addresses

variable {s x y rest after : Text}

theorem splitFirst_extend {c : Char} {before : Text} (h : splitFirst c s = some (before,after)) :
    splitFirst c (s++x) = some (before,after++x) := by
  obtain ⟨rfl,hmem⟩ := splitFirst_eq h
  rw [List.append_assoc]
  exact splitFirst_append hmem

theorem parseQuotedString_append {name : Text} (h : parseQuotedString s = .ok (name,after)) :
    parseQuotedString (s++x) = .ok (name,after++x) := by
  induction s using parseQuotedString.induct generalizing name with
  | case1 => cases h
  | case2 => cases h
  | case3 c rest ih =>
    rw [parseQuotedString] at h
    obtain ⟨p,hp,heq⟩ := map_ok h
    cases heq
    rw [List.cons_append, List.cons_append, parseQuotedString, ih hp]
    rfl
  | case4 rest hnil hesc =>
    rw [parseQuotedString.eq_4 _ _ hnil hesc, if_pos rfl] at h
    cases h
    rw [List.cons_append, parseQuotedString.eq_4 _ _ (fun hc => by cases hc)
      (fun _ _ hc => by cases hc), if_pos rfl]
  | case5 c rest hnil hesc hc ih =>
    rw [parseQuotedString.eq_4 _ _ hnil hesc, if_neg hc] at h
    obtain ⟨p,hp,heq⟩ := map_ok h
    cases heq
    have hback : c ≠ '\\' := by
      intro hback
      cases rest with
      | nil => exact hnil hback rfl
      | cons a as => exact hesc a as hback rfl
    rw [List.cons_append, parseQuotedString.eq_4 _ _ (fun h => absurd h hback)
      (fun _ _ h => absurd h hback), if_neg hc, ih hp]
    rfl

theorem findAngleBracket_append {b : Bool} {leading : Text}
    (h : findAngleBracket b s = some (leading,rest)) :
    findAngleBracket b (s++x) = some (leading,rest++x) := by
  rw [findAngleBracket_eq] at *
  exact cut_append h x

theorem findAngleBracket_append_none {b : Bool} (h : findAngleBracket b s = none) (hx : '<' ∉ x) :
    findAngleBracket b (s++x) = none := by
  have hclear : ∀ q, ∃ q', walk (quoteStep '<') q x = some q' := by
    induction x with
    | nil => exact fun q => ⟨q,rfl⟩
    | cons c x ih =>
      intro q
      rw [List.mem_cons, not_or] at hx
      obtain ⟨p,hp⟩ := Option.ne_none_iff_exists'.mp fun hnone =>
        hx.1 (quoteStep_eq_none.mp hnone : q = .outside ∧ c = '<').2.symm
      rw [walk_cons, hp]
      exact ih hx.2 p
  rw [findAngleBracket_eq, cut_eq_none] at *
  obtain ⟨q,hq⟩ := h
  rw [walk_append, hq]
  exact hclear q

example : findAngleBracket false "\"<\" <".toList = some ("\"<\" ".toList,['<']) := by
  decide +kernel

/-- No angle bracket behind `s` is taken for that of an address in `s`. -/
def Anchored (s x : Text) : Prop :=
  (∀ quoted, s ≠ '"'::quoted) → findAngleBracket false s = none →
    findAngleBracket false (s++x) = none

theorem anchored_of_not_mem (hx : '<' ∉ x) : Anchored s x :=
  fun _ hangle => findAngleBracket_append_none hangle hx

theorem unquoted_append (hs : ∀ quoted, s ≠ '"'::quoted) (quoted : Text) :
    s++ ';'::y ≠ '"'::quoted := by
  intro heq
  cases s with
  | nil => cases heq
  | cons c cs => exact hs cs (by rw [(List.cons.inj heq).1])

theorem parseDisplayName_append {input input' : Text} {d : Option Text}
    (h : parseDisplayName input s = .ok (d,rest)) (hx : Anchored s (';'::y)) :
    parseDisplayName input' (s++ ';'::y) = .ok (d,rest++ ';'::y) := by
  by_cases hquote : ∃ quoted, s = '"'::quoted
  · obtain ⟨quoted,rfl⟩ := hquote
    rw [parseDisplayName] at h
    obtain ⟨⟨name,after⟩,hquoted,h⟩ := bind_ok h
    dsimp only at h
    split_ifs at h with hhead
    cases h
    have hne : trimStart after ≠ [] := fun hnil => by rw [hnil] at hhead; cases hhead
    rw [List.cons_append, parseDisplayName, parseQuotedString_append hquoted]
    simp only [bind, Except.bind, trimStart_append _ hne, List.head?_append, hhead, Option.some_or,
      if_true]
    rfl
  · have hs := not_exists.mp hquote
    rw [parseDisplayName.eq_2 _ _ hs] at h
    rw [parseDisplayName.eq_2 _ _ (unquoted_append hs)]
    cases hangle : findAngleBracket false s with
    | none =>
      rw [hangle] at h
      cases h
      rw [hx hs hangle]
    | some p =>
      rw [hangle] at h
      cases h
      rw [findAngleBracket_append hangle]

theorem parseAddrSpec_append {input input' u : Text}
    (h : parseAddrSpec input rest = .ok (u,after)) :
    parseAddrSpec input' (rest++ ';'::y) = .ok (u,after++ ';'::y) := by
  have hbare : (∀ inner, rest = '<'::inner → False) →
      parseAddrSpec input' (rest++ ';'::y) = .ok (u,after++ ';'::y) := by
    intro hne
    have hne' : ∀ inner, rest++ ';'::y = '<'::inner → False := by
      intro inner heq
      cases rest with
      | nil => cases heq
      | cons a as => exact hne as (by rw [(List.cons.inj heq).1])
    rw [parseAddrSpec.eq_2 _ _ hne] at h
    rw [parseAddrSpec.eq_2 _ _ hne']
    cases hsplit : splitFirst ';' rest with
    | none =>
      rw [hsplit] at h
      cases h
      rw [splitFirst_append (splitFirst_not_mem hsplit)]
      rfl
    | some p =>
      rw [hsplit] at h
      cases h
      rw [splitFirst_extend hsplit]
      rfl
  cases rest with
  | nil => exact hbare (fun _ heq => by cases heq)
  | cons c inner =>
    by_cases hc : c = '<'
    · subst hc
      rw [parseAddrSpec] at h
      rw [List.cons_append, parseAddrSpec]
      cases hsplit : splitFirst '>' inner with
      | none => rw [hsplit] at h; cases h
      | some p =>
        rw [hsplit] at h
        cases h
        rw [splitFirst_extend hsplit]
    · exact hbare (fun _ heq => hc (List.cons.inj heq).1)

def nameAddrCut (input s : Text) : Except SipError (Option Text × Text × Text) := do
  let (displayName,rest) ← parseDisplayName input s
  let (uriText,afterUri) ← parseAddrSpec input rest
  return (displayName,uriText,afterUri)

/-- Texts that start with an angle bracket or a quote have their address in
angle brackets. -/
def Bracketed (s : Text) : Prop := s.head? = some '<' ∨ s.head? = some '"'

theorem Bracketed.anchored (hs : Bracketed s) (x : Text) : Anchored s x := by
  intro hquote hangle
  cases s with
  | nil => rcases hs with hs | hs <;> cases hs
  | cons c cs =>
    rcases hs with hc | hc <;> cases Option.some.inj hc
    · rw [findAngleBracket, if_pos rfl] at hangle
      cases hangle
    · exact absurd rfl (hquote cs)

theorem nameAddrCut_append {input input' u : Text} {d : Option Text}
    (h : nameAddrCut input s = .ok (d,u,after)) (hy : Anchored s (';'::y)) :
    nameAddrCut input' (s++ ';'::y) = .ok (d,u,after++ ';'::y) := by
  obtain ⟨⟨displayName,rest⟩,hname,h⟩ := bind_ok h
  obtain ⟨⟨uriText,afterUri⟩,hspec,h⟩ := bind_ok h
  cases h
  rw [nameAddrCut, parseDisplayName_append hname hy]
  simp only [bind, Except.bind]
  rw [parseAddrSpec_append hspec]
  rfl

theorem parseNameAddr_iff {w : Text} {a : NameAddr} :
    parseNameAddr w = .ok a ↔ trim w ≠ [] ∧ ∃ u after,
      nameAddrCut w (trim w) = .ok (a.displayName,u,after) ∧
        RsipRtp.Uri.parse (trim u) = .ok a.uri ∧
        parseParams nameAddrTrailing after = .ok a.parameters := by
  unfold parseNameAddr nameAddrCut
  by_cases hempty : trim w = []
  · simp [hempty, throw, throwThe, MonadExceptOf.throw, bind, Except.bind]
  · have hnot : (trim w).isEmpty = false := by simpa using hempty
    simp only [hnot, Bool.false_eq_true, if_false]
    constructor
    · intro h
      obtain ⟨-,-,h⟩ := bind_ok h
      obtain ⟨⟨displayName,rest⟩,hname,h⟩ := bind_ok h
      obtain ⟨⟨uriText,afterUri⟩,hspec,h⟩ := bind_ok h
      dsimp only at h
      split at h
      · cases h
      · next uri huri =>
        obtain ⟨parameters,hparams,h⟩ := bind_ok h
        cases h
        refine ⟨hempty,uriText,afterUri,?_,huri,hparams⟩
        rw [hname]
        simp only [bind, Except.bind, hspec]
        rfl
    · rintro ⟨-,u,after,hcut,huri,hparams⟩
      obtain ⟨⟨displayName,rest⟩,hname,hcut⟩ := bind_ok hcut
      obtain ⟨⟨uriText,afterUri⟩,hspec,hcut⟩ := bind_ok hcut
      cases hcut
      rw [hname]
      simp only [bind, Except.bind, hspec, huri, hparams]
      rfl

end Addresses

/-! Read from the longer text, each cut either falls where it did before or
leaves less than what was written behind. -/
section Beyond
variable {input : Text} {d : Option Text}

variable {s x y u rest after after' : Text}

theorem splitFirst_beyond {c : Char} (h : splitFirst c (s++x) = some (u,after')) :
    (∃ after, splitFirst c s = some (u,after) ∧ after' = after++x) ∨
      after'.length < x.length := by
  cases hs : splitFirst c s with
  | some p =>
    rw [splitFirst_extend hs] at h
    cases h
    exact .inl ⟨p.2,rfl,rfl⟩
  | none =>
    right
    obtain ⟨heq,-⟩ := splitFirst_eq h
    rcases List.append_eq_append_iff.mp heq with ⟨z,-,rfl⟩ | ⟨z,rfl,hz⟩
    · simp only [List.length_append, List.length_cons]
      omega
    · cases z with
      | nil =>
        rw [List.nil_append] at hz
        rw [← hz]
        exact Nat.lt_succ_self _
      | cons d z =>
        refine absurd ?_ (splitFirst_not_mem hs)
        rw [(List.cons.inj hz).1]
        simp

theorem length_parseQuotedString {name : Text} (h : parseQuotedString s = .ok (name,after)) :
    after.length < s.length := by
  induction s using parseQuotedString.induct generalizing name with
  | case1 => cases h
  | case2 => cases h
  | case3 c rest ih =>
    rw [parseQuotedString] at h
    obtain ⟨p,hp,heq⟩ := map_ok h
    cases heq
    have := ih hp
    simp only [List.length_cons]
    omega
  | case4 rest hnil hesc =>
    rw [parseQuotedString.eq_4 _ _ hnil hesc, if_pos rfl] at h
    cases h
    exact Nat.lt_succ_self _
  | case5 c rest hnil hesc hc ih =>
    rw [parseQuotedString.eq_4 _ _ hnil hesc, if_neg hc] at h
    obtain ⟨p,hp,heq⟩ := map_ok h
    cases heq
    exact (ih hp).trans (Nat.lt_succ_self _)

theorem parseQuotedString_beyond {name : Text} (h : parseQuotedString (s++x) = .ok (name,after')) :
    (∃ after, parseQuotedString s = .ok (name,after) ∧ after' = after++x) ∨
      after'.length < x.length := by
  cases hs : parseQuotedString s with
  | ok p =>
    rw [parseQuotedString_append hs] at h
    cases h
    exact .inl ⟨p.2,rfl,rfl⟩
  | error e =>
    right
    induction s using parseQuotedString.induct generalizing name with
    | case1 => exact length_parseQuotedString h
    | case2 =>
      cases x with
      | nil => cases h
      | cons c x =>
        rw [List.singleton_append, parseQuotedString] at h
        obtain ⟨p,hp,heq⟩ := map_ok h
        cases heq
        exact (length_parseQuotedString hp).trans (Nat.lt_succ_self _)
    | case3 c rest ih =>
      rw [parseQuotedString] at hs
      rw [List.cons_append, List.cons_append, parseQuotedString] at h
      obtain ⟨p,hp,heq⟩ := map_ok h
      cases heq
      cases hrest : parseQuotedString rest with
      | ok q => rw [hrest] at hs; cases hs
      | error e' =>
        rw [hrest] at hs
        cases hs
        exact ih hp hrest
    | case4 rest hnil hesc =>
      rw [parseQuotedString.eq_4 _ _ hnil hesc, if_pos rfl] at hs
      cases hs
    | case5 c rest hnil hesc hc ih =>
      have hback : c ≠ '\\' := by
        intro hback
        cases rest with
        | nil => exact hnil hback rfl
        | cons a as => exact hesc a as hback rfl
      rw [parseQuotedString.eq_4 _ _ hnil hesc, if_neg hc] at hs
      rw [List.cons_append, parseQuotedString.eq_4 _ _ (fun h => absurd h hback)
        (fun _ _ h => absurd h hback), if_neg hc] at h
      obtain ⟨p,hp,heq⟩ := map_ok h
      cases heq
      cases hrest : parseQuotedString rest with
      | ok q => rw [hrest] at hs; cases hs
      | error e' =>
        rw [hrest] at hs
        cases hs
        exact ih hp hrest

example : parseQuotedString "a\\\"b\" <" = .ok ("a\"b"," <") := by
  decide +kernel

theorem findAngleBracket_beyond {b : Bool} {leading rest' : Text} (hs : findAngleBracket b s = none)
    (h : findAngleBracket b (s++ ';'::y) = some (leading,rest')) :
    rest'.length < (';'::y).length := by
  rw [findAngleBracket_eq] at hs h
  exact cut_beyond hs (fun p hp => by cases (quoteStep_eq_none.mp hp).2) h

theorem parseDisplayName_beyond {input rest' : Text} (input' : Text)
    (h : parseDisplayName input (s++ ';'::y) = .ok (d,rest')) :
    (∃ rest, parseDisplayName input' s = .ok (d,rest) ∧ rest' = rest++ ';'::y) ∨
      rest'.length < (';'::y).length := by
  by_cases hquote : ∃ quoted, s = '"'::quoted
  · obtain ⟨quoted,rfl⟩ := hquote
    rw [List.cons_append, parseDisplayName] at h
    obtain ⟨⟨name,after⟩,hquoted,h⟩ := bind_ok h
    dsimp only at h
    split_ifs at h with hhead
    cases h
    rcases parseQuotedString_beyond hquoted with ⟨before,hbefore,rfl⟩ | hlen
    · left
      have hne : trimStart before ≠ [] := by
        intro hnil
        rw [trimStart_blank _ hnil] at hhead
        cases hhead
      rw [trimStart_append _ hne] at hhead ⊢
      rw [List.head?_append_of_ne_nil _ hne] at hhead
      refine ⟨trimStart before,?_,rfl⟩
      rw [parseDisplayName, hbefore]
      simp only [bind, Except.bind, hhead, if_true]
      rfl
    · right
      exact (List.dropWhile_suffix _).length_le.trans_lt hlen
  · have hs := not_exists.mp hquote
    rw [parseDisplayName.eq_2 _ _ (unquoted_append hs)] at h
    rw [parseDisplayName.eq_2 _ _ hs]
    cases hangle : findAngleBracket false s with
    | some p =>
      rw [findAngleBracket_append hangle] at h
      cases h
      exact .inl ⟨p.2,rfl,rfl⟩
    | none =>
      cases hlong : findAngleBracket false (s++ ';'::y) with
      | none =>
        rw [hlong] at h
        cases h
        exact .inl ⟨_,rfl,rfl⟩
      | some p =>
        rw [hlong] at h
        cases h
        exact .inr (findAngleBracket_beyond hangle hlong)

theorem length_parseAddrSpec (h : parseAddrSpec input rest = .ok (u,after)) :
    after.length ≤ rest.length := by
  unfold parseAddrSpec at h
  split at h
  · next inner =>
    cases hsplit : splitFirst '>' inner with
    | none => rw [hsplit] at h; cases h
    | some p =>
      rw [hsplit] at h
      cases h
      have hlen := congrArg List.length (splitFirst_eq hsplit).1
      simp only [List.length_append, List.length_cons] at hlen ⊢
      omega
  · cases hsplit : splitFirst ';' rest with
    | none =>
      rw [hsplit] at h
      cases h
      exact Nat.zero_le _
    | some p =>
      rw [hsplit] at h
      cases h
      have hlen := congrArg List.length (splitFirst_eq hsplit).1
      simp only [List.length_append, List.length_cons] at hlen ⊢
      omega

theorem parseAddrSpec_beyond (input' : Text)
    (h : parseAddrSpec input (rest++ ';'::y) = .ok (u,after')) :
    (∃ after, parseAddrSpec input' rest = .ok (u,after) ∧ after' = after++ ';'::y) ∨
      after'.length < (';'::y).length := by
  by_cases hangle : ∃ inner, rest = '<'::inner
  · obtain ⟨inner,rfl⟩ := hangle
    rw [List.cons_append, parseAddrSpec] at h
    cases hsplit : splitFirst '>' (inner++ ';'::y) with
    | none => rw [hsplit] at h; cases h
    | some p =>
      rw [hsplit] at h
      cases h
      rcases splitFirst_beyond hsplit with ⟨after,hafter,heq⟩ | hlen
      · exact .inl ⟨after,by rw [parseAddrSpec, hafter],heq⟩
      · exact .inr hlen
  · left
    have hne : ∀ inner, rest = '<'::inner → False := fun inner heq => hangle ⟨inner,heq⟩
    obtain ⟨p,hp⟩ : ∃ p, parseAddrSpec input' rest = .ok p := by
      rw [parseAddrSpec.eq_2 _ _ hne]
      cases splitFirst ';' rest <;> exact ⟨_,rfl⟩
    rw [parseAddrSpec_append hp] at h
    cases h
    exact ⟨p.2,hp,rfl⟩

theorem nameAddrCut_beyond (input' : Text)
    (h : nameAddrCut input (s++ ';'::y) = .ok (d,u,after')) :
    (∃ after, nameAddrCut input' s = .ok (d,u,after) ∧ after' = after++ ';'::y) ∨
      after'.length < (';'::y).length := by
  obtain ⟨⟨displayName,rest'⟩,hname,h⟩ := bind_ok h
  obtain ⟨⟨uriText,afterUri⟩,hspec,h⟩ := bind_ok h
  cases h
  rcases parseDisplayName_beyond input' hname with ⟨rest,hrest,rfl⟩ | hlen
  · rcases parseAddrSpec_beyond input' hspec with ⟨after,hafter,rfl⟩ | hlen
    · refine .inl ⟨after,?_,rfl⟩
      rw [nameAddrCut, hrest]
      simp only [bind, Except.bind, hafter]
      rfl
    · exact .inr hlen
  · exact .inr ((length_parseAddrSpec hspec).trans_lt hlen)

/-- An angle bracket behind `s` that is taken for the address's leaves less
than what stands behind `s`. -/
theorem anchored_of_cut
    (h : nameAddrCut input (s++ ';'::y) = .ok (d,u,after'))
    (hlen : (';'::y).length ≤ after'.length) : Anchored s (';'::y) := by
  intro hs hangle
  obtain ⟨⟨displayName,rest'⟩,hname,h⟩ := bind_ok h
  obtain ⟨⟨uriText,afterUri⟩,hspec,h⟩ := bind_ok h
  cases h
  cases hlong : findAngleBracket false (s++ ';'::y) with
  | none => rfl
  | some p =>
    rw [parseDisplayName.eq_2 _ _ (unquoted_append hs), hlong] at hname
    cases hname
    have hshort := (length_parseAddrSpec hspec).trans_lt (findAngleBracket_beyond hangle hlong)
    exact absurd hlen (Nat.not_le.mpr hshort)

end Beyond

end RsipRtp.NameAddrText
