import RsipRtp.InviteServer
import RsipRtp.SipHeaderBlock

/-!
# The headers of a reliable provisional response

The headers are written anew one by one.
-/

namespace RsipRtp.ReliableHeaders
open SipText SipHeader SipMessage TextShape SipHeaderBlock InviteServer

variable {acc : Headers × Bool}

variable {tags : List Text}

structure Tag (t : Text) : Prop where
  ne : t ≠ []
  trimmed : trim t = t
  lower : toAsciiLowercase t = t
  comma : ',' ∉ t

theorem trim_toAsciiLowercase (s : Text) :
    trim (toAsciiLowercase s) = toAsciiLowercase (trim s) := by
  have hspace : isWhitespace ∘ Char.toLower = isWhitespace := funext isWhitespace_toLower
  simp only [trim, trimStart, trimEnd, toAsciiLowercase, List.rdropWhile, List.dropWhile_map,
    ← List.map_reverse, hspace]

theorem toLower_toLower (c : Char) : c.toLower.toLower = c.toLower := by
  rcases toLower_cases c.toLower with h | ⟨_,hbad,_⟩
  · exact h
  · rcases toLower_cases c with h | ⟨_,_,hval⟩
    · rw [h, h]
    · omega

theorem comma_toAsciiLowercase {s : Text} (h : ',' ∉ s) : ',' ∉ toAsciiLowercase s := by
  intro hmem
  obtain ⟨c,hc,hlower⟩ := List.mem_map.mp hmem
  rcases toLower_cases c with hsame | ⟨hlow,_,hval⟩
  · exact h (hlower ▸ hsame.symm ▸ hc)
  · rw [hlower] at hval
    change 44 = c.toNat+32 at hval
    omega

theorem parseOptionTags_tags {value : Text}
    (h : parseOptionTags value = .ok tags) : tags ≠ [] ∧ ∀ t ∈ tags, Tag t := by
  unfold parseOptionTags at h
  dsimp only at h
  split_ifs at h with hempty
  cases h
  refine ⟨by simpa using hempty,fun t ht => ?_⟩
  obtain ⟨ht,hne⟩ := List.mem_filter.mp ht
  obtain ⟨piece,hpiece,rfl⟩ := List.mem_map.mp ht
  have hfree : ',' ∉ piece := fun hc => by simpa using splitOnP_forall hpiece ',' hc
  refine ⟨by simpa using hne,?_,?_,comma_toAsciiLowercase fun hc => hfree (mem_of_mem_trim hc)⟩
  · rw [trim_toAsciiLowercase, trim_trim]
  · exact List.map_map.trans (List.map_congr_left fun c _ => toLower_toLower c)

theorem join_tags (t : Text) (ts : List Text) :
    join ", " (t::ts) = [','].intercalate (t::ts.map (' '::·)) := by
  induction ts generalizing t with
  | nil => rfl
  | cons u us ih =>
    have hblank (ws : List Text) : [','].intercalate ((' '::u)::ws) =
        ' '::[','].intercalate (u::ws) := by
      cases ws <;> simp [List.intercalate]
    rw [join_cons, ih, List.map_cons, List.intercalate_cons_cons, hblank]
    simp

/-- Tags that are written with commas between them are read as they are. -/
theorem parseOptionTags_join (hne : tags ≠ []) (h : ∀ t ∈ tags, Tag t) :
    parseOptionTags (join ", " tags) = .ok tags := by
  obtain ⟨t,ts,rfl⟩ := List.exists_cons_of_ne_nil hne
  have hfree : ∀ p ∈ t::ts.map (' '::·), ',' ∉ p := by
    simpa using ⟨(h t List.mem_cons_self).comma,fun u hu => (h u (List.mem_cons_of_mem t hu)).comma⟩
  have hone : ∀ u ∈ t::ts, toAsciiLowercase (trim u) = u := fun u hu => by
    rw [(h u hu).trimmed, (h u hu).lower]
  have hread : (t::ts.map (' '::·)).map (fun u => toAsciiLowercase (trim u)) = t::ts := by
    rw [List.map_cons, List.map_map, hone t List.mem_cons_self]
    exact congrArg (t::·) ((List.map_congr_left fun u hu =>
      hone u (List.mem_cons_of_mem t hu)).trans (List.map_id ts))
  have hkept : (t::ts).filter (fun u => !u.isEmpty) = t::ts :=
    List.filter_eq_self.mpr fun u hu => by simpa using (h u hu).ne
  unfold parseOptionTags
  rw [join_tags, List.splitOn_intercalate ',' hfree (List.cons_ne_nil _ _), hread, hkept]
  rfl

theorem tag_rel100 : Tag rel100 :=
  ⟨by decide +kernel,by decide +kernel,by decide +kernel,by decide +kernel⟩

theorem hasTag_iff {t : Text} :
    hasTag tags t = true ↔ ∃ u ∈ tags, eqIgnoreAsciiCase u t = true := List.any_eq_true

theorem hasTag_addTag {tag t : Text} :
    hasTag (addTag tags tag) t = true ↔ hasTag tags t = true ∨ eqIgnoreAsciiCase tag t = true := by
  unfold addTag
  split_ifs with hthere
  · obtain ⟨u,hu,heq⟩ := hasTag_iff.mp hthere
    refine ⟨.inl,fun h => h.elim id fun htag => hasTag_iff.mpr ⟨u,hu,?_⟩⟩
    rw [eqIgnoreAsciiCase, beq_iff_eq] at *
    exact heq.trans htag
  · simp [hasTag]

theorem addTag_tags {tag : Text} (h : ∀ t ∈ tags, Tag t) (htag : Tag tag) :
    addTag tags tag ≠ [] ∧ ∀ t ∈ addTag tags tag, Tag t := by
  unfold addTag
  split_ifs with hthere
  · obtain ⟨u,hu,_⟩ := hasTag_iff.mp hthere
    exact ⟨List.ne_nil_of_mem hu,h⟩
  · refine ⟨by simp,fun t ht => ?_⟩
    rcases List.mem_append.mp ht with ht | ht
    · exact h t ht
    · exact List.mem_singleton.mp ht ▸ htag

theorem foldl_addTag {extra tags : List Text} (hne : tags ≠ []) (h : ∀ t ∈ tags, Tag t)
    (hextra : ∀ t ∈ extra, Tag t) : extra.foldl addTag tags ≠ [] ∧
      (∀ t ∈ extra.foldl addTag tags, Tag t) ∧ ∀ t, hasTag (extra.foldl addTag tags) t = true ↔
        hasTag tags t = true ∨ hasTag extra t = true := by
  induction extra generalizing tags with
  | nil => exact ⟨hne,h,fun t => by simp [hasTag]⟩
  | cons x extra ih =>
    obtain ⟨hne',h'⟩ := addTag_tags h (hextra x List.mem_cons_self)
    obtain ⟨hne'',h'',hiff⟩ := ih hne' h' fun t ht => hextra t (List.mem_cons_of_mem x ht)
    refine ⟨hne'',h'',fun t => ?_⟩
    rw [List.foldl_cons, hiff, hasTag_addTag]
    simp [hasTag, or_assoc]

/-- Any header but a `Require` line. -/
def plain (h : Header) : Bool := (requireValue h).isNone

theorem requireValue_plain {h : Header} (hplain : plain h = true) : requireValue h = none :=
  Option.isNone_iff_eq_none.mp hplain

/-- The header is a `Require` line with the tag. -/
def Lists (t : Text) (h : Header) : Prop :=
  ∃ v ∈ requireValue h, ∃ own, parseOptionTags v = .ok own ∧ hasTag own t = true

/-- The value is a list of tags, those of the lines and `100rel`. -/
def Merged (hs : List Header) (value : Text) : Prop :=
  ∃ tags, parseOptionTags value = .ok tags ∧ ∀ t, hasTag tags t = true ↔
    eqIgnoreAsciiCase rel100 t = true ∨ ∃ h ∈ hs, Lists t h

variable {hs : List Header} {h : Header} {value v t : Text} {own : List Text}

theorem lists_iff (hv : requireValue h = some v) (hown : parseOptionTags v = .ok own) :
    Lists t h ↔ hasTag own t = true := by
  simp [Lists, hv, hown]

theorem not_lists (hplain : plain h = true) : ¬Lists t h := by
  simp [Lists, requireValue_plain hplain]

theorem exists_last {P : Header → Prop} : (∃ x ∈ hs++[h], P x) ↔ (∃ x ∈ hs, P x) ∨ P h := by
  simp [or_and_right, exists_or]

theorem merged_rel100 (hplain : ∀ x ∈ hs, plain x = true) : Merged hs rel100 := by
  refine ⟨[rel100],by decide +kernel,fun t => ?_⟩
  have hnone : ¬∃ x ∈ hs, Lists t x := fun ⟨x,hx,hlists⟩ => not_lists (hplain x hx) hlists
  simp [hasTag, hnone]

theorem merged_first (hplain : ∀ x ∈ hs, plain x = true) (hv : requireValue h = some v)
    (hown : parseOptionTags v = .ok own) : Merged (hs++[h]) (mergeRequireWith100rel v) := by
  obtain ⟨hne,htags⟩ := addTag_tags (parseOptionTags_tags hown).2 tag_rel100
  refine ⟨addTag own rel100,?_,fun t => ?_⟩
  · rw [mergeRequireWith100rel, hown]
    exact parseOptionTags_join hne htags
  · have hnone : ¬∃ x ∈ hs, Lists t x := fun ⟨x,hx,hlists⟩ => not_lists (hplain x hx) hlists
    rw [hasTag_addTag, exists_last, lists_iff hv hown, or_comm, or_iff_right hnone]

theorem Merged.more (hm : Merged hs value) (hv : requireValue h = some v)
    (hown : parseOptionTags v = .ok own) : Merged (hs++[h])
      (join ", " (own.foldl addTag ((ok (parseOptionTags value)).getD []))) := by
  obtain ⟨tags,hread,hiff⟩ := hm
  obtain ⟨hne,htags⟩ := parseOptionTags_tags hread
  obtain ⟨hne',htags',hiff'⟩ := foldl_addTag hne htags (parseOptionTags_tags hown).2
  refine ⟨own.foldl addTag tags,?_,fun t => ?_⟩
  · rw [hread]
    exact parseOptionTags_join hne' htags'
  · rw [hiff', hiff, exists_last, lists_iff hv hown, or_assoc]

theorem Merged.plain (hm : Merged hs value) (hplain : plain h = true) : Merged (hs++[h]) value := by
  obtain ⟨tags,hread,hiff⟩ := hm
  refine ⟨tags,hread,fun t => ?_⟩
  rw [hiff, exists_last, or_iff_left (not_lists hplain)]

theorem mergeFirstRequire_append {extra : List Text} {xs ys : List Header}
    (h : ∀ x ∈ xs, plain x = true) : mergeFirstRequire extra (xs++.require v::ys) =
      xs++.require (join ", " (extra.foldl addTag ((ok (parseOptionTags v)).getD [])))::ys := by
  induction xs with
  | nil => rfl
  | cons x xs ih =>
    have hx := h x List.mem_cons_self
    rw [List.cons_append, List.cons_append, ← ih fun y hy => h y (List.mem_cons_of_mem x hy)]
    cases x <;> first | rfl | cases hx

/-- The headers so far: as they were, or with the one `Require` in the place
of the first. -/
def Stamping (seen : List Header) (acc : Headers × Bool) : Prop :=
  acc.2 = false ∧ acc.1.inner = seen ∧ (∀ h ∈ seen, plain h = true) ∨
  acc.2 = true ∧ ∃ before first rest value, seen = before++first::rest ∧
    (∀ h ∈ before, plain h = true) ∧ plain first = false ∧
    acc.1.inner = before++.require value::rest.filter plain ∧ Merged seen value

theorem Stamping.length_le {seen : List Header} (h : Stamping seen acc) :
    acc.1.inner.length ≤ seen.length := by
  rcases h with ⟨_,heq,_⟩ | ⟨_,before,first,rest,value,rfl,_,_,heq,_⟩
  · rw [heq]
  · have hfilter := List.length_filter_le plain rest
    rw [heq, List.length_append, List.length_append, List.length_cons, List.length_cons]
    omega

/-- One header. -/
theorem stampHeader_step {seen : List Header} {h : Header}
    (hs : Stamping seen acc) (hroom : seen.length < maxHeaders)
    (hwell : ∀ v ∈ requireValue h, (ok (parseOptionTags v)).isSome) :
    ∃ next, stampHeader acc h = some next ∧ Stamping (seen++[h]) next := by
  have hlt := hs.length_le.trans_lt hroom
  obtain ⟨headers,flag⟩ := acc
  cases hv : requireValue h with
  | none =>
    have hplain : plain h = true := by rw [plain, hv]; rfl
    obtain ⟨next,hpush,hinner⟩ := push_of_lt h hlt
    refine ⟨(next,flag),by rw [stampHeader, hv]; simp only [hpush]; rfl,?_⟩
    rcases hs with ⟨hflag,heq,hall⟩ | ⟨hflag,before,first,rest,value,rfl,hall,hfirst,heq,hm⟩
    · refine .inl ⟨hflag,by rw [hinner, heq],fun x hx => ?_⟩
      rcases List.mem_append.mp hx with hx | hx
      · exact hall x hx
      · exact List.mem_singleton.mp hx ▸ hplain
    · refine .inr ⟨hflag,before,first,rest++[h],value,by simp,hall,hfirst,?_,hm.plain hplain⟩
      rw [hinner, heq]
      simp [List.filter_append, hplain]
  | some v =>
    obtain ⟨own,hown⟩ := Option.isSome_iff_exists.mp (hwell v hv)
    have hparse := ok_eq_some.mp hown
    have hfirst : plain h = false := by rw [plain, hv]; rfl
    rcases hs with ⟨hflag,heq,hall⟩ | ⟨hflag,before,first,rest,value,rfl,hall,hreq,heq,hm⟩
    · cases hflag
      obtain ⟨next,hpush,hinner⟩ := push_of_lt (.require (mergeRequireWith100rel v)) hlt
      refine ⟨(next,true),by rw [stampHeader, hv]; simp only [hpush]; rfl,.inr ⟨rfl,seen,h,[],_,rfl,
        hall,hfirst,?_,merged_first hall hv hparse⟩⟩
      rw [hinner, heq]
      rfl
    · cases hflag
      refine ⟨(mergeIntoLastRequire headers own,true),by rw [stampHeader, hv]; simp [hown],
        .inr ⟨rfl,before,first,rest++[h],_,by simp,hall,hreq,?_,hm.more hv hparse⟩⟩
      have hskip : ∀ x ∈ (rest.filter plain).reverse, plain x = true := fun x hx =>
        (List.mem_filter.mp (List.mem_reverse.mp hx)).2
      change headers.inner = _ at heq
      change (mergeFirstRequire own headers.inner.reverse).reverse = _
      rw [heq, List.reverse_append, List.reverse_cons, List.append_assoc, List.singleton_append,
        mergeFirstRequire_append hskip]
      simp [List.filter_append, hfirst]

theorem foldlM_stampHeader {rest seen : List Header}
    (hs : Stamping seen acc) (hroom : seen.length+rest.length ≤ maxHeaders)
    (hwell : ∀ h ∈ rest, ∀ v ∈ requireValue h, (ok (parseOptionTags v)).isSome) :
    ∃ next, rest.foldlM stampHeader acc = some next ∧ Stamping (seen++rest) next := by
  induction rest generalizing seen acc with
  | nil => exact ⟨acc,rfl,by rwa [List.append_nil]⟩
  | cons h rest ih =>
    rw [List.length_cons] at hroom
    obtain ⟨next,hstep,hnext⟩ := stampHeader_step hs (by omega) (hwell h List.mem_cons_self)
    obtain ⟨last,hrun,hlast⟩ := ih hnext (by rw [List.length_append, List.length_singleton]; omega)
      fun x hx => hwell x (List.mem_cons_of_mem h hx)
    refine ⟨last,?_,by rwa [List.append_assoc] at hlast⟩
    rw [List.foldlM_cons, hstep]
    exact hrun

def isRseq : Header → Bool
  | .other key _ => eqIgnoreAsciiCase key "RSeq"
  | _ => false

def rseqHeader (rseq : ℕ) : Header := .other "RSeq" (natText rseq)

/-- One `Require` in the place of the first, or before `RSeq`, with the tags of
all; `RSeq` once and last; the other headers as they were. -/
structure Stamped (hs : List Header) (rseq : ℕ) (out : List Header) (value : Text) : Prop where
  place : out = hs.takeWhile plain++.require value::((hs.dropWhile plain).filter plain++
    [rseqHeader rseq])
  tags : Merged hs value
  require : out.filter (fun h => !plain h) = [.require value]
  rseq : out.filter isRseq = [rseqHeader rseq]
  others : out.filter (fun h => plain h && !isRseq h) = hs.filter plain

theorem stamped_of_place {hs out : List Header} {rseq : ℕ} {value : Text}
    (hfree : ∀ h ∈ hs, isRseq h = false) (htags : Merged hs value)
    (hplace : out = hs.takeWhile plain++.require value::((hs.dropWhile plain).filter plain++
      [rseqHeader rseq])) : Stamped hs rseq out value := by
  have htake : ∀ h ∈ hs.takeWhile plain, plain h = true := fun _ => List.mem_takeWhile_imp
  have hfront : ∀ h ∈ hs.takeWhile plain, isRseq h = false :=
    fun h hh => hfree h ((List.takeWhile_sublist _).subset hh)
  have hback : ∀ h ∈ (hs.dropWhile plain).filter plain, isRseq h = false :=
    fun h hh => hfree h ((List.dropWhile_sublist _).subset (List.mem_of_mem_filter hh))
  have hrest : ∀ h ∈ (hs.dropWhile plain).filter plain, plain h = true :=
    fun h hh => (List.mem_filter.mp hh).2
  have hname : eqIgnoreAsciiCase "RSeq" "Require" = false := by decide +kernel
  have hself : isRseq (rseqHeader rseq) = true ∧ plain (rseqHeader rseq) = true :=
    ⟨beq_self_eq_true _,by simpa [plain, rseqHeader, requireValue] using hname⟩
  have hreq : isRseq (.require value) = false ∧ plain (.require value) = false := ⟨rfl,rfl⟩
  subst hplace
  refine ⟨rfl,htags,?_,?_,?_⟩
  · rw [List.filter_append, List.filter_cons, List.filter_append,
      List.filter_eq_nil_iff.mpr fun h hh => by simp [htake h hh],
      List.filter_eq_nil_iff.mpr fun h hh => by simp [hrest h hh]]
    simp [hreq, hself]
  · rw [List.filter_append, List.filter_cons, List.filter_append,
      List.filter_eq_nil_iff.mpr fun h hh => by simp [hfront h hh],
      List.filter_eq_nil_iff.mpr fun h hh => by simp [hback h hh]]
    simp [hreq, hself]
  · rw [List.filter_append, List.filter_cons, List.filter_append,
      List.filter_eq_self.mpr fun h hh => by simp [htake h hh, hfront h hh],
      List.filter_eq_self.mpr fun h hh => by simp [hrest h hh, hback h hh]]
    rw [if_neg (by simp [hreq])]
    conv_rhs => rw [← List.takeWhile_append_dropWhile (p := plain) (l := hs), List.filter_append,
      List.filter_eq_self.mpr htake]
    simp [hself]

theorem Stamping.place {hs : List Header} {headers : Headers} (h : Stamping hs (headers,true)) :
    ∃ value, Merged hs value ∧
      headers.inner = hs.takeWhile plain++.require value::(hs.dropWhile plain).filter plain := by
  rcases h with ⟨hflag,_⟩ | ⟨_,before,first,rest,value,rfl,hall,hfirst,heq,hm⟩
  · cases hflag
  · have hdrop : (before++first::rest).dropWhile plain = first::rest := by
      rw [List.dropWhile_append_of_pos hall, List.dropWhile_cons_of_neg (by simp [hfirst])]
    have htake : (before++first::rest).takeWhile plain = before := by
      rw [List.takeWhile_append_of_pos hall, List.takeWhile_cons_of_neg (by simp [hfirst]),
        List.append_nil]
    refine ⟨value,hm,?_⟩
    rw [htake, hdrop, List.filter_cons_of_neg (by simp [hfirst])]
    exact heq

/-- The headers that `stamp_reliable_headers` leaves, for every response with
room for two more headers. -/
theorem reliable_headers_stamped (response : SipResponse) (rseq : ℕ)
    (hroom : response.inner.headers.inner.length+2 ≤ maxHeaders)
    (hfree : ∀ h ∈ response.inner.headers.inner, isRseq h = false)
    (hwell : ∀ h ∈ response.inner.headers.inner, ∀ v ∈ requireValue h,
      (ok (parseOptionTags v)).isSome) :
    ∃ (headers : Headers) (value : Text),
      stampReliableHeaders response rseq = some { response.inner with headers }.toBytes ∧
      Stamped response.inner.headers.inner rseq headers.inner value := by
  generalize hhs : response.inner.headers.inner = hs at *
  have hstart : Stamping [] (Headers.empty,false) := .inl ⟨rfl,rfl,by simp⟩
  obtain ⟨⟨headers,flag⟩,hrun,hlast⟩ := foldlM_stampHeader hstart (by simpa using by omega) hwell
  rw [List.nil_append] at hlast
  have hlen : headers.inner.length ≤ hs.length := hlast.length_le
  -- a response without a Require line gets one now
  obtain ⟨full,value,hfull,hm,hplace⟩ : ∃ (full : Headers) (value : Text),
      (if flag then some headers else ok (headers.push (.require rel100))) = some full ∧
      Merged hs value ∧
      full.inner = hs.takeWhile plain++.require value::(hs.dropWhile plain).filter plain := by
    cases flag with
    | true =>
      obtain ⟨value,hm,hplace⟩ := hlast.place
      exact ⟨headers,value,rfl,hm,hplace⟩
    | false =>
      rcases hlast with ⟨_,heq,hall⟩ | ⟨hflag,_⟩
      · obtain ⟨next,hpush,hinner⟩ := push_of_lt (.require rel100) (hlen.trans_lt (by omega))
        refine ⟨next,rel100,by simp only [hpush]; rfl,merged_rel100 hall,?_⟩
        rw [hinner, List.takeWhile_eq_self_iff.mpr hall, List.dropWhile_eq_nil_iff.mpr hall]
        exact congrArg (·++_) heq
      · cases hflag
  have hroom' : full.inner.length < maxHeaders := by
    have hfilter := List.length_filter_le plain (hs.dropWhile plain)
    have hsplit := congrArg List.length (List.takeWhile_append_dropWhile (p := plain) (l := hs))
    rw [List.length_append] at hsplit
    rw [hplace, List.length_append, List.length_cons]
    omega
  obtain ⟨stamped,hpush,hinner⟩ := push_of_lt (rseqHeader rseq) hroom'
  refine ⟨stamped,value,?_,stamped_of_place hfree hm (by rw [hinner, hplace]; simp)⟩
  have hthen : stampReliableHeaders response rseq =
      (if flag then some headers else ok (headers.push (.require rel100))).bind fun full =>
        (ok (full.push (rseqHeader rseq))).bind fun headers =>
          some { response.inner with headers }.toBytes := by
    rw [stampReliableHeaders, hhs, hrun]
    cases flag <;> rfl
  rw [hthen, hfull, Option.bind_some, hpush]
  rfl

def preconditioned : SipResponse where
  inner := { (createResponse .invite testBranch 183).inner with
    headers := ⟨[.require "precondition",.contentLength "0",.other "require" "Timer, 100Rel"],
      by simp [maxHeaders]⟩ }

theorem preconditioned_stamped : ∃ (headers : Headers) (value : Text),
    stampReliableHeaders preconditioned 7 = some { preconditioned.inner with headers }.toBytes ∧
    Stamped preconditioned.inner.headers.inner 7 headers.inner value :=
  reliable_headers_stamped preconditioned 7 (by decide) (by decide +kernel) (by decide +kernel)

end RsipRtp.ReliableHeaders
