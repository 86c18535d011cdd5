import RsipRtp.Dialog
import RsipRtp.ListSearch
import RsipRtp.NameAddrText
import RsipRtp.ParamText

/-!
# The route set of a list of Record-Route values

The values are cut at every comma, and of the pieces those that open with a
URI in angle brackets become routes.
-/

namespace RsipRtp.RecordRoutes
open SipText TextShape ListSearch Uri SipHeader Dialog

structure Entry where
  text : Text
  addr : NameAddr
  parses : parseNameAddr text = .ok addr

def headerValue (entries : List Entry) : Text := join [','] (entries.map Entry.text)

def ordered {α : Type} (reverse : Bool) (xs : List α) : List α :=
  if reverse then xs.reverse else xs

/-- `is_loose_route` of a URI. -/
def hasLr (u : SipUri) : Bool := u.params.any (fun p => eqIgnoreAsciiCase p.1 "lr")

/-- Whether the entry has the parameter `lr` behind its URI. -/
def Entry.lrBehind (e : Entry) : Bool :=
  e.addr.parameters.any (fun p => eqIgnoreAsciiCase p.1 "lr")

/-- One route per entry, with the URI of the entry and its own parameter `lr`
behind it. The set is loose exactly if the first route has the parameter, in its
URI or behind it. -/
def Conveyed (entries : List Entry) (set : RouteSet) : Prop :=
  set.routes = entries.map (fun e => RecordRoute.toHeaderValue ⟨e.addr.uri,e.lrBehind⟩) ∧
    set.looseRouting = entries.head?.any (fun e => hasLr e.addr.uri || e.lrBehind)

/-- Up to its first comma the text is a URI in angle brackets and what stands
behind it. -/
def Opens (t uri params : Text) : Prop :=
  trim (t.takeWhile (· != ',')) = '<'::(uri++ '>'::params) ∧ '>' ∉ uri

/-- An entry that begins with its URI in angle brackets, without a comma in it,
and that has `lr` written between the bracket and the first comma if and only if
it has the parameter. -/
def Plain (e : Entry) : Prop :=
  ∃ uri params, Opens e.text uri params ∧ decide ("lr" <:+: params) = e.lrBehind

/-- Nothing behind a comma of the text begins with an angle bracket. -/
def Tidy (t : Text) : Prop := ∀ piece ∈ (t.splitOn ',').tail, (trim piece).head? ≠ some '<'

instance (t : Text) : Decidable (Tidy t) :=
  inferInstanceAs (Decidable (∀ piece ∈ (t.splitOn ',').tail, _))

def pieces (t : Text) : List RecordRoute :=
  (t.splitOn ',').filterMap (fun piece => ok (parseRecordRoute piece))

theorem pieces_append_comma (s t : Text) : pieces (s++ ','::t) = pieces s++pieces t := by
  rw [pieces, List.splitOn, List.splitOnP_append_cons s t rfl, List.filterMap_append]
  rfl

theorem pieces_headerValue (entries : List Entry) :
    pieces (headerValue entries) = entries.flatMap (fun e => pieces e.text) := by
  unfold headerValue
  induction entries with
  | nil => rfl
  | cons e entries ih =>
    cases entries with
    | nil => simp [join]
    | cons f entries =>
      rw [List.map_cons, List.map_cons, join_cons, List.singleton_append, pieces_append_comma,
        ← List.map_cons, ih]
      rfl

theorem parseAllRecordRoutes_values (values : List (List Entry)) :
    parseAllRecordRoutes (values.map headerValue) =
      values.flatten.flatMap (fun e => pieces e.text) := by
  have hpieces : parseAllRecordRoutes (values.map headerValue) =
      values.flatMap (fun entries => pieces (headerValue entries)) := List.flatMap_map ..
  rw [hpieces, List.flatten_eq_flatMap, List.flatMap_assoc]
  exact congrArg (values.flatMap ·) (funext pieces_headerValue)

theorem ordered_map {α β : Type} (reverse : Bool) (f : α → β) (xs : List α) :
    ordered reverse (xs.map f) = (ordered reverse xs).map f := by
  cases reverse
  · rfl
  · exact List.map_reverse.symm

theorem ordered_inj {α : Type} (reverse : Bool) {xs ys : List α} :
    ordered reverse xs = ordered reverse ys ↔ xs = ys := by
  cases reverse
  · exact Iff.rfl
  · exact List.reverse_inj

theorem toHeaderValue_inj {p q : RecordRoute} :
    p.toHeaderValue = q.toHeaderValue ↔ display p.uri = display q.uri ∧ p.lr = q.lr := by
  obtain ⟨u,l⟩ := p
  obtain ⟨v,m⟩ := q
  have hlast (s t : Text) : s++ ">;lr" ≠ t++['>'] := by
    intro h
    have hends : some 'r' = some '>' := by
      simpa [List.getLast?_append] using congrArg List.getLast? h
    cases hends
  cases l <;> cases m <;> simp only [RecordRoute.toHeaderValue, if_true, Bool.false_eq_true,
    if_false]
  · simp
  · simpa using fun h => hlast _ _ h.symm
  · simpa using hlast _ _
  · simp

/-! ## The piece of an entry -/

theorem splitOn_takeWhile (t : Text) : t.splitOn ',' =
    t.takeWhile (· != ',')::(t.splitOn ',').tail := by
  induction t with
  | nil => rfl
  | cons c t ih =>
    rw [List.splitOn, List.splitOnP_cons_eq_if_modifyHead, ← List.splitOn]
    by_cases hc : c = ','
    · simp [hc]
    · rw [ih]
      simp [hc]

theorem parseRecordRoute_opens {piece uri params : Text}
    (h : trim piece = '<'::(uri++ '>'::params)) (huri : '>' ∉ uri) : parseRecordRoute piece =
      (parse uri).map (fun uri => { uri, lr := decide ("lr" <:+: params) }) := by
  unfold parseRecordRoute
  rw [h]
  simp only [splitFirst_append huri]

theorem parseRecordRoute_ok {piece : Text} {r : RecordRoute} (h : parseRecordRoute piece = .ok r) :
    ∃ uri params, trim piece = '<'::(uri++ '>'::params) ∧ '>' ∉ uri := by
  unfold parseRecordRoute at h
  split at h
  · rename_i inner hinner
    split at h
    · cases h
    · rename_i uri params hsplit
      obtain ⟨rfl,huri⟩ := splitFirst_eq hsplit
      exact ⟨uri,params,hinner,huri⟩
  · cases h

/-- The URI between the brackets is that of the entry. -/
theorem Entry.parse_opens (e : Entry) {uri params : Text} (h : Opens e.text uri params) :
    parse uri = .ok e.addr.uri := by
  obtain ⟨hfirst,huri⟩ := h
  obtain ⟨gap,hgap⟩ := List.rdropWhile_prefix isWhitespace
    (trimStart (e.text.takeWhile (· != ',')))
  have hstart : trimStart (e.text.takeWhile (· != ',')) = '<'::(uri++ '>'::params)++gap :=
    hgap.symm.trans (congrArg (·++gap) hfirst)
  have hwhole : trim e.text =
      '<'::(uri++ '>'::trimEnd (params++gap++e.text.dropWhile (· != ','))) := by
    rw [trim]
    nth_rewrite 1 [← List.takeWhile_append_dropWhile (p := (· != ',')) (l := e.text)]
    rw [NameAddrText.trimStart_append _ (by simp [hstart]), hstart]
    simpa using ParamText.trimEnd_append (c := '>') ('<'::uri) _ rfl
  obtain ⟨-,u,after,hcut,hparse,-⟩ := NameAddrText.parseNameAddr_iff.mp e.parses
  rw [hwhole] at hcut
  obtain ⟨⟨displayName,rest⟩,hname,hcut⟩ := bind_ok hcut
  rw [parseDisplayName.eq_2 _ _ (fun _ heq => by cases heq), findAngleBracket, if_pos rfl] at hname
  cases hname
  obtain ⟨⟨uriText,afterUri⟩,hspec,hcut⟩ := bind_ok hcut
  simp only [parseAddrSpec, splitFirst_append huri] at hspec
  cases hspec
  obtain ⟨-,hu⟩ := Prod.mk.inj (Except.ok.inj hcut)
  obtain ⟨rfl,-⟩ := Prod.mk.inj hu
  rwa [parse, trim_trim] at hparse

theorem Entry.pieces_tidy (e : Entry) (h : Tidy e.text) : pieces e.text =
    (ok (parseRecordRoute (e.text.takeWhile (· != ',')))).toList := by
  have hrest : (e.text.splitOn ',').tail.filterMap
      (fun piece => ok (parseRecordRoute piece)) = [] := by
    refine List.filterMap_eq_nil_iff.mpr fun piece hpiece => ?_
    cases hparse : parseRecordRoute piece with
    | error => rfl
    | ok r =>
      obtain ⟨uri,params,htrim,-⟩ := parseRecordRoute_ok hparse
      exact absurd (by rw [htrim]; rfl) (h piece hpiece)
  rw [pieces, splitOn_takeWhile, List.filterMap_cons, hrest]
  cases ok (parseRecordRoute (e.text.takeWhile (· != ','))) <;> rfl

theorem Entry.pieces_opens (e : Entry) (htidy : Tidy e.text) {uri params : Text}
    (h : Opens e.text uri params) : pieces e.text = [⟨e.addr.uri,decide ("lr" <:+: params)⟩] := by
  rw [e.pieces_tidy htidy, parseRecordRoute_opens h.1 h.2, e.parse_opens h]
  rfl

/-- The only route of a tidy entry is the entry's if and only if it is plain. -/
theorem Entry.route_iff (e : Entry) (htidy : Tidy e.text) :
    (pieces e.text).map RecordRoute.toHeaderValue =
      [RecordRoute.toHeaderValue ⟨e.addr.uri,e.lrBehind⟩] ↔ Plain e := by
  constructor
  · intro h
    cases hparse : parseRecordRoute (e.text.takeWhile (· != ',')) with
    | error =>
      rw [e.pieces_tidy htidy, hparse] at h
      cases h
    | ok r =>
      obtain ⟨uri,params,hopens⟩ := parseRecordRoute_ok hparse
      rw [e.pieces_opens htidy hopens, List.map_singleton, List.singleton_inj,
        toHeaderValue_inj] at h
      exact ⟨uri,params,hopens,h.2⟩
  · rintro ⟨uri,params,hopens,hlr⟩
    rw [e.pieces_opens htidy hopens, hlr]
    rfl

/-! ## The whole list -/

/-- If nothing behind a comma begins with an angle bracket, the set conveys the
entries of the values, in their order or reversed, exactly if every entry is
plain and the first one received has the parameter `lr` behind its URI just when
the first one of the set has it anywhere. -/
theorem routes_conveyed_iff (values : List (List Entry)) (reverse : Bool)
    (htidy : ∀ e ∈ values.flatten, Tidy e.text) :
    Conveyed (ordered reverse values.flatten)
        (RouteSet.fromRecordRouteValues (values.map headerValue) reverse) ↔
      (∀ e ∈ values.flatten, Plain e) ∧ values.flatten.head?.any Entry.lrBehind =
        (ordered reverse values.flatten).head?.any (fun e => hasLr e.addr.uri || e.lrBehind) := by
  generalize hentries : values.flatten = entries at htidy ⊢
  have hset : RouteSet.fromRecordRouteValues (values.map headerValue) reverse =
      ⟨ordered reverse (entries.flatMap fun e => (pieces e.text).map RecordRoute.toHeaderValue),
        ((entries.flatMap fun e => pieces e.text).head?.map RecordRoute.lr).getD false⟩ := by
    rw [RouteSet.fromRecordRouteValues, parseAllRecordRoutes_values, hentries, ← List.map_flatMap]
    rfl
  have hone : ∀ e ∈ entries, ((pieces e.text).map RecordRoute.toHeaderValue).length ≤ 1 := by
    intro e he
    rw [e.pieces_tidy (htidy e he), List.length_map]
    exact Option.length_toList_le
  rw [hset, Conveyed, ← ordered_map, ordered_inj, flatMap_eq_map_iff hone]
  have hplain : (∀ e ∈ entries, (pieces e.text).map RecordRoute.toHeaderValue =
      [RecordRoute.toHeaderValue ⟨e.addr.uri,e.lrBehind⟩]) ↔ ∀ e ∈ entries, Plain e :=
    forall₂_congr fun e he => e.route_iff (htidy e he)
  rw [hplain]
  refine and_congr_right fun hall => ?_
  have hflag : ((entries.flatMap fun e => pieces e.text).head?.map RecordRoute.lr).getD false =
      entries.head?.any Entry.lrBehind := by
    cases entries with
    | nil => rfl
    | cons e entries =>
      obtain ⟨uri,params,hopens,hlr⟩ := hall e List.mem_cons_self
      rw [List.flatMap_cons, e.pieces_opens (htidy e List.mem_cons_self) hopens]
      exact hlr
  rw [hflag]

def routeEntry (text host : Text) (h : parseNameAddr text =
    .ok ⟨none,⟨.sip,none,host,none,[],[]⟩,[("lr",none)]⟩) : Entry := ⟨text,_,h⟩

def firstProxy : Entry := routeEntry "<sip:a.example.com>;lr" "a.example.com" (by decide +kernel)

def secondProxy : Entry :=
  routeEntry " <sip:b.example.com> ; lr" "b.example.com" (by decide +kernel)

theorem lr_behind_conveyed : Conveyed (ordered true [firstProxy,secondProxy])
    (RouteSet.fromRecordRouteValues ([[firstProxy,secondProxy]].map headerValue) true) := by
  refine (routes_conveyed_iff [[firstProxy,secondProxy]] true ?_).mpr ⟨?_,by decide +kernel⟩
  · simp only [List.flatten_cons, List.flatten_nil, List.append_nil, List.forall_mem_cons]
    exact ⟨by decide +kernel,by decide +kernel,by simp⟩
  · simp only [List.flatten_cons, List.flatten_nil, List.append_nil, List.forall_mem_cons]
    exact ⟨⟨"sip:a.example.com",";lr",⟨by decide +kernel,by decide +kernel⟩,by decide +kernel⟩,
      ⟨"sip:b.example.com"," ; lr",⟨by decide +kernel,by decide +kernel⟩,by decide +kernel⟩,by simp⟩

def proxyEntry : Entry where
  text := "<sip:proxy.example.com;lr>"
  addr := ⟨none,⟨.sip,none,"proxy.example.com",none,[("lr",none)],[]⟩,[]⟩
  parses := by decide +kernel

theorem lr_in_uri_missed : ¬Conveyed (ordered false [proxyEntry])
    (RouteSet.fromRecordRouteValues ([[proxyEntry]].map headerValue) false) := by
  rintro ⟨-,hloose⟩
  revert hloose
  decide +kernel

end RsipRtp.RecordRoutes
