import RsipRtp.SdpAgreement

/-!
# Resolving a SIP URI

The resolver cuts host, port and `transport` parameter out of the URI text and
then asks for NAPTR, SRV and address records.
-/

namespace RsipRtp.Resolver
open SipText TextShape StunMessage Sdp

/-! ## The URI text -/

inductive TransportProtocol where
  | udp
  | tcp
  | tls
deriving DecidableEq

/-- `str::trim_start_matches` of a text. The text gets shorter with every
match, so its length is fuel enough. -/
def trimStartMatches (pat s : Text) : Text := go s.length s
where
  go : ℕ → Text → Text
  | 0, s => s
  | n+1, s => match stripPrefix pat s with
    | some rest => go n rest
    | none => s

def afterLast (c : Char) (s : Text) : Text := ((splitLast c s).map Prod.snd).getD s

def hostAndPort (hostPort : Text) : Text × Option ℕ :=
  if hostPort.head? = some '[' then
    match splitFirst ']' hostPort with
    | some (h,':'::p) => (h++[']'],parseU16 p)
    | _ => (hostPort,none)
  else match splitFirst ':' hostPort with
    | some (h,p) => (h,parseU16 p)
    | none => (hostPort,none)

section Parsing
variable (std : StdText)

def transportParam (param : Text) : Option TransportProtocol := do
  let (k,v) ← splitFirst '=' param
  if eqIgnoreAsciiCase k "transport" then
    if std.toLowercase v = "udp" then some .udp
    else if std.toLowercase v = "tcp" then some .tcp
    else if std.toLowercase v = "tls" then some .tls
    else none
  else none

def transportOf (params : Text) : Option TransportProtocol :=
  (params.splitOn ';').findSome? (transportParam std)

def trimScheme (uri : Text) : Text :=
  trimStartMatches "SIPS:" (trimStartMatches "SIP:"
    (trimStartMatches "sips:" (trimStartMatches "sip:" uri)))

def parseSipUriInternal (uri : Text) : Text × Option ℕ × Option TransportProtocol :=
  let domainPart := afterLast '@' (trimScheme uri)
  let (hostPort,params) := match splitFirst ';' domainPart with
    | some (h,p) => (h,some p)
    | none => (domainPart,none)
  let (host,explicitPort) := hostAndPort hostPort
  (host,explicitPort,params.bind (transportOf std))

end Parsing

/-! ## The lookups -/

inductive ResolverError where
  | lookupFailed (text : Text)
  | noRecords (text : Text)
  | invalidDomain (text : Text)

structure ResolvedTarget where
  host : Text
  port : ℕ
  transport : TransportProtocol
  priority : ℕ
  weight : ℕ
  addresses : List IpAddr

structure NaptrRecord where
  order : ℕ
  preference : ℕ
  services : Text
  replacement : Text

structure SrvRecord where
  target : Text
  port : ℕ
  priority : ℕ
  weight : ℕ

abbrev Result (α : Type) := Except ResolverError α

/-- The DNS client: a NAPTR question may be answered with records of other
types as well. -/
structure Dns (σ : Type) where
  lookup : Text → StateM σ (Result (List (Option NaptrRecord)))
  srvLookup : Text → StateM σ (Result (List SrvRecord))
  lookupIp : Text → StateM σ (Result (List IpAddr))

def parseNaptrTransport (service : Text) : Option TransportProtocol :=
  if service = "SIP+D2U" ∨ service = "sip+d2u" then some .udp
  else if service = "SIP+D2T" ∨ service = "sip+d2t" then some .tcp
  else if service = "SIPS+D2T" ∨ service = "sips+d2t" then some .tls
  else none

def collectNaptrServices (entries : List NaptrRecord) : List (Text × TransportProtocol) :=
  let services := entries.filterMap (fun e => (parseNaptrTransport e.services).map (e,·))
  let sorted := services.mergeSort (fun a b => a.1.order < b.1.order ||
    (a.1.order == b.1.order && a.1.preference ≤ b.1.preference))
  sorted.map (fun s => (s.1.replacement,s.2))

def collectNaptrRecords (records : List (Option NaptrRecord)) : List (Text × TransportProtocol) :=
  collectNaptrServices (records.filterMap id)

def buildAddressTargets (domain : Text) (transport : TransportProtocol) (addresses : List IpAddr) :
    Except ResolverError (List ResolvedTarget) :=
  if addresses.isEmpty then .error (.noRecords domain)
  else
    let port := match transport with
      | .udp | .tcp => 5060
      | .tls => 5061
    .ok [{ host := domain, port, transport, priority := 0, weight := 0, addresses }]

section Lookups
variable {σ : Type} (std : StdText) (dns : Dns σ)

def lookupNaptr (domain : Text) : StateM σ (Result (List (Text × TransportProtocol))) := do
  return (← dns.lookup domain).map collectNaptrRecords

def resolveAddresses (host : Text) : StateM σ (Result (List IpAddr)) :=
  match std.parseIp host with
  | some ip => return .ok [ip]
  | none => dns.lookupIp host

def srvTarget (transport : TransportProtocol) (record : SrvRecord) : StateM σ ResolvedTarget := do
  let host := record.target.rdropWhile (· == '.')
  let addresses ← resolveAddresses std dns host
  return { host, port := record.port, transport, priority := record.priority
           weight := record.weight, addresses := addresses.toOption.getD [] }

def lookupSrv (srvName : Text) (transport : TransportProtocol) :
    StateM σ (Result (List ResolvedTarget)) := do
  match ← dns.srvLookup srvName with
  | .error e => return .error e
  | .ok records =>
    let targets ← records.mapM (srvTarget std dns transport)
    return .ok (targets.mergeSort (fun a b => a.priority < b.priority ||
      (a.priority == b.priority && b.weight ≤ a.weight)))

def lookupAddress (domain : Text) (transport : TransportProtocol) :
    StateM σ (Result (List ResolvedTarget)) := do
  match ← resolveAddresses std dns domain with
  | .error e => return .error e
  | .ok addresses => return buildAddressTargets domain transport addresses

end Lookups

section Resolve
variable {σ : Type}

def appendTargets (preferred : Option TransportProtocol)
    (lookupSrv : Text → TransportProtocol → StateM σ (Result (List ResolvedTarget))) :
    List ResolvedTarget → List (Text × TransportProtocol) → StateM σ (List ResolvedTarget)
  | targets, [] => return targets
  | targets, (srvName,transport)::services => do
    if preferred.any (· ≠ transport) then appendTargets preferred lookupSrv targets services
    else match ← lookupSrv srvName transport with
      | .ok found => appendTargets preferred lookupSrv (targets++found) services
      | .error _ => appendTargets preferred lookupSrv targets services

def resolveFromNaptrInner (services : List (Text × TransportProtocol))
    (preferred : Option TransportProtocol)
    (lookupSrv : Text → TransportProtocol → StateM σ (Result (List ResolvedTarget))) :
    StateM σ (Result (List ResolvedTarget)) := do
  let targets ← appendTargets preferred lookupSrv [] services
  if targets.isEmpty then return .error (.noRecords "NAPTR targets")
  else return .ok targets

def srvName (domain : Text) : TransportProtocol → Text
  | .udp => "_sip._udp."++domain
  | .tcp => "_sip._tcp."++domain
  | .tls => "_sips._tcp."++domain

def firstTargets (domain : Text)
    (lookupSrv : Text → TransportProtocol → StateM σ (Result (List ResolvedTarget))) :
    List TransportProtocol → StateM σ (Option (List ResolvedTarget))
  | [] => return none
  | transport::transports => do
    match ← lookupSrv (srvName domain transport) transport with
    | .ok (t::ts) => return some (t::ts)
    | _ => firstTargets domain lookupSrv transports

def resolveWith (domain : Text) (preferred : Option TransportProtocol)
    (lookupNaptr : Text → StateM σ (Result (List (Text × TransportProtocol))))
    (lookupSrv lookupAddress : Text → TransportProtocol → StateM σ (Result (List ResolvedTarget))) :
    StateM σ (Result (List ResolvedTarget)) := do
  match ← lookupNaptr domain with
  | .ok (s::services) => resolveFromNaptrInner (s::services) preferred lookupSrv
  | _ =>
    let transports := (preferred.map ([·])).getD [.tls,.tcp,.udp]
    match ← firstTargets domain lookupSrv transports with
    | some targets => return .ok targets
    | none => lookupAddress domain (preferred.getD .udp)

variable (std : StdText) (dns : Dns σ)

def resolve (domain : Text) (preferred : Option TransportProtocol) :
    StateM σ (Result (List ResolvedTarget)) :=
  resolveWith domain preferred (lookupNaptr dns) (lookupSrv std dns) (lookupAddress std dns)

def lookupHost (host : Text) : Text :=
  match host with
  | '['::value => if value.getLast? = some ']' then value.dropLast else host
  | _ => host

def resolveUri (uri : Text) : StateM σ (Result (List ResolvedTarget)) :=
  match parseSipUriInternal std uri with
  | (host,some port,transport) => do
    let addresses ← resolveAddresses std dns (lookupHost host)
    return .ok [{ host, port, transport := transport.getD .udp, priority := 0, weight := 0
                  addresses := addresses.toOption.getD [] }]
  | (host,none,transport) => resolve std dns host transport

end Resolve

/-! ## What every answer gives -/

section Ensures
variable {σ α β : Type}

def Ensures (x : StateM σ α) (P : α → Prop) : Prop := ∀ s, P (x s).1

theorem ensures_pure {P : α → Prop} {a : α} (h : P a) : Ensures (pure a : StateM σ α) P :=
  fun _ => h

theorem ensures_bind {x : StateM σ α} {f : α → StateM σ β} {Q : α → Prop} {P : β → Prop}
    (hx : Ensures x Q) (hf : ∀ a, Q a → Ensures (f a) P) : Ensures (x >>= f) P :=
  fun s => hf _ (hx s) _

theorem ensures_any (x : StateM σ α) : Ensures x fun _ => True := fun _ => trivial

theorem ensures_mapM {f : α → StateM σ β} {P : β → Prop} (h : ∀ a, Ensures (f a) P)
    (l : List α) : Ensures (l.mapM f) (∀ b ∈ ·,P b) := by
  induction l with
  | nil => exact ensures_pure (by simp)
  | cons a l ih =>
    rw [List.mapM_cons]
    refine ensures_bind (h a) fun b hb => ensures_bind ih fun bs hbs => ensures_pure ?_
    exact List.forall_mem_cons.mpr ⟨hb,hbs⟩

end Ensures

section Transport
variable {σ : Type} {t : TransportProtocol}

def Over (t : TransportProtocol) (r : Result (List ResolvedTarget)) : Prop :=
  ∀ targets, r = .ok targets → ∀ x ∈ targets, x.transport = t

theorem over_error (e : ResolverError) : Over t (.error e) := fun _ h => by cases h

theorem over_ok {targets : List ResolvedTarget} (h : ∀ x ∈ targets, x.transport = t) :
    Over t (.ok targets) := fun _ hs => Except.ok.inj hs ▸ h

theorem srvTarget_transport (std : StdText) (dns : Dns σ) (record : SrvRecord) :
    Ensures (srvTarget std dns t record) (·.transport = t) :=
  ensures_bind (ensures_any _) fun _ _ => ensures_pure rfl

theorem lookupSrv_over (std : StdText) (dns : Dns σ) (name : Text) :
    Ensures (lookupSrv std dns name t) (Over t) := by
  refine ensures_bind (ensures_any _) fun answer _ => ?_
  cases answer with
  | error e => exact ensures_pure (over_error e)
  | ok records =>
    refine ensures_bind (ensures_mapM (srvTarget_transport std dns) records) fun targets h => ?_
    exact ensures_pure (over_ok fun x hx => h x (List.mem_mergeSort.mp hx))

theorem lookupAddress_over (std : StdText) (dns : Dns σ) (domain : Text) :
    Ensures (lookupAddress std dns domain t) (Over t) := by
  refine ensures_bind (ensures_any _) fun answer _ => ?_
  cases answer with
  | error e => exact ensures_pure (over_error e)
  | ok addresses =>
    refine ensures_pure ?_
    unfold buildAddressTargets
    split_ifs
    · exact over_error _
    · exact over_ok (by simp)

section Preferred
variable {lookupSrv lookupAddress : Text → TransportProtocol →
  StateM σ (Result (List ResolvedTarget))}
  (hsrv : ∀ name, Ensures (lookupSrv name t) (Over t))

include hsrv

theorem appendTargets_over (targets : List ResolvedTarget)
    (services : List (Text × TransportProtocol)) (h : ∀ x ∈ targets, x.transport = t) :
    Ensures (appendTargets (some t) lookupSrv targets services)
      (∀ x ∈ ·, x.transport = t) := by
  induction services generalizing targets with
  | nil => exact ensures_pure h
  | cons s services ih =>
    rw [appendTargets]
    split_ifs with hpref
    · exact ih targets h
    · obtain rfl : t = s.2 := by simpa using hpref
      refine ensures_bind (hsrv s.1) fun answer hanswer => ?_
      cases answer with
      | error e => exact ih targets h
      | ok found =>
        refine ih _ fun x hx => ?_
        rcases List.mem_append.mp hx with hold | hnew
        · exact h x hold
        · exact hanswer found rfl x hnew

theorem firstTargets_over (domain : Text) : Ensures (firstTargets domain lookupSrv [t])
    (∀ targets, · = some targets → ∀ x ∈ targets, x.transport = t) := by
  refine ensures_bind (hsrv _) fun answer hanswer => ?_
  split
  · refine ensures_pure fun targets h => ?_
    cases h
    exact hanswer _ rfl
  · exact ensures_pure fun targets h => by cases h

theorem resolveWith_over (haddress : ∀ domain, Ensures (lookupAddress domain t) (Over t))
    (domain : Text) (lookupNaptr : Text → StateM σ (Result (List (Text × TransportProtocol)))) :
    Ensures (resolveWith domain (some t) lookupNaptr lookupSrv lookupAddress) (Over t) := by
  refine ensures_bind (ensures_any _) fun answer _ => ?_
  split
  · refine ensures_bind (appendTargets_over hsrv [] _ (by simp)) fun targets h => ?_
    split_ifs
    · exact ensures_pure (over_error _)
    · exact ensures_pure (over_ok h)
  · refine ensures_bind (firstTargets_over hsrv domain) fun found h => ?_
    cases found with
    | none => exact haddress domain
    | some targets => exact ensures_pure (over_ok (h targets rfl))

end Preferred

end Transport

/-! ## The parameter that asks for a transport -/

/-- A text loses nothing but `pat` after `pat` from its front. -/
theorem trimStartMatches_go (pat : Text) (n : ℕ) (s : Text) :
    ∃ k, s = (List.replicate k pat).flatten++trimStartMatches.go pat n s := by
  induction n generalizing s with
  | zero => exact ⟨0,rfl⟩
  | succ n ih =>
    rw [trimStartMatches.go]
    cases h : stripPrefix pat s with
    | none => exact ⟨0,rfl⟩
    | some rest =>
      obtain ⟨k,hk⟩ := ih rest
      have hs : s = pat++rest := by
        unfold stripPrefix at h
        split_ifs at h with hpre
        cases h
        exact (List.prefix_iff_eq_append.mp (List.isPrefixOf_iff_prefix.mp hpre)).symm
      refine ⟨k+1,?_⟩
      rw [List.replicate_succ, List.flatten_cons, List.append_assoc, ← hk]
      exact hs

theorem trimStartMatches_eq (pat s : Text) :
    ∃ front, s = front++trimStartMatches pat s ∧ ∀ c ∈ front, c ∈ pat := by
  obtain ⟨k,hk⟩ := trimStartMatches_go pat s.length s
  refine ⟨_,hk,fun c hc => ?_⟩
  obtain ⟨w,hw,hc⟩ := List.mem_flatten.mp hc
  rwa [List.eq_of_mem_replicate hw] at hc

theorem trimScheme_eq (uri : Text) :
    ∃ front, uri = front++trimScheme uri ∧ '@' ∉ front ∧ ';' ∉ front := by
  obtain ⟨f1,h1,hf1⟩ := trimStartMatches_eq "sip:" uri
  obtain ⟨f2,h2,hf2⟩ := trimStartMatches_eq "sips:" (trimStartMatches "sip:" uri)
  obtain ⟨f3,h3,hf3⟩ := trimStartMatches_eq "SIP:" (trimStartMatches "sips:"
    (trimStartMatches "sip:" uri))
  obtain ⟨f4,h4,hf4⟩ := trimStartMatches_eq "SIPS:" (trimStartMatches "SIP:"
    (trimStartMatches "sips:" (trimStartMatches "sip:" uri)))
  refine ⟨f1++f2++f3++f4,?_,?_,?_⟩
  · rw [List.append_assoc, List.append_assoc, List.append_assoc, trimScheme, ← h4, ← h3, ← h2, ← h1]
  · simp only [List.mem_append, not_or]
    exact ⟨⟨⟨mt (hf1 _) (by decide),mt (hf2 _) (by decide)⟩,mt (hf3 _) (by decide)⟩,
      mt (hf4 _) (by decide)⟩
  · simp only [List.mem_append, not_or]
    exact ⟨⟨⟨mt (hf1 _) (by decide),mt (hf2 _) (by decide)⟩,mt (hf3 _) (by decide)⟩,
      mt (hf4 _) (by decide)⟩

theorem afterLast_append {c : Char} {front : Text} (s : Text) (h : c ∉ front) :
    afterLast c (front++s) = if c ∈ s then afterLast c s else front++s := by
  unfold afterLast splitLast
  split_ifs with hs
  · cases hr : splitFirst c s.reverse with
    | none => exact absurd (List.mem_reverse.mpr hs) (splitFirst_not_mem hr)
    | some p =>
      obtain ⟨hrev,hfirst⟩ := splitFirst_eq hr
      rw [List.reverse_append, hrev, List.append_assoc, List.cons_append, splitFirst_append hfirst]
      rfl
  · have hnone : c ∉ (front++s).reverse := by simp [h, hs]
    rw [splitFirst_none hnone]
    rfl

theorem splitFirst_front {c : Char} {front : Text} (s : Text) (h : c ∉ front) :
    (splitFirst c (front++s)).map Prod.snd = (splitFirst c s).map Prod.snd := by
  cases hs : splitFirst c s with
  | none =>
    have hnone : c ∉ front++s := by simp [h, splitFirst_not_mem hs]
    rw [splitFirst_none hnone]
  | some p =>
    obtain ⟨rfl,hfirst⟩ := splitFirst_eq hs
    rw [← List.append_assoc, splitFirst_append (by simp [h, hfirst])]
    rfl

/-- The transport that a URI text names: its first parameter `transport`
with a known value, among those behind the user part. -/
def requested (std : StdText) (uri : Text) : Option TransportProtocol :=
  ((splitFirst ';' (afterLast '@' uri)).map Prod.snd).bind (transportOf std)

theorem parse_requested (std : StdText) (uri : Text) :
    (parseSipUriInternal std uri).2.2 = requested std uri := by
  have hparse : (parseSipUriInternal std uri).2.2 =
      ((splitFirst ';' (afterLast '@' (trimScheme uri))).map Prod.snd).bind (transportOf std) := by
    unfold parseSipUriInternal
    dsimp only
    cases splitFirst ';' (afterLast '@' (trimScheme uri)) <;> rfl
  obtain ⟨front,huri,hat,hsemi⟩ := trimScheme_eq uri
  rw [hparse, requested]
  nth_rewrite 2 [huri]
  rw [afterLast_append _ hat]
  split_ifs with hmem
  · rfl
  · have hwhole : afterLast '@' (trimScheme uri) = trimScheme uri := by
      have h := afterLast_append (trimScheme uri) (List.not_mem_nil (a := '@'))
      rwa [List.nil_append, if_neg hmem] at h
    rw [splitFirst_front _ hsemi, hwhole]

/-! ## TLS only -/

theorem resolveUri_over {σ : Type} {std : StdText} {uri : Text} {t : TransportProtocol}
    (h : requested std uri = some t) (dns : Dns σ) : Ensures (resolveUri std dns uri) (Over t) := by
  rw [← parse_requested] at h
  unfold resolveUri
  split
  · rename_i hparse
    rw [hparse] at h
    cases h
    exact ensures_bind (ensures_any _) fun _ _ => ensures_pure (over_ok (by simp))
  · rename_i hparse
    rw [hparse] at h
    cases h
    exact resolveWith_over (lookupSrv_over std dns) (lookupAddress_over std dns) _ _

def loopback : IpAddr := .v4 ⟨[127,0,0,1],rfl⟩

def addressesOnly : Dns Unit where
  lookup _ := return .error (.lookupFailed "no NAPTR")
  srvLookup _ := return .error (.lookupFailed "no SRV")
  lookupIp _ := return .ok [loopback]

theorem resolveAddresses_found (std : StdText) (host : Text) :
    ∃ ip, resolveAddresses std addressesOnly host = pure (.ok [ip]) := by
  unfold resolveAddresses
  cases std.parseIp host with
  | none => exact ⟨loopback,rfl⟩
  | some ip => exact ⟨ip,rfl⟩

theorem resolve_addressesOnly (std : StdText) (host : Text)
    (preferred : Option TransportProtocol) : (resolve std addressesOnly host preferred ()).1 =
      (lookupAddress std addressesOnly host (preferred.getD .udp) ()).1 := by
  cases preferred <;> rfl

theorem resolveUri_default (std : StdText) (uri : Text) : ∃ target,
    (resolveUri std addressesOnly uri ()).1 = .ok [target] ∧
      target.transport = (requested std uri).getD .udp := by
  rw [← parse_requested, resolveUri]
  obtain ⟨host,port,transport⟩ := parseSipUriInternal std uri
  cases port with
  | some port => exact ⟨_,rfl,rfl⟩
  | none =>
    obtain ⟨ip,hip⟩ := resolveAddresses_found std host
    have haddress : (lookupAddress std addressesOnly host (transport.getD .udp) ()).1 =
        buildAddressTargets host (transport.getD .udp) [ip] := by
      rw [lookupAddress, hip]
      rfl
    exact ⟨_,(resolve_addressesOnly std host transport).trans haddress,rfl⟩

/-- Every answer of every network leads to TLS exactly if the URI text asks for
TLS itself: the scheme has no part in it. -/
theorem targets_tls_iff (std : StdText) (uri : Text) :
    (∀ (σ : Type) (dns : Dns σ), Ensures (resolveUri std dns uri) (Over .tls)) ↔
      requested std uri = some .tls := by
  refine ⟨fun h => ?_,fun h σ dns => resolveUri_over h dns⟩
  obtain ⟨target,hresolve,htransport⟩ := resolveUri_default std uri
  have htls : target.transport = .tls := h Unit addressesOnly () _ hresolve target (by simp)
  rw [htransport] at htls
  cases hrequested : requested std uri with
  | none =>
    rw [hrequested] at htls
    cases htls
  | some t =>
    rw [hrequested] at htls
    exact congrArg some htls

/-- The scheme is `sips`, in any letter case. -/
def hasSipsScheme (uri : Text) : Bool :=
  ((splitFirst ':' uri).map Prod.fst).any (eqIgnoreAsciiCase · "sips")

/-- A secure URI with its port leads to UDP. -/
theorem sips_resolved_to_udp :
    ¬∀ (std : StdText) (uri : Text), hasSipsScheme uri = true →
      ∀ (σ : Type) (dns : Dns σ), Ensures (resolveUri std dns uri) (Over .tls) := by
  intro h
  have hsips : hasSipsScheme "sips:user@10.10.10.10:5061" = true := by decide +kernel
  have hnone : requested SdpAgreement.asciiText "sips:user@10.10.10.10:5061" = none := by
    decide +kernel
  obtain ⟨target,hresolve,htransport⟩ := resolveUri_default SdpAgreement.asciiText _
  rw [hnone] at htransport
  have htls := h _ _ hsips Unit addressesOnly () _ hresolve target (by simp)
  rw [htransport] at htls
  cases htls

end RsipRtp.Resolver
