import RsipRtp.SdpRoundTrip

/-!
# Candidate lines

A candidate is printed as words with blanks between them and read back word by
word.
-/

namespace RsipRtp.CandidateText
open SipText TextShape StunMessage IceAgent Sdp IceSdp SdpRoundTrip SdpAgreement
open SrtpKdf (Octets)

/-- What is assumed of the library: an address is read as it was printed, its
text is one word, and capital letters stay. -/
structure Faithful (std : StdText) : Prop where
  parse : ∀ ip, std.parseIp (std.ipText ip) = some ip
  word : ∀ ip, Word (std.ipText ip)
  upper : ∀ t, std.toUppercase (transportText t) = transportText t

section Words
variable (std : StdText)

def relatedWords (r : SocketAddr) : List Text :=
  ["raddr",std.ipText r.ip,"rport",u16Text r.port]

def words (c : Candidate) : List Text :=
  [c.foundation,u8Text c.component,transportText c.transport,u32Text c.priority,
    std.ipText c.address.ip,u16Text c.address.port,"typ",typeText c.candidateType] ++
  (c.relatedAddress.map (relatedWords std)).getD []

theorem toSdp_eq (c : Candidate) : toSdp std c = join [' '] (words std c) := by
  unfold toSdp words
  cases c.relatedAddress with
  | none => simp only [Option.map_none, Option.getD_none, List.append_nil]
  | some r => simp [join, relatedWords]

variable {std}

theorem words_solid (h : Faithful std) {c : Candidate} (hfoundation : Word c.foundation) :
    ∀ w ∈ words std c, Word w := by
  have hword (s : Text) (hne : s ≠ []) (hsolid : s.all (fun c => !isWhitespace c) = true) :
      Word s := ⟨hne,fun c hc => by simpa using List.all_eq_true.mp hsolid c hc⟩
  have htransport : Word (transportText c.transport) := by
    cases c.transport <;> exact hword _ (by decide) (by decide +kernel)
  have htype : Word (typeText c.candidateType) := by
    cases c.candidateType <;> exact hword _ (by decide) (by decide +kernel)
  have hrelated : ∀ w ∈ (c.relatedAddress.map (relatedWords std)).getD [], Word w := by
    cases c.relatedAddress with
    | none => exact fun w hw => absurd hw List.not_mem_nil
    | some r =>
      simp only [Option.map_some, Option.getD_some, relatedWords, List.forall_mem_cons]
      exact ⟨hword _ (by decide) (by decide +kernel),h.word _,
        hword _ (by decide) (by decide +kernel),natText_word _,
        fun w hw => absurd hw List.not_mem_nil⟩
  intro w hw
  rcases List.mem_append.mp hw with hw | hw
  · simp only [List.mem_cons, List.not_mem_nil, or_false] at hw
    rcases hw with rfl | rfl | rfl | rfl | rfl | rfl | rfl | rfl
    · exact hfoundation
    · exact natText_word _
    · exact htransport
    · exact natText_word _
    · exact h.word _
    · exact natText_word _
    · exact hword _ (by decide) (by decide +kernel)
    · exact htype
  · exact hrelated w hw

end Words

section Reading
variable {std : StdText}

def plainAddr (a : SocketAddr) : SocketAddr := .new a.ip a.port

def plain (c : Candidate) : Candidate :=
  { c with address := plainAddr c.address, relatedAddress := c.relatedAddress.map plainAddr }

def Scopeless : SocketAddr → Prop
  | .v4 .. => True
  | .v6 _ _ flowinfo scopeId => flowinfo = 0 ∧ scopeId = 0

theorem plainAddr_eq_iff (a : SocketAddr) : plainAddr a = a ↔ Scopeless a := by
  cases a with
  | v4 => exact iff_of_true rfl trivial
  | v6 ip port flowinfo scopeId =>
    rw [plainAddr, SocketAddr.ip, SocketAddr.port, SocketAddr.new, SocketAddr.v6.injEq, Scopeless]
    exact ⟨fun h => ⟨h.2.2.1.symm,h.2.2.2.symm⟩,fun h => ⟨rfl,rfl,h.1.symm,h.2.symm⟩⟩

theorem plain_eq_iff (c : Candidate) :
    plain c = c ↔ Scopeless c.address ∧ ∀ r ∈ c.relatedAddress, Scopeless r := by
  have hrelated : c.relatedAddress.map plainAddr = c.relatedAddress ↔
      ∀ r ∈ c.relatedAddress, Scopeless r := by
    cases c.relatedAddress with
    | none => simp
    | some r => simp [plainAddr_eq_iff]
  rw [← plainAddr_eq_iff, ← hrelated]
  constructor
  · intro h
    exact ⟨congrArg Candidate.address h,congrArg Candidate.relatedAddress h⟩
  · rintro ⟨haddress,hrel⟩
    rw [plain, haddress, hrel]

theorem transportOf_text (h : Faithful std) (t : Transport) :
    transportOf std (transportText t) = some t := by
  rw [transportOf, h.upper]
  cases t <;> rfl

theorem typeOf_text (t : CandidateType) : typeOf (typeText t) = some t := by
  cases t <;> rfl

theorem scanRelated_words (h : Faithful std) (related : Option SocketAddr) :
    scanRelated std none ((related.map (relatedWords std)).getD []) =
      some (related.map plainAddr) := by
  cases related with
  | none => rfl
  | some r =>
    change scanRelated std none ["raddr",std.ipText r.ip,"rport",u16Text r.port] = _
    rw [scanRelated, if_pos ⟨rfl,rfl⟩, h.parse, u16Of_text]
    rfl

theorem fromSdp_words (h : Faithful std) {c : Candidate} (hfoundation : Word c.foundation) :
    fromSdp std (toSdp std c) = some (plain c) := by
  rw [toSdp_eq, fromSdp, splitWhitespace_join (words_solid h hfoundation)]
  simp only [words, List.cons_append, List.nil_append, u8Of_text, transportOf_text h, u32Of_text,
    h.parse, u16Of_text, typeOf_text, scanRelated_words h, Option.bind_eq_bind, Option.bind_some,
    ne_eq, not_true, if_false]
  rfl

end Reading

/-- A candidate comes back from its line up to the flow label and the scope of
its IPv6 addresses, and so it comes back whole exactly if these are zero. -/
theorem candidate_read_back {std : StdText} (h : Faithful std) (c : Candidate)
    (hfoundation : Word c.foundation) :
    fromSdp std (toSdp std c) = some (plain c) ∧
      (fromSdp std (toSdp std c) = some c ↔
        Scopeless c.address ∧ ∀ r ∈ c.relatedAddress, Scopeless r) := by
  have hread := fromSdp_words h hfoundation
  exact ⟨hread,by rw [hread, Option.some.injEq, plain_eq_iff]⟩

def dotted (b : Bytes) : Text := join ['.'] (b.map u8Text)

def octetsOf (s : Text) : Option Bytes := (s.splitOn '.').mapM u8Of

def ipOf (b : Bytes) : Option IpAddr :=
  if h : b.length = 4 then some (.v4 ⟨b,h⟩)
  else if h : b.length = 16 then some (.v6 ⟨b,h⟩)
  else none

/-- Addresses printed byte by byte, as std prints those of IPv4; those of IPv6
are read back as well. -/
def dottedText : StdText :=
  { asciiText with
    parseIp := fun s => (octetsOf s).bind ipOf
    ipText := fun ip => match ip with
      | .v4 ip => dotted ip.1
      | .v6 ip => dotted ip.1 }

theorem mapM_u8Of (b : Bytes) : (b.map u8Text).mapM u8Of = some b := by
  induction b with
  | nil => rfl
  | cons x b ih => simp [ih]

theorem octetsOf_dotted {b : Bytes} (h : b ≠ []) : octetsOf (dotted b) = some b := by
  have hdot : ∀ w ∈ b.map u8Text, '.' ∉ w := by
    intro w hw hc
    obtain ⟨n,-,rfl⟩ := List.mem_map.mp hw
    exact absurd (natText_forall hc) (by decide)
  have hsplit : (dotted b).splitOn '.' = b.map u8Text :=
    List.splitOn_intercalate '.' hdot (by simpa using h)
  rw [octetsOf, hsplit, mapM_u8Of]

theorem dotted_chars (b : Bytes) : ∀ c ∈ dotted b, isAsciiDigit c = true ∨ c = '.' := by
  induction b with
  | nil => exact fun c hc => absurd hc List.not_mem_nil
  | cons x b ih =>
    cases b with
    | nil =>
      intro c hc
      have hone : dotted [x] = u8Text x := by simp [dotted, join]
      rw [hone] at hc
      exact .inl (natText_forall hc)
    | cons y b =>
      intro c hc
      rw [dotted, List.map_cons, List.map_cons, join_cons, List.mem_append, List.mem_append,
        List.mem_singleton] at hc
      rcases hc with hc | hc | hc
      · exact .inl (natText_forall hc)
      · exact .inr hc
      · exact ih c hc

theorem dotted_word {b : Bytes} (h : b ≠ []) : Word (dotted b) := by
  constructor
  · intro hnil
    have hread := octetsOf_dotted h
    rw [hnil] at hread
    cases hread
  · intro c hc
    rcases dotted_chars b c hc with hdigit | rfl
    · exact isWhitespace_digit hdigit
    · decide

theorem octets_ne_nil {n : ℕ} (hn : 0 < n) (b : Octets n) : b.1 ≠ [] :=
  List.ne_nil_of_length_pos (b.2.symm ▸ hn)

theorem dottedText_faithful : Faithful dottedText where
  parse ip := by
    cases ip with
    | v4 ip =>
      change (octetsOf (dotted ip.1)).bind ipOf = _
      rw [octetsOf_dotted (octets_ne_nil (by decide) ip), Option.bind_some, ipOf, dif_pos ip.2]
    | v6 ip =>
      have hlen : ¬ip.1.length = 4 := by rw [ip.2]; decide
      change (octetsOf (dotted ip.1)).bind ipOf = _
      rw [octetsOf_dotted (octets_ne_nil (by decide) ip), Option.bind_some, ipOf, dif_neg hlen,
        dif_pos ip.2]
  word ip := by
    cases ip with
    | v4 ip | v6 ip => exact dotted_word (octets_ne_nil (by decide) ip)
  upper t := by cases t <;> decide +kernel

def sampleCandidate (scopeId : UInt32) : Candidate where
  foundation := "1"
  component := 1
  transport := .udp
  priority := 2130706431
  address := .v6 ⟨[0xFE,0x80,0,0,0,0,0,0,0,0,0,0,0,0,0,1],rfl⟩ 5000 0 scopeId
  candidateType := .serverReflexive
  relatedAddress := some (.v4 ⟨[192,168,1,1],rfl⟩ 12345)

theorem sample_foundation (scopeId : UInt32) : Word (sampleCandidate scopeId).foundation :=
  ⟨by change "1".toList ≠ []; decide,by
    change ∀ c ∈ "1".toList, isWhitespace c = false
    exact forall_of_all (p := fun c => isWhitespace c = false) (by decide +kernel)⟩

def reflexiveCandidate : Candidate :=
  { sampleCandidate 0 with address := .v4 ⟨[203,0,113,7],rfl⟩ 5000 }

theorem sample_read_back :
    fromSdp dottedText (toSdp dottedText reflexiveCandidate) = some reflexiveCandidate :=
  (candidate_read_back dottedText_faithful reflexiveCandidate (sample_foundation 0)).2.mpr
    ⟨trivial,fun r hr => by cases hr; trivial⟩

/-- A link-local address on the second interface loses its scope. -/
theorem scope_not_read_back :
    fromSdp dottedText (toSdp dottedText (sampleCandidate 2)) = some (sampleCandidate 0) ∧
      sampleCandidate 0 ≠ sampleCandidate 2 :=
  ⟨fromSdp_words dottedText_faithful (sample_foundation 2),by decide +kernel⟩

end RsipRtp.CandidateText
