import RsipRtp.Registration

/-!
# The numbers in the requests of a registration

All requests of a manager have one Call-ID, one From header and rising CSeq
numbers as long as the counter does not wrap. The nonce count is one counter
for all nonces.
-/

namespace RsipRtp.RegistrationCount
open SipText SipHeader Uri Sdp Digest SipMessage SipBuilder SipBuilderRead OutputMachine
open Registration

def number (s : Sent) : Option ℕ := (ok (typedCSeq s.request.headers)).map CSeq.seq

def shownCount (r : DigestResponse) : Option ℕ :=
  match r.qop with
  | some .none | none => none
  | some _ => r.nc.map UInt32.toNat

def counts (log : List Sent) (nonce : Text) : List ℕ :=
  log.filterMap fun s => s.credentials.bind fun r =>
    if r.nonce = nonce then shownCount r else none

structure Orderly (callId fromTag : Text) (log : List Sent) : Prop where
  callId : ∀ s ∈ log, valueOf s.request.headers "Call-ID" = some callId
  from_ : ∃ addr, ∀ s ∈ log,
    valueOf s.request.headers "From" = some (tagged addr fromTag)
  cseq : ∃ ns : List ℕ, log.map number = ns.map some ∧ ns.Pairwise (· < ·)
  counts : ∀ nonce, counts log nonce = List.range' 1 (counts log nonce).length

def Counting (challenge : DigestChallenge) : Prop :=
  (challenge.realm ≠ [] ∧ challenge.nonce ≠ []) ∧
    (challenge.qop = some .auth ∨ challenge.qop = some .authInt)

def Room (m : RegistrationManager) : Prop := m.cseq.toNat+1 < 2^32

instance (m : RegistrationManager) : Decidable (Room m) := Nat.decLt _ _

def Fitting (m : RegistrationManager) (log : List Sent) (challenge : DigestChallenge) : Prop :=
  match m.lastChallenge with
  | some last => Counting last ∧ last.nonce = challenge.nonce
  | none => counts log challenge.nonce = []

def Countable (std : StdText) (m : RegistrationManager) (log : List Sent) : Call → Prop
  | .createRegister _ | .createUnregister _ => Room m
  | .handleResponse _ response _ => ∀ challenge, challengeOf std response = some challenge →
    Room m ∧ (Counting challenge → Fitting m log challenge)
  -- `handle_response` alone calls it in the runs at hand
  | .createRegisterWithAuth _ _ => False
  | .reset => True

section Invariant
variable {std : StdText} {config : RegistrationConfig} {callId fromTag : Text}

theorem counts_append (log out : List Sent) (nonce : Text) :
    counts (log++out) nonce = counts log nonce++counts out nonce := List.filterMap_append

theorem counts_uncounted {s : Sent} (h : s.credentials.bind shownCount = none) (nonce : Text) :
    counts [s] nonce = [] := by
  cases hc : s.credentials with
  | none => simp [counts, hc]
  | some r =>
    have hr : shownCount r = none := by simpa [hc] using h
    by_cases hn : r.nonce = nonce <;> simp [counts, hc, hn, hr]

theorem counts_credentials {s : Sent} {r : DigestResponse} {k : ℕ} (h : s.credentials = some r)
    (hk : shownCount r = some k) (nonce : Text) :
    counts [s] nonce = if r.nonce = nonce then [k] else [] := by
  by_cases hn : r.nonce = nonce <;> simp [counts, h, hn, hk]

structure Numbered (config : RegistrationConfig) (callId fromTag : Text)
    (m : RegistrationManager) (log : List Sent) : Prop where
  config_eq : m.config = config
  callId_eq : m.callId = callId
  fromTag_eq : m.fromTag = fromTag
  callId : ∀ s ∈ log, valueOf s.request.headers "Call-ID" = some callId
  from_ : ∀ s ∈ log, ∃ v, parse config.aor = .ok v ∧
    valueOf s.request.headers "From" = some (tagged (SipRequestBuilder.angle v) fromTag)
  cseq : ∃ ns : List ℕ, log.map number = ns.map some ∧ ns.Pairwise (· < ·) ∧
    ∀ n ∈ ns, n ≤ m.cseq.toNat

structure Tallied (config : RegistrationConfig) (m : RegistrationManager) (log : List Sent) :
    Prop where
  unbuilt : ¬Buildable config → log = []
  counts : ∀ nonce, counts log nonce = List.range' 1 (counts log nonce).length
  behind : m.nc.toNat < m.cseq.toNat
  unchallenged : m.lastChallenge = none → m.nc = 0
  challenged : ∀ challenge, m.lastChallenge = some challenge → Counting challenge →
    Buildable config → (RegistrationCount.counts log challenge.nonce).length = m.nc.toNat

section Steps
variable {m next : RegistrationManager} {log out : List Sent} {expires : UInt32}
variable {challenge : DigestChallenge} {credentials : Option DigestResponse}

theorem Room.succ (h : Room m) : (m.cseq+1).toNat = m.cseq.toNat+1 := by
  rw [UInt32.toNat_add]
  exact Nat.mod_eq_of_lt h

theorem Numbered.frame (h : Numbered config callId fromTag m log)
    (hconfig : next.config = m.config) (hid : next.callId = m.callId)
    (htag : next.fromTag = m.fromTag) (hcseq : m.cseq.toNat ≤ next.cseq.toNat) :
    Numbered config callId fromTag next log := by
  obtain ⟨ns,hns,hsorted,hle⟩ := h.cseq
  exact ⟨hconfig.trans h.config_eq,hid.trans h.callId_eq,htag.trans h.fromTag_eq,h.callId,h.from_,
    ns,hns,hsorted,fun n hn => (hle n hn).trans hcseq⟩

section Next

variable (h : Numbered config callId fromTag m log) (hroom : Room m)
  (hconfig : next.config = m.config) (hid : next.callId = m.callId)
  (htag : next.fromTag = m.fromTag) (hcseq : next.cseq = m.cseq+1)
include h hroom hconfig hid htag hcseq

theorem Numbered.produced (hout : Produced next expires credentials out) :
    Numbered config callId fromTag next (log++out) := by
  have hnext : next.cseq.toNat = m.cseq.toNat+1 := by rw [hcseq, hroom.succ]
  have hframe := h.frame hconfig hid htag (by omega)
  cases hout with
  | none _ => simpa using hframe
  | sent s _ written =>
    obtain ⟨ns,hns,hsorted,hle⟩ := h.cseq
    refine ⟨hframe.config_eq,hframe.callId_eq,hframe.fromTag_eq,?_,?_,
      ns++[next.cseq.toNat],?_,?_,?_⟩
    · intro t ht
      rcases List.mem_append.mp ht with ht | ht
      · exact h.callId t ht
      · rw [List.mem_singleton.mp ht, ← hframe.callId_eq]
        exact written.callId
    · intro t ht
      rcases List.mem_append.mp ht with ht | ht
      · exact h.from_ t ht
      · rw [List.mem_singleton.mp ht, ← hframe.config_eq, ← hframe.fromTag_eq]
        exact written.from_
    · rw [List.map_append, List.map_append, hns, List.map_singleton, List.map_singleton, number,
        written.cseq]
      rfl
    · refine List.pairwise_append.mpr ⟨hsorted,List.pairwise_singleton _ _,fun a ha b hb => ?_⟩
      rw [List.mem_singleton.mp hb]
      have := hle a ha
      omega
    · intro n hn
      rcases List.mem_append.mp hn with hn | hn
      · have := hle n hn
        omega
      · exact (List.mem_singleton.mp hn).le

theorem Numbered.answered (hout : Answered next expires challenge out) :
    Numbered config callId fromTag next (log++out) := by
  cases hout with
  | sent r _ _ _ produced => exact h.produced hroom hconfig hid htag hcseq produced
  | none _ =>
    have hnext : next.cseq.toNat = m.cseq.toNat+1 := by rw [hcseq, hroom.succ]
    simpa using h.frame hconfig hid htag (by omega)

end Next

theorem shownCount_credentials {r : DigestResponse}
    (hcounting : Counting challenge) (hr : Credentials m challenge r) :
    shownCount r = some m.nc.toNat := by
  rw [shownCount, hr.qop, hr.nc]
  rcases hcounting.2 with hqop | hqop <;> rw [hqop] <;> rfl

theorem shownCount_uncounted {r : DigestResponse}
    (hcounting : ¬Counting challenge) (hfilled : challenge.realm ≠ [] ∧ challenge.nonce ≠ [])
    (hr : Credentials m challenge r) : shownCount r = none := by
  rw [shownCount, hr.qop]
  rcases hqop : challenge.qop with _ | (_ | _ | _)
  · rfl
  · rfl
  · exact absurd ⟨hfilled,.inl hqop⟩ hcounting
  · exact absurd ⟨hfilled,.inr hqop⟩ hcounting

theorem Tallied.uncounted (h : Tallied config m log) (hbuild : ¬Buildable config → out = [])
    (hout : ∀ nonce, RegistrationCount.counts out nonce = [])
    (hbehind : next.nc.toNat < next.cseq.toNat) (hnone : next.lastChallenge = none → next.nc = 0)
    (hlast : ∀ challenge, next.lastChallenge = some challenge → Counting challenge →
      Buildable config → (RegistrationCount.counts log challenge.nonce).length = next.nc.toNat) :
    Tallied config next (log++out) := by
  have hcounts : ∀ nonce, RegistrationCount.counts (log++out) nonce =
      RegistrationCount.counts log nonce := by
    intro nonce
    rw [counts_append, hout, List.append_nil]
  refine ⟨fun hb => ?_,fun nonce => ?_,hbehind,hnone,fun challenge hch => ?_⟩
  · rw [h.unbuilt hb, hbuild hb]
    rfl
  · rw [hcounts]
    exact h.counts nonce
  · rw [hcounts]
    exact hlast challenge hch

theorem Produced.unbuilt
    (hout : Produced next expires credentials out) (hb : ¬Buildable next.config) : out = [] := by
  cases hout with
  | sent s build _ => exact absurd build hb
  | none _ => rfl

theorem Produced.uncounted
    (hout : Produced next expires credentials out) (hc : credentials.bind shownCount = none)
    (nonce : Text) : counts out nonce = [] := by
  cases hout with
  | sent s _ written => exact counts_uncounted (by rw [written.credentials]; exact hc) nonce
  | none _ => rfl

theorem Tallied.plain (h : Tallied config m log) (hroom : Room m)
    (hconfig : next.config = config) (hnc : next.nc = m.nc)
    (hlast : next.lastChallenge = m.lastChallenge) (hcseq : next.cseq = m.cseq+1)
    (hout : Produced next expires none out) : Tallied config next (log++out) := by
  refine h.uncounted (fun hb => Produced.unbuilt hout (hconfig ▸ hb))
    (Produced.uncounted hout rfl) ?_ ?_ ?_
  · have hbehind := h.behind
    rw [hcseq, hroom.succ, hnc]
    omega
  · rw [hlast, hnc]
    exact h.unchallenged
  · rw [hlast, hnc]
    exact h.challenged

theorem Tallied.answered (h : Tallied config m log) (hroom : Room m)
    (hconfig : next.config = config) (hnc : next.nc = m.nc+1)
    (hlast : next.lastChallenge = some challenge) (hcseq : next.cseq = m.cseq+1)
    (hcount : Counting challenge → Buildable config →
      (RegistrationCount.counts log challenge.nonce).length = m.nc.toNat)
    (hout : Answered next expires challenge out) : Tallied config next (log++out) := by
  have hbehind := h.behind
  have hlt : m.cseq.toNat+1 < 2^32 := hroom
  have hsucc : next.nc.toNat = m.nc.toNat+1 := by
    rw [hnc, UInt32.toNat_add]
    exact Nat.mod_eq_of_lt (by have : UInt32.toNat 1 = 1 := rfl; omega)
  have hbehind' : next.nc.toNat < next.cseq.toNat := by
    rw [hsucc, hcseq, hroom.succ]
    omega
  have hsome : next.lastChallenge = none → next.nc = 0 := by simp [hlast]
  by_cases hcounting : Counting challenge
  · cases hout with
    | none empty =>
      rcases empty with empty | empty
      · exact absurd empty hcounting.1.1
      · exact absurd empty hcounting.1.2
    | sent r _ _ credentials produced =>
      cases produced with
      | none build =>
        refine h.uncounted (fun _ => rfl) (fun _ => rfl) hbehind' hsome fun _ _ _ hb => ?_
        exact absurd hb (hconfig ▸ build)
      | sent s build written =>
        rw [hconfig] at build
        have hcounts : ∀ nonce, RegistrationCount.counts (log++[s]) nonce =
            RegistrationCount.counts log nonce++
              if challenge.nonce = nonce then [m.nc.toNat+1] else [] := by
          intro nonce
          rw [counts_append, counts_credentials written.credentials
            (shownCount_credentials hcounting credentials), credentials.nonce, hsucc]
        refine ⟨fun hb => absurd build hb,fun nonce => ?_,hbehind',hsome,fun c hc => ?_⟩
        · rw [hcounts]
          by_cases hn : challenge.nonce = nonce
          · subst hn
            rw [if_pos rfl, List.length_append, List.length_singleton, List.range'_concat,
              ← h.counts challenge.nonce, hcount hcounting build]
            simp [Nat.add_comm]
          · rw [if_neg hn, List.append_nil]
            exact h.counts nonce
        · rw [hlast] at hc
          cases hc
          intro _ _
          rw [hcounts, if_pos rfl, List.length_append, hcount hcounting build, hsucc]
          rfl
  · have hnone : ∀ c, next.lastChallenge = some c → Counting c → Buildable config →
        (RegistrationCount.counts log c.nonce).length = next.nc.toNat := by
      intro c hc hcount
      rw [hlast] at hc
      cases hc
      exact absurd hcount hcounting
    cases hout with
    | none _ => exact h.uncounted (fun _ => rfl) (fun _ => rfl) hbehind' hsome hnone
    | sent r _ filled credentials produced =>
      exact h.uncounted (fun hb => Produced.unbuilt produced (hconfig ▸ hb))
        (Produced.uncounted produced (shownCount_uncounted hcounting filled credentials))
        hbehind' hsome hnone

end Steps

def Kept (config : RegistrationConfig) (callId fromTag : Text) (m : RegistrationManager)
    (log : List Sent) : Prop :=
  Numbered config callId fromTag m log ∧ Tallied config m log

theorem new_kept (config : RegistrationConfig) (callId fromTag : Text) :
    Kept config callId fromTag (new config callId fromTag) [] := by
  refine ⟨⟨rfl,rfl,rfl,by simp,by simp,[],rfl,by simp,by simp⟩,
    fun _ => rfl,fun _ => rfl,?_,fun _ => rfl,fun _ h => ?_⟩
  · exact Nat.zero_lt_one
  · cases h

theorem Effect.kept {m next : RegistrationManager} {log out : List Sent} {call : Call}
    (he : Effect std m call next out) (h : Kept config callId fromTag m log)
    (hc : Countable std m log call) : Kept config callId fromTag next (log++out) := by
  obtain ⟨hnum,htal⟩ := h
  cases he with
  | register fresh out next hnext produced
  | unregister fresh out unchallenged next hnext produced =>
    subst hnext
    exact ⟨hnum.produced hc rfl rfl rfl rfl produced,
      htal.plain hc hnum.config_eq rfl rfl rfl produced⟩
  | authenticate challenge fresh out answered => exact hc.elim
  | challenged now response fresh challenge out brought next hnext answered =>
    subst hnext
    obtain ⟨hroom,hfitting⟩ := hc challenge brought
    refine ⟨hnum.answered hroom rfl rfl rfl rfl answered,
      htal.answered hroom hnum.config_eq rfl rfl rfl (fun hcounting hb => ?_) answered⟩
    have hnonce := hfitting hcounting
    rw [Fitting] at hnonce
    cases hlast : m.lastChallenge with
    | none =>
      rw [hlast] at hnonce
      rw [hnonce, htal.unchallenged hlast]
      rfl
    | some last =>
      rw [hlast] at hnonce
      rw [← hnonce.2]
      exact htal.challenged last hlast hnonce.1 hb
  | unregisterAgain fresh challenge out last next hnext answered =>
    subst hnext
    exact ⟨hnum.answered hc rfl rfl rfl rfl answered,
      htal.answered hc hnum.config_eq rfl last rfl (htal.challenged challenge last) answered⟩
  | removed now response fresh success state | bound now response fresh success state
  | quiet now response fresh state other unchallenged kept =>
    rw [List.append_nil]
    exact ⟨hnum.frame rfl rfl rfl le_rfl,
      ⟨htal.unbuilt,htal.counts,htal.behind,htal.unchallenged,htal.challenged⟩⟩
  | reset =>
    rw [List.append_nil]
    refine ⟨hnum.frame rfl rfl rfl le_rfl,htal.unbuilt,htal.counts,?_,fun _ => rfl,fun _ h => ?_⟩
    · exact Nat.zero_lt_of_lt htal.behind
    · cases h

theorem Kept.orderly {m : RegistrationManager} {log : List Sent}
    (h : Kept config callId fromTag m log) : Orderly callId fromTag log := by
  obtain ⟨ns,hns,hsorted,_⟩ := h.1.cseq
  refine ⟨h.1.callId,?_,⟨ns,hns,hsorted⟩,h.2.counts⟩
  cases hv : parse config.aor with
  | error e =>
    refine ⟨[],fun s hs => ?_⟩
    obtain ⟨v,hparse,_⟩ := h.1.from_ s hs
    rw [hv] at hparse
    cases hparse
  | ok v =>
    refine ⟨SipRequestBuilder.angle v,fun s hs => ?_⟩
    obtain ⟨w,hparse,hfrom⟩ := h.1.from_ s hs
    rw [hv] at hparse
    cases hparse
    exact hfrom

end Invariant

/-- In every run under the condition the requests are numbered in order and
each nonce is counted from 1. -/
theorem requests_orderly {std : StdText} {hash : HashFns} {config : RegistrationConfig}
    {callId fromTag : Text} {calls : List Call} {m : RegistrationManager} {log : List Sent}
    (hw : Watched (step std hash) (Countable std) [] (new config callId fromTag) calls)
    (hr : run (step std hash) (new config callId fromTag) calls = some (m,log)) :
    Orderly callId fromTag log := by
  have hkept := run_watched_history (P := Kept config callId fromTag)
    (fun m log call next out h hc hs => by
      obtain ⟨rfl,rfl⟩ := total_eq_some.mp hs
      exact Effect.kept (apply_effect std hash m call) h hc)
    (new_kept config callId fromTag) hw hr
  exact hkept.orderly

theorem createRegister_uncounted {std : StdText} {hash : HashFns} {m : RegistrationManager}
    {fresh : Fresh} (nonce : Text) :
    counts (apply std hash m (.createRegister fresh)).2 nonce = [] := by
  have he := apply_effect std hash m (.createRegister fresh)
  generalize (apply std hash m (.createRegister fresh)).1 = next at he
  generalize (apply std hash m (.createRegister fresh)).2 = out at he
  cases he with
  | register _ _ _ _ produced => exact Produced.uncounted produced rfl nonce

/-! ## A second nonce -/

def phone : RegistrationConfig := { registrar := "sip:r", aor := "sip:a@r" }

def zeroFresh : Fresh := ⟨['b'],StunMessage.zeroOctets 16⟩

def unauthorized (nonce : Char) : SipResponse where
  inner :=
    { version := "SIP/2.0"
      statusCode := 401
      reason := "Unauthorized"
      headers := ⟨[.wwwAuthenticate ("Digest realm=\"r\", nonce=\""++
        nonce::"\", qop=\"auth\"")],Nat.le_of_ble_eq_true rfl⟩
      body := [] }

def answering (nonces : List Char) : List Call :=
  .createRegister zeroFresh::nonces.map fun c => .handleResponse 0 (unauthorized c) zeroFresh

theorem first_challenge_orderly :
    Watched (step SdpAgreement.asciiText plainHash) (Countable SdpAgreement.asciiText) []
      (new phone ['c'] ['t']) (answering ['x']) ∧
    ∃ m log, run (step SdpAgreement.asciiText plainHash) (new phone ['c'] ['t'])
      (answering ['x']) = some (m,log) ∧ Orderly ['c'] ['t'] log := by
  let challenge : DigestChallenge := ⟨['r'],['x'],none,false,.md5,some .auth,none⟩
  have hbrought : challengeOf SdpAgreement.asciiText (unauthorized 'x') = some challenge := by
    decide +kernel
  have hw : Watched (step SdpAgreement.asciiText plainHash) (Countable SdpAgreement.asciiText) []
      (new phone ['c'] ['t']) (answering ['x']) := by
    refine ⟨(by decide : Room _),fun t out ht => ?_⟩
    obtain ⟨rfl,rfl⟩ := total_eq_some.mp ht
    refine ⟨fun ch hch => ?_,fun _ _ _ => trivial⟩
    rw [hbrought] at hch
    cases hch
    refine ⟨by decide,fun _ => ?_⟩
    change counts ([]++_) _ = []
    rw [List.nil_append]
    exact createRegister_uncounted _
  obtain ⟨m,log,hr⟩ := run_total (apply SdpAgreement.asciiText plainHash)
    (new phone ['c'] ['t']) (answering ['x'])
  exact ⟨hw,m,log,hr,requests_orderly hw hr⟩

/-- The first request with the second nonce has the count 2. -/
theorem second_nonce_miscounted :
    ∃ m log, run (step SdpAgreement.asciiText plainHash) (new phone ['c'] ['t'])
      (answering ['x','y']) = some (m,log) ∧ ¬Orderly ['c'] ['t'] log := by
  obtain ⟨m,log,hr⟩ := run_total (apply SdpAgreement.asciiText plainHash)
    (new phone ['c'] ['t']) (answering ['x','y'])
  have hcounts : (run (step SdpAgreement.asciiText plainHash) (new phone ['c'] ['t'])
      (answering ['x','y'])).map (fun p => counts p.2 ['y']) = some [2] := by decide +kernel
  refine ⟨m,log,hr,fun h => ?_⟩
  rw [show run (step SdpAgreement.asciiText plainHash) (new phone ['c'] ['t'])
    (answering ['x','y']) = some (m,log) from hr] at hcounts
  have hy : counts log ['y'] = [2] := Option.some.inj hcounts
  have hone := h.counts ['y']
  rw [hy] at hone
  exact absurd hone (by decide)

end RsipRtp.RegistrationCount
