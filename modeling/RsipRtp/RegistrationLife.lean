import RsipRtp.RegistrationCount

/-!
# The life of a binding

A binding is made and removed by requests that differ in their Expires header
only.
-/

namespace RsipRtp.RegistrationLife
open SipText SipHeader Uri Sdp Digest SipMessage SipBuilderRead OutputMachine
open Registration
open RegistrationCount (phone zeroFresh unauthorized)

variable {std : StdText} {hash : HashFns} {config : RegistrationConfig} {callId fromTag : Text}

/-! ## The removal of a binding -/

def AsksRemoval (s : Sent) : Prop :=
  valueOf s.request.headers "Expires" = some "0".toList

def Filled (challenge : DigestChallenge) : Prop := challenge.realm ≠ [] ∧ challenge.nonce ≠ []

/-- The removal can be asked for, and no challenge to it has to be answered
with an interval that keeps the binding. -/
def Removable (std : StdText) (m : RegistrationManager) : Call → Prop
  | .createUnregister _ => Buildable m.config ∧
    ∀ challenge, m.lastChallenge = some challenge → Filled challenge
  | .createRegisterWithAuth challenge _ => m.state = .unregistering →
    Filled challenge → m.config.expires = 0
  | .handleResponse _ response _ => m.state = .unregistering →
    ∀ challenge, challengeOf std response = some challenge → Filled challenge →
      m.config.expires = 0
  | _ => True

section Removal
variable {m next : RegistrationManager} {log out : List Sent} {call : Call}
variable {expires : UInt32}

def Pending (m : RegistrationManager) (log : List Sent) : Prop :=
  m.state = .unregistering → ∃ s, log.getLast? = some s ∧ AsksRemoval s

theorem Produced.asksRemoval {credentials : Option DigestResponse}
    (hout : Produced next 0 credentials out) : ∀ s ∈ out, AsksRemoval s := by
  intro s hs
  cases hout with
  | sent t _ written =>
    rw [List.mem_singleton.mp hs]
    exact written.expires
  | none _ => cases hs

theorem Answered.asked {challenge : DigestChallenge}
    (hout : Answered next expires challenge out) (hzero : Filled challenge → expires = 0) :
    ∀ s ∈ out, AsksRemoval s := by
  cases hout with
  | sent r _ filled _ produced =>
    rw [hzero filled] at produced
    exact Produced.asksRemoval produced
  | none _ => simp

theorem Produced.nonempty {credentials : Option DigestResponse}
    (hout : Produced next expires credentials out) (hb : Buildable next.config) : out ≠ [] := by
  cases hout with
  | sent s _ _ => simp
  | none build => exact absurd hb build

theorem Answered.nonempty {challenge : DigestChallenge}
    (hout : Answered next expires challenge out) (hb : Buildable next.config)
    (hfilled : Filled challenge) : out ≠ [] := by
  cases hout with
  | sent r _ _ _ produced => exact Produced.nonempty produced hb
  | none empty =>
    rcases empty with empty | empty
    · exact absurd empty hfilled.1
    · exact absurd empty hfilled.2

theorem pending_of_asked (h : Pending m log) (hstate : out = [] → next.state = .unregistering →
    m.state = .unregistering) (hout : next.state = .unregistering → ∀ s ∈ out, AsksRemoval s) :
    Pending next (log++out) := by
  intro hnext
  by_cases hempty : out = []
  · rw [hempty, List.append_nil]
    exact h (hstate hempty hnext)
  · refine ⟨out.getLast hempty,?_,hout hnext _ (List.getLast_mem hempty)⟩
    rw [List.getLast?_append_of_ne_nil _ hempty, List.getLast?_eq_some_getLast hempty]

theorem Effect.asked (he : Effect std m call next out) (hc : Removable std m call) :
    next.state = .unregistering → ∀ s ∈ out, AsksRemoval s := by
  intro hnext
  cases he with
  | register fresh out next hstate produced =>
    rw [hstate] at hnext
    dsimp only at hnext
    split at hnext <;> cases hnext
  | authenticate challenge fresh out answered => exact Answered.asked answered (hc hnext)
  | challenged now response fresh challenge out brought next hstate answered =>
    rw [hstate] at hnext
    exact Answered.asked answered (hc hnext challenge brought)
  | unregister fresh out unchallenged next hstate produced => exact Produced.asksRemoval produced
  | unregisterAgain fresh challenge out last next hstate answered =>
    exact Answered.asked answered fun _ => rfl
  | removed | bound | quiet | reset => simp

theorem Effect.pending (he : Effect std m call next out) (hc : Removable std m call)
    (h : Pending m log) : Pending next (log++out) := by
  refine pending_of_asked h (fun hempty hnext => ?_) (Effect.asked he hc)
  cases he with
  | register fresh out next hstate produced =>
    rw [hstate] at hnext
    dsimp only at hnext
    split at hnext <;> cases hnext
  | authenticate challenge fresh out answered => exact hnext
  | challenged now response fresh challenge out brought next hstate answered =>
    rw [hstate] at hnext
    exact hnext
  | unregister fresh out unchallenged next hstate produced =>
    exact absurd hempty (Produced.nonempty produced (by rw [hstate]; exact hc.1))
  | unregisterAgain fresh challenge out last next hstate answered =>
    exact absurd hempty (Answered.nonempty answered (by rw [hstate]; exact hc.1) (hc.2 _ last))
  | removed | bound => cases hnext
  | quiet now response fresh state other unchallenged kept =>
    rcases kept with rfl | rfl
    · exact hnext
    · cases hnext
  | reset => cases hnext

theorem Effect.unregistering {now : ℕ} {response : SipResponse} {fresh : Fresh}
    (he : Effect std m (.handleResponse now response fresh) next out)
    (hbefore : m.state ≠ .unregistered) (hafter : next.state = .unregistered) :
    m.state = .unregistering := by
  cases he with
  | challenged _ _ _ challenge out brought next hstate answered =>
    rw [hstate] at hafter
    exact absurd hafter hbefore
  | removed _ _ _ _ state => exact state
  | bound => cases hafter
  | quiet _ _ _ state other unchallenged kept =>
    rcases kept with rfl | rfl
    · exact absurd hafter hbefore
    · cases hafter

end Removal

/-- While the manager removes its binding, what it sends asks for the removal,
and a response ends the removal only after such a request. -/
theorem removal_asked {calls : List Call} {call : Call} {m next : RegistrationManager}
    {log out : List Sent}
    (hg : Guarded (step std hash) (Removable std) (new config callId fromTag) (calls++[call]))
    (hr : run (step std hash) (new config callId fromTag) calls = some (m,log))
    (hs : step std hash m call = some (next,out)) :
    (next.state = .unregistering → ∀ s ∈ out, AsksRemoval s) ∧
    ∀ now response fresh, call = .handleResponse now response fresh →
      m.state ≠ .unregistered → next.state = .unregistered →
      ∃ s, log.getLast? = some s ∧ AsksRemoval s := by
  obtain ⟨hcalls,hlast⟩ := guarded_append.mp hg
  have hcall : Removable std m call := (hlast m log hr).1
  have hpending : Pending m log := run_guarded_history (P := Pending) (h := [])
    (fun m log call next out h hc hs => by
      obtain ⟨rfl,rfl⟩ := total_eq_some.mp hs
      exact Effect.pending (apply_effect std hash m call) hc h)
    (fun h => by cases h) hcalls hr
  obtain ⟨rfl,rfl⟩ := total_eq_some.mp hs
  refine ⟨Effect.asked (apply_effect std hash m call) hcall,?_⟩
  rintro now response fresh rfl hbefore hafter
  exact hpending (Effect.unregistering (apply_effect std hash m _) hbefore hafter)

def okResponse (headers : List Header) (h : headers.length ≤ maxHeaders) : SipResponse :=
  ⟨"SIP/2.0",200,"OK",⟨headers,h⟩,[]⟩

def okCall : Call := .handleResponse 0 (okResponse [] (Nat.zero_le _)) zeroFresh

theorem phone_buildable : Buildable phone :=
  ⟨⟨_,(rfl : parse phone.registrar = .ok _)⟩,⟨_,(rfl : parse phone.aor = .ok _)⟩⟩

theorem unchallenged_removal_asked :
    Guarded (step SdpAgreement.asciiText plainHash) (Removable SdpAgreement.asciiText)
      (new phone ['c'] ['t']) ([.createUnregister zeroFresh]++[okCall]) ∧
    ∃ m log next out,
      run (step SdpAgreement.asciiText plainHash) (new phone ['c'] ['t'])
        [.createUnregister zeroFresh] = some (m,log) ∧
      step SdpAgreement.asciiText plainHash m okCall = some (next,out) ∧
      next.state = .unregistered ∧ ∃ s, log.getLast? = some s ∧ AsksRemoval s := by
  have hg : Guarded (step SdpAgreement.asciiText plainHash) (Removable SdpAgreement.asciiText)
      (new phone ['c'] ['t']) ([.createUnregister zeroFresh]++[okCall]) := by
    refine ⟨⟨phone_buildable,fun _ h => by cases h⟩,fun t out ht => ?_⟩
    refine ⟨fun _ challenge h => ?_,fun _ _ _ => trivial⟩
    rw [show challengeOf SdpAgreement.asciiText (okResponse [] (Nat.zero_le _)) =
      none from rfl] at h
    cases h
  obtain ⟨m,log,hr⟩ := run_total (apply SdpAgreement.asciiText plainHash)
    (new phone ['c'] ['t']) [.createUnregister zeroFresh]
  have hstate : m.state = .unregistering := by
    obtain ⟨u,a,b,hu,hb,_⟩ := run_cons.mp hr
    cases hb
    obtain ⟨rfl,_⟩ := total_eq_some.mp hu
    rfl
  have hnext : (apply SdpAgreement.asciiText plainHash m okCall).1.state = .unregistered := by
    exact (handleResponse_success _ _ m rfl 0 zeroFresh).2.trans (if_pos hstate)
  refine ⟨hg,m,log,_,_,hr,rfl,hnext,?_⟩
  exact (removal_asked hg hr rfl).2 _ _ _ rfl (by rw [hstate]; decide) hnext

/-- A challenge to the removal is answered with a request for an hour. -/
theorem challenged_removal_not_asked :
    ∃ m log next out,
      run (step SdpAgreement.asciiText plainHash) (new phone ['c'] ['t'])
        [.createUnregister zeroFresh,.handleResponse 0 (unauthorized 'x') zeroFresh] =
          some (m,log) ∧
      step SdpAgreement.asciiText plainHash m okCall = some (next,out) ∧
      m.state = .unregistering ∧ next.state = .unregistered ∧
      log.getLast?.map (fun s => valueOf s.request.headers "Expires") =
        some (some "3600".toList) := by
  obtain ⟨m,log,hr⟩ := run_total (apply SdpAgreement.asciiText plainHash)
    (new phone ['c'] ['t'])
    [.createUnregister zeroFresh,.handleResponse 0 (unauthorized 'x') zeroFresh]
  have hlog : (run (step SdpAgreement.asciiText plainHash) (new phone ['c'] ['t'])
      [.createUnregister zeroFresh,.handleResponse 0 (unauthorized 'x') zeroFresh]).map
        (fun p => (p.1.state,p.2.getLast?.map fun s => valueOf s.request.headers "Expires")) =
      some (.unregistering,some (some "3600".toList)) := by decide +kernel
  rw [show run (step SdpAgreement.asciiText plainHash) (new phone ['c'] ['t'])
    [.createUnregister zeroFresh,.handleResponse 0 (unauthorized 'x') zeroFresh] =
      some (m,log) from hr] at hlog
  obtain ⟨hstate,hexpires⟩ := Prod.ext_iff.mp (Option.some.inj hlog)
  exact ⟨m,log,_,_,hr,rfl,hstate,
    (handleResponse_success _ _ m rfl 0 zeroFresh).2.trans (if_pos hstate),hexpires⟩

/-! ## The lifetime of a binding -/

def contactExpires : Contact → Option ℕ
  | .wildcard params => (findParam "expires" params).bind parseU32
  | .addr a => (findParam "expires" a.parameters).bind parseU32

def Ours (config : RegistrationConfig) : Contact → Prop
  | .wildcard _ => False
  | .addr a => ok (parse config.contact) = some a.uri

instance (config : RegistrationConfig) : (c : Contact) → Decidable (Ours config c)
  | .wildcard _ => inferInstanceAs (Decidable False)
  | .addr _ => inferInstanceAs (Decidable (_ = _))

/-- The seconds that the registrar grants: the `expires` parameter of our
Contact, else the Expires header. -/
def granted (config : RegistrationConfig) (response : SipResponse) : Option ℕ :=
  (response.inner.headers.inner.findSome? fun
    | .contact value => ((ok (parseContact value)).filter fun c => decide (Ours config c)).bind
        contactExpires
    | _ => none) <|>
  (valueOf response.inner.headers "Expires").bind fun value => parseU32 (trim value)

def refreshAfter (config : RegistrationConfig) : ℕ :=
  config.expires.toNat-config.expires.toNat/5

section Lifetime
variable {m next : RegistrationManager} {out : List Sent} {call : Call} {t0 : ℕ}

theorem Effect.config_eq (he : Effect std m call next out) : next.config = m.config := by
  cases he with
  | register _ _ _ hnext _ => rw [hnext]
  | authenticate => rfl
  | challenged _ _ _ _ _ _ _ hnext _ | unregisterAgain _ _ _ _ _ hnext _ => rw [hnext]; rfl
  | unregister _ _ _ _ hnext _ => rw [hnext]
  | removed | bound | quiet | reset => rfl

theorem run_config {calls : List Call} {s : RegistrationManager}
    (hr : run (step std hash) s calls = some (m,out)) : m.config = s.config :=
  run_invariant (P := fun t => t.config = s.config)
    (fun t call next out ht hs => by
      obtain ⟨rfl,rfl⟩ := total_eq_some.mp hs
      exact (Effect.config_eq (apply_effect std hash t call)).trans ht)
    rfl hr

def Unanswered : Call → Prop
  | .handleResponse _ response _ => response.statusCode ≠ 200
  | _ => True

theorem Effect.still (he : Effect std m call next out) (hc : Unanswered call)
    (hstate : next.state = .registered) :
    m.state = .registered ∧ next.expiresAt = m.expiresAt := by
  cases he with
  | register fresh out next hnext produced =>
    rw [hnext] at hstate
    dsimp only at hstate
    split at hstate <;> cases hstate
  | authenticate challenge fresh out answered => exact ⟨hstate,rfl⟩
  | challenged now response fresh challenge out brought next hnext answered =>
    rw [hnext] at hstate ⊢
    exact ⟨hstate,rfl⟩
  | unregister fresh out unchallenged next hnext produced
  | unregisterAgain fresh challenge out last next hnext answered =>
    rw [hnext] at hstate
    cases hstate
  | removed now response fresh success state | bound now response fresh success state =>
    exact absurd success hc
  | quiet now response fresh state other unchallenged kept =>
    rcases kept with rfl | rfl
    · exact ⟨hstate,rfl⟩
    · cases hstate
  | reset => cases hstate

theorem run_still {calls : List Call} {s : RegistrationManager}
    (hcalls : ∀ call ∈ calls, Unanswered call)
    (hr : run (step std hash) s calls = some (m,out)) (hstate : m.state = .registered) :
    s.state = .registered ∧ m.expiresAt = s.expiresAt :=
  run_guarded_invariant (G := fun _ => Unanswered)
    (P := fun t => t.state = .registered → s.state = .registered ∧ t.expiresAt = s.expiresAt)
    (fun t call next out ht hc hs hnext => by
      obtain ⟨rfl,rfl⟩ := total_eq_some.mp hs
      obtain ⟨hreg,hat⟩ := Effect.still (apply_effect std hash t call) hc hnext
      exact ⟨(ht hreg).1,hat.trans (ht hreg).2⟩)
    (fun h => ⟨h,rfl⟩) (guarded_of_forall s fun call hcall _ => hcalls call hcall) hr hstate

theorem seconds_le_seconds {a b : ℕ} : seconds a ≤ seconds b ↔ a ≤ b :=
  Nat.mul_le_mul_right_iff (by decide)

theorem seconds_sub (a b : ℕ) : seconds (a-b) = seconds a-seconds b := Nat.sub_mul a b _

theorem needsRefresh_counted (h : m.expiresAt = some (t0+seconds m.config.expires.toNat)) (t : ℕ) :
    needsRefresh m t = false ↔ t < t0+seconds (refreshAfter m.config) := by
  have hle : seconds (m.config.expires.toNat/5) ≤ seconds m.config.expires.toNat :=
    seconds_le_seconds.mpr (Nat.div_le_self _ 5)
  rw [needsRefresh, h, refreshAfter, seconds_sub]
  dsimp only
  rw [if_pos (by omega), decide_eq_false_iff_not]
  omega

theorem apply_success {response : SipResponse} (hsuccess : response.statusCode = 200)
    (hstate : m.state ≠ .unregistering) (now : ℕ) (fresh : Fresh) :
    apply std hash m (.handleResponse now response fresh) =
      ({ m with state := .registered
                expiresAt := some (now+seconds m.config.expires.toNat) },[]) := by
  simp only [apply, handleResponse, hsuccess, if_true, if_neg hstate]
  rfl

end Lifetime

/-- From a success until the next one, the manager that is registered and sees
no refresh due is within the time granted. -/
def Covered (std : StdText) (hash : HashFns) (m : RegistrationManager) (t0 : ℕ)
    (response : SipResponse) (fresh : Fresh) : Prop :=
  ∀ e, granted m.config response = some e →
  ∀ (calls : List Call) (next : RegistrationManager) (log : List Sent),
    (∀ call ∈ calls, Unanswered call) →
    run (step std hash) m (.handleResponse t0 response fresh::calls) = some (next,log) →
    next.state = .registered →
    ∀ t, t0 ≤ t → needsRefresh next t = false → t < t0+seconds e

/-- The time granted is kept exactly if it reaches the time of the refresh. -/
theorem lifetime_covered_iff {calls : List Call} {m : RegistrationManager} {log : List Sent}
    {response : SipResponse}
    (hr : run (step std hash) (new config callId fromTag) calls = some (m,log))
    (hsuccess : response.statusCode = 200) (t0 : ℕ) (fresh : Fresh) :
    Covered std hash m t0 response fresh ↔ m.state = .unregistering ∨
      ∀ e, granted config response = some e → refreshAfter config ≤ e := by
  have hconfig : m.config = config := run_config hr
  constructor
  · intro h
    by_cases hstate : m.state = .unregistering
    · exact .inl hstate
    refine .inr fun e he => Nat.le_of_not_lt fun hlt => ?_
    -- the refresh is not yet due when the granted time has passed
    have hdue := h e (hconfig ▸ he) [] _ _ (by simp)
      (run_cons.mpr ⟨_,_,[],congrArg some (apply_success hsuccess hstate t0 fresh),rfl,rfl⟩) rfl
      (t0+seconds e) (Nat.le_add_right _ _) ((needsRefresh_counted rfl _).mpr (by
        have hseconds := mt seconds_le_seconds.mp (Nat.not_le_of_lt hlt)
        dsimp only
        rw [hconfig]
        omega))
    exact absurd hdue (Nat.lt_irrefl _)
  · intro h e he calls next out hcalls hrun hnext t _ hdue
    obtain ⟨u,a,b,hu,hb,_⟩ := run_cons.mp hrun
    obtain ⟨rfl,rfl⟩ := total_eq_some.mp hu
    obtain ⟨hreg,hat⟩ := run_still hcalls hb hnext
    have hstate : m.state ≠ .unregistering := by
      intro hstate
      simp [apply, handleResponse, hsuccess, hstate] at hreg
    have hle := seconds_le_seconds.mpr (h.resolve_left hstate e (hconfig ▸ he))
    rw [apply_success hsuccess hstate] at hat
    have hsame : next.config = m.config := run_config hrun
    have hend : next.expiresAt = some (t0+seconds next.config.expires.toNat) := by rw [hat, hsame]
    have hbefore := (needsRefresh_counted hend t).mp hdue
    rw [hsame, hconfig] at hbefore
    omega

def shortGrant : SipResponse :=
  okResponse [.contact "<sip:a@h>;expires=60"] (Nat.le_of_ble_eq_true rfl)

def fullGrant : SipResponse :=
  okResponse [.contact "<sip:a@h>;expires=3600"] (Nat.le_of_ble_eq_true rfl)

def desk : RegistrationConfig := { phone with contact := "sip:a@h" }

theorem full_grant_covered : granted desk fullGrant = some 3600 ∧
    Covered SdpAgreement.asciiText plainHash (new desk ['c'] ['t']) 0 fullGrant zeroFresh := by
  have hgranted : granted desk fullGrant = some 3600 := by decide +kernel
  have hr : run (step SdpAgreement.asciiText plainHash) (new desk ['c'] ['t']) [] =
      some (new desk ['c'] ['t'],[]) := rfl
  refine ⟨hgranted,(lifetime_covered_iff hr rfl 0 zeroFresh).mpr (.inr fun e he => ?_)⟩
  rw [hgranted] at he
  cases he
  decide

/-- A grant of a minute is over long before the refresh. -/
theorem short_grant_not_covered : granted desk shortGrant = some 60 ∧
    ¬Covered SdpAgreement.asciiText plainHash (new desk ['c'] ['t']) 0 shortGrant zeroFresh := by
  have hgranted : granted desk shortGrant = some 60 := by decide +kernel
  refine ⟨hgranted,fun h => ?_⟩
  have hdue := h 60 hgranted [] _ _ (by simp) (run_cons.mpr ⟨_,_,[],rfl,rfl,rfl⟩) rfl (seconds 60)
    (Nat.zero_le _) (by decide)
  exact absurd hdue (by decide)

end RsipRtp.RegistrationLife
