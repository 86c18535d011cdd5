import RsipRtp.InviteClient

/-!
# The outcome that an INVITE client transaction reports

A transaction is live in Calling and Proceeding. It reports at most one of
failure, timeout and transport error, and only as it stops being live.
-/

namespace RsipRtp.InviteClientOutcome
open SipMessage TransactionTimer OutputMachine InviteClient

def isOutcome : Event → Bool
  | .failure _ | .timeout | .transportError => true
  | _ => false

def isSuccess : Event → Bool
  | .success _ => true
  | _ => false

def outcomes (out : List Action) : ℕ := (events out).countP isOutcome

def Live (tx : InviteClientTransaction) : Prop := tx.state = .calling ∨ tx.state = .proceeding

def forwarded (tx : InviteClientTransaction) : Call → List Event
  | .handleResponse r =>
    if tx.state = .terminated ∧ 200 ≤ r.statusCode ∧ r.statusCode < 300 then [.success r] else []
  | _ => []

@[simp] theorem outcomes_append (a b : List Action) : outcomes (a++b) = outcomes a+outcomes b := by
  simp [outcomes]

variable (tx : InviteClientTransaction)

@[simp] theorem events_sendAck : events (sendAck tx) = [] := by
  unfold sendAck
  split <;> rfl

theorem finalFailure_spec (r : SipResponse) :
    ¬Live (finalFailure tx r).1 ∧ events (finalFailure tx r).2 = [.failure r] := by
  simp only [finalFailure]
  generalize (if tx.reliable = true then 0 else tx.timers.timerD) = d
  by_cases hd : d = 0 <;> simp [hd, Live]

theorem apply_live (c : Call) (hl : Live tx) :
    outcomes (apply tx c).2 ≤ 1 ∧ (Live (apply tx c).1 → outcomes (apply tx c).2 = 0) := by
  cases c with
  | handleTimeout t =>
    rcases hl with h | h <;> cases t <;>
      simp [apply, handleTimeout, h, Live, outcomes, isOutcome]
  | handleTransportError =>
    rcases hl with h | h <;>
      simp [apply, handleTransportError, h, Live, outcomes, isOutcome]
  | handleResponse r =>
    have hf := finalFailure_spec tx r
    rcases hl with h | h
    · simp only [apply, handleResponse, h]
      split_ifs <;> simp_all [Live, outcomes, isOutcome]
    · simp only [apply, handleResponse, h]
      split_ifs <;> simp_all [Live, outcomes, isOutcome]

theorem apply_done (c : Call) (hl : ¬Live tx) :
    ¬Live (apply tx c).1 ∧ events (apply tx c).2 = forwarded tx c := by
  have hs : tx.state = .completed ∨ tx.state = .terminated := by
    unfold Live at hl
    cases h : tx.state <;> simp_all
  cases c with
  | handleTimeout t =>
    rcases hs with h | h <;> cases t <;> simp [apply, handleTimeout, h, Live, forwarded]
  | handleTransportError =>
    rcases hs with h | h <;> simp [apply, handleTransportError, h, Live, forwarded]
  | handleResponse r =>
    rcases hs with h | h
    · simp only [apply, handleResponse, h, forwarded]
      split_ifs <;> simp_all [Live]
    · simp only [apply, handleResponse, h, forwarded]
      split_ifs <;> simp_all [Live]

def Reported (tx : InviteClientTransaction) (log : List Action) : Prop :=
  outcomes log ≤ 1 ∧ (Live tx → outcomes log = 0)

theorem start_reported (request : SipRequest) (reliable : Bool) (id : TransactionId) :
    Reported (start request reliable id).1 (start request reliable id).2 := by
  cases reliable <;> simp [Reported, start, outcomes]

theorem step_reported (tx : InviteClientTransaction) (log : List Action) (c : Call)
    (tx' : InviteClientTransaction) (out : List Action) (hr : Reported tx log)
    (hs : step tx c = some (tx',out)) : Reported tx' (log++out) := by
  obtain ⟨rfl,rfl⟩ := total_eq_some.mp hs
  by_cases hl : Live tx
  · have ha := apply_live tx c hl
    have h0 := hr.2 hl
    simp only [Reported, outcomes_append, h0, Nat.zero_add]
    exact ha
  · obtain ⟨hd,he⟩ := apply_done tx c hl
    have h0 : outcomes (apply tx c).2 = 0 := by
      rw [outcomes, he]
      unfold forwarded
      split
      · split_ifs <;> simp [isOutcome]
      · rfl
    simp only [Reported, outcomes_append, h0, Nat.add_zero]
    exact ⟨hr.1,fun h => absurd h hd⟩

/-- The events of a whole run tell one outcome: at most one of the three
reports, and none of them before a later success. -/
def OneOutcome (log : List Action) : Prop :=
  outcomes log ≤ 1 ∧ ∀ pre post, log = pre++post → 0 < outcomes pre →
    ∀ e ∈ events post, isSuccess e = false

/-- At most one outcome is reported in a run of any length. After it a call
reports nothing, except that a 2xx received in Terminated is passed on once. -/
theorem outcome_reported_once (request : SipRequest) (reliable : Bool)
    (tx : InviteClientTransaction) (out : List Action)
    (hnew : new request reliable = some (tx,out)) (calls : List Call) :
    ∃ tx' log, run step tx calls = some (tx',log) ∧ outcomes (out++log) ≤ 1 ∧
      ∀ before c after, calls = before++c::after →
        ∃ tx₁ log₁, run step tx before = some (tx₁,log₁) ∧
          (0 < outcomes (out++log₁) → events (apply tx₁ c).2 = forwarded tx₁ c) := by
  obtain ⟨_,id,_,hp⟩ := new_eq_some hnew
  have h0 : Reported tx out := by
    have hst := start_reported request reliable id
    rwa [← hp] at hst
  obtain ⟨tx',log,hrun⟩ := run_total apply tx calls
  refine ⟨tx',log,hrun,(run_history step_reported h0 hrun).1,?_⟩
  rintro before c after rfl
  obtain ⟨tx₁,log₁,rest,hb,_,_⟩ := run_append.mp hrun
  refine ⟨tx₁,log₁,hb,fun hpos => (apply_done tx₁ c fun hl => ?_).2⟩
  have hz := (run_history step_reported h0 hb).2 hl
  omega

theorem outcome_reported_once_after_busy :
    new (createRequest .invite testBranch) true =
        some (start (createRequest .invite testBranch) true ⟨testBranch,.invite⟩) ∧
    ∃ tx' log, run step (start (createRequest .invite testBranch) true ⟨testBranch,.invite⟩).1
        [.handleResponse (createResponse .invite testBranch 486),
          .handleResponse (createResponse .invite testBranch 200)] = some (tx',log) ∧
      outcomes ((start (createRequest .invite testBranch) true ⟨testBranch,.invite⟩).2++log) ≤
        1 := by
  have hnew : new (createRequest .invite testBranch) true =
      some (start (createRequest .invite testBranch) true ⟨testBranch,.invite⟩) := by
    rw [new, TransactionId.fromRequest_createRequest]
    rfl
  obtain ⟨tx',log,hr,ho,_⟩ := outcome_reported_once _ _ _ _ hnew
    [.handleResponse (createResponse .invite testBranch 486),
      .handleResponse (createResponse .invite testBranch 200)]
  exact ⟨hnew,tx',log,hr,ho⟩

/-- Timer B reports the timeout, and a 2xx that comes later is still reported
as a success. -/
theorem timeout_then_success :
    ¬∀ (request : SipRequest) (reliable : Bool) (tx : InviteClientTransaction)
        (out : List Action) (calls : List Call) (tx' : InviteClientTransaction)
        (log : List Action), new request reliable = some (tx,out) →
        run step tx calls = some (tx',log) → OneOutcome (out++log) := by
  intro h
  have hr := h (createRequest .invite testBranch) false
    (start (createRequest .invite testBranch) false ⟨testBranch,.invite⟩).1
    (start (createRequest .invite testBranch) false ⟨testBranch,.invite⟩).2
    [.handleTimeout .B,.handleResponse (createResponse .invite testBranch 200)]
    { (start (createRequest .invite testBranch) false ⟨testBranch,.invite⟩).1 with
      state := .terminated }
    [.event .timeout,.event (.success (createResponse .invite testBranch 200))]
    (by rw [new, TransactionId.fromRequest_createRequest]; rfl) (by decide +kernel)
  have hs := hr.2 ((start (createRequest .invite testBranch) false ⟨testBranch,.invite⟩).2++
      [.event .timeout]) [.event (.success (createResponse .invite testBranch 200))]
    (by simp) (by simp [outcomes, isOutcome])
    (.success (createResponse .invite testBranch 200)) (by simp)
  simp [isSuccess] at hs

end RsipRtp.InviteClientOutcome
