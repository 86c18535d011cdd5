import RsipRtp.InviteServerStep

/-!
# Silence after termination

Every way out of Proceeding empties the buffer of reliable provisionals,
except the transport error: it leaves the buffer and the running Timer N,
and that timer still sends in Terminated.
-/

namespace RsipRtp.InviteServerTermination
open SipMessage TransactionTimer OutputMachine InviteServer InviteServerStep

/-- No transport error comes while a reliable provisional waits for its PRACK. -/
def NonePending (tx : InviteServerTransaction) (c : Call) : Prop :=
  c = .handleTransportError → tx.state = .proceeding → tx.reliableProvisionals = []

def Settled (tx : InviteServerTransaction) : Prop :=
  tx.state ≠ .proceeding → tx.reliableProvisionals = []

theorem fireTimerN_empty {tx : InviteServerTransaction} (h : tx.reliableProvisionals = []) :
    fireTimerN tx = (tx,[]) := by
  simp [fireTimerN, h]

theorem step_settled (tx : InviteServerTransaction) (c : Call) (tx' : InviteServerTransaction)
    (out : List Action) (hi : Settled tx) (hg : NonePending tx c)
    (hs : step tx c = some (tx',out)) : Settled tx' := by
  intro hne
  cases step_effect hs with
  | drained _ h => exact h.buffer
  | stamped r bytes _ _ h => exact absurd h.state hne
  | pracked r _ h =>
    have hst : tx'.state = tx.state := by simp [h.next]
    simp [h.next, hi (hst ▸ hne)]
  | ticked _ _ h =>
    have hst : tx'.state = tx.state := by rw [← fireTimerN_state tx, ← h]
    have hb := hi (hst ▸ hne)
    rw [fireTimerN_empty hb] at h
    cases h
    exact hb
  | quiet _ h =>
    rw [h.buffer]
    by_cases hp : tx.state = .proceeding
    · exact hg ((h.leaves hp).resolve_left hne) hp
    · exact hi hp

theorem step_silent {tx tx' : InviteServerTransaction} {c : Call} {out : List Action}
    (hi : Settled tx) (ht : tx.state = .terminated) (hs : step tx c = some (tx',out)) :
    tx'.state = .terminated ∧ sends out = [] := by
  have hp : tx.state ≠ .proceeding := by simp [ht]
  cases step_effect hs with
  | drained _ h | stamped r bytes _ _ h => exact absurd h.from_proceeding hp
  | pracked r _ h => exact ⟨by simp [h.next, ht],h.sends⟩
  | ticked _ _ h =>
    rw [fireTimerN_empty (hi hp)] at h
    cases h
    exact ⟨ht,rfl⟩
  | quiet _ h => exact h.terminated ht

theorem start_settled {request : SipRequest} {reliable : Bool} {tx : InviteServerTransaction}
    {out : List Action} (hnew : new request reliable = some (tx,out)) : Settled tx := by
  obtain ⟨_,id,_,hp⟩ := new_eq_some hnew
  cases hp
  exact fun _ => rfl

/-- In every run that takes no transport error while a reliable provisional
is pending, no call sends anything once the state is Terminated. -/
theorem terminated_sends_nothing (request : SipRequest) (reliable : Bool)
    (tx tx₁ tx₂ : InviteServerTransaction) (out log₁ log₂ : List Action)
    (before after : List Call) (hnew : new request reliable = some (tx,out))
    (hg : Guarded step NonePending tx (before++after))
    (hb : run step tx before = some (tx₁,log₁)) (ht : tx₁.state = .terminated)
    (ha : run step tx₁ after = some (tx₂,log₂)) : sends log₂ = [] := by
  obtain ⟨hg₁,hg₂⟩ := guarded_append.mp hg
  have h₁ : Settled tx₁ := run_guarded_invariant step_settled (start_settled hnew) hg₁ hb
  have h := run_guarded_history
    (P := fun t log => Settled t ∧ t.state = .terminated ∧ sends log = [])
    (fun s log c t o hp hc hs => by
      obtain ⟨hst,ho⟩ := step_silent hp.1 hp.2.1 hs
      exact ⟨step_settled s c t o hp.1 hc hs,hst,by simp [hp.2.2, ho]⟩)
    (h := []) ⟨h₁,ht,rfl⟩ (hg₂ tx₁ log₁ hb) ha
  exact h.2.2

def busyTx (state : State) : InviteServerTransaction :=
  { (start (createRequest .invite testBranch) true ⟨testBranch,.invite⟩).1 with
    state, finalSent := .nonTwoXx
    lastResponse := some (createResponse .invite testBranch 486).toBytes }

theorem terminated_sends_nothing_after_ack :
    ∃ log₁ log₂, run step (start (createRequest .invite testBranch) true ⟨testBranch,.invite⟩).1
        [.sendResponse (createResponse .invite testBranch 486),
          .handleRequest (createRequest .ack testBranch)] = some (busyTx .terminated,log₁) ∧
      run step (busyTx .terminated)
        [.handleRequest (createRequest .invite testBranch),.handleTimeout .N] =
          some (busyTx .terminated,log₂) ∧ sends log₂ = [] := by
  have hb : run step (start (createRequest .invite testBranch) true ⟨testBranch,.invite⟩).1
      [.sendResponse (createResponse .invite testBranch 486),
        .handleRequest (createRequest .ack testBranch)] = some (busyTx .terminated,
          [.send (createResponse .invite testBranch 486).toBytes,.setTimer .H 32000,
            .cancelTimer .H,.event .ackReceived]) := by decide +kernel
  have ha : run step (busyTx .terminated)
      [.handleRequest (createRequest .invite testBranch),.handleTimeout .N] =
        some (busyTx .terminated,[]) := rfl
  have hnew : new (createRequest .invite testBranch) true = some
      (start (createRequest .invite testBranch) true ⟨testBranch,.invite⟩) := by
    rw [new, TransactionId.fromRequest_createRequest]
    rfl
  refine ⟨_,_,hb,ha,terminated_sends_nothing (createRequest .invite testBranch) true _ _ _
    (start (createRequest .invite testBranch) true ⟨testBranch,.invite⟩).2 _ _ _ _
    hnew (guarded_of_forall _ ?_) hb rfl ha⟩
  intro c hc s h
  simp [h] at hc

/-- A transport error in Proceeding leaves the buffered provisional, and
Timer N sends it in Terminated. -/
theorem transport_error_then_resend :
    ¬∀ (request : SipRequest) (reliable : Bool) (tx tx₁ tx₂ : InviteServerTransaction)
        (out log₁ log₂ : List Action) (before after : List Call),
        new request reliable = some (tx,out) → run step tx before = some (tx₁,log₁) →
        tx₁.state = .terminated → run step tx₁ after = some (tx₂,log₂) → sends log₂ = [] := by
  intro h
  let entry := pendingEntry 1 500 500 0
  let tx₁ := { pendingTx [entry] with state := .terminated }
  have hs := h (createRequest .invite testBranch) false (pendingTx []) tx₁ (fireTimerN tx₁).1
    [.event (.request (createRequest .invite testBranch))]
    [.send entry.bytes,.setTimer .N 500,.event .transportError] (fireTimerN tx₁).2
    [.sendProvisionalReliable (createResponse .invite testBranch 183),.handleTransportError]
    [.handleTimeout .N] new_pendingTx (by decide +kernel) rfl
    (run_cons.mpr ⟨_,_,_,rfl,rfl,(List.append_nil _).symm⟩)
  have hne : sends (fireTimerN tx₁).2 = [entry.bytes] := by decide +kernel
  rw [hs] at hne
  cases hne

end RsipRtp.InviteServerTermination
