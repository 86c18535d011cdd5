import RsipRtp.InviteServerStep

/-!
# The final response of an INVITE server transaction

Once a final response has left Proceeding behind, the transaction user can
hand in no other one.
-/

namespace RsipRtp.InviteServerFinal
open SipText SipMessage TransactionTimer OutputMachine InviteServer InviteServerStep

def rank : State → ℕ
  | .proceeding => 0
  | .completed => 1
  | .confirmed => 2
  | .terminated => 3

/-- The final response that a call takes over from the transaction user: one
that `sendResponse` does not ignore. -/
def acceptedFinal (tx : InviteServerTransaction) : Call → Option SipResponse
  | .sendResponse r => if 200 ≤ r.statusCode ∧ sendResponse tx r ≠ (tx,[]) then some r else none
  | _ => none

def acceptedFinals : InviteServerTransaction → List Call → List SipResponse
  | _, [] => []
  | tx, c::cs => (acceptedFinal tx c).toList++
    match step tx c with
    | some p => acceptedFinals p.1 cs
    | none => []

section Forward

variable {tx : InviteServerTransaction} {c : Call} {p : InviteServerTransaction × List Action}

theorem rank_le_terminated (s : State) : rank s ≤ rank .terminated := by
  cases s <;> decide

theorem handleTimeout_rank (tx : InviteServerTransaction) (t : Timer) :
    rank tx.state ≤ rank (handleTimeout tx t).1.state := by
  unfold handleTimeout
  split
  · exact le_rfl
  · exact rank_le_terminated _
  · exact rank_le_terminated _
  · rw [fireTimerN_state]
  · exact le_rfl

theorem handleRequest_rank (tx : InviteServerTransaction) (r : SipRequest) :
    rank tx.state ≤ rank (handleRequest tx r).1.state := by
  unfold handleRequest
  cases h : tx.state with
  | proceeding => exact Nat.zero_le _
  | completed =>
    dsimp only
    split_ifs
    · rw [h]
    · exact rank_le_terminated _
    · exact Nat.le_succ 1
    · exact rank_le_terminated _
    · exact Nat.le_succ 1
    · rw [h]
  | confirmed | terminated => exact le_of_eq (congrArg rank h.symm)

theorem sendResponse_ignored (r : SipResponse) (h : tx.state ≠ .proceeding) :
    sendResponse tx r = (tx,[]) := by
  unfold sendResponse
  split
  · exact absurd ‹_› h
  · rfl

theorem sendProvisionalReliable_ignored (r : SipResponse) (h : tx.state ≠ .proceeding) :
    sendProvisionalReliable tx r = some (tx,[]) := if_pos h

/-- One call never moves the state back. -/
theorem step_rank (hs : step tx c = some p) : rank tx.state ≤ rank p.1.state := by
  by_cases hp : tx.state = .proceeding
  · rw [hp]
    exact Nat.zero_le _
  cases c with
  | sendResponse r =>
    rw [step, sendResponse_ignored r hp] at hs
    cases hs
    exact le_rfl
  | sendProvisionalReliable r =>
    rw [step, sendProvisionalReliable_ignored r hp] at hs
    cases hs
    exact le_rfl
  | handleRequest r =>
    cases hs
    exact handleRequest_rank tx r
  | handleEvent e =>
    cases hs
    cases e with
    | prackReceived r =>
      rw [handleEvent, (handlePrackReceived_spec tx r).next]
    | _ => exact le_rfl
  | handleTimeout t =>
    cases hs
    exact handleTimeout_rank tx t
  | handleTransportError =>
    cases hs
    unfold handleTransportError
    split
    · exact rank_le_terminated _
    · exact rank_le_terminated _
    · exact le_rfl

theorem run_rank {tx' : InviteServerTransaction} {calls : List Call} {out : List Action}
    (hr : run step tx calls = some (tx',out)) : rank tx.state ≤ rank tx'.state :=
  run_invariant (P := fun s => rank tx.state ≤ rank s.state)
    (fun _ _ _ _ hle hs => hle.trans (step_rank hs)) le_rfl hr

theorem step_leaves (h : tx.state ≠ .proceeding) (hs : step tx c = some p) :
    p.1.state ≠ .proceeding := by
  intro h'
  have hle := step_rank hs
  rw [h'] at hle
  revert hle
  cases hst : tx.state with
  | proceeding => exact absurd hst h
  | _ => decide

end Forward

section Accepted

variable {tx : InviteServerTransaction} {c : Call} {r : SipResponse}

theorem acceptedFinal_eq_some (h : acceptedFinal tx c = some r) :
    c = .sendResponse r ∧ tx.state = .proceeding ∧ 200 ≤ r.statusCode := by
  cases c with
  | sendResponse s =>
    rw [acceptedFinal] at h
    split_ifs at h with hc
    cases h
    refine ⟨rfl,?_,hc.1⟩
    by_contra hp
    exact hc.2 (sendResponse_ignored r hp)
  | _ => cases h

theorem acceptedFinal_eq_none (h : tx.state ≠ .proceeding) : acceptedFinal tx c = none := by
  cases ha : acceptedFinal tx c with
  | none => rfl
  | some r => exact absurd (acceptedFinal_eq_some ha).2.1 h

theorem acceptedFinals_eq_nil (calls : List Call) (h : tx.state ≠ .proceeding) :
    acceptedFinals tx calls = [] := by
  induction calls generalizing tx with
  | nil => rfl
  | cons c cs ih =>
    rw [acceptedFinals, acceptedFinal_eq_none h]
    cases hs : step tx c with
    | none => rfl
    | some p => exact ih (step_leaves h hs)

theorem acceptedFinals_length (tx : InviteServerTransaction) (calls : List Call) :
    (acceptedFinals tx calls).length ≤ 1 := by
  induction calls generalizing tx with
  | nil => exact Nat.zero_le 1
  | cons c cs ih =>
    rw [acceptedFinals]
    cases ha : acceptedFinal tx c with
    | none =>
      cases hs : step tx c with
      | none => exact Nat.zero_le 1
      | some p => exact ih p.1
    | some r =>
      obtain ⟨rfl,hp,hr⟩ := acceptedFinal_eq_some ha
      have hleft := (sendResponse_drained tx hp hr).state
      rw [step]
      dsimp only
      rw [acceptedFinals_eq_nil cs hleft]
      exact le_rfl

end Accepted

/-- The transaction has answered with `final` and has nothing else to send. -/
structure Answered (final : Bytes) (tx : InviteServerTransaction) : Prop where
  state : tx.state ≠ .proceeding
  lastResponse : tx.lastResponse = some final
  buffer : tx.reliableProvisionals = []

section Answer

variable {tx : InviteServerTransaction} {c : Call} {p : InviteServerTransaction × List Action}
variable {final : Bytes}

theorem sends_resendLast (h : tx.lastResponse = some final) :
    sends (resendLast tx) = [final] := by
  rw [resendLast, h]
  rfl

theorem handleRequest_resends (tx : InviteServerTransaction) (r : SipRequest) :
    (handleRequest tx r).1.lastResponse = tx.lastResponse ∧
      (sends (handleRequest tx r).2 = [] ∨
        sends (handleRequest tx r).2 = sends (resendLast tx)) := by
  unfold handleRequest
  cases tx.state with
  | proceeding =>
    dsimp only
    split_ifs
    · exact ⟨rfl,.inr rfl⟩
    · exact ⟨rfl,.inl rfl⟩
  | completed =>
    dsimp only
    split_ifs
    · exact ⟨rfl,.inr rfl⟩
    all_goals exact ⟨rfl,.inl rfl⟩
  | confirmed | terminated => exact ⟨rfl,.inl rfl⟩

theorem sendResponse_answered {r : SipResponse} (hp : tx.state = .proceeding)
    (hr : 300 ≤ r.statusCode) : Answered r.toBytes (sendResponse tx r).1 ∧
      sends (sendResponse tx r).2 = [r.toBytes] := by
  have hd (s : InviteServerTransaction) : sends (drainReliableProvisionals s).2 = [] := by
    unfold drainReliableProvisionals
    split_ifs <;> rfl
  simp only [sendResponse, hp]
  rw [if_neg (by omega), if_neg (by omega), if_pos hr]
  refine ⟨⟨by simp,rfl,by simp⟩,?_⟩
  split_ifs <;> simp [hd]

/-- Whatever is called next, only the accepted response is sent. -/
theorem step_answered (h : Answered final tx) (hs : step tx c = some p) :
    Answered final p.1 ∧ ∀ x ∈ sends p.2, x = final := by
  have hself : Answered final tx ∧ ∀ x ∈ sends ([] : List Action), x = final :=
    ⟨h,fun x hx => absurd hx List.not_mem_nil⟩
  have hstate := step_leaves h.state hs
  have hlast : ∀ x ∈ sends (resendLast tx), x = final := by
    rw [sends_resendLast h.lastResponse]
    exact fun x hx => List.mem_singleton.mp hx
  cases c with
  | sendResponse r =>
    rw [step, sendResponse_ignored r h.state] at hs
    cases hs
    exact hself
  | sendProvisionalReliable r =>
    rw [step, sendProvisionalReliable_ignored r h.state] at hs
    cases hs
    exact hself
  | handleRequest r =>
    cases hs
    have hq := handleRequest_quiet tx r
    obtain ⟨hsame,hsent⟩ := handleRequest_resends tx r
    refine ⟨⟨hstate,hsame.trans h.lastResponse,hq.buffer.trans h.buffer⟩,?_⟩
    rcases hsent with hsent | hsent
    · rw [hsent]
      exact hself.2
    · rw [hsent]
      exact hlast
  | handleEvent e =>
    cases hs
    cases e with
    | prackReceived r =>
      have hpr := handlePrackReceived_spec tx r
      refine ⟨⟨hstate,?_,?_⟩,?_⟩
      · rw [handleEvent, hpr.next]
        exact h.lastResponse
      · rw [handleEvent, hpr.next, h.buffer]
        rfl
      · rw [handleEvent, hpr.sends]
        exact hself.2
    | _ => exact hself
  | handleTimeout t =>
    cases hs
    have hn : fireTimerN tx = (tx,[]) := by
      rw [fireTimerN, h.buffer]
      rfl
    unfold handleTimeout
    split
    · exact ⟨⟨h.state,h.lastResponse,h.buffer⟩,by simpa using hlast⟩
    · exact ⟨⟨by simp,h.lastResponse,h.buffer⟩,hself.2⟩
    · exact ⟨⟨by simp,h.lastResponse,h.buffer⟩,hself.2⟩
    · rw [hn]
      exact hself
    · exact hself
  | handleTransportError =>
    cases hs
    rw [handleTransportError]
    split
    · exact ⟨⟨by simp,h.lastResponse,h.buffer⟩,hself.2⟩
    · exact ⟨⟨by simp,h.lastResponse,h.buffer⟩,hself.2⟩
    · exact hself

theorem run_answered {tx' : InviteServerTransaction} {calls : List Call} {out : List Action}
    (h : Answered final tx) (hr : run step tx calls = some (tx',out)) :
      ∀ x ∈ sends out, x = final := by
  have hinv := run_history (P := fun s h => Answered final s ∧ ∀ x ∈ sends h, x = final)
    (h := []) (fun s hist i t o hp hs => ?_) ⟨h,fun x hx => absurd hx List.not_mem_nil⟩ hr
  · exact hinv.2
  · obtain ⟨ht,ho⟩ := step_answered hp.1 hs
    refine ⟨ht,fun x hx => ?_⟩
    rw [sends_append, List.mem_append] at hx
    exact hx.elim (hp.2 x) (ho x)

end Answer

/-- A run cut at any point: the state does not move back over its second half,
at most one final response is accepted over both, and if the second half
begins with the acceptance of a non-2xx one, nothing else is sent in it. -/
theorem final_response_stands {tx u v : InviteServerTransaction} {first second : List Call}
    {a b : List Action} (hu : run step tx first = some (u,a))
    (hv : run step u second = some (v,b)) :
    rank tx.state ≤ rank u.state ∧ rank u.state ≤ rank v.state ∧
      (acceptedFinals tx (first++second)).length ≤ 1 ∧
      ∀ c rest r, second = c::rest → acceptedFinal u c = some r → 300 ≤ r.statusCode →
        ∀ x ∈ sends b, x = r.toBytes := by
  refine ⟨run_rank hu,run_rank hv,acceptedFinals_length tx _,?_⟩
  rintro c rest r rfl hacc hr
  obtain ⟨rfl,hp,-⟩ := acceptedFinal_eq_some hacc
  obtain ⟨w,d,e,hw,he,rfl⟩ := run_cons.mp hv
  obtain ⟨hans,hsent⟩ := sendResponse_answered hp hr
  rw [Option.some.inj hw] at hans hsent
  have hrest := run_answered hans he
  intro x hx
  rw [sends_append, hsent] at hx
  rcases List.mem_cons.mp hx with rfl | hx
  · rfl
  · exact hrest x hx

/-- A busy caller: the 486 goes out, then an INVITE and Timer G repeat it, and
neither a 200 nor a late 183 gets through. -/
theorem busy_stands :
    let invite := createRequest .invite testBranch
    let busy := createResponse .invite testBranch 486
    let rest : List Call := [.handleRequest invite,.handleTimeout .G,
      .sendResponse (createResponse .invite testBranch 200),.handleTimeout .N,
      .sendProvisionalReliable (createResponse .invite testBranch 183)]
    ∃ v b, run step (pendingTx [pendingEntry 1 500 500 0]) (.sendResponse busy::rest) =
        some (v,b) ∧ (sends b).length = 3 ∧ ∀ x ∈ sends b, x = busy.toBytes := by
  intro invite busy rest
  obtain ⟨v,b,hv,hlen⟩ : ∃ v b, run step (pendingTx [pendingEntry 1 500 500 0])
      (.sendResponse busy::rest) = some (v,b) ∧ (sends b).length = 3 :=
    ⟨_,_,rfl,by decide +kernel⟩
  have hu : run step (pendingTx [pendingEntry 1 500 500 0]) [] =
      some (pendingTx [pendingEntry 1 500 500 0],[]) := rfl
  refine ⟨v,b,hv,hlen,?_⟩
  exact (final_response_stands hu hv).2.2.2 _ _ busy rfl (by decide +kernel) (by decide +kernel)

end RsipRtp.InviteServerFinal
