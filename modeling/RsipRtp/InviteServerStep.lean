import RsipRtp.InviteServer

/-!
# What one call does to the reliable provisionals

A call of an INVITE server transaction edits the buffer in one of four ways or
leaves it alone.
-/

namespace RsipRtp.InviteServerStep
open SipText SipMessage TransactionTimer InviteServer

variable {r : SipResponse}

inductive Kind where
  | drain
  | stamp (response : SipResponse)
  | prack (rseq : ℕ)
  | tick
  | other

def kind (tx : InviteServerTransaction) : Call → Kind
  | .sendResponse r => if tx.state = .proceeding ∧ 200 ≤ r.statusCode then .drain else .other
  | .sendProvisionalReliable r => if tx.state = .proceeding then .stamp r else .other
  | .handleEvent (.prackReceived r) => .prack r
  | .handleTimeout .N => .tick
  | _ => .other

/-- The deadline of Timer N, as a caller keeps it who carries out the actions. -/
def armedAfter : Option ℕ → List Action → Option ℕ
  | armed, [] => armed
  | _, .setTimer .N d::out => armedAfter (some d) out
  | _, .cancelTimer .N::out => armedAfter none out
  | armed, _::out => armedAfter armed out

def prackTimeoutRseq : Event → Option ℕ
  | .prackTimeout rseq _ => some rseq
  | _ => none

def abandoned (out : List Action) : List ℕ := (events out).filterMap prackTimeoutRseq

def buffered (tx : InviteServerTransaction) : List ℕ := tx.reliableProvisionals.map (·.rseq)

@[simp] theorem abandoned_append (a b : List Action) :
    abandoned (a++b) = abandoned a++abandoned b := by
  simp [abandoned]

@[simp] theorem armedAfter_append (armed : Option ℕ) (a b : List Action) :
    armedAfter armed (a++b) = armedAfter (armedAfter armed a) b := by
  induction armed, a using armedAfter.induct with
  | case1 armed => rfl
  | case2 armed d out ih | case3 armed out ih | case4 armed x out h1 h2 ih =>
    simpa [armedAfter] using ih

@[simp] theorem abandoned_nil : abandoned [] = [] := rfl
@[simp] theorem abandoned_send (d : Bytes) (out : List Action) :
    abandoned (.send d::out) = abandoned out := rfl
@[simp] theorem abandoned_event (e : Event) (out : List Action) :
    abandoned (.event e::out) = (prackTimeoutRseq e).toList++abandoned out := by
  cases h : prackTimeoutRseq e <;> simp [abandoned, h]

@[simp] theorem abandoned_setTimer (t : Timer) (d : ℕ) (out : List Action) :
    abandoned (.setTimer t d::out) = abandoned out := rfl
@[simp] theorem abandoned_cancelTimer (t : Timer) (out : List Action) :
    abandoned (.cancelTimer t::out) = abandoned out := rfl

@[simp] theorem armedAfter_nil (armed : Option ℕ) : armedAfter armed [] = armed := rfl
@[simp] theorem armedAfter_send (armed : Option ℕ) (d : Bytes) (out : List Action) :
    armedAfter armed (.send d::out) = armedAfter armed out := rfl
@[simp] theorem armedAfter_event (armed : Option ℕ) (e : Event) (out : List Action) :
    armedAfter armed (.event e::out) = armedAfter armed out := rfl

@[simp] theorem armedAfter_resendLast (tx : InviteServerTransaction) (armed : Option ℕ) :
    armedAfter armed (resendLast tx) = armed := by
  unfold resendLast
  cases tx.lastResponse <;> rfl

@[simp] theorem abandoned_resendLast (tx : InviteServerTransaction) :
    abandoned (resendLast tx) = [] := by
  unfold resendLast
  cases tx.lastResponse <;> rfl

theorem soonest_eq_none {entries : List ReliableProvisional} :
    soonest entries = none ↔ entries = [] := by
  simp [soonest]

theorem soonest_eq_some {entries : List ReliableProvisional} {d : ℕ} :
    soonest entries = some d ↔
      (∃ e ∈ entries, e.nextFireAfter = d) ∧ ∀ e ∈ entries, d ≤ e.nextFireAfter := by
  simp [soonest, List.min?_eq_some_iff]

theorem armedAfter_rearm (entries : List ReliableProvisional) (armed : Option ℕ) :
    armedAfter armed (rearm entries) = (soonest entries).or armed := by
  unfold rearm
  cases soonest entries <;> simp [armedAfter]

/-- A call that leaves the buffer, the RSeq counter and Timer N alone. Only a
transport error takes it out of Proceeding, and in Terminated it is silent. -/
structure Quiet (tx : InviteServerTransaction) (c : Call) (tx' : InviteServerTransaction)
    (out : List Action) : Prop where
  buffer : tx'.reliableProvisionals = tx.reliableProvisionals
  nextRseq : tx'.nextRseq = tx.nextRseq
  timers : tx'.timers = tx.timers
  armed : ∀ armed, armedAfter armed out = armed
  abandoned : abandoned out = []
  proceeding : tx'.state = .proceeding → tx.state = .proceeding
  leaves : tx.state = .proceeding → tx'.state = .proceeding ∨ c = .handleTransportError
  terminated : tx.state = .terminated → tx'.state = .terminated ∧ sends out = []

variable (tx : InviteServerTransaction)

theorem quiet_self (c : Call) : Quiet tx c tx [] := by
  constructor <;> simp +contextual

theorem handleRequest_quiet (r : SipRequest) :
    Quiet tx (.handleRequest r) (handleRequest tx r).1 (handleRequest tx r).2 := by
  unfold handleRequest
  cases h : tx.state with
  | proceeding =>
    dsimp only
    split_ifs
    · constructor <;> simp [h]
    · exact quiet_self tx _
  | completed =>
    dsimp only
    split_ifs <;> constructor <;> simp [h, armedAfter, prackTimeoutRseq]
  | confirmed | terminated => exact quiet_self tx _

theorem handleTimeout_quiet {t : Timer} (ht : t ≠ .N) :
    Quiet tx (.handleTimeout t) (handleTimeout tx t).1 (handleTimeout tx t).2 := by
  unfold handleTimeout
  split
  · constructor <;> simp_all [armedAfter]
  · constructor <;> simp_all [prackTimeoutRseq]
  · constructor <;> simp_all
  · exact absurd rfl ht
  · exact quiet_self tx _

theorem handleTransportError_quiet :
    Quiet tx .handleTransportError (handleTransportError tx).1 (handleTransportError tx).2 := by
  unfold handleTransportError
  split
  · constructor <;> simp_all [prackTimeoutRseq]
  · constructor <;> simp_all [prackTimeoutRseq]
  · exact quiet_self tx _

theorem sendResponse_quiet
    (h : tx.state = .proceeding → r.statusCode < 200) :
    Quiet tx (.sendResponse r) (sendResponse tx r).1 (sendResponse tx r).2 := by
  unfold sendResponse
  split
  · rename_i hp
    have hr := h hp
    dsimp only
    rw [if_neg (c := 200 ≤ r.statusCode ∧ r.statusCode < 300) (by omega),
      if_neg (c := 300 ≤ r.statusCode) (by omega)]
    split_ifs
    · constructor <;> simp [hp]
    · exact quiet_self tx _
  · exact quiet_self tx _

@[simp] theorem drain_fst :
    (drainReliableProvisionals tx).1 = { tx with reliableProvisionals := [] } := by
  unfold drainReliableProvisionals
  cases h : tx.reliableProvisionals with
  | nil => simp [← h]
  | cons e es => rfl

@[simp] theorem drain_abandoned : abandoned (drainReliableProvisionals tx).2 = [] := by
  unfold drainReliableProvisionals
  split_ifs <;> rfl

@[simp] theorem drain_armed (armed : Option ℕ) : armedAfter armed (drainReliableProvisionals tx).2 =
      if tx.reliableProvisionals = [] then armed else none := by
  unfold drainReliableProvisionals
  cases tx.reliableProvisionals <;> simp [armedAfter]

structure Drained (tx tx' : InviteServerTransaction) (out : List Action) : Prop where
  from_proceeding : tx.state = .proceeding
  state : tx'.state ≠ .proceeding
  buffer : tx'.reliableProvisionals = []
  nextRseq : tx'.nextRseq = tx.nextRseq
  timers : tx'.timers = tx.timers
  abandoned : abandoned out = []
  armed : ∀ armed, armedAfter armed out = if tx.reliableProvisionals = [] then armed else none

theorem sendResponse_drained (tx : InviteServerTransaction)
    (hp : tx.state = .proceeding) (hr : 200 ≤ r.statusCode) :
    Drained tx (sendResponse tx r).1 (sendResponse tx r).2 := by
  simp only [sendResponse, hp]
  rw [if_neg (by omega)]
  split_ifs
  · constructor <;> simp [hp]
  · constructor <;> simp [hp, armedAfter]
  · constructor <;> simp [hp, armedAfter]
  · omega

def stampedEntry (tx : InviteServerTransaction) (stamped : Bytes) : ReliableProvisional :=
  { rseq := tx.nextRseq, bytes := stamped, nextFireAfter := tx.timers.t1
    nextInterval := tx.timers.t1, elapsed := 0, abandonAt := tx.timers.t1*64 }

structure Stamped (tx : InviteServerTransaction) (r : SipResponse) (stamped : Bytes)
    (tx' : InviteServerTransaction) (out : List Action) : Prop where
  bytes : stampReliableHeaders r tx.nextRseq = some stamped
  from_proceeding : tx.state = .proceeding
  state : tx'.state = .proceeding
  buffer : tx'.reliableProvisionals = tx.reliableProvisionals++[stampedEntry tx stamped]
  nextRseq : tx'.nextRseq = tx.nextRseq+1
  timers : tx'.timers = tx.timers
  abandoned : abandoned out = []
  armed : ∀ armed, armedAfter armed out =
    if tx.reliableProvisionals = [] then some tx.timers.t1 else armed

theorem sendProvisionalReliable_stamped {tx : InviteServerTransaction}
    {p : InviteServerTransaction × List Action} (hp : tx.state = .proceeding)
    (hs : sendProvisionalReliable tx r = some p) : ∃ stamped, Stamped tx r stamped p.1 p.2 := by
  rw [sendProvisionalReliable, if_neg (not_not.mpr hp)] at hs
  by_cases hlt : tx.nextRseq+1 < 2^32
  · rw [if_pos hlt] at hs
    obtain ⟨stamped,hb,rfl⟩ := Option.map_eq_some_iff.mp hs
    refine ⟨stamped,hb,hp,hp,rfl,rfl,rfl,?_,fun armed => ?_⟩
    · cases tx.reliableProvisionals <;> rfl
    · cases tx.reliableProvisionals <;> rfl
  · rw [if_neg hlt] at hs
    cases hs

structure Pracked (tx : InviteServerTransaction) (r : ℕ) (tx' : InviteServerTransaction)
    (out : List Action) : Prop where
  next : tx' = { tx with reliableProvisionals := tx.reliableProvisionals.filter (·.rseq != r) }
  sends : sends out = []
  abandoned : abandoned out = []
  armed : ∀ armed, armedAfter armed out =
    if r ∈ buffered tx then soonest tx'.reliableProvisionals else armed

theorem filter_rseq_of_notMem {tx : InviteServerTransaction} {r : ℕ} (hr : r ∉ buffered tx) :
    tx.reliableProvisionals.filter (·.rseq != r) = tx.reliableProvisionals := by
  rw [List.filter_eq_self]
  intro e he
  rw [bne_iff_ne]
  rintro rfl
  exact hr (List.mem_map_of_mem he)

theorem handlePrackReceived_spec (tx : InviteServerTransaction) (r : ℕ) :
    Pracked tx r (handlePrackReceived tx r).1 (handlePrackReceived tx r).2 := by
  by_cases hr : r ∈ buffered tx
  · have hlen : (tx.reliableProvisionals.filter (·.rseq != r)).length ≠
        tx.reliableProvisionals.length := by
      obtain ⟨e,he,rfl⟩ := List.mem_map.mp hr
      intro hl
      simpa using List.length_filter_eq_length_iff.mp hl e he
    simp only [handlePrackReceived, if_neg hlen]
    cases hsn : soonest (tx.reliableProvisionals.filter (·.rseq != r)) with
    | none =>
      have he := soonest_eq_none.mp hsn
      constructor <;> simp [he, hr, soonest, armedAfter]
    | some d =>
      have he : tx.reliableProvisionals.filter (·.rseq != r) ≠ [] := by
        rw [ne_eq, ← soonest_eq_none, hsn]
        simp
      rw [if_neg (by simpa using he)]
      constructor <;> simp [hsn, hr, armedAfter]
  · have hf := filter_rseq_of_notMem hr
    simp only [handlePrackReceived, hf, if_true]
    constructor <;> simp [hf, hr]

theorem fireTimerN_state (tx : InviteServerTransaction) : (fireTimerN tx).1.state = tx.state := by
  unfold fireTimerN
  split_ifs <;> rfl

inductive Effect (tx : InviteServerTransaction) (c : Call) (tx' : InviteServerTransaction)
    (out : List Action) : Prop where
  | drained (hk : kind tx c = .drain) (h : Drained tx tx' out)
  | stamped (r : SipResponse) (bytes : Bytes) (hk : kind tx c = .stamp r)
      (hc : c = .sendProvisionalReliable r) (h : Stamped tx r bytes tx' out)
  | pracked (r : ℕ) (hk : kind tx c = .prack r) (h : Pracked tx r tx' out)
  | ticked (hk : kind tx c = .tick) (hc : c = .handleTimeout .N) (h : (tx',out) = fireTimerN tx)
  | quiet (hk : kind tx c = .other) (h : Quiet tx c tx' out)

theorem step_effect {tx tx' : InviteServerTransaction} {c : Call} {out : List Action}
    (hs : step tx c = some (tx',out)) : Effect tx c tx' out := by
  generalize hp : (tx',out) = p at hs
  obtain ⟨rfl,rfl⟩ : tx' = p.1 ∧ out = p.2 := by simp [← hp]
  clear hp
  cases c with
  | sendResponse r =>
    cases hs
    by_cases h : tx.state = .proceeding ∧ 200 ≤ r.statusCode
    · exact .drained (if_pos h) (sendResponse_drained tx h.1 h.2)
    · refine .quiet (if_neg h) (sendResponse_quiet tx fun hp => ?_)
      by_contra hr
      exact h ⟨hp,by omega⟩
  | sendProvisionalReliable r =>
    by_cases hp : tx.state = .proceeding
    · obtain ⟨bytes,h⟩ := sendProvisionalReliable_stamped hp hs
      exact .stamped r bytes (if_pos hp) rfl h
    · rw [step, sendProvisionalReliable, if_pos hp] at hs
      cases hs
      exact .quiet (if_neg hp) (quiet_self tx _)
  | handleRequest r =>
    cases hs
    exact .quiet rfl (handleRequest_quiet tx r)
  | handleEvent e =>
    cases hs
    cases e with
    | prackReceived r => exact .pracked r rfl (handlePrackReceived_spec tx r)
    | _ => exact .quiet rfl (quiet_self tx _)
  | handleTimeout t =>
    cases hs
    cases t with
    | N => exact .ticked rfl rfl (by simp only [handleTimeout])
    | _ => exact .quiet rfl (handleTimeout_quiet tx (by decide))
  | handleTransportError =>
    cases hs
    exact .quiet rfl (handleTransportError_quiet tx)

end RsipRtp.InviteServerStep
