import RsipRtp.NonInviteClient

/-!
# The outcome that a non-INVITE client transaction reports

The wait of Trying and Proceeding ends with exactly one terminal event, and
nothing is reported or sent after it.
-/

namespace RsipRtp.NonInviteClientOutcome
open SipMessage TransactionTimer OutputMachine NonInviteClient

def isTerminal : Event → Bool
  | .provisional _ => false
  | .finalResponse _ | .timeout | .transportError => true

def terminals (out : List Action) : ℕ := (events out).countP isTerminal

def afterTerminal : List Action → List Action
  | [] => []
  | .event e::out => if isTerminal e then out else afterTerminal out
  | _::out => afterTerminal out

def rank : State → ℕ
  | .trying => 0
  | .proceeding => 1
  | .completed => 2
  | .terminated => 3

def Waiting (tx : NonInviteClientTransaction) : Prop :=
  tx.state = .trying ∨ tx.state = .proceeding

@[simp] theorem terminals_append (a b : List Action) :
    terminals (a++b) = terminals a+terminals b := by
  simp [terminals]

theorem terminals_event (e : Event) (out : List Action) :
    terminals (.event e::out) = terminals out+if isTerminal e then 1 else 0 := by
  simp [terminals, List.countP_cons]

theorem afterTerminal_append (a b : List Action) : afterTerminal (a++b) =
    if terminals a = 0 then afterTerminal b else afterTerminal a++b := by
  induction a with
  | nil => simp [terminals]
  | cons x a ih =>
    cases x with
    | event e => cases h : isTerminal e <;> simp [afterTerminal, terminals_event, h, ih]
    | send d | setTimer t d | cancelTimer t => exact ih

/-- One terminal event has been put out, and nothing to report or send since. -/
def Closed (out : List Action) : Prop :=
  terminals out = 1 ∧ events (afterTerminal out) = [] ∧ sends (afterTerminal out) = []

def Told (tx : NonInviteClientTransaction) (log : List Action) : Prop :=
  (Waiting tx → terminals log = 0) ∧ (¬Waiting tx → Closed log)

variable (tx : NonInviteClientTransaction)

theorem handleFinal_told (r : SipResponse) :
    rank (handleFinal tx r).1.state ≥ 2 ∧ Told (handleFinal tx r).1 (handleFinal tx r).2 := by
  simp only [handleFinal]
  generalize tx.timers.timerK tx.reliable = k
  cases hr : tx.reliable <;> by_cases hk : k = 0 <;>
    simp [hk, rank, Told, Waiting, Closed, terminals, afterTerminal, isTerminal]

theorem apply_waiting (c : Call) (hw : Waiting tx) :
    rank tx.state ≤ rank (apply tx c).1.state ∧ Told (apply tx c).1 (apply tx c).2 := by
  cases c with
  | handleTimeout t =>
    rcases hw with h | h <;> cases t <;>
      simp [apply, handleTimeout, h, rank, Told, Waiting, Closed, terminals, afterTerminal,
        isTerminal]
  | handleTransportError =>
    rcases hw with h | h <;>
      simp [apply, handleTransportError, h, rank, Told, Waiting, Closed, terminals, afterTerminal,
        isTerminal]
  | handleResponse r =>
    obtain ⟨hk,ht⟩ := handleFinal_told tx r
    rcases hw with h | h
    · simp only [apply, handleResponse, h]
      split_ifs
      · simp [rank, Told, Waiting, terminals, isTerminal]
      · exact ⟨Nat.zero_le _,ht⟩
      · simp [h, rank, Told, Waiting, terminals]
    · simp only [apply, handleResponse, h]
      split_ifs
      · simp [h, rank, Told, Waiting, terminals, isTerminal]
      · exact ⟨le_trans (by decide) hk,ht⟩
      · simp [h, rank, Told, Waiting, terminals]

theorem apply_ended (c : Call) (hw : ¬Waiting tx) :
    rank tx.state ≤ rank (apply tx c).1.state ∧ ¬Waiting (apply tx c).1 ∧ (apply tx c).2 = [] := by
  have hs : tx.state = .completed ∨ tx.state = .terminated := by
    unfold Waiting at hw
    cases h : tx.state <;> simp_all
  cases c with
  | handleTimeout t =>
    rcases hs with h | h <;> cases t <;> simp [apply, handleTimeout, h, rank, Waiting]
  | handleTransportError =>
    rcases hs with h | h <;> simp [apply, handleTransportError, h, Waiting]
  | handleResponse r =>
    rcases hs with h | h <;> simp [apply, handleResponse, h, Waiting]

theorem start_told (request : SipRequest) (reliable : Bool) (id : TransactionId) :
    Told (start request reliable id).1 (start request reliable id).2 := by
  cases reliable <;> simp [Told, start, Waiting, terminals]

theorem step_told (tx : NonInviteClientTransaction) (log : List Action) (c : Call)
    (tx' : NonInviteClientTransaction) (out : List Action) (ht : Told tx log)
    (hs : step tx c = some (tx',out)) : Told tx' (log++out) := by
  obtain ⟨rfl,rfl⟩ := total_eq_some.mp hs
  by_cases hw : Waiting tx
  · obtain ⟨_,hn⟩ := apply_waiting tx c hw
    have h0 := ht.1 hw
    simpa [Told, Closed, afterTerminal_append, h0] using hn
  · obtain ⟨_,hn,ho⟩ := apply_ended tx c hw
    rw [ho, List.append_nil]
    exact ⟨fun h => absurd h hn,fun _ => ht.2 hw⟩

theorem run_rank {tx tx' : NonInviteClientTransaction} {calls : List Call} {log : List Action}
    (hr : run step tx calls = some (tx',log)) : rank tx.state ≤ rank tx'.state := by
  refine run_invariant (P := fun t => rank tx.state ≤ rank t.state) ?_ le_rfl hr
  intro s c t out hle hs
  obtain ⟨rfl,rfl⟩ := total_eq_some.mp hs
  by_cases hw : Waiting s
  · exact hle.trans (apply_waiting s c hw).1
  · exact hle.trans (apply_ended s c hw).1

/-- In every run, one terminal event is reported by the time the transaction
has left Trying and Proceeding and none before, nothing is reported or sent
after it, and the state never moves back. -/
theorem terminal_reported_once (request : SipRequest) (reliable : Bool)
    (tx : NonInviteClientTransaction) (out : List Action)
    (hnew : new request reliable = some (tx,out)) (calls : List Call) :
    ∃ tx' log, run step tx calls = some (tx',log) ∧
      (Waiting tx' → terminals (out++log) = 0) ∧
      (¬Waiting tx' → terminals (out++log) = 1 ∧ events (afterTerminal (out++log)) = [] ∧
        sends (afterTerminal (out++log)) = []) ∧
      ∀ before after, calls = before++after → ∃ tx₁ log₁, run step tx before = some (tx₁,log₁) ∧
        rank tx₁.state ≤ rank tx'.state := by
  obtain ⟨_,id,_,hp⟩ := new_eq_some hnew
  have h0 : Told tx out := by
    have hst := start_told request reliable id
    rwa [← hp] at hst
  obtain ⟨tx',log,hrun⟩ := run_total apply tx calls
  have ht := run_history step_told h0 hrun
  refine ⟨tx',log,hrun,ht.1,ht.2,?_⟩
  rintro before after rfl
  obtain ⟨tx₁,log₁,_,hb,ha,_⟩ := run_append.mp hrun
  exact ⟨tx₁,log₁,hb,run_rank ha⟩

theorem terminal_reported_once_options :
    new (createRequest .options testBranch) true =
        some (start (createRequest .options testBranch) true ⟨testBranch,.options⟩) ∧
    ∃ tx' log, run step (start (createRequest .options testBranch) true ⟨testBranch,.options⟩).1
        [.handleResponse (createResponse .options testBranch 200),.handleTimeout .E] =
          some (tx',log) ∧
      (¬Waiting tx' →
        terminals ((start (createRequest .options testBranch) true ⟨testBranch,.options⟩).2++log) =
          1) := by
  have hnew : new (createRequest .options testBranch) true =
      some (start (createRequest .options testBranch) true ⟨testBranch,.options⟩) := by
    rw [new, TransactionId.fromRequest_createRequest]
    rfl
  obtain ⟨tx',log,hr,_,h1,_⟩ := terminal_reported_once _ _ _ _ hnew
    [.handleResponse (createResponse .options testBranch 200),.handleTimeout .E]
  exact ⟨hnew,tx',log,hr,fun h => (h1 h).1⟩

end RsipRtp.NonInviteClientOutcome
