import RsipRtp.FiniteMap
import RsipRtp.LineFraming
import RsipRtp.OutputMachine
import RsipRtp.SipText

/-!
# Call transfers

REFERs and their responses, incoming REFERs and the NOTIFYs about the progress
each write the state of a call's transfer.
-/

namespace RsipRtp.CallTransfer
open SipText LineFraming FiniteMap OutputMachine

inductive TransferError where
  | callNotFound (callId : Text)
  | invalidState (message : Text)
  | rejected (code : ℕ)
  | failed (message : Text)
  | invalidReferTo (message : Text)
deriving DecidableEq

inductive TransferType where
  | blind
  | attended
deriving DecidableEq

inductive TransferState where
  | none
  | pending
  | accepted
  | inProgress
  | completed
  | failed
deriving DecidableEq

inductive TransferRole where
  | transferor
  | transferee
  | target
deriving DecidableEq

structure ReplacesHeader where
  callId : Text
  toTag : Text
  fromTag : Text
  earlyOnly : Bool
deriving DecidableEq

structure ReferTo where
  uri : Text
  replaces : Option ReplacesHeader
deriving DecidableEq

def ReferTo.blind (uri : Text) : ReferTo := ⟨uri,.none⟩

def ReferTo.attended (uri : Text) (replaces : ReplacesHeader) : ReferTo := ⟨uri,some replaces⟩

structure TransferProgress where
  statusCode : ℕ
  reason : Text
  final : Bool

namespace TransferProgress

/-- The status line of a `message/sipfrag` body. -/
def parseSipfrag (body : Text) : Option TransferProgress := do
  let firstLine ← (lines body).head?
  match splitWhitespace firstLine with
  | version::code::word::words =>
    if version ≠ "SIP/2.0" then .none
    else
      let statusCode ← parseU16 code
      return { statusCode, reason := join [' '] (word::words), final := 200 ≤ statusCode }
  | _ => .none

def isSuccess (p : TransferProgress) : Bool := 200 ≤ p.statusCode && p.statusCode < 300

end TransferProgress

structure TransferInfo where
  state : TransferState := .none
  role : TransferRole := .transferor
  transferType : TransferType := .blind
  target : Option Text := .none
  subscriptionId : Option Text := .none
  lastProgress : Option TransferProgress := .none

structure TransferManager where
  transfers : Map Text TransferInfo

namespace TransferManager

def new : TransferManager := ⟨∅⟩

def transferState (m : TransferManager) (callId : Text) : TransferState :=
  ((m.transfers.lookup callId).map TransferInfo.state).getD .none

def entry (m : TransferManager) (callId : Text) : TransferInfo :=
  (m.transfers.lookup callId).getD {}

def set (m : TransferManager) (callId : Text) (info : TransferInfo) : TransferManager :=
  ⟨m.transfers.insert callId info⟩

def initiate (m : TransferManager) (callId targetUri : Text) (transferType : TransferType)
    (referTo : ReferTo) : TransferManager × Except TransferError ReferTo :=
  let info := m.entry callId
  if info.state ≠ .none then
    (m.set callId info,.error (.invalidState "transfer already in progress"))
  else
    (m.set callId { info with
      state := .pending, role := .transferor, transferType, target := some targetUri },.ok referTo)

def initiateBlindTransfer (m : TransferManager) (callId targetUri : Text) :
    TransferManager × Except TransferError ReferTo :=
  m.initiate callId targetUri .blind (.blind targetUri)

def initiateAttendedTransfer (m : TransferManager) (callId targetUri : Text)
    (replaces : ReplacesHeader) : TransferManager × Except TransferError ReferTo :=
  m.initiate callId targetUri .attended (.attended targetUri replaces)

def handleReferResponse (m : TransferManager) (callId : Text) (statusCode : ℕ) :
    TransferManager × Except TransferError TransferState :=
  match m.transfers.lookup callId with
  | .none => (m,.error (.callNotFound callId))
  | some info =>
    if 200 ≤ statusCode ∧ statusCode < 300 then
      (m.set callId { info with state := .accepted },.ok .accepted)
    else if 400 ≤ statusCode then
      (m.set callId { info with state := .failed },.error (.rejected statusCode))
    else (m,.ok info.state)

def handleIncomingRefer (m : TransferManager) (callId : Text) (referTo : ReferTo) :
    TransferManager × Except TransferError TransferInfo :=
  let info := { m.entry callId with
    state := .inProgress
    role := .transferee
    transferType := if referTo.replaces.isSome then .attended else .blind
    target := some referTo.uri }
  (m.set callId info,.ok info)

def handleNotify (m : TransferManager) (callId sipfrag : Text) :
    TransferManager × Except TransferError TransferProgress :=
  match TransferProgress.parseSipfrag sipfrag with
  | .none => (m,.error (.failed "invalid sipfrag"))
  | some progress =>
    match m.transfers.lookup callId with
    | .none => (m,.error (.callNotFound callId))
    | some info =>
      let state := if progress.isSuccess then .completed
        else if progress.final then .failed
        else .inProgress
      (m.set callId { info with state, lastProgress := some progress },.ok progress)

end TransferManager

open TransferManager

inductive Action where
  | initiateBlindTransfer (targetUri : Text)
  | initiateAttendedTransfer (targetUri : Text) (replaces : ReplacesHeader)
  | handleReferResponse (statusCode : ℕ)
  | handleIncomingRefer (referTo : ReferTo)
  | handleNotify (sipfrag : Text)

structure Call where
  callId : Text
  action : Action

inductive Reply where
  | referTo (r : Except TransferError ReferTo)
  | state (r : Except TransferError TransferState)
  | info (r : Except TransferError TransferInfo)
  | progress (r : Except TransferError TransferProgress)

def apply (m : TransferManager) (c : Call) : TransferManager × List Reply :=
  match c.action with
  | .initiateBlindTransfer targetUri =>
    let r := m.initiateBlindTransfer c.callId targetUri
    (r.1,[.referTo r.2])
  | .initiateAttendedTransfer targetUri replaces =>
    let r := m.initiateAttendedTransfer c.callId targetUri replaces
    (r.1,[.referTo r.2])
  | .handleReferResponse statusCode =>
    let r := m.handleReferResponse c.callId statusCode
    (r.1,[.state r.2])
  | .handleIncomingRefer referTo =>
    let r := m.handleIncomingRefer c.callId referTo
    (r.1,[.info r.2])
  | .handleNotify sipfrag =>
    let r := m.handleNotify c.callId sipfrag
    (r.1,[.progress r.2])

def step : Step TransferManager Call Reply := total apply

def rank : TransferState → ℕ
  | .none => 0
  | .pending => 1
  | .accepted => 2
  | .inProgress => 3
  | .completed | .failed => 4

/-- A state may stay or give way to a later one; the two last ones only stay. -/
def Forward (s t : TransferState) : Prop := s = t ∨ rank s < rank t

instance (s t : TransferState) : Decidable (Forward s t) := inferInstanceAs (Decidable (_ ∨ _))

theorem Forward.trans {s t u : TransferState} (h : Forward s t) (h' : Forward t u) :
    Forward s u := by
  rcases h with rfl | h
  · exact h'
  · rcases h' with rfl | h'
    · exact .inr h
    · exact .inr (h.trans h')

theorem forward_accepted_iff (s : TransferState) :
    Forward s .accepted ↔ rank s ≤ rank .accepted := by
  cases s <;> decide

theorem forward_inProgress_iff (s : TransferState) :
    Forward s .inProgress ↔ s ≠ .completed ∧ s ≠ .failed := by
  cases s <;> decide

theorem forward_completed_iff (s : TransferState) : Forward s .completed ↔ s ≠ .failed := by
  cases s <;> decide

theorem forward_failed_iff (s : TransferState) : Forward s .failed ↔ s ≠ .completed := by
  cases s <;> decide

/-- A success of the REFER comes before any NOTIFY, a failure not after the
completion; nothing comes after the end but what says the same again. -/
def Fits (s : TransferState) : Action → Prop
  | .initiateBlindTransfer _ | .initiateAttendedTransfer _ _ => True
  | .handleReferResponse statusCode =>
    (200 ≤ statusCode → statusCode < 300 → rank s ≤ rank .accepted) ∧
      (400 ≤ statusCode → s ≠ .completed)
  | .handleIncomingRefer _ => s ≠ .completed ∧ s ≠ .failed
  | .handleNotify sipfrag => ∀ progress ∈ TransferProgress.parseSipfrag sipfrag,
    if progress.isSuccess then s ≠ .failed
    else if progress.final then s ≠ .completed
    else s ≠ .completed ∧ s ≠ .failed

instance (s : TransferState) : (a : Action) → Decidable (Fits s a)
  | .initiateBlindTransfer _ | .initiateAttendedTransfer _ _ => inferInstanceAs (Decidable True)
  | .handleReferResponse _ => inferInstanceAs (Decidable (_ ∧ _))
  | .handleIncomingRefer _ => inferInstanceAs (Decidable (_ ∧ _))
  | .handleNotify sipfrag => inferInstanceAs (Decidable
      (∀ _ ∈ TransferProgress.parseSipfrag sipfrag, _))

section OneCall
variable {m : TransferManager} {callId : Text} {info : TransferInfo}

theorem transferState_set (m : TransferManager) (id callId : Text) (info : TransferInfo) :
    (m.set callId info).transferState id =
      if id = callId then info.state else m.transferState id := by
  rw [transferState, TransferManager.set, lookup_insert_eq]
  split_ifs
  · rfl
  · rfl

@[simp] theorem transferState_set_self (m : TransferManager) (callId : Text)
    (info : TransferInfo) : (m.set callId info).transferState callId = info.state := by
  rw [transferState_set, if_pos rfl]

theorem transferState_lookup (h : m.transfers.lookup callId = some info) :
    m.transferState callId = info.state := by
  rw [transferState, h]
  rfl

theorem transferState_unknown (h : m.transfers.lookup callId = .none) :
    m.transferState callId = .none := by
  rw [transferState, h]
  rfl

variable (m : TransferManager)

theorem entry_state (callId : Text) : (m.entry callId).state = m.transferState callId := by
  rw [entry, transferState]
  cases m.transfers.lookup callId <;> rfl

theorem forward_initiate (callId targetUri : Text) (t : TransferType)
    (referTo : ReferTo) : Forward (m.transferState callId)
      ((m.initiate callId targetUri t referTo).1.transferState callId) := by
  rw [initiate, entry_state]
  split_ifs with h
  · rw [transferState_set_self, entry_state]
    exact .inl rfl
  · rw [transferState_set_self, not_not.mp h]
    exact .inr Nat.zero_lt_one

theorem forward_referResponse_iff (callId : Text) (statusCode : ℕ) :
    Forward (m.transferState callId)
        ((m.handleReferResponse callId statusCode).1.transferState callId) ↔
      Fits (m.transferState callId) (.handleReferResponse statusCode) := by
  rw [handleReferResponse]
  cases hinfo : m.transfers.lookup callId with
  | none =>
    dsimp only
    rw [transferState_unknown hinfo]
    exact iff_of_true (.inl rfl) ⟨fun _ _ => by decide,fun _ => by decide⟩
  | some info =>
    rw [transferState_lookup hinfo]
    dsimp only [Fits]
    split_ifs with hok hbad
    · rw [transferState_set_self, forward_accepted_iff]
      exact ⟨fun h => ⟨fun _ _ => h,fun hlow => by omega⟩,fun h => h.1 hok.1 hok.2⟩
    · rw [transferState_set_self, forward_failed_iff]
      exact ⟨fun h => ⟨fun _ hlow => by omega,fun _ => h⟩,fun h => h.2 hbad⟩
    · rw [transferState_lookup hinfo]
      exact iff_of_true (.inl rfl)
        ⟨fun hlow hhigh => absurd ⟨hlow,hhigh⟩ hok,fun hlow => absurd hlow hbad⟩

theorem forward_incomingRefer_iff (callId : Text) (referTo : ReferTo) :
    Forward (m.transferState callId)
        ((m.handleIncomingRefer callId referTo).1.transferState callId) ↔
      Fits (m.transferState callId) (.handleIncomingRefer referTo) := by
  rw [handleIncomingRefer, transferState_set_self]
  exact forward_inProgress_iff _

theorem forward_notify_iff (callId sipfrag : Text) : Forward (m.transferState callId)
        ((m.handleNotify callId sipfrag).1.transferState callId) ↔
      Fits (m.transferState callId) (.handleNotify sipfrag) := by
  rw [handleNotify]
  dsimp only [Fits]
  cases TransferProgress.parseSipfrag sipfrag with
  | none => exact iff_of_true (.inl rfl) (fun _ h => by cases h)
  | some progress =>
    dsimp only
    simp only [Option.mem_def, Option.some.injEq, forall_eq']
    cases hinfo : m.transfers.lookup callId with
    | none =>
      dsimp only
      rw [transferState_unknown hinfo]
      refine iff_of_true (.inl rfl) ?_
      split_ifs <;> decide
    | some info =>
      rw [transferState_lookup hinfo]
      dsimp only
      rw [transferState_set_self]
      dsimp only
      split_ifs
      · exact forward_completed_iff _
      · exact forward_failed_iff _
      · exact forward_inProgress_iff _

/-- A call keeps the order of the transfer it is for exactly if it fits the
state that it finds. -/
theorem forward_apply_iff (c : Call) :
    Forward (m.transferState c.callId) ((apply m c).1.transferState c.callId) ↔
      Fits (m.transferState c.callId) c.action := by
  obtain ⟨callId,action⟩ := c
  cases action with
  | initiateBlindTransfer targetUri | initiateAttendedTransfer targetUri replaces =>
    exact iff_of_true (forward_initiate ..) trivial
  | handleReferResponse statusCode => exact forward_referResponse_iff m callId statusCode
  | handleIncomingRefer referTo => exact forward_incomingRefer_iff m callId referTo
  | handleNotify sipfrag => exact forward_notify_iff m callId sipfrag

theorem apply_other (c : Call) {id : Text} (h : id ≠ c.callId) :
    (apply m c).1.transferState id = m.transferState id := by
  have hset (info : TransferInfo) :
      (m.set c.callId info).transferState id = m.transferState id := by
    rw [transferState_set, if_neg h]
  have hinitiate (targetUri : Text) (t : TransferType) (referTo : ReferTo) :
      (m.initiate c.callId targetUri t referTo).1.transferState id = m.transferState id := by
    rw [initiate]
    split_ifs
    · exact hset _
    · exact hset _
  rw [apply]
  split
  · exact hinitiate ..
  · exact hinitiate ..
  · dsimp only [handleReferResponse]
    split
    · rfl
    · split_ifs
      · exact hset _
      · exact hset _
      · rfl
  · exact hset _
  · dsimp only [handleNotify]
    split
    · rfl
    · split
      · rfl
      · exact hset _

end OneCall

def Orderly (id : Text) (m : TransferManager) (c : Call) : Prop :=
  c.callId = id → Fits (m.transferState id) c.action

instance (id : Text) (m : TransferManager) (c : Call) : Decidable (Orderly id m c) :=
  inferInstanceAs (Decidable (_ → _))

/-- In a run the transfer of a call never moves backwards and its end is
final, if and only if every call for it is orderly. -/
theorem transfer_forward_iff (id : Text) (m : TransferManager) (calls : List Call) :
    Along step (fun m n => Forward (m.transferState id) (n.transferState id)) m calls ↔
      Guarded step (Orderly id) m calls := by
  have hstep (m : TransferManager) (c : Call) :
      (∀ n out, step m c = some (n,out) → Forward (m.transferState id) (n.transferState id)) ↔
        Orderly id m c := by
    have hone : (∀ n out, step m c = some (n,out) →
        Forward (m.transferState id) (n.transferState id)) ↔
          Forward (m.transferState id) ((apply m c).1.transferState id) := by
      constructor
      · exact fun h => h _ _ rfl
      · intro h n out hn
        obtain ⟨rfl,_⟩ := total_eq_some.mp hn
        exact h
    rw [hone]
    by_cases hid : c.callId = id
    · rw [← hid, forward_apply_iff, Orderly]
      exact ⟨fun h _ => h,fun h => h rfl⟩
    · rw [apply_other m c (Ne.symm hid)]
      exact iff_of_true (.inl rfl) (fun h => absurd h hid)
  rw [along_iff (fun _ => .inl rfl) (fun _ _ _ h h' => h.trans h')]
  exact guarded_congr (P := fun _ => True) (fun _ _ _ _ _ _ _ => trivial)
    (fun m c _ => hstep m c) trivial calls

/-- A NOTIFY overtakes the 202. -/
theorem late_acceptance_moves_back :
    ¬Along step (fun m n => Forward (m.transferState "c") (n.transferState "c")) new
      [⟨"c",.initiateBlindTransfer "sip:carol@example.com"⟩,
        ⟨"c",.handleNotify "SIP/2.0 200 OK"⟩,
        ⟨"c",.handleReferResponse 202⟩] := by
  intro h
  have hrun : (run step new [⟨"c",.initiateBlindTransfer "sip:carol@example.com"⟩,
      ⟨"c",.handleNotify "SIP/2.0 200 OK"⟩]).bind (fun p =>
        (run step p.1 [⟨"c",.handleReferResponse 202⟩]).map (fun q =>
          (p.1.transferState "c",q.1.transferState "c"))) =
      some (.completed,.accepted) := by decide +kernel
  obtain ⟨⟨t,a⟩,ht,hrun⟩ := Option.bind_eq_some_iff.mp hrun
  obtain ⟨⟨u,b⟩,hu,hstates⟩ := Option.map_eq_some_iff.mp hrun
  obtain ⟨hbefore,hafter⟩ := Prod.mk.inj hstates
  have hforward : Forward .completed .accepted := hbefore ▸ hafter ▸
    h _ [⟨"c",.handleReferResponse 202⟩] [] t u a b rfl ht hu
  exact absurd hforward (by decide)

end RsipRtp.CallTransfer
