import RsipRtp.Dialog

/-!
# The life of a dialog

One call of a dialog either reports nothing that matters, or establishes the
dialog, or terminates it.
-/

namespace RsipRtp.DialogLife
open SipText SipMessage OutputMachine Dialog InviteDialog

def rank : DialogState → ℕ
  | .early => 0
  | .confirmed => 1
  | .terminating => 2
  | .terminated => 3

def event? : Output → Option Event
  | .action (.event e) => some e
  | _ => none

def events (out : List Output) : List Event := out.filterMap event?

def sentRequest? : Output → Option Request
  | .action (.sendRequest r) => some r
  | _ => none

def ByeSent (out : List Output) : Prop := ∃ r ∈ out.filterMap sentRequest?, r.method = .bye

def isEstablished : Event → Bool
  | .established => true
  | _ => false

def isTerminated : Event → Bool
  | .terminated _ => true
  | _ => false

def Ordinary (e : Event) : Prop := isEstablished e = false ∧ isTerminated e = false

def answersBye (r : SipResponse) : Bool :=
  decide (200 ≤ r.statusCode) && decide (ok r.cseqMethod = some .bye)

/-- No BYE comes for a terminated dialog, and no final response to a BYE for
one that waits for it. -/
def Orderly (d : InviteDialog) : Call → Prop
  | .handleRequest r => r.method = .bye → (ok r.cseq).isSome = true → d.state ≠ .terminated
  | .handleResponse r => answersBye r = true → d.state ≠ .terminating
  | _ => True

instance (d : InviteDialog) : (c : Call) → Decidable (Orderly d c)
  | .handleRequest r => inferInstanceAs (Decidable
      (r.method = .bye → (ok r.cseq).isSome = true → d.state ≠ .terminated))
  | .handleResponse r => inferInstanceAs (Decidable (answersBye r = true → d.state ≠ .terminating))
  | .sendResponse _ | .sendBye _ | .buildPrack _ _ | .buildUpdate _ _ | .buildByeWithReason _ _
  | .ackSent => inferInstanceAs (Decidable True)

@[simp] theorem events_append (a b : List Output) : events (a++b) = events a++events b :=
  List.filterMap_append

@[simp] theorem setState_state (d : InviteDialog) (s : DialogState) : (d.setState s).state = s :=
  rfl

section OneCall

/-- Everything that one call can report, with the states before and after it. -/
inductive Effect (s t : DialogState) (log : List Event) : Prop where
  | ordinary (log_ordinary : ∀ e ∈ log, Ordinary e) (forward : rank s ≤ rank t)
      (ends : t = .terminated ↔ s = .terminated) (silent : s = .terminated → log = [])
  | established (early : s = .early) (confirmed : t = .confirmed) (log_eq : log = [.established])
  | terminated (live : s ≠ .terminated) (ended : t = .terminated) (before : List Event)
      (reason : TerminationReason) (before_ordinary : ∀ e ∈ before, Ordinary e)
      (log_eq : log = before++[.terminated reason])

variable {d t : InviteDialog} {out : List Output}

theorem Effect.same (s : DialogState) : Effect s s [] :=
  .ordinary (fun _ he => absurd he List.not_mem_nil) le_rfl Iff.rfl (fun _ => rfl)

theorem Effect.live {s t : DialogState} {log : List Event} (hlog : ∀ e ∈ log, Ordinary e)
    (hle : rank s ≤ rank t) (hs : s ≠ .terminated) (ht : t ≠ .terminated) : Effect s t log :=
  .ordinary hlog hle ⟨fun h => absurd h ht,fun h => absurd h hs⟩ (fun h => absurd h hs)

theorem Effect.ending : Effect .confirmed .terminating [] :=
  .live (fun _ he => absurd he List.not_mem_nil) (by decide) (by decide) (by decide)

theorem adopted_state (d : InviteDialog) (r : SipResponse) {s : DialogState} {e : InviteDialog}
    (he : e.state = s) : ((d.adopt r s).getD e).state = s := by
  cases h : d.adopt r s with
  | none => exact he
  | some t => exact (adopt_spec h).1

theorem handleResponse_effect (d : InviteDialog) (r : SipResponse) :
    Effect d.state (d.handleResponse r).1.state
      (events (actionsOnly (d.handleResponse r)).2) := by
  unfold handleResponse
  split_ifs with hrole
  · exact .same _
  dsimp only
  split
  · next hearly =>
    split_ifs with hprov hcode h183 hok hfail
    · exact .same _
    · rw [adopted_state d r hearly, hearly]
      exact .live (by simp [actionsOnly, events, event?, Ordinary, isEstablished, isTerminated])
        le_rfl (by decide) (by decide)
    · rw [adopted_state d r hearly, hearly]
      exact .live (by simp [actionsOnly, events, event?, Ordinary, isEstablished, isTerminated])
        le_rfl (by decide) (by decide)
    · exact .established hearly (adopted_state d r rfl) rfl
    · exact .terminated (by rw [hearly]; decide) rfl [] (.rejected r.statusCode)
        (fun _ he => absurd he List.not_mem_nil) rfl
    · exact .same _
  · exact .same _

theorem handleRequest_effect {d : InviteDialog} {r : SipRequest}
    (h : Orderly d (.handleRequest r)) :
    Effect d.state (d.handleRequest r).1.state
      (events (actionsOnly (d.handleRequest r)).2) := by
  unfold handleRequest
  cases hseq : ok r.cseq with
  | none => exact .same _
  | some cseq =>
    dsimp only
    split
    · next hbye =>
      exact .terminated (h hbye (by rw [hseq]; rfl)) rfl [.byeReceived r] .byeReceived
        (by simp [Ordinary, isEstablished, isTerminated]) rfl
    · split_ifs with hconf
      · split
        · next info hinfo =>
          have hstate : info.state = d.state := by
            rw [(DialogInfo.updateRemoteSeq_spec hinfo).2]
            rfl
          refine .live ?_ (le_of_eq (congrArg rank hstate.symm)) ?_ ?_
          · simp [actionsOnly, events, event?, Ordinary, isEstablished, isTerminated]
          · rw [hconf]
            decide
          · exact hstate.trans_ne (by rw [hconf]; decide)
        · exact .same _
      · exact .same _
    · split_ifs <;> exact .same _
    · split_ifs with hc
      · exact .terminated (by rw [hc.1]; decide) rfl [] .cancelled
          (fun _ he => absurd he List.not_mem_nil) rfl
      · exact .same _
    · exact .same _

theorem sendResponse_effect (d : InviteDialog) (r : SipResponse) :
    Effect d.state (d.sendResponse r).1.state (events (actionsOnly (d.sendResponse r)).2) := by
  unfold InviteDialog.sendResponse
  dsimp only
  split_ifs with hrole hok hfail
  · exact .same _
  · exact .established hok.2.2 rfl rfl
  · exact .terminated (by rw [hfail.2]; decide) rfl [] (.rejected r.statusCode)
      (fun _ he => absurd he List.not_mem_nil) rfl
  · exact .same _

theorem sendBye_effect (d : InviteDialog) (uuid : Text) :
    Effect d.state (d.sendBye uuid).1.state (events (withResult (d.sendBye uuid)).2) := by
  unfold sendBye
  split_ifs with hconf
  · exact .same _
  · rw [not_not.mp hconf]
    dsimp only
    split
    · exact .ending
    · exact .ending

theorem buildByeWithReason_effect (d : InviteDialog) (reason uuid : Text) :
    Effect d.state (d.buildByeWithReason reason uuid).1.state
      (events (withResult (d.buildByeWithReason reason uuid)).2) := by
  unfold buildByeWithReason
  split_ifs with hconf
  · exact .same _
  · dsimp only
    split
    · rw [not_not.mp hconf]
      exact .ending
    · exact .same _

theorem step_effect {c : Call} (hg : Orderly d c) (hs : step d c = some (t,out)) :
    Effect d.state t.state (events out) := by
  obtain ⟨p,hp,rfl,rfl⟩ : ∃ p, step d c = some p ∧ p.1 = t ∧ p.2 = out := ⟨_,hs,rfl,rfl⟩
  cases c with
  | handleResponse r =>
    cases hp
    exact handleResponse_effect d r
  | handleRequest r =>
    cases hp
    exact handleRequest_effect hg
  | sendResponse r =>
    cases hp
    exact sendResponse_effect d r
  | sendBye uuid =>
    cases hp
    exact sendBye_effect d uuid
  | buildPrack r uuid =>
    obtain ⟨⟨u,req⟩,hu,rfl⟩ := Option.map_eq_some_iff.mp hp
    rw [(buildPrack_spec hu).1]
    exact .same _
  | buildUpdate secs uuid =>
    obtain ⟨⟨u,req⟩,hu,rfl⟩ := Option.map_eq_some_iff.mp hp
    rw [(buildUpdate_spec hu).1]
    exact .same _
  | buildByeWithReason reason uuid =>
    cases hp
    exact buildByeWithReason_effect d reason uuid
  | ackSent =>
    cases hp
    exact .same _

end OneCall

section Story

variable {s t : DialogState} {log new : List Event}

structure Told (s : DialogState) (log : List Event) : Prop where
  once : log.countP isEstablished ≤ 1
  early : s = .early → log.countP isEstablished = 0
  live : s ≠ .terminated → ∀ e ∈ log, isTerminated e = false
  last : ∀ before e after, log = before++e::after → isTerminated e = true → after = []

theorem told_nil (s : DialogState) : Told s [] :=
  ⟨Nat.zero_le 1,fun _ => rfl,fun _ _ he => absurd he List.not_mem_nil,fun _ _ _ h _ => by
    rw [eq_comm, List.append_eq_nil_iff] at h
    cases h.2⟩

theorem countP_established (h : ∀ e ∈ new, Ordinary e) : new.countP isEstablished = 0 :=
  List.countP_eq_zero.mpr (fun e he => by rw [(h e he).1]; exact Bool.false_ne_true)

theorem last_of_append {before after : List Event} {e x : Event}
    (hlog : ∀ e ∈ log, isTerminated e = false) (h : log++[x] = before++e::after)
    (he : isTerminated e = true) : after = [] := by
  rcases List.eq_nil_or_concat after with rfl | ⟨rest,y,rfl⟩
  · rfl
  · have hcut : log = before++e::rest := by
      rw [List.concat_eq_append, ← List.cons_append, ← List.append_assoc] at h
      exact (List.append_inj' h rfl).1
    have hmem : e ∈ log := by
      rw [hcut]
      exact List.mem_append_right _ List.mem_cons_self
    rw [hlog e hmem] at he
    cases he

theorem told_effect (h : Told s log) (heffect : Effect s t new) : Told t (log++new) := by
  cases heffect with
  | ordinary hnew hle hends hsilent =>
    have hcount := countP_established hnew
    refine ⟨?_,fun ht => ?_,fun ht e he => ?_,fun before e after hcut he => ?_⟩
    · rw [List.countP_append, hcount]
      exact h.once
    · have hs : s = .early := by
        rw [ht] at hle
        cases s with
        | early => rfl
        | _ => exact absurd hle (by decide)
      rw [List.countP_append, hcount, h.early hs]
    · rcases List.mem_append.mp he with he | he
      · exact h.live (fun hs => ht (hends.mpr hs)) e he
      · exact (hnew e he).2
    · by_cases hs : s = .terminated
      · rw [hsilent hs, List.append_nil] at hcut
        exact h.last before e after hcut he
      · have hmem : e ∈ log++new := by
          rw [hcut]
          exact List.mem_append_right _ List.mem_cons_self
        rcases List.mem_append.mp hmem with hmem | hmem
        · rw [h.live hs e hmem] at he
          cases he
        · rw [(hnew e hmem).2] at he
          cases he
  | established hs ht hlog =>
    subst hs ht hlog
    have hlive := h.live (by decide)
    refine ⟨?_,nofun,fun _ e he => ?_,fun before e after hcut he => ?_⟩
    · rw [List.countP_append, h.early rfl]
      exact le_rfl
    · rcases List.mem_append.mp he with he | he
      · exact hlive e he
      · rw [List.mem_singleton.mp he]
        rfl
    · exact last_of_append hlive hcut he
  | terminated hs ht before reason hbefore hlog =>
    subst ht hlog
    have hlive : ∀ e ∈ log++before, isTerminated e = false := by
      intro e he
      rcases List.mem_append.mp he with he | he
      · exact h.live hs e he
      · exact (hbefore e he).2
    refine ⟨?_,nofun,fun ht => absurd rfl ht,fun before e after hcut he => ?_⟩
    · rw [List.countP_append, List.countP_append, countP_established hbefore]
      exact h.once
    · rw [← List.append_assoc] at hcut
      exact last_of_append hlive hcut he

theorem Told.terminated_once (h : Told s log) : log.countP isTerminated ≤ 1 := by
  have hlast := h.last
  clear h
  induction log with
  | nil => exact Nat.zero_le 1
  | cons e log ih =>
    by_cases he : isTerminated e = true
    · rw [hlast [] e log rfl he, List.countP_cons_of_pos he]
      exact le_rfl
    · rw [List.countP_cons_of_neg he]
      refine ih (fun before x after hcut hx => hlast (e::before) x after ?_ hx)
      rw [hcut]
      rfl

end Story

section Runs

variable {d t : InviteDialog} {calls : List Call} {out : List Output}

theorem Effect.forward {s t : DialogState} {log : List Event} (h : Effect s t log) :
    rank s ≤ rank t := by
  cases h with
  | ordinary _ hle _ _ => exact hle
  | established hs ht _ =>
    rw [hs, ht]
    decide
  | terminated _ ht _ _ _ _ =>
    rw [ht]
    cases s <;> decide

theorem run_forward (hg : Guarded step Orderly d calls) (hr : run step d calls = some (t,out)) :
    rank d.state ≤ rank t.state :=
  run_guarded_invariant (P := fun u => rank d.state ≤ rank u.state)
    (fun _ _ _ _ hle hi hs => hle.trans (step_effect hi hs).forward) le_rfl hg hr

theorem run_told (hg : Guarded step Orderly d calls) (hr : run step d calls = some (t,out)) :
    Told t.state (events out) :=
  run_guarded_history (P := fun u h => Told u.state (events h)) (h := [])
    (fun s h i u o hp hi hs => by
      rw [events_append]
      exact told_effect hp (step_effect hi hs)) (told_nil d.state) hg hr

theorem actionsOnly_sent {p : InviteDialog × List Action}
    (h : ∀ r, .sendRequest r ∉ p.2) : ¬ByeSent (actionsOnly p).2 := by
  rintro ⟨r,hr,-⟩
  obtain ⟨o,ho,hsent⟩ := List.mem_filterMap.mp hr
  obtain ⟨a,ha,rfl⟩ := List.mem_map.mp ho
  cases a with
  | sendRequest q => exact h q ha
  | _ => cases hsent

theorem handleResponse_sends_nothing (d : InviteDialog) (r : SipResponse) (q : Request) :
    .sendRequest q ∉ (d.handleResponse r).2 := by
  unfold handleResponse
  split_ifs
  · exact List.not_mem_nil
  · dsimp only
    split
    · split_ifs <;> simp
    · exact List.not_mem_nil

theorem handleRequest_sends_nothing (d : InviteDialog) (r : SipRequest) (q : Request) :
    .sendRequest q ∉ (d.handleRequest r).2 := by
  unfold handleRequest
  split
  · exact List.not_mem_nil
  · split
    · simp
    · split_ifs
      · split <;> simp
      · exact List.not_mem_nil
    all_goals first | exact List.not_mem_nil | (split_ifs <;> simp)

theorem sendResponse_sends_nothing (d : InviteDialog) (r : SipResponse) (q : Request) :
    .sendRequest q ∉ (d.sendResponse r).2 := by
  unfold InviteDialog.sendResponse
  dsimp only
  split_ifs <;> simp

/-- A BYE leaves the dialog waiting for its response. -/
theorem step_byeSent {c : Call} (hs : step d c = some (t,out)) (hbye : ByeSent out) :
    t.state = .terminating := by
  have hnone : ¬ByeSent [] := by
    rintro ⟨r,hr,-⟩
    exact List.not_mem_nil hr
  obtain ⟨p,hp,rfl,rfl⟩ : ∃ p, step d c = some p ∧ p.1 = t ∧ p.2 = out := ⟨_,hs,rfl,rfl⟩
  cases c with
  | handleResponse r =>
    cases hp
    exact absurd hbye (actionsOnly_sent (handleResponse_sends_nothing d r))
  | handleRequest r =>
    cases hp
    exact absurd hbye (actionsOnly_sent (handleRequest_sends_nothing d r))
  | sendResponse r =>
    cases hp
    exact absurd hbye (actionsOnly_sent (sendResponse_sends_nothing d r))
  | sendBye uuid =>
    cases hp
    unfold sendBye at hbye ⊢
    split_ifs at hbye ⊢
    · exact absurd hbye hnone
    · dsimp only
      split <;> rfl
  | buildPrack r uuid | buildUpdate secs uuid =>
    obtain ⟨⟨u,req⟩,-,rfl⟩ := Option.map_eq_some_iff.mp hp
    exact absurd hbye hnone
  | buildByeWithReason reason uuid =>
    cases hp
    unfold buildByeWithReason at hbye ⊢
    split_ifs at hbye ⊢
    · exact absurd hbye hnone
    · dsimp only at hbye ⊢
      split at hbye
      · rfl
      · exact absurd hbye hnone
  | ackSent =>
    cases hp
    exact absurd hbye hnone

theorem byeSent_append {a b : List Output} : ByeSent (a++b) ↔ ByeSent a ∨ ByeSent b := by
  simp only [ByeSent, List.filterMap_append, List.mem_append, or_and_right, exists_or]

/-- After a BYE the dialog is on its way out. -/
theorem run_byeSent (hg : Guarded step Orderly d calls) (hr : run step d calls = some (t,out))
    (hbye : ByeSent out) : rank .terminating ≤ rank t.state := by
  refine run_guarded_history
    (P := fun u h => ByeSent h → rank .terminating ≤ rank u.state) (h := [])
    (fun s h i u o hp hi hs hb => ?_) ?_ hg hr hbye
  · rcases byeSent_append.mp hb with hb | hb
    · exact (hp hb).trans (step_effect hi hs).forward
    · rw [step_byeSent hs hb]
  · rintro ⟨r,hr,-⟩
    exact absurd hr List.not_mem_nil

/-- In a run with no BYE for a terminated dialog and no final response to the
dialog's own BYE while it waits for one: one establishment, one termination
with nothing behind it, no step back, and any final response to the BYE finds
the dialog terminated. -/
theorem dialog_story (hg : Guarded step Orderly d calls)
    (hr : run step d calls = some (t,out)) :
    (events out).countP isEstablished ≤ 1 ∧ (events out).countP isTerminated ≤ 1 ∧
      (∀ before e after, events out = before++e::after → isTerminated e = true → after = []) ∧
      rank d.state ≤ rank t.state ∧
      ∀ before r after u a, calls = before++.handleResponse r::after →
        run step d before = some (u,a) → ByeSent a → answersBye r = true →
        (u.handleResponse r).1.state = .terminated := by
  have htold := run_told hg hr
  refine ⟨htold.once,htold.terminated_once,htold.last,run_forward hg hr,?_⟩
  rintro before r after u a rfl hu hbye hanswer
  obtain ⟨hbefore,hafter⟩ := guarded_append.mp hg
  have hrank := run_byeSent hbefore hu hbye
  have horder : u.state ≠ .terminating := (hafter u a hu).1 hanswer
  have hstate : u.state = .terminated := by
    cases hst : u.state with
    | terminated => rfl
    | terminating => exact absurd hst horder
    | early | confirmed => exact absurd (hst ▸ hrank) (by decide)
  have hend := (handleResponse_effect u r).forward
  rw [hstate] at hend
  cases hst : (u.handleResponse r).1.state with
  | terminated => rfl
  | _ => exact absurd (hst ▸ hend) (by decide)

/-- An answered call that both ends hang up: the callee's BYE crosses the
caller's, and the response to the latter comes last. -/
theorem crossing_byes_story :
    let calls : List Call := [.handleResponse (createReply 183 1 .invite),
      .handleResponse (createReply 200 1 .invite),.sendBye "1",
      .handleRequest (createPeerRequest .bye 1),.handleResponse (createReply 200 2 .bye)]
    ∃ t out, run step (newUac (createInvite 1)) calls = some (t,out) ∧
      t.state = .terminated ∧ (events out).length = 5 ∧
      (events out).countP isEstablished ≤ 1 ∧ (events out).countP isTerminated ≤ 1 := by
  intro calls
  have hrun : (run step (newUac (createInvite 1)) calls).map (fun p =>
      (p.1.state,(events p.2).length)) = some (.terminated,5) := by decide +kernel
  obtain ⟨⟨t,out⟩,hr,hend⟩ := Option.map_eq_some_iff.mp hrun
  have hg : Guarded step Orderly (newUac (createInvite 1)) calls := by decide +kernel
  obtain ⟨hest,hterm,-⟩ := dialog_story hg hr
  exact ⟨t,out,hr,congrArg Prod.fst hend,congrArg Prod.snd hend,hest,hterm⟩

/-- A repeated BYE terminates the dialog a second time, and the response to the
dialog's own BYE does not terminate it at all. -/
theorem repeated_bye_terminates_twice :
    ((run step (newUac (createInvite 1)) [.handleResponse (createReply 200 1 .invite),
        .handleRequest (createPeerRequest .bye 1),.handleRequest (createPeerRequest .bye 1)]).map
      (fun p => (events p.2).countP isTerminated)) = some 2 ∧
    ((run step (newUac (createInvite 1)) [.handleResponse (createReply 200 1 .invite),
        .sendBye "1",.handleResponse (createReply 200 2 .bye)]).map
      (fun p => (p.1.state,(p.2.filterMap sentRequest?).map Request.method))) =
        some (.terminating,[.bye]) := by
  constructor <;> decide +kernel

end Runs

end RsipRtp.DialogLife
