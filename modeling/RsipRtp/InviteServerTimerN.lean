import RsipRtp.InviteServerStep

/-!
# The bookkeeping of Timer N

The caller of a transaction keeps the deadline of Timer N as the actions set
and cancel it, and forgets it when the timer fires.
-/

namespace RsipRtp.InviteServerTimerN
open SipText SipMessage TransactionTimer OutputMachine InviteServer InviteServerStep

/-- A transaction together with the deadline that its caller holds for Timer N. -/
abbrev Timed := InviteServerTransaction × Option ℕ

def timedStep : Step Timed Call Action := fun s c =>
  (step s.1 c).map (fun p =>
    ((p.1,armedAfter (if c = .handleTimeout .N then none else s.2) p.2),p.2))

def FiresArmed (s : Timed) (c : Call) : Prop := c = .handleTimeout .N → s.2.isSome

/-- A reliable provisional is sent only while the buffer is empty or holds an
entry that is due within T1. -/
def Covered (s : Timed) : Call → Prop
  | .sendProvisionalReliable _ => s.1.state = .proceeding → s.1.reliableProvisionals = [] ∨
      ∃ e ∈ s.1.reliableProvisionals, e.nextFireAfter ≤ s.1.timers.t1
  | _ => True

def Agrees (s : Timed) : Prop := s.2 = soonest s.1.reliableProvisionals

/-- Timer N is armed exactly when the buffer is non-empty. Its duration is the
smallest remaining time, which is what the next firing subtracts. -/
def Bookkept (s : Timed) : Prop :=
  (s.2.isSome ↔ s.1.reliableProvisionals ≠ []) ∧
    ∀ d, s.2 = some d → soonest s.1.reliableProvisionals = some d ∧ dueIn s.1 = d

theorem agrees_bookkept {s : Timed} (h : Agrees s) : Bookkept s := by
  refine ⟨?_,fun d hd => ?_⟩
  · rw [h, Option.isSome_iff_ne_none, ne_eq, soonest_eq_none]
  · have hs : soonest s.1.reliableProvisionals = some d := h.symm.trans hd
    exact ⟨hs,by simp [dueIn, hs]⟩

theorem soonest_append_of_le {entries : List ReliableProvisional} {e new : ReliableProvisional}
    (he : e ∈ entries) (hle : e.nextFireAfter ≤ new.nextFireAfter) :
    soonest (entries++[new]) = soonest entries := by
  cases hd : soonest entries with
  | none => simp [soonest_eq_none.mp hd] at he
  | some d =>
    obtain ⟨⟨m,hm,rfl⟩,hmin⟩ := soonest_eq_some.mp hd
    have hnew := (hmin e he).trans hle
    refine soonest_eq_some.mpr ⟨⟨m,by simp [hm],rfl⟩,fun x hx => ?_⟩
    rcases List.mem_append.mp hx with hx | hx
    · exact hmin x hx
    · rw [List.mem_singleton.mp hx]
      exact hnew

example : soonest [pendingEntry 1 500 1000 0,pendingEntry 2 200 400 0] = some 200 := by
  decide +kernel

theorem armedAfter_map_send {α : Type} (f : α → Bytes) (l : List α) (armed : Option ℕ) :
    armedAfter armed (l.map (fun a => TransactionAction.send (f a))) = armed := by
  induction l with
  | nil => rfl
  | cons a l ih => simpa using ih

theorem armedAfter_map_event {α : Type} (f : α → Event) (l : List α) (armed : Option ℕ) :
    armedAfter armed (l.map (fun a => TransactionAction.event (f a))) = armed := by
  induction l with
  | nil => rfl
  | cons a l ih => simpa using ih

theorem fireTimerN_armed (tx : InviteServerTransaction) :
    armedAfter none (fireTimerN tx).2 = soonest (fireTimerN tx).1.reliableProvisionals := by
  unfold fireTimerN
  split_ifs with h
  · simp [soonest_eq_none.mpr (List.isEmpty_iff.mp h)]
  · simp only [armedAfter_append, armedAfter_map_send, armedAfter_map_event, armedAfter_rearm,
      Option.or_none]

theorem ne_timerN {tx : InviteServerTransaction} {c : Call} {k : Kind} (hk : kind tx c = k)
    (h : k ≠ .tick) : c ≠ .handleTimeout .N := by
  rintro rfl
  exact h hk.symm

theorem timedStep_agrees (s : Timed) (c : Call) (t : Timed) (out : List Action) (hi : Agrees s)
    (hg : Covered s c) (hs : timedStep s c = some (t,out)) : Agrees t := by
  obtain ⟨⟨tx',o⟩,hst,heq⟩ := Option.map_eq_some_iff.mp hs
  cases heq
  unfold Agrees at hi ⊢
  cases step_effect hst with
  | drained hk h =>
    rw [if_neg (ne_timerN hk (by simp)), h.armed, h.buffer, hi]
    split_ifs with hb
    · rw [hb]
    · rfl
  | stamped r bytes hk hc h =>
    rw [if_neg (ne_timerN hk (by simp)), h.armed, h.buffer]
    split_ifs with hb
    · simp [hb, soonest, stampedEntry]
    · -- Timer N is left as it is, so an entry before the new one must be due first
      subst hc
      obtain ⟨e,he,hle⟩ := (hg h.from_proceeding).resolve_left hb
      rw [hi, soonest_append_of_le he hle]
  | pracked r hk h =>
    rw [if_neg (ne_timerN hk (by simp)), h.armed]
    split_ifs with hr
    · rfl
    · rw [hi, h.next, filter_rseq_of_notMem hr]
  | ticked hk hc h =>
    rw [if_pos hc]
    have ho := fireTimerN_armed s.1
    rwa [← h] at ho
  | quiet hk h =>
    rw [if_neg (ne_timerN hk (by simp)), h.armed, h.buffer, hi]

/-- In every run in which each reliable provisional finds the buffer empty or
an entry due within T1, Timer N is armed exactly when the buffer is
non-empty, for the time that the next firing takes to have passed. -/
theorem timerN_bookkept (request : SipRequest) (reliable : Bool) (tx tx' : InviteServerTransaction)
    (out log : List Action) (calls : List Call) (armed : Option ℕ)
    (hnew : new request reliable = some (tx,out))
    (hg : Guarded timedStep Covered (tx,armedAfter none out) calls)
    (hr : run timedStep (tx,armedAfter none out) calls = some ((tx',armed),log)) :
    Bookkept (tx',armed) := by
  obtain ⟨_,id,_,hp⟩ := new_eq_some hnew
  cases hp
  have h0 : Agrees ((start request reliable id).1,armedAfter none (start request reliable id).2) :=
    rfl
  exact agrees_bookkept (run_guarded_invariant timedStep_agrees h0 hg hr)

theorem first_provisional : timedStep (pendingTx [],none)
    (.sendProvisionalReliable (createResponse .invite testBranch 183)) =
      some ((pendingTx [pendingEntry 1 500 500 0],some 500),
        [.send (pendingEntry 1 500 500 0).bytes,.setTimer .N 500]) := by
  decide +kernel

theorem first_firing : timedStep (pendingTx [pendingEntry 1 500 500 0],some 500)
    (.handleTimeout .N) = some ((pendingTx [pendingEntry 1 1000 1000 500],some 1000),
      [.send (pendingEntry 1 500 500 0).bytes,.setTimer .N 1000]) := by
  decide +kernel

theorem timerN_bookkept_after_firing :
    run timedStep (pendingTx [],none)
        [.sendProvisionalReliable (createResponse .invite testBranch 183),.handleTimeout .N] =
      some ((pendingTx [pendingEntry 1 1000 1000 500],some 1000),
        [.send (pendingEntry 1 500 500 0).bytes,.setTimer .N 500,
          .send (pendingEntry 1 500 500 0).bytes,.setTimer .N 1000]) ∧
      Bookkept (pendingTx [pendingEntry 1 1000 1000 500],some 1000) := by
  have hr : run timedStep (pendingTx [],none)
      [.sendProvisionalReliable (createResponse .invite testBranch 183),.handleTimeout .N] =
    some ((pendingTx [pendingEntry 1 1000 1000 500],some 1000),
      [.send (pendingEntry 1 500 500 0).bytes,.setTimer .N 500,
        .send (pendingEntry 1 500 500 0).bytes,.setTimer .N 1000]) :=
    run_cons.mpr ⟨_,_,_,first_provisional,run_cons.mpr ⟨_,_,_,first_firing,rfl,rfl⟩,rfl⟩
  have hg : Guarded timedStep Covered (pendingTx [],none)
      [.sendProvisionalReliable (createResponse .invite testBranch 183),.handleTimeout .N] :=
    guarded_cons (fun _ => Or.inl rfl) first_provisional (guarded_of_forall _ (by simp [Covered]))
  exact ⟨hr,timerN_bookkept (createRequest .invite testBranch) false (pendingTx []) _
    [.event (.request (createRequest .invite testBranch))] _ _ _ new_pendingTx hg hr⟩

/-- After one firing the first entry waits 1000 ms. A second provisional then
waits 500 ms, and Timer N stays armed for 1000 ms. -/
theorem second_provisional_not_armed :
    ¬∀ (request : SipRequest) (reliable : Bool) (tx tx' : InviteServerTransaction)
        (out log : List Action) (calls : List Call) (armed : Option ℕ),
        new request reliable = some (tx,out) →
        Guarded timedStep FiresArmed (tx,armedAfter none out) calls →
        run timedStep (tx,armedAfter none out) calls = some ((tx',armed),log) →
        Bookkept (tx',armed) := by
  intro h
  let response := createResponse .invite testBranch 183
  let e := pendingEntry 1 500 500 0
  let e₁ := pendingEntry 1 1000 1000 500
  let e₂ := pendingEntry 2 500 500 0
  have hsecond : timedStep (pendingTx [e₁],some 1000) (.sendProvisionalReliable response) =
      some ((pendingTx [e₁,e₂],some 1000),[.send e₂.bytes]) := by
    decide +kernel
  have hb := h (createRequest .invite testBranch) false (pendingTx []) (pendingTx [e₁,e₂])
    [.event (.request (createRequest .invite testBranch))]
    [.send e.bytes,.setTimer .N 500,.send e.bytes,.setTimer .N 1000,.send e₂.bytes]
    [.sendProvisionalReliable response,.handleTimeout .N,.sendProvisionalReliable response]
    (some 1000) new_pendingTx
    (guarded_cons (by simp [FiresArmed]) first_provisional
      (guarded_cons (fun _ => rfl) first_firing (guarded_of_forall _ (by simp [FiresArmed]))))
    (run_cons.mpr ⟨_,_,_,first_provisional,run_cons.mpr ⟨_,_,_,first_firing,
      run_cons.mpr ⟨_,_,_,hsecond,rfl,rfl⟩,rfl⟩,rfl⟩)
  have hs : soonest [e₁,e₂] = some 500 := by decide +kernel
  have hd := (hb.2 1000 rfl).1
  rw [show (pendingTx [e₁,e₂]).reliableProvisionals = [e₁,e₂] from rfl, hs] at hd
  cases hd

end RsipRtp.InviteServerTimerN
