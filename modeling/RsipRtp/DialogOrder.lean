import RsipRtp.DialogLife

/-!
# The order of the peer's requests

A re-INVITE has to be numbered above the last one, and above the INVITE of the
peer. A BYE is taken whatever its number is, and its number is not kept.
-/

namespace RsipRtp.DialogOrder
open SipText SipMessage OutputMachine Dialog DialogLife InviteDialog

inductive Started : InviteDialog → Option ℕ → Prop
  | uac (invite : SipRequest) : Started (newUac invite) none
  | uas (invite : SipRequest) (localTag localContact : Text) (d : InviteDialog)
      (h : newUas invite localTag localContact = some d) : Started d (ok invite.cseq)

/-- The request is neither an ACK nor a CANCEL, and it raises an event or
changes the state. -/
def Effective (d : InviteDialog) (r : SipRequest) : Prop :=
  r.method ≠ .ack ∧ r.method ≠ .cancel ∧
    ((d.handleRequest r).2 ≠ [] ∨ (d.handleRequest r).1.state ≠ d.state)

instance (d : InviteDialog) (r : SipRequest) : Decidable (Effective d r) :=
  inferInstanceAs (Decidable (_ ∧ _))

def counted (d : InviteDialog) : Call → List ℕ
  | .handleRequest r => if Effective d r then (ok r.cseq).toList else []
  | _ => []

def numbers : InviteDialog → List Call → List ℕ
  | _, [] => []
  | d, c::cs => counted d c++match step d c with
    | some (t,_) => numbers t cs
    | none => []

/-- A BYE is numbered above the sequence number of the dialog and above every
BYE before it. -/
def ByeAbove (d : InviteDialog) (h : List Output) : Call → Prop
  | .handleRequest r => r.method = .bye → ∀ n ∈ ok r.cseq,
      (∀ m ∈ d.info.remoteSeq, m < n) ∧
      ∀ q, .byeReceived q ∈ events h → ∀ m ∈ ok q.cseq, m < n
  | _ => True

section OneCall
variable {d t : InviteDialog} {c : Call} {log : List Event} {out : List Output}

/-- What a call does that handles no effective request. A caller's early
dialog may be set up anew by a response. -/
structure Quiet (d t : InviteDialog) (log : List Event) : Prop where
  silent : ∀ q, .byeReceived q ∉ log
  ended : d.state = .terminated → t.state = .terminated
  role : t.role = d.role
  early : t.state = .early → d.state = .early
  seq : t.info.remoteSeq = d.info.remoteSeq ∨
    d.state = .early ∧ d.role = .uac ∧ t.info.remoteSeq = none

inductive Turn (d t : InviteDialog) (c : Call) (log : List Event) : Prop
  | quiet (uncounted : counted d c = []) (unbound : ∀ h, ByeAbove d h c) (quiet : Quiet d t log)
  | reInvite (n : ℕ) (counted_eq : counted d c = [n]) (unbound : ∀ h, ByeAbove d h c)
      (silent : ∀ q, .byeReceived q ∉ log) (above : ∀ m ∈ d.info.remoteSeq, m < n)
      (confirmed : d.state = .confirmed) (state : t.state = .confirmed)
      (seq : t.info.remoteSeq = some n)
  | bye (r : SipRequest) (n : ℕ) (call : c = .handleRequest r) (method : r.method = .bye)
      (number : ok r.cseq = some n) (counted_eq : counted d c = [n])
      (state : t.state = .terminated) (seq : t.info.remoteSeq = d.info.remoteSeq)
      (log_eq : log = [.byeReceived r,.terminated .byeReceived])

theorem Quiet.same (d : InviteDialog) : Quiet d d [] :=
  ⟨fun _ => List.not_mem_nil,id,rfl,id,.inl rfl⟩

theorem adopted_quiet {r : SipResponse} {s : DialogState} {e : InviteDialog}
    (hearly : d.state = .early) (hrole : d.role = .uac) (he : Quiet d e log) :
    Quiet d ((d.adopt r s).getD e) log := by
  cases h : d.adopt r s with
  | none => exact he
  | some t =>
    obtain ⟨info,hinfo,rfl⟩ := Option.map_eq_some_iff.mp h
    refine ⟨he.silent,fun hended => ?_,rfl,fun _ => hearly,
      .inr ⟨hearly,hrole,DialogInfo.fromInviteResponseUac_remoteSeq hinfo⟩⟩
    rw [hearly] at hended
    cases hended

theorem Quiet.settled {s : DialogState} (hearly : d.state = .early) (hs : s ≠ .early)
    (hsilent : ∀ q, .byeReceived q ∉ log) : Quiet d (d.setState s) log := by
  refine ⟨hsilent,fun hended => ?_,rfl,fun h => absurd h hs,.inl rfl⟩
  rw [hearly] at hended
  cases hended

theorem handleResponse_quiet (d : InviteDialog) (r : SipResponse) :
    Quiet d (d.handleResponse r).1 (events (actionsOnly (d.handleResponse r)).2) := by
  unfold handleResponse
  split_ifs with hrole
  · exact .same d
  dsimp only
  split
  · next hearly =>
    have huac := not_not.mp hrole
    split_ifs with hprov hcode h183 hok hfail
    · exact .same d
    · exact adopted_quiet hearly huac ⟨by simp [actionsOnly, events, event?],id,rfl,id,.inl rfl⟩
    · exact adopted_quiet hearly huac ⟨by simp [actionsOnly, events, event?],id,rfl,id,.inl rfl⟩
    · exact adopted_quiet hearly huac
        (.settled hearly (by decide) (by simp [actionsOnly, events, event?]))
    · exact .settled hearly (by decide) (by simp [actionsOnly, events, event?])
    · exact .same d
  · exact .same d

theorem sendResponse_quiet (d : InviteDialog) (r : SipResponse) :
    Quiet d (d.sendResponse r).1 (events (actionsOnly (d.sendResponse r)).2) := by
  unfold InviteDialog.sendResponse
  dsimp only
  split_ifs with hrole hok hfail
  · exact .same d
  · exact .settled hok.2.2 (by decide) (by simp [actionsOnly, events, event?])
  · exact .settled hfail.2 (by decide) (by simp [actionsOnly, events, event?])
  · exact .same d

theorem Quiet.ending (hconf : d.state = .confirmed) (hrole : t.role = d.role)
    (hstate : t.state = .terminating) (hseq : t.info.remoteSeq = d.info.remoteSeq) :
    Quiet d t [] := by
  refine ⟨fun _ => List.not_mem_nil,fun hended => ?_,hrole,fun h => ?_,.inl hseq⟩
  · rw [hconf] at hended
    cases hended
  · rw [hstate] at h
    cases h

theorem sendBye_quiet (d : InviteDialog) (uuid : Text) :
    Quiet d (d.sendBye uuid).1 (events (withResult (d.sendBye uuid)).2) := by
  unfold sendBye
  split_ifs with hconf
  · exact .same d
  · dsimp only
    split
    · exact .ending (not_not.mp hconf) rfl rfl rfl
    · exact .ending (not_not.mp hconf) rfl rfl rfl

theorem buildByeWithReason_quiet (d : InviteDialog) (reason uuid : Text) :
    Quiet d (d.buildByeWithReason reason uuid).1
      (events (withResult (d.buildByeWithReason reason uuid)).2) := by
  unfold buildByeWithReason
  split_ifs with hconf
  · exact .same d
  · dsimp only
    split
    · exact .ending (not_not.mp hconf) rfl rfl rfl
    · exact .same d

theorem handleRequest_idle {r : SipRequest} (h : d.handleRequest r = (d,[]))
    (hbye : r.method = .bye → ok r.cseq = none) :
    Turn d (d.handleRequest r).1 (.handleRequest r)
      (events (actionsOnly (d.handleRequest r)).2) := by
  refine .quiet (if_neg ?_) (fun _ hmethod => by simp [hbye hmethod]) (h ▸ .same d)
  rintro ⟨_,_,heffect⟩
  rw [h] at heffect
  exact heffect.elim (fun h => h rfl) (fun h => h rfl)

theorem handleRequest_bye {r : SipRequest} {n : ℕ} (hmethod : r.method = .bye)
    (hseq : ok r.cseq = some n) : d.handleRequest r = (d.setState .terminated,
      [.event (.byeReceived r),.event (.terminated .byeReceived)]) := by
  simp only [handleRequest, hseq, hmethod]

theorem handleRequest_reInvite {r : SipRequest} {n : ℕ} {info : DialogInfo}
    (hmethod : r.method = .invite) (hseq : ok r.cseq = some n) (hconf : d.state = .confirmed)
    (hinfo : d.info.updateRemoteSeq n = some info) :
    d.handleRequest r = ({ d with info },[.event (.reInvite r)]) := by
  simp only [handleRequest, hseq, hmethod, hconf, hinfo, if_true]

theorem handleRequest_turn (d : InviteDialog) (r : SipRequest) :
    Turn d (d.handleRequest r).1 (.handleRequest r)
      (events (actionsOnly (d.handleRequest r)).2) := by
  cases hseq : ok r.cseq with
  | none => exact handleRequest_idle (by simp only [handleRequest, hseq]) (fun _ => hseq)
  | some n =>
    -- what is neither a BYE nor a re-INVITE binds no number
    have hunbound (hne : r.method ≠ .bye) (h : List Output) : ByeAbove d h (.handleRequest r) :=
      fun hmethod => absurd hmethod hne
    cases hmethod : r.method with
    | bye =>
      have heq := handleRequest_bye (d := d) hmethod hseq
      have hcounted : counted d (.handleRequest r) = [n] := by
        rw [counted, if_pos ⟨by rw [hmethod]; decide,by rw [hmethod]; decide,.inl (by simp [heq])⟩,
          hseq]
        rfl
      rw [heq]
      exact .bye r n rfl hmethod hseq hcounted rfl rfl rfl
    | invite =>
      have hne : r.method ≠ .bye := by
        rw [hmethod]
        decide
      by_cases hconf : d.state = .confirmed
      · cases hinfo : d.info.updateRemoteSeq n with
        | none =>
          exact handleRequest_idle (by simp only [handleRequest, hseq, hmethod, hconf, hinfo,
            if_true])
            (fun h => absurd h hne)
        | some info =>
          have heq := handleRequest_reInvite hmethod hseq hconf hinfo
          obtain ⟨habove,rfl⟩ := DialogInfo.updateRemoteSeq_spec hinfo
          have hcounted : counted d (.handleRequest r) = [n] := by
            rw [counted, if_pos ⟨by rw [hmethod]; decide,by rw [hmethod]; decide,
              .inl (by simp [heq])⟩, hseq]
            rfl
          rw [heq]
          exact .reInvite n hcounted (hunbound hne) (by simp [actionsOnly, events, event?]) habove
            hconf hconf rfl
      · exact handleRequest_idle (by simp only [handleRequest, hseq, hmethod, if_neg hconf])
          (fun h => absurd h hne)
    | ack =>
      refine .quiet (if_neg fun h => h.1 hmethod) (hunbound (by rw [hmethod]; decide)) ?_
      simp only [handleRequest, hseq, hmethod]
      split_ifs
      · exact ⟨fun _ => List.not_mem_nil,id,rfl,id,.inl rfl⟩
      · exact .same d
    | cancel =>
      refine .quiet (if_neg fun h => h.2.1 hmethod) (hunbound (by rw [hmethod]; decide)) ?_
      simp only [handleRequest, hseq, hmethod]
      split_ifs with hearly
      · exact .settled hearly.1 (by decide) (by simp [actionsOnly, events, event?])
      · exact .same d
    | _ =>
      refine handleRequest_idle (by simp only [handleRequest, hseq, hmethod]) (fun h => ?_)
      rw [hmethod] at h
      cases h

theorem step_turn (hs : step d c = some (t,out)) : Turn d t c (events out) := by
  obtain ⟨p,hp,rfl,rfl⟩ : ∃ p, step d c = some p ∧ p.1 = t ∧ p.2 = out := ⟨_,hs,rfl,rfl⟩
  cases c with
  | handleResponse r =>
    cases hp
    exact .quiet rfl (fun _ => trivial) (handleResponse_quiet d r)
  | handleRequest r =>
    cases hp
    exact handleRequest_turn d r
  | sendResponse r =>
    cases hp
    exact .quiet rfl (fun _ => trivial) (sendResponse_quiet d r)
  | sendBye uuid =>
    cases hp
    exact .quiet rfl (fun _ => trivial) (sendBye_quiet d uuid)
  | buildPrack r uuid =>
    obtain ⟨⟨u,req⟩,hu,rfl⟩ := Option.map_eq_some_iff.mp hp
    rw [(buildPrack_spec hu).1]
    exact .quiet rfl (fun _ => trivial) ⟨fun _ => List.not_mem_nil,id,rfl,id,.inl rfl⟩
  | buildUpdate secs uuid =>
    obtain ⟨⟨u,req⟩,hu,rfl⟩ := Option.map_eq_some_iff.mp hp
    rw [(buildUpdate_spec hu).1]
    exact .quiet rfl (fun _ => trivial) ⟨fun _ => List.not_mem_nil,id,rfl,id,.inl rfl⟩
  | buildByeWithReason reason uuid =>
    cases hp
    exact .quiet rfl (fun _ => trivial) (buildByeWithReason_quiet d reason uuid)
  | ackSent =>
    cases hp
    exact .quiet rfl (fun _ => trivial) ⟨fun _ => List.not_mem_nil,id,rfl,id,.inl rfl⟩

/-- Only a request can be counted or bound, and handling one never stops. -/
theorem step_none (hs : step d c = none) : counted d c = [] ∧ ∀ h, ByeAbove d h c := by
  cases c with
  | handleRequest r => cases hs
  | _ => exact ⟨rfl,fun _ => trivial⟩

end OneCall

section Runs
variable {d t : InviteDialog} {last : Option ℕ} {log new : List Event}

inductive Tracked (last : Option ℕ) (d : InviteDialog) (log : List Event) : Prop
  | going (silent : ∀ q, .byeReceived q ∉ log) (seq : d.info.remoteSeq = last)
      (fresh : d.state = .early → d.role = .uac → last = none)
  | ended (m : ℕ) (last_eq : last = some m) (state : d.state = .terminated)
      (seq : ∀ k ∈ d.info.remoteSeq, k ≤ m)
      (byes : ∀ q, .byeReceived q ∈ log → ∀ k ∈ ok q.cseq, k ≤ m)
      (found : ∃ q, .byeReceived q ∈ log ∧ ok q.cseq = some m)

theorem Tracked.quiet (h : Tracked last d log) (hq : Quiet d t new) :
    Tracked last t (log++new) := by
  have hnew (q : SipRequest) : .byeReceived q ∈ log++new ↔ .byeReceived q ∈ log := by
    simp [hq.silent q]
  cases h with
  | going silent seq fresh =>
    refine .going (fun q => mt (hnew q).mp (silent q)) ?_ (fun hearly hrole =>
      fresh (hq.early hearly) (hq.role ▸ hrole))
    rcases hq.seq with hsame | ⟨hearly,hrole,hnone⟩
    · exact hsame.trans seq
    · rw [hnone, fresh hearly hrole]
  | ended m last_eq state seq byes found =>
    refine .ended m last_eq (hq.ended state) ?_ (fun q hmem => byes q ((hnew q).mp hmem)) ?_
    · rcases hq.seq with hsame | ⟨hearly,_,_⟩
      · rwa [hsame]
      · rw [state] at hearly
        cases hearly
    · obtain ⟨q,hmem,hnumber⟩ := found
      exact ⟨q,(hnew q).mpr hmem,hnumber⟩

/-- A BYE may come exactly if its number is above the last one. -/
theorem Tracked.bye_iff {h : List Output} {r : SipRequest} {n : ℕ}
    (ht : Tracked last d (events h)) (hmethod : r.method = .bye) (hseq : ok r.cseq = some n) :
    ByeAbove d h (.handleRequest r) ↔ ∀ m ∈ last, m < n := by
  have hunfold : ByeAbove d h (.handleRequest r) ↔ (∀ m ∈ d.info.remoteSeq, m < n) ∧
      ∀ q, .byeReceived q ∈ events h → ∀ m ∈ ok q.cseq, m < n := by
    simp [ByeAbove, hmethod, hseq]
  rw [hunfold]
  cases ht with
  | going silent seq fresh =>
    rw [seq]
    exact ⟨And.left,fun hlast => ⟨hlast,fun q hmem => absurd hmem (silent q)⟩⟩
  | ended m last_eq state seq byes found =>
    obtain ⟨q,hmem,hnumber⟩ := found
    constructor
    · rintro ⟨_,hbyes⟩ k hk
      rw [last_eq] at hk
      cases hk
      exact hbyes q hmem m hnumber
    · intro hlast
      have hm := hlast m last_eq
      exact ⟨fun k hk => (seq k hk).trans_lt hm,fun p hp k hk => (byes p hp k hk).trans_lt hm⟩

theorem Tracked.bye {r : SipRequest} {n : ℕ} (ht : Tracked last d log)
    (habove : ∀ m ∈ last, m < n) (hseq : ok r.cseq = some n) (hstate : t.state = .terminated)
    (hsame : t.info.remoteSeq = d.info.remoteSeq) :
    Tracked (some n) t (log++[.byeReceived r,.terminated .byeReceived]) := by
  have hbefore : (∀ k ∈ d.info.remoteSeq, k < n) ∧
      ∀ q, .byeReceived q ∈ log → ∀ k ∈ ok q.cseq, k < n := by
    cases ht with
    | going silent seq fresh => exact ⟨seq ▸ habove,fun q hmem => absurd hmem (silent q)⟩
    | ended m last_eq state seq byes found =>
      have hm := habove m last_eq
      exact ⟨fun k hk => (seq k hk).trans_lt hm,fun p hp k hk => (byes p hp k hk).trans_lt hm⟩
  refine .ended n rfl hstate (fun k hk => (hbefore.1 k (hsame ▸ hk)).le) (fun q hmem k hk => ?_)
    ⟨r,by simp,hseq⟩
  rcases List.mem_append.mp hmem with hmem | hmem
  · exact (hbefore.2 q hmem k hk).le
  · have hqr : q = r := by simpa using hmem
    rw [hqr, hseq] at hk
    cases hk
    exact le_rfl

theorem pairwise_last {last : Option ℕ} {n : ℕ} {ns : List ℕ} :
    (last.toList++n::ns).Pairwise (· < ·) ↔ (∀ m ∈ last, m < n) ∧ (n::ns).Pairwise (· < ·) := by
  cases last with
  | none => simp
  | some m =>
    simp only [Option.toList_some, List.singleton_append, Option.mem_def, Option.some.injEq,
      forall_eq']
    rw [List.pairwise_cons, and_congr_left_iff]
    intro htail
    constructor
    · exact fun h => h n List.mem_cons_self
    · intro hm k hk
      rcases List.mem_cons.mp hk with rfl | hk
      · exact hm
      · exact hm.trans ((List.pairwise_cons.mp htail).1 k hk)

/-- From a dialog on whose last number is known, the numbers grow exactly if
those of the BYEs do. -/
theorem numbers_grow_iff {h : List Output} (ht : Tracked last d (events h)) (calls : List Call) :
    (last.toList++numbers d calls).Pairwise (· < ·) ↔ Watched step ByeAbove h d calls := by
  induction calls generalizing d last h with
  | nil => cases last <;> simp [numbers, Watched]
  | cons c calls ih =>
    cases hs : step d c with
    | none =>
      obtain ⟨hcounted,hunbound⟩ := step_none hs
      have hwatched : Watched step ByeAbove h d (c::calls) :=
        ⟨hunbound h,fun t out ht => by rw [hs] at ht; cases ht⟩
      rw [numbers, hcounted, hs]
      cases last <;> simp [hwatched]
    | some p =>
      obtain ⟨t,out⟩ := p
      have hwatched : Watched step ByeAbove h d (c::calls) ↔
          ByeAbove d h c ∧ Watched step ByeAbove (h++out) t calls := by
        refine and_congr_right fun _ => ⟨fun hall => hall t out hs,fun hw u a hu => ?_⟩
        rw [hs] at hu
        cases hu
        exact hw
      rw [hwatched, numbers, hs]
      cases step_turn hs with
      | quiet uncounted unbound quiet =>
        rw [uncounted, List.nil_append, and_iff_right (unbound h)]
        exact ih (by rw [events_append]; exact ht.quiet quiet)
      | reInvite n counted_eq unbound silent above confirmed state seq =>
        rw [counted_eq, and_iff_right (unbound h)]
        cases ht with
        | going open_silent open_seq fresh =>
          have hnext : Tracked (some n) t (events (h++out)) := by
            rw [events_append]
            refine .going (fun q hmem => ?_) seq (fun hearly => ?_)
            · exact (List.mem_append.mp hmem).elim (open_silent q) (silent q)
            · rw [state] at hearly
              cases hearly
          rw [List.singleton_append, pairwise_last, and_iff_right (open_seq ▸ above)]
          exact ih hnext
        | ended m last_eq ended_state _ _ _ =>
          rw [confirmed] at ended_state
          cases ended_state
      | bye r n call method number counted_eq state seq log_eq =>
        rw [counted_eq, List.singleton_append, pairwise_last, call, ht.bye_iff method number]
        refine and_congr_right fun habove => ?_
        have hnext : Tracked (some n) t (events (h++out)) := by
          rw [events_append, log_eq]
          exact ht.bye habove number state seq
        exact ih hnext

end Runs

theorem started_tracked {d : InviteDialog} {peer : Option ℕ} (h : Started d peer) :
    Tracked peer d [] := by
  cases h with
  | uac invite => exact .going (fun _ => List.not_mem_nil) rfl (fun _ _ => rfl)
  | uas invite localTag localContact d h =>
    obtain ⟨info,hinfo,rfl⟩ := Option.map_eq_some_iff.mp h
    exact .going (fun _ => List.not_mem_nil) (DialogInfo.fromInviteUas_remoteSeq hinfo)
      (fun _ hrole => by cases hrole)

/-- The numbers of the effective requests of a run grow from that of the
peer's INVITE on, if and only if every BYE is numbered above what came before. -/
theorem requests_in_order_iff {d : InviteDialog} {peer : Option ℕ} (h : Started d peer)
    (calls : List Call) :
    (peer.toList++numbers d calls).Pairwise (· < ·) ↔ Watched step ByeAbove [] d calls :=
  numbers_grow_iff (h := []) (started_tracked h) calls

def callee : Option InviteDialog :=
  newUas (createInvite 10) "totag" "sip:bob@192.168.1.2"

theorem callee_started {d : InviteDialog} (h : callee = some d) : Started d (some 10) := by
  have hseq : ok (createInvite 10).cseq = some 10 := by decide +kernel
  exact hseq ▸ Started.uas _ _ _ d h

/-- An answered call, a re-INVITE and the BYE after it. -/
theorem modified_call_in_order : ∃ d, Started d (some 10) ∧ Watched step ByeAbove [] d
    [.sendResponse (createReply 200 10 .invite),.handleRequest (createPeerRequest .invite 11),
      .handleRequest (createPeerRequest .bye 12)] := by
  have hnumbers : callee.map (fun d => numbers d
      [.sendResponse (createReply 200 10 .invite),.handleRequest (createPeerRequest .invite 11),
        .handleRequest (createPeerRequest .bye 12)]) = some [11,12] := by decide +kernel
  obtain ⟨d,hd,hgrow⟩ := Option.map_eq_some_iff.mp hnumbers
  refine ⟨d,callee_started hd,(requests_in_order_iff (callee_started hd) _).mp ?_⟩
  rw [hgrow]
  decide

/-- A BYE with number 4 ends a call that the peer began with number 10. -/
theorem stale_bye_effective : ∃ d, Started d (some 10) ∧
    ¬((some 10).toList++numbers d [.sendResponse (createReply 200 10 .invite),
      .handleRequest (createPeerRequest .bye 4)]).Pairwise (· < ·) := by
  have hnumbers : callee.map (fun d => numbers d [.sendResponse (createReply 200 10 .invite),
      .handleRequest (createPeerRequest .bye 4)]) = some [4] := by decide +kernel
  obtain ⟨d,hd,hstale⟩ := Option.map_eq_some_iff.mp hnumbers
  refine ⟨d,callee_started hd,?_⟩
  rw [hstale]
  decide

end RsipRtp.DialogOrder
