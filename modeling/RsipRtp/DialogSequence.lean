import RsipRtp.Dialog
import RsipRtp.SipBuilder
import RsipRtp.SipReply

/-!
# The sequence numbers of a dialog

Every request that a dialog builds takes the next number of its counter.
-/

namespace RsipRtp.DialogSequence
open SipText SipHeader SipMessage SipBuilder OutputMachine Dialog InviteDialog

def returned? : Output → Option Request
  | .returned r => some r
  | _ => none

def requests (out : List Output) : List Request := out.filterMap returned?

def number (r : Request) : Option ℕ := (ok (typedCSeq r.headers)).map CSeq.seq

inductive Created : InviteDialog → ℕ → Prop
  | uac (invite : SipRequest) (n : ℕ) (h : n = (ok invite.cseq).getD 1) : Created (newUac invite) n
  | uas (invite : SipRequest) (localTag localContact : Text) (d : InviteDialog)
      (h : newUas invite localTag localContact = some d) : Created d 0

/-- The counter has room, and no response sets up the dialog anew after
a request has been built. -/
def Counting (d : InviteDialog) : Call → Prop
  | .handleResponse r => d.role = .uac → d.state = .early →
      101 ≤ r.statusCode → r.statusCode < 300 →
      ok d.invite.cseq = some d.info.localSeq ∨
        (d.adopt r .early = none ∧ d.adopt r .confirmed = none)
  | .sendBye _ | .buildPrack _ _ | .buildUpdate _ _ | .buildByeWithReason _ _ =>
      d.info.localSeq+1 < 2^32
  | _ => True

instance (d : InviteDialog) : (c : Call) → Decidable (Counting d c)
  | .handleResponse r => inferInstanceAs (Decidable (d.role = .uac → d.state = .early →
      101 ≤ r.statusCode → r.statusCode < 300 →
      ok d.invite.cseq = some d.info.localSeq ∨
        (d.adopt r .early = none ∧ d.adopt r .confirmed = none)))
  | .sendBye _ | .buildPrack _ _ | .buildUpdate _ _ | .buildByeWithReason _ _ =>
      inferInstanceAs (Decidable (d.info.localSeq+1 < 2^32))
  | .handleRequest _ | .sendResponse _ | .ackSent => inferInstanceAs (Decidable True)

section OneCall

variable {d t : InviteDialog} {out : List Output}

theorem number_of_numbered {method : Method} {cseq : ℕ} {req : Request}
    (h : Numbered method cseq req) (hlt : cseq < 2^32) : number req = some cseq := by
  obtain ⟨b,hmethod,hcseq,hbuild⟩ := h
  obtain ⟨n,headers,hc,hlist,rfl⟩ := build_ok.mp (ok_eq_some.mp hbuild)
  have hn : n.cseq = cseq := Option.some.inj (hc.cseq.symm.trans hcseq)
  have hfirst : firstValue headers "CSeq" = .ok (natText n.cseq++ ' '::n.method.asStr) := by
    rw [firstValue, Headers.getFirst, hlist]
    rfl
  have htyped : typedCSeq headers = .ok { seq := n.cseq, method := n.method } := by
    rw [typedCSeq, hfirst]
    change asParse (parseCSeq (natText n.cseq++ ' '::n.method.asStr)) = _
    rw [SipReply.parseCSeq_text (by rw [hn]; exact hlt)]
    rfl
  change (ok (typedCSeq headers)).map CSeq.seq = some cseq
  rw [htyped, ← hn]
  rfl

inductive Counted (d t : InviteDialog) (built : List Request) : Prop where
  | kept (same : t.info.localSeq = d.info.localSeq) (none : built = [])
  | spent (next : t.info.localSeq = d.info.localSeq+1) (none : built = [])
  | built (req : Request) (next : t.info.localSeq = d.info.localSeq+1) (one : built = [req])
      (number_eq : number req = some t.info.localSeq)

theorem requests_actions (as : List Action) : requests (as.map .action) = [] := by
  rw [requests, List.filterMap_eq_nil_iff]
  intro o ho
  obtain ⟨a,-,rfl⟩ := List.mem_map.mp ho
  rfl

theorem requests_withResult (p : InviteDialog × List Action × Option Request) :
    requests (withResult p).2 = p.2.2.toList := by
  rw [withResult, requests, List.filterMap_append]
  rw [show (p.2.1.map Output.action).filterMap returned? = [] from requests_actions p.2.1]
  cases p.2.2 <;> rfl

theorem takeSeq_next (hlt : d.info.localSeq+1 < 2^32) :
    d.takeSeq.info.localSeq = d.info.localSeq+1 := Nat.mod_eq_of_lt hlt

example : (newUac (createInvite 7)).takeSeq.info.localSeq = 8 := by decide +kernel

theorem adopted_seq {r : SipResponse} {s : DialogState} {e : InviteDialog}
    (h : ok d.invite.cseq = some d.info.localSeq ∨ d.adopt r s = none)
    (he : e.info.localSeq = d.info.localSeq) :
    ((d.adopt r s).getD e).info.localSeq = d.info.localSeq := by
  cases ha : d.adopt r s with
  | none => exact he
  | some t =>
    rcases h with h | h
    · exact Option.some.inj ((adopt_spec ha).2.2.2.2.symm.trans h)
    · rw [ha] at h
      cases h

theorem handleResponse_seq {r : SipResponse} (h : Counting d (.handleResponse r)) :
    (d.handleResponse r).1.info.localSeq = d.info.localSeq := by
  unfold handleResponse
  split_ifs with hrole
  · rfl
  dsimp only
  split
  · next hearly =>
    have hguard := h (not_not.mp hrole) hearly
    split_ifs with hprov hcode _ hok hfail
    · rfl
    · exact adopted_seq ((hguard (by omega) (by omega)).imp_right And.left) rfl
    · exact adopted_seq ((hguard (by omega) (by omega)).imp_right And.left) rfl
    · exact adopted_seq ((hguard (by omega) (by omega)).imp_right And.right) rfl
    · rfl
    · rfl
  · rfl

theorem handleRequest_seq (d : InviteDialog) (r : SipRequest) :
    (d.handleRequest r).1.info.localSeq = d.info.localSeq := by
  unfold handleRequest
  split
  · rfl
  · split
    · rfl
    · split_ifs
      · split
        · rename_i info hinfo
          obtain ⟨-,rfl⟩ := DialogInfo.updateRemoteSeq_spec hinfo
          rfl
        · rfl
      · rfl
    all_goals first | rfl | (split_ifs <;> rfl)

theorem sendResponse_seq (d : InviteDialog) (r : SipResponse) :
    (d.sendResponse r).1.info.localSeq = d.info.localSeq := by
  unfold InviteDialog.sendResponse
  dsimp only
  split_ifs <;> rfl

theorem sendBye_counted (uuid : Text) (hlt : d.info.localSeq+1 < 2^32) :
    Counted d (d.sendBye uuid).1 (d.sendBye uuid).2.2.toList := by
  unfold sendBye
  split_ifs
  · exact .kept rfl rfl
  · have hnext : (d.setState .terminating).takeSeq.info.localSeq = d.info.localSeq+1 :=
      takeSeq_next hlt
    dsimp only
    split
    · next bye hbuild =>
      have hnum := buildInDialogRequestWith_numbered hbuild
      exact .built bye hnext rfl (number_of_numbered hnum (by rw [hnext]; exact hlt))
    · exact .spent hnext rfl

theorem buildByeWithReason_counted (reason uuid : Text) (hlt : d.info.localSeq+1 < 2^32) :
    Counted d (d.buildByeWithReason reason uuid).1
      (d.buildByeWithReason reason uuid).2.2.toList := by
  unfold buildByeWithReason
  split_ifs
  · exact .kept rfl rfl
  · have hmin : min (d.info.localSeq+1) (2^32-1) = d.info.localSeq+1 := by omega
    dsimp only
    split
    · next bye hbuild =>
      have hnum := buildInDialogRequestWith_numbered hbuild
      exact .built bye hmin rfl (number_of_numbered hnum (by rw [hmin]; exact hlt))
    · exact .kept rfl rfl

theorem step_counted {c : Call} (hg : Counting d c) (hs : step d c = some (t,out)) :
    Counted d t (requests out) := by
  obtain ⟨p,hp,rfl,rfl⟩ : ∃ p, step d c = some p ∧ p.1 = t ∧ p.2 = out := ⟨_,hs,rfl,rfl⟩
  cases c with
  | handleResponse r =>
    cases hp
    exact .kept (handleResponse_seq hg) (requests_actions _)
  | handleRequest r =>
    cases hp
    exact .kept (handleRequest_seq d r) (requests_actions _)
  | sendResponse r =>
    cases hp
    exact .kept (sendResponse_seq d r) (requests_actions _)
  | sendBye uuid =>
    cases hp
    rw [requests_withResult]
    exact sendBye_counted uuid hg
  | buildPrack r uuid =>
    obtain ⟨⟨u,req⟩,hu,rfl⟩ := Option.map_eq_some_iff.mp hp
    obtain ⟨rfl,hnum⟩ := buildPrack_spec hu
    have hnext := takeSeq_next hg
    exact .built req hnext rfl (number_of_numbered hnum (by rw [hnext]; exact hg))
  | buildUpdate secs uuid =>
    obtain ⟨⟨u,req⟩,hu,rfl⟩ := Option.map_eq_some_iff.mp hp
    obtain ⟨rfl,hnum⟩ := buildUpdate_spec hu
    have hnext := takeSeq_next hg
    exact .built req hnext rfl (number_of_numbered hnum (by rw [hnext]; exact hg))
  | buildByeWithReason reason uuid =>
    cases hp
    rw [requests_withResult]
    exact buildByeWithReason_counted reason uuid hg
  | ackSent =>
    cases hp
    exact .kept rfl rfl

end OneCall

section Runs

variable {d t : InviteDialog} {calls : List Call} {out : List Output} {base : ℕ}

structure Growing (base : ℕ) (d : InviteDialog) (built : List Request) (ns : List ℕ) : Prop where
  numbers : built.map number = ns.map some
  sorted : ns.Pairwise (· < ·)
  above : ∀ n ∈ ns, base < n ∧ n ≤ d.info.localSeq
  counter : base ≤ d.info.localSeq

theorem growing_counted {built new : List Request} {ns : List ℕ} (h : Growing base d built ns)
    (hc : Counted d t new) : ∃ ns, Growing base t (built++new) ns := by
  cases hc with
  | kept hseq hnew =>
    rw [hnew, List.append_nil]
    exact ⟨ns,h.numbers,h.sorted,by rw [hseq]; exact h.above,by rw [hseq]; exact h.counter⟩
  | spent hseq hnew =>
    rw [hnew, List.append_nil]
    have hcounter := h.counter
    refine ⟨ns,h.numbers,h.sorted,fun n hn => ?_,by omega⟩
    have habove := h.above n hn
    omega
  | built req hseq hnew hnum =>
    have hcounter := h.counter
    refine ⟨ns++[t.info.localSeq],?_,?_,fun n hn => ?_,by omega⟩
    · rw [hnew, List.map_append, List.map_append, h.numbers]
      exact congrArg (ns.map some++[·]) hnum
    · rw [List.pairwise_append]
      refine ⟨h.sorted,List.pairwise_singleton _ _,fun a ha b hb => ?_⟩
      rw [List.mem_singleton.mp hb, hseq]
      have habove := h.above a ha
      omega
    · rcases List.mem_append.mp hn with hn | hn
      · have habove := h.above n hn
        omega
      · rw [List.mem_singleton.mp hn]
        omega

theorem created_base (h : Created d base) : base = d.info.localSeq := by
  cases h with
  | uac invite n h => exact h
  | uas invite localTag localContact d h =>
    obtain ⟨info,hinfo,rfl⟩ := Option.map_eq_some_iff.mp h
    exact (DialogInfo.fromInviteUas_spec hinfo).2.1.symm

/-- The numbers of the requests that a dialog builds grow strictly, above the
INVITE's for the caller (above one, if that cannot be read) and from one on for
the callee, while no response sets the dialog up anew after the first of them. -/
theorem numbers_increase (hd : Created d base) (hg : Guarded step Counting d calls)
    (hr : run step d calls = some (t,out)) :
    ∃ ns : List ℕ, (requests out).map number = ns.map some ∧ ns.Pairwise (· < ·) ∧
      ∀ n ∈ ns, base < n := by
  have hstart : Growing base d [] [] :=
    ⟨rfl,.nil,fun _ hn => absurd hn List.not_mem_nil,(created_base hd).le⟩
  obtain ⟨ns,hns⟩ := run_guarded_history
    (P := fun u h => ∃ ns, Growing base u (requests h) ns) (h := [])
    (fun s h i u o ⟨ns,hns⟩ hi hs => by
      rw [requests, List.filterMap_append]
      exact growing_counted hns (step_counted hi hs)) ⟨[],hstart⟩ hg hr
  exact ⟨ns,hns.numbers,hns.sorted,fun n hn => (hns.above n hn).1⟩

theorem caller_numbers_increase :
    let calls : List Call := [.handleResponse (createReply 183 7 .invite),
      .handleResponse (createReply 200 7 .invite),.buildUpdate (some 90) "1",
      .handleRequest (createPeerRequest .update 1),.sendBye "2"]
    ∃ t out, run step (newUac (createInvite 7)) calls = some (t,out) ∧
      (requests out).map number = [some 8,some 9] ∧
      ∃ ns : List ℕ, (requests out).map number = ns.map some ∧ ns.Pairwise (· < ·) ∧
        ∀ n ∈ ns, 7 < n := by
  intro calls
  have hrun : (run step (newUac (createInvite 7)) calls).map (fun p =>
      (requests p.2).map number) = some [some 8,some 9] := by decide +kernel
  obtain ⟨⟨t,out⟩,hr,hnumbers⟩ := Option.map_eq_some_iff.mp hrun
  have hg : Guarded step Counting (newUac (createInvite 7)) calls := by decide +kernel
  exact ⟨t,out,hr,hnumbers,numbers_increase (.uac (createInvite 7) 7 (by decide +kernel)) hg hr⟩

/-- The callee numbers its own requests from one on, whatever the number of
the INVITE. And a caller that answers a 183 with a PRACK reuses the number of
the PRACK in its BYE, because the 200 in between sets the counter back. -/
theorem callee_starts_below_invite :
    (createInvite 5).cseq = .ok 5 ∧
    ((newUas (createInvite 5) "a" "sip:bob@192.168.1.2").bind (fun d =>
      run step d [.buildUpdate none "1"])).map (fun p => (requests p.2).map number) =
        some [some 1] ∧
    (run step (newUac (createInvite 5)) [.handleResponse (createReply 183 5 .invite),
        .buildPrack (createReply 183 5 .invite) "1",
        .handleResponse (createReply 200 5 .invite),.sendBye "2"]).map
      (fun p => (requests p.2).map number) = some [some 6,some 6] := by
  refine ⟨?_,?_,?_⟩ <;> decide +kernel

end Runs

end RsipRtp.DialogSequence
