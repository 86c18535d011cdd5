import Mathlib.Data.List.Perm.Basic
import Mathlib.Data.List.Nodup
import RsipRtp.InviteServerStep

/-!
# The fate of every reliable provisional

A ledger beside the transaction notes each provisional when it is stamped,
when its PRACK arrives and when a final response drops it; the abandoned ones
are read off the `PrackTimeout` events.
-/

namespace RsipRtp.InviteServerLedger
open SipText SipMessage TransactionTimer OutputMachine InviteServer InviteServerStep

variable {tx : InviteServerTransaction}

structure Ledger where
  clock : ℕ
  stamped : List (ℕ × ℕ)
  acknowledged : List ℕ
  dropped : List ℕ
deriving DecidableEq

def Ledger.empty : Ledger := { clock := 0, stamped := [], acknowledged := [], dropped := [] }

def Ledger.rseqs (l : Ledger) : List ℕ := l.stamped.map Prod.fst

def record (l : Ledger) (tx : InviteServerTransaction) : Kind → Ledger
  | .drain => { l with dropped := l.dropped++buffered tx }
  | .stamp _ => { l with stamped := l.stamped++[(tx.nextRseq,l.clock)] }
  | .prack r => { l with acknowledged := l.acknowledged++(buffered tx).filter (· == r) }
  | .tick => { l with clock := l.clock+(soonest tx.reliableProvisionals).getD 0 }
  | .other => l

def ledgerStep : Step (InviteServerTransaction × Ledger) Call Action := fun s c =>
  (step s.1 c).map (fun p => ((p.1,record s.2 s.1 (kind s.1 c)),p.2))

/-- How often an RSeq has been acknowledged, abandoned and dropped, and how
often it is still buffered. -/
def fates (l : Ledger) (log : List Action) (tx : InviteServerTransaction) (r : ℕ) : ℕ :=
  l.acknowledged.count r+(abandoned log).count r+l.dropped.count r+(buffered tx).count r

/-- The entry was stamped with its RSeq, and its time on the schedule is what
its fields say. -/
structure Scheduled (l : Ledger) (t1 : ℕ) (e : ReliableProvisional) : Prop where
  wire : ∃ response, stampReliableHeaders response e.rseq = some e.bytes
  abandonAt : e.abandonAt = 64*t1
  born : ∃ born, (e.rseq,born) ∈ l.stamped ∧
    l.clock+e.nextFireAfter = born+e.elapsed+e.nextInterval

structure Accounts (s : InviteServerTransaction × Ledger) (log : List Action) : Prop where
  counter : 1 ≤ s.1.nextRseq
  rseqs : s.2.rseqs = List.range' 1 (s.1.nextRseq-1)
  fates : ∀ r, fates s.2 log s.1 r = s.2.rseqs.count r
  scheduled : ∀ e ∈ s.1.reliableProvisionals, Scheduled s.2 s.1.timers.t1 e

theorem append_filter_notMem_perm {α : Type*} [DecidableEq α] {s l : List α} (h : s.Sublist l)
    (hn : l.Nodup) : (s++l.filter (· ∉ s)).Perm l := by
  have hd : (s++l.filter (· ∉ s)).Nodup := by
    refine List.Nodup.append (h.nodup hn) (hn.filter _) fun a ha hf => ?_
    simp_all
  rw [List.perm_ext_iff_of_nodup hd hn]
  intro a
  have hs := h.subset (a := a)
  simp only [List.mem_append, List.mem_filter, decide_eq_true_eq]
  tauto

section Fire

variable (t2 due : ℕ) (e : ReliableProvisional)

@[simp] theorem fireEntry_rseq : (fireEntry t2 due e).1.rseq = e.rseq := by
  simp only [fireEntry]
  split_ifs <;> rfl

@[simp] theorem fireEntry_bytes : (fireEntry t2 due e).1.bytes = e.bytes := by
  simp only [fireEntry]
  split_ifs <;> rfl

@[simp] theorem fireEntry_abandonAt : (fireEntry t2 due e).1.abandonAt = e.abandonAt := by
  simp only [fireEntry]
  split_ifs <;> rfl

/-- The delay is counted once for every entry, and what is sent again has
been on its schedule for less than the time to abandon it. -/
theorem fireEntry_clock {clock born : ℕ} (hdue : due ≤ e.nextFireAfter)
    (hborn : clock+e.nextFireAfter = born+e.elapsed+e.nextInterval) :
    clock+due+(fireEntry t2 due e).1.nextFireAfter =
      born+(fireEntry t2 due e).1.elapsed+(fireEntry t2 due e).1.nextInterval ∨
        (fireEntry t2 due e).2 = .abandoned := by
  simp only [fireEntry]
  split_ifs
  · left
    dsimp only
    omega
  · exact Or.inr rfl
  · left
    dsimp only
    omega

theorem fireEntry_retransmitted {clock born : ℕ} (hdue : due ≤ e.nextFireAfter)
    (hborn : clock+e.nextFireAfter = born+e.elapsed+e.nextInterval)
    (hr : (fireEntry t2 due e).2 = .retransmitted) : clock+due < born+e.abandonAt := by
  simp only [fireEntry] at hr
  split_ifs at hr
  omega

end Fire

def resent (tx : InviteServerTransaction) : List ReliableProvisional :=
  tx.reliableProvisionals.filter
    (fun e => (fireEntry tx.timers.t2 (dueIn tx) e).2 == .retransmitted)

def toAbandon (tx : InviteServerTransaction) : List ℕ :=
  (tx.reliableProvisionals.filter
    (fun e => (fireEntry tx.timers.t2 (dueIn tx) e).2 == .abandoned)).map (·.rseq)

def kept (tx : InviteServerTransaction) : List ReliableProvisional :=
  (tx.reliableProvisionals.map (fun e => (fireEntry tx.timers.t2 (dueIn tx) e).1)).filter
    (fun e => !(toAbandon tx).contains e.rseq)

theorem toAbandon_sublist (tx : InviteServerTransaction) :
    (toAbandon tx).Sublist (buffered tx) :=
  List.Sublist.map _ List.filter_sublist

theorem fireTimerN_eq (tx : InviteServerTransaction) (h : tx.reliableProvisionals ≠ []) :
    fireTimerN tx =
      ({ tx with reliableProvisionals := kept tx },
        (resent tx).map (fun e => .send e.bytes)++
          (toAbandon tx).map (fun r => .event (.prackTimeout r tx.finalSent))++
          rearm (kept tx)) := by
  have he : tx.reliableProvisionals.isEmpty = false := by simpa using h
  simp [fireTimerN, he, resent, toAbandon, kept, List.filter_map, Function.comp_def]

theorem sends_map_send {α : Type} (f : α → Bytes) (l : List α) :
    sends (l.map (fun a => TransactionAction.send (ε := Event) (f a))) = l.map f := by
  induction l with
  | nil => rfl
  | cons a l ih => simp [ih]

theorem abandoned_map_send {α : Type} (f : α → Bytes) (l : List α) :
    abandoned (l.map (fun a => TransactionAction.send (f a))) = [] := by
  induction l with
  | nil => rfl
  | cons a l ih => simpa using ih

theorem map_prackTimeout (l : List ℕ) (f : FinalSent) :
    abandoned (l.map (fun r => TransactionAction.event (.prackTimeout r f))) = l ∧
      sends (l.map (fun r => TransactionAction.event (Event.prackTimeout r f))) = [] := by
  induction l with
  | nil => exact ⟨rfl,rfl⟩
  | cons r l ih => simpa [prackTimeoutRseq] using ih

theorem rearm_silent (entries : List ReliableProvisional) :
    abandoned (rearm entries) = [] ∧ sends (rearm entries) = [] := by
  unfold rearm
  cases soonest entries <;> exact ⟨rfl,rfl⟩

theorem fireTimerN_abandoned (h : tx.reliableProvisionals ≠ []) :
    abandoned (fireTimerN tx).2 = toAbandon tx := by
  simp [fireTimerN_eq tx h, abandoned_map_send, map_prackTimeout, rearm_silent]

theorem fireTimerN_sends (tx : InviteServerTransaction) :
    sends (fireTimerN tx).2 = (resent tx).map (·.bytes) := by
  by_cases h : tx.reliableProvisionals = []
  · simp [fireTimerN, resent, h]
  · simp [fireTimerN_eq tx h, sends_map_send, map_prackTimeout, rearm_silent]

theorem kept_rseqs (tx : InviteServerTransaction) :
    (kept tx).map (·.rseq) = (buffered tx).filter (· ∉ toAbandon tx) := by
  simp [kept, buffered, List.filter_map, Function.comp_def]

theorem toAbandon_kept_count (hn : (buffered tx).Nodup) (r : ℕ) :
    (toAbandon tx).count r+((kept tx).map (·.rseq)).count r = (buffered tx).count r := by
  rw [kept_rseqs, ← List.count_append]
  exact (append_filter_notMem_perm (toAbandon_sublist tx) hn).count_eq r

theorem due_le {e : ReliableProvisional}
    (he : e ∈ tx.reliableProvisionals) :
    (soonest tx.reliableProvisionals).getD 0 = dueIn tx ∧ dueIn tx ≤ e.nextFireAfter := by
  cases hd : soonest tx.reliableProvisionals with
  | none => simp [soonest_eq_none.mp hd] at he
  | some d => exact ⟨by simp [dueIn, hd],by simpa [dueIn, hd] using (soonest_eq_some.mp hd).2 e he⟩

theorem kept_scheduled {l : Ledger}
    (hs : ∀ e ∈ tx.reliableProvisionals, Scheduled l tx.timers.t1 e) :
    ∀ e ∈ kept tx, Scheduled (record l tx .tick) tx.timers.t1 e := by
  intro x hx
  obtain ⟨hm,hna⟩ := List.mem_filter.mp hx
  obtain ⟨e,he,rfl⟩ := List.mem_map.mp hm
  obtain ⟨hwire,habandon,born,hborn,hclock⟩ := hs e he
  obtain ⟨hdue,hle⟩ := due_le he
  refine ⟨by simpa using hwire,by simpa using habandon,born,by simpa [record] using hborn,?_⟩
  rw [record, hdue]
  -- an abandoned entry has lost its schedule, but it is not kept
  refine (fireEntry_clock _ _ e hle hclock).resolve_right fun hab => ?_
  have hin : e.rseq ∈ toAbandon tx := List.mem_map_of_mem (List.mem_filter.mpr ⟨he,by simp [hab]⟩)
  simp [hin] at hna

theorem Accounts.nodup {s : InviteServerTransaction × Ledger} {log : List Action}
    (h : Accounts s log) : (buffered s.1).Nodup := by
  rw [List.nodup_iff_count_le_one]
  intro r
  have hf := h.fates r
  have h1 : s.2.rseqs.count r ≤ 1 := by
    rw [h.rseqs]
    exact List.nodup_iff_count_le_one.mp List.nodup_range' r
  unfold InviteServerLedger.fates at hf
  omega

theorem Scheduled.mono {l l' : Ledger} {t1 : ℕ} {e : ReliableProvisional}
    (h : Scheduled l t1 e) (hc : l'.clock = l.clock) (hs : l.stamped ⊆ l'.stamped) :
    Scheduled l' t1 e := by
  obtain ⟨hw,ha,born,hb,hclock⟩ := h
  exact ⟨hw,ha,born,hs hb,by rw [hc, hclock]⟩

section Step

variable {tx tx' : InviteServerTransaction} {l : Ledger} {log out : List Action}

theorem drained_accounts (hi : Accounts (tx,l) log) (h : Drained tx tx' out) :
    Accounts (tx',record l tx .drain) (log++out) where
  counter := h.nextRseq ▸ hi.counter
  rseqs := by
    rw [h.nextRseq]
    exact hi.rseqs
  fates r := by
    have hf := hi.fates r
    simp only [InviteServerLedger.fates, buffered, h.buffer, h.abandoned, record, abandoned_append,
      List.append_nil, List.count_append, List.map_nil, List.count_nil] at hf ⊢
    change _ = l.rseqs.count r
    omega
  scheduled := by simp [h.buffer]

theorem stamped_accounts {response : SipResponse} {bytes : Bytes} (hi : Accounts (tx,l) log)
    (h : Stamped tx response bytes tx' out) :
    Accounts (tx',record l tx (.stamp response)) (log++out) where
  counter := by simp [h.nextRseq]
  rseqs := by
    have hc : 1 ≤ tx.nextRseq := hi.counter
    obtain ⟨n,hn⟩ : ∃ n, tx.nextRseq = n+1 := ⟨tx.nextRseq-1,by omega⟩
    have hr := hi.rseqs
    simp only [record, Ledger.rseqs, List.map_append, h.nextRseq, hn] at hr ⊢
    rw [hr]
    simp [List.range'_concat, Nat.add_comm]
  fates r := by
    have hf := hi.fates r
    simp only [InviteServerLedger.fates, buffered, h.buffer, h.abandoned, record, abandoned_append,
      List.append_nil, List.count_append, List.map_append, List.map_cons, List.map_nil,
      stampedEntry, Ledger.rseqs] at hf ⊢
    omega
  scheduled e he := by
    rw [h.buffer] at he
    rw [h.timers]
    rcases List.mem_append.mp he with he | he
    · exact (hi.scheduled e he).mono rfl (by simp [record])
    · rw [List.mem_singleton.mp he]
      exact ⟨⟨response,h.bytes⟩,by simp [stampedEntry, Nat.mul_comm],l.clock,
        by simp [record, stampedEntry],by simp [record, stampedEntry]⟩

theorem pracked_accounts {r : ℕ} (hi : Accounts (tx,l) log) (h : Pracked tx r tx' out) :
    Accounts (tx',record l tx (.prack r)) (log++out) where
  counter := by simpa [h.next] using hi.counter
  rseqs := by
    rw [h.next]
    exact hi.rseqs
  fates x := by
    have hb : buffered tx' = (buffered tx).filter (fun y => !(y == r)) := by
      simp [h.next, buffered, List.filter_map, Function.comp_def, bne]
    have hf := hi.fates x
    have hp := (List.filter_append_perm (· == r) (buffered tx)).count_eq x
    simp only [InviteServerLedger.fates, hb, h.abandoned, record, abandoned_append, List.append_nil,
      List.count_append] at hf hp ⊢
    change _ = l.rseqs.count x
    omega
  scheduled e he := by
    rw [h.next] at he ⊢
    exact (hi.scheduled e (List.mem_filter.mp he).1).mono rfl (List.Subset.refl _)

theorem ticked_accounts (hi : Accounts (tx,l) log) :
    Accounts ((fireTimerN tx).1,record l tx .tick) (log++(fireTimerN tx).2) := by
  by_cases hb : tx.reliableProvisionals = []
  · have hf : fireTimerN tx = (tx,[]) := by simp [fireTimerN, hb]
    have hr : record l tx .tick = l := by simp [record, hb, soonest]
    rw [hf, hr, List.append_nil]
    exact hi
  · have hnext : (fireTimerN tx).1 = { tx with reliableProvisionals := kept tx } := by
      rw [fireTimerN_eq tx hb]
    constructor
    · rw [hnext]
      exact hi.counter
    · rw [hnext]
      exact hi.rseqs
    · intro r
      have hf := hi.fates r
      have hp := toAbandon_kept_count hi.nodup r
      simp only [fates, buffered, hnext, fireTimerN_abandoned hb, record, abandoned_append,
        List.count_append] at hf hp ⊢
      change _ = l.rseqs.count r
      omega
    · rw [hnext]
      exact kept_scheduled hi.scheduled

theorem quiet_accounts {c : Call} (hi : Accounts (tx,l) log) (h : Quiet tx c tx' out) :
    Accounts (tx',l) (log++out) where
  counter := h.nextRseq ▸ hi.counter
  rseqs := by
    rw [h.nextRseq]
    exact hi.rseqs
  fates r := by simpa [InviteServerLedger.fates, buffered, h.buffer, h.abandoned] using hi.fates r
  scheduled := by
    rw [h.buffer, h.timers]
    exact hi.scheduled

end Step

theorem step_accounts (s : InviteServerTransaction × Ledger) (log : List Action) (c : Call)
    (t : InviteServerTransaction × Ledger) (out : List Action) (hi : Accounts s log)
    (hs : ledgerStep s c = some (t,out)) : Accounts t (log++out) := by
  obtain ⟨⟨tx',o⟩,hst,heq⟩ := Option.map_eq_some_iff.mp hs
  cases heq
  cases step_effect hst with
  | drained hk h =>
    rw [hk]
    exact drained_accounts hi h
  | stamped response bytes hk _ h =>
    rw [hk]
    exact stamped_accounts hi h
  | pracked r hk h =>
    rw [hk]
    exact pracked_accounts hi h
  | ticked hk _ h =>
    cases (show tx' = (fireTimerN s.1).1 by rw [← h])
    cases (show o = (fireTimerN s.1).2 by rw [← h])
    rw [hk]
    exact ticked_accounts hi
  | quiet hk h =>
    rw [hk]
    exact quiet_accounts hi h

theorem new_accounts {request : SipRequest} {reliable : Bool}
    {out : List Action} (hnew : new request reliable = some (tx,out)) :
    Accounts (tx,Ledger.empty) out := by
  obtain ⟨_,id,_,hp⟩ := new_eq_some hnew
  cases hp
  exact ⟨le_rfl,rfl,fun r => rfl,by simp⟩

/-- In every run the RSeq values are stamped 1, 2, 3 and so on, and each of
them has exactly one fate: acknowledged by its PRACK, abandoned with one
`PrackTimeout`, dropped by a final response, or still buffered. The next
firing of Timer N sends only entries that have been on their schedule for
less than 64*T1. -/
theorem provisional_has_one_fate (request : SipRequest) (reliable : Bool)
    (tx tx' : InviteServerTransaction) (out log : List Action) (calls : List Call) (l : Ledger)
    (hnew : new request reliable = some (tx,out))
    (hr : run ledgerStep (tx,Ledger.empty) calls = some ((tx',l),log)) :
    l.rseqs = List.range' 1 (tx'.nextRseq-1) ∧
      (∀ r, fates l (out++log) tx' r = if r ∈ l.rseqs then 1 else 0) ∧
      (buffered tx').Nodup ∧
      ∃ again : List ReliableProvisional, again.Sublist tx'.reliableProvisionals ∧
        sends (handleTimeout tx' .N).2 = again.map (·.bytes) ∧
        ∀ e ∈ again, (∃ response, stampReliableHeaders response e.rseq = some e.bytes) ∧
          ∃ born, (e.rseq,born) ∈ l.stamped ∧ l.clock+dueIn tx' < born+64*tx'.timers.t1 := by
  have h := run_history step_accounts (new_accounts hnew) hr
  have hN : handleTimeout tx' .N = fireTimerN tx' := by simp only [handleTimeout]
  refine ⟨h.rseqs,fun r => ?_,h.nodup,resent tx',List.filter_sublist,?_,fun e he => ?_⟩
  · have hn : l.rseqs.Nodup := by
      rw [show l.rseqs = _ from h.rseqs]
      exact List.nodup_range'
    exact (h.fates r).trans hn.count
  · rw [hN, fireTimerN_sends]
  · obtain ⟨hm,hres⟩ := List.mem_filter.mp he
    obtain ⟨hwire,habandon,born,hborn,hclock⟩ := h.scheduled e hm
    refine ⟨hwire,born,hborn,?_⟩
    have hlt := fireEntry_retransmitted _ _ e (due_le hm).2 hclock (by simpa using hres)
    rwa [habandon] at hlt

theorem provisional_has_one_fate_after_prack :
    run ledgerStep (pendingTx [],Ledger.empty)
        [.sendProvisionalReliable (createResponse .invite testBranch 183),
          .sendProvisionalReliable (createResponse .invite testBranch 183),.handleTimeout .N,
          .handleEvent (.prackReceived 1)] =
      some (({ pendingTx [pendingEntry 2 1000 1000 500] with nextRseq := 3 },
          { clock := 500, stamped := [(1,0),(2,0)], acknowledged := [1], dropped := [] }),
        [.send (pendingEntry 1 500 500 0).bytes,.setTimer .N 500,
          .send (pendingEntry 2 500 500 0).bytes,.send (pendingEntry 1 500 500 0).bytes,
          .send (pendingEntry 2 500 500 0).bytes,.setTimer .N 1000,.cancelTimer .N,
          .setTimer .N 1000]) ∧
      (buffered { pendingTx [pendingEntry 2 1000 1000 500] with nextRseq := 3 }).Nodup := by
  refine (and_iff_left_of_imp fun hr => ?_).mpr (by decide +kernel)
  exact (provisional_has_one_fate (createRequest .invite testBranch) false (pendingTx []) _
    [.event (.request (createRequest .invite testBranch))] _ _ _ new_pendingTx hr).2.2.1

end RsipRtp.InviteServerLedger
