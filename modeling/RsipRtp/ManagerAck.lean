import RsipRtp.ManagerMoves

/-!
# The ACK for a non-2xx response

The identifier of an ACK has the method ACK, and that of the INVITE server
transaction which waits for it has the method INVITE.
-/

namespace RsipRtp.ManagerAck
open SipText SipMessage TransactionTimer OutputMachine RoutingTable Manager ManagerMoves
open InviteServer (InviteServerTransaction)

def AckDelivered (h : Handle) (reliable : Bool) (m' : TransactionManager)
    (out : List ManagerAction) : Prop :=
  (∃ tx, m'.inviteServers.lookup h = some tx ∧ tx.state ≠ .completed) ∧
    .event h .ackReceived ∈ out ∧ .cancelTimer h .H ∈ out ∧
    (reliable = false → .cancelTimer h .G ∈ out)

theorem new_typed (reliable : Bool) : Typed Sound (view (new reliable)) := by
  constructor
  · intro i n k h
    cases h
  · intro i n h
    cases h

theorem run_typed {reliable : Bool} {calls : List Call} {m : TransactionManager}
    {log : List ManagerAction} (hr : run step (new reliable) calls = some (m,log)) :
    Typed Sound (view m) := by
  refine run_invariant (P := fun m => Typed Sound (view m)) ?_ (new_typed reliable) hr
  intro s c t out ht hs
  obtain ⟨rfl,-⟩ := total_eq_some.mp hs
  exact (apply_moves s c).typed (fun _ _ _ ha => ha.1) ht

/-- Whatever is called, an identifier leads to an INVITE server transaction
only if its method is INVITE, and never to another server transaction if it is
ACK. -/
theorem server_methods_fit (reliable : Bool) (calls : List Call) :
    Always step (fun m => Typed Sound (view m)) (new reliable) calls :=
  fun _ _ _ _ _ hr => run_typed hr

theorem matchRequest_ack {m : TransactionManager} {ack : SipRequest} (ht : Typed Sound (view m))
    (hm : ack.method = .ack) :
    (matchRequest m ack).1.inviteServers = m.inviteServers ∧ (matchRequest m ack).2 = [] := by
  unfold matchRequest
  split
  · rename_i h hh
    obtain ⟨id,hid,hl⟩ := Option.bind_eq_some_iff.mp hh
    have hack : id.method = .ack := (TransactionId.fromRequest_method hid).trans hm
    split
    · rename_i hk
      have hs : id.method = .invite := ht.fits id h .inviteServer hl hk
      simp [hack] at hs
    · rename_i hk
      exact absurd hack (ht.fits id h .nonInviteServer hl hk)
    · exact ⟨rfl,rfl⟩
  · simp only [createServerTransaction, hm]
    exact ⟨rfl,rfl⟩

/-- In every reachable state, an ACK leaves an INVITE server transaction that
waits for it in Completed, whatever the ACK's branch is. No action comes of it. -/
theorem ack_never_delivered (reliable : Bool) (calls : List Call) (m : TransactionManager)
    (log : List ManagerAction) (h : Handle) (tx : InviteServerTransaction) (order : List Handle)
    (ack : SipRequest) (hr : run step (new reliable) calls = some (m,log))
    (htx : m.inviteServers.lookup h = some tx) (hc : tx.state = .completed)
    (hm : ack.method = .ack) :
    ¬AckDelivered h m.reliable (handleMessage m order (.request ack)).1
      (handleMessage m order (.request ack)).2 ∧
      (handleMessage m order (.request ack)).1.inviteServers.lookup h = some tx ∧
      (handleMessage m order (.request ack)).2 = [] := by
  have hp : ack.method ≠ .prack := by simp [hm]
  obtain ⟨hs,ho⟩ := matchRequest_ack (run_typed hr) hm
  simp only [handleMessage, handleRequest, if_neg hp, hs, ho]
  refine ⟨fun hd => ?_,htx,trivial⟩
  obtain ⟨tx',htx',hne⟩ := hd.1
  rw [hs, htx] at htx'
  cases htx'
  exact hne hc

def busyManager : TransactionManager :=
  (apply (apply (new false) (.handleMessage [] (.request (createRequest .invite testBranch)))).1
    (.sendResponse 1 (createResponse .invite testBranch 486))).1

def busyCalls : List Call :=
  [.handleMessage [] (.request (createRequest .invite testBranch)),
    .sendResponse 1 (createResponse .invite testBranch 486)]

def busyServer : InviteServerTransaction :=
  { (InviteServer.start (createRequest .invite testBranch) false ⟨testBranch,.invite⟩).1 with
    state := .completed, finalSent := .nonTwoXx
    lastResponse := some (createResponse .invite testBranch 486).toBytes }

theorem busyManager_server : busyManager.inviteServers.lookup 1 = some busyServer := by
  decide +kernel

theorem ack_never_delivered_after_busy :
    busyManager.inviteServers.lookup 1 = some busyServer ∧
      ¬AckDelivered 1 false
        (handleMessage busyManager [] (.request (createRequest .ack testBranch))).1
        (handleMessage busyManager [] (.request (createRequest .ack testBranch))).2 :=
  ⟨busyManager_server,(ack_never_delivered false busyCalls busyManager _ 1 busyServer []
    (createRequest .ack testBranch) rfl busyManager_server rfl rfl).1⟩

/-- The ACK that answers the 486, with the branch of the INVITE, is lost. -/
theorem ack_for_busy_lost :
    ¬∀ (reliable : Bool) (calls : List Call) (m : TransactionManager) (log : List ManagerAction)
        (h : Handle) (tx : InviteServerTransaction) (order : List Handle) (ack : SipRequest),
        run step (new reliable) calls = some (m,log) → m.inviteServers.lookup h = some tx →
        tx.state = .completed → ack.method = .ack → ok ack.viaBranch = ok tx.request.viaBranch →
        AckDelivered h m.reliable (handleMessage m order (.request ack)).1
          (handleMessage m order (.request ack)).2 := by
  intro h
  have hd := h false busyCalls busyManager _ 1 busyServer [] (createRequest .ack testBranch) rfl
    busyManager_server rfl rfl (by decide +kernel)
  have ho : (handleMessage busyManager [] (.request (createRequest .ack testBranch))).2 = [] := by
    decide +kernel
  have he := hd.2.1
  rw [ho] at he
  cases he

end RsipRtp.ManagerAck
