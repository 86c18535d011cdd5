import RsipRtp.Manager
import RsipRtp.RoutingTable

/-!
# The transaction manager as a routing table

The manager refines the routing table: every call is a sequence of the table's
moves. A server transaction is made only for an identifier that is not in the
map.
-/

namespace RsipRtp.ManagerMoves
open SipMessage TransactionTimer FiniteMap RoutingTable Manager
open InviteClient (InviteClientTransaction)
open NonInviteClient (NonInviteClientTransaction)
open InviteServer (InviteServerTransaction)
open NonInviteServer (NonInviteServerTransaction)

/-- The identifier of the transaction that a map holds under a handle, and
whether the transaction is terminated. -/
def stored (m : TransactionManager) : TransactionType → Handle → Option (TransactionId × Bool)
  | .inviteClient, h =>
    (m.inviteClients.lookup h).map (fun tx => (tx.id,InviteClient.isTerminated tx))
  | .nonInviteClient, h =>
    (m.nonInviteClients.lookup h).map (fun tx => (tx.id,NonInviteClient.isTerminated tx))
  | .inviteServer, h =>
    (m.inviteServers.lookup h).map (fun tx => (tx.id,InviteServer.isTerminated tx))
  | .nonInviteServer, h =>
    (m.nonInviteServers.lookup h).map (fun tx => (tx.id,NonInviteServer.isTerminated tx))

def view (m : TransactionManager) : Table TransactionType TransactionId where
  stored := stored m
  route := m.idToHandle.lookup
  kind := m.handleToType.lookup
  next := m.nextHandle

section Touch

variable {m : TransactionManager} {h : Handle}

theorem modifyAt_ids {T ε : Type} (txs : Map Handle T) (idOf : T → TransactionId) (dead : T → Bool)
    (f : T → T × List ε) (hf : ∀ tx, idOf (f tx).1 = idOf tx) (n : Handle) :
    (((modifyAt txs h f).1.lookup n).map (fun tx => (idOf tx,dead tx))).map Prod.fst =
      ((txs.lookup n).map (fun tx => (idOf tx,dead tx))).map Prod.fst := by
  rw [lookup_modifyAt]
  split_ifs with hn
  · subst hn
    cases txs.lookup n <;> simp [hf]
  · rfl

theorem onInviteClient_touched
    {f : InviteClientTransaction → InviteClientTransaction × List InviteClient.Action}
    (hf : ∀ tx, (f tx).1.id = tx.id) : Touched (view m) (view (onInviteClient m h f).1) := by
  refine ⟨fun k n => ?_,rfl,rfl,rfl⟩
  cases k with
  | inviteClient => exact modifyAt_ids m.inviteClients _ _ f hf n
  | _ => rfl

theorem onNonInviteClient_touched
    {f : NonInviteClientTransaction → NonInviteClientTransaction × List NonInviteClient.Action}
    (hf : ∀ tx, (f tx).1.id = tx.id) : Touched (view m) (view (onNonInviteClient m h f).1) := by
  refine ⟨fun k n => ?_,rfl,rfl,rfl⟩
  cases k with
  | nonInviteClient => exact modifyAt_ids m.nonInviteClients _ _ f hf n
  | _ => rfl

theorem onInviteServer_touched
    {f : InviteServerTransaction → InviteServerTransaction × List InviteServer.Action}
    (hf : ∀ tx, (f tx).1.id = tx.id) : Touched (view m) (view (onInviteServer m h f).1) := by
  refine ⟨fun k n => ?_,rfl,rfl,rfl⟩
  cases k with
  | inviteServer => exact modifyAt_ids m.inviteServers _ _ f hf n
  | _ => rfl

theorem onNonInviteServer_touched
    {f : NonInviteServerTransaction → NonInviteServerTransaction × List NonInviteServer.Action}
    (hf : ∀ tx, (f tx).1.id = tx.id) : Touched (view m) (view (onNonInviteServer m h f).1) := by
  refine ⟨fun k n => ?_,rfl,rfl,rfl⟩
  cases k with
  | nonInviteServer => exact modifyAt_ids m.nonInviteServers _ _ f hf n
  | _ => rfl

end Touch

section Sweep

variable {T : Type} (txs : Map Handle T) (idOf : T → TransactionId) (dead : T → Bool)

/-- One loop of `cleanup_terminated`, over the map that holds type `k`. -/
theorem swept_of_cleanup {m m' : TransactionManager} {k : TransactionType}
    (hold : ∀ h, stored m k h = (txs.lookup h).map (fun tx => (idOf tx,dead tx)))
    (hnew : ∀ h, stored m' k h = ((eraseAll txs ((select txs dead).map Prod.fst)).lookup h).map
      (fun tx => (idOf tx,dead tx)))
    (hother : ∀ k' h, k' ≠ k → stored m' k' h = stored m k' h)
    (hid : m'.idToHandle = eraseAll m.idToHandle ((select txs dead).map (fun e => idOf e.2)))
    (htype : m'.handleToType = eraseAll m.handleToType ((select txs dead).map Prod.fst))
    (hnext : m'.nextHandle = m.nextHandle) : Swept k (view m) (view m') := by
  have hended {i : TransactionId} {n : Handle} : stored m k n = some (i,true) ↔
      ∃ tx, txs.lookup n = some tx ∧ dead tx = true ∧ idOf tx = i := by
    rw [hold]
    cases txs.lookup n <;> simp [and_comm]
  have hids {i : TransactionId} : i ∈ (select txs dead).map (fun e => idOf e.2) ↔
      ∃ n, stored m k n = some (i,true) := by
    simp only [hended, List.mem_map, Prod.exists, mem_select]
    grind
  have hkeys {n : Handle} : n ∈ (select txs dead).map Prod.fst ↔
      ∃ i, stored m k n = some (i,true) := by
    simp only [hended, mem_select_keys]
    grind
  constructor
  · intro k' n
    by_cases hk : k' = k
    · subst hk
      simp only [view, if_true, hnew, hold, lookup_eraseAll_select]
      cases txs.lookup n with
      | none => rfl
      | some tx => cases h : dead tx <;> simp [Option.filter, h]
    · simp only [view, if_neg hk, hother k' n hk]
  · intro i hi
    simp only [view, hid, lookup_eraseAll, if_pos (hids.mpr hi)]
  · intro i hi
    simp only [view, hid, lookup_eraseAll, if_neg (fun h => hi (hids.mp h))]
  · intro n hn
    simp only [view, htype, lookup_eraseAll, if_pos (hkeys.mpr hn)]
  · intro n hn
    simp only [view, htype, lookup_eraseAll, if_neg (fun h => hn (hkeys.mp h))]
  · exact hnext

end Sweep

theorem cleanupTerminated_moves (A : Table TransactionType TransactionId → TransactionType →
    TransactionId → Prop) (m : TransactionManager) :
    Moves A (view m) (view (cleanupTerminated m)) := by
  have h₁ (m : TransactionManager) : Swept .inviteClient (view m) (view (cleanupInviteClients m)) :=
    swept_of_cleanup m.inviteClients (·.id) InviteClient.isTerminated (fun _ => rfl) (fun _ => rfl)
      (fun k' _ hk => by cases k' <;> first | rfl | exact absurd rfl hk) rfl rfl rfl
  have h₂ (m : TransactionManager) :
      Swept .nonInviteClient (view m) (view (cleanupNonInviteClients m)) :=
    swept_of_cleanup m.nonInviteClients (·.id) NonInviteClient.isTerminated (fun _ => rfl)
      (fun _ => rfl) (fun k' _ hk => by cases k' <;> first | rfl | exact absurd rfl hk) rfl rfl rfl
  have h₃ (m : TransactionManager) : Swept .inviteServer (view m) (view (cleanupInviteServers m)) :=
    swept_of_cleanup m.inviteServers (·.id) InviteServer.isTerminated (fun _ => rfl) (fun _ => rfl)
      (fun k' _ hk => by cases k' <;> first | rfl | exact absurd rfl hk) rfl rfl rfl
  have h₄ (m : TransactionManager) :
      Swept .nonInviteServer (view m) (view (cleanupNonInviteServers m)) :=
    swept_of_cleanup m.nonInviteServers (·.id) NonInviteServer.isTerminated (fun _ => rfl)
      (fun _ => rfl) (fun k' _ hk => by cases k' <;> first | rfl | exact absurd rfl hk) rfl rfl rfl
  exact (((Relation.ReflTransGen.single (.sweep _ (h₁ m))).tail (.sweep _ (h₂ _))).tail
    (.sweep _ (h₃ _))).tail (.sweep _ (h₄ _))

section Admit

variable (m : TransactionManager)

/-- A transaction of type `k` enters its map under the next handle. -/
theorem admitted_of_insert {T : Type} (m' : TransactionManager) (txs : Map Handle T)
    (idOf : T → TransactionId) (dead : T → Bool) (tx : T) {k : TransactionType}
    (hold : ∀ h, stored m k h = (txs.lookup h).map (fun tx => (idOf tx,dead tx)))
    (hnew : ∀ h, stored m' k h =
      ((txs.insert m.nextHandle tx).lookup h).map (fun tx => (idOf tx,dead tx)))
    (hother : ∀ k' h, k' ≠ k → stored m' k' h = stored m k' h)
    (hid : m'.idToHandle = m.idToHandle.insert (idOf tx) m.nextHandle)
    (htype : m'.handleToType = m.handleToType.insert m.nextHandle k)
    (hnext : m'.nextHandle = m.nextHandle+1) : Admitted k (idOf tx) (view m) (view m') := by
  refine ⟨⟨dead tx,fun k' n => ?_⟩,?_,?_,hnext⟩
  · by_cases hk : k' = k
    · subst hk
      simp only [view, hnew, hold, lookup_insert_eq, true_and]
      split_ifs <;> rfl
    · simp only [view, hk, false_and, if_false, hother k' n hk]
  · funext i
    simp only [view, hid, lookup_insert_eq, Function.update_apply]
  · funext n
    simp only [view, htype, lookup_insert_eq, Function.update_apply]

theorem insertInviteClient_admitted (p : InviteClientTransaction × List InviteClient.Action) :
    Admitted .inviteClient p.1.id (view m)
      (view (insertInviteClient (allocHandle m).2 m.nextHandle p).1) :=
  admitted_of_insert m (insertInviteClient (allocHandle m).2 m.nextHandle p).1 m.inviteClients
    (·.id) InviteClient.isTerminated p.1 (fun _ => rfl) (fun _ => rfl)
    (fun k' _ hk => by cases k' <;> first | rfl | exact absurd rfl hk) rfl rfl rfl

theorem insertNonInviteClient_admitted
    (p : NonInviteClientTransaction × List NonInviteClient.Action) :
    Admitted .nonInviteClient p.1.id (view m)
      (view (insertNonInviteClient (allocHandle m).2 m.nextHandle p).1) :=
  admitted_of_insert m (insertNonInviteClient (allocHandle m).2 m.nextHandle p).1
    m.nonInviteClients (·.id) NonInviteClient.isTerminated p.1 (fun _ => rfl) (fun _ => rfl)
    (fun k' _ hk => by cases k' <;> first | rfl | exact absurd rfl hk) rfl rfl rfl

theorem insertInviteServer_admitted (p : InviteServerTransaction × List InviteServer.Action) :
    Admitted .inviteServer p.1.id (view m)
      (view (insertInviteServer (allocHandle m).2 m.nextHandle p).1) :=
  admitted_of_insert m (insertInviteServer (allocHandle m).2 m.nextHandle p).1 m.inviteServers
    (·.id) InviteServer.isTerminated p.1 (fun _ => rfl) (fun _ => rfl)
    (fun k' _ hk => by cases k' <;> first | rfl | exact absurd rfl hk) rfl rfl rfl

theorem insertNonInviteServer_admitted
    (p : NonInviteServerTransaction × List NonInviteServer.Action) :
    Admitted .nonInviteServer p.1.id (view m)
      (view (insertNonInviteServer (allocHandle m).2 m.nextHandle p).1) :=
  admitted_of_insert m (insertNonInviteServer (allocHandle m).2 m.nextHandle p).1
    m.nonInviteServers (·.id) NonInviteServer.isTerminated p.1 (fun _ => rfl) (fun _ => rfl)
    (fun k' _ hk => by cases k' <;> first | rfl | exact absurd rfl hk) rfl rfl rfl

end Admit

def Sound : TransactionType → TransactionId → Prop
  | .inviteServer, id => id.method = .invite
  | .nonInviteServer, id => id.method ≠ .ack
  | _, _ => True

def FreshId (m : TransactionManager) : Call → Prop
  | .createClientTransaction request =>
    ∀ id, TransactionId.fromRequest request = some id → m.idToHandle.lookup id = none
  | _ => True

def Admission (fresh : Prop) (t : Table TransactionType TransactionId) (k : TransactionType)
    (id : TransactionId) : Prop := Sound k id ∧ (fresh → t.route id = none)

theorem createClientTransaction_moves (m : TransactionManager) (request : SipRequest) :
    Moves (Admission (FreshId m (.createClientTransaction request))) (view m)
      (view (createClientTransaction m request).1.1) := by
  refine Relation.ReflTransGen.single ?_
  simp only [createClientTransaction]
  split_ifs
  · cases h : InviteClient.new request (allocHandle m).2.reliable with
    | none => exact .skip rfl
    | some p =>
      obtain ⟨_,id,hid,rfl⟩ := InviteClient.new_eq_some h
      exact .enter .inviteClient id ⟨trivial,fun hf => hf id hid⟩
        (insertInviteClient_admitted m (InviteClient.start request (allocHandle m).2.reliable id))
  · cases h : NonInviteClient.new request (allocHandle m).2.reliable with
    | none => exact .skip rfl
    | some p =>
      obtain ⟨_,id,hid,rfl⟩ := NonInviteClient.new_eq_some h
      exact .enter .nonInviteClient id ⟨trivial,fun hf => hf id hid⟩
        (insertNonInviteClient_admitted m
          (NonInviteClient.start request (allocHandle m).2.reliable id))

theorem createServerTransaction_moves (fresh : Prop) (m : TransactionManager) (request : SipRequest)
    (hfree : ∀ id, TransactionId.fromRequest request = some id → m.idToHandle.lookup id = none) :
    Moves (Admission fresh) (view m) (view (createServerTransaction m request).1) := by
  refine Relation.ReflTransGen.single ?_
  simp only [createServerTransaction]
  split_ifs with hinvite hack
  · cases h : InviteServer.new request (allocHandle m).2.reliable with
    | none => exact .skip rfl
    | some p =>
      obtain ⟨hm,id,hid,rfl⟩ := InviteServer.new_eq_some h
      have hs : Sound .inviteServer id := (TransactionId.fromRequest_method hid).trans hm
      exact .enter .inviteServer id ⟨hs,fun _ => hfree id hid⟩
        (insertInviteServer_admitted m (InviteServer.start request (allocHandle m).2.reliable id))
  · exact .skip rfl
  · cases h : NonInviteServer.new request (allocHandle m).2.reliable with
    | none => exact .skip rfl
    | some p =>
      obtain ⟨_,id,hid,rfl⟩ := NonInviteServer.new_eq_some h
      have hs : Sound .nonInviteServer id := (TransactionId.fromRequest_method hid).trans_ne hack
      exact .enter .nonInviteServer id ⟨hs,fun _ => hfree id hid⟩
        (insertNonInviteServer_admitted m
          (NonInviteServer.start request (allocHandle m).2.reliable id))

theorem touched_moves {A : Table TransactionType TransactionId → TransactionType →
    TransactionId → Prop} {m m' : TransactionManager} (h : Touched (view m) (view m')) :
    Moves A (view m) (view m') := .single (.touch h)

theorem matchRequest_moves (fresh : Prop) (m : TransactionManager) (request : SipRequest) :
    Moves (Admission fresh) (view m) (view (matchRequest m request).1) := by
  unfold matchRequest
  split
  · split
    · exact touched_moves (onInviteServer_touched fun tx => InviteServer.handleRequest_id tx _)
    · exact touched_moves
        (onNonInviteServer_touched fun tx => NonInviteServer.handleRequest_id tx _)
    · exact .refl
  · rename_i hnone
    refine createServerTransaction_moves fresh m request fun id hid => ?_
    simpa [hid] using hnone

theorem routePrack_moves (fresh : Prop) (m : TransactionManager) (order : List Handle)
    (request : SipRequest) :
    Moves (Admission fresh) (view m) (view (routePrack m order request).1) := by
  unfold routePrack
  split
  · split
    · exact touched_moves (onInviteServer_touched fun tx => InviteServer.handleEvent_id tx _)
    · exact .refl
  · exact .refl

theorem handleRequest_moves (fresh : Prop) (m : TransactionManager) (order : List Handle)
    (request : SipRequest) :
    Moves (Admission fresh) (view m) (view (handleRequest m order request).1) := by
  unfold handleRequest
  split_ifs
  · exact (routePrack_moves fresh m order request).trans (matchRequest_moves fresh _ request)
  · exact matchRequest_moves fresh m request

theorem handleResponse_moves (fresh : Prop) (m : TransactionManager) (response : SipResponse) :
    Moves (Admission fresh) (view m) (view (handleResponse m response).1) := by
  unfold handleResponse
  split
  · split
    · exact touched_moves (onInviteClient_touched fun tx => InviteClient.handleResponse_id tx _)
    · exact touched_moves
        (onNonInviteClient_touched fun tx => NonInviteClient.handleResponse_id tx _)
    · exact .refl
  · exact .refl

/-- Every call of the manager is a sequence of moves of the routing table. -/
theorem apply_moves (m : TransactionManager) (c : Call) :
    Moves (Admission (FreshId m c)) (view m) (view (apply m c).1) := by
  cases c with
  | createClientTransaction request => exact createClientTransaction_moves m request
  | handleMessage order message =>
    cases message with
    | request r => exact handleRequest_moves _ m order r
    | response r => exact handleResponse_moves _ m r
  | handleTimeout h t =>
    simp only [apply, handleTimeout]
    split
    · exact touched_moves (onInviteClient_touched fun tx => InviteClient.handleTimeout_id tx t)
    · exact touched_moves
        (onNonInviteClient_touched fun tx => NonInviteClient.handleTimeout_id tx t)
    · exact touched_moves (onInviteServer_touched fun tx => InviteServer.handleTimeout_id tx t)
    · exact touched_moves
        (onNonInviteServer_touched fun tx => NonInviteServer.handleTimeout_id tx t)
    · exact .refl
  | sendResponse h r =>
    simp only [apply, sendResponse]
    split
    · exact touched_moves (onInviteServer_touched fun tx => InviteServer.sendResponse_id tx r)
    · exact touched_moves (onNonInviteServer_touched fun tx => NonInviteServer.sendResponse_id tx r)
    · exact .refl
  | handleTransportError h =>
    simp only [apply, handleTransportError]
    split
    · exact touched_moves (onInviteClient_touched InviteClient.handleTransportError_id)
    · exact touched_moves (onNonInviteClient_touched NonInviteClient.handleTransportError_id)
    · exact touched_moves (onInviteServer_touched InviteServer.handleTransportError_id)
    · exact touched_moves (onNonInviteServer_touched NonInviteServer.handleTransportError_id)
    · exact .refl
  | cleanupTerminated => exact cleanupTerminated_moves _ m

end RsipRtp.ManagerMoves
