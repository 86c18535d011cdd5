import RsipRtp.ManagerMoves

/-!
# Routability of every stored transaction

All transactions are found by their identifiers as long as each client
transaction brings a new one.
-/

namespace RsipRtp.ManagerRouting
open SipMessage OutputMachine RoutingTable Manager ManagerMoves

theorem new_routed (reliable : Bool) : Routed (view (new reliable)) := by
  constructor
  · intro k n i ended h
    cases k <;> cases h
  · intro i n h
    cases h
  · intro k n p h
    cases k <;> cases h

theorem step_routed (m : TransactionManager) (c : Call) (m' : TransactionManager)
    (out : List ManagerAction) (hr : Routed (view m)) (hf : FreshId m c)
    (hs : step m c = some (m',out)) : Routed (view m') := by
  obtain ⟨rfl,-⟩ := total_eq_some.mp hs
  exact (apply_moves m c).routed (fun _ _ _ ha => ha.2 hf) hr

/-- Every transaction that is not terminated is found by its identifier and
its handle, and no identifier leads to a handle without a transaction. -/
def Routable (m : TransactionManager) : Prop :=
  (∀ k h id, stored m k h = some (id,false) →
    m.idToHandle.lookup id = some h ∧ m.handleToType.lookup h = some k) ∧
  ∀ id h, m.idToHandle.lookup id = some h → ∃ k p, stored m k h = some p

/-- In every run in which a client transaction is created only for an
identifier that is not in the map, all transactions stay routable. -/
theorem transactions_routable (reliable : Bool) (calls : List Call) (m : TransactionManager)
    (log : List ManagerAction) (hg : Guarded step FreshId (new reliable) calls)
    (hr : run step (new reliable) calls = some (m,log)) : Routable m := by
  have h := run_guarded_invariant (P := fun m => Routed (view m)) step_routed
    (new_routed reliable) hg hr
  refine ⟨fun k n id hs => h.item k n id false hs,fun id n hi => ?_⟩
  obtain ⟨k,ended,hs⟩ := h.target id n hi
  exact ⟨k,_,hs⟩

theorem transactions_routable_options :
    ∃ m log, run step (new true) [.createClientTransaction (createRequest .options testBranch),
        .handleMessage [] (.request (createRequest .invite testBranch)),.cleanupTerminated] =
          some (m,log) ∧ Routable m := by
  obtain ⟨m,log,hr⟩ := run_total apply (new true)
    [.createClientTransaction (createRequest .options testBranch),
      .handleMessage [] (.request (createRequest .invite testBranch)),.cleanupTerminated]
  refine ⟨m,log,hr,transactions_routable true _ m log ?_ hr⟩
  exact guarded_cons (fun _ _ => rfl) rfl (guarded_of_forall _ (by simp [FreshId]))

/-- Two client transactions with one branch: the first is still in Trying, and
its identifier leads to the second. -/
theorem second_client_takes_route :
    ¬∀ (reliable : Bool) (calls : List Call) (m : TransactionManager) (log : List ManagerAction),
        run step (new reliable) calls = some (m,log) → Routable m := by
  intro h
  let create := Call.createClientTransaction (createRequest .options testBranch)
  let m := (apply (apply (new false) create).1 create).1
  have hm : Routable m := h false [create,create] m _ rfl
  have hs : stored m .nonInviteClient 1 = some (⟨testBranch,.options⟩,false) := by decide +kernel
  have hi : m.idToHandle.lookup ⟨testBranch,.options⟩ = some 2 := by decide +kernel
  have h1 := (hm.1 _ _ _ hs).1
  rw [hi] at h1
  cases h1

/-- Whatever is called, with whatever identifiers, a handle that was given out
never comes to name another transaction. -/
theorem handles_persist (reliable : Bool) (calls : List Call) :
    Along step (fun m m' => Persists (view m) (view m')) (new reliable) calls := by
  refine (along_iff (R := fun m m' => Persists (view m) (view m')) (fun m => .refl (view m))
    (fun _ _ _ h h' => h.trans h') (new reliable) calls).mpr ?_
  refine guarded_of_forall _ fun c _ m m' out hs => ?_
  obtain ⟨rfl,-⟩ := total_eq_some.mp hs
  exact (apply_moves m c).persists

end RsipRtp.ManagerRouting
