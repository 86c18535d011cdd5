import RsipRtp.DialogTable

/-!
# Finding the dialog of a request

A dialog that knows both tags is found by them once it is confirmed, and the
callee's side already before.
-/

namespace RsipRtp.DialogRouting
open SipText SipMessage OutputMachine FiniteMap DialogTable
open Dialog hiding Call step

def Known (id : DialogId) : Prop := id.localTag ≠ [] ∧ id.remoteTag ≠ []

instance (id : DialogId) : Decidable (Known id) := inferInstanceAs (Decidable (_ ∧ _))

def dialogForResponse (m : DialogManager) (response : SipResponse) : Option InviteDialog := do
  let callId ← ok response.callId
  let fromTag ← ok response.fromTag
  m.dialogs.lookup (← findDialogForResponse m callId fromTag response.toTag)

/-- No early dialog of the caller learns its tags, no dialog takes the
identifier of another one, and no rejected INVITE is cleaned up. -/
def Settled (m : DialogManager) : Call → Prop
  | .handleRequest r localTag => findDialogForRequest m r = none → r.method = .invite →
      ∀ d ∈ InviteDialog.newUas r localTag m.localContact, m.idToHandle.lookup d.info.id = none
  | .handleResponse r => ∀ d ∈ dialogForResponse m r, d.role = .uac → d.state = .early →
      (101 ≤ r.statusCode → r.statusCode < 200 → ∀ t ∈ d.adopt r .early, ¬Known t.info.id) ∧
      (200 ≤ r.statusCode → r.statusCode < 300 → ∀ t ∈ d.adopt r .confirmed, Known t.info.id →
        m.idToHandle.lookup t.info.id = none)
  | .cleanupTerminated => ∀ e ∈ m.pendingUac.entries, ∀ d ∈ m.dialogs.lookup e.2,
      d.state ≠ .terminated
  | _ => True

instance (m : DialogManager) : (c : Call) → Decidable (Settled m c)
  | .handleRequest r localTag => inferInstanceAs (Decidable
      (findDialogForRequest m r = none → r.method = .invite →
        ∀ d ∈ InviteDialog.newUas r localTag m.localContact, m.idToHandle.lookup d.info.id = none))
  | .handleResponse r => inferInstanceAs (Decidable
      (∀ d ∈ dialogForResponse m r, d.role = .uac → d.state = .early →
        (101 ≤ r.statusCode → r.statusCode < 200 → ∀ t ∈ d.adopt r .early, ¬Known t.info.id) ∧
        (200 ≤ r.statusCode → r.statusCode < 300 → ∀ t ∈ d.adopt r .confirmed, Known t.info.id →
          m.idToHandle.lookup t.info.id = none)))
  | .cleanupTerminated => inferInstanceAs (Decidable
      (∀ e ∈ m.pendingUac.entries, ∀ d ∈ m.dialogs.lookup e.2, d.state ≠ .terminated))
  | .createDialog _ | .sendResponse _ _ | .sendBye _ _ | .ackSent _ =>
      inferInstanceAs (Decidable True)

structure Filed (m : DialogManager) : Prop where
  pending : ∀ key h, m.pendingUac.lookup key = some h → ∃ d, m.dialogs.lookup h = some d
  route : ∀ id h, m.idToHandle.lookup id = some h → ∃ d, m.dialogs.lookup h = some d ∧
    d.info.id = id ∧ (d.state = .early → d.role = .uas)
  known : ∀ h d, m.dialogs.lookup h = some d → Known d.info.id →
    m.idToHandle.lookup d.info.id = some h
  bound : ∀ h d, m.dialogs.lookup h = some d → h < m.nextHandle

structure Steady (d d' : InviteDialog) : Prop where
  id : d'.info.id = d.info.id
  role : d'.role = d.role
  early : d'.state = .early → d.state = .early

theorem Steady.refl (d : InviteDialog) : Steady d d := ⟨rfl,rfl,fun h => h⟩

theorem handleRequest_steady (d : InviteDialog) (r : SipRequest) :
    Steady d (d.handleRequest r).1 := by
  unfold InviteDialog.handleRequest
  split
  · exact .refl d
  · split
    · exact ⟨rfl,rfl,nofun⟩
    · split_ifs
      · split
        · rename_i info hinfo
          obtain ⟨-,rfl⟩ := DialogInfo.updateRemoteSeq_spec hinfo
          exact ⟨rfl,rfl,fun h => h⟩
        · exact .refl d
      · exact .refl d
    · split_ifs
      · exact ⟨rfl,rfl,fun h => h⟩
      · exact .refl d
    · split_ifs
      · exact ⟨rfl,rfl,nofun⟩
      · exact .refl d
    · exact .refl d

theorem sendResponse_steady (d : InviteDialog) (r : SipResponse) :
    Steady d (d.sendResponse r).1 := by
  unfold InviteDialog.sendResponse
  dsimp only
  split_ifs
  · exact .refl d
  · exact ⟨rfl,rfl,nofun⟩
  · exact ⟨rfl,rfl,nofun⟩
  · exact .refl d

theorem sendBye_steady (d : InviteDialog) (uuid : Text) : Steady d (d.sendBye uuid).1 := by
  unfold InviteDialog.sendBye
  split_ifs
  · exact .refl d
  · dsimp only
    split <;> exact ⟨rfl,rfl,nofun⟩

inductive Answered (d : InviteDialog) (r : SipResponse) (d' : InviteDialog) : Prop where
  | steady (h : Steady d d') (hc : ¬confirms d d')
  | early (role : d.role = .uac) (state : d.state = .early) (low : 101 ≤ r.statusCode)
      (high : r.statusCode < 200) (h : d.adopt r .early = some d')
  | confirmed (role : d.role = .uac) (state : d.state = .early) (low : 200 ≤ r.statusCode)
      (high : r.statusCode < 300) (new : d'.state = .confirmed)
      (h : d.adopt r .confirmed = some d' ∨ d'.info.id = d.info.id)

theorem handleResponse_answered (d : InviteDialog) (r : SipResponse) :
    Answered d r (d.handleResponse r).1 := by
  have hsame : Answered d r d := .steady (.refl d) (fun h => by
    have hstate := h.1.symm.trans h.2
    cases hstate)
  unfold InviteDialog.handleResponse
  split_ifs with hrole
  · exact hsame
  dsimp only
  split
  · next hearly =>
    have huac := not_not.mp hrole
    split_ifs with hprov hcode _ hok hfail
    · exact hsame
    · cases ha : d.adopt r .early with
      | none => exact hsame
      | some t => exact .early huac hearly (by omega) (by omega) ha
    · cases ha : d.adopt r .early with
      | none => exact hsame
      | some t => exact .early huac hearly (by omega) (by omega) ha
    · cases ha : d.adopt r .confirmed with
      | none => exact .confirmed huac hearly (by omega) (by omega) rfl (.inr rfl)
      | some t =>
        exact .confirmed huac hearly (by omega) (by omega) (InviteDialog.adopt_spec ha).1 (.inl ha)
    · exact .steady ⟨rfl,rfl,nofun⟩ nofun
    · exact hsame
  · exact hsame

section Maps

variable {m : DialogManager} {h : DialogHandle} {d d' : InviteDialog}

theorem Filed.unused (hf : Filed m) (id : DialogId) :
    m.idToHandle.lookup id ≠ some m.nextHandle := by
  intro hid
  obtain ⟨d,hd,-⟩ := hf.route id _ hid
  exact absurd (hf.bound _ d hd) (lt_irrefl _)

theorem Filed.unrouted (hf : Filed m) (hd : m.dialogs.lookup h = some d) (hrole : d.role = .uac)
    (hstate : d.state = .early) (id : DialogId) : m.idToHandle.lookup id ≠ some h := by
  intro hid
  obtain ⟨e,he,-,huas⟩ := hf.route id h hid
  cases hd.symm.trans he
  rw [huas hstate] at hrole
  cases hrole

theorem lookup_inserted {h' : DialogHandle} (he : ∃ e, m.dialogs.lookup h' = some e) :
    ∃ e, (m.dialogs.insert h d').lookup h' = some e := by
  rw [lookup_insert_eq]
  split_ifs
  · exact ⟨d',rfl⟩
  · exact he

theorem bound_inserted (hf : Filed m) {next : ℕ} (hnext : m.nextHandle ≤ next) (hlt : h < next)
    (h' : DialogHandle) (e : InviteDialog)
    (he : (m.dialogs.insert h d').lookup h' = some e) : h' < next := by
  rw [lookup_insert_eq] at he
  split_ifs at he with hh
  · rw [hh]
    exact hlt
  · exact (hf.bound h' e he).trans_le hnext

theorem Filed.replace (hf : Filed m) (hd : m.dialogs.lookup h = some d) (hs : Steady d d') :
    Filed { m with dialogs := m.dialogs.insert h d' } := by
  refine ⟨fun key h' hp => lookup_inserted (hf.pending key h' hp),fun id h' hid => ?_,
    fun h' e he hknown => ?_,bound_inserted hf le_rfl (hf.bound h d hd)⟩
  · obtain ⟨e,he,hide,hearly⟩ := hf.route id h' hid
    by_cases hh : h' = h
    · subst hh
      cases hd.symm.trans he
      refine ⟨d',AList.lookup_insert _,hs.id.trans hide,fun hstate => ?_⟩
      rw [hs.role]
      exact hearly (hs.early hstate)
    · exact ⟨e,(AList.lookup_insert_ne hh).trans he,hide,hearly⟩
  · dsimp only at he
    rw [lookup_insert_eq] at he
    split_ifs at he with hh
    · cases he
      rw [hs.id] at hknown ⊢
      rw [hh]
      exact hf.known h d hd hknown
    · exact hf.known h' e he hknown

theorem Filed.place (hf : Filed m) {routes : Map DialogId DialogHandle} {next : ℕ}
    (hfree : ∀ id, m.idToHandle.lookup id ≠ some h) (hnext : m.nextHandle ≤ next) (hlt : h < next)
    (hroute : ∀ id h', routes.lookup id = some h' → m.idToHandle.lookup id = some h' ∨
      h' = h ∧ d'.info.id = id ∧ (d'.state = .early → d'.role = .uas))
    (hkeep : ∀ id h', Known id → m.idToHandle.lookup id = some h' → routes.lookup id = some h')
    (hself : Known d'.info.id → routes.lookup d'.info.id = some h) :
    Filed { m with
      nextHandle := next, dialogs := m.dialogs.insert h d', idToHandle := routes } := by
  refine ⟨fun key h' hp => lookup_inserted (hf.pending key h' hp),fun id h' hid => ?_,
    fun h' e he hknown => ?_,bound_inserted hf hnext hlt⟩
  · rcases hroute id h' hid with hold | ⟨rfl,hrest⟩
    · obtain ⟨e,he,hrest⟩ := hf.route id h' hold
      have hh : h' ≠ h := by
        rintro rfl
        exact hfree id hold
      exact ⟨e,(AList.lookup_insert_ne hh).trans he,hrest⟩
    · exact ⟨d',AList.lookup_insert _,hrest⟩
  · dsimp only at he
    rw [lookup_insert_eq] at he
    split_ifs at he with hh
    · cases he
      rw [hh]
      exact hself hknown
    · exact hkeep _ h' hknown (hf.known h' e he hknown)

theorem Filed.placeUnknown (hf : Filed m) {next : ℕ}
    (hfree : ∀ id, m.idToHandle.lookup id ≠ some h) (hnext : m.nextHandle ≤ next) (hlt : h < next)
    (hknown : ¬Known d'.info.id) :
    Filed { m with nextHandle := next, dialogs := m.dialogs.insert h d' } :=
  hf.place hfree hnext hlt (fun _ _ hid => .inl hid) (fun _ _ _ hid => hid)
    (fun hk => absurd hk hknown)

theorem Filed.placeRouted (hf : Filed m) {next : ℕ}
    (hfree : ∀ id, m.idToHandle.lookup id ≠ some h) (hnext : m.nextHandle ≤ next) (hlt : h < next)
    (hearly : d'.state = .early → d'.role = .uas)
    (hnew : Known d'.info.id → m.idToHandle.lookup d'.info.id = none) :
    Filed { m with nextHandle := next, dialogs := m.dialogs.insert h d'
                   idToHandle := m.idToHandle.insert d'.info.id h } := by
  refine hf.place hfree hnext hlt (fun id h' hid => ?_) (fun id h' hk hid => ?_)
    (fun _ => AList.lookup_insert _)
  · rw [lookup_insert_eq] at hid
    split_ifs at hid with heq
    · exact .inr ⟨(Option.some.inj hid).symm,heq.symm,hearly⟩
    · exact .inl hid
  · rw [lookup_insert_eq]
    split_ifs with heq
    · rw [heq] at hk hid
      rw [hnew hk] at hid
      cases hid
    · exact hid

theorem Filed.file (hf : Filed m) (hd : m.dialogs.lookup h = some d)
    (hearly : d.state = .early → d.role = .uas) :
    Filed { m with idToHandle := m.idToHandle.insert d.info.id h } := by
  refine ⟨hf.pending,fun id h' hid => ?_,fun h' e he hke => ?_,hf.bound⟩
  · dsimp only at hid
    rw [lookup_insert_eq] at hid
    split_ifs at hid with hid'
    · cases hid
      exact ⟨d,hd,hid'.symm,hearly⟩
    · exact hf.route id h' hid
  · have hold := hf.known h' e he hke
    dsimp only
    rw [lookup_insert_eq]
    split_ifs with hid
    · rw [hid] at hke hold
      exact (hf.known h d hd hke).symm.trans hold
    · exact hold

theorem Filed.pend (hf : Filed m) (key : Text × Text) (hd : m.dialogs.lookup h = some d) :
    Filed { m with pendingUac := m.pendingUac.insert key h } := by
  refine ⟨fun key' h' hp => ?_,hf.route,hf.known,hf.bound⟩
  dsimp only at hp
  rw [lookup_insert_eq] at hp
  split_ifs at hp
  · cases hp
    exact ⟨d,hd⟩
  · exact hf.pending key' h' hp

theorem Filed.unpend (hf : Filed m) (key : Text × Text) :
    Filed { m with pendingUac := m.pendingUac.erase key } := by
  refine ⟨fun key' h' hp => ?_,hf.route,hf.known,hf.bound⟩
  dsimp only at hp
  rw [lookup_erase_eq] at hp
  split_ifs at hp
  exact hf.pending key' h' hp

theorem Filed.skip (hf : Filed m) : Filed { m with nextHandle := m.nextHandle+1 } :=
  ⟨hf.pending,hf.route,hf.known,fun h d hd => Nat.lt_succ_of_lt (hf.bound h d hd)⟩

end Maps

section Steps

variable {m : DialogManager}

theorem createDialog_filed (hf : Filed m) (invite : SipRequest) :
    Filed (createDialog m invite).1 := by
  unfold createDialog
  split_ifs
  · exact hf
  · dsimp only
    split
    · have hunknown : ¬Known (InviteDialog.newUac invite).info.id := fun hk => hk.1 rfl
      exact (hf.placeUnknown hf.unused (Nat.le_succ _) (Nat.lt_succ_self _) hunknown).pend _
        (AList.lookup_insert _)
    · exact hf.skip

theorem newUas_uas {invite : SipRequest} {localTag localContact : Text} {d : InviteDialog}
    (h : InviteDialog.newUas invite localTag localContact = some d) : d.role = .uas := by
  obtain ⟨info,-,rfl⟩ := Option.map_eq_some_iff.mp h
  rfl

theorem handleRequest_filed {r : SipRequest} {localTag : Text} (hf : Filed m)
    (hg : Settled m (.handleRequest r localTag)) : Filed (handleRequest m r localTag).1 := by
  unfold handleRequest
  split
  · next h hfind =>
    dsimp only
    unfold modifyAt
    split
    · next d hd => exact hf.replace hd (handleRequest_steady d r)
    · exact hf
  · next hfind =>
    split_ifs with hinvite
    · unfold createUasDialog
      dsimp only
      split
      · exact hf.skip
      · next d hd =>
        exact hf.placeRouted hf.unused (Nat.le_succ _) (Nat.lt_succ_self _)
          (fun _ => newUas_uas hd) (fun _ => hg hfind hinvite d hd)
    · exact hf

theorem handleResponse_filed {r : SipResponse} (hf : Filed m)
    (hg : Settled m (.handleResponse r)) : Filed (handleResponse m r).1 := by
  unfold handleResponse
  split
  · next callId fromTag hcall hfrom =>
    split
    · exact hf
    · next h hfind =>
      split
      · exact hf
      · next d hd =>
        have hdialog : dialogForResponse m r = some d := by
          rw [dialogForResponse, hcall, hfrom]
          change (findDialogForResponse m callId fromTag r.toTag).bind _ = _
          rw [hfind]
          exact hd
        have hsettled := hg d hdialog
        dsimp only
        cases handleResponse_answered d r with
        | steady hs hc =>
          rw [if_neg hc]
          exact hf.replace hd hs
        | early hrole hstate hlow hhigh hadopt =>
          have hunknown := (hsettled hrole hstate).1 hlow hhigh _ hadopt
          have hc : ¬confirms d (d.handleResponse r).1 := fun hc => by
            have hearly := (InviteDialog.adopt_spec hadopt).1
            rw [hc.2] at hearly
            cases hearly
          rw [if_neg hc]
          exact hf.placeUnknown (hf.unrouted hd hrole hstate) le_rfl (hf.bound h d hd) hunknown
        | confirmed hrole hstate hlow hhigh hnew hid =>
          have hnone : Known (d.handleResponse r).1.info.id →
              m.idToHandle.lookup (d.handleResponse r).1.info.id = none := by
            intro hk
            rcases hid with hadopt | hsame
            · exact (hsettled hrole hstate).2 hlow hhigh _ hadopt hk
            · rw [hsame] at hk
              exact absurd (hf.known h d hd hk) (hf.unrouted hd hrole hstate _)
          rw [if_pos ⟨hstate,hnew⟩]
          refine (hf.placeRouted (hf.unrouted hd hrole hstate) le_rfl (hf.bound h d hd)
            (fun hearly => ?_) hnone).unpend _
          rw [hnew] at hearly
          cases hearly
  · exact hf

theorem sendResponse_filed (hf : Filed m) (h : DialogHandle) (r : SipResponse) :
    Filed (DialogTable.sendResponse m h r).1 := by
  unfold DialogTable.sendResponse
  split
  · exact hf
  · next d hd =>
    have hreplaced := hf.replace hd (sendResponse_steady d r)
    dsimp only
    split_ifs with hc
    · refine hreplaced.file (AList.lookup_insert _) (fun hearly => ?_)
      rw [hc.2] at hearly
      cases hearly
    · exact hreplaced

theorem sendBye_filed (hf : Filed m) (h : DialogHandle) (uuid : Text) :
    Filed (DialogTable.sendBye m h uuid).1 := by
  unfold DialogTable.sendBye
  split
  · exact hf
  · next d hd => exact hf.replace hd (sendBye_steady d uuid)

theorem ackSent_filed (hf : Filed m) (h : DialogHandle) : Filed (ackSent m h) := by
  unfold ackSent
  split
  · exact hf
  · next d hd => exact hf.replace hd ⟨rfl,rfl,fun h => h⟩

theorem lookup_cleaned (m : DialogManager) (h : DialogHandle) :
    (cleanupTerminated m).dialogs.lookup h =
      (m.dialogs.lookup h).filter (fun d => !d.isTerminated) :=
  lookup_eraseAll_select m.dialogs InviteDialog.isTerminated h

theorem cleanupTerminated_filed (hf : Filed m) (hg : Settled m .cleanupTerminated) :
    Filed (cleanupTerminated m) := by
  have hstays {h d} (hd : m.dialogs.lookup h = some d) (hlive : d.isTerminated = false) :
      (cleanupTerminated m).dialogs.lookup h = some d := by
    rw [lookup_cleaned, hd, Option.filter_some, hlive]
    rfl
  have hroutes (id : DialogId) : (cleanupTerminated m).idToHandle.lookup id =
      if id ∈ (terminatedDialogs m).map (·.2.info.id) then none else m.idToHandle.lookup id :=
    lookup_eraseAll _ _ _
  have hgone {id : DialogId} : id ∈ (terminatedDialogs m).map (·.2.info.id) ↔
      ∃ h d, m.dialogs.lookup h = some d ∧ d.isTerminated = true ∧ d.info.id = id := by
    simp only [List.mem_map, Prod.exists, terminatedDialogs, mem_select, and_assoc]
  have hkept {h d} (hd : (cleanupTerminated m).dialogs.lookup h = some d) :
      m.dialogs.lookup h = some d ∧ d.isTerminated = false := by
    rw [lookup_cleaned] at hd
    obtain ⟨hd,hlive⟩ := Option.filter_eq_some_iff.mp hd
    exact ⟨hd,by simpa using hlive⟩
  refine ⟨fun key h hp => ?_,fun id h hid => ?_,fun h d hd hknown => ?_,fun h d hd => ?_⟩
  · obtain ⟨d,hd⟩ := hf.pending key h hp
    have hmem : ⟨key,h⟩ ∈ m.pendingUac.entries := AList.mem_lookup_iff.mp hp
    have hlive := hg _ hmem d hd
    exact ⟨d,hstays hd (by simpa [InviteDialog.isTerminated] using hlive)⟩
  · rw [hroutes] at hid
    split_ifs at hid with hin
    obtain ⟨d,hd,hide,hrest⟩ := hf.route id h hid
    refine ⟨d,hstays hd ?_,hide,hrest⟩
    cases ht : d.isTerminated with
    | false => rfl
    | true => exact absurd (hgone.mpr ⟨h,d,hd,ht,hide⟩) hin
  · obtain ⟨hold,hlive⟩ := hkept hd
    have hroute := hf.known h d hold hknown
    rw [hroutes, if_neg ?_, hroute]
    intro hin
    obtain ⟨h',d',hd',hterm,hid⟩ := hgone.mp hin
    have hroute' := hf.known h' d' hd' (by rw [hid]; exact hknown)
    rw [hid] at hroute'
    cases hroute.symm.trans hroute'
    cases hold.symm.trans hd'
    rw [hlive] at hterm
    cases hterm
  · exact hf.bound h d (hkept hd).1

theorem step_filed {c : Call} {m' : DialogManager} {out : List ManagerAction} (hf : Filed m)
    (hg : Settled m c) (hs : step m c = some (m',out)) : Filed m' := by
  obtain ⟨rfl,-⟩ := total_eq_some.mp hs
  cases c with
  | createDialog invite => exact createDialog_filed hf invite
  | handleRequest r localTag => exact handleRequest_filed hf hg
  | handleResponse r => exact handleResponse_filed hf hg
  | sendResponse h r => exact sendResponse_filed hf h r
  | sendBye h uuid => exact sendBye_filed hf h uuid
  | ackSent h => exact ackSent_filed hf h
  | cleanupTerminated => exact cleanupTerminated_filed hf hg

end Steps

/-- Every handle leads to a dialog, and a request from the peer finds every
live dialog that knows both tags. -/
structure Routable (m : DialogManager) : Prop where
  pending : ∀ key h, m.pendingUac.lookup key = some h → ∃ d, m.dialogs.lookup h = some d
  route : ∀ id h, m.idToHandle.lookup id = some h → ∃ d, m.dialogs.lookup h = some d
  found : ∀ h d, m.dialogs.lookup h = some d → d.state ≠ .terminated → Known d.info.id →
    ∀ (r : SipRequest) (localTag : Text), r.callId = .ok d.info.id.callId →
      r.fromTag = .ok d.info.id.remoteTag → r.toTag = some d.info.id.localTag →
      (handleRequest m r localTag).2.2 = some h

theorem Filed.routable {m : DialogManager} (hf : Filed m) : Routable m := by
  refine ⟨hf.pending,fun id h hid => ?_,fun h d hd _ hknown r localTag hcall hfrom hto => ?_⟩
  · obtain ⟨d,hd,-⟩ := hf.route id h hid
    exact ⟨d,hd⟩
  · have hfind : findDialogForRequest m r = some h := by
      rw [findDialogForRequest, hcall, hfrom, hto]
      exact hf.known h d hd hknown
    rw [handleRequest, hfind]

theorem new_filed (localContact : Text) : Filed (new localContact) := by
  constructor
  · intro key h hp
    cases hp
  · intro id h hid
    cases hid
  · intro h d hd
    cases hd
  · intro h d hd
    cases hd

/-- In every run in which no early dialog of the caller learns its tags, no
dialog takes the identifier of another, and no rejected INVITE is cleaned up
while it is pending, all dialogs stay routable. -/
theorem dialogs_routable {localContact : Text} {calls : List Call} {m : DialogManager}
    {log : List ManagerAction} (hg : Guarded step Settled (new localContact) calls)
    (hr : run step (new localContact) calls = some (m,log)) : Routable m :=
  (run_guarded_invariant (P := Filed) (fun _ _ _ _ hf hi hs => step_filed hf hi hs)
    (new_filed localContact) hg hr).routable

/-- An outgoing call that is answered and hung up by the callee, beside an
incoming one. -/
theorem answered_call_routable :
    let calls : List Call := [.createDialog (createInvite 1),
      .handleResponse (createReply 100 1 .invite),.handleResponse (createReply 200 1 .invite),
      .handleRequest (createInvite 1) "local",
      .handleRequest (createPeerRequest .bye 1) [],.cleanupTerminated]
    ∃ m log, run step (new "sip:alice@192.168.1.1") calls = some (m,log) ∧
      m.dialogs.keys = [2] ∧ Routable m := by
  intro calls
  have hrun : (run step (new "sip:alice@192.168.1.1") calls).map (fun p => p.1.dialogs.keys) =
      some [2] := by decide +kernel
  obtain ⟨⟨m,log⟩,hr,hkeys⟩ := Option.map_eq_some_iff.mp hrun
  exact ⟨m,log,hr,hkeys,dialogs_routable (by decide +kernel) hr⟩

/-- A rejected INVITE is still pending after its dialog has been cleaned up.
And an early dialog of the caller that knows both tags is not found. -/
theorem rejected_invite_stays_pending :
    ((run step (new []) [.createDialog (createInvite 1),
        .handleResponse (createReply 486 1 .invite),.cleanupTerminated]).map (fun p =>
      (p.1.pendingUac.lookup ("test@example.com".toList,"fromtag".toList),p.1.dialogs.keys))) =
        some (some 1,[]) ∧
    ((run step (new []) [.createDialog (createInvite 1),
        .handleResponse (createReply 183 1 .invite)]).map (fun p =>
      ((p.1.dialogs.lookup 1).map (fun d => (d.state,d.info.id)),
        (handleRequest p.1 (createPeerRequest .update 1) []).2.2))) =
      some (some (.early,⟨"test@example.com","fromtag","totag"⟩),none) := by
  constructor <;> decide +kernel

end RsipRtp.DialogRouting
