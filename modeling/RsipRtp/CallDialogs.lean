import RsipRtp.CallViews

/-!
# Calls and the table of their dialogs

The manager finds the call of a dialog in a table of its own.
-/

namespace RsipRtp.CallDialogs
open OutputMachine FiniteMap SdpNegotiation CallSession CallTable CallViews
open CallManager
open Dialog (DialogId)

structure Consistent (m : CallManager) : Prop where
  entries : ∀ d id, m.dialogToCall.lookup d = some id →
    ∃ v, view m id = some v ∧ v.dialogId = some d
  calls : ∀ id v d, view m id = some v → v.dialogId = some d → m.dialogToCall.lookup d = some id

/-- The dialog of a new call is not known yet, and the dialog of an answer
is the one the call has, or the first one of a call that can take it up. -/
def Unclaimed (env : Env) (m : CallManager) : Op → Prop
  | .handleIncomingInvite dialog offer =>
    offered env m offer = true → m.dialogToCall.lookup dialog.id = none
  | .acceptInboundInvite dialog offer =>
    (acceptable env m offer).isSome → m.dialogToCall.lookup dialog.id = none
  | .handleInviteSuccess id dialog answer _ _ =>
    (processAnswer answer).head?.isSome → ∀ v ∈ view m id, v.dialogId = some dialog.id ∨
      brings env true (some answer) = true ∧ v.dialogId = none ∧
        m.dialogToCall.lookup dialog.id = none
  | _ => True

section Tables
variable {m m' : CallManager}
variable {id : CallId}

def dialogOf (m : CallManager) (id : CallId) : Option DialogId := (view m id).bind View.dialogId

theorem dialogOf_some {d : DialogId} :
    dialogOf m id = some d ↔ ∃ v, view m id = some v ∧ v.dialogId = some d :=
  Option.bind_eq_some_iff

theorem dialogOf_view {v : View} (hv : view m id = some v) :
    dialogOf m id = v.dialogId := by
  rw [dialogOf, hv]
  rfl

theorem dialogOf_changed {w : View} (hviews : Changed m m' id w) (k : CallId) :
    dialogOf m' k = if k = id then w.dialogId else dialogOf m k := by
  rw [dialogOf, hviews k]
  split_ifs
  · rfl
  · rfl

theorem dialogOf_unchanged {v w : View} (hv : view m id = some v)
    (hviews : Changed m m' id w) (hd : w.dialogId = v.dialogId) (k : CallId) :
    dialogOf m' k = dialogOf m k := by
  rw [dialogOf_changed hviews]
  split_ifs with hk
  · rw [hk, dialogOf_view hv, hd]
  · rfl

theorem consistent_iff : Consistent m ↔
    ∀ d id, m.dialogToCall.lookup d = some id ↔ dialogOf m id = some d := by
  constructor
  · intro h d id
    rw [dialogOf_some]
    exact ⟨h.entries d id,fun ⟨v,hv,hd⟩ => h.calls id v d hv hd⟩
  · intro h
    exact ⟨fun d id hd => dialogOf_some.mp ((h d id).mp hd),
      fun id v d hv hd => (h d id).mpr (dialogOf_some.mpr ⟨v,hv,hd⟩)⟩

theorem Consistent.same (h : Consistent m) (hdialogs : ∀ k, dialogOf m' k = dialogOf m k)
    (hmap : m'.dialogToCall = m.dialogToCall) : Consistent m' := by
  rw [consistent_iff] at h ⊢
  intro d id
  rw [hmap, hdialogs]
  exact h d id

/-- A call gets a dialog together with its entry. -/
theorem Consistent.assigned_iff (h : Consistent m) {d : DialogId}
    (hdialogs : ∀ k, dialogOf m' k = if k = id then some d else dialogOf m k)
    (hmap : m'.dialogToCall = m.dialogToCall.insert d id) : Consistent m' ↔
      dialogOf m id = some d ∨ dialogOf m id = none ∧ m.dialogToCall.lookup d = none := by
  rw [consistent_iff] at h ⊢
  simp only [hmap, lookup_insert_eq, hdialogs]
  constructor
  · intro h'
    cases hid : dialogOf m id with
    | some e =>
      -- the entry of the old dialog is still there
      by_cases he : e = d
      · exact .inl (congrArg some he)
      · have hold := (h' e id).mp (by rw [if_neg he]; exact (h e id).mpr hid)
        rw [if_pos rfl] at hold
        exact absurd (Option.some.inj hold).symm he
    | none =>
      refine .inr ⟨rfl,?_⟩
      by_contra hne
      obtain ⟨k,hk⟩ := Option.ne_none_iff_exists'.mp hne
      have hother := (h d k).mp hk
      have hkid : k ≠ id := by
        rintro rfl
        exact nomatch hid.symm.trans hother
      have hnow := (h' d k).mpr (by rw [if_neg hkid]; exact hother)
      rw [if_pos rfl] at hnow
      exact hkid (Option.some.inj hnow).symm
  · intro hid e k
    have hothers (hk : k ≠ id) : dialogOf m k ≠ some d := by
      intro hkd
      have hlookup := (h d k).mpr hkd
      rcases hid with hid | ⟨-,hnone⟩
      · exact hk (Option.some.inj (hlookup.symm.trans ((h d id).mpr hid)))
      · exact nomatch hnone.symm.trans hlookup
    have howns (he : e ≠ d) : dialogOf m id ≠ some e := by
      intro hide
      rcases hid with hid | ⟨hnone,-⟩
      · exact he (Option.some.inj (hide.symm.trans hid))
      · exact nomatch hnone.symm.trans hide
    by_cases he : e = d
    · subst he
      by_cases hk : k = id
      · simp [hk]
      · simpa [hk, Ne.symm hk] using hothers hk
    · by_cases hk : k = id
      · subst hk
        simpa [he, Ne.symm he, h e k] using howns he
      · simp [he, hk, h e k]

/-- A call gets a dialog without an entry for it. -/
theorem Consistent.attached_iff (h : Consistent m) {d : DialogId}
    (hdialogs : ∀ k, dialogOf m' k = if k = id then some d else dialogOf m k)
    (hmap : m'.dialogToCall = m.dialogToCall) : Consistent m' ↔ dialogOf m id = some d := by
  constructor
  · intro h'
    have hentry := (consistent_iff.mp h' d id).mpr ((hdialogs id).trans (if_pos rfl))
    rw [hmap] at hentry
    exact (consistent_iff.mp h d id).mp hentry
  · intro hid
    refine h.same (fun k => ?_) hmap
    rw [hdialogs]
    split_ifs with hk
    · rw [hk, hid]
    · rfl

theorem Consistent.removed (h : Consistent m) {v : View} (hv : view m id = some v)
    (hviews : ∀ k, view m' k = if k = id then none else view m k)
    (hmap : ∀ d, m'.dialogToCall.lookup d =
      if v.dialogId = some d then none else m.dialogToCall.lookup d) : Consistent m' := by
  rw [consistent_iff] at h ⊢
  intro d k
  have hk : dialogOf m' k = if k = id then none else dialogOf m k := by
    rw [dialogOf, hviews k]
    split_ifs
    · rfl
    · rfl
  rw [hmap, hk, ← dialogOf_view hv]
  by_cases hid : k = id
  · subst hid
    rw [if_pos rfl]
    split_ifs with hd
    · exact iff_of_false nofun nofun
    · exact iff_of_false (fun hl => hd ((h d k).mp hl)) nofun
  · rw [if_neg hid]
    split_ifs with hd
    · refine iff_of_false nofun fun hkd => hid ?_
      exact Option.some.inj (((h d k).mpr hkd).symm.trans ((h d id).mpr hd))
    · exact h d k

end Tables

section Steps
variable {env : Env} {m m' : CallManager} {op : Op} {out : List Output}

theorem unclaimed_idle (hidle : ¬Acts env m op) : Unclaimed env m op := by
  cases op with
  | handleIncomingInvite dialog offer | acceptInboundInvite dialog offer =>
    exact fun h => absurd h hidle
  | handleInviteSuccess id dialog answer response now =>
    exact fun h v hv => absurd ⟨Option.isSome_of_mem hv,h⟩ hidle
  | _ => trivial

theorem dialogOf_next (hfresh : Fresh m) : dialogOf m m.nextId = none := by
  rw [dialogOf]
  cases hv : view m m.nextId with
  | none => rfl
  | some v => exact absurd (hfresh _ v hv) (lt_irrefl _)

/-- Where the table and the calls agree, they do so after an operation
exactly if the dialog that it sets was free. -/
theorem consistent_effect_iff (hfresh : Fresh m) (hc : Consistent m)
    (heffect : Effect env m op m' out) : Consistent m' ↔ Unclaimed env m op := by
  have hsame {id : CallId} {v w : View} (hv : view m id = some v) (hviews : Changed m m' id w)
      (hd : w.dialogId = v.dialogId) (hrest : Rest m m') : Consistent m' :=
    hc.same (dialogOf_unchanged hv hviews hd) hrest.map
  cases heffect with
  | quiet hviews hmap _ _ hidle =>
    refine iff_of_true (hc.same (fun k => ?_) hmap) (unclaimed_idle hidle)
    rw [dialogOf, hviews k]
    rfl
  | created hviews hmap =>
    refine iff_of_true (hc.same (fun k => ?_) hmap) trivial
    rw [dialogOf_changed hviews]
    split_ifs with hk
    · rw [hk, dialogOf_next hfresh]
      rfl
    · rfl
  | invited dialog port pending hop hviews hmap =>
    rw [hc.assigned_iff (dialogOf_changed hviews) hmap, dialogOf_next hfresh]
    rcases hop with ⟨offer,rfl,hoffer,-⟩ | ⟨offer,media,rfl,hmedia,-⟩
    · simp [Unclaimed, hoffer]
    · simp [Unclaimed, hmedia]
  | progressed hop hv hviews hrest =>
    refine iff_of_true (hsame hv hviews rfl hrest) ?_
    cases op with
    | handleProvisional | handleProvisionalResponse => trivial
    | _ => cases hop
  | answered hv htaken hviews hmap =>
    rw [hc.assigned_iff (dialogOf_changed hviews) hmap, dialogOf_view hv, Unclaimed, forall_view hv]
    simp [htaken, brings_isSome htaken]
  | stalled hv hanswer htaken hviews hrest =>
    rw [hc.attached_iff (dialogOf_changed hviews) hrest.map, dialogOf_view hv, Unclaimed,
      forall_view hv]
    simp [htaken, hanswer]
  | ended pending hop hv hviews _ hrest =>
    refine iff_of_true (hsame hv hviews rfl hrest) ?_
    rcases hop with ⟨_,rfl⟩ | ⟨_,rfl,-⟩ | ⟨rfl | rfl,-⟩ <;> trivial
  | picked hv _ _ hviews hrest | closed hv _ hviews hrest | built hv _ _ _ hviews hrest
  | dropped hv _ _ hviews hrest => exact iff_of_true (hsame hv hviews rfl hrest) trivial
  | removed hv hviews hmap => exact iff_of_true (hc.removed hv hviews hmap) trivial
  | ticked hviews hrest =>
    refine iff_of_true (hc.same (fun k => ?_) hrest.map) trivial
    rcases hviews k with hsame | ⟨v,hv,-,hnow⟩
    · rw [dialogOf, hsame]
      rfl
    · rw [dialogOf_view hv, dialogOf_view hnow]

theorem unclaimed_of_stop (h : step env m op = none) : Unclaimed env m op := by
  cases op with
  | handleIncomingInvite dialog offer => exact fun hoffered => absurd h (offered_step hoffered)
  | handleProvisionalReliable | handleInboundUpdate | tick => trivial
  | _ => nomatch h

end Steps

theorem consistent_new (config : ManagerConfig) : Consistent (.new config) :=
  ⟨fun _ _ h => (nomatch h),fun _ _ _ h => nomatch h⟩

/-- In a run the table of dialogs and the calls agree throughout, if and
only if every dialog that an operation sets was free for the call. -/
theorem dialogs_consistent_iff (env : Env) (config : ManagerConfig) (ops : List Op) :
    Always (step env) Consistent (.new config) ops ↔
      Guarded (step env) (Unclaimed env) (.new config) ops :=
  always_iff (I := Fresh) (fun _ _ _ _ hfresh hu => fresh_step hfresh hu)
    (fun _ _ h => unclaimed_of_stop h)
    (fun _ _ _ _ hfresh hc h => consistent_effect_iff hfresh hc (step_effect h))
    (fresh_new config) (consistent_new config) ops

def forkedAnswers : List Op :=
  [.createCall "sip:bob@b.example",
    .handleInviteSuccess 0 (createUac "call-1") speech none 0,
    .handleInviteSuccess 0 { createUac "call-1" with
      id := ⟨"call-1","alice","carol"⟩ } speech none 0]

/-- The entry of the first dialog stays when the second one replaces it. -/
theorem forked_answers_inconsistent :
    ¬Always (step createEnv) Consistent (.new createConfig) forkedAnswers := by
  intro h
  have hrun : (run (step createEnv) (.new createConfig) forkedAnswers).map (fun p =>
      (p.1.dialogToCall.lookup (createUac "call-1").id,
        (view p.1 0).map (fun v => v.dialogId == some (createUac "call-1").id))) =
      some (some 0,some false) := by decide +kernel
  obtain ⟨⟨m,out⟩,hm,hresult⟩ := Option.map_eq_some_iff.mp hrun
  obtain ⟨hentry,hview⟩ := Prod.mk.inj hresult
  obtain ⟨v,hv,hd⟩ := (h forkedAnswers [] m out rfl hm).entries _ _ hentry
  simp [hv, hd] at hview

end RsipRtp.CallDialogs
