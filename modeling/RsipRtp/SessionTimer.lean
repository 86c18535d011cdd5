import RsipRtp.SipMessage
import RsipRtp.TextShape

/-!
# The headers of session timers

`Session-Expires` is read with its seconds first and its parameters after
them.
-/

namespace RsipRtp.SessionTimer
open SipText TextShape SipHeader SipMessage

def parseRefresher (value : Text) : Except SipError Refresher :=
  let token := toAsciiLowercase (trim value)
  if token = "uac" then .ok .uac
  else if token = "uas" then .ok .uas
  else .error (.parse ("Invalid refresher value '"++token++ ['\'']))

def refresherParam (refresher : Option Refresher) (param : Text) :
    Except SipError (Option Refresher) :=
  let param := trim param
  if param.isEmpty then .ok refresher
  else match splitFirst '=' param with
    | some (key,value) =>
      if eqIgnoreAsciiCase (trim key) "refresher" then
        (parseRefresher (trim value)).map some
      else .ok refresher
    | none => .ok refresher

def parseSessionExpires (value : Text) : Except SipError SessionExpires :=
  let value := trim value
  let (head,params) := match splitFirst ';' value with
    | some (head,params) => (head,params.splitOn ';')
    | none => (value,[])
  match parseU32 (trim head) with
  | some deltaSeconds => (params.foldlM refresherParam none).map (fun refresher =>
      { deltaSeconds, refresher })
  | none => .error (.parse
      ("Invalid Session-Expires delta-seconds '"++trim head++ ['\'']))

def sessionExpires (hs : Headers) : Option SessionExpires :=
  ((findOtherHeader hs "Session-Expires").or (findOtherHeader hs ['x'])).bind
    (fun value => ok (parseSessionExpires value))

def findSupported (hs : Headers) : Option (List Text) :=
  let tags := hs.inner.flatMap fun
    | .supported value => (ok (parseOptionTags value)).getD []
    | .other key value =>
      if eqIgnoreAsciiCase key "Supported" then (ok (parseOptionTags value)).getD [] else []
    | _ => []
  if tags.isEmpty then none else some tags

def supportsTimer (request : SipRequest) : Bool :=
  ((findSupported request.inner.headers).map (fun tags =>
    tags.any (fun t => eqIgnoreAsciiCase t "timer"))).getD false

theorem parseSessionExpires_lt {value : Text} {se : SessionExpires}
    (h : parseSessionExpires value = .ok se) : se.deltaSeconds < 2^32 := by
  rw [parseSessionExpires] at h
  dsimp only at h
  split at h
  · rename_i hparse
    obtain ⟨_,-,rfl⟩ := map_ok h
    exact parseUnsigned_lt hparse
  · cases h

theorem sessionExpires_lt {hs : Headers} {se : SessionExpires} (h : sessionExpires hs = some se) :
    se.deltaSeconds < 2^32 := by
  obtain ⟨value,-,h⟩ := Option.bind_eq_some_iff.mp h
  cases hparse : parseSessionExpires value with
  | error e => rw [hparse] at h; cases h
  | ok s =>
    rw [hparse] at h
    cases h
    exact parseSessionExpires_lt hparse

theorem refresherParam_display (r : Refresher) (before : Option Refresher) :
    refresherParam before ("refresher="++r.display) = .ok (some r) := by
  cases r <;> rfl

theorem semicolon_not_mem_natText (n : ℕ) : ';' ∉ natText n :=
  fun hc => absurd (natText_forall hc) (by decide)

theorem refresher_display_solid (r : Refresher) :
    ∀ c ∈ ";refresher=".toList++r.display, isWhitespace c = false := by
  cases r
  · exact forall_of_all (p := fun c => isWhitespace c = false) (by decide +kernel)
  · exact forall_of_all (p := fun c => isWhitespace c = false) (by decide +kernel)

theorem parseSessionExpires_display {n : ℕ} (hn : n < 2^32) (r : Refresher) :
    parseSessionExpires (SessionExpires.toHeaderValue ⟨n,some r⟩) = .ok ⟨n,some r⟩ := by
  have hvalue : SessionExpires.toHeaderValue ⟨n,some r⟩ =
      natText n++ ';'::("refresher="++r.display) := List.append_assoc _ _ _
  have htrim : trim (SessionExpires.toHeaderValue ⟨n,some r⟩) =
      natText n++ ';'::("refresher="++r.display) := by
    rw [hvalue]
    refine trim_of_forall fun c hc => ?_
    rcases List.mem_append.mp hc with hc | hc
    · exact isWhitespace_digit (natText_forall hc)
    · exact refresher_display_solid r c hc
  have hparams : ("refresher="++r.display).splitOn ';' = ["refresher="++r.display] := by
    cases r <;> rfl
  have hcut := splitFirst_append (b := "refresher="++r.display) (semicolon_not_mem_natText n)
  simp only [parseSessionExpires, htrim, hcut, hparams, trim_natText]
  rw [parseU32, parseUnsigned_natText hn]
  simp only [List.foldlM_cons, List.foldlM_nil, refresherParam_display, ok_bind]
  rfl

end RsipRtp.SessionTimer
