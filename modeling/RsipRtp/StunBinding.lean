import RsipRtp.TurnMessage

/-!
# Connectivity checks and their answers

The Binding request of a connectivity check, the answer of the peer's
dispatcher and what the checker looks at in it.
-/

namespace RsipRtp.StunBinding
open SipText BigEndian ByteCursor Utf8 StunMessage
open SrtpKdf (Octets)

abbrev Hmac := Bytes → Bytes → Octets 20

inductive IceRole
  | controlling
  | controlled
deriving DecidableEq

def attrUsername : UInt16 := 0x0006
def attrMessageIntegrity : UInt16 := 0x0008
def attrPriority : UInt16 := 0x0024
def attrIceControlled : UInt16 := 0x8029
def attrIceControlling : UInt16 := 0x802A

def setLength (newLen : UInt16) (msg : Bytes) : Bytes :=
  (msg.set 2 (newLen >>> 8).toUInt8).set 3 (newLen &&& 0xFF).toUInt8

/-- The length is made to cover the signature before the message is signed. -/
def appendIntegrity (hmac : Hmac) (pwd : Text) (msg : Bytes) : Bytes :=
  let msg := setLength (UInt16.ofNat (msg.length-20+24)) msg
  msg++putU16 attrMessageIntegrity++putU16 20++(hmac (utf8 pwd) msg).1

def roleAttr : IceRole → UInt16
  | .controlling => attrIceControlling
  | .controlled => attrIceControlled

def checkAttributes (role : IceRole) (localUfrag remoteUfrag : Text) (priority : UInt32)
    (tieBreaker : Octets 8) : Bytes :=
  let usernameBytes := utf8 (remoteUfrag++ ':'::localUfrag)
  let padding := (4-usernameBytes.length%4)%4
  putU16 attrUsername++putU16 (UInt16.ofNat usernameBytes.length)++usernameBytes ++
    List.replicate padding 0 ++
    putU16 attrPriority++putU16 4++putU32 priority ++
    putU16 (roleAttr role)++putU16 8++tieBreaker.1

/-- The request that `perform_connectivity_check` sends. -/
def checkRequest (hmac : Hmac) (role : IceRole) (localUfrag remoteUfrag remotePwd : Text)
    (priority : UInt32) (txnId : Octets 12) (tieBreaker : Octets 8) : Bytes :=
  let attrs := checkAttributes role localUfrag remoteUfrag priority tieBreaker
  appendIntegrity hmac remotePwd
    (message bindingRequest (UInt16.ofNat attrs.length) magicCookie txnId attrs)

/-- What the checker demands of the response that carries its transaction id. -/
def validResponse (response : Bytes) : Bool :=
  match response with
  | t1::t0::_::_::c3::c2::c1::c0::_ =>
    20 ≤ response.length && getU16 t1 t0 == bindingResponse && getU32 c3 c2 c1 c0 == magicCookie
  | _ => false

def u16At (request : Bytes) (off : ℕ) : UInt16 :=
  getU16 (request.getD off 0) (request.getD (off+1) 0)

/-- The walk to the signature. `none` is a request that is rejected on the
way; otherwise the last user name before the signature, and the signature
with its offset. Every round moves on by four bytes at least. -/
def findIntegrity (request : Bytes) (attrsEnd : ℕ) :
    ℕ → ℕ → Option Bytes → Option (Option Bytes × Option (ℕ × Bytes))
  | 0, _, username => some (username,none)
  | fuel+1, off, username =>
    if attrsEnd < off+4 then some (username,none)
    else
      let attrType := u16At request off
      let attrLen := (u16At request (off+2)).toNat
      let value := (request.drop (off+4)).take attrLen
      if attrsEnd < off+4+attrLen then none
      else if attrType = attrUsername then
        findIntegrity request attrsEnd fuel (off+4+padded attrLen) (some value)
      else if attrType = attrMessageIntegrity then
        if attrLen ≠ 20 then none else some (username,some (off,value))
      else findIntegrity request attrsEnd fuel (off+4+padded attrLen) username

def mappedAttr (source : SocketAddr) (txnId : Octets 12) : Bytes :=
  match source with
  | .v4 ip port => putU16 attrXorMappedAddress++putU16 8++[0,0x01] ++
      putU16 (port ^^^ cookiePort)++(xorOctets ip cookieBytes).1
  | .v6 ip port _ _ => putU16 attrXorMappedAddress++putU16 20++[0,0x02] ++
      putU16 (port ^^^ cookiePort)++(xorOctets ip (cookieWith txnId)).1

def firstPart (username : Text) : Text := ((splitFirst ':' username).map Prod.fst).getD username

/-- What is signed in a request: the bytes before the signature, with a
length that covers it. -/
def signedPart (request : Bytes) (miOffset : ℕ) : Bytes :=
  setLength (UInt16.ofNat (miOffset-20+24)) (request.take miOffset)

def buildBindingResponse (hmac : Hmac) (request : Bytes) (txnId : Octets 12)
    (source : SocketAddr) (localUfrag localPwd : Text) : Option Bytes :=
  if request.length < 20 then none
  else
    let totalAttrsLen := (u16At request 2).toNat
    if request.length < 20+totalAttrsLen then none
    else do
      let (username,integrity) ←
        findIntegrity request (20+totalAttrsLen) (request.length+1) 20 none
      let username ← username
      let (miOffset,miValue) ← integrity
      if (hmac (utf8 localPwd) (signedPart request miOffset)).1 ≠ miValue then none
      else
        let username ← (fromUtf8 username).toOption
        if firstPart username ≠ localUfrag then none
        else
          let attrs := mappedAttr source txnId
          some (appendIntegrity hmac localPwd
            (message bindingResponse (UInt16.ofNat attrs.length) magicCookie txnId attrs))

section Rounds

variable {request : Bytes} {off attrsEnd fuel : ℕ} {username : Option Bytes}

def attrEnd (request : Bytes) (off : ℕ) : ℕ := off+4+(u16At request (off+2)).toNat

def valueAt (request : Bytes) (off : ℕ) : Bytes :=
  (request.drop (off+4)).take (u16At request (off+2)).toNat

theorem findIntegrity_stop (htype : u16At request off = attrMessageIntegrity)
    (hend : attrEnd request off ≤ attrsEnd) :
    findIntegrity request attrsEnd (fuel+1) off username =
      if (u16At request (off+2)).toNat ≠ 20 then none
      else some (username,some (off,valueAt request off)) := by
  unfold attrEnd at hend
  have husername : attrMessageIntegrity ≠ attrUsername := by decide
  rw [findIntegrity, if_neg (by omega)]
  dsimp only
  rw [if_neg (by omega), htype, if_neg husername, if_pos rfl]
  rfl

theorem findIntegrity_pass (htype : u16At request off ≠ attrMessageIntegrity)
    (hend : attrEnd request off ≤ attrsEnd) :
    findIntegrity request attrsEnd (fuel+1) off username =
      findIntegrity request attrsEnd fuel (off+4+padded (u16At request (off+2)).toNat)
        (if u16At request off = attrUsername then some (valueAt request off) else username) := by
  unfold attrEnd at hend
  rw [findIntegrity, if_neg (by omega)]
  dsimp only
  rw [if_neg (by omega)]
  split_ifs
  · rfl
  · rfl

end Rounds

end RsipRtp.StunBinding
