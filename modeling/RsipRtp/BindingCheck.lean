import RsipRtp.StunBinding
import RsipRtp.TextShape

/-!
# A check is answered

The request of a connectivity check and the answer to it are built in two
places.
-/

namespace RsipRtp.BindingCheck
open SipText BigEndian ByteCursor Utf8 StunMessage StunBinding TurnMessage
open TextShape (splitFirst_append)
open SrtpKdf (Octets)

section Signing

variable {msgType msgLen : UInt16} {cookie : UInt32} {txnId : Octets 12} {body : Bytes}

theorem setLength_message (n : UInt16) : setLength n (message msgType msgLen cookie txnId body) =
    message msgType n cookie txnId body := by
  obtain ⟨t1,t0,htype,-⟩ := putU16_read msgType
  obtain ⟨l1,l0,hlen,-⟩ := putU16_read msgLen
  rw [message, message, htype, hlen, ← putU16_bytes n]
  rfl

theorem message_append (tail : Bytes) : message msgType msgLen cookie txnId (body++tail) =
    message msgType msgLen cookie txnId body++tail := by
  simp only [message, List.append_assoc]

theorem signedPart_message {signed : Bytes} (tail : Bytes)
    (h : signed = message msgType (UInt16.ofNat (body.length+24)) cookie txnId body) :
    signedPart (signed++tail) signed.length = signed := by
  have hlen : signed.length-20+24 = body.length+24 := by
    rw [h, message_length]
    omega
  rw [signedPart, List.take_left, hlen, h, setLength_message]

theorem appendIntegrity_message (hmac : Hmac) (pwd : Text) :
    appendIntegrity hmac pwd (message msgType msgLen cookie txnId body) =
      message msgType (UInt16.ofNat (body.length+24)) cookie txnId
        (body++attr attrMessageIntegrity 20
          (hmac (utf8 pwd)
            (message msgType (UInt16.ofNat (body.length+24)) cookie txnId body)).1) := by
  have hlen : (message msgType msgLen cookie txnId body).length-20+24 = body.length+24 := by
    rw [message_length]
    omega
  rw [appendIntegrity, hlen, setLength_message]
  simp only [message, attr, List.append_assoc]

end Signing

section Walk

variable {request value tail : Bytes} {off attrsEnd fuel : ℕ} {attrType attrLen : UInt16}
  {username : Option Bytes}

theorem u16At_drop {n : UInt16} (h : request.drop off = putU16 n++tail) :
    u16At request off = n := by
  obtain ⟨b1,b0,hput,hget⟩ := putU16_read n
  rw [hput] at h
  have h1 := congrArg (fun bs => bs.getD 0 0) h
  have h0 := congrArg (fun bs => bs.getD 1 0) h
  simp only [List.getD_eq_getElem?_getD, List.getElem?_drop] at h1 h0
  simp only [u16At, List.getD_eq_getElem?_getD]
  rw [Nat.add_zero] at h1
  rw [h1, h0]
  exact hget

theorem u16At_message (msgType msgLen : UInt16) (cookie : UInt32) (txnId : Octets 12)
    (body : Bytes) : u16At (message msgType msgLen cookie txnId body) 2 = msgLen :=
  u16At_drop (List.drop_left' (putU16_length msgType))

theorem attr_read (h : request.drop off = attr attrType attrLen (value++tail))
    (hlen : value.length = attrLen.toNat) : u16At request off = attrType ∧
      u16At request (off+2) = attrLen ∧ valueAt request off = value := by
  have hrest : request.drop (off+2) = putU16 attrLen++(value++tail) := by
    rw [← List.drop_drop, h, attr, List.drop_left' (putU16_length attrType)]
  have hvalue : request.drop (off+4) = value++tail := by
    rw [show off+4 = off+2+2 from rfl, ← List.drop_drop, hrest,
      List.drop_left' (putU16_length attrLen)]
  have hl : u16At request (off+2) = attrLen := u16At_drop hrest
  refine ⟨u16At_drop h,hl,?_⟩
  rw [valueAt, hl, hvalue, List.take_left' hlen]

theorem drop_attr (h : request.drop off = attr attrType attrLen tail) (n : ℕ) :
    request.drop (off+4+n) = tail.drop n := by
  have hheader : (putU16 attrType++putU16 attrLen).length = 4 := by
    rw [List.length_append, putU16_length, putU16_length]
  rw [← List.drop_drop, ← List.drop_drop, h, attr, ← List.append_assoc, List.drop_left' hheader]

theorem findIntegrity_attr (h : request.drop off = attr attrType attrLen (value++tail))
    (hlen : value.length = attrLen.toNat) (htype : attrType ≠ attrMessageIntegrity)
    (hend : off+4+attrLen.toNat ≤ attrsEnd) :
    findIntegrity request attrsEnd (fuel+1) off username =
      findIntegrity request attrsEnd fuel (off+4+padded attrLen.toNat)
        (if attrType = attrUsername then some value else username) := by
  obtain ⟨ht,hl,hv⟩ := attr_read h hlen
  rw [findIntegrity_pass (ht.trans_ne htype) (by rw [attrEnd, hl]; exact hend), ht, hl, hv]

theorem findIntegrity_signature (h : request.drop off = attr attrMessageIntegrity 20 value)
    (hlen : value.length = 20) (hend : off+24 ≤ attrsEnd) :
    findIntegrity request attrsEnd (fuel+1) off username = some (username,some (off,value)) := by
  rw [← List.append_nil value] at h
  obtain ⟨ht,hl,hv⟩ := attr_read h hlen
  have hend' : attrEnd request off ≤ attrsEnd := by
    rw [attrEnd, hl]
    exact hend
  rw [findIntegrity_stop ht hend', hl, hv]
  rfl

end Walk

theorem xorOctets_cancel {n : ℕ} (a mask : Octets n) :
    xorOctets (xorOctets a mask) mask = a := by
  have hlist (x y : List UInt8) (h : x.length = y.length) :
      List.zipWith (fun p q => p ^^^ q) (List.zipWith (fun p q => p ^^^ q) x y) y = x := by
    induction x generalizing y with
    | nil => rfl
    | cons b x ih =>
      cases y with
      | nil => cases h
      | cons c y =>
        rw [List.zipWith_cons_cons, List.zipWith_cons_cons, UInt8.xor_assoc, UInt8.xor_self,
          UInt8.xor_zero, ih y (Nat.succ.inj h)]
  exact Subtype.ext (hlist a.1 mask.1 (a.2.trans mask.2.symm))

def mappedValue (source : SocketAddr) (txnId : Octets 12) : Bytes :=
  match source with
  | .v4 ip port => 0::0x01::(putU16 (port ^^^ cookiePort)++(xorOctets ip cookieBytes).1)
  | .v6 ip port _ _ =>
    0::0x02::(putU16 (port ^^^ cookiePort)++(xorOctets ip (cookieWith txnId)).1)

theorem encodeXorAddress_eq (attrType : UInt16) (source : SocketAddr) (txnId : Octets 12) :
    encodeXorAddress attrType source txnId = attr attrType
      (UInt16.ofNat (mappedValue source txnId).length) (mappedValue source txnId) := by
  cases source with
  | v4 ip port =>
    have hlen : (mappedValue (.v4 ip port) txnId).length = 8 := by
      simp only [mappedValue, List.length_cons, List.length_append, putU16_length,
        (xorOctets _ _).2]
    rw [hlen]
    simp only [encodeXorAddress, SocketAddr.ip, mappedValue, attr, List.append_assoc]
    rfl
  | v6 ip port flowinfo scopeId =>
    have hlen : (mappedValue (.v6 ip port flowinfo scopeId) txnId).length = 20 := by
      simp only [mappedValue, List.length_cons, List.length_append, putU16_length,
        (xorOctets _ _).2]
    rw [hlen]
    simp only [encodeXorAddress, SocketAddr.ip, mappedValue, attr, List.append_assoc]
    rfl

theorem mappedAttr_eq (source : SocketAddr) (txnId : Octets 12) : mappedAttr source txnId =
    attr attrXorMappedAddress (UInt16.ofNat (mappedValue source txnId).length)
      (mappedValue source txnId) := by
  rw [← encodeXorAddress_eq]
  cases source <;> rfl

theorem mappedValue_length_le (source : SocketAddr) (txnId : Octets 12) :
    (mappedValue source txnId).length ≤ 20 ∧ (mappedValue source txnId).length%4 = 0 := by
  cases source <;>
    simp only [mappedValue, List.length_cons, List.length_append, putU16_length,
      (xorOctets _ _).2] <;>
    decide

theorem encodeXorAddress_encodeAttr (attrType : UInt16) (source : SocketAddr) (txnId : Octets 12) :
    encodeXorAddress attrType source txnId = encodeAttr (attrType,mappedValue source txnId) := by
  have hwords := (mappedValue_length_le source txnId).2
  have hpadded : padded (mappedValue source txnId).length-(mappedValue source txnId).length =
      0 := by
    unfold padded
    omega
  rw [encodeXorAddress_eq, encodeAttr, hpadded, List.replicate_zero, List.append_nil]

def unmasked (source : SocketAddr) (txnId : Octets 12) (mask6 : Octets 16) : IpAddr :=
  match source with
  | .v4 ip _ => .v4 ip
  | .v6 ip _ _ _ => .v6 (xorOctets (xorOctets ip (cookieWith txnId)) mask6)

theorem parseAddress_mappedValue (source : SocketAddr) (txnId : Octets 12) (mask6 : Octets 16) :
    parseAddress cookiePort cookieBytes mask6 (mappedValue source txnId) =
      some (some (.new (unmasked source txnId mask6) source.port)) := by
  have hport (port : UInt16) : port ^^^ cookiePort ^^^ cookiePort = port := by
    rw [UInt16.xor_assoc, UInt16.xor_self, UInt16.xor_zero]
  cases source with
  | v4 ip port =>
    have hread := readOctets_append (xorOctets ip cookieBytes) []
    rw [List.append_nil] at hread
    have hlen := (xorOctets ip cookieBytes).2
    simp only [parseAddress, mappedValue, List.length_cons, List.length_append, putU16_length, hlen,
      readU8_cons, readU16_put, Option.bind_eq_bind, Option.bind_some]
    rw [if_neg (by omega), if_pos ⟨rfl,by omega⟩, hread, Option.bind_some, xorOctets_cancel, hport]
    rfl
  | v6 ip port flowinfo scopeId =>
    have hread := readOctets_append (xorOctets ip (cookieWith txnId)) []
    rw [List.append_nil] at hread
    have hlen := (xorOctets ip (cookieWith txnId)).2
    simp only [parseAddress, mappedValue, List.length_cons, List.length_append, putU16_length, hlen,
      readU8_cons, readU16_put, Option.bind_eq_bind, Option.bind_some]
    rw [if_neg (by omega), if_neg (fun h => absurd h.1 (by decide)), if_pos ⟨rfl,by omega⟩, hread,
      Option.bind_some, hport]
    rfl

theorem parseXorAddress_mappedValue (source : SocketAddr) (txnId : Octets 12) :
    parseXorAddress (mappedValue source txnId) txnId =
      some (some (.new source.ip source.port)) := by
  have hip : unmasked source txnId (cookieWith txnId) = source.ip := by
    cases source with
    | v4 => rfl
    | v6 => rw [unmasked, xorOctets_cancel, SocketAddr.ip]
  rw [parseXorAddress, parseAddress_mappedValue, hip]

section Request

variable {role : IceRole} {localUfrag remoteUfrag : Text} {priority : UInt32}
  {tieBreaker : Octets 8}

def usernameBytes (localUfrag remoteUfrag : Text) : Bytes := utf8 (remoteUfrag++ ':'::localUfrag)

def padding (n : ℕ) : Bytes := List.replicate ((4-n%4)%4) 0

theorem add_padding (n : ℕ) : n+(padding n).length = padded n := by
  rw [padding, List.length_replicate, padded]
  omega

theorem checkAttributes_append (tail : Bytes) :
    checkAttributes role localUfrag remoteUfrag priority tieBreaker++tail =
      attr attrUsername (UInt16.ofNat (usernameBytes localUfrag remoteUfrag).length)
        (usernameBytes localUfrag remoteUfrag ++
          (padding (usernameBytes localUfrag remoteUfrag).length ++
            attr attrPriority 4 (putU32 priority ++
              attr (roleAttr role) 8 (tieBreaker.1++tail)))) := by
  simp only [checkAttributes, attr, padding, usernameBytes, List.append_assoc]

theorem checkAttributes_length :
    (checkAttributes role localUfrag remoteUfrag priority tieBreaker).length =
      padded (usernameBytes localUfrag remoteUfrag).length+24 := by
  have hpad := add_padding (usernameBytes localUfrag remoteUfrag).length
  rw [← List.append_nil (checkAttributes ..), checkAttributes_append]
  simp only [attr_length, List.length_append, putU32_length, tieBreaker.2, List.length_nil]
  omega

theorem findIntegrity_check {request mac : Bytes} {fuel : ℕ}
    (h : request.drop 20 =
      checkAttributes role localUfrag remoteUfrag priority tieBreaker ++
        attr attrMessageIntegrity 20 mac) (hmac : mac.length = 20)
    (hsize : (usernameBytes localUfrag remoteUfrag).length < 65536) :
    findIntegrity request
        (20+(checkAttributes role localUfrag remoteUfrag priority tieBreaker).length+24) (fuel+4) 20
        none =
      some (some (usernameBytes localUfrag remoteUfrag),
        some (20+(checkAttributes role localUfrag remoteUfrag priority
          tieBreaker).length,mac)) := by
  rw [checkAttributes_append] at h
  rw [checkAttributes_length]
  generalize usernameBytes localUfrag remoteUfrag = name at *
  have hname : name.length = (UInt16.ofNat name.length).toNat := by
    rw [UInt16.toNat_ofNat', Nat.mod_eq_of_lt hsize]
  have hle := le_padded name.length
  have hpriority := drop_attr h (padded (UInt16.ofNat name.length).toNat)
  rw [← hname, ← List.append_assoc, List.drop_left'
    (by rw [List.length_append, add_padding])] at hpriority
  have hrole := drop_attr hpriority (padded 4)
  rw [show padded 4 = 4 from rfl, List.drop_left' (putU32_length priority)] at hrole
  have hsignature := drop_attr hrole (padded 8)
  rw [show padded 8 = 8 from rfl, List.drop_left' tieBreaker.2] at hsignature
  have hroleType : roleAttr role ≠ attrMessageIntegrity ∧ roleAttr role ≠ attrUsername := by
    cases role <;> decide
  rw [findIntegrity_attr h hname (by decide) (by rw [← hname]; omega), ← hname, if_pos rfl,
    findIntegrity_attr hpriority (putU32_length priority) (by decide)
      (by rw [show (4 : UInt16).toNat = 4 from rfl]; omega), if_neg (by decide)]
  rw [show padded (4 : UInt16).toNat = 4 from rfl]
  rw [findIntegrity_attr hrole tieBreaker.2 hroleType.1
      (by rw [show (8 : UInt16).toNat = 8 from rfl]; omega), if_neg hroleType.2]
  rw [show padded (8 : UInt16).toNat = 8 from rfl]
  rw [findIntegrity_signature hsignature hmac (by omega)]
  congr 4
  omega

theorem firstPart_username (h : ':' ∉ remoteUfrag) :
    firstPart (remoteUfrag++ ':'::localUfrag) = remoteUfrag := by
  rw [firstPart, splitFirst_append h]
  rfl

end Request

def answer (hmac : Hmac) (pwd : Text) (source : SocketAddr) (txnId : Octets 12) : Bytes :=
  appendIntegrity hmac pwd (message bindingResponse
    (UInt16.ofNat (mappedAttr source txnId).length) magicCookie txnId (mappedAttr source txnId))

theorem buildBindingResponse_check (hmac : Hmac) (role : IceRole)
    {localUfrag remoteUfrag : Text} (remotePwd : Text) (priority : UInt32) (txnId : Octets 12)
    (tieBreaker : Octets 8) (source : SocketAddr) (hufrag : ':' ∉ remoteUfrag)
    (hsize : (checkAttributes role localUfrag remoteUfrag priority tieBreaker).length+24 < 65536) :
    buildBindingResponse hmac
        (checkRequest hmac role localUfrag remoteUfrag remotePwd priority txnId tieBreaker)
        txnId source remoteUfrag remotePwd = some (answer hmac remotePwd source txnId) := by
  have hname : (usernameBytes localUfrag remoteUfrag).length < 65536 := by
    rw [checkAttributes_length] at hsize
    have hle := le_padded (usernameBytes localUfrag remoteUfrag).length
    omega
  have hrequest :
      checkRequest hmac role localUfrag remoteUfrag remotePwd priority txnId tieBreaker =
      _ := appendIntegrity_message hmac remotePwd
  rw [hrequest]
  generalize hattrs : checkAttributes role localUfrag remoteUfrag priority tieBreaker = attrs at *
  generalize hsigned : message bindingRequest (UInt16.ofNat (attrs.length+24)) magicCookie txnId
    attrs = signed
  generalize hmacEq : hmac (utf8 remotePwd) signed = mac
  generalize hwhole : message bindingRequest (UInt16.ofNat (attrs.length+24)) magicCookie txnId
    (attrs++attr attrMessageIntegrity 20 mac.1) = request
  have hlen : request.length = 20+attrs.length+24 := by
    rw [← hwhole, message_length, List.length_append, attr_length, mac.2]
    omega
  have hfield : (u16At request 2).toNat = attrs.length+24 := by
    rw [← hwhole, u16At_message, UInt16.toNat_ofNat', Nat.mod_eq_of_lt hsize]
  have hbody : request.drop 20 = attrs++attr attrMessageIntegrity 20 mac.1 := by
    rw [← hwhole, drop_message]
  have hfind : findIntegrity request (20+(attrs.length+24)) (request.length+1) 20 none =
      some (some (usernameBytes localUfrag remoteUfrag),some (20+attrs.length,mac.1)) := by
    rw [hlen, ← Nat.add_assoc, show 20+attrs.length+24+1 = attrs.length+41+4 by omega, ← hattrs]
    exact findIntegrity_check (hattrs ▸ hbody) mac.2 hname
  have hpart : signedPart request (20+attrs.length) = signed := by
    rw [← hwhole, message_append, hsigned, ← message_length, hsigned]
    exact signedPart_message _ hsigned.symm
  rw [buildBindingResponse, if_neg (by omega)]
  dsimp only
  rw [hfield, if_neg (by omega), hfind]
  simp only [Option.bind_eq_bind, Option.bind_some, hpart, hmacEq, ne_eq, not_true_eq_false,
    if_false, usernameBytes, fromUtf8_utf8, Except.toOption, firstPart_username hufrag]
  rfl

theorem validResponse_message_iff (msgType msgLen : UInt16) (cookie : UInt32) (txnId : Octets 12)
    (body : Bytes) : validResponse (message msgType msgLen cookie txnId body) = true ↔
      msgType = bindingResponse ∧ cookie = magicCookie := by
  have hlen : 20 ≤ (message msgType msgLen cookie txnId body).length := by
    rw [message_length]
    omega
  obtain ⟨t1,t0,htype,hget⟩ := putU16_read msgType
  obtain ⟨l1,l0,hmsgLen,-⟩ := putU16_read msgLen
  obtain ⟨c3,c2,c1,c0,hcookie,hgetCookie⟩ := putU32_read cookie
  rw [message, htype, hmsgLen, hcookie] at hlen ⊢
  simp only [validResponse, List.cons_append, List.nil_append] at hlen ⊢
  rw [hget, hgetCookie, decide_eq_true hlen]
  simp

theorem validResponse_message (msgLen : UInt16) (txnId : Octets 12) (body : Bytes) :
    validResponse (message bindingResponse msgLen magicCookie txnId body) = true :=
  (validResponse_message_iff ..).mpr ⟨rfl,rfl⟩

/-- The answer is a message with two attributes, the address and the signature. -/
theorem answer_encoded (hmac : Hmac) (pwd : Text) (source : SocketAddr) (txnId : Octets 12) :
    ∃ msgLen as mac, answer hmac pwd source txnId =
        message bindingResponse msgLen magicCookie txnId (as.flatMap encodeAttr) ∧
      as = [(attrXorMappedAddress,mappedValue source txnId),(attrMessageIntegrity,mac)] ∧
      msgLen.toNat = (as.flatMap encodeAttr).length ∧
      attributes msgLen.toNat (as.flatMap encodeAttr) = as := by
  have hanswer : answer hmac pwd source txnId = _ := appendIntegrity_message hmac pwd
  generalize (hmac _ _ : Octets 20) = mac at hanswer
  have hshort := (mappedValue_length_le source txnId).1
  have hmac20 : attr attrMessageIntegrity 20 mac.1 = encodeAttr (attrMessageIntegrity,mac.1) := by
    rw [encodeAttr, mac.2]
    exact congrArg (attr _ _) (List.append_nil _).symm
  have hmapped : mappedAttr source txnId =
      encodeAttr (attrXorMappedAddress,mappedValue source txnId) := by
    rw [mappedAttr_eq, ← encodeXorAddress_eq, encodeXorAddress_encodeAttr]
  have hpadded : padded (mappedValue source txnId).length ≤ 20 := by
    unfold padded
    omega
  have hlen :
      ([(attrXorMappedAddress,mappedValue source txnId),(attrMessageIntegrity,mac.1)].flatMap
      encodeAttr).length = 4+padded (mappedValue source txnId).length+24 := by
    simp only [List.flatMap_cons, List.flatMap_nil, List.append_nil, List.length_append,
      encodeAttr_length, mac.2]
    rfl
  rw [hmac20, hmapped, encodeAttr_length, ← hlen] at hanswer
  have hfield := UInt16.toNat_ofNat_of_lt' (show ([(attrXorMappedAddress,mappedValue source txnId),
    (attrMessageIntegrity,mac.1)].flatMap encodeAttr).length < 2^16 by omega)
  refine ⟨_,_,mac.1,by rw [hanswer]; simp,rfl,hfield,?_⟩
  rw [hfield]
  exact attributes_encode (by omega) (length_le_flatMap _)

/-- The request of a check, with the peer's credentials, is answered by the
peer. The answer has the transaction id of the request, the type and the
cookie that the checker looks for, and an XOR-MAPPED-ADDRESS with the address
and the port the request came from. (The attribute has no room for the flow
label and the scope of an IPv6 socket address.) -/
theorem check_answered (hmac : Hmac) (role : IceRole) (localUfrag remoteUfrag remotePwd : Text)
    (priority : UInt32) (txnId : Octets 12) (tieBreaker : Octets 8) (source : SocketAddr)
    (hufrag : ':' ∉ remoteUfrag)
    (hsize : (checkAttributes role localUfrag remoteUfrag priority tieBreaker).length+24 < 65536) :
    ∃ response msgLen body value,
      buildBindingResponse hmac
        (checkRequest hmac role localUfrag remoteUfrag remotePwd priority txnId tieBreaker)
        txnId source remoteUfrag remotePwd = some response ∧
      response = message bindingResponse msgLen magicCookie txnId body ∧
      msgLen.toNat = body.length ∧ validResponse response = true ∧
      (attrXorMappedAddress,value) ∈ attributes body.length body ∧
      parseXorAddress value txnId = some (some (.new source.ip source.port)) := by
  obtain ⟨msgLen,as,mac,hanswer,rfl,hlen,hread⟩ := answer_encoded hmac remotePwd source txnId
  refine ⟨_,_,_,mappedValue source txnId,
    buildBindingResponse_check hmac role remotePwd priority txnId tieBreaker source hufrag hsize,
    hanswer,hlen,?_,?_,parseXorAddress_mappedValue source txnId⟩
  · rw [hanswer]
    exact validResponse_message ..
  · rw [← hlen, hread]
    exact List.mem_cons_self

/-- A check of the controlling agent `b`, received over IPv6 by the agent `a`. -/
theorem check_answered_v6 : ∃ response msgLen body value,
    buildBindingResponse (fun _ _ => zeroOctets 20)
      (checkRequest (fun _ _ => zeroOctets 20) .controlling "b" "a" "p" 1
        (zeroOctets 12) (zeroOctets 8))
      (zeroOctets 12) (.v6 (zeroOctets 16) 7 0 0) "a" "p" = some response ∧
    response = message bindingResponse msgLen magicCookie (zeroOctets 12) body ∧
    msgLen.toNat = body.length ∧ validResponse response = true ∧
    (attrXorMappedAddress,value) ∈ attributes body.length body ∧
    parseXorAddress value (zeroOctets 12) =
      some (some (.new (SocketAddr.v6 (zeroOctets 16) 7 0 0).ip
        (SocketAddr.v6 (zeroOctets 16) 7 0 0).port)) :=
  check_answered _ _ _ _ _ _ _ _ _ (by decide) (by decide)

end RsipRtp.BindingCheck
