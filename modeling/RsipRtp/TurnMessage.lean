import RsipRtp.StunMessage

/-!
# Responses of a TURN server

The readers of the client: the Allocate response and its error, the Refresh
response and the Data indication.
-/

namespace RsipRtp.TurnMessage
open SipText BigEndian ByteCursor Utf8 StunMessage
open SrtpKdf (Octets)

def encodeXorAddress (attrType : UInt16) (addr : SocketAddr) (txnId : Octets 12) : Bytes :=
  match addr.ip with
  | .v4 ip => putU16 attrType++putU16 8++[0,afIpv4]++putU16 (addr.port ^^^ cookiePort) ++
      (xorOctets ip cookieBytes).1
  | .v6 ip => putU16 attrType++putU16 20++[0,afIpv6]++putU16 (addr.port ^^^ cookiePort) ++
      (xorOctets ip (cookieWith txnId)).1

def parseXorAddress (data : Bytes) (txnId : Octets 12) : Option (Option SocketAddr) :=
  parseAddress cookiePort cookieBytes (cookieWith txnId) data

inductive TurnError
  | invalidResponse (text : Text)
  | errorResponse (code : UInt16) (reason : Text)
  | noRelayAddress

structure TurnAllocation where
  relayedAddr : SocketAddr
  mappedAddr : SocketAddr
  lifetime : UInt32
  realm : Text
  nonce : Text

inductive AllocateResult
  | success (allocation : TurnAllocation)
  | authRequired (realm nonce : Text)

def allocateResponse : UInt16 := 0x0103
def allocateError : UInt16 := 0x0113
def refreshResponse : UInt16 := 0x0104
def dataIndication : UInt16 := 0x0017

def attrXorRelayedAddress : UInt16 := 0x0016
def attrXorPeerAddress : UInt16 := 0x0012
def attrLifetime : UInt16 := 0x000D
def attrData : UInt16 := 0x0013
def attrRealm : UInt16 := 0x0014
def attrNonce : UInt16 := 0x0015

structure Challenge where
  errorCode : UInt16
  errorReason : Text
  realm : Option Text
  nonce : Option Text

def handleError (attrType : UInt16) (value : Bytes) (s : Challenge) : Option Challenge :=
  if attrType = attrErrorCode ∧ 4 ≤ value.length then do
    let (_,buf) ← readU16 value
    let (cls,buf) ← readU8 buf
    let (number,_) ← readU8 buf
    let errorCode := cls.toUInt16*100+number.toUInt16
    if 4 < value.length then
      let reason ← slice 4 value.length value
      some {s with errorCode, errorReason := fromUtf8Lossy reason}
    else some {s with errorCode}
  else if attrType = attrRealm then some {s with realm := some (fromUtf8Lossy value)}
  else if attrType = attrNonce then some {s with nonce := some (fromUtf8Lossy value)}
  else some s

def parseErrorResponse (attrs : Bytes) : Option (Except TurnError AllocateResult) := do
  let s ← walk handleError attrs.length attrs ⟨0,[],none,none⟩
  match s.errorCode.toNat, s.realm, s.nonce with
  | 401, some realm, some nonce => some (.ok (.authRequired realm nonce))
  | _, _, _ => some (.error (.errorResponse s.errorCode s.errorReason))

structure Allocated where
  relayedAddr : Option SocketAddr
  mappedAddr : Option SocketAddr
  lifetime : UInt32

def readLifetime (value : Bytes) : Option UInt32 := do
  let (lifetime,_) ← readU32 value
  some lifetime

def handleAllocate (txnId : Octets 12) (attrType : UInt16) (value : Bytes) (s : Allocated) :
    Option Allocated :=
  if attrType = attrXorRelayedAddress then do
    let relayedAddr ← parseXorAddress value txnId
    some {s with relayedAddr}
  else if attrType = attrXorMappedAddress then do
    let mappedAddr ← parseXorAddress value txnId
    some {s with mappedAddr}
  else if attrType = attrLifetime ∧ 4 ≤ value.length then do
    let lifetime ← readLifetime value
    some {s with lifetime}
  else some s

def unspecifiedAddr : SocketAddr := .new (.v4 ⟨[0,0,0,0],rfl⟩) 0

def unexpectedType (msgType : UInt16) : TurnError :=
  .invalidResponse ("Unexpected message type: 0x"++hex4 msgType)

def tooShort : TurnError := .invalidResponse "Message too short"

def parseAllocateResponse (transactionId : Octets 12) (data : Bytes) :
    Option (Except TurnError AllocateResult) :=
  if data.length < 20 then some (.error tooShort)
  else do
    let (msgType,buf) ← readU16 data
    let (msgLen,buf) ← readU16 buf
    let (_,buf) ← readU32 buf
    let (txnId,_) ← readOctets 12 buf
    if txnId ≠ transactionId then
      some (.error (.invalidResponse "Transaction ID mismatch"))
    else if msgType = allocateError then
      let attrs ← slice 20 (20+msgLen.toNat) data
      parseErrorResponse attrs
    else if msgType ≠ allocateResponse then some (.error (unexpectedType msgType))
    else
      let attrs ← slice 20 (20+msgLen.toNat) data
      let s ← walk (handleAllocate transactionId) attrs.length attrs ⟨none,none,600⟩
      match s.relayedAddr with
      | none => some (.error .noRelayAddress)
      | some relayed =>
        some (.ok (.success ⟨relayed,s.mappedAddr.getD unspecifiedAddr,s.lifetime,[],[]⟩))

def handleRefresh (attrType : UInt16) (value : Bytes) (lifetime : UInt32) : Option UInt32 :=
  if attrType = attrLifetime ∧ 4 ≤ value.length then readLifetime value else some lifetime

def parseRefreshResponse (data : Bytes) : Option (Except TurnError UInt32) :=
  if data.length < 20 then some (.error tooShort)
  else do
    let (msgType,buf) ← readU16 data
    let (msgLen,_) ← readU16 buf
    if msgType ≠ refreshResponse then some (.error (unexpectedType msgType))
    else
      let attrs ← slice 20 (20+msgLen.toNat) data
      let lifetime ← walk handleRefresh attrs.length attrs 600
      some (.ok lifetime)

structure Relayed where
  peerAddr : Option SocketAddr
  payload : Option Bytes

def handleIndication (txnId : Octets 12) (attrType : UInt16) (value : Bytes) (s : Relayed) :
    Option Relayed :=
  if attrType = attrXorPeerAddress then do
    let peerAddr ← parseXorAddress value txnId
    some {s with peerAddr}
  else if attrType = attrData then some {s with payload := some value}
  else some s

def parseDataIndication (data : Bytes) : Option (Except TurnError (SocketAddr × Bytes)) :=
  if data.length < 20 then some (.error tooShort)
  else do
    let (msgType,buf) ← readU16 data
    let (msgLen,buf) ← readU16 buf
    let (_,buf) ← readU32 buf
    let (txnId,_) ← readOctets 12 buf
    if msgType ≠ dataIndication then
      some (.error (.invalidResponse ("Expected Data indication, got 0x"++hex4 msgType)))
    else
      let attrs ← slice 20 (20+msgLen.toNat) data
      let s ← walk (handleIndication txnId) attrs.length attrs ⟨none,none⟩
      match s.peerAddr, s.payload with
      | some addr, some payload => some (.ok (addr,payload))
      | _, _ => some (.error (.invalidResponse "Missing peer address or data"))

section Safety

theorem isSome_bind {α β : Type} {x : Option α} {f : α → Option β} (hx : x.isSome)
    (hf : ∀ a, (f a).isSome) : (x.bind f).isSome := by
  obtain ⟨a,rfl⟩ := Option.isSome_iff_exists.mp hx
  exact hf a

theorem readLifetime_isSome {value : Bytes} (h : 4 ≤ value.length) :
    (readLifetime value).isSome := by
  obtain ⟨lifetime,rest,rfl⟩ := exists_readU32 h
  simp [readLifetime]

theorem handleError_isSome (attrType : UInt16) (value : Bytes) (s : Challenge) :
    (handleError attrType value s).isSome := by
  by_cases hcode : attrType = attrErrorCode ∧ 4 ≤ value.length
  · rw [handleError, if_pos hcode]
    obtain ⟨reserved,tail,rfl⟩ := exists_readU16 (show 2 ≤ value.length by omega)
    have htail := hcode.2
    rw [List.length_append, putU16_length] at htail
    obtain ⟨cls,tail,rfl⟩ := exists_readU8 (show 1 ≤ tail.length by omega)
    rw [List.length_cons] at htail
    obtain ⟨number,tail,rfl⟩ := exists_readU8 (show 1 ≤ tail.length by omega)
    simp only [readU16_put, readU8_cons, Option.bind_eq_bind, Option.bind_some]
    split_ifs with hreason
    · rw [slice_of_le (by omega) le_rfl]
      rfl
    · rfl
  · rw [handleError, if_neg hcode]
    split_ifs <;> rfl

theorem handleAllocate_isSome (txnId : Octets 12) (attrType : UInt16) (value : Bytes)
    (s : Allocated) : (handleAllocate txnId attrType value s).isSome := by
  rw [handleAllocate]
  split_ifs with hrelayed hmapped hlifetime
  · exact isSome_bind (parseAddress_isSome _ _ _ value) (fun _ => rfl)
  · exact isSome_bind (parseAddress_isSome _ _ _ value) (fun _ => rfl)
  · exact isSome_bind (readLifetime_isSome hlifetime.2) (fun _ => rfl)
  · rfl

theorem handleRefresh_isSome (attrType : UInt16) (value : Bytes) (lifetime : UInt32) :
    (handleRefresh attrType value lifetime).isSome := by
  rw [handleRefresh]
  split_ifs with hlifetime
  · exact readLifetime_isSome hlifetime.2
  · rfl

theorem handleIndication_isSome (txnId : Octets 12) (attrType : UInt16) (value : Bytes)
    (s : Relayed) : (handleIndication txnId attrType value s).isSome := by
  rw [handleIndication]
  split_ifs
  · exact isSome_bind (parseAddress_isSome _ _ _ value) (fun _ => rfl)
  · rfl
  · rfl

theorem parseErrorResponse_isSome (attrs : Bytes) : (parseErrorResponse attrs).isSome := by
  refine isSome_bind (walk_isSome handleError_isSome _ _ _) (fun s => ?_)
  split <;> rfl

variable (msgType msgLen : UInt16) (cookie : UInt32) (txnId : Octets 12) (body : Bytes)

theorem not_short : ¬(message msgType msgLen cookie txnId body).length < 20 := by
  rw [message_length]
  omega

/-- Cutting the attributes out panics exactly if the length field covers more
than what follows the header. -/
theorem cut_isSome_iff {β : Type} {f : Bytes → Option β} (hf : ∀ attrs, (f attrs).isSome) :
    ((slice 20 (20+msgLen.toNat) (message msgType msgLen cookie txnId body)).bind f).isSome ↔
      msgLen.toNat ≤ body.length := by
  by_cases hfits : msgLen.toNat ≤ body.length
  · rw [slice_message _ _ _ _ _ hfits]
    exact iff_of_true (hf _) hfits
  · rw [slice_message_none _ _ _ _ _ (Nat.not_le.mp hfits)]
    exact iff_of_false Bool.false_ne_true hfits

theorem parseAllocateResponse_isSome_iff (transactionId : Octets 12) :
    (parseAllocateResponse transactionId (message msgType msgLen cookie txnId body)).isSome ↔
      (txnId = transactionId → msgType = allocateError ∨ msgType = allocateResponse →
        msgLen.toNat ≤ body.length) := by
  rw [parseAllocateResponse, if_neg (not_short _ _ _ _ _)]
  simp only [readU16_message, readU16_put, readU32_put, readOctets_append, Option.bind_eq_bind,
    Option.bind_some]
  split_ifs with htxn herror hother
  · exact iff_of_true rfl (fun h => absurd h htxn)
  · rw [cut_isSome_iff _ _ _ _ _ parseErrorResponse_isSome]
    exact ⟨fun h _ _ => h,fun h => h (not_not.mp htxn) (.inl herror)⟩
  · exact iff_of_true rfl (fun _ h => absurd h (by simp [herror, hother]))
  · rw [cut_isSome_iff]
    · exact ⟨fun h _ _ => h,fun h => h (not_not.mp htxn) (.inr (not_not.mp hother))⟩
    · refine fun attrs => isSome_bind (walk_isSome (handleAllocate_isSome transactionId) _ _ _)
        (fun s => ?_)
      split <;> rfl

theorem parseRefreshResponse_isSome_iff :
    (parseRefreshResponse (message msgType msgLen cookie txnId body)).isSome ↔
      (msgType = refreshResponse → msgLen.toNat ≤ body.length) := by
  rw [parseRefreshResponse, if_neg (not_short _ _ _ _ _)]
  simp only [readU16_message, readU16_put, Option.bind_eq_bind, Option.bind_some]
  split_ifs with htype
  · exact iff_of_true rfl (fun h => absurd h htype)
  · rw [cut_isSome_iff]
    · exact ⟨fun h _ => h,fun h => h (not_not.mp htype)⟩
    · exact fun attrs => isSome_bind (walk_isSome handleRefresh_isSome _ _ _) (fun _ => rfl)

theorem parseDataIndication_isSome_iff :
    (parseDataIndication (message msgType msgLen cookie txnId body)).isSome ↔
      (msgType = dataIndication → msgLen.toNat ≤ body.length) := by
  rw [parseDataIndication, if_neg (not_short _ _ _ _ _)]
  simp only [readU16_message, readU16_put, readU32_put, readOctets_append, Option.bind_eq_bind,
    Option.bind_some]
  split_ifs with htype
  · exact iff_of_true rfl (fun h => absurd h htype)
  · rw [cut_isSome_iff]
    · exact ⟨fun h _ => h,fun h => h (not_not.mp htype)⟩
    · refine fun attrs => isSome_bind (walk_isSome (handleIndication_isSome txnId) _ _ _)
        (fun s => ?_)
      split <;> rfl

/-- A datagram that reaches the attributes of one of the readers and has
fewer bytes than its header announces. -/
def Overrun (transactionId : Octets 12) (data : Bytes) : Prop :=
  ∃ msgType msgLen cookie txnId body, data = message msgType msgLen cookie txnId body ∧
    body.length < msgLen.toNat ∧
    (msgType = refreshResponse ∨ msgType = dataIndication ∨
      (msgType = allocateError ∨ msgType = allocateResponse) ∧ txnId = transactionId)

/-- The readers return, with a value or an error, exactly for the datagrams
that do not overrun; the reader of the error attributes always does. -/
theorem readers_return_iff (transactionId : Octets 12) (data : Bytes) :
    (parseAllocateResponse transactionId data).isSome ∧ (parseErrorResponse data).isSome ∧
      (parseRefreshResponse data).isSome ∧ (parseDataIndication data).isSome ↔
      ¬Overrun transactionId data := by
  by_cases hlong : 20 ≤ data.length
  · obtain ⟨msgType,msgLen,cookie,txnId,body,rfl⟩ := exists_message hlong
    rw [parseAllocateResponse_isSome_iff, parseRefreshResponse_isSome_iff,
      parseDataIndication_isSome_iff]
    constructor
    · rintro ⟨hallocate,_,hrefresh,hindication⟩ ⟨_,_,_,_,_,heq,hover,htype⟩
      obtain ⟨rfl,rfl,rfl,rfl,rfl⟩ := message_inj heq
      rcases htype with h | h | ⟨h,htxn⟩
      · exact absurd (hrefresh h) (Nat.not_le.mpr hover)
      · exact absurd (hindication h) (Nat.not_le.mpr hover)
      · exact absurd (hallocate htxn h) (Nat.not_le.mpr hover)
    · intro hsafe
      have hfits (htype : msgType = refreshResponse ∨ msgType = dataIndication ∨
          (msgType = allocateError ∨ msgType = allocateResponse) ∧ txnId = transactionId) :
          msgLen.toNat ≤ body.length :=
        Nat.not_lt.mp fun hover => hsafe ⟨_,_,_,_,_,rfl,hover,htype⟩
      exact ⟨fun htxn h => hfits (.inr (.inr ⟨h,htxn⟩)),parseErrorResponse_isSome _,
        fun h => hfits (.inl h),fun h => hfits (.inr (.inl h))⟩
  · have hshort : data.length < 20 := Nat.not_le.mp hlong
    refine iff_of_true ⟨?_,parseErrorResponse_isSome data,?_,?_⟩ ?_
    · rw [parseAllocateResponse, if_pos hshort]; rfl
    · rw [parseRefreshResponse, if_pos hshort]; rfl
    · rw [parseDataIndication, if_pos hshort]; rfl
    · rintro ⟨msgType,msgLen,cookie,txnId,body,rfl,_⟩
      exact not_short _ _ _ _ _ hshort

/-- An Allocate response of twenty bytes that announces four more. -/
theorem short_response_panics :
    parseAllocateResponse (zeroOctets 12)
      (message allocateResponse 4 magicCookie (zeroOctets 12) []) = none ∧
    parseAllocateResponse (zeroOctets 12)
      (message allocateError 4 magicCookie (zeroOctets 12) []) = none ∧
    parseRefreshResponse (message refreshResponse 4 magicCookie (zeroOctets 12) []) = none ∧
    parseDataIndication (message dataIndication 4 magicCookie (zeroOctets 12) []) = none := by
  refine ⟨rfl,rfl,rfl,rfl⟩

end Safety

end RsipRtp.TurnMessage
