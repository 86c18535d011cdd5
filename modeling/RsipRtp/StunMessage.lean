import RsipRtp.ByteCursor
import RsipRtp.SrtpKdf
import RsipRtp.Utf8

/-!
# STUN messages

Socket addresses and how they stand in an attribute, the reader of a Binding
response, and the second reader of such a response that the ICE agent has
inlined.
-/

namespace RsipRtp.StunMessage
open SipText BigEndian ByteCursor Utf8
open SrtpKdf (Octets)

inductive IpAddr
  | v4 (ip : Octets 4)
  | v6 (ip : Octets 16)

inductive SocketAddr
  | v4 (ip : Octets 4) (port : UInt16)
  | v6 (ip : Octets 16) (port : UInt16) (flowinfo scopeId : UInt32)
deriving DecidableEq

def SocketAddr.new : IpAddr → UInt16 → SocketAddr
  | .v4 ip, port => .v4 ip port
  | .v6 ip, port => .v6 ip port 0 0

def SocketAddr.ip : SocketAddr → IpAddr
  | .v4 ip _ => .v4 ip
  | .v6 ip _ _ _ => .v6 ip

def SocketAddr.port : SocketAddr → UInt16
  | .v4 _ port => port
  | .v6 _ port _ _ => port

def magicCookie : UInt32 := 0x2112A442

def cookieBytes : Octets 4 := ⟨putU32 magicCookie,rfl⟩

def cookiePort : UInt16 := (magicCookie >>> 16).toUInt16

def xorOctets {n : ℕ} (a b : Octets n) : Octets n :=
  ⟨List.zipWith (fun x y => x ^^^ y) a.1 b.1,by rw [List.length_zipWith, a.2, b.2, Nat.min_self]⟩

/-- What the bytes of an IPv6 address are combined with: the cookie and
twelve further bytes. -/
def cookieWith (tail : Octets 12) : Octets 16 :=
  ⟨cookieBytes.1++tail.1,by rw [List.length_append, cookieBytes.2, tail.2]⟩

def zeroOctets (n : ℕ) : Octets n := ⟨List.replicate n 0,List.length_replicate⟩

def readOctets (n : ℕ) (buf : Bytes) : Option (Octets n × Bytes) :=
  if h : n ≤ buf.length then some (⟨buf.take n,List.length_take_of_le h⟩,buf.drop n) else none

def afIpv4 : UInt8 := 0x01
def afIpv6 : UInt8 := 0x02

/-- An address attribute: a reserved byte, the family, the port and the
address, the last two under a mask. -/
def parseAddress (portMask : UInt16) (mask4 : Octets 4) (mask6 : Octets 16) (data : Bytes) :
    Option (Option SocketAddr) :=
  if data.length < 4 then some none
  else do
    let (_,buf) ← readU8 data
    let (family,buf) ← readU8 buf
    let (port,buf) ← readU16 buf
    if family = afIpv4 ∧ 8 ≤ data.length then
      let (ip,_) ← readOctets 4 buf
      some (some (.new (.v4 (xorOctets ip mask4)) (port ^^^ portMask)))
    else if family = afIpv6 ∧ 20 ≤ data.length then
      let (ip,_) ← readOctets 16 buf
      some (some (.new (.v6 (xorOctets ip mask6)) (port ^^^ portMask)))
    else some none

/-- With `xor` the first four bytes of an IPv6 address are combined with the
cookie, the other twelve are taken as they are: the source has no transaction
id here. Without `xor` nothing is combined. -/
def parseMappedAddress (data : Bytes) (xor : Bool) : Option (Option SocketAddr) :=
  if xor then parseAddress cookiePort cookieBytes (cookieWith (zeroOctets 12)) data
  else parseAddress 0 (zeroOctets 4) (zeroOctets 16) data

inductive StunError
  | invalidResponse (text : Text)
  | errorResponse (code : UInt16) (reason : Text)
  | noMappedAddress
deriving DecidableEq

def bindingRequest : UInt16 := 0x0001
def bindingResponse : UInt16 := 0x0101
def bindingError : UInt16 := 0x0111

def attrMappedAddress : UInt16 := 0x0001
def attrXorMappedAddress : UInt16 := 0x0020
def attrErrorCode : UInt16 := 0x0009

/-- `{:04x}` -/
def hex4 (n : UInt16) : Text :=
  let digits := Nat.toDigits 16 n.toNat
  List.replicate (4-digits.length) '0'++digits

/-- The loop that looks for an error code. It does not stop at an attribute
that is cut off unless the padding is missing too. -/
def parseErrorLoop : ℕ → Bytes → Option StunError
  | 0, _ => some (.errorResponse 0 "Unknown error")
  | fuel+1, buf =>
    if buf.length < 4 then some (.errorResponse 0 "Unknown error")
    else do
      let (attrType,buf) ← readU16 buf
      let (attrLen,buf) ← readU16 buf
      if attrType = attrErrorCode ∧ 4 ≤ attrLen.toNat ∧ attrLen.toNat ≤ buf.length then
        let (_,buf) ← readU16 buf
        let (cls,buf) ← readU8 buf
        let (number,buf) ← readU8 buf
        let code := cls.toUInt16*100+number.toUInt16
        if 4 < attrLen.toNat then
          let reason ← slice 0 (attrLen.toNat-4) buf
          some (.errorResponse code (fromUtf8Lossy reason))
        else some (.errorResponse code [])
      else if padded attrLen.toNat ≤ buf.length then
        let buf ← advance (padded attrLen.toNat) buf
        parseErrorLoop fuel buf
      else some (.errorResponse 0 "Unknown error")

def parseErrorResponse (attrs : Bytes) : Option StunError := parseErrorLoop attrs.length attrs

structure Mapped where
  mappedAddr : Option SocketAddr
  xorMappedAddr : Option SocketAddr

def handleAddress (attrType : UInt16) (attrData : Bytes) (s : Mapped) : Option Mapped :=
  if attrType = attrMappedAddress then do
    let mappedAddr ← parseMappedAddress attrData false
    some {s with mappedAddr}
  else if attrType = attrXorMappedAddress then do
    let xorMappedAddr ← parseMappedAddress attrData true
    some {s with xorMappedAddr}
  else some s

def parseBindingResponse (data : Bytes) (expectedTxnId : Octets 12) :
    Option (Except StunError SocketAddr) :=
  if data.length < 20 then some (.error (.invalidResponse "Message too short"))
  else do
    let (msgType,buf) ← readU16 data
    if msgType = bindingError then
      let attrs ← slice 20 data.length data
      let error ← parseErrorResponse attrs
      some (.error error)
    else if msgType ≠ bindingResponse then
      some (.error (.invalidResponse ("Unexpected message type: 0x"++hex4 msgType)))
    else
      let (msgLen,buf) ← readU16 buf
      if data.length < 20+msgLen.toNat then
        some (.error (.invalidResponse "Truncated message"))
      else
        let (cookie,buf) ← readU32 buf
        if cookie ≠ magicCookie then
          some (.error (.invalidResponse "Invalid magic cookie"))
        else
          let (txnId,_) ← readOctets 12 buf
          if txnId ≠ expectedTxnId then
            some (.error (.invalidResponse "Transaction ID mismatch"))
          else
            let attrs ← slice 20 (20+msgLen.toNat) data
            let found ← walk handleAddress attrs.length attrs ⟨none,none⟩
            some (((found.xorMappedAddr.or found.mappedAddr).map .ok).getD
              (.error .noMappedAddress))

/-- What the agent's own loop reads of an attribute before it moves on: an
address if it is an IPv4 XOR-MAPPED-ADDRESS, and what is left. -/
def readXorMapped (attrType attrLen : UInt16) (attrs : Bytes) :
    Option (Option SocketAddr × Bytes) :=
  if attrType = attrXorMappedAddress ∧ 8 ≤ attrLen.toNat then do
    let (_,attrs) ← readU8 attrs
    let (family,attrs) ← readU8 attrs
    let (port,attrs) ← readU16 attrs
    if family = 0x01 then
      let (b0,attrs) ← readU8 attrs
      let (b1,attrs) ← readU8 attrs
      let (b2,attrs) ← readU8 attrs
      let (b3,attrs) ← readU8 attrs
      let ip : Octets 4 := ⟨[b0 ^^^ 0x21,b1 ^^^ 0x12,b2 ^^^ 0xA4,b3 ^^^ 0x42],rfl⟩
      some (some (.new (.v4 ip) (port ^^^ cookiePort)),attrs)
    else some (none,attrs)
  else some (none,attrs)

def findXorMapped : ℕ → Bytes → Option (Except StunError SocketAddr)
  | 0, _ => some (.error .noMappedAddress)
  | fuel+1, attrs =>
    if attrs.length < 4 then some (.error .noMappedAddress)
    else do
      let (attrType,attrs) ← readU16 attrs
      let (attrLen,attrs) ← readU16 attrs
      let (found,attrs) ← readXorMapped attrType attrLen attrs
      match found with
      | some addr => some (.ok addr)
      | none =>
        if padded attrLen.toNat ≤ attrs.length then
          let attrs ← advance (padded attrLen.toNat) attrs
          findXorMapped fuel attrs
        else some (.error .noMappedAddress)

/-- What `stun_binding_request` makes of the response that the dispatcher
hands it; the transaction id was matched there. -/
def stunBindingRequest (data : Bytes) : Option (Except StunError SocketAddr) :=
  if data.length < 20 then some (.error (.invalidResponse "Too short"))
  else do
    let (msgType,buf) ← readU16 data
    if msgType ≠ bindingResponse then
      some (.error (.invalidResponse "Not a response"))
    else
      let (msgLen,buf) ← readU16 buf
      let (cookie,buf) ← readU32 buf
      if cookie ≠ magicCookie then some (.error (.invalidResponse "Bad cookie"))
      else
        let _ ← advance 12 buf
        let attrs ← slice 20 (20+min msgLen.toNat (data.length-20)) data
        findXorMapped attrs.length attrs

theorem readOctets_append {n : ℕ} (octets : Octets n) (rest : Bytes) :
    readOctets n (octets.1++rest) = some (octets,rest) := by
  have hle : n ≤ (octets.1++rest).length := by
    rw [List.length_append, octets.2]
    omega
  rw [readOctets, dif_pos hle]
  simp only [List.take_left' octets.2, List.drop_left' octets.2]

theorem exists_readOctets {n : ℕ} {buf : Bytes} (h : n ≤ buf.length) :
    ∃ (octets : Octets n) (rest : Bytes), buf = octets.1++rest :=
  ⟨⟨buf.take n,List.length_take_of_le h⟩,buf.drop n,(List.take_append_drop n buf).symm⟩

def message (msgType msgLen : UInt16) (cookie : UInt32) (txnId : Octets 12) (body : Bytes) :
    Bytes :=
  putU16 msgType++(putU16 msgLen++(putU32 cookie++(txnId.1++body)))

theorem message_length (msgType msgLen : UInt16) (cookie : UInt32) (txnId : Octets 12)
    (body : Bytes) : (message msgType msgLen cookie txnId body).length = 20+body.length := by
  simp only [message, List.length_append, putU16_length, putU32_length, txnId.2]
  omega

theorem readU16_message (msgType msgLen : UInt16) (cookie : UInt32) (txnId : Octets 12)
    (body : Bytes) : readU16 (message msgType msgLen cookie txnId body) =
      some (msgType,putU16 msgLen++(putU32 cookie++(txnId.1++body))) := readU16_put ..

theorem exists_message {data : Bytes} (h : 20 ≤ data.length) :
    ∃ msgType msgLen cookie txnId body, data = message msgType msgLen cookie txnId body := by
  obtain ⟨msgType,tail,rfl⟩ := exists_readU16 (show 2 ≤ data.length by omega)
  rw [List.length_append, putU16_length] at h
  obtain ⟨msgLen,tail,rfl⟩ := exists_readU16 (show 2 ≤ tail.length by omega)
  rw [List.length_append, putU16_length] at h
  obtain ⟨cookie,tail,rfl⟩ := exists_readU32 (show 4 ≤ tail.length by omega)
  rw [List.length_append, putU32_length] at h
  obtain ⟨txnId,body,rfl⟩ := exists_readOctets (show 12 ≤ tail.length by omega)
  exact ⟨msgType,msgLen,cookie,txnId,body,rfl⟩

theorem message_inj {msgType msgType' msgLen msgLen' : UInt16} {cookie cookie' : UInt32}
    {txnId txnId' : Octets 12} {body body' : Bytes}
    (h : message msgType msgLen cookie txnId body = message msgType' msgLen' cookie' txnId' body') :
    msgType = msgType' ∧ msgLen = msgLen' ∧ cookie = cookie' ∧ txnId = txnId' ∧ body = body' := by
  have htype := congrArg readU16 h
  rw [readU16_message, readU16_message, Option.some.injEq, Prod.mk.injEq] at htype
  have hlen := congrArg readU16 htype.2
  rw [readU16_put, readU16_put, Option.some.injEq, Prod.mk.injEq] at hlen
  have hcookie := congrArg readU32 hlen.2
  rw [readU32_put, readU32_put, Option.some.injEq, Prod.mk.injEq] at hcookie
  have htxn := congrArg (readOctets 12) hcookie.2
  rw [readOctets_append, readOctets_append, Option.some.injEq, Prod.mk.injEq] at htxn
  exact ⟨htype.1,hlen.1,hcookie.1,htxn.1,htxn.2⟩

theorem drop_message (msgType msgLen : UInt16) (cookie : UInt32) (txnId : Octets 12)
    (body : Bytes) : (message msgType msgLen cookie txnId body).drop 20 = body := by
  have hheader : (putU16 msgType++putU16 msgLen++putU32 cookie++txnId.1).length = 20 := by
    simp only [List.length_append, putU16_length, putU32_length, txnId.2]
  have hsplit : message msgType msgLen cookie txnId body =
      (putU16 msgType++putU16 msgLen++putU32 cookie++txnId.1)++body := by
    simp only [message, List.append_assoc]
  rw [hsplit, List.drop_left' hheader]

theorem slice_message (msgType msgLen : UInt16) (cookie : UInt32) (txnId : Octets 12)
    (body : Bytes) {n : ℕ} (h : n ≤ body.length) :
    slice 20 (20+n) (message msgType msgLen cookie txnId body) = some (body.take n) := by
  rw [slice_of_le (by omega) (by rw [message_length]; omega), List.drop_take, drop_message,
    Nat.add_sub_cancel_left]

theorem slice_message_none (msgType msgLen : UInt16) (cookie : UInt32) (txnId : Octets 12)
    (body : Bytes) {n : ℕ} (h : body.length < n) :
    slice 20 (20+n) (message msgType msgLen cookie txnId body) = none :=
  slice_eq_none (by rw [message_length]; omega)

theorem parseAddress_isSome (portMask : UInt16) (mask4 : Octets 4) (mask6 : Octets 16)
    (data : Bytes) : (parseAddress portMask mask4 mask6 data).isSome := by
  by_cases hshort : data.length < 4
  · rw [parseAddress, if_pos hshort]
    rfl
  · obtain ⟨b0,tail,rfl⟩ := exists_readU8 (show 1 ≤ data.length by omega)
    rw [parseAddress, if_neg hshort]
    rw [List.length_cons] at hshort
    obtain ⟨family,tail,rfl⟩ := exists_readU8 (show 1 ≤ tail.length by omega)
    rw [List.length_cons] at hshort
    obtain ⟨port,tail,rfl⟩ := exists_readU16 (show 2 ≤ tail.length by omega)
    simp only [readU8_cons, readU16_put, Option.bind_eq_bind, Option.bind_some, List.length_cons,
      List.length_append, putU16_length]
    split_ifs with h4 h6
    · obtain ⟨ip,rest,rfl⟩ := exists_readOctets (show 4 ≤ tail.length by omega)
      rw [readOctets_append]
      rfl
    · obtain ⟨ip,rest,rfl⟩ := exists_readOctets (show 16 ≤ tail.length by omega)
      rw [readOctets_append]
      rfl
    · rfl

theorem parseMappedAddress_isSome (data : Bytes) (xor : Bool) :
    (parseMappedAddress data xor).isSome := by
  cases xor <;> exact parseAddress_isSome _ _ _ data

end RsipRtp.StunMessage
