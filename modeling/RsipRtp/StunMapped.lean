import RsipRtp.BindingCheck
import RsipRtp.StunAgreement

/-!
# The mapped address of a response

The responder combines the last twelve bytes of an IPv6 address with the
transaction id; the reader of a Binding response takes them as they are.
-/

namespace RsipRtp.StunMapped
open SipText StunMessage StunBinding BindingCheck StunAgreement
open BigEndian (zipWith_xor_cancel)
open SrtpKdf (Octets)

section Masks

variable {n : ℕ}

theorem xorOctets_right_injective {ip a b : Octets n} (h : xorOctets ip a = xorOctets ip b) :
    a = b :=
  Subtype.ext (zipWith_xor_cancel ip.1 a.1 b.1 (a.2.trans ip.2.symm) (b.2.trans ip.2.symm)
    (congrArg Subtype.val h))

/-- Two masks give the bytes back exactly if they are the same. -/
theorem xorOctets_xorOctets_iff (ip a b : Octets n) : xorOctets (xorOctets ip a) b = ip ↔
    a = b := by
  constructor
  · intro h
    have hmask := congrArg (xorOctets · b) h
    rw [xorOctets_cancel] at hmask
    exact xorOctets_right_injective hmask
  · rintro rfl
    exact xorOctets_cancel ip a

theorem cookieWith_injective {a b : Octets 12} (h : cookieWith a = cookieWith b) : a = b :=
  Subtype.ext (List.append_cancel_left (congrArg Subtype.val h))

end Masks

section Response

variable {msgLen : UInt16} {txnId : Octets 12} {body : Bytes} {source : SocketAddr}

/-- The last XOR-MAPPED-ADDRESS of a response that is not cut off is the one
that the responder writes for a source. -/
def Carries (msgLen : UInt16) (body : Bytes) (source : SocketAddr) (txnId : Octets 12) : Prop :=
  msgLen.toNat ≤ body.length ∧
    ((listOf msgLen body).filter (fun a => a.1 == attrXorMappedAddress)).getLast? =
      some (attrXorMappedAddress,mappedValue source txnId)

/-- The reader finds an address, and it is that of the source. (The attribute
has no room for the flow label and the scope of an IPv6 socket address.) -/
def Restored (found : Option (Except StunError SocketAddr)) (source : SocketAddr) : Prop :=
  found = some (.ok (.new source.ip source.port))

theorem parseBindingResponse_carries (h : Carries msgLen body source txnId) :
    parseBindingResponse (message bindingResponse msgLen magicCookie txnId body) txnId =
      some (.ok (.new (unmasked source txnId (cookieWith (zeroOctets 12))) source.port)) := by
  refine (parseBindingResponse_ok_iff ..).mpr ⟨h.1,?_⟩
  rw [Listed, lastAddress, h.2]
  dsimp only
  rw [parseMappedAddress, if_pos rfl, parseAddress_mappedValue]
  rfl

theorem unmasked_eq_iff (source : SocketAddr) (txnId tail : Octets 12) :
    unmasked source txnId (cookieWith tail) = source.ip ↔
      (∃ ip, source.ip = .v4 ip) ∨ txnId = tail := by
  cases source with
  | v4 ip port => exact iff_of_true rfl (.inl ⟨ip,rfl⟩)
  | v6 ip port flowinfo scopeId =>
    have hv4 : ¬∃ ip', IpAddr.v6 ip = .v4 ip' := nofun
    rw [unmasked, SocketAddr.ip, IpAddr.v6.injEq, xorOctets_xorOctets_iff, or_iff_right hv4]
    exact ⟨cookieWith_injective,fun h => by rw [h]⟩

theorem answer_carries (hmac : Hmac) (pwd : Text) (source : SocketAddr) (txnId : Octets 12) :
    ∃ msgLen body, answer hmac pwd source txnId =
      message bindingResponse msgLen magicCookie txnId body ∧ Carries msgLen body source txnId := by
  obtain ⟨msgLen,as,mac,hanswer,rfl,hlen,hread⟩ := answer_encoded hmac pwd source txnId
  refine ⟨msgLen,_,hanswer,hlen.le,?_⟩
  rw [listOf, covered, List.take_of_length_le hlen.ge, ← hlen, hread]
  rfl

end Response

/-- The reader restores the address of the source exactly if that is an IPv4
address or the transaction id is all zeros. -/
theorem mapped_address_restored_iff {msgLen : UInt16} {txnId : Octets 12} {body : Bytes}
    {source : SocketAddr} (h : Carries msgLen body source txnId) :
    Restored (parseBindingResponse (message bindingResponse msgLen magicCookie txnId body) txnId)
      source ↔ (∃ ip, source.ip = .v4 ip) ∨ txnId = zeroOctets 12 := by
  rw [Restored, parseBindingResponse_carries h, ← unmasked_eq_iff, Option.some.injEq,
    Except.ok.injEq]
  constructor
  · intro heq
    have hip := congrArg SocketAddr.ip heq
    cases source <;> exact hip
  · intro hip
    rw [hip]

theorem mapped_ipv4_restored : Restored (parseBindingResponse
    (answer (fun _ _ => zeroOctets 20) "p" (reflexive 1) ⟨List.replicate 12 0x22,rfl⟩)
    ⟨List.replicate 12 0x22,rfl⟩) (reflexive 1) := by
  obtain ⟨msgLen,body,hanswer,h⟩ := answer_carries (fun _ _ => zeroOctets 20) "p"
    (reflexive 1) ⟨List.replicate 12 0x22,rfl⟩
  rw [hanswer]
  exact (mapped_address_restored_iff h).mpr (.inl ⟨_,rfl⟩)

/-- The socket address `[2001:db8::1]:8080`. -/
def sampleSource : SocketAddr :=
  .v6 ⟨[0x20,0x01,0x0D,0xB8,0,0,0,0,0,0,0,0,0,0,0,1],rfl⟩ 8080 0 0

/-- The responder's answer to `[2001:db8::1]:8080` is read as
`[2001:db8:2222:2222:2222:2222:2222:2223]:8080`. -/
theorem mapped_ipv6_garbled :
    parseBindingResponse
        (answer (fun _ _ => zeroOctets 20) "p" sampleSource ⟨List.replicate 12 0x22,rfl⟩)
        ⟨List.replicate 12 0x22,rfl⟩ =
      some (.ok (.v6 ⟨[0x20,0x01,0x0D,0xB8,0x22,0x22,0x22,0x22,0x22,0x22,0x22,0x22,0x22,0x22,0x22,
        0x23],rfl⟩ 8080 0 0)) := by
  decide +kernel

end RsipRtp.StunMapped
