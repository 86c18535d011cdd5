import RsipRtp.BindingCheck

/-!
# A Data indication is read

The attributes of an indication stand one behind the other, each filled up to
a multiple of four.
-/

namespace RsipRtp.TurnIndication
open SipText ByteCursor StunMessage TurnMessage BindingCheck
open SrtpKdf (Octets)

def isData (a : UInt16 × Bytes) : Bool := a.1 == attrData

def lastData (as : List (UInt16 × Bytes)) : Option Bytes := (as.filter isData).getLast?.map Prod.snd

theorem foldlM_others {txnId : Octets 12} {as : List (UInt16 × Bytes)}
    (h : ∀ a ∈ as, a.1 ≠ attrXorPeerAddress) (s : Relayed) :
    as.foldlM (fun s a => handleIndication txnId a.1 a.2 s) s =
      some {s with payload := (lastData as).or s.payload} := by
  induction as generalizing s with
  | nil => rfl
  | cons a as ih =>
    have hrest := ih fun x hx => h x (List.mem_cons_of_mem a hx)
    rw [List.foldlM_cons, handleIndication, if_neg (h a List.mem_cons_self)]
    by_cases ha : a.1 = attrData
    · rw [if_pos ha, Option.bind_eq_bind, Option.bind_some, hrest, lastData, lastData,
        List.filter_cons_of_pos (by simp [isData, ha]), List.getLast?_cons]
      cases (as.filter isData).getLast? <;> rfl
    · rw [if_neg ha, Option.bind_eq_bind, Option.bind_some, hrest, lastData, lastData,
        List.filter_cons_of_neg (by simp [isData, ha])]

theorem handleIndication_peer (addr : SocketAddr) (txnId : Octets 12) (s : Relayed) :
    handleIndication txnId attrXorPeerAddress (mappedValue addr txnId) s =
      some {s with peerAddr := some (.new addr.ip addr.port)} := by
  rw [handleIndication, if_pos rfl, parseXorAddress_mappedValue]
  rfl

def indicationBody (before after : List (UInt16 × Bytes)) (addr : SocketAddr) (txnId : Octets 12) :
    Bytes :=
  before.flatMap encodeAttr++(encodeXorAddress attrXorPeerAddress addr txnId++
    after.flatMap encodeAttr)

/-- The address of the peer and the data of an indication are read whatever
attributes stand before, between and behind them. (The attribute has no room
for the flow label and the scope of an IPv6 socket address.) -/
theorem indication_read {before after : List (UInt16 × Bytes)} {addr : SocketAddr}
    {txnId : Octets 12} {cookie : UInt32} {msgLen : UInt16} {payload : Bytes}
    (hpeer : ∀ a ∈ before++after, a.1 ≠ attrXorPeerAddress)
    (hdata : (before++after).filter isData = [(attrData,payload)])
    (hlen : msgLen.toNat = (indicationBody before after addr txnId).length) :
    parseDataIndication (message dataIndication msgLen cookie txnId
        (indicationBody before after addr txnId)) =
      some (.ok (.new addr.ip addr.port,payload)) := by
  have hbody : indicationBody before after addr txnId =
      (before++(attrXorPeerAddress,mappedValue addr txnId)::after).flatMap encodeAttr := by
    rw [indicationBody, encodeXorAddress_encodeAttr, List.flatMap_append, List.flatMap_cons]
  have hlist : attributes msgLen.toNat (indicationBody before after addr txnId) =
      before++(attrXorPeerAddress,mappedValue addr txnId)::after := by
    have hshort := msgLen.toNat_lt
    rw [hbody] at hlen ⊢
    rw [hlen] at hshort ⊢
    exact attributes_encode hshort (length_le_flatMap _)
  have hlast : (lastData after).or (lastData before) = some payload := by
    have hmap := congrArg (fun l => l.getLast?.map Prod.snd) hdata
    simpa [lastData, List.filter_append, List.getLast?_append, Option.map_or] using hmap
  rw [parseDataIndication, if_neg (not_short _ _ _ _ _)]
  simp only [readU16_message, readU16_put, readU32_put, readOctets_append, Option.bind_eq_bind,
    Option.bind_some]
  rw [if_neg (by simp), slice_message _ _ _ _ _ hlen.le, hlen, List.take_length, Option.bind_some,
    walk_eq_foldlM, ← hlen, hlist, List.foldlM_append,
    foldlM_others fun a ha => hpeer a (List.mem_append_left after ha)]
  simp only [Option.bind_eq_bind, Option.bind_some, List.foldlM_cons, handleIndication_peer,
    foldlM_others fun a ha => hpeer a (List.mem_append_right before ha), Option.or_none, hlast]

/-- Data behind an unknown attribute of three bytes, from `[::]:7`. -/
theorem padded_indication_read :
    parseDataIndication (message dataIndication 40 magicCookie ⟨List.replicate 12 0x22,rfl⟩
        (indicationBody [(0x8022,[1,2,3]),(attrData,[9,8])] [] (.v6 ⟨List.replicate 16 0,rfl⟩ 7 0 0)
          ⟨List.replicate 12 0x22,rfl⟩)) =
      some (.ok (.new (.v6 ⟨List.replicate 16 0,rfl⟩) 7,[9,8])) :=
  indication_read (by decide) (by decide) (by decide)

end RsipRtp.TurnIndication
