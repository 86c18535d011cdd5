import Mathlib.Logic.Relation
import RsipRtp.StunMessage

/-!
# Two readers of a Binding response

The loop that the agent has inlined returns the first IPv4 address that it
meets.
-/

namespace RsipRtp.StunAgreement
open SipText BigEndian ByteCursor StunMessage
open SrtpKdf (Octets)

/-- How the inlined loop moves from one attribute to what it takes for the
next one. -/
inductive Moves : Bytes → Bytes → Prop
  | skip {attrType attrLen : UInt16} {rest : Bytes} :
      ¬(attrType = attrXorMappedAddress ∧ 8 ≤ attrLen.toNat) →
      padded attrLen.toNat ≤ rest.length →
      Moves (attr attrType attrLen rest) (rest.drop (padded attrLen.toNat))
  | past {attrLen port : UInt16} {reserved family : UInt8} {rest : Bytes} :
      8 ≤ attrLen.toNat → family ≠ 1 → padded attrLen.toNat ≤ rest.length →
      Moves (attr attrXorMappedAddress attrLen (reserved::family::(putU16 port++rest)))
        (rest.drop (padded attrLen.toNat))

def Reaches : Bytes → Bytes → Prop := Relation.ReflTransGen Moves

/-- Behind the header of an XOR-MAPPED-ADDRESS stand the bytes that are read
of it. -/
def Readable (rest : Bytes) : Prop := 4 ≤ rest.length ∧ (rest[1]? = some 1 → 8 ≤ rest.length)

def Safe (attrs : Bytes) : Prop :=
  ∀ attrLen rest, Reaches attrs (attr attrXorMappedAddress attrLen rest) →
    8 ≤ attrLen.toNat → Readable rest

def Found (attrs : Bytes) (addr : SocketAddr) : Prop :=
  ∃ (attrLen port : UInt16) (reserved : UInt8) (ip : Octets 4) (rest : Bytes),
    Reaches attrs (attr attrXorMappedAddress attrLen
      (reserved::1::(putU16 port++(ip.1++rest)))) ∧ 8 ≤ attrLen.toNat ∧
    addr = .new (.v4 (xorOctets ip cookieBytes)) (port ^^^ cookiePort)

theorem moves_unique {a b c : Bytes} (hb : Moves a b) (hc : Moves a c) : b = c := by
  cases hb with
  | @skip attrType attrLen rest hother hle =>
    generalize ha : attr attrType attrLen rest = a at hc
    cases hc with
    | skip =>
      obtain ⟨rfl,rfl,rfl⟩ := attr_inj ha
      rfl
    | past hlen =>
      obtain ⟨rfl,rfl,rfl⟩ := attr_inj ha
      exact absurd ⟨rfl,hlen⟩ hother
  | @past attrLen port reserved family rest hlen hfamily hle =>
    generalize ha : attr attrXorMappedAddress attrLen (reserved::family::(putU16 port++rest)) = a
      at hc
    cases hc with
    | skip hother =>
      obtain ⟨rfl,rfl,rfl⟩ := attr_inj ha
      exact absurd ⟨rfl,hlen⟩ hother
    | past =>
      obtain ⟨_,rfl,hrest⟩ := attr_inj ha
      have hport := congrArg readU16 (List.cons.inj (List.cons.inj hrest).2).2
      rw [readU16_put, readU16_put, Option.some.injEq, Prod.mk.injEq] at hport
      rw [hport.2]

/-- From where the loop moves on, it reaches what it reaches from the next
attribute, and the attribute it is at. -/
theorem Moves.reaches_iff {a b c : Bytes} (h : Moves a b) :
    Reaches a c ↔ c = a ∨ Reaches b c := by
  constructor
  · intro hc
    rcases Relation.ReflTransGen.cases_head hc with rfl | ⟨d,had,hdc⟩
    · exact .inl rfl
    · rw [moves_unique h had]
      exact .inr hdc
  · rintro (rfl | hc)
    · exact .refl
    · exact .head h hc

theorem reaches_stuck {a c : Bytes} (h : ∀ b, ¬Moves a b) : Reaches a c ↔ c = a := by
  constructor
  · intro hc
    rcases Relation.ReflTransGen.cases_head hc with rfl | ⟨d,had,_⟩
    · rfl
    · exact absurd had (h d)
  · rintro rfl
    exact .refl

theorem Moves.safe_iff {a b : Bytes} (h : Moves a b) : Safe a ↔ Safe b := by
  have hhead (attrLen : UInt16) (rest : Bytes) (ha : attr attrXorMappedAddress attrLen rest = a)
      (hlen : 8 ≤ attrLen.toNat) : Readable rest := by
    cases h with
    | skip hother =>
      obtain ⟨rfl,rfl,rfl⟩ := attr_inj ha
      exact absurd ⟨rfl,hlen⟩ hother
    | past _ hfamily =>
      obtain ⟨_,rfl,rfl⟩ := attr_inj ha
      refine ⟨by simp,fun h1 => ?_⟩
      rw [List.getElem?_cons_succ, List.getElem?_cons_zero, Option.some.injEq] at h1
      exact absurd h1 hfamily
  constructor
  · exact fun hsafe attrLen rest hr => hsafe attrLen rest (h.reaches_iff.mpr (.inr hr))
  · intro hsafe attrLen rest hr hlen
    rcases h.reaches_iff.mp hr with ha | hr
    · exact hhead attrLen rest ha hlen
    · exact hsafe attrLen rest hr hlen

theorem Moves.found_iff {a b : Bytes} {addr : SocketAddr} (h : Moves a b) :
    Found a addr ↔ Found b addr := by
  constructor
  · rintro ⟨attrLen,port,reserved,ip,rest,hr,hlen,haddr⟩
    rcases h.reaches_iff.mp hr with ha | hr
    · cases h with
      | skip hother =>
        obtain ⟨rfl,rfl,rfl⟩ := attr_inj ha
        exact absurd ⟨rfl,hlen⟩ hother
      | past _ hfamily =>
        obtain ⟨_,rfl,hrest⟩ := attr_inj ha
        exact absurd (List.cons.inj (List.cons.inj hrest).2).1.symm hfamily
    · exact ⟨attrLen,port,reserved,ip,rest,hr,hlen,haddr⟩
  · rintro ⟨attrLen,port,reserved,ip,rest,hr,hlen,haddr⟩
    exact ⟨attrLen,port,reserved,ip,rest,h.reaches_iff.mpr (.inr hr),hlen,haddr⟩

section Loop

variable {fuel : ℕ} {attrType attrLen : UInt16} {rest : Bytes}

theorem findXorMapped_attr (fuel : ℕ) (attrType attrLen : UInt16) (rest : Bytes) :
    findXorMapped (fuel+1) (attr attrType attrLen rest) = (do
      let (found,attrs) ← readXorMapped attrType attrLen rest
      match found with
      | some addr => some (.ok addr)
      | none =>
        if padded attrLen.toNat ≤ attrs.length then
          findXorMapped fuel (attrs.drop (padded attrLen.toNat))
        else some (.error .noMappedAddress)) := by
  have hlong : ¬(attr attrType attrLen rest).length < 4 := by
    rw [attr_length]
    omega
  rw [findXorMapped, if_neg hlong]
  simp only [readU16_attr, readU16_put, Option.bind_eq_bind, Option.bind_some]
  refine congrArg _ (funext fun found => ?_)
  cases found.1 with
  | some addr => rfl
  | none =>
    dsimp only
    split_ifs with hle
    · rw [advance_of_le hle]
      rfl
    · rfl

theorem findXorMapped_moves {a b : Bytes} (h : Moves a b) (fuel : ℕ) :
    findXorMapped (fuel+1) a = findXorMapped fuel b := by
  cases h with
  | skip hother hle =>
    rw [findXorMapped_attr, readXorMapped, if_neg hother]
    exact if_pos hle
  | past hlen hfamily hle =>
    rw [findXorMapped_attr, readXorMapped, if_pos ⟨rfl,hlen⟩]
    simp only [readU8_cons, readU16_put, Option.bind_eq_bind, Option.bind_some, if_neg hfamily,
      if_pos hle]

theorem stuck_safe_iff (h : ∀ next, ¬Moves (attr attrType attrLen rest) next) :
    Safe (attr attrType attrLen rest) ↔
      (attrType = attrXorMappedAddress ∧ 8 ≤ attrLen.toNat → Readable rest) := by
  constructor
  · rintro hsafe ⟨rfl,hlen⟩
    exact hsafe attrLen rest .refl hlen
  · intro hhead attrLen' rest' hr hlen
    obtain ⟨rfl,rfl,rfl⟩ := attr_inj ((reaches_stuck h).mp hr)
    exact hhead ⟨rfl,hlen⟩

theorem stuck_found_iff {addr : SocketAddr}
    (h : ∀ next, ¬Moves (attr attrType attrLen rest) next) :
    Found (attr attrType attrLen rest) addr ↔
      (attrType = attrXorMappedAddress ∧ 8 ≤ attrLen.toNat) ∧
      ∃ (port : UInt16) (reserved : UInt8) (ip : Octets 4) (tail : Bytes),
        rest = reserved::1::(putU16 port++(ip.1++tail)) ∧
        addr = .new (.v4 (xorOctets ip cookieBytes)) (port ^^^ cookiePort) := by
  constructor
  · rintro ⟨attrLen',port,reserved,ip,tail,hr,hlen,haddr⟩
    obtain ⟨rfl,rfl,rfl⟩ := attr_inj ((reaches_stuck h).mp hr)
    exact ⟨⟨rfl,hlen⟩,port,reserved,ip,tail,rfl,haddr⟩
  · rintro ⟨⟨rfl,hlen⟩,port,reserved,ip,tail,rfl,haddr⟩
    exact ⟨attrLen,port,reserved,ip,tail,.refl,hlen,haddr⟩

/-- The loop panics exactly if it comes to an unreadable attribute, and
returns exactly the address that it comes to. -/
def LoopSpec (fuel : ℕ) (attrs : Bytes) : Prop :=
  (findXorMapped fuel attrs = none ↔ ¬Safe attrs) ∧
    ∀ addr, findXorMapped fuel attrs = some (.ok addr) ↔ Found attrs addr

theorem spec_of_moves {a b : Bytes} (h : Moves a b) (hb : LoopSpec fuel b) :
    LoopSpec (fuel+1) a := by
  rw [LoopSpec, findXorMapped_moves h, h.safe_iff]
  exact ⟨hb.1,fun addr => (hb.2 addr).trans h.found_iff.symm⟩

theorem spec_short {attrs : Bytes} (h : attrs.length < 4) : LoopSpec fuel attrs := by
  have hfind : findXorMapped fuel attrs = some (.error .noMappedAddress) := by
    cases fuel with
    | zero => rfl
    | succ fuel => rw [findXorMapped, if_pos h]
  have hattr (attrType attrLen : UInt16) (rest : Bytes) : attr attrType attrLen rest ≠ attrs := by
    rintro rfl
    rw [attr_length] at h
    omega
  have hstuck (next : Bytes) : ¬Moves attrs next := by
    intro hmoves
    cases hmoves with
    | skip | past => exact hattr _ _ _ rfl
  rw [LoopSpec, hfind]
  constructor
  · refine iff_of_false (Option.some_ne_none _) (not_not.mpr fun attrLen rest hr => ?_)
    exact absurd ((reaches_stuck hstuck).mp hr) (hattr _ _ _)
  · refine fun addr => iff_of_false (by simp) ?_
    rintro ⟨attrLen,port,reserved,ip,rest,hr,_⟩
    exact hattr _ _ _ ((reaches_stuck hstuck).mp hr)

theorem spec_end (hstuck : ∀ next, ¬Moves (attr attrType attrLen rest) next)
    (hfind : findXorMapped (fuel+1) (attr attrType attrLen rest) =
      some (.error .noMappedAddress))
    (hhead : attrType = attrXorMappedAddress ∧ 8 ≤ attrLen.toNat →
      4 ≤ rest.length ∧ rest[1]? ≠ some 1) :
    LoopSpec (fuel+1) (attr attrType attrLen rest) := by
  rw [LoopSpec, hfind, stuck_safe_iff hstuck]
  constructor
  · refine iff_of_false (Option.some_ne_none _) (not_not.mpr fun hx => ?_)
    exact ⟨(hhead hx).1,fun h1 => absurd h1 (hhead hx).2⟩
  · refine fun addr => iff_of_false (by simp) ?_
    rw [stuck_found_iff hstuck]
    rintro ⟨hx,port,reserved,ip,tail,rfl,_⟩
    exact (hhead hx).2 rfl

theorem stuck_at_xor (hlen : 8 ≤ attrLen.toNat)
    (h : ¬(4 ≤ rest.length ∧ rest[1]? ≠ some 1)) (next : Bytes) :
    ¬Moves (attr attrXorMappedAddress attrLen rest) next := by
  intro hmoves
  generalize ha : attr attrXorMappedAddress attrLen rest = a at hmoves
  cases hmoves with
  | skip hother =>
    obtain ⟨rfl,rfl,rfl⟩ := attr_inj ha
    exact hother ⟨rfl,hlen⟩
  | past _ hfamily =>
    obtain ⟨_,rfl,rfl⟩ := attr_inj ha
    exact h ⟨by simp,by simpa using hfamily⟩

theorem spec_panic (hlen : 8 ≤ attrLen.toNat) (hcut : ¬Readable rest)
    (hfind : findXorMapped (fuel+1) (attr attrXorMappedAddress attrLen rest) = none) :
    LoopSpec (fuel+1) (attr attrXorMappedAddress attrLen rest) := by
  have hstuck := stuck_at_xor hlen (fun h => hcut ⟨h.1,fun h1 => absurd h1 h.2⟩)
  rw [LoopSpec, hfind, stuck_safe_iff hstuck]
  constructor
  · exact iff_of_true rfl (fun hsafe => hcut (hsafe ⟨rfl,hlen⟩))
  · refine fun addr => iff_of_false (by simp) ?_
    rw [stuck_found_iff hstuck]
    rintro ⟨_,port,reserved,ip,tail,rfl,_⟩
    refine hcut ⟨by simp,fun _ => ?_⟩
    simp only [List.length_cons, List.length_append, putU16_length, ip.2]
    omega

theorem spec_found {port : UInt16} {reserved : UInt8} {ip : Octets 4} {tail : Bytes}
    (hlen : 8 ≤ attrLen.toNat) : LoopSpec (fuel+1) (attr attrXorMappedAddress attrLen
      (reserved::1::(putU16 port++(ip.1++tail)))) := by
  have hstuck (next : Bytes) : ¬Moves (attr attrXorMappedAddress attrLen
      (reserved::1::(putU16 port++(ip.1++tail)))) next :=
    stuck_at_xor hlen (fun h => h.2 rfl) next
  have hfind : findXorMapped (fuel+1) (attr attrXorMappedAddress attrLen
      (reserved::1::(putU16 port++(ip.1++tail)))) =
      some (.ok (.new (.v4 (xorOctets ip cookieBytes)) (port ^^^ cookiePort))) := by
    obtain ⟨_ | ⟨b0,_ | ⟨b1,_ | ⟨b2,_ | ⟨b3,_ | _⟩⟩⟩⟩,hip⟩ := ip
    all_goals try cases hip
    rw [findXorMapped_attr, readXorMapped, if_pos ⟨rfl,hlen⟩]
    simp only [readU8_cons, readU16_put, Option.bind_eq_bind, Option.bind_some, if_true,
      List.cons_append]
    rfl
  rw [LoopSpec, hfind, stuck_safe_iff hstuck]
  constructor
  · refine iff_of_false (Option.some_ne_none _) (not_not.mpr fun _ => ⟨by simp,fun _ => ?_⟩)
    simp only [List.length_cons, List.length_append, putU16_length, ip.2]
    omega
  · intro addr
    rw [stuck_found_iff hstuck, Option.some.injEq, Except.ok.injEq]
    constructor
    · intro haddr
      exact ⟨⟨rfl,hlen⟩,port,reserved,ip,tail,rfl,haddr.symm⟩
    · rintro ⟨_,port',reserved',ip',tail',hrest,haddr⟩
      have hport := congrArg readU16 (List.cons.inj (List.cons.inj hrest).2).2
      rw [readU16_put, readU16_put, Option.some.injEq, Prod.mk.injEq] at hport
      have hip := congrArg (readOctets 4) hport.2
      rw [readOctets_append, readOctets_append, Option.some.injEq, Prod.mk.injEq] at hip
      rw [haddr, hport.1, hip.1]

theorem stuck_unpadded (hx : ¬(attrType = attrXorMappedAddress ∧ 8 ≤ attrLen.toNat))
    (hle : ¬padded attrLen.toNat ≤ rest.length) (next : Bytes) :
    ¬Moves (attr attrType attrLen rest) next := by
  intro hmoves
  generalize ha : attr attrType attrLen rest = a at hmoves
  cases hmoves with
  | skip _ hle' =>
    obtain ⟨rfl,rfl,rfl⟩ := attr_inj ha
    exact hle hle'
  | past hlen =>
    obtain ⟨rfl,rfl,_⟩ := attr_inj ha
    exact hx ⟨rfl,hlen⟩

theorem stuck_past {port : UInt16} {reserved family : UInt8} {tail : Bytes}
    (hlen : 8 ≤ attrLen.toNat) (hle : ¬padded attrLen.toNat ≤ tail.length) (next : Bytes) :
    ¬Moves (attr attrXorMappedAddress attrLen (reserved::family::(putU16 port++tail))) next := by
  intro hmoves
  generalize ha : attr attrXorMappedAddress attrLen
    (reserved::family::(putU16 port++tail)) = a at hmoves
  cases hmoves with
  | skip hother =>
    obtain ⟨rfl,rfl,rfl⟩ := attr_inj ha
    exact hother ⟨rfl,hlen⟩
  | past _ _ hle' =>
    obtain ⟨_,rfl,hrest⟩ := attr_inj ha
    have hport := congrArg readU16 (List.cons.inj (List.cons.inj hrest).2).2
    rw [readU16_put, readU16_put, Option.some.injEq, Prod.mk.injEq] at hport
    rw [← hport.2] at hle'
    exact hle hle'

theorem spec_xor (hlen : 8 ≤ attrLen.toNat)
    (hnext : ∀ tail : Bytes, tail.length ≤ rest.length →
      LoopSpec fuel (tail.drop (padded attrLen.toNat))) :
    LoopSpec (fuel+1) (attr attrXorMappedAddress attrLen rest) := by
  by_cases hfour : rest.length < 4
  · refine spec_panic hlen (fun hr => absurd hr.1 (Nat.not_le.mpr hfour)) ?_
    rw [findXorMapped_attr, readXorMapped, if_pos ⟨rfl,hlen⟩]
    match rest, hfour with
    | [], _ | [_], _ | [_,_], _ | [_,_,_], _ => rfl
  obtain ⟨reserved,tail,rfl⟩ := exists_readU8 (show 1 ≤ rest.length by omega)
  rw [List.length_cons] at hfour
  obtain ⟨family,tail,rfl⟩ := exists_readU8 (show 1 ≤ tail.length by omega)
  rw [List.length_cons] at hfour
  obtain ⟨port,tail,rfl⟩ := exists_readU16 (show 2 ≤ tail.length by omega)
  by_cases hfamily : family = 1
  · subst hfamily
    by_cases hip : tail.length < 4
    · refine spec_panic hlen (fun hr => ?_) ?_
      · have height := hr.2 rfl
        simp only [List.length_cons, List.length_append, putU16_length] at height
        omega
      · rw [findXorMapped_attr, readXorMapped, if_pos ⟨rfl,hlen⟩]
        simp only [readU8_cons, readU16_put, Option.bind_eq_bind, Option.bind_some, if_true]
        match tail, hip with
        | [], _ | [_], _ | [_,_], _ | [_,_,_], _ => rfl
    · obtain ⟨ip,tail,rfl⟩ := exists_readOctets (Nat.not_lt.mp hip)
      exact spec_found hlen
  · by_cases hle : padded attrLen.toNat ≤ tail.length
    · exact spec_of_moves (.past hlen hfamily hle) (hnext tail (by simp; omega))
    · refine spec_end (stuck_past hlen hle) ?_ (fun _ => ⟨by simp,by simpa using hfamily⟩)
      rw [findXorMapped_attr, readXorMapped, if_pos ⟨rfl,hlen⟩]
      simp only [readU8_cons, readU16_put, Option.bind_eq_bind, Option.bind_some, if_neg hfamily,
        if_neg hle]

theorem findXorMapped_spec (fuel : ℕ) (attrs : Bytes) (h : attrs.length ≤ fuel) :
    LoopSpec fuel attrs := by
  induction fuel generalizing attrs with
  | zero => exact spec_short (by omega)
  | succ fuel ih =>
    by_cases hshort : attrs.length < 4
    · exact spec_short hshort
    obtain ⟨attrType,attrLen,rest,rfl⟩ := exists_attr (Nat.not_lt.mp hshort)
    rw [attr_length] at h
    have hnext (tail : Bytes) (hle : tail.length ≤ rest.length) :
        LoopSpec fuel (tail.drop (padded attrLen.toNat)) :=
      ih _ (by rw [List.length_drop]; omega)
    by_cases hx : attrType = attrXorMappedAddress ∧ 8 ≤ attrLen.toNat
    · obtain ⟨rfl,hlen⟩ := hx
      exact spec_xor hlen hnext
    · by_cases hle : padded attrLen.toNat ≤ rest.length
      · exact spec_of_moves (.skip hx hle) (hnext rest le_rfl)
      · refine spec_end (stuck_unpadded hx hle) ?_ (fun h => absurd h hx)
        rw [findXorMapped_attr, readXorMapped, if_neg hx]
        exact if_neg hle

end Loop

def lastAddress (attrType : UInt16) (xor : Bool) (list : List (UInt16 × Bytes)) :
    Option SocketAddr :=
  match (list.filter (fun a => a.1 == attrType)).getLast? with
  | some a => (parseMappedAddress a.2 xor).join
  | none => none

/-- The address that an attribute list gives: the last XOR-MAPPED-ADDRESS, or
the last MAPPED-ADDRESS if that cannot be read. -/
def Listed (list : List (UInt16 × Bytes)) (addr : SocketAddr) : Prop :=
  (lastAddress attrXorMappedAddress true list).or (lastAddress attrMappedAddress false list) =
    some addr

def HasIpv4 (list : List (UInt16 × Bytes)) : Prop :=
  ∃ a ∈ list, a.1 = attrXorMappedAddress ∧ 8 ≤ a.2.length ∧ a.2[1]? = some 1

theorem lastAddress_concat (attrType : UInt16) (xor : Bool) (list : List (UInt16 × Bytes))
    (a : UInt16 × Bytes) : lastAddress attrType xor (list++[a]) =
      if a.1 = attrType then (parseMappedAddress a.2 xor).join
      else lastAddress attrType xor list := by
  by_cases h : a.1 = attrType
  · rw [if_pos h, lastAddress, List.filter_append, List.filter_cons_of_pos (by simpa using h),
      List.filter_nil, List.getLast?_concat]
  · rw [if_neg h, lastAddress, List.filter_append, List.filter_cons_of_neg (by simpa using h),
      List.filter_nil, List.append_nil, lastAddress]

theorem parseMappedAddress_join (value : Bytes) (xor : Bool) :
    parseMappedAddress value xor = some (parseMappedAddress value xor).join := by
  obtain ⟨addr,h⟩ := Option.isSome_iff_exists.mp (parseMappedAddress_isSome value xor)
  rw [h]
  rfl

theorem foldlM_handleAddress (list : List (UInt16 × Bytes)) :
    list.foldlM (fun s a => handleAddress a.1 a.2 s) (⟨none,none⟩ : Mapped) =
      some ⟨lastAddress attrMappedAddress false list,
        lastAddress attrXorMappedAddress true list⟩ := by
  induction list using List.reverseRecOn with
  | nil => rfl
  | append_singleton list a ih =>
    rw [List.foldlM_append, ih, lastAddress_concat, lastAddress_concat]
    simp only [Option.bind_eq_bind, Option.bind_some, List.foldlM_cons, List.foldlM_nil,
      handleAddress]
    split_ifs with hmapped hxor hxor
    · rw [hmapped] at hxor
      exact absurd hxor (by decide)
    · rw [parseMappedAddress_join]
      rfl
    · rw [parseMappedAddress_join]
      rfl
    · rfl

section Agreement

def covered (msgLen : UInt16) (body : Bytes) : Bytes := body.take msgLen.toNat

def listOf (msgLen : UInt16) (body : Bytes) : List (UInt16 × Bytes) :=
  attributes (covered msgLen body).length (covered msgLen body)

variable (msgType msgLen : UInt16) (cookie : UInt32) (txnId : Octets 12) (body : Bytes)

theorem slice_covered : slice 20 (20+min msgLen.toNat
      ((message msgType msgLen cookie txnId body).length-20))
      (message msgType msgLen cookie txnId body) = some (covered msgLen body) := by
  have hlen : (message msgType msgLen cookie txnId body).length-20 = body.length := by
    rw [message_length]
    omega
  rw [hlen, slice_message _ _ _ _ _ (Nat.min_le_right _ _), ← List.take_eq_take_min]
  rfl

theorem advance_octets {n : ℕ} (octets : Octets n) (rest : Bytes) :
    advance n (octets.1++rest) = some rest := by
  have hle : n ≤ (octets.1++rest).length := by
    rw [List.length_append, octets.2]
    omega
  rw [advance_of_le hle, List.drop_left' octets.2]

theorem stunBindingRequest_message : stunBindingRequest (message msgType msgLen cookie txnId body) =
    if msgType ≠ bindingResponse then some (.error (.invalidResponse "Not a response"))
    else if cookie ≠ magicCookie then some (.error (.invalidResponse "Bad cookie"))
    else findXorMapped (covered msgLen body).length (covered msgLen body) := by
  have hshort : ¬(message msgType msgLen cookie txnId body).length < 20 := by
    rw [message_length]
    omega
  rw [stunBindingRequest, if_neg hshort, readU16_message]
  by_cases htype : msgType ≠ bindingResponse
  · rw [if_pos htype]
    exact if_pos htype
  · rw [if_neg htype]
    refine (if_neg htype).trans ?_
    rw [readU16_put, Option.bind_eq_bind, Option.bind_some]
    dsimp only
    rw [readU32_put, Option.bind_eq_bind, Option.bind_some]
    by_cases hcookie : cookie ≠ magicCookie
    · rw [if_pos hcookie, if_pos hcookie]
    · rw [if_neg hcookie, if_neg hcookie]
      dsimp only
      rw [advance_octets, Option.bind_eq_bind, Option.bind_some, slice_covered, Option.bind_some]

theorem parseBindingResponse_ok_iff (addr : SocketAddr) :
    parseBindingResponse (message bindingResponse msgLen magicCookie txnId body) txnId =
      some (.ok addr) ↔ msgLen.toNat ≤ body.length ∧ Listed (listOf msgLen body) addr := by
  have hshort : ¬(message bindingResponse msgLen magicCookie txnId body).length < 20 := by
    rw [message_length]
    omega
  rw [parseBindingResponse, if_neg hshort]
  simp only [readU16_message, readU16_put, readU32_put, readOctets_append, Option.bind_eq_bind,
    Option.bind_some, message_length, ne_eq, not_true, if_false]
  rw [if_neg (by decide)]
  by_cases hfits : msgLen.toNat ≤ body.length
  · rw [if_neg (by omega), slice_message _ _ _ _ _ hfits]
    simp only [Option.bind_some, walk_eq_foldlM, foldlM_handleAddress, Option.some.injEq, hfits,
      true_and, Listed, listOf, covered]
    cases (lastAddress attrXorMappedAddress true _).or (lastAddress attrMappedAddress false _) <;>
      simp
  · rw [if_pos (by omega)]
    simp [hfits]

/-- The inlined loop stays inside the buffer, and where both readers find an
address in a response with an IPv4 XOR-MAPPED-ADDRESS it is the same. -/
def ReadersAgree (data : Bytes) (txnId : Octets 12) (list : List (UInt16 × Bytes)) : Prop :=
  (stunBindingRequest data).isSome ∧
    (HasIpv4 list → ∀ a b, stunBindingRequest data = some (.ok a) →
      parseBindingResponse data txnId = some (.ok b) → a = b)

/-- The readers agree on a message exactly if it is no Binding response with
the cookie, or every XOR-MAPPED-ADDRESS that the loop comes to is readable
and, unless the message is truncated, the first IPv4 address that the loop
comes to is the one that the attribute list gives. -/
theorem readers_agree_iff :
    ReadersAgree (message msgType msgLen cookie txnId body) txnId (listOf msgLen body) ↔
      (msgType = bindingResponse → cookie = magicCookie →
        Safe (covered msgLen body) ∧
        (msgLen.toNat ≤ body.length → HasIpv4 (listOf msgLen body) →
          ∀ a b, Found (covered msgLen body) a → Listed (listOf msgLen body) b → a = b)) := by
  rw [ReadersAgree, stunBindingRequest_message]
  by_cases htype : msgType = bindingResponse
  swap
  · rw [if_pos htype]
    exact iff_of_true ⟨rfl,fun _ a b h => by cases h⟩ (fun h => absurd h htype)
  by_cases hcookie : cookie = magicCookie
  swap
  · rw [if_neg (not_not.mpr htype), if_pos hcookie]
    exact iff_of_true ⟨rfl,fun _ a b h => by cases h⟩ (fun _ h => absurd h hcookie)
  subst htype hcookie
  obtain ⟨hpanic,hfound⟩ := findXorMapped_spec _ (covered msgLen body) le_rfl
  have hsafe : (findXorMapped (covered msgLen body).length (covered msgLen body)).isSome ↔
      Safe (covered msgLen body) := by
    rw [← not_iff_not, ← hpanic, Option.not_isSome_iff_eq_none]
  rw [if_neg (not_not.mpr rfl), if_neg (not_not.mpr rfl), hsafe]
  simp only [hfound, parseBindingResponse_ok_iff, forall_const, and_imp]
  constructor
  · rintro ⟨hs,hagree⟩
    exact ⟨hs,fun hfits hipv4 a b ha hb => hagree hipv4 a b ha hfits hb⟩
  · rintro ⟨hs,hagree⟩
    exact ⟨hs,fun hipv4 a b ha hfits hb => hagree hfits hipv4 a b ha hb⟩

def xorMapped (last : UInt8) : Bytes :=
  attr attrXorMappedAddress 8 ([0,1]++putU16 (5000 ^^^ cookiePort) ++
    [192 ^^^ 0x21,0 ^^^ 0x12,2 ^^^ 0xA4,last ^^^ 0x42])

def reflexive (last : UInt8) : SocketAddr := .v4 ⟨[192,0,2,last],rfl⟩ 5000

/-- The header of an XOR-MAPPED-ADDRESS at the end of the message makes the
loop read beyond it; of two such attributes the readers take different ones. -/
theorem readers_disagree :
    stunBindingRequest (message bindingResponse 4 magicCookie (zeroOctets 12)
      (attr attrXorMappedAddress 8 [])) = none ∧
    stunBindingRequest (message bindingResponse 24 magicCookie (zeroOctets 12)
      (xorMapped 1++xorMapped 2)) = some (.ok (reflexive 1)) ∧
    parseBindingResponse (message bindingResponse 24 magicCookie (zeroOctets 12)
      (xorMapped 1++xorMapped 2)) (zeroOctets 12) = some (.ok (reflexive 2)) := by
  decide

end Agreement

end RsipRtp.StunAgreement
