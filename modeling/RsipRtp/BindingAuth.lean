import RsipRtp.StunBinding

/-!
# Only the signed part of a request counts

The length field of a request is not signed as it stands, and bytes may be
appended behind the signature.
-/

namespace RsipRtp.BindingAuth
open SipText ByteCursor StunMessage StunBinding
open SrtpKdf (Octets)

/-- From the attribute at the first offset on, the first MESSAGE-INTEGRITY is
the attribute at the second. -/
inductive FirstIntegrity (request : Bytes) : ℕ → ℕ → Prop
  | here {off : ℕ} (h : u16At request off = attrMessageIntegrity) : FirstIntegrity request off off
  | next {off p : ℕ} (h : u16At request off ≠ attrMessageIntegrity)
      (rest : FirstIntegrity request (off+4+padded (u16At request (off+2)).toNat) p) :
      FirstIntegrity request off p

def attrsEnd (request : Bytes) : ℕ := 20+(u16At request 2).toNat

theorem FirstIntegrity.le {request : Bytes} {off p : ℕ} (h : FirstIntegrity request off p) :
    off ≤ p := by
  induction h with
  | here => exact Nat.le_refl _
  | next _ _ ih => omega

section TwoRequests

variable {r₁ r₂ : Bytes}

def AgreeOn (r₁ r₂ : Bytes) (lo hi : ℕ) : Prop := ∀ i, lo ≤ i → i < hi → r₁[i]? = r₂[i]?

theorem AgreeOn.mono {lo hi lo' hi' : ℕ} (h : AgreeOn r₁ r₂ lo hi) (hlo : lo ≤ lo')
    (hhi : hi' ≤ hi) : AgreeOn r₁ r₂ lo' hi' :=
  fun i hi₁ hi₂ => h i (hlo.trans hi₁) (Nat.lt_of_lt_of_le hi₂ hhi)

theorem AgreeOn.u16At_eq {off : ℕ} (h : AgreeOn r₁ r₂ off (off+2)) :
    u16At r₁ off = u16At r₂ off := by
  simp only [u16At, List.getD_eq_getElem?_getD, h off (Nat.le_refl _) (by omega),
    h (off+1) (by omega) (by omega)]

theorem AgreeOn.value_eq {off n : ℕ} (h : AgreeOn r₁ r₂ off (off+n)) :
    (r₁.drop off).take n = (r₂.drop off).take n := by
  apply List.ext_getElem?
  intro i
  simp only [List.getElem?_take, List.getElem?_drop]
  split_ifs with hi
  · exact h (off+i) (by omega) (by omega)
  · rfl

theorem AgreeOn.attr_eq {lo hi off : ℕ} (h : AgreeOn r₁ r₂ lo hi) (hlo : lo ≤ off)
    (hhi : attrEnd r₁ off ≤ hi) : u16At r₁ off = u16At r₂ off ∧
      u16At r₁ (off+2) = u16At r₂ (off+2) ∧ valueAt r₁ off = valueAt r₂ off := by
  unfold attrEnd at hhi
  have hlen : u16At r₁ (off+2) = u16At r₂ (off+2) := (h.mono (by omega) (by omega)).u16At_eq
  refine ⟨(h.mono hlo (by omega)).u16At_eq,hlen,?_⟩
  rw [valueAt, valueAt, ← hlen]
  exact (h.mono (by omega) hhi).value_eq

theorem findIntegrity_congr {off p end₁ end₂ fuel₁ fuel₂ : ℕ} {username : Option Bytes}
    (hfirst : FirstIntegrity r₁ off p) (hagree : AgreeOn r₁ r₂ off (attrEnd r₁ p))
    (hend₁ : attrEnd r₁ p ≤ end₁) (hend₂ : attrEnd r₁ p ≤ end₂)
    (hfuel₁ : p < off+fuel₁) (hfuel₂ : p < off+fuel₂) :
    findIntegrity r₁ end₁ fuel₁ off username = findIntegrity r₂ end₂ fuel₂ off username := by
  induction hfirst generalizing fuel₁ fuel₂ username with
  | @here off htype =>
    obtain ⟨fuel₁,rfl⟩ : ∃ n, fuel₁ = n+1 := ⟨fuel₁-1,by omega⟩
    obtain ⟨fuel₂,rfl⟩ : ∃ n, fuel₂ = n+1 := ⟨fuel₂-1,by omega⟩
    obtain ⟨hsame,hlen,hvalue⟩ := hagree.attr_eq (Nat.le_refl _) (Nat.le_refl _)
    have hend : attrEnd r₂ off = attrEnd r₁ off := by rw [attrEnd, attrEnd, hlen]
    rw [findIntegrity_stop htype hend₁,
      findIntegrity_stop (hsame.symm.trans htype) (hend.le.trans hend₂), hlen, hvalue]
  | @next off p htype hrest ih =>
    have hpast := hrest.le
    obtain ⟨fuel₁,rfl⟩ : ∃ n, fuel₁ = n+1 := ⟨fuel₁-1,by omega⟩
    obtain ⟨fuel₂,rfl⟩ : ∃ n, fuel₂ = n+1 := ⟨fuel₂-1,by omega⟩
    -- the attribute ends before the signature starts, so neither walk rejects it
    have hpadded := le_padded (u16At r₁ (off+2)).toNat
    have hsign : p+4 ≤ attrEnd r₁ p := Nat.le_add_right _ _
    have hbefore : attrEnd r₁ off ≤ attrEnd r₁ p := by
      rw [attrEnd]
      omega
    obtain ⟨hsame,hlen,hvalue⟩ := hagree.attr_eq (Nat.le_refl _) hbefore
    have hend : attrEnd r₂ off = attrEnd r₁ off := by rw [attrEnd, attrEnd, hlen]
    rw [findIntegrity_pass htype (hbefore.trans hend₁),
      findIntegrity_pass (fun h => htype (hsame.trans h)) ((hend.le.trans hbefore).trans hend₂),
      ← hsame, ← hlen, ← hvalue]
    exact ih (hagree.mono (by omega) (Nat.le_refl _)) hend₁ hend₂ (by omega) (by omega)

theorem findIntegrity_offset {request : Bytes} {off p attrsEnd fuel : ℕ}
    {username username' : Option Bytes} {found : ℕ × Bytes}
    (hfirst : FirstIntegrity request off p) (hend : attrEnd request p ≤ attrsEnd)
    (hfuel : p < off+fuel)
    (h : findIntegrity request attrsEnd fuel off username = some (username',some found)) :
    found.1 = p := by
  induction hfirst generalizing fuel username with
  | @here off htype =>
    obtain ⟨fuel,rfl⟩ : ∃ n, fuel = n+1 := ⟨fuel-1,by omega⟩
    rw [findIntegrity_stop htype hend] at h
    split_ifs at h
    cases h
    rfl
  | @next off p htype hrest ih =>
    have hpast := hrest.le
    obtain ⟨fuel,rfl⟩ : ∃ n, fuel = n+1 := ⟨fuel-1,by omega⟩
    have hpadded := le_padded (u16At request (off+2)).toNat
    have hbefore : attrEnd request off ≤ attrEnd request p := by
      rw [attrEnd, attrEnd]
      omega
    rw [findIntegrity_pass htype (hbefore.trans hend)] at h
    exact ih hend (by omega) h

theorem signedPart_congr {p : ℕ} (h : ∀ i < p, i ≠ 2 → i ≠ 3 → r₁[i]? = r₂[i]?)
    (hfit₁ : p ≤ r₁.length) (hfit₂ : p ≤ r₂.length) : signedPart r₁ p = signedPart r₂ p := by
  apply List.ext_getElem?
  intro i
  simp only [signedPart, setLength, List.getElem?_set, List.length_set,
    List.length_take_of_le hfit₁, List.length_take_of_le hfit₂]
  by_cases h3 : 3 = i
  · rw [if_pos h3, if_pos h3]
  · rw [if_neg h3, if_neg h3]
    by_cases h2 : 2 = i
    · rw [if_pos h2, if_pos h2]
    · rw [if_neg h2, if_neg h2, List.getElem?_take, List.getElem?_take]
      split_ifs with hi
      · exact h i hi (Ne.symm h2) (Ne.symm h3)
      · rfl

end TwoRequests

section Result

variable {r₁ r₂ : Bytes} {p : ℕ}

/-- Two requests with the same bytes up to the end of the first signature,
the length field apart, get the same answer, if both length fields cover the
signature and fit their buffers. -/
theorem response_ignores_unsigned (hmac : Hmac) (txnId : Octets 12) (source : SocketAddr)
    (localUfrag localPwd : Text) (hfirst : FirstIntegrity r₁ 20 p)
    (hagree : ∀ i < attrEnd r₁ p, i ≠ 2 → i ≠ 3 → r₁[i]? = r₂[i]?)
    (hcover₁ : attrEnd r₁ p ≤ attrsEnd r₁) (hfit₁ : attrsEnd r₁ ≤ r₁.length)
    (hcover₂ : attrEnd r₁ p ≤ attrsEnd r₂) (hfit₂ : attrsEnd r₂ ≤ r₂.length) :
    buildBindingResponse hmac r₁ txnId source localUfrag localPwd =
      buildBindingResponse hmac r₂ txnId source localUfrag localPwd := by
  have hle := hfirst.le
  have hsign : p+4 ≤ attrEnd r₁ p := Nat.le_add_right _ _
  have hattrs : AgreeOn r₁ r₂ 20 (attrEnd r₁ p) :=
    fun i hlo hhi => hagree i hhi (by omega) (by omega)
  have hfind : findIntegrity r₁ (attrsEnd r₁) (r₁.length+1) 20 none =
      findIntegrity r₂ (attrsEnd r₂) (r₂.length+1) 20 none :=
    findIntegrity_congr hfirst hattrs hcover₁ hcover₂ (by omega) (by omega)
  have hsigned : signedPart r₁ p = signedPart r₂ p :=
    signedPart_congr (fun i hi => hagree i (by omega)) (by omega) (by omega)
  have hoffset (username : Option Bytes) (found : ℕ × Bytes)
      (h : findIntegrity r₁ (attrsEnd r₁) (r₁.length+1) 20 none = some (username,some found)) :
      found.1 = p := findIntegrity_offset hfirst hcover₁ (by omega) h
  unfold attrsEnd at hfit₁ hfit₂ hfind hoffset
  rw [buildBindingResponse, buildBindingResponse, if_neg (by omega), if_neg (by omega)]
  dsimp only
  rw [if_neg (by omega), if_neg (by omega), ← hfind]
  cases hres : findIntegrity r₁ (20+(u16At r₁ 2).toNat) (r₁.length+1) 20 none with
  | none => rfl
  | some result =>
    obtain ⟨username,integrity⟩ := result
    cases integrity with
    | none => cases username <;> rfl
    | some found =>
      obtain rfl := hoffset username found hres
      simp only [Option.bind_eq_bind, Option.bind_some, hsigned]

/-- A request of the user `a:b` with a signature of zeros. Its length field
and what stands behind the signature vary. -/
def signedRequest (len : UInt8) (tail : Bytes) : Bytes :=
  [0,1,0,len,0x21,0x12,0xA4,0x42,1,2,3,4,5,6,7,8,9,10,11,12,
    0,6,0,3,97,58,98,0,0,8,0,20]++List.replicate 20 0++tail

theorem tail_ignored :
    (buildBindingResponse (fun _ _ => zeroOctets 20) (signedRequest 32 [])
      (zeroOctets 12) (.v4 (zeroOctets 4) 7) "a" "p").isSome ∧
    buildBindingResponse (fun _ _ => zeroOctets 20) (signedRequest 32 [])
      (zeroOctets 12) (.v4 (zeroOctets 4) 7) "a" "p" =
    buildBindingResponse (fun _ _ => zeroOctets 20) (signedRequest 40 [0,6,0,1,99,0,0,0])
      (zeroOctets 12) (.v4 (zeroOctets 4) 7) "a" "p" :=
  ⟨by decide +kernel,
    response_ignores_unsigned _ _ _ _ _
      (.next (by decide) (.here (by decide) : FirstIntegrity _ 28 28)) (by decide +kernel)
      (by decide) (by decide) (by decide) (by decide)⟩

end Result

end RsipRtp.BindingAuth
