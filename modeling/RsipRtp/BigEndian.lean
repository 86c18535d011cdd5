import Mathlib.Data.Nat.Notation
import Mathlib.Tactic.Ring

/-!
# Big-endian numbers

The bytes of a number of a given width, most significant first, and the number
that a list of bytes stands for.
-/

namespace RsipRtp.BigEndian

def encode : ℕ → ℕ → List UInt8
  | 0, _ => []
  | k+1, n => UInt8.ofNat (n/256^k)::encode k n

def decode : List UInt8 → ℕ
  | [] => 0
  | b::bs => b.toNat*256^bs.length+decode bs

@[simp] theorem encode_length (k n : ℕ) : (encode k n).length = k := by
  induction k with
  | zero => rfl
  | succ k ih => simp [encode, ih]

theorem decode_encode_mod (k n : ℕ) : decode (encode k n) = n % 256^k := by
  induction k with
  | zero => simp [encode, decode, Nat.mod_one]
  | succ k ih =>
    have hsplit : n % 256^(k+1) = n % 256^k+256^k*(n/256^k % 256) := by
      rw [pow_succ, Nat.mod_mul]
    rw [encode, decode, ih, encode_length, UInt8.toNat_ofNat', hsplit]
    ring

theorem decode_encode {k n : ℕ} (h : n < 256^k) : decode (encode k n) = n := by
  rw [decode_encode_mod, Nat.mod_eq_of_lt h]

theorem decode_lt (bs : List UInt8) : decode bs < 256^bs.length := by
  induction bs with
  | nil => exact Nat.one_pos
  | cons b bs ih =>
    have hb : b.toNat+1 ≤ 256 := b.toNat_lt
    calc decode (b::bs) < (b.toNat+1)*256^bs.length := by rw [decode, Nat.succ_mul]; omega
      _ ≤ 256*256^bs.length := Nat.mul_le_mul_right _ hb
      _ = 256^(b::bs).length := by rw [List.length_cons, pow_succ, Nat.mul_comm]

theorem encode_add_mul (k m n : ℕ) : encode k (m*256^k+n) = encode k n := by
  induction k generalizing m with
  | zero => rfl
  | succ k ih =>
    have hpow : m*256^(k+1) = m*256*256^k := by rw [pow_succ]; ring
    have hdiv : (m*256*256^k+n)/256^k = m*256+n/256^k := by
      rw [Nat.mul_comm (m*256), Nat.mul_add_div (Nat.pow_pos (by decide))]
    rw [encode, encode, hpow, ih, hdiv]
    congr 1
    exact UInt8.toNat_inj.mp (by rw [UInt8.toNat_ofNat', UInt8.toNat_ofNat']; omega)

theorem encode_decode (bs : List UInt8) : encode bs.length (decode bs) = bs := by
  induction bs with
  | nil => rfl
  | cons b bs ih =>
    have hdiv : (b.toNat*256^bs.length+decode bs)/256^bs.length = b.toNat := by
      rw [Nat.mul_comm, Nat.mul_add_div (Nat.pow_pos (by decide)),
        Nat.div_eq_of_lt (decode_lt bs), Nat.add_zero]
    rw [List.length_cons, encode, decode, hdiv, encode_add_mul, ih, UInt8.ofNat_toNat]

theorem decode_append (a b : List UInt8) : decode (a++b) = decode a*256^b.length+decode b := by
  induction a with
  | nil => simp [decode]
  | cons x a ih =>
    rw [List.cons_append, decode, decode, ih, List.length_append, pow_add]
    ring

theorem mul_pow_add_xor (a b k : ℕ) {x y : ℕ} (hx : x < 2^k) (hy : y < 2^k) :
    (a*2^k+x) ^^^ (b*2^k+y) = (a ^^^ b)*2^k+(x ^^^ y) := by
  have hxy : x ^^^ y < 2^k := Nat.xor_lt_two_pow hx hy
  rw [Nat.mul_comm a, Nat.mul_comm b, Nat.mul_comm (a ^^^ b)]
  apply Nat.eq_of_testBit_eq
  intro j
  rw [Nat.testBit_xor, Nat.testBit_two_pow_mul_add _ hx, Nat.testBit_two_pow_mul_add _ hy,
    Nat.testBit_two_pow_mul_add _ hxy]
  split_ifs <;> rw [Nat.testBit_xor]

theorem mul_pow_xor (a k : ℕ) {y : ℕ} (hy : y < 2^k) : a*2^k ^^^ y = a*2^k+y := by
  have h := mul_pow_add_xor a 0 k (Nat.two_pow_pos k) hy
  simpa using h

theorem mul_pow_or (a k : ℕ) {y : ℕ} (hy : y < 2^k) : a*2^k ||| y = a*2^k+y := by
  rw [Nat.mul_comm, Nat.two_pow_add_eq_or_of_lt hy]

theorem decode_zipWith_xor (a b : List UInt8) (h : a.length = b.length) :
    decode (a.zipWith (· ^^^ ·) b) = decode a ^^^ decode b := by
  induction a generalizing b with
  | nil => rw [List.length_eq_zero_iff.mp h.symm]; rfl
  | cons x a ih =>
    cases b with
    | nil => cases h
    | cons y b =>
      have hl := Nat.succ.inj h
      have hpow : 256^b.length = 2^(8*b.length) := by rw [Nat.pow_mul]
      have ha : decode a < 2^(8*b.length) := (decode_lt a).trans_eq (by rw [hl, hpow])
      have hb : decode b < 2^(8*b.length) := (decode_lt b).trans_eq hpow
      rw [List.zipWith_cons_cons, decode, decode, decode, ih b hl, List.length_zipWith, hl,
        Nat.min_self, hpow, mul_pow_add_xor _ _ _ ha hb, UInt8.toNat_xor]

theorem zipWith_xor_cancel (s x y : List UInt8) (hx : x.length = s.length)
    (hy : y.length = s.length)
    (h : s.zipWith (· ^^^ ·) x = s.zipWith (· ^^^ ·) y) : x = y := by
  induction s generalizing x y with
  | nil => rw [List.length_eq_zero_iff.mp hx, List.length_eq_zero_iff.mp hy]
  | cons a s ih =>
    cases x with
    | nil => cases hx
    | cons b x =>
      cases y with
      | nil => cases hy
      | cons d y =>
        rw [List.zipWith_cons_cons, List.zipWith_cons_cons, List.cons.injEq] at h
        rw [(UInt8.xor_right_inj _).mp h.1, ih x y (Nat.succ.inj hx) (Nat.succ.inj hy) h.2]

def getU16 (b1 b0 : UInt8) : UInt16 := UInt16.ofNat (decode [b1,b0])

def getU32 (b3 b2 b1 b0 : UInt8) : UInt32 := UInt32.ofNat (decode [b3,b2,b1,b0])

def putU16 (n : UInt16) : List UInt8 := encode 2 n.toNat

def putU32 (n : UInt32) : List UInt8 := encode 4 n.toNat

theorem putU16_read (n : UInt16) : ∃ b1 b0, putU16 n = [b1,b0] ∧ getU16 b1 b0 = n := by
  refine ⟨_,_,rfl,?_⟩
  have h : decode (encode 2 n.toNat) = n.toNat := decode_encode n.toNat_lt
  exact (congrArg UInt16.ofNat h).trans UInt16.ofNat_toNat

theorem putU32_read (n : UInt32) :
    ∃ b3 b2 b1 b0, putU32 n = [b3,b2,b1,b0] ∧ getU32 b3 b2 b1 b0 = n := by
  refine ⟨_,_,_,_,rfl,?_⟩
  have h : decode (encode 4 n.toNat) = n.toNat := decode_encode n.toNat_lt
  exact (congrArg UInt32.ofNat h).trans UInt32.ofNat_toNat

theorem putU16_getU16 (b1 b0 : UInt8) : putU16 (getU16 b1 b0) = [b1,b0] := by
  have hlt : decode [b1,b0] < 2^16 := (decode_lt [b1,b0]).trans_eq (by simp)
  rw [putU16, getU16, UInt16.toNat_ofNat', Nat.mod_eq_of_lt hlt]
  exact encode_decode [b1,b0]

theorem putU32_getU32 (b3 b2 b1 b0 : UInt8) : putU32 (getU32 b3 b2 b1 b0) = [b3,b2,b1,b0] := by
  have hlt : decode [b3,b2,b1,b0] < 2^32 := (decode_lt [b3,b2,b1,b0]).trans_eq (by simp)
  rw [putU32, getU32, UInt32.toNat_ofNat', Nat.mod_eq_of_lt hlt]
  exact encode_decode [b3,b2,b1,b0]

theorem putU16_bytes (n : UInt16) : [(n >>> 8).toUInt8,(n &&& 0xFF).toUInt8] = putU16 n := by
  have hn := n.toNat_lt
  have hhigh : (n >>> 8).toUInt8 = UInt8.ofNat (n.toNat/256^1) := by
    apply UInt8.toNat_inj.mp
    rw [UInt16.toNat_toUInt8, UInt16.toNat_shiftRight, UInt8.toNat_ofNat',
      Nat.shiftRight_eq_div_pow]
    rfl
  have hlow : (n &&& 0xFF).toUInt8 = UInt8.ofNat (n.toNat/256^0) := by
    apply UInt8.toNat_inj.mp
    rw [UInt16.toNat_toUInt8, UInt16.toNat_and, UInt8.toNat_ofNat']
    have hmask : n.toNat &&& (0xFF : UInt16).toNat = n.toNat%2^8 :=
      Nat.and_two_pow_sub_one_eq_mod n.toNat 8
    rw [hmask]
    omega
  rw [hhigh, hlow]
  rfl

end RsipRtp.BigEndian
