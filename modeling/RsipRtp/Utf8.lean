import RsipRtp.SipText

/-!
# Bytes read as text

`String::from_utf8` and `String::from_utf8_lossy`.
-/

namespace RsipRtp.Utf8
open SipText

inductive Scan
  | char (c : Char) (rest : Bytes)
  | invalid (len : ℕ)
  | incomplete
deriving DecidableEq

def isContinuation (b : UInt8) : Bool := 0x80 ≤ b.toNat && b.toNat < 0xC0

/-- The second bytes that make neither an overlong form nor a surrogate nor
a number beyond the last code point. -/
def isSecond (n : ℕ) (b : UInt8) : Bool :=
  isContinuation b && (n ≠ 0xE0 || 0xA0 ≤ b.toNat) && (n ≠ 0xED || b.toNat < 0xA0) &&
    (n ≠ 0xF0 || 0x90 ≤ b.toNat) && (n ≠ 0xF4 || b.toNat < 0x90)

def low (b : UInt8) : ℕ := b.toNat-0x80

def scanTwo (n : ℕ) : Bytes → Scan
  | b1::rest => if isContinuation b1 then .char (Char.ofNat ((n-0xC0)*64+low b1)) rest
      else .invalid 1
  | [] => .incomplete

def scanThree (n : ℕ) : Bytes → Scan
  | b1::b2::rest =>
    if !isSecond n b1 then .invalid 1
    else if !isContinuation b2 then .invalid 2
    else .char (Char.ofNat ((n-0xE0)*4096+low b1*64+low b2)) rest
  | [b1] => if !isSecond n b1 then .invalid 1 else .incomplete
  | [] => .incomplete

def scanFour (n : ℕ) : Bytes → Scan
  | b1::b2::b3::rest =>
    if !isSecond n b1 then .invalid 1
    else if !isContinuation b2 then .invalid 2
    else if !isContinuation b3 then .invalid 3
    else .char (Char.ofNat ((n-0xF0)*262144+low b1*4096+low b2*64+low b3)) rest
  | [b1,b2] => if !isSecond n b1 then .invalid 1
      else if !isContinuation b2 then .invalid 2 else .incomplete
  | [b1] => if !isSecond n b1 then .invalid 1 else .incomplete
  | [] => .incomplete

def scan : Bytes → Scan
  | [] => .incomplete
  | b0::rest =>
    let n := b0.toNat
    if n < 0x80 then .char (Char.ofNat n) rest
    else if n < 0xC2 then .invalid 1
    else if n < 0xE0 then scanTwo n rest
    else if n < 0xF0 then scanThree n rest
    else if n < 0xF5 then scanFour n rest
    else .invalid 1

structure Utf8Error where
  validUpTo : ℕ
  errorLen : Option ℕ
deriving DecidableEq

def Utf8Error.display (e : Utf8Error) : Text :=
  match e.errorLen with
  | some len => "invalid utf-8 sequence of "++natText len++" bytes from index "++
      natText e.validUpTo
  | none => "incomplete utf-8 byte sequence from index "++natText e.validUpTo

def fromUtf8Loop : ℕ → ℕ → Bytes → Except Utf8Error Text
  | _, _, [] => .ok []
  | 0, _, _::_ => .ok []
  | fuel+1, index, b::bs =>
    match scan (b::bs) with
    | .char c rest => (fromUtf8Loop fuel (index+c.utf8Size) rest).map (fun s => c::s)
    | .invalid len => .error ⟨index,some len⟩
    | .incomplete => .error ⟨index,none⟩

def fromUtf8 (bs : Bytes) : Except Utf8Error Text := fromUtf8Loop bs.length 0 bs

def replacement : Char := Char.ofNat 0xFFFD

def fromUtf8LossyLoop : ℕ → Bytes → Text
  | _, [] => []
  | 0, _::_ => []
  | fuel+1, b::bs =>
    match scan (b::bs) with
    | .char c rest => c::fromUtf8LossyLoop fuel rest
    | .invalid len => replacement::fromUtf8LossyLoop fuel ((b::bs).drop len)
    | .incomplete => [replacement]

def fromUtf8Lossy (bs : Bytes) : Text := fromUtf8LossyLoop bs.length bs

def Scalar (n : ℕ) : Prop := n < 0xD800 ∨ 0xDFFF < n ∧ n < 0x110000

theorem val_ofNat {n : ℕ} (h : Scalar n) : (Char.ofNat n).val.toNat = n := by
  have hvalid : n.isValidChar := h
  rw [Char.ofNat, dif_pos hvalid]
  rfl

theorem byte_toNat {n : ℕ} (h : n < 256) : (UInt8.ofNat n).toNat = n := by
  rw [UInt8.toNat_ofNat']
  exact Nat.mod_eq_of_lt h

theorem isContinuation_iff {b : UInt8} :
    isContinuation b = true ↔ 0x80 ≤ b.toNat ∧ b.toNat < 0xC0 := by
  simp [isContinuation]

theorem isSecond_iff {n : ℕ} {b : UInt8} : isSecond n b = true ↔
    0x80 ≤ b.toNat ∧ b.toNat < 0xC0 ∧ (n = 0xE0 → 0xA0 ≤ b.toNat) ∧
      (n = 0xED → b.toNat < 0xA0) ∧ (n = 0xF0 → 0x90 ≤ b.toNat) ∧
      (n = 0xF4 → b.toNat < 0x90) := by
  simp only [isSecond, Bool.and_eq_true, isContinuation_iff, Bool.or_eq_true, decide_eq_true_eq,
    ne_eq, imp_iff_not_or, and_assoc]

theorem scan_cons (b : UInt8) (rest : Bytes) : scan (b::rest) =
    if b.toNat < 0x80 then .char (Char.ofNat b.toNat) rest
    else if b.toNat < 0xC2 then .invalid 1
    else if b.toNat < 0xE0 then scanTwo b.toNat rest
    else if b.toNat < 0xF0 then scanThree b.toNat rest
    else if b.toNat < 0xF5 then scanFour b.toNat rest
    else .invalid 1 := rfl

theorem isContinuation_low (k : ℕ) : isContinuation (UInt8.ofNat (k%64+128)) = true := by
  have hk : (UInt8.ofNat (k%64+128)).toNat = k%64+128 := byte_toNat (by omega)
  rewrite [isContinuation_iff, hk]
  omega

theorem low_low (k : ℕ) : low (UInt8.ofNat (k%64+128)) = k%64 := by
  have hk : (UInt8.ofNat (k%64+128)).toNat = k%64+128 := byte_toNat (by omega)
  unfold low
  rewrite [hk]
  omega

theorem scan_encode (c : Char) (rest : Bytes) :
    scan (String.utf8EncodeChar c++rest) = .char c rest := by
  have hrange : Scalar c.val.toNat := c.valid
  have hc : Char.ofNat c.val.toNat = c := Char.ofNat_toNat c
  unfold String.utf8EncodeChar
  generalize c.val.toNat = v at hrange hc
  unfold Scalar at hrange
  dsimp only
  by_cases h1 : v ≤ 127
  · have hb : (UInt8.ofNat v).toNat = v := byte_toNat (by omega)
    rw [if_pos h1, List.singleton_append, scan_cons, hb, if_pos (by omega), hc]
  by_cases h2 : v ≤ 2047
  · have hb : (UInt8.ofNat (v/64%32+192)).toNat = v/64%32+192 := byte_toNat (by omega)
    have hv : (v/64%32+192-0xC0)*64+v%64 = v := by omega
    rewrite [if_neg h1, if_pos h2, List.cons_append, scan_cons, hb, if_neg (by omega),
      if_neg (by omega), if_pos (by omega), List.singleton_append]
    unfold scanTwo
    simp only [isContinuation_low, low_low, hv, hc, if_true]
  by_cases h3 : v ≤ 65535
  · have hb : (UInt8.ofNat (v/4096%16+224)).toNat = v/4096%16+224 := byte_toNat (by omega)
    have hb1 : (UInt8.ofNat (v/64%64+128)).toNat = v/64%64+128 := byte_toNat (by omega)
    have hsecond : isSecond (v/4096%16+224) (UInt8.ofNat (v/64%64+128)) = true := by
      rewrite [isSecond_iff, hb1]
      omega
    have hv : (v/4096%16+224-0xE0)*4096+v/64%64*64+v%64 = v := by omega
    rewrite [if_neg h1, if_neg h2, if_pos h3, List.cons_append, scan_cons, hb, if_neg (by omega),
      if_neg (by omega), if_neg (by omega), if_pos (by omega)]
    unfold scanThree
    simp only [List.cons_append, List.nil_append, hsecond, isContinuation_low, low_low, hv, hc,
      Bool.not_true, Bool.false_eq_true, if_false]
  · have hb : (UInt8.ofNat (v/262144%8+240)).toNat = v/262144%8+240 := byte_toNat (by omega)
    have hb1 : (UInt8.ofNat (v/4096%64+128)).toNat = v/4096%64+128 := byte_toNat (by omega)
    have hsecond : isSecond (v/262144%8+240) (UInt8.ofNat (v/4096%64+128)) = true := by
      rewrite [isSecond_iff, hb1]
      omega
    have hv : (v/262144%8+240-0xF0)*262144+v/4096%64*4096+v/64%64*64+v%64 = v := by omega
    rewrite [if_neg h1, if_neg h2, if_neg h3, List.cons_append, scan_cons, hb, if_neg (by omega),
      if_neg (by omega), if_neg (by omega), if_neg (by omega), if_pos (by omega)]
    unfold scanFour
    simp only [List.cons_append, List.nil_append, hsecond, isContinuation_low, low_low, hv, hc,
      Bool.not_true, Bool.false_eq_true, if_false]

theorem ofNat_eq_byte {n : ℕ} {b : UInt8} (h : n = b.toNat) : UInt8.ofNat n = b := by
  rw [h, UInt8.ofNat_toNat]

theorem encode_two {b0 b1 : UInt8} (h0 : 0xC2 ≤ b0.toNat) (h0' : b0.toNat < 0xE0)
    (h1 : isContinuation b1 = true) :
    String.utf8EncodeChar (Char.ofNat ((b0.toNat-0xC0)*64+low b1)) = [b0,b1] := by
  rw [isContinuation_iff] at h1
  have hval : (Char.ofNat ((b0.toNat-0xC0)*64+low b1)).val.toNat = _ :=
    val_ofNat (by unfold Scalar low; omega)
  unfold String.utf8EncodeChar
  rewrite [hval]
  unfold low
  dsimp only
  rewrite [if_neg (by omega), if_pos (by omega)]
  exact congrArg₂ _ (ofNat_eq_byte (by omega)) (congrArg₂ _ (ofNat_eq_byte (by omega)) rfl)

theorem encode_three {b0 b1 b2 : UInt8} (h0 : 0xE0 ≤ b0.toNat) (h0' : b0.toNat < 0xF0)
    (h1 : isSecond b0.toNat b1 = true) (h2 : isContinuation b2 = true) :
    String.utf8EncodeChar (Char.ofNat ((b0.toNat-0xE0)*4096+low b1*64+low b2)) = [b0,b1,b2] := by
  rw [isSecond_iff] at h1
  rw [isContinuation_iff] at h2
  have hval : (Char.ofNat ((b0.toNat-0xE0)*4096+low b1*64+low b2)).val.toNat = _ :=
    val_ofNat (by unfold Scalar low; omega)
  unfold String.utf8EncodeChar
  rewrite [hval]
  unfold low
  dsimp only
  rewrite [if_neg (by omega), if_neg (by omega), if_pos (by omega)]
  exact congrArg₂ _ (ofNat_eq_byte (by omega)) (congrArg₂ _ (ofNat_eq_byte (by omega))
    (congrArg₂ _ (ofNat_eq_byte (by omega)) rfl))

theorem encode_four {b0 b1 b2 b3 : UInt8} (h0 : 0xF0 ≤ b0.toNat) (h0' : b0.toNat < 0xF5)
    (h1 : isSecond b0.toNat b1 = true) (h2 : isContinuation b2 = true)
    (h3 : isContinuation b3 = true) :
    String.utf8EncodeChar
      (Char.ofNat ((b0.toNat-0xF0)*262144+low b1*4096+low b2*64+low b3)) = [b0,b1,b2,b3] := by
  rw [isSecond_iff] at h1
  rw [isContinuation_iff] at h2 h3
  have hval : (Char.ofNat ((b0.toNat-0xF0)*262144+low b1*4096+low b2*64+low b3)).val.toNat = _ :=
    val_ofNat (by unfold Scalar low; omega)
  unfold String.utf8EncodeChar
  rewrite [hval]
  unfold low
  dsimp only
  rewrite [if_neg (by omega), if_neg (by omega), if_neg (by omega)]
  exact congrArg₂ _ (ofNat_eq_byte (by omega)) (congrArg₂ _ (ofNat_eq_byte (by omega))
    (congrArg₂ _ (ofNat_eq_byte (by omega)) (congrArg₂ _ (ofNat_eq_byte (by omega)) rfl)))

theorem encode_of_scan {bs rest : Bytes} {c : Char} (h : scan bs = .char c rest) :
    bs = String.utf8EncodeChar c++rest := by
  match bs with
  | [] => cases h
  | b0::tail =>
    rw [scan_cons] at h
    split_ifs at h with h1 h2 h3 h4 h5
    · cases h
      have hval : (Char.ofNat b0.toNat).val.toNat = _ := val_ofNat (by unfold Scalar; omega)
      unfold String.utf8EncodeChar
      rewrite [hval, if_pos (by omega), UInt8.ofNat_toNat]
      rfl
    · match tail with
      | [] => cases h
      | b1::tail =>
        unfold scanTwo at h
        dsimp only at h
        split_ifs at h with hb1
        obtain ⟨rfl,rfl⟩ := Scan.char.inj h
        rewrite [encode_two (by omega) h3 hb1]
        rfl
    · match tail with
      | [] => cases h
      | [b1] => unfold scanThree at h; dsimp only at h; split_ifs at h
      | b1::b2::tail =>
        unfold scanThree at h
        dsimp only at h
        split_ifs at h with hb1 hb2
        obtain ⟨rfl,rfl⟩ := Scan.char.inj h
        rewrite [encode_three (by omega) h4 (by simpa using hb1) (by simpa using hb2)]
        rfl
    · match tail with
      | [] => cases h
      | [b1] => unfold scanFour at h; dsimp only at h; split_ifs at h
      | [b1,b2] => unfold scanFour at h; dsimp only at h; split_ifs at h
      | b1::b2::b3::tail =>
        unfold scanFour at h
        dsimp only at h
        split_ifs at h with hb1 hb2 hb3
        obtain ⟨rfl,rfl⟩ := Scan.char.inj h
        rewrite [encode_four (by omega) h5 (by simpa using hb1) (by simpa using hb2)
          (by simpa using hb3)]
        rfl

theorem utf8_cons (c : Char) (s : Text) : utf8 (c::s) = String.utf8EncodeChar c++utf8 s :=
  List.flatMap_cons

theorem utf8_append (s t : Text) : utf8 (s++t) = utf8 s++utf8 t := List.flatMap_append

theorem encode_ne_nil (c : Char) : ∃ b bs, String.utf8EncodeChar c = b::bs := by
  match h : String.utf8EncodeChar c with
  | [] =>
    have hsize := String.length_utf8EncodeChar c
    rw [h] at hsize
    exact absurd hsize.symm (Nat.ne_of_gt c.utf8Size_pos)
  | b::bs => exact ⟨b,bs,rfl⟩

theorem length_le_utf8 (s : Text) : s.length ≤ (utf8 s).length := by
  induction s with
  | nil => exact Nat.zero_le _
  | cons c s ih =>
    obtain ⟨b,bs,hc⟩ := encode_ne_nil c
    rw [utf8_cons, hc, List.length_append, List.length_cons, List.length_cons]
    omega

theorem scan_utf8 (c : Char) (s : Text) :
    ∃ b bs, utf8 (c::s) = b::bs ∧ scan (b::bs) = .char c (utf8 s) := by
  obtain ⟨b,bs,hc⟩ := encode_ne_nil c
  refine ⟨b,bs++utf8 s,by rw [utf8_cons, hc, List.cons_append],?_⟩
  rw [← List.cons_append, ← hc, scan_encode]

theorem fromUtf8Loop_utf8 (s : Text) (fuel index : ℕ) (h : s.length ≤ fuel) :
    fromUtf8Loop fuel index (utf8 s) = .ok s := by
  induction s generalizing fuel index with
  | nil => cases fuel <;> rfl
  | cons c s ih =>
    match fuel, h with
    | fuel+1, h =>
      obtain ⟨b,bs,hcons,hscan⟩ := scan_utf8 c s
      rw [hcons, fromUtf8Loop, hscan]
      dsimp only
      rw [ih fuel _ (Nat.le_of_succ_le_succ h)]
      rfl

theorem fromUtf8_utf8 (s : Text) : fromUtf8 (utf8 s) = .ok s :=
  fromUtf8Loop_utf8 s _ 0 (length_le_utf8 s)

example : fromUtf8 [0xC3,0xA9,0x21] = .ok ['é','!'] ∧ fromUtf8 [0x41,0xC3] = .error ⟨1,none⟩ := by
  decide +kernel

theorem fromUtf8LossyLoop_utf8 (s : Text) (fuel : ℕ) (h : s.length ≤ fuel) :
    fromUtf8LossyLoop fuel (utf8 s) = s := by
  induction s generalizing fuel with
  | nil => cases fuel <;> rfl
  | cons c s ih =>
    match fuel, h with
    | fuel+1, h =>
      obtain ⟨b,bs,hcons,hscan⟩ := scan_utf8 c s
      rw [hcons, fromUtf8LossyLoop, hscan]
      dsimp only
      rw [ih fuel (Nat.le_of_succ_le_succ h)]

theorem fromUtf8Lossy_utf8 (s : Text) : fromUtf8Lossy (utf8 s) = s :=
  fromUtf8LossyLoop_utf8 s _ (length_le_utf8 s)

theorem utf8_of_fromUtf8Loop (fuel index : ℕ) (bs : Bytes) (s : Text) (hfuel : bs.length ≤ fuel)
    (h : fromUtf8Loop fuel index bs = .ok s) : utf8 s = bs := by
  induction fuel generalizing index bs s with
  | zero =>
    rw [List.length_eq_zero_iff.mp (Nat.le_zero.mp hfuel)] at h ⊢
    cases h
    rfl
  | succ fuel ih =>
    match bs with
    | [] =>
      cases h
      rfl
    | b::bs =>
      rw [fromUtf8Loop] at h
      split at h
      · next c rest hscan =>
        have hbs := encode_of_scan hscan
        cases hrest : fromUtf8Loop fuel (index+c.utf8Size) rest with
        | error => rw [hrest] at h; cases h
        | ok t =>
          rw [hrest] at h
          cases h
          have hlen : rest.length ≤ fuel := by
            have hlength := congrArg List.length hbs
            rw [List.length_append, String.length_utf8EncodeChar, List.length_cons] at hlength
            have hpos := c.utf8Size_pos
            rw [List.length_cons] at hfuel
            omega
          rw [utf8_cons, ih _ _ _ hlen hrest, ← hbs]
      · cases h
      · cases h

theorem utf8_of_fromUtf8 {bs : Bytes} {s : Text} (h : fromUtf8 bs = .ok s) : utf8 s = bs :=
  utf8_of_fromUtf8Loop _ _ _ _ le_rfl h

end RsipRtp.Utf8
