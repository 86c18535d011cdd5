import RsipRtp.BigEndian

/-!
# Checked reads from a byte buffer

A read beyond the end of a buffer is a panic, `none`.
-/

namespace RsipRtp.ByteCursor
open BigEndian

section Reads

def readU8 : List UInt8 → Option (UInt8 × List UInt8)
  | b::buf => some (b,buf)
  | [] => none

def readU16 : List UInt8 → Option (UInt16 × List UInt8)
  | b1::b0::buf => some (getU16 b1 b0,buf)
  | _ => none

def readU32 : List UInt8 → Option (UInt32 × List UInt8)
  | b3::b2::b1::b0::buf => some (getU32 b3 b2 b1 b0,buf)
  | _ => none

def advance (n : ℕ) (buf : List UInt8) : Option (List UInt8) :=
  if n ≤ buf.length then some (buf.drop n) else none

def slice (lo hi : ℕ) (buf : List UInt8) : Option (List UInt8) :=
  if lo ≤ hi ∧ hi ≤ buf.length then some ((buf.take hi).drop lo) else none

variable {buf : List UInt8}

@[simp] theorem readU8_cons (b : UInt8) (buf : List UInt8) : readU8 (b::buf) = some (b,buf) := rfl

@[simp] theorem readU16_put (n : UInt16) (buf : List UInt8) :
    readU16 (putU16 n++buf) = some (n,buf) := by
  obtain ⟨b1,b0,hput,hget⟩ := putU16_read n
  rw [hput, ← hget]
  rfl

@[simp] theorem readU32_put (n : UInt32) (buf : List UInt8) :
    readU32 (putU32 n++buf) = some (n,buf) := by
  obtain ⟨b3,b2,b1,b0,hput,hget⟩ := putU32_read n
  rw [hput, ← hget]
  rfl

theorem exists_readU8 (h : 1 ≤ buf.length) : ∃ b rest, buf = b::rest := by
  match buf, h with
  | b::rest, _ => exact ⟨b,rest,rfl⟩

theorem exists_readU16 (h : 2 ≤ buf.length) : ∃ n rest, buf = putU16 n++rest := by
  match buf, h with
  | b1::b0::rest, _ => exact ⟨getU16 b1 b0,rest,by rw [putU16_getU16]; rfl⟩

theorem exists_readU32 (h : 4 ≤ buf.length) : ∃ n rest, buf = putU32 n++rest := by
  match buf, h with
  | b3::b2::b1::b0::rest, _ => exact ⟨getU32 b3 b2 b1 b0,rest,by rw [putU32_getU32]; rfl⟩

@[simp] theorem putU16_length (n : UInt16) : (putU16 n).length = 2 := encode_length 2 _

@[simp] theorem putU32_length (n : UInt32) : (putU32 n).length = 4 := encode_length 4 _

theorem advance_of_le {n : ℕ} (h : n ≤ buf.length) : advance n buf = some (buf.drop n) := if_pos h

theorem slice_of_le {lo hi : ℕ} (h : lo ≤ hi) (hhi : hi ≤ buf.length) :
    slice lo hi buf = some ((buf.take hi).drop lo) := if_pos ⟨h,hhi⟩

theorem slice_eq_none {lo hi : ℕ} (h : buf.length < hi) : slice lo hi buf = none :=
  if_neg (fun hle => absurd hle.2 (Nat.not_le.mpr h))

end Reads

section Attributes

variable {σ : Type}

def padded (n : ℕ) : ℕ := (n+3)/4*4

theorem le_padded (n : ℕ) : n ≤ padded n := by
  unfold padded
  omega

def attr (attrType attrLen : UInt16) (rest : List UInt8) : List UInt8 :=
  putU16 attrType++(putU16 attrLen++rest)

theorem attr_length (attrType attrLen : UInt16) (rest : List UInt8) :
    (attr attrType attrLen rest).length = 4+rest.length := by
  simp only [attr, List.length_append, putU16_length]
  omega

theorem attr_append (attrType attrLen : UInt16) (rest tail : List UInt8) :
    attr attrType attrLen rest++tail = attr attrType attrLen (rest++tail) := by
  simp only [attr, List.append_assoc]

theorem readU16_attr (attrType attrLen : UInt16) (rest : List UInt8) :
    readU16 (attr attrType attrLen rest) = some (attrType,putU16 attrLen++rest) :=
  readU16_put attrType _

theorem exists_attr {attrs : List UInt8} (h : 4 ≤ attrs.length) :
    ∃ attrType attrLen rest, attrs = attr attrType attrLen rest := by
  obtain ⟨attrType,tail,rfl⟩ := exists_readU16 (show 2 ≤ attrs.length by omega)
  rw [List.length_append, putU16_length] at h
  obtain ⟨attrLen,rest,rfl⟩ := exists_readU16 (show 2 ≤ tail.length by omega)
  exact ⟨attrType,attrLen,rest,rfl⟩

theorem attr_inj {t t' l l' : UInt16} {rest rest' : List UInt8}
    (h : attr t l rest = attr t' l' rest') : t = t' ∧ l = l' ∧ rest = rest' := by
  have htype := congrArg readU16 h
  rw [readU16_attr, readU16_attr, Option.some.injEq, Prod.mk.injEq] at htype
  have hlen := congrArg readU16 htype.2
  rw [readU16_put, readU16_put, Option.some.injEq, Prod.mk.injEq] at hlen
  exact ⟨htype.1,hlen.1,hlen.2⟩

/-- The loop through the attributes. Every round takes at least four bytes,
so the length of the buffer is fuel enough. -/
def walk (handle : UInt16 → List UInt8 → σ → Option σ) : ℕ → List UInt8 → σ → Option σ
  | 0, _, s => some s
  | fuel+1, attrs, s =>
    if attrs.length < 4 then some s
    else do
      let (attrType,attrs) ← readU16 attrs
      let (attrLen,attrs) ← readU16 attrs
      if attrs.length < attrLen.toNat then some s
      else
        let attrData ← slice 0 attrLen.toNat attrs
        let s ← handle attrType attrData s
        if padded attrLen.toNat ≤ attrs.length then
          let attrs ← advance (padded attrLen.toNat) attrs
          walk handle fuel attrs s
        else some s

def attributes : ℕ → List UInt8 → List (UInt16 × List UInt8)
  | 0, _ => []
  | fuel+1, attrs =>
    match readU16 attrs with
    | none => []
    | some (attrType,attrs) =>
      match readU16 attrs with
      | none => []
      | some (attrLen,attrs) =>
        if attrs.length < attrLen.toNat then []
        else (attrType,attrs.take attrLen.toNat)::attributes fuel
          (attrs.drop (padded attrLen.toNat))

variable {handle : UInt16 → List UInt8 → σ → Option σ}

theorem attributes_nil (fuel : ℕ) : attributes fuel [] = [] := by
  cases fuel <;> rfl

theorem attributes_attr (fuel : ℕ) (attrType attrLen : UInt16) (rest : List UInt8) :
    attributes (fuel+1) (attr attrType attrLen rest) =
      if rest.length < attrLen.toNat then []
      else (attrType,rest.take attrLen.toNat)::
        attributes fuel (rest.drop (padded attrLen.toNat)) := by
  simp only [attributes, readU16_attr, readU16_put]

theorem attributes_short {fuel : ℕ} {attrs : List UInt8} (h : attrs.length < 4) :
    attributes fuel attrs = [] := by
  cases fuel with
  | zero => rfl
  | succ fuel =>
    match attrs with
    | [] | [_] | [_,_] | [_,_,_] => rfl
    | _::_::_::_::_ => simp only [List.length_cons] at h; omega

def encodeAttr (a : UInt16 × List UInt8) : List UInt8 :=
  attr a.1 (UInt16.ofNat a.2.length) (a.2++List.replicate (padded a.2.length-a.2.length) 0)

theorem encodeAttr_length (a : UInt16 × List UInt8) :
    (encodeAttr a).length = 4+padded a.2.length := by
  have hle := le_padded a.2.length
  rw [encodeAttr, attr_length, List.length_append, List.length_replicate]
  omega

theorem length_le_flatMap (as : List (UInt16 × List UInt8)) :
    as.length ≤ (as.flatMap encodeAttr).length := by
  induction as with
  | nil => rfl
  | cons a as ih =>
    rw [List.flatMap_cons, List.length_append, encodeAttr_length, List.length_cons]
    omega

theorem attributes_encode {as : List (UInt16 × List UInt8)} {fuel : ℕ}
    (h : (as.flatMap encodeAttr).length < 2^16) (hfuel : as.length ≤ fuel) :
    attributes fuel (as.flatMap encodeAttr) = as := by
  induction as generalizing fuel with
  | nil => exact attributes_nil fuel
  | cons a as ih =>
    obtain ⟨n,rfl⟩ : ∃ n, fuel = n+1 := Nat.exists_eq_add_one.mpr (by simp at hfuel; omega)
    have hle := le_padded a.2.length
    rw [List.flatMap_cons, List.length_append, encodeAttr_length] at h
    have hlen : (UInt16.ofNat a.2.length).toNat = a.2.length := by
      rw [UInt16.toNat_ofNat', Nat.mod_eq_of_lt (by omega)]
    have hpad : (a.2++List.replicate (padded a.2.length-a.2.length) (0 : UInt8)).length =
        padded a.2.length := by
      rw [List.length_append, List.length_replicate]
      omega
    rw [List.flatMap_cons, encodeAttr, attr_append, attributes_attr, hlen, if_neg (by simp),
      List.drop_left' hpad, List.append_assoc, List.take_left,
      ih (by omega) (Nat.le_of_succ_le_succ hfuel)]

theorem walk_eq_foldlM (fuel : ℕ) (attrs : List UInt8) (s : σ) :
    walk handle fuel attrs s =
      (attributes fuel attrs).foldlM (fun s attr => handle attr.1 attr.2 s) s := by
  induction fuel generalizing attrs s with
  | zero => rfl
  | succ fuel ih =>
    by_cases hshort : attrs.length < 4
    · rw [walk, if_pos hshort, attributes_short hshort]
      rfl
    · obtain ⟨attrType,attrLen,rest,rfl⟩ := exists_attr (Nat.not_lt.mp hshort)
      rw [walk, if_neg hshort, attributes_attr]
      simp only [readU16_attr, readU16_put, Option.bind_eq_bind, Option.bind_some]
      split_ifs with hcut hpadded
      · rfl
      · rw [slice_of_le (Nat.zero_le _) (Nat.not_lt.mp hcut), advance_of_le hpadded,
          List.foldlM_cons]
        simp only [Option.bind_some, List.drop_zero, ih, Option.bind_eq_bind]
      · rw [slice_of_le (Nat.zero_le _) (Nat.not_lt.mp hcut),
          List.drop_eq_nil_of_le (Nat.le_of_not_le hpadded), attributes_nil, List.foldlM_cons]
        rfl

theorem walk_isSome (h : ∀ attrType attrData s, (handle attrType attrData s).isSome)
    (fuel : ℕ) (attrs : List UInt8) (s : σ) : (walk handle fuel attrs s).isSome := by
  rw [walk_eq_foldlM]
  generalize attributes fuel attrs = list
  induction list generalizing s with
  | nil => rfl
  | cons attr list ih =>
    obtain ⟨s',hs⟩ := Option.isSome_iff_exists.mp (h attr.1 attr.2 s)
    rw [List.foldlM_cons, hs]
    exact ih s'

end Attributes

end RsipRtp.ByteCursor
