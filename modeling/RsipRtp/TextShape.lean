import Mathlib.Data.Nat.Digits.Defs
import RsipRtp.Utf8

/-!
# Trimming, splitting and encoding

What `trim` leaves, what `split_whitespace` cuts a text into and how long
the pieces are, the digits of a number, and the bytes of a text: a byte below
the ASCII limit is an ASCII character.
-/

namespace RsipRtp.TextShape
open SipText Utf8

variable {c : Char}

variable {s : Text}

theorem forall_of_all {p : Char → Prop} [DecidablePred p]
    (h : s.all (fun c => decide (p c)) = true) : ∀ c ∈ s, p c :=
  fun c hc => of_decide_eq_true (List.all_eq_true.mp h c hc)

section Trim

variable {s : Text}

theorem mem_of_mem_trim {c : Char} (h : c ∈ trim s) : c ∈ s :=
  (List.dropWhile_sublist _).subset ((List.rdropWhile_prefix _ _).subset h)

theorem trimStart_head (h : trimStart s ≠ []) : isWhitespace ((trimStart s).head h) = false :=
  List.head_dropWhile_not _ h

theorem trim_head {c : Char} {rest : Text} (h : trim s = c::rest) : isWhitespace c = false := by
  obtain ⟨tail,htail⟩ := List.rdropWhile_prefix isWhitespace (trimStart s)
  have hstart : trimStart s = c::(rest++tail) := by
    rw [← htail]
    exact congrArg (·++tail) h
  have hhead := trimStart_head (s := s) (by rw [hstart]; exact List.cons_ne_nil _ _)
  simpa only [hstart, List.head_cons] using hhead

theorem trimStart_trim (s : Text) : trimStart (trim s) = trim s := by
  cases h : trim s with
  | nil => rfl
  | cons c rest =>
    exact List.dropWhile_cons_of_neg (by rw [trim_head h]; exact Bool.false_ne_true)

theorem trimStart_of_trim (h : trim s = s) : trimStart s = s := by
  rw [← h]
  exact trimStart_trim s

theorem trim_trim (s : Text) : trim (trim s) = trim s := by
  rw [trim, trimStart_trim]
  exact List.rdropWhile_idempotent _ _

theorem trimEnd_eq_iff (s : Text) : trimEnd s = s ↔ ∀ c ∈ s.getLast?, isWhitespace c = false := by
  rw [trimEnd, List.rdropWhile_eq_self_iff]
  constructor
  · intro h c hc
    obtain ⟨hne,rfl⟩ := List.mem_getLast?_eq_getLast hc
    exact Bool.eq_false_iff.mpr (h hne)
  · intro h hne
    exact Bool.eq_false_iff.mp (h _ (List.getLast?_eq_some_getLast hne))

theorem trim_space (s : Text) : trim (' '::s) = trim s := rfl

theorem trim_of_forall (h : ∀ c ∈ s, isWhitespace c = false) : trim s = s := by
  have hstart : trimStart s = s := by
    cases s with
    | nil => rfl
    | cons c rest =>
      exact List.dropWhile_cons_of_neg (by rw [h c List.mem_cons_self]; exact Bool.false_ne_true)
  rw [trim, hstart]
  refine List.rdropWhile_eq_self_iff.mpr (fun hne => ?_)
  rw [h _ (List.getLast_mem hne)]
  exact Bool.false_ne_true

theorem mem_trim {c : Char} (hmem : c ∈ s) (hc : isWhitespace c = false) : c ∈ trim s := by
  have hstart : c ∈ trimStart s := by
    rw [← List.takeWhile_append_dropWhile (p := isWhitespace) (l := s)] at hmem
    rcases List.mem_append.mp hmem with hmem | hmem
    · rw [List.mem_takeWhile_imp hmem] at hc
      cases hc
    · exact hmem
  have hrev : c ∈ (trimStart s).reverse := List.mem_reverse.mpr hstart
  rw [← List.takeWhile_append_dropWhile (p := isWhitespace) (l := (trimStart s).reverse)] at hrev
  rcases List.mem_append.mp hrev with hmem | hmem
  · rw [List.mem_takeWhile_imp hmem] at hc
    cases hc
  · exact List.mem_reverse.mpr hmem

theorem trim_ne_nil_iff : trim s ≠ [] ↔ ∃ c ∈ s, isWhitespace c = false := by
  constructor
  · intro h
    obtain ⟨c,rest,hcons⟩ := List.exists_cons_of_ne_nil h
    exact ⟨c,mem_of_mem_trim (hcons ▸ List.mem_cons_self),trim_head hcons⟩
  · rintro ⟨c,hmem,hc⟩
    exact List.ne_nil_of_mem (mem_trim hmem hc)

theorem trim_gap {gap : Text} (h : ∀ c ∈ gap, isWhitespace c = true) : trim (s++gap) = trim s := by
  have hstart : trimStart gap = [] := List.dropWhile_eq_nil_iff.mpr h
  have hend : gap.reverse.dropWhile isWhitespace = [] :=
    List.dropWhile_eq_nil_iff.mpr fun c hc => h c (List.mem_reverse.mp hc)
  rw [trim, trimStart, List.dropWhile_append, trim, trimStart]
  split_ifs with hempty
  · rw [List.isEmpty_iff.mp hempty, ← trimStart, hstart]
  · rw [trimEnd, List.rdropWhile, List.reverse_append, List.dropWhile_append, hend]
    rfl

theorem blank_mem_trim {w : Text} (hs : ∃ c ∈ s, isWhitespace c = false)
    (hw : ∃ c ∈ w, isWhitespace c = false) : ' ' ∈ trim (s++ ' '::w) := by
  have hstart : ¬(s.dropWhile isWhitespace).isEmpty = true := by
    obtain ⟨c,hmem,hc⟩ := hs
    rw [List.isEmpty_iff, List.dropWhile_eq_nil_iff]
    exact fun hall => by simp [hall c hmem] at hc
  have hend : ¬(w.reverse.dropWhile isWhitespace).isEmpty = true := by
    obtain ⟨c,hmem,hc⟩ := hw
    rw [List.isEmpty_iff, List.dropWhile_eq_nil_iff]
    exact fun hall => by simp [hall c (List.mem_reverse.mpr hmem)] at hc
  rw [trim, trimStart, List.dropWhile_append, if_neg hstart, trimEnd, List.rdropWhile,
    List.reverse_append, List.reverse_cons, List.append_assoc, List.dropWhile_append, if_neg hend]
  simp

theorem isWhitespace_visible {c : Char} (hlow : 33 ≤ c.toNat) (hhigh : c.toNat ≤ 126) :
    isWhitespace c = false := by
  simp only [isWhitespace, Bool.or_eq_false_iff, Bool.and_eq_false_iff, decide_eq_false_iff_not,
    beq_eq_false_iff_ne]
  omega

/-- Only the capital letters have another lower case. -/
theorem toLower_cases (c : Char) :
    c.toLower = c ∨ 65 ≤ c.toNat ∧ c.toNat ≤ 90 ∧ c.toLower.toNat = c.toNat+32 := by
  by_cases hupper : c.val ≥ 'A'.val ∧ c.val ≤ 'Z'.val
  · have hlow : 65 ≤ c.toNat := hupper.1
    have hhigh : c.toNat ≤ 90 := hupper.2
    have hval : c.toLower.toNat = (c.val+('a'.val - 'A'.val)).toNat := by
      delta Char.toLower
      rw [dif_pos hupper]
      rfl
    have hdiff : ('a'.val - 'A'.val).toNat = 32 := rfl
    have hcode : c.val.toNat = c.toNat := rfl
    rw [UInt32.toNat_add] at hval
    exact .inr ⟨hlow,hhigh,by omega⟩
  · exact .inl (dif_neg hupper)

theorem isWhitespace_toLower (c : Char) : isWhitespace c.toLower = isWhitespace c := by
  rcases toLower_cases c with h | ⟨hlow,hhigh,hval⟩
  · rw [h]
  · rw [isWhitespace_visible (by omega) (by omega), isWhitespace_visible (by omega) (by omega)]

end Trim

section Split

variable {s a b : Text}

theorem splitFirst_append {c : Char} (h : c ∉ a) : splitFirst c (a++c::b) = some (a,b) := by
  induction a with
  | nil => exact if_pos rfl
  | cons x xs ih =>
    have hx : x ≠ c := fun hx => h (hx ▸ List.mem_cons_self)
    rw [List.cons_append, splitFirst, if_neg hx, ih (fun hmem => h (List.mem_cons_of_mem x hmem))]
    rfl

theorem splitFirst_none {c : Char} (h : c ∉ s) : splitFirst c s = none := by
  induction s with
  | nil => rfl
  | cons x xs ih =>
    have hx : x ≠ c := fun hx => h (hx ▸ List.mem_cons_self)
    rw [splitFirst, if_neg hx, ih (fun hmem => h (List.mem_cons_of_mem x hmem))]
    rfl

theorem splitFirst_not_mem {c : Char} (h : splitFirst c s = none) : c ∉ s := by
  induction s with
  | nil => exact List.not_mem_nil
  | cons x xs ih =>
    rw [splitFirst] at h
    split_ifs at h with hx
    intro hmem
    rcases List.mem_cons.mp hmem with heq | hmem
    · exact hx heq.symm
    · exact ih (Option.map_eq_none_iff.mp h) hmem

theorem splitFirst_eq {c : Char} (h : splitFirst c s = some (a,b)) : s = a++c::b ∧ c ∉ a := by
  induction s generalizing a with
  | nil => cases h
  | cons x xs ih =>
    rw [splitFirst] at h
    split_ifs at h with hx
    · cases h
      exact ⟨by rw [hx]; rfl,List.not_mem_nil⟩
    · obtain ⟨⟨a',b'⟩,hsplit,heq⟩ := Option.map_eq_some_iff.mp h
      cases heq
      obtain ⟨rfl,hmem⟩ := ih hsplit
      refine ⟨rfl,fun hc => ?_⟩
      rcases List.mem_cons.mp hc with heq | hc
      · exact hx heq.symm
      · exact hmem hc

theorem splitOnP_forall {p : Char → Bool} {w : Text} (h : w ∈ s.splitOnP p) :
    ∀ c ∈ w, p c = false := by
  induction s generalizing w with
  | nil =>
    rw [List.splitOnP_nil] at h
    rw [List.mem_singleton.mp h]
    exact fun c hc => absurd hc List.not_mem_nil
  | cons x xs ih =>
    rw [List.splitOnP_cons_eq_if_modifyHead] at h
    split_ifs at h with hx
    · rcases List.mem_cons.mp h with rfl | h
      · exact fun c hc => absurd hc List.not_mem_nil
      · exact ih h
    · obtain ⟨w',ws,hws⟩ := List.exists_cons_of_ne_nil (List.splitOnP_ne_nil p xs)
      rw [hws, List.modifyHead_cons] at h
      rw [hws] at ih
      rcases List.mem_cons.mp h with rfl | h
      · intro c hc
        rcases List.mem_cons.mp hc with rfl | hc
        · exact Bool.eq_false_iff.mpr hx
        · exact ih List.mem_cons_self c hc
      · exact ih (List.mem_cons_of_mem _ h)

/-- What `split_whitespace` yields. -/
structure Word (w : Text) : Prop where
  ne : w ≠ []
  solid : ∀ c ∈ w, isWhitespace c = false

theorem mem_splitWhitespace {w : Text} (h : w ∈ splitWhitespace s) : Word w := by
  obtain ⟨hmem,hne⟩ := List.mem_filter.mp h
  exact ⟨by simpa using hne,splitOnP_forall hmem⟩

theorem Word.lf_not_mem {w : Text} (h : Word w) : '\n' ∉ w := fun hmem => by cases h.solid _ hmem

theorem splitWhitespace_words {u v w : Text} (hu : Word u) (hv : Word v) (hw : Word w) :
    splitWhitespace (u++ ' '::(v++ ' '::w)) = [u,v,w] := by
  rw [splitWhitespace, List.splitOnP_append_cons u _ rfl, List.splitOnP_append_cons v _ rfl,
    List.splitOnP_eq_singleton hu.solid, List.splitOnP_eq_singleton hv.solid,
    List.splitOnP_eq_singleton hw.solid]
  simp [hu.ne, hv.ne, hw.ne]

theorem splitWhitespace_pair {u v : Text} (hu : Word u) (hv : Word v) :
    splitWhitespace (u++ ' '::v) = [u,v] := by
  rw [splitWhitespace, List.splitOnP_append_cons u _ rfl, List.splitOnP_eq_singleton hu.solid,
    List.splitOnP_eq_singleton hv.solid]
  simp [hu.ne, hv.ne]

theorem join_cons (sep w v : Text) (ws : List Text) :
    join sep (w::v::ws) = w++(sep++join sep (v::ws)) := by
  simp [join]

theorem splitWhitespace_join {ws : List Text} (h : ∀ w ∈ ws, Word w) :
    splitWhitespace (join [' '] ws) = ws := by
  induction ws with
  | nil => rfl
  | cons w ws ih =>
    have hw := h w List.mem_cons_self
    have hrest := ih (fun v hv => h v (List.mem_cons_of_mem w hv))
    cases ws with
    | nil =>
      have hone : join [' '] [w] = w := by simp [join]
      rw [hone, splitWhitespace, List.splitOnP_eq_singleton hw.solid]
      simp [hw.ne]
    | cons v ws =>
      rw [splitWhitespace] at hrest
      rw [join_cons, splitWhitespace, List.singleton_append, List.splitOnP_append_cons w _ rfl,
        List.splitOnP_eq_singleton hw.solid, List.filter_append, hrest]
      simp [hw.ne]

end Split

theorem utf8Len_cons (c : Char) (s : Text) : utf8Len (c::s) = c.utf8Size+utf8Len s := by
  rw [utf8Len, List.map_cons, List.sum_cons]
  rfl

theorem utf8Len_append (s t : Text) : utf8Len (s++t) = utf8Len s+utf8Len t := by
  rw [utf8Len, List.map_append, List.sum_append]
  rfl

theorem length_le_utf8Len (s : Text) : s.length ≤ utf8Len s := by
  induction s with
  | nil => exact Nat.le_refl _
  | cons c s ih =>
    have hpos := Char.utf8Size_pos c
    rw [List.length_cons, utf8Len_cons]
    omega

theorem utf8Len_ascii (h : ∀ c ∈ s, c.toNat < 128) : utf8Len s = s.length := by
  induction s with
  | nil => rfl
  | cons c s ih =>
    have hone : c.utf8Size = 1 :=
      Char.utf8Size_eq_one_iff.mpr (UInt32.le_iff_toNat_le.mpr
        (Nat.lt_succ_iff.mp (h c List.mem_cons_self)))
    rw [utf8Len_cons, hone, ih (fun d hd => h d (List.mem_cons_of_mem c hd)), List.length_cons,
      Nat.add_comm]

theorem splitOnP_utf8Len (p : Char → Bool) (s : Text) :
    ((s.splitOnP p).map utf8Len).sum+(s.splitOnP p).length ≤ utf8Len s+1 := by
  induction s with
  | nil => exact Nat.le_refl _
  | cons x xs ih =>
    have hpos := Char.utf8Size_pos x
    rw [List.splitOnP_cons_eq_if_modifyHead, utf8Len_cons]
    split_ifs
    · rw [List.map_cons, List.sum_cons, List.length_cons]
      have hnil : utf8Len [] = 0 := rfl
      omega
    · obtain ⟨w,ws,hws⟩ := List.exists_cons_of_ne_nil (List.splitOnP_ne_nil p xs)
      rw [hws, List.map_cons, List.sum_cons, List.length_cons] at ih
      rw [hws, List.modifyHead_cons, List.map_cons, List.sum_cons, List.length_cons, utf8Len_cons]
      omega

theorem splitWhitespace_utf8Len (s : Text) :
    ((splitWhitespace s).map utf8Len).sum+(splitWhitespace s).length ≤ utf8Len s+1 := by
  have hall := splitOnP_utf8Len isWhitespace s
  have hfilter (ws : List Text) :
      ((ws.filter (fun w => !w.isEmpty)).map utf8Len).sum+
        (ws.filter (fun w => !w.isEmpty)).length ≤ (ws.map utf8Len).sum+ws.length := by
    induction ws with
    | nil => exact Nat.le_refl _
    | cons w ws ih =>
      rw [List.filter_cons, List.map_cons, List.sum_cons, List.length_cons]
      split_ifs
      · rw [List.map_cons, List.sum_cons, List.length_cons]
        omega
      · omega
  exact (hfilter _).trans hall

theorem ascii_of_mem_encode {b : UInt8} (h : b ∈ String.utf8EncodeChar c)
    (hb : b.toNat < 128) : c.val.toNat = b.toNat := by
  -- every byte of a longer form is at least 128
  have hhigh {n : ℕ} (hlo : 128 ≤ n) (hhi : n < 256) : b ≠ UInt8.ofNat n := by
    rintro rfl
    rw [byte_toNat hhi] at hb
    omega
  unfold String.utf8EncodeChar at h
  dsimp only at h
  split_ifs at h with h1 h2 h3
  · rw [List.mem_singleton.mp h, byte_toNat (by omega)]
  all_goals
    simp only [List.mem_cons, List.not_mem_nil, or_false] at h
  · exact absurd h (not_or.mpr ⟨hhigh (by omega) (by omega),hhigh (by omega) (by omega)⟩)
  · exact absurd h (not_or.mpr ⟨hhigh (by omega) (by omega),
      not_or.mpr ⟨hhigh (by omega) (by omega),hhigh (by omega) (by omega)⟩⟩)
  · exact absurd h (not_or.mpr ⟨hhigh (by omega) (by omega),
      not_or.mpr ⟨hhigh (by omega) (by omega),
        not_or.mpr ⟨hhigh (by omega) (by omega),hhigh (by omega) (by omega)⟩⟩⟩)

theorem mem_of_mem_utf8 {b : UInt8} (hb : b.toNat < 128)
    (hc : c.val.toNat = b.toNat) (h : b ∈ utf8 s) : c ∈ s := by
  obtain ⟨d,hd,hmem⟩ := List.mem_flatMap.mp h
  have hval : d = c := Char.ext (UInt32.toNat_inj.mp ((ascii_of_mem_encode hmem hb).trans hc.symm))
  exact hval ▸ hd

theorem lf_not_mem_utf8 (h : '\n' ∉ s) : (10 : UInt8) ∉ utf8 s :=
  fun hmem => h (mem_of_mem_utf8 (by decide) (by decide) hmem)

theorem isAsciiDigit_iff :
    isAsciiDigit c = true ↔ 48 ≤ c.toNat ∧ c.toNat ≤ 57 := by
  rw [isAsciiDigit, Bool.and_eq_true, decide_eq_true_eq, decide_eq_true_eq]
  exact Iff.rfl

theorem natText_forall {n : ℕ} (h : c ∈ natText n) : isAsciiDigit c = true := by
  have hdigit := Nat.isDigit_of_mem_toDigits (by decide) (by decide) h
  rw [Char.isDigit, Bool.and_eq_true, decide_eq_true_eq, decide_eq_true_eq] at hdigit
  exact isAsciiDigit_iff.mpr hdigit

theorem natText_ne_nil (n : ℕ) : natText n ≠ [] := Nat.toDigits_ne_nil

theorem isWhitespace_digit (h : isAsciiDigit c = true) : isWhitespace c = false := by
  rw [isAsciiDigit_iff] at h
  exact isWhitespace_visible (by omega) (by omega)

theorem trim_natText (n : ℕ) : trim (natText n) = natText n :=
  trim_of_forall (fun _ hc => isWhitespace_digit (natText_forall hc))

theorem digitsValue_natText (n : ℕ) : digitsValue (natText n) = n :=
  Nat.ofDigitChars_toDigits (by decide) (by decide)

theorem natText_word (n : ℕ) : Word (natText n) :=
  ⟨natText_ne_nil n,fun _ hc => isWhitespace_digit (natText_forall hc)⟩

theorem parseUnsigned_lt {bound n : ℕ} (h : parseUnsigned bound s = some n) :
    n < bound := by
  rw [parseUnsigned] at h
  split_ifs at h with hempty hlt
  cases h
  exact hlt

theorem parseUnsigned_word {bound n : ℕ} (h : parseUnsigned bound s = some n) :
    Word s := by
  rw [parseUnsigned] at h
  split_ifs at h with hshape hlt
  simp only [Bool.or_eq_true, Bool.not_eq_true', not_or, Bool.not_eq_true,
    Bool.not_eq_false] at hshape
  obtain ⟨hempty,hall⟩ := hshape
  have hdigit : ∀ c ∈ (stripPrefix ['+'] s).getD s, isWhitespace c = false := fun c hc =>
    isWhitespace_digit (List.all_eq_true.mp hall c hc)
  rw [stripPrefix] at hempty hdigit
  split_ifs at hempty hdigit with hplus
  · obtain ⟨rest,rfl⟩ := List.isPrefixOf_iff_prefix.mp hplus
    refine ⟨List.cons_ne_nil _ _,fun c hc => ?_⟩
    rcases List.mem_cons.mp hc with rfl | hc
    · rfl
    · exact hdigit c hc
  · exact ⟨by simpa using hempty,hdigit⟩

theorem parseUnsigned_natText {bound n : ℕ} (h : n < bound) :
    parseUnsigned bound (natText n) = some n := by
  have hplus : stripPrefix ['+'] (natText n) = none := by
    obtain ⟨c,rest,hcons⟩ := List.exists_cons_of_ne_nil (natText_ne_nil n)
    have hc : isAsciiDigit c = true := natText_forall (hcons ▸ List.mem_cons_self)
    have hne : '+' ≠ c := by
      rintro rfl
      cases hc
    rw [stripPrefix, hcons, if_neg]
    simpa [List.isPrefixOf] using hne
  have hall : (natText n).all isAsciiDigit = true :=
    List.all_eq_true.mpr (fun c hc => natText_forall hc)
  have hempty : (natText n).isEmpty = false := by simpa using natText_ne_nil n
  simp only [parseUnsigned, hplus, Option.getD_none, hall, hempty, digitsValue_natText, h,
    Bool.not_true, Bool.or_self, Bool.false_eq_true, if_false, if_true]

/-- A number has at most `k` digits exactly if it is below `10^k`. -/
theorem natText_utf8Len_le_iff {n k : ℕ} (hk : 0 < k) : utf8Len (natText n) ≤ k ↔ n < 10^k := by
  have hascii : utf8Len (natText n) = (natText n).length := utf8Len_ascii (fun c hc => by
    have hdigit := isAsciiDigit_iff.mp (natText_forall hc)
    omega)
  rw [hascii]
  exact Nat.length_toDigits_le_iff (by decide) hk

end RsipRtp.TextShape
