import Mathlib.Data.List.Basic

/-!
# Text between double quotes

A quoted text ends at the first double quote that no backslash escapes. A text
is quotable if it stands between quotes as it is.
-/

namespace RsipRtp.QuotedText

/-- The text up to the closing quote, escapes left in place, and what follows. -/
def scanQuoted : List Char → Option (List Char × List Char)
  | [] => none
  | '"'::s => some ([],s)
  | ['\\'] => none
  | '\\'::c::s => (scanQuoted s).map (fun p => ('\\'::c::p.1,p.2))
  | c::s => (scanQuoted s).map (fun p => (c::p.1,p.2))

def quotable : List Char → Bool
  | [] => true
  | '"'::_ => false
  | ['\\'] => false
  | '\\'::_::s => quotable s
  | _::s => quotable s

variable {s v w rest tail x y : List Char}

theorem scanQuoted_quotable (h : quotable v = true) (rest : List Char) :
    scanQuoted (v++ '"'::rest) = some (v,rest) := by
  fun_induction quotable v with
  | case1 => rfl
  | case2 => cases h
  | case3 => cases h
  | case4 c s ih =>
    rw [List.cons_append, List.cons_append, scanQuoted, ih h]
    rfl
  | case5 c s hquote hend hescape ih =>
    rw [List.cons_append, scanQuoted, ih h]
    · rfl
    · exact hquote
    · intro hc hs
      cases s with
      | nil => cases hs
      | cons => cases hs
    · intro d t hc hs
      cases s with
      | nil => exact hend hc rfl
      | cons e s => exact hescape e s hc rfl

theorem quotable_of_plain (h : ∀ c ∈ v, c ≠ '"' ∧ c ≠ '\\') : quotable v = true := by
  fun_induction quotable v with
  | case1 => rfl
  | case2 s => exact absurd rfl (h '"' (by simp)).1
  | case3 => exact absurd rfl (h '\\' (by simp)).2
  | case4 c s ih => exact ih fun d hd => h d (by simp [hd])
  | case5 c s _ _ _ ih => exact ih fun d hd => h d (by simp [hd])

theorem scanQuoted_sound (h : scanQuoted s = some (v,rest)) :
    s = v++ '"'::rest ∧ quotable v = true := by
  fun_induction scanQuoted s generalizing v with
  | case1 => cases h
  | case2 s =>
    cases h
    exact ⟨rfl,rfl⟩
  | case3 => cases h
  | case4 c s ih =>
    obtain ⟨⟨w,r⟩,hscan,hp⟩ := Option.map_eq_some_iff.mp h
    cases hp
    obtain ⟨rfl,hw⟩ := ih hscan
    exact ⟨rfl,hw⟩
  | case5 c s hquote hend hescape ih =>
    obtain ⟨⟨w,r⟩,hscan,hp⟩ := Option.map_eq_some_iff.mp h
    cases hp
    obtain ⟨rfl,hw⟩ := ih hscan
    refine ⟨rfl,?_⟩
    rw [quotable, hw]
    · exact hquote
    · rintro rfl rfl
      exact hescape '"' r rfl rfl
    · rintro d t rfl rfl
      exact hescape d _ rfl rfl

/-- A text that is not quotable has a quote of its own, or escapes the one that
is to close it. -/
theorem quotable_cases (v : List Char) : quotable v = true ∨
    (∃ w y, v = w++ '"'::y ∧ quotable w = true) ∨
    ∀ tail, scanQuoted (v++ '"'::tail) = (scanQuoted tail).map (fun p => (v++ '"'::p.1,p.2)) := by
  fun_induction quotable v with
  | case1 => exact .inl rfl
  | case2 s => exact .inr (.inl ⟨[],s,rfl,rfl⟩)
  | case3 => exact .inr (.inr fun _ => rfl)
  | case4 c s ih =>
    rcases ih with h | ⟨w,y,rfl,hw⟩ | h
    · exact .inl h
    · exact .inr (.inl ⟨'\\'::c::w,y,rfl,hw⟩)
    · refine .inr (.inr fun tail => ?_)
      rw [List.cons_append, List.cons_append, scanQuoted, h, Option.map_map]
      rfl
  | case5 c s hquote hend hescape ih =>
    have hc : c ≠ '\\' := by
      rintro rfl
      cases s with
      | nil => exact hend rfl rfl
      | cons d s => exact hescape d s rfl rfl
    have hcons : ∀ t, scanQuoted (c::t) = (scanQuoted t).map (fun p => (c::p.1,p.2)) := by
      intro t
      rw [scanQuoted]
      · exact hquote
      · exact fun h _ => hc h
      · exact fun _ _ h _ => hc h
    rcases ih with h | ⟨w,y,rfl,hw⟩ | h
    · exact .inl h
    · refine .inr (.inl ⟨c::w,y,rfl,?_⟩)
      rw [quotable, hw]
      · exact hquote
      · exact fun h _ => hc h
      · exact fun _ _ h _ => hc h
    · refine .inr (.inr fun tail => ?_)
      rw [List.cons_append, hcons, h, Option.map_map]
      rfl

inductive Parted (w v : List Char) : Prop where
  | same (h : w = v)
  | short (y : List Char) (h : v = w++ '"'::y)
  | long (y : List Char) (h : w = v++ '"'::y)

theorem parted_of_scan (h : scanQuoted (v++ '"'::tail) = some (w,rest)) : Parted w v := by
  rcases List.append_eq_append_iff.mp (scanQuoted_sound h).1 with ⟨z,hw,hz⟩ | ⟨z,hv,hz⟩
  · cases z with
    | nil => exact .same (by simpa using hw)
    | cons c z =>
      cases (List.cons.inj hz).1
      exact .long z hw
  · cases z with
    | nil => exact .same (by simpa using hv.symm)
    | cons c z =>
      cases (List.cons.inj hz).1
      exact .short z hv

theorem Parted.symm (h : Parted w v) : Parted v w := by
  cases h with
  | same h => exact .same h.symm
  | short y h => exact .long y h
  | long y h => exact .short y h

theorem Parted.eq_of_append (h : Parted w v) (hx : x.head? ≠ some '"') (hy : y.head? ≠ some '"')
    (he : w++x = v++y) : w = v := by
  cases h with
  | same h => exact h
  | short z h =>
    rw [h, List.append_assoc, List.append_cancel_left_eq] at he
    rw [he] at hx
    exact absurd rfl hx
  | long z h =>
    rw [h, List.append_assoc, List.append_cancel_left_eq] at he
    rw [← he] at hy
    exact absurd rfl hy

/-- A field that is closed by `c` is no longer than any text parted from it, if
neither `c` nor a quote occurs in it. -/
theorem Parted.field_le {c : Char} {field : List Char} (h : Parted w v) (hc : c ∉ field)
    (hquote : '"' ∉ field) (he : w++c::x = field++c::y) : field.length ≤ v.length := by
  have hlong : ∀ (p z : List Char) (d : Char), d ∉ field → p++d::z = field++c::y →
      field.length ≤ p.length := by
    intro p z d hd hp
    by_contra hlt
    rcases List.append_eq_append_iff.mp hp with ⟨t,ht,hz⟩ | ⟨t,ht,hz⟩
    · cases t with
      | nil => simp [ht] at hlt
      | cons e t =>
        cases (List.cons.inj hz).1
        exact hd (by simp [ht])
    · simp [ht] at hlt
  cases h with
  | same h => exact h ▸ hlong w x c hc he
  | short z h =>
    have hle := hlong w x c hc he
    simp only [h, List.length_append]
    omega
  | long z h =>
    rw [h, List.append_assoc, List.cons_append] at he
    exact hlong v _ '"' hquote he

end RsipRtp.QuotedText
