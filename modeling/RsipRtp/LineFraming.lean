import Mathlib.Data.List.Basic

/-!
# Lines and blank lines

The first occurrence of a short pattern in a list, and the lines of a text.
-/

namespace RsipRtp.LineFraming

section Patterns

variable {α : Type*} {cr lf : α} {line rest : List α}

theorem not_prefix_in_line {pat xs tail : List α} {x : α} (h : lf ∉ xs) (hne : cr ≠ lf) :
    ¬cr::lf::pat <+: x::(xs++cr::tail) := by
  intro hpre
  obtain ⟨-,hpre⟩ := List.cons_prefix_cons.mp hpre
  cases xs with
  | nil => exact hne (List.cons_prefix_cons.mp hpre).1.symm
  | cons y ys => exact h ((List.cons_prefix_cons.mp hpre).1 ▸ List.mem_cons_self)

theorem blank_prefix_feeds {tail : List α} (hne : cr ≠ lf)
    (h : [cr,lf,cr,lf] <+: line++lf::lf::tail) : [cr,lf,cr,lf] <+: line++[lf] := by
  match line with
  | [] => exact absurd (List.cons_prefix_cons.mp h).1 hne
  | [_] =>
    obtain ⟨-,h⟩ := List.cons_prefix_cons.mp h
    exact absurd (List.cons_prefix_cons.mp (List.cons_prefix_cons.mp h).2).1 hne
  | [_,_] =>
    obtain ⟨-,h⟩ := List.cons_prefix_cons.mp h
    exact absurd (List.cons_prefix_cons.mp (List.cons_prefix_cons.mp h).2).1 hne
  | a::b::c::rest =>
    have hlen : [cr,lf,cr,lf].length ≤ (a::b::c::rest++[lf]).length := by simp
    have hcut : a::b::c::rest++[lf] <+: a::b::c::rest++lf::lf::tail := ⟨lf::tail,by simp⟩
    exact List.prefix_of_prefix_length_le h hcut hlen

theorem blank_not_ahead {x : α} {xs tail : List α} (hne : cr ≠ lf)
    (h : ¬[cr,lf,cr,lf] <:+: x::xs++[cr,lf]) :
    ¬[cr,lf,cr,lf] <+: x::(xs++cr::lf::tail) := by
  intro hpre
  cases xs with
  | nil =>
    obtain ⟨-,hpre⟩ := List.cons_prefix_cons.mp hpre
    exact hne (List.cons_prefix_cons.mp hpre).1.symm
  | cons y ys =>
    have hlen : [cr,lf,cr,lf].length ≤ (x::y::ys++[cr,lf]).length := by simp
    have hcut : x::y::ys++[cr,lf] <+: x::(y::ys++cr::lf::tail) := ⟨tail,by simp⟩
    exact h (List.prefix_of_prefix_length_le hpre hcut hlen).isInfix

variable [DecidableEq α]

def splitAtFirst (pat : List α) : List α → Option (List α × List α)
  | [] => if pat = [] then some ([],[]) else none
  | x::xs => if pat <+: x::xs then some ([],(x::xs).drop pat.length)
      else (splitAtFirst pat xs).map (fun p => (x::p.1,p.2))

theorem splitAtFirst_skip {pat : List α} {x : α} {xs : List α} (h : ¬pat <+: x::xs) :
    splitAtFirst pat (x::xs) = (splitAtFirst pat xs).map (fun p => (x::p.1,p.2)) := if_neg h

theorem splitAtFirst_none (h : lf ∉ line) : splitAtFirst [cr,lf] line = none := by
  induction line with
  | nil => rfl
  | cons x xs ih =>
    have hpat : ¬[cr,lf] <+: x::xs := fun hpre => h (hpre.subset (by simp))
    rw [splitAtFirst_skip hpat, ih (fun hmem => h (List.mem_cons_of_mem x hmem))]
    rfl

theorem splitAtFirst_line (h : lf ∉ line) (hne : cr ≠ lf) :
    splitAtFirst [cr,lf] (line++cr::lf::rest) = some (line,rest) := by
  induction line with
  | nil => exact if_pos (List.prefix_append [cr,lf] rest)
  | cons x xs ih =>
    have hxs : lf ∉ xs := fun hmem => h (List.mem_cons_of_mem x hmem)
    rw [List.cons_append, splitAtFirst_skip (not_prefix_in_line hxs hne), ih hxs]
    rfl

theorem no_blank_in_line (h : lf ∉ line) (hne : cr ≠ lf) :
    ¬[cr,lf,cr,lf] <:+: line++[cr,lf] := by
  intro hblank
  have hcount := hblank.sublist.count_le lf
  simp [hne, List.count_eq_zero.mpr h] at hcount

theorem splitAtFirst_pass (h : ¬[cr,lf,cr,lf] <:+: line++[cr,lf]) (hne : cr ≠ lf)
    (hrest : ¬[cr,lf] <+: rest) :
    splitAtFirst [cr,lf,cr,lf] (line++cr::lf::rest) =
      (splitAtFirst [cr,lf,cr,lf] rest).map (fun p => (line++cr::lf::p.1,p.2)) := by
  induction line with
  | nil =>
    have hbreak : ¬[cr,lf,cr,lf] <+: cr::lf::rest := by
      intro hpre
      exact hrest (List.cons_prefix_cons.mp (List.cons_prefix_cons.mp hpre).2).2
    have hfeed : ¬[cr,lf,cr,lf] <+: lf::rest := fun hpre =>
      hne (List.cons_prefix_cons.mp hpre).1
    rw [List.nil_append, splitAtFirst_skip hbreak, splitAtFirst_skip hfeed, Option.map_map]
    rfl
  | cons x xs ih =>
    have hxs : ¬[cr,lf,cr,lf] <:+: xs++[cr,lf] := fun hin => h (List.infix_cons hin)
    rw [List.cons_append, splitAtFirst_skip (blank_not_ahead hne h), ih hxs, Option.map_map]
    rfl

theorem splitAtFirst_blank (h : ¬[cr,lf,cr,lf] <:+: line++[cr,lf]) (hne : cr ≠ lf) :
    splitAtFirst [cr,lf,cr,lf] (line++cr::lf::cr::lf::rest) = some (line,rest) := by
  induction line with
  | nil => exact if_pos (List.prefix_append [cr,lf,cr,lf] rest)
  | cons x xs ih =>
    have hxs : ¬[cr,lf,cr,lf] <:+: xs++[cr,lf] := fun hin => h (List.infix_cons hin)
    rw [List.cons_append, splitAtFirst_skip (blank_not_ahead hne h), ih hxs]
    rfl

theorem splitAtFirst_eq {pat s before after : List α}
    (h : splitAtFirst pat s = some (before,after)) : s = before++pat++after := by
  induction s generalizing before with
  | nil =>
    rw [splitAtFirst] at h
    split_ifs at h with hpat
    cases h
    rw [hpat]
    rfl
  | cons x xs ih =>
    rw [splitAtFirst] at h
    split_ifs at h with hpre
    · cases h
      exact (List.prefix_iff_eq_append.mp hpre).symm
    · obtain ⟨⟨before',after'⟩,hsplit,heq⟩ := Option.map_eq_some_iff.mp h
      cases heq
      rw [ih hsplit]
      rfl

theorem splitAtFirst_eq_none {pat s : List α} : splitAtFirst pat s = none ↔ ¬pat <:+: s := by
  induction s with
  | nil => simp [splitAtFirst]
  | cons x xs ih =>
    rw [splitAtFirst, List.infix_cons_iff, not_or, ← ih]
    split_ifs with hpre
    · simp [hpre]
    · simp [hpre]

theorem splitAtFirst_append {pat s before after : List α} (rest : List α)
    (h : splitAtFirst pat s = some (before,after)) :
    splitAtFirst pat (s++rest) = some (before,after++rest) := by
  induction s generalizing before with
  | nil =>
    rw [splitAtFirst] at h
    split_ifs at h with hpat
    cases h
    subst hpat
    cases rest with
    | nil => rfl
    | cons x xs => exact if_pos List.nil_prefix
  | cons x xs ih =>
    rw [splitAtFirst] at h
    split_ifs at h with hpre
    · cases h
      have hpre' : pat <+: x::(xs++rest) := hpre.trans (List.prefix_append (x::xs) rest)
      rw [List.cons_append, splitAtFirst, if_pos hpre', ← List.cons_append,
        List.drop_append_of_le_length hpre.length_le]
    · obtain ⟨⟨before',after'⟩,hsplit,heq⟩ := Option.map_eq_some_iff.mp h
      cases heq
      -- the pattern comes later in `xs`, so it is too short to reach into the rest from here
      have hlen : pat.length ≤ (x::xs).length := by
        rw [splitAtFirst_eq hsplit]
        simp only [List.length_cons, List.length_append]
        omega
      have hskip : ¬pat <+: x::(xs++rest) := fun hpre' =>
        hpre (List.prefix_of_prefix_length_le hpre' (List.prefix_append (x::xs) rest) hlen)
      rw [List.cons_append, splitAtFirst_skip hskip, ih hsplit]
      rfl

theorem splitAtFirst_isSome (pat s : List α) : (splitAtFirst pat (s++pat)).isSome := by
  rw [Option.isSome_iff_ne_none, Ne, splitAtFirst_eq_none, not_not]
  exact (List.suffix_append s pat).isInfix

theorem splitAtFirst_other {pat s before after : List α} (rest : List α)
    (h : splitAtFirst pat s = some (before,after)) :
    splitAtFirst pat (before++pat++rest) = some (before,rest) := by
  obtain ⟨⟨front,back⟩,hfront⟩ := Option.isSome_iff_exists.mp (splitAtFirst_isSome pat before)
  have hsame := splitAtFirst_append after hfront
  rw [← splitAtFirst_eq h, h] at hsame
  obtain ⟨rfl,hafter⟩ := Prod.mk.inj (Option.some.inj hsame)
  have hback : back = [] := List.self_eq_append_left.mp hafter
  rw [splitAtFirst_append rest hfront, hback]
  rfl

theorem splitAtFirst_feeds {tail : List α} (hne : cr ≠ lf)
    (hline : splitAtFirst [cr,lf,cr,lf] (line++[lf]) = none)
    (htail : splitAtFirst [cr,lf,cr,lf] tail = none) :
    splitAtFirst [cr,lf,cr,lf] (line++lf::lf::tail) = none := by
  rw [splitAtFirst_eq_none] at *
  induction line with
  | nil =>
    intro h
    rcases List.infix_cons_iff.mp h with h | h
    · exact hne (List.cons_prefix_cons.mp h).1
    · rcases List.infix_cons_iff.mp h with h | h
      · exact hne (List.cons_prefix_cons.mp h).1
      · exact htail h
  | cons x xs ih =>
    intro h
    rcases List.infix_cons_iff.mp h with h | h
    · exact hline (blank_prefix_feeds hne h).isInfix
    · exact ih (fun hxs => hline (List.infix_cons hxs)) h

def broken (cr lf : α) (lines : List (List α)) : List α := lines.flatMap (fun l => cr::lf::l)

theorem splitAtFirst_broken {lines : List (List α)}
    (h : ¬[cr,lf,cr,lf] <:+: line++[cr,lf]) (hne : cr ≠ lf)
    (hlines : ∀ l ∈ lines, l ≠ [] ∧ lf ∉ l) :
    splitAtFirst [cr,lf,cr,lf] (line++broken cr lf lines++cr::lf::cr::lf::rest) =
      some (line++broken cr lf lines,rest) := by
  induction lines generalizing line with
  | nil =>
    rw [broken, List.flatMap_nil, List.append_nil]
    exact splitAtFirst_blank h hne
  | cons l lines ih =>
    have hl := hlines l List.mem_cons_self
    have hrest := ih (no_blank_in_line hl.2 hne)
      (fun l' hl' => hlines l' (List.mem_cons_of_mem l hl'))
    have hcons : line++broken cr lf (l::lines)++cr::lf::cr::lf::rest =
        line++cr::lf::(l++broken cr lf lines++cr::lf::cr::lf::rest) := by
      simp only [broken, List.flatMap_cons, List.append_assoc, List.cons_append]
    have hbreak : ¬[cr,lf] <+: l++broken cr lf lines++cr::lf::cr::lf::rest := by
      obtain ⟨tail,htail⟩ : ∃ tail, broken cr lf lines++cr::lf::cr::lf::rest = cr::tail := by
        cases lines <;> exact ⟨_,rfl⟩
      obtain ⟨x,xs,rfl⟩ := List.exists_cons_of_ne_nil hl.1
      rw [List.append_assoc, htail]
      exact not_prefix_in_line (fun hmem => hl.2 (List.mem_cons_of_mem x hmem)) hne
    rw [hcons, splitAtFirst_pass h hne hbreak, hrest]
    simp only [Option.map_some, broken, List.flatMap_cons, List.cons_append]

end Patterns

def stripCr (revLine : List Char) : List Char :=
  match revLine with
  | '\r'::line => line.reverse
  | line => line.reverse

/-- `str::lines`, with the current line in reverse: a line ends with a line
feed, and a carriage return right before that belongs to the line end. The
rest of the text behind the last line feed is a line unless it is empty. -/
def linesFrom (revLine : List Char) : List Char → List (List Char)
  | [] => if revLine.isEmpty then [] else [revLine.reverse]
  | c::cs => if c = '\n' then stripCr revLine::linesFrom [] cs else linesFrom (c::revLine) cs

def lines (s : List Char) : List (List Char) := linesFrom [] s

theorem stripCr_mem {revLine : List Char} {c : Char} (h : c ∈ stripCr revLine) : c ∈ revLine := by
  unfold stripCr at h
  split at h
  · exact List.mem_cons_of_mem _ (List.mem_reverse.mp h)
  · exact List.mem_reverse.mp h

theorem lf_not_mem_linesFrom {revLine s l : List Char} (hrev : '\n' ∉ revLine)
    (h : l ∈ linesFrom revLine s) : '\n' ∉ l := by
  induction s generalizing revLine with
  | nil =>
    rw [linesFrom] at h
    split_ifs at h
    · cases h
    · rw [List.mem_singleton.mp h, List.mem_reverse]
      exact hrev
  | cons c cs ih =>
    rw [linesFrom] at h
    split_ifs at h with hc
    · rcases List.mem_cons.mp h with rfl | h
      · exact fun hmem => hrev (stripCr_mem hmem)
      · exact ih List.not_mem_nil h
    · refine ih (fun hmem => ?_) h
      rcases List.mem_cons.mp hmem with heq | hmem
      · exact hc heq.symm
      · exact hrev hmem

theorem linesFrom_append {l : List Char} (revLine rest : List Char) (h : '\n' ∉ l) :
    linesFrom revLine (l++rest) = linesFrom (l.reverse++revLine) rest := by
  induction l generalizing revLine with
  | nil => rfl
  | cons c cs ih =>
    have hc : c ≠ '\n' := fun hc => h (hc ▸ List.mem_cons_self)
    rw [List.cons_append, linesFrom, if_neg hc, ih _ (fun hmem => h (List.mem_cons_of_mem c hmem)),
      List.reverse_cons, List.append_assoc]
    rfl

theorem lines_feed {l : List Char} (rest : List Char) (h : '\n' ∉ l) :
    lines (l++ '\n'::rest) = stripCr l.reverse::lines rest := by
  rw [lines, linesFrom_append [] _ h, List.append_nil, linesFrom, if_pos rfl]
  rfl

theorem lines_break {l : List Char} (rest : List Char) (h : '\n' ∉ l) :
    lines (l++ '\r':: '\n'::rest) = l::lines rest := by
  have hline : '\n' ∉ l++['\r'] := by simpa using h
  have hfeed := lines_feed rest hline
  rw [List.append_assoc, List.singleton_append] at hfeed
  rw [hfeed, List.reverse_append, List.reverse_singleton, List.singleton_append, stripCr,
    List.reverse_reverse]

theorem lines_head {l : List Char} {ls : List (List Char)} (hl : '\n' ∉ l)
    (h : ∀ l ∈ ls, '\n' ∉ l) :
    lines (l++broken '\r' '\n' ls++['\r','\n','\r','\n']) = l::(ls++[[]]) := by
  induction ls generalizing l with
  | nil =>
    rw [broken, List.flatMap_nil, List.append_nil, lines_break _ hl]
    rfl
  | cons l' ls ih =>
    have hbreak : l++broken '\r' '\n' (l'::ls)++['\r','\n','\r','\n'] =
        l++ '\r':: '\n'::(l'++broken '\r' '\n' ls++['\r','\n','\r','\n']) := by
      simp [broken]
    rw [hbreak, lines_break _ hl,
      ih (h l' List.mem_cons_self) (fun m hm => h m (List.mem_cons_of_mem l' hm))]
    rfl

theorem lines_broken {l : List Char} {ls : List (List Char)} (hl : l ≠ [] ∧ '\n' ∉ l)
    (h : ∀ l ∈ ls, l ≠ [] ∧ '\n' ∉ l) : lines (l++broken '\r' '\n' ls) = l::ls := by
  induction ls generalizing l with
  | nil =>
    rw [lines, linesFrom_append [] _ hl.2, List.append_nil, broken, List.flatMap_nil, linesFrom,
      if_neg (by simpa using hl.1), List.reverse_reverse]
  | cons l' ls ih =>
    have hbreak : broken '\r' '\n' (l'::ls) = '\r':: '\n'::(l'++broken '\r' '\n' ls) := rfl
    have hrest := ih (h l' List.mem_cons_self) (fun m hm => h m (List.mem_cons_of_mem l' hm))
    rw [lines, linesFrom_append [] _ hl.2, List.append_nil, hbreak, linesFrom, if_neg (by decide),
      linesFrom, if_pos rfl, stripCr, List.reverse_reverse]
    exact congrArg (l::·) hrest

end RsipRtp.LineFraming
