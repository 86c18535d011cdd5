import RsipRtp.FiniteMap
import RsipRtp.SaturatedSum

/-!
# The audio mixer

A mixer holds the latest samples of every source in a hash map and adds them
up in whatever order the map is traversed; the order is an argument here.
-/

namespace RsipRtp.AudioMixer
open FiniteMap SaturatedSum

variable {exclude : Option UInt32}

structure SourceState where
  samples : List Int16
  active : Bool
  silentFrames : UInt32
deriving DecidableEq

abbrev Entry := (_ : UInt32) × SourceState

structure Mixer where
  sources : Map UInt32 SourceState
  maxSources : ℕ

def new : Mixer := ⟨∅,15⟩

/-- `max_by_key`: of several largest the last one. -/
def longestSilent : List Entry → Option Entry
  | [] => none
  | e::es => some (es.foldl (fun best e =>
      if e.2.silentFrames < best.2.silentFrames then best else e) e)

def putSource (ssrc : UInt32) (samples : List Int16) (sources : Map UInt32 SourceState) :
    Map UInt32 SourceState :=
  sources.insert ssrc ⟨samples,true,0⟩

/-- At capacity a new source takes the place of an inactive one, if there is
one. -/
def addSource (order : List Entry) (ssrc : UInt32) (samples : List Int16) (m : Mixer) : Mixer :=
  if m.maxSources ≤ size m.sources ∧ (m.sources.lookup ssrc).isNone then
    match longestSilent (order.filter (fun e => !e.2.active)) with
    | some old => { m with sources := putSource ssrc samples (m.sources.erase old.1) }
    | none => m
  else { m with sources := putSource ssrc samples m.sources }

def i16Min : ℤ := -32768
def i16Max : ℤ := 32767

/-- One sample into the buffer: the sum of two is exact, and cut to 16 bits. -/
def mixSample (out sample : Int16) : Int16 :=
  Int16.ofInt (clamp i16Min i16Max (out.toInt+sample.toInt))

def mixInto (buffer samples : List Int16) : List Int16 :=
  buffer.mapIdx (fun i out => match samples[i]? with
    | some sample => mixSample out sample
    | none => out)

def mixes (exclude : Option UInt32) (e : Entry) : Bool :=
  exclude != some e.1 && e.2.active && !e.2.samples.isEmpty

def mixSource (exclude : Option UInt32) (s : List Int16 × List UInt32) (e : Entry) :
    List Int16 × List UInt32 :=
  if mixes exclude e then
    (mixInto s.1 e.2.samples,if s.2.length < 15 then s.2++[e.1] else s.2)
  else s

def mixExcept (order : List Entry) (numSamples : ℕ) (exclude : Option UInt32) :
    List Int16 × List UInt32 :=
  order.foldl (mixSource exclude) (List.replicate numSamples 0,[])

def Order (m : Mixer) (order : List Entry) : Prop := order.Perm m.sources.entries

def sampleAt (exclude : Option UInt32) (i : ℕ) (e : Entry) : Option ℤ :=
  if mixes exclude e then (e.2.samples[i]?).map Int16.toInt else none

def samplesAt (exclude : Option UInt32) (order : List Entry) (i : ℕ) : List ℤ :=
  order.filterMap (sampleAt exclude i)

theorem samplesAt_cons_none {order : List Entry} {e : Entry} {i : ℕ}
    (h : sampleAt exclude i e = none) : samplesAt exclude (e::order) i =
      samplesAt exclude order i :=
  List.filterMap_cons_none h

theorem samplesAt_cons_some {order : List Entry} {e : Entry} {i : ℕ}
    {x : ℤ} (h : sampleAt exclude i e = some x) :
    samplesAt exclude (e::order) i = x::samplesAt exclude order i :=
  List.filterMap_cons_some h

theorem toInt_mixSample (out sample : Int16) :
    (mixSample out sample).toInt = satAdd i16Min i16Max out.toInt sample.toInt := by
  rw [mixSample, Int16.toInt_ofInt_of_le]
  · rfl
  · exact le_max_left _ _
  · unfold clamp i16Min i16Max
    omega

def valueAt (buffer : List Int16) (i : ℕ) : Option ℤ := (buffer[i]?).map Int16.toInt

theorem valueAt_mixInto (buffer samples : List Int16) (i : ℕ) :
    valueAt (mixInto buffer samples) i =
      (valueAt buffer i).map (fun out => match samples[i]? with
        | some sample => satAdd i16Min i16Max out sample.toInt
        | none => out) := by
  rw [valueAt, valueAt, mixInto, List.getElem?_mapIdx, Option.map_map, Option.map_map]
  cases buffer[i]? with
  | none => rfl
  | some out =>
    cases samples[i]? with
    | none => rfl
    | some sample => exact congrArg some (toInt_mixSample out sample)

theorem valueAt_mixSource (exclude : Option UInt32) (s : List Int16 × List UInt32) (e : Entry)
    (i : ℕ) : valueAt (mixSource exclude s e).1 i =
      (valueAt s.1 i).map (fun out => match sampleAt exclude i e with
        | some sample => satAdd i16Min i16Max out sample
        | none => out) := by
  unfold mixSource sampleAt
  by_cases hmixes : mixes exclude e = true
  · rw [if_pos hmixes, if_pos hmixes, valueAt_mixInto]
    cases e.2.samples[i]? <;> rfl
  · rw [if_neg hmixes, if_neg hmixes]
    exact Option.map_id'.symm ▸ rfl

theorem valueAt_foldl (exclude : Option UInt32) (order : List Entry)
    (s : List Int16 × List UInt32) (i : ℕ) :
    valueAt (order.foldl (mixSource exclude) s).1 i =
      (valueAt s.1 i).map (fun out =>
        (samplesAt exclude order i).foldl (satAdd i16Min i16Max) out) := by
  induction order generalizing s with
  | nil => exact Option.map_id'.symm ▸ rfl
  | cons e order ih =>
    rw [List.foldl_cons, ih, valueAt_mixSource, Option.map_map]
    cases hsample : sampleAt exclude i e with
    | none => rw [samplesAt_cons_none hsample]; rfl
    | some x => rw [samplesAt_cons_some hsample]; rfl

theorem valueAt_mixExcept (order : List Entry) (numSamples : ℕ) (exclude : Option UInt32) {i : ℕ}
    (hi : i < numSamples) :
    valueAt (mixExcept order numSamples exclude).1 i =
      some (satSum i16Min i16Max (samplesAt exclude order i)) := by
  have hzero : valueAt (List.replicate numSamples 0) i = some 0 := by
    rw [valueAt, List.getElem?_replicate, if_pos hi]
    rfl
  rw [mixExcept, valueAt_foldl, hzero]
  rfl

theorem samplesAt_perm {a b : List Entry} (h : a.Perm b) (i : ℕ) :
    (samplesAt exclude a i).Perm (samplesAt exclude b i) := h.filterMap _

def positiveAt (exclude : Option UInt32) (i : ℕ) (e : Entry) : Bool :=
  (sampleAt exclude i e).any (fun x => decide (0 < x))

theorem samplesAt_filter (exclude : Option UInt32) (order : List Entry) (i : ℕ) :
    samplesAt exclude (order.filter (positiveAt exclude i)) i =
        (samplesAt exclude order i).filter (0 < ·) ∧
      samplesAt exclude (order.filter (fun e => !positiveAt exclude i e)) i =
        (samplesAt exclude order i).filter (fun x => !decide (0 < x)) := by
  induction order with
  | nil => exact ⟨rfl,rfl⟩
  | cons e order ih =>
    unfold samplesAt positiveAt at ih ⊢
    cases hsample : sampleAt exclude i e with
    | none => simp [hsample, ih]
    | some x => by_cases hx : 0 < x <;> simp [hsample, hx, ih]

theorem exists_orders (m : Mixer) (exclude : Option UInt32) (i : ℕ) :
    ∃ first last, Order m first ∧ Order m last ∧
      samplesAt exclude first i =
        (samplesAt exclude m.sources.entries i).filter (0 < ·)++
          (samplesAt exclude m.sources.entries i).filter (fun x => !decide (0 < x)) ∧
      samplesAt exclude last i =
        (samplesAt exclude m.sources.entries i).filter (fun x => !decide (0 < x))++
          (samplesAt exclude m.sources.entries i).filter (0 < ·) := by
  obtain ⟨hpositive,hrest⟩ := samplesAt_filter exclude m.sources.entries i
  have hperm := List.filter_append_perm (positiveAt exclude i) m.sources.entries
  refine ⟨_,_,hperm,List.perm_append_comm.trans hperm,?_,?_⟩
  · rw [samplesAt, List.filterMap_append, ← samplesAt, ← samplesAt, hpositive, hrest]
  · rw [samplesAt, List.filterMap_append, ← samplesAt, ← samplesAt, hpositive, hrest]

/-- Every sample of the mix is the exact sum of the samples of the sources
that are mixed and long enough, cut once to 16 bits. -/
def Exact (m : Mixer) (numSamples : ℕ) (exclude : Option UInt32) (order : List Entry) : Prop :=
  ∀ i < numSamples, valueAt (mixExcept order numSamples exclude).1 i =
    some (clamp i16Min i16Max (samplesAt exclude m.sources.entries i).sum)

/-- The mix is exact in every order of the map exactly if at every position the
samples have one sign or their positive and negative parts fit into 16 bits. -/
theorem mix_exact_iff (m : Mixer) (numSamples : ℕ) (exclude : Option UInt32) :
    (∀ order, Order m order → Exact m numSamples exclude order) ↔
      ∀ i < numSamples, Balanced i16Min i16Max (samplesAt exclude m.sources.entries i) := by
  constructor
  · intro h i hi
    obtain ⟨first,last,hfirst,hlast,hs,ht⟩ := exists_orders m exclude i
    have hexact {order : List Entry} (horder : Order m order) :=
      Option.some.inj ((valueAt_mixExcept order numSamples exclude hi).symm.trans (h _ horder i hi))
    exact balanced_of_orders (by decide) (by decide) (hs ▸ hexact hfirst) (ht ▸ hexact hlast)
  · intro h order horder i hi
    have hperm := @samplesAt_perm exclude _ _ horder i
    rw [valueAt_mixExcept order numSamples exclude hi,
      satSum_of_balanced (by decide) (by decide) ((balanced_perm hperm).mpr (h i hi)), hperm.sum_eq]

def sampleMixer : Mixer :=
  addSource [] 3 [-30000] (addSource [] 2 [30000] (addSource [] 1 [30000] new))

/-- With the third speaker last the mix is 2767, in the middle it is 30000,
which is the sum. -/
theorem mix_depends_on_order :
    ∃ a b c : Entry, Order sampleMixer [a,b,c] ∧ Order sampleMixer [a,c,b] ∧
      (mixExcept [a,b,c] 1 none).1 = [2767] ∧ (mixExcept [a,c,b] 1 none).1 = [30000] ∧
      clamp i16Min i16Max (samplesAt none sampleMixer.sources.entries 0).sum = 30000 := by
  refine ⟨⟨1,[30000],true,0⟩,⟨2,[30000],true,0⟩,⟨3,[-30000],true,0⟩,?_,?_,?_,?_,?_⟩
  · unfold Order
    decide +kernel
  · unfold Order
    decide +kernel
  · decide +kernel
  · decide +kernel
  · decide +kernel

end RsipRtp.AudioMixer
