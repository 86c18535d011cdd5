import RsipRtp.RtcpSplit

/-!
# Source descriptions and goodbyes read back

Texts go out behind one byte that holds their length.
-/

namespace RsipRtp.RtcpDescription
open SipText BigEndian RtcpReport Utf8 RtcpPackets RtcpSplit

theorem scan_invalid_pos {bs : Bytes} {len : ℕ} (h : scan bs = .invalid len) : 0 < len := by
  cases bs with
  | nil => cases h
  | cons b bs =>
    rw [scan_cons] at h
    unfold scanTwo scanThree scanFour at h
    split_ifs at h <;> repeat' split at h
    all_goals first | cases h; decide | cases h

theorem lossyLoop_length (fuel : ℕ) (bs : Bytes) :
    (fromUtf8LossyLoop fuel bs).length ≤ bs.length := by
  induction fuel generalizing bs with
  | zero => cases bs <;> simp [fromUtf8LossyLoop]
  | succ fuel ih =>
    cases bs with
    | nil => simp [fromUtf8LossyLoop]
    | cons b bs =>
      rw [fromUtf8LossyLoop]
      split
      · next c rest hscan =>
        have hlen := congrArg List.length (encode_of_scan hscan)
        obtain ⟨b',bs',hc⟩ := encode_ne_nil c
        have hrest := ih rest
        rw [hc] at hlen
        simp only [List.length_cons, List.length_append] at hlen ⊢
        omega
      · next len hscan =>
        have hpos := scan_invalid_pos hscan
        have hrest := ih ((b::bs).drop len)
        simp only [List.length_cons, List.length_drop] at hrest ⊢
        omega
      · simp

theorem utf8_length_le (s : Text) : (utf8 s).length ≤ 4*s.length := by
  induction s with
  | nil => simp [utf8]
  | cons c s ih =>
    rw [utf8_cons, List.length_append, String.length_utf8EncodeChar, List.length_cons]
    have := c.utf8Size_le_four
    omega

theorem lossyLoop_take {s : Text} {fuel k : ℕ} (hk : k ≤ (utf8 s).length)
    (h : fromUtf8LossyLoop fuel ((utf8 s).take k) = s) : (utf8 s).length ≤ k+12 := by
  induction s generalizing fuel k with
  | nil => simp [utf8]
  | cons c s ih =>
    have hsize := c.utf8Size_le_four
    have hlen : (utf8 (c::s)).length = c.utf8Size+(utf8 s).length := by
      rw [utf8_cons, List.length_append, String.length_utf8EncodeChar]
    by_cases hc : k < c.utf8Size
    · -- fewer bytes than the first character has make at most three characters
      have hchars := lossyLoop_length fuel ((utf8 (c::s)).take k)
      have hbytes := utf8_length_le (c::s)
      rw [h, List.length_take] at hchars
      omega
    · obtain ⟨j,rfl⟩ := Nat.exists_eq_add_of_le (Nat.le_of_not_lt hc)
      have htake : (utf8 (c::s)).take (c.utf8Size+j) =
          String.utf8EncodeChar c++(utf8 s).take j := by
        rw [utf8_cons, ← String.length_utf8EncodeChar c, List.take_length_add_append]
      have hscan := scan_encode c ((utf8 s).take j)
      obtain ⟨b,bs,hb⟩ := encode_ne_nil c
      rw [htake] at h
      rw [hb, List.cons_append] at h hscan
      match fuel with
      | 0 => cases h
      | fuel+1 =>
        rw [fromUtf8LossyLoop, hscan] at h
        have hrest := ih (by omega) (List.cons.inj h).2
        omega

theorem lossy_low_byte {s : Text} {rest : Bytes}
    (h : fromUtf8Lossy ((utf8 s++rest).take ((utf8 s).length%256)) = s) :
    (utf8 s).length < 256 := by
  have hle := Nat.mod_le (utf8 s).length 256
  rw [List.take_append_of_le_length hle] at h
  have hnear := lossyLoop_take hle h
  omega

def Typed (items : List SdesItem) : Prop := ∀ item ∈ items, item.itemType ≠ .endOfList

def Short (items : List SdesItem) : Prop := ∀ item ∈ items, (utf8 item.value).length < 256

theorem code_ne_zero {itemType : SdesType} (h : itemType ≠ .endOfList) : itemType.code ≠ 0 := by
  revert h
  cases itemType <;> decide

theorem keepItem_code {itemType : SdesType} (h : itemType ≠ .endOfList) (value : Text)
    (items : List SdesItem) : keepItem itemType.code value items = ⟨itemType,value⟩::items := by
  revert h
  cases itemType <;> intro h <;> first | rfl | exact absurd rfl h

theorem cons_layout (item : SdesItem) (items : List SdesItem) (rest : Bytes) :
    (item::items).flatMap SdesItem.layout++rest =
      item.itemType.code::UInt8.ofNat (utf8 item.value).length::
        (utf8 item.value++(items.flatMap SdesItem.layout++rest)) := by
  rw [List.flatMap_cons, SdesItem.layout]
  simp only [List.cons_append, List.append_assoc]

theorem parseItems_layout {items : List SdesItem} (htype : Typed items) (hshort : Short items)
    (rest : Bytes) (fuel : ℕ) (hfuel : items.length < fuel) :
    parseItems fuel (items.flatMap SdesItem.layout++0::rest) = .ok (items,rest) := by
  induction items generalizing fuel with
  | nil =>
    match fuel, hfuel with
    | fuel+1, _ => rfl
  | cons item items ih =>
    match fuel, hfuel with
    | fuel+1, hfuel =>
      have hitem := htype item (List.mem_cons_self ..)
      have hlen : (UInt8.ofNat (utf8 item.value).length).toNat = (utf8 item.value).length := by
        rw [UInt8.toNat_ofNat']
        exact Nat.mod_eq_of_lt (hshort item (List.mem_cons_self ..))
      have hrest := ih (fun i hi => htype i (List.mem_cons_of_mem _ hi))
        (fun i hi => hshort i (List.mem_cons_of_mem _ hi)) fuel (Nat.lt_of_succ_lt_succ hfuel)
      rw [cons_layout, parseItems, if_neg (code_ne_zero hitem)]
      dsimp only
      rw [if_neg (by rw [hlen, List.length_append]; omega), hlen, List.take_left, List.drop_left,
        fromUtf8Lossy_utf8, hrest]
      exact congrArg (fun l => Except.ok (l,rest)) (keepItem_code hitem _ _)

theorem parseItems_read {items : List SdesItem} (htype : Typed items) {rest left : Bytes}
    {fuel d : ℕ} (h : parseItems fuel ((items.flatMap SdesItem.layout++0::rest).take d) =
      .ok (items,left)) :
    Short items ∧ ∃ d', d = (items.flatMap SdesItem.layout).length+1+d' ∧ left = rest.take d' := by
  induction items generalizing fuel d with
  | nil =>
    match fuel, d with
    | 0, d => cases h
    | fuel+1, 0 => cases h
    | fuel+1, d+1 =>
      cases h
      exact ⟨by simp [Short],d,by simp [Nat.add_comm],rfl⟩
  | cons item items ih =>
    have hitem := htype item (List.mem_cons_self ..)
    rw [cons_layout] at h
    match fuel, d with
    | 0, d => cases h
    | fuel+1, 0 => cases h
    | fuel+1, 1 =>
      simp only [List.take_succ_cons, List.take_zero, parseItems, if_neg (code_ne_zero hitem)] at h
      cases h
    | fuel+1, d+2 =>
      rw [List.take_succ_cons, List.take_succ_cons, parseItems, if_neg (code_ne_zero hitem)] at h
      dsimp only at h
      split at h
      · cases h
      next hfits =>
      have hlow : (UInt8.ofNat (utf8 item.value).length).toNat = (utf8 item.value).length%256 :=
        UInt8.toNat_ofNat'
      rw [hlow] at h hfits
      rw [List.length_take, List.length_append] at hfits
      have hd : (utf8 item.value).length%256 ≤ d := by omega
      rw [List.take_take, Nat.min_eq_left hd] at h
      cases hrec : parseItems fuel (((utf8 item.value++
          (items.flatMap SdesItem.layout++0::rest)).take d).drop
            ((utf8 item.value).length%256)) with
      | error e =>
        rw [hrec] at h
        cases h
      | ok p =>
        obtain ⟨read,rest'⟩ := p
        rw [hrec] at h
        have hpair := Except.ok.inj h
        rw [keepItem_code hitem] at hpair
        obtain ⟨hcons,rfl⟩ := Prod.mk.inj hpair
        obtain ⟨hvalue,rfl⟩ := List.cons.inj hcons
        have hlt : (utf8 item.value).length < 256 :=
          lossy_low_byte (congrArg SdesItem.value hvalue)
        rw [Nat.mod_eq_of_lt hlt] at hd hrec
        obtain ⟨j,rfl⟩ := Nat.exists_eq_add_of_le hd
        rw [List.take_length_add_append, List.drop_left] at hrec
        obtain ⟨hshort,d',hd',hleft⟩ := ih (fun i hi => htype i (List.mem_cons_of_mem _ hi)) hrec
        refine ⟨?_,d',?_,hleft⟩
        · intro i hi
          rcases List.mem_cons.mp hi with rfl | hi
          · exact hlt
          · exact hshort i hi
        · rw [List.flatMap_cons, List.length_append, SdesItem.layout, List.length_cons,
            List.length_cons]
          omega

def itemBytes (chunk : SdesChunk) : Bytes := chunk.items.flatMap SdesItem.layout

def padding (chunk : SdesChunk) : ℕ := (4-((itemBytes chunk).length+5)%4)%4

theorem chunk_layout (chunk : SdesChunk) (rest : Bytes) :
    SdesChunk.layout chunk++rest = putU32 chunk.ssrc++(itemBytes chunk++
      0::(List.replicate (padding chunk) 0++rest)) := by
  rw [SdesChunk.layout, padWords]
  simp only [List.length_append, List.append_assoc, List.singleton_append, List.length_cons,
    List.length_nil, putU32, encode_length, padding, itemBytes]
  rw [show 4+((chunk.items.flatMap SdesItem.layout).length+(0+1)) =
    (chunk.items.flatMap SdesItem.layout).length+5 by omega]
  rfl

theorem layout_length (chunk : SdesChunk) :
    (SdesChunk.layout chunk).length = (itemBytes chunk).length+5+padding chunk := by
  have hlen := congrArg List.length (chunk_layout chunk [])
  simp only [List.append_nil, List.length_append, List.length_cons, List.length_replicate, putU32,
    encode_length] at hlen
  omega

theorem items_length_le (items : List SdesItem) :
    items.length ≤ (items.flatMap SdesItem.layout).length := by
  induction items with
  | nil => simp
  | cons item items ih =>
    rw [List.flatMap_cons, List.length_append, SdesItem.layout, List.length_cons, List.length_cons,
      List.length_cons]
    omega

theorem parseChunks_layout {chunks : List SdesChunk} (htype : ∀ chunk ∈ chunks, Typed chunk.items)
    (hshort : ∀ chunk ∈ chunks, Short chunk.items) :
    parseChunks chunks.length (chunks.flatMap SdesChunk.layout) = .ok chunks := by
  induction chunks with
  | nil => rfl
  | cons chunk chunks ih =>
    have hrest := ih (fun c hc => htype c (List.mem_cons_of_mem _ hc))
      (fun c hc => hshort c (List.mem_cons_of_mem _ hc))
    have hitems := parseItems_layout (htype chunk (List.mem_cons_self ..))
      (hshort chunk (List.mem_cons_self ..))
      (List.replicate (padding chunk) 0++chunks.flatMap SdesChunk.layout)
    have hcount := items_length_le chunk.items
    rw [List.flatMap_cons, chunk_layout, List.length_cons, parseChunks, if_neg (by
      rw [List.length_append, putU32, encode_length]; omega), takeU32_put]
    dsimp only
    rw [itemBytes, hitems _ (by rw [List.length_append, List.length_cons]; omega)]
    simp only [bind, Except.bind]
    have hpad : (4-((putU32 chunk.ssrc++(chunk.items.flatMap SdesItem.layout++
        0::(List.replicate (padding chunk) 0++chunks.flatMap SdesChunk.layout))).length-
        (List.replicate (padding chunk) 0++chunks.flatMap SdesChunk.layout).length)%4)%4 =
        padding chunk := by
      simp only [List.length_append, List.length_cons, List.length_replicate, putU32, encode_length,
        padding, itemBytes]
      omega
    rw [hpad, if_neg (by rw [List.length_append, List.length_replicate]; omega),
      List.drop_left' List.length_replicate, hrest]
    rfl

theorem parseChunks_read {chunks : List SdesChunk} (htype : ∀ chunk ∈ chunks, Typed chunk.items)
    {d : ℕ} (h : parseChunks chunks.length ((chunks.flatMap SdesChunk.layout).take d) =
      .ok chunks) :
    (∀ chunk ∈ chunks, Short chunk.items) ∧ (chunks.flatMap SdesChunk.layout).length ≤ d := by
  induction chunks generalizing d with
  | nil => simp
  | cons chunk chunks ih =>
    rw [List.flatMap_cons, chunk_layout, List.length_cons, parseChunks] at h
    split at h
    · cases h
    next hlong =>
    have hd : 4 ≤ d := by
      rw [List.length_take] at hlong
      omega
    obtain ⟨j,rfl⟩ := Nat.exists_eq_add_of_le hd
    have hfour : (putU32 chunk.ssrc).length = 4 := by rw [putU32, encode_length]
    have htake : ∀ bs : Bytes, (putU32 chunk.ssrc++bs).take (4+j) =
        putU32 chunk.ssrc++bs.take j := by
      intro bs
      rw [← hfour, List.take_length_add_append]
    rw [htake, takeU32_put] at h
    simp only [bind, Except.bind] at h
    split at h
    · cases h
    next p hparse =>
    obtain ⟨items,left⟩ := p
    dsimp only at h
    split at h
    · cases h
    next hpadded =>
    split at h
    · cases h
    next rest hrest =>
    obtain ⟨hchunk,rfl⟩ := List.cons.inj (Except.ok.inj h)
    obtain rfl : items = chunk.items := congrArg SdesChunk.items hchunk
    obtain ⟨hshort,d',hj,hleft⟩ := parseItems_read (htype chunk (List.mem_cons_self ..)) hparse
    have hconsumed :
        (4-((putU32 chunk.ssrc++(itemBytes chunk++0::(List.replicate (padding chunk) 0++
        rest.flatMap SdesChunk.layout)).take j).length-left.length)%4)%4 = padding chunk := by
      rw [hleft, List.length_append, hfour, padding]
      simp only [List.length_take, List.length_append, List.length_cons]
      rw [show (itemBytes chunk).length = (chunk.items.flatMap SdesItem.layout).length from rfl]
      omega
    rw [hconsumed] at hpadded hrest
    have hd' : padding chunk ≤ d' := by
      rw [hleft, List.length_take] at hpadded
      omega
    obtain ⟨k,rfl⟩ := Nat.exists_eq_add_of_le hd'
    have hdrop : left.drop (padding chunk) = (rest.flatMap SdesChunk.layout).take k := by
      have htake : (List.replicate (padding chunk) 0++rest.flatMap SdesChunk.layout).take
          ((List.replicate (padding chunk) (0 : UInt8)).length+k) =
          List.replicate (padding chunk) 0++(rest.flatMap SdesChunk.layout).take k :=
        List.take_length_add_append k
      rw [List.length_replicate] at htake
      rw [hleft, htake, List.drop_left' List.length_replicate]
    rw [hdrop] at hrest
    obtain ⟨hshorts,hle⟩ := ih (fun c hc => htype c (List.mem_cons_of_mem _ hc)) hrest
    refine ⟨?_,?_⟩
    · intro c hc
      rcases List.mem_cons.mp hc with rfl | hc
      · exact hshort
      · exact hshorts c hc
    · rw [List.flatMap_cons, List.length_append, layout_length, itemBytes]
      omega

/-! ## What is read back -/

/-- The words that a chunk takes: its source, its items, the end mark and the
padding. -/
def SdesChunk.words (chunk : SdesChunk) : ℕ :=
  ((chunk.items.map fun item => (utf8 item.value).length+2).sum+8)/4

theorem itemBytes_length (chunk : SdesChunk) : (itemBytes chunk).length =
    (chunk.items.map fun item => (utf8 item.value).length+2).sum := by
  rw [itemBytes, List.length_flatMap]
  rfl

theorem chunks_length (chunks : List SdesChunk) :
    (chunks.flatMap SdesChunk.layout).length = 4*(chunks.map SdesChunk.words).sum := by
  induction chunks with
  | nil => rfl
  | cons chunk chunks ih =>
    have hlen := layout_length chunk
    rw [padding, itemBytes_length] at hlen
    rw [List.flatMap_cons, List.length_append, ih, List.map_cons, List.sum_cons, SdesChunk.words]
    omega

def SourceDescription.Fits (sdes : SourceDescription) : Prop :=
  (∀ chunk ∈ sdes.chunks, Short chunk.items) ∧ (sdes.chunks.map SdesChunk.words).sum < 65536

def Goodbye.Fits (bye : Goodbye) : Prop := ∀ reason ∈ bye.reason, (utf8 reason).length < 256

theorem sdes_parse (sdes : SourceDescription) (hcount : sdes.chunks.length ≤ 31) :
    SourceDescription.parse sdes.build = (parseChunks sdes.chunks.length
      ((sdes.chunks.flatMap SdesChunk.layout).take
        ((sdes.chunks.map SdesChunk.words).sum%65536*4))).map SourceDescription.mk := by
  have hcounted : (UInt8.ofNat (min sdes.chunks.length 31)).toNat = sdes.chunks.length := by
    rw [UInt8.toNat_ofNat', Nat.min_eq_left hcount]
    exact Nat.mod_eq_of_lt (by omega)
  have hwords : (sdes.chunks.flatMap SdesChunk.layout).length/4 =
      (sdes.chunks.map SdesChunk.words).sum := by
    rw [chunks_length]
    omega
  have hfits : ¬(sdes.chunks.flatMap SdesChunk.layout).length <
      (sdes.chunks.map SdesChunk.words).sum%65536*4 := by
    have hle := Nat.mod_le (sdes.chunks.map SdesChunk.words).sum 65536
    rw [chunks_length]
    omega
  simp only [SourceDescription.parse, (sdes_framed sdes).parse, bind, Except.bind, ne_eq, not_true,
    if_false, hcounted, hwords, UInt16.toNat_ofNat']
  rw [if_neg hfits]
  cases parseChunks sdes.chunks.length ((sdes.chunks.flatMap SdesChunk.layout).take
    ((sdes.chunks.map SdesChunk.words).sum%2^16*4)) <;> rfl

theorem sdes_read_back_iff {sdes : SourceDescription} (hcount : sdes.chunks.length ≤ 31)
    (htype : ∀ chunk ∈ sdes.chunks, Typed chunk.items) :
    SourceDescription.parse sdes.build = .ok sdes ↔ SourceDescription.Fits sdes := by
  rw [sdes_parse sdes hcount]
  constructor
  · intro h
    cases hparse : parseChunks sdes.chunks.length ((sdes.chunks.flatMap SdesChunk.layout).take
        ((sdes.chunks.map SdesChunk.words).sum%65536*4)) with
    | error e =>
      rw [hparse] at h
      cases h
    | ok chunks =>
      rw [hparse] at h
      have hsame : chunks = sdes.chunks := congrArg SourceDescription.chunks (Except.ok.inj h)
      rw [hsame] at hparse
      obtain ⟨hshort,hle⟩ := parseChunks_read htype hparse
      rw [chunks_length] at hle
      exact ⟨hshort,by omega⟩
  · rintro ⟨hshort,hwords⟩
    rw [Nat.mod_eq_of_lt hwords, Nat.mul_comm, ← chunks_length, List.take_length,
      parseChunks_layout htype hshort]
    rfl

theorem parseReason_read {reason : Text} {d : ℕ}
    (h : parseReason ((reasonBytes (some reason)).take d) = .ok (some reason)) :
    (utf8 reason).length < 256 := by
  match d with
  | 0 => cases h
  | d+1 =>
    rw [reasonBytes, padWords, List.cons_append, List.take_succ_cons, parseReason] at h
    split at h
    · cases h
    next hfits =>
    have hlow : (UInt8.ofNat (utf8 reason).length).toNat = (utf8 reason).length%256 :=
      UInt8.toNat_ofNat'
    rw [hlow] at h hfits
    have hd : (utf8 reason).length%256 ≤ d := by
      rw [List.length_take] at hfits
      omega
    rw [List.take_take, Nat.min_eq_left hd] at h
    exact lossy_low_byte (Option.some.inj (Except.ok.inj h))

theorem parseReason_reason {reason : Option Text}
    (h : ∀ text ∈ reason, (utf8 text).length < 256) :
    parseReason (reasonBytes reason) = .ok reason := by
  cases reason with
  | none => rfl
  | some text =>
    have hlen : (UInt8.ofNat (utf8 text).length).toNat = (utf8 text).length := by
      rw [UInt8.toNat_ofNat']
      exact Nat.mod_eq_of_lt (h text rfl)
    rw [reasonBytes, padWords, List.cons_append, parseReason, hlen,
      if_neg (by rw [List.length_append]; omega), List.take_left, fromUtf8Lossy_utf8]

theorem goodbye_parse {bye : Goodbye} (hcount : bye.ssrcs.length ≤ 31) :
    Goodbye.parse bye.build =
      if bye.contentLen/4%65536*4 < bye.ssrcs.length*4 then
        .error (.tooShort (bye.contentLen/4%65536*4))
      else (parseReason ((reasonBytes bye.reason).take
        (bye.contentLen/4%65536*4-bye.ssrcs.length*4))).map (Goodbye.mk bye.ssrcs) := by
  have hcounted : (UInt8.ofNat (min bye.ssrcs.length 31)).toNat = bye.ssrcs.length := by
    rw [UInt8.toNat_ofNat', Nat.min_eq_left hcount]
    exact Nat.mod_eq_of_lt (by omega)
  have hlen := goodbye_content_length bye
  have hwords := contentLen_words bye
  have hmod := Nat.mod_le (bye.contentLen/4) 65536
  have hdeclared : ¬(bye.ssrcs.flatMap putU32++reasonBytes bye.reason).length <
      bye.contentLen/4%65536*4 := by
    rw [sources_split, hlen]
    omega
  simp only [Goodbye.parse, (goodbye_framed bye).parse, ← sources_split, bind, Except.bind, ne_eq,
    not_true, if_false, hcounted, UInt16.toNat_ofNat']
  rw [if_neg hdeclared, List.length_take, Nat.min_eq_left (by omega)]
  split
  · rfl
  · next hfits =>
    obtain ⟨j,hj⟩ := Nat.exists_eq_add_of_le (Nat.le_of_not_lt hfits)
    have hsources : bye.ssrcs.length*4 = (bye.ssrcs.flatMap putU32).length := by
      rw [ssrcs_length, Nat.mul_comm]
    rw [hj, Nat.add_sub_cancel_left, hsources, List.take_length_add_append, getSsrcs_put]
    dsimp only
    cases parseReason ((reasonBytes bye.reason).take j) <;> rfl

theorem bye_read_back_iff {bye : Goodbye} (hcount : bye.ssrcs.length ≤ 31) :
    Goodbye.parse bye.build = .ok bye ↔ Goodbye.Fits bye := by
  rw [goodbye_parse hcount]
  constructor
  · intro h reason hreason
    split at h
    · cases h
    cases hparse : parseReason ((reasonBytes bye.reason).take
        (bye.contentLen/4%65536*4-bye.ssrcs.length*4)) with
    | error e =>
      rw [hparse] at h
      cases h
    | ok read =>
      rw [hparse] at h
      have hsame : read = bye.reason := congrArg Goodbye.reason (Except.ok.inj h)
      rw [hsame, hreason] at hparse
      exact parseReason_read hparse
  · intro h
    have hlen := goodbye_content_length bye
    have hwords := contentLen_words bye
    have hsources : bye.ssrcs.length*4 = (bye.ssrcs.flatMap putU32).length := by
      rw [ssrcs_length, Nat.mul_comm]
    have hsmall : bye.contentLen/4 < 65536 := by
      rw [Goodbye.contentLen]
      cases hreason : bye.reason with
      | none =>
        dsimp only
        omega
      | some reason =>
        have := h reason hreason
        dsimp only
        omega
    rw [← sources_split, List.length_append] at hlen
    rw [Nat.mod_eq_of_lt hsmall, if_neg (by omega),
      show bye.contentLen/4*4-bye.ssrcs.length*4 = (reasonBytes bye.reason).length by omega,
      List.take_length, parseReason_reason h]
    rfl

/-- A description and a goodbye are read back exactly if no text is above 255
bytes and the words of the description fit the length field. -/
theorem read_back_iff (sdes : SourceDescription) (bye : Goodbye)
    (hchunks : sdes.chunks.length ≤ 31) (htype : ∀ chunk ∈ sdes.chunks, Typed chunk.items)
    (hssrcs : bye.ssrcs.length ≤ 31) :
    (SourceDescription.parse sdes.build = .ok sdes ↔ SourceDescription.Fits sdes) ∧
    (Goodbye.parse bye.build = .ok bye ↔ Goodbye.Fits bye) :=
  ⟨sdes_read_back_iff hchunks htype,bye_read_back_iff hssrcs⟩

def namedSource (name : Text) : SourceDescription := ⟨[⟨1,[⟨.cName,name⟩]⟩]⟩

theorem named_source_typed (name : Text) :
    ∀ chunk ∈ (namedSource name).chunks, Typed chunk.items := by
  simp [namedSource, Typed]

theorem short_name_read_back :
    SourceDescription.parse (namedSource ['a']).build = .ok (namedSource ['a']) ∧
    Goodbye.parse (Goodbye.build ⟨[1],some ['b']⟩) = .ok ⟨[1],some ['b']⟩ := by
  have hboth := read_back_iff (namedSource ['a']) ⟨[1],some ['b']⟩ (by decide)
    (named_source_typed _) (by decide)
  refine ⟨hboth.1.mpr ⟨?_,by decide +kernel⟩,hboth.2.mpr ?_⟩
  · simp only [namedSource, List.mem_singleton, forall_eq, Short]
    decide +kernel
  · simp only [Goodbye.Fits, Option.mem_some_iff, forall_eq']
    decide +kernel

/-- A name of 256 bytes is written behind the length 0. -/
theorem long_name_not_read_back :
    SourceDescription.parse (namedSource (List.replicate 256 'a')).build ≠
      .ok (namedSource (List.replicate 256 'a')) := by
  intro h
  have hfits := (sdes_read_back_iff (by decide) (named_source_typed _)).mp h
  have hshort := hfits.1 ⟨1,[⟨.cName,List.replicate 256 'a'⟩]⟩ (List.mem_singleton.mpr rfl)
    ⟨.cName,List.replicate 256 'a'⟩ (List.mem_singleton.mpr rfl)
  exact absurd hshort (by decide +kernel)

end RsipRtp.RtcpDescription
