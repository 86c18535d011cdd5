import RsipRtp.RtcpPackets

/-!
# Where a compound is cut

A packet ends where its length field says.
-/

namespace RsipRtp.RtcpSplit
open SipText BigEndian RtcpReport RtcpPackets

variable {bs rest : Bytes}

def lengthField : Bytes → ℕ
  | _::_::l1::l0::_ => (getU16 l1 l0).toNat
  | _ => 0

def Exact (pkt : Bytes) : Prop := pkt.length = 4*(lengthField pkt+1)

instance (pkt : Bytes) : Decidable (Exact pkt) := inferInstanceAs (Decidable (_ = _))

structure Framed (pkt : Bytes) (header : RtcpHeader) (content : Bytes) : Prop where
  bytes : pkt = RtcpHeader.build header++content
  version : header.version = 2
  count : header.count.toNat < 32

variable {pkt rest content : Bytes} {header : RtcpHeader}

theorem header_bytes (header : RtcpHeader) : ∃ b0 l1 l0,
    RtcpHeader.build header = [b0,header.packetType.code,l1,l0] ∧ getU16 l1 l0 = header.length ∧
      b0 = (header.version <<< 6) ||| (header.padding.toUInt8 <<< 5) |||
        (header.count &&& 0x1F) := by
  obtain ⟨l1,l0,hput,hget⟩ := putU16_read header.length
  exact ⟨_,l1,l0,by rw [RtcpHeader.build, hput]; rfl,hget,rfl⟩

theorem Framed.parse (h : Framed pkt header content) :
    RtcpHeader.parse pkt = .ok (header,content) := by
  rw [h.bytes]
  exact parse_header h.version h.count content

theorem Framed.exact_iff (h : Framed pkt header content) :
    Exact pkt ↔ content.length = 4*header.length.toNat := by
  obtain ⟨b0,l1,l0,hbytes,hlength,_⟩ := header_bytes header
  have hfield : lengthField pkt = header.length.toNat := by
    rw [h.bytes, hbytes, ← hlength]
    rfl
  have hlen : pkt.length = 4+content.length := by
    rw [h.bytes, hbytes]
    simp only [List.length_append, List.length_cons, List.length_nil]
  rw [Exact, hfield, hlen]
  omega

theorem walk_framed (h : Framed pkt header content) (hexact : Exact pkt) (fuel : ℕ) :
    walk (fuel+1) (pkt++rest) = (do
      let packet ← parsePacket header.packetType.code header.count pkt
      let steps ← walk fuel rest
      return (pkt,packet)::steps) := by
  obtain ⟨b0,l1,l0,hbytes,hlength,hb0⟩ := header_bytes header
  have hpkt : pkt = b0::header.packetType.code::l1::l0::content := by
    rw [h.bytes, hbytes]
    rfl
  have hbits := headerByte_bits header.padding ⟨header.count.toNat,h.count⟩
  simp only [UInt8.ofNat_toNat, ← h.version, ← hb0] at hbits
  have hcut : ((getU16 l1 l0).toNat+1)*4 = pkt.length := by
    rw [h.exact_iff] at hexact
    rw [hlength, hpkt]
    simp only [List.length_cons]
    omega
  have hfits : ¬(pkt++rest).length < pkt.length := by
    rw [List.length_append]
    omega
  have hwhole : b0::header.packetType.code::l1::l0::(content++rest) = pkt++rest := by
    rw [hpkt]
    rfl
  rw [← hwhole, walk]
  simp only [hwhole, hcut, hbits.1, hbits.2.2, h.version, ne_eq, not_true, if_false, if_neg hfits,
    List.take_left, List.drop_left]

theorem count_toNat (n : ℕ) : (UInt8.ofNat (min n 31)).toNat = min n 31 := by
  rw [UInt8.toNat_ofNat']
  exact Nat.mod_eq_of_lt (by omega)

theorem count_lt (n : ℕ) : (UInt8.ofNat (min n 31)).toNat < 32 := by
  rw [count_toNat]
  omega

theorem lengthWords_toNat {k : ℕ} (hk : k ≤ 6) (blocks : List ReportBlock) :
    (UInt16.ofNat k+(reportCount blocks).toUInt16*6).toNat = k+min blocks.length 31*6 := by
  rw [UInt16.toNat_add, UInt16.toNat_mul, UInt8.toNat_toUInt16, reportCount, count_toNat,
    UInt16.toNat_ofNat']
  have h6 : (6 : UInt16).toNat = 6 := rfl
  rw [h6]
  omega

theorem senderReport_framed (report : SenderReport) : ∃ content,
    Framed report.build ⟨2,false,reportCount report.reportBlocks,.senderReport,
      6+(reportCount report.reportBlocks).toUInt16*6⟩ content ∧
    content.length = 24+24*report.reportBlocks.length := by
  refine ⟨_,⟨by simp only [SenderReport.build, List.append_assoc]; rfl,rfl,count_lt _⟩,?_⟩
  simp only [List.length_append, putU32, encode_length, blocks_build_length, ReportBlock.size]
  omega

theorem receiverReport_framed (report : ReceiverReport) : ∃ content,
    Framed report.build ⟨2,false,reportCount report.reportBlocks,.receiverReport,
      1+(reportCount report.reportBlocks).toUInt16*6⟩ content ∧
    content.length = 4+24*report.reportBlocks.length := by
  refine ⟨_,⟨by simp only [ReceiverReport.build, List.append_assoc]; rfl,rfl,count_lt _⟩,?_⟩
  simp only [List.length_append, putU32, encode_length, blocks_build_length, ReportBlock.size]

/-- The length field counts as many blocks as the header does. -/
theorem Framed.report_exact_iff {blocks : List ReportBlock} {k : ℕ} (h : Framed pkt header content)
    (hk : k ≤ 6) (hfield : header.length = UInt16.ofNat k+(reportCount blocks).toUInt16*6)
    (hlen : content.length = 4*k+24*blocks.length) : Exact pkt ↔ blocks.length ≤ 31 := by
  rw [h.exact_iff, hfield, lengthWords_toNat hk, hlen]
  omega

theorem senderReport_exact_iff (report : SenderReport) :
    Exact report.build ↔ report.reportBlocks.length ≤ 31 := by
  obtain ⟨content,hframed,hlen⟩ := senderReport_framed report
  exact hframed.report_exact_iff (k := 6) (by decide) rfl hlen

theorem receiverReport_exact_iff (report : ReceiverReport) :
    Exact report.build ↔ report.reportBlocks.length ≤ 31 := by
  obtain ⟨content,hframed,hlen⟩ := receiverReport_framed report
  exact hframed.report_exact_iff (k := 1) (by decide) rfl hlen

theorem ssrcs_length (ssrcs : List UInt32) : (ssrcs.flatMap putU32).length = 4*ssrcs.length := by
  simp [List.length_flatMap, putU32, Nat.mul_comm]

theorem remb_framed (remb : Remb) : ∃ tail,
    Framed remb.build ⟨2,false,15,.payloadFeedback,
      UInt16.ofNat (4+min remb.ssrcs.length 255)⟩
      (putU32 remb.senderSsrc++(putU32 remb.mediaSsrc++(uniqueId++tail))) ∧
    tail.length = 4+4*min remb.ssrcs.length 255 := by
  refine ⟨_,⟨by simp only [Remb.build, List.append_assoc]; rfl,rfl,
    (by decide : (15 : UInt8).toNat < 32)⟩,?_⟩
  simp only [List.length_append, List.length_cons, List.length_nil, putU16, encode_length,
    ssrcs_length, List.length_take]
  omega

theorem remb_exact (remb : Remb) : Exact remb.build := by
  obtain ⟨tail,hframed,hlen⟩ := remb_framed remb
  rw [hframed.exact_iff]
  simp only [List.length_append, hlen, putU32, encode_length, uniqueId, List.length_cons,
    List.length_nil, UInt16.toNat_ofNat']
  omega

theorem remb_read (remb : Remb) : ∃ read, parsePacket 206 15 remb.build = .ok (.remb read) := by
  obtain ⟨tail,hframed,hlen⟩ := remb_framed remb
  have hid : (remb.build.drop 12).take 4 = uniqueId := by
    obtain ⟨b0,l1,l0,hbytes,_,_⟩ := header_bytes
      ⟨2,false,15,.payloadFeedback,UInt16.ofNat (4+min remb.ssrcs.length 255)⟩
    rw [hframed.bytes, hbytes, ← List.append_assoc, ← List.append_assoc, List.drop_left' (by
      simp [putU32]), List.take_left' (show uniqueId.length = 4 from rfl)]
  have hlong : 16 ≤ remb.build.length := by
    rw [hframed.bytes]
    simp only [List.length_append, putU32, encode_length, uniqueId, List.length_cons,
      List.length_nil, RtcpHeader.build, putU16]
    omega
  have hrest : ¬(putU32 remb.senderSsrc++(putU32 remb.mediaSsrc ++
      (uniqueId++tail))).length < 16 := by
    simp only [List.length_append, hlen, putU32, encode_length, uniqueId, List.length_cons,
      List.length_nil]
    omega
  obtain ⟨read,hread⟩ : ∃ read, Remb.parse remb.build = .ok read := by
    simp only [Remb.parse, hframed.parse, bind, Except.bind, takeU32_put, if_neg hrest,
      List.take_left' (show uniqueId.length = 4 from rfl), ne_eq, not_true, or_self, if_false]
    exact ⟨_,rfl⟩
  refine ⟨read,?_⟩
  have hdispatch : parsePacket 206 15 remb.build =
      ((Remb.parse remb.build).map RtcpPacket.remb).mapError RtcpParseError.display := by
    unfold parsePacket
    exact if_pos ⟨rfl,hlong,hid⟩
  rw [hdispatch, hread]
  rfl

theorem padWords_append {buf : Bytes} (h : buf.length%4 = 0) (bs : Bytes) :
    padWords (buf++bs) = buf++padWords bs := by
  rw [padWords, padWords, List.append_assoc, List.length_append]
  have hmod : (buf.length+bs.length)%4 = bs.length%4 := by omega
  rw [hmod]

theorem padWords_length (bs : Bytes) : (padWords bs).length = (bs.length+3)/4*4 := by
  rw [padWords, List.length_append, List.length_replicate]
  omega

theorem getSsrcs_put (ssrcs : List UInt32) (rest : Bytes) :
    getSsrcs ssrcs.length (ssrcs.flatMap putU32++rest) = (ssrcs,rest) := by
  induction ssrcs with
  | nil => rfl
  | cons ssrc ssrcs ih =>
    have hfits : ¬(putU32 ssrc++(ssrcs.flatMap putU32++rest)).length < 4 := by
      rw [List.length_append, putU32, encode_length]
      omega
    rw [List.flatMap_cons, List.append_assoc, List.length_cons, getSsrcs, if_neg hfits, takeU32_put]
    dsimp only
    rw [ih]

def reasonBytes : Option Text → Bytes
  | some reason => padWords (UInt8.ofNat (utf8 reason).length::utf8 reason)
  | none => []

/-- The 31 sources that the header can count, and what the reader finds
behind them. -/
def afterSources (bye : Goodbye) : Bytes :=
  (bye.ssrcs.drop 31).flatMap putU32++reasonBytes bye.reason

theorem sources_split (bye : Goodbye) : bye.ssrcs.flatMap putU32++reasonBytes bye.reason =
    (bye.ssrcs.take 31).flatMap putU32++afterSources bye := by
  rw [afterSources, ← List.append_assoc, ← List.flatMap_append, List.take_append_drop]

theorem goodbye_framed (bye : Goodbye) :
    Framed bye.build ⟨2,false,UInt8.ofNat (min bye.ssrcs.length 31),.goodbye,
      UInt16.ofNat (bye.contentLen/4)⟩
      ((bye.ssrcs.take 31).flatMap putU32++afterSources bye) where
  bytes := by
    rw [← sources_split, Goodbye.build]
    cases bye.reason with
    | none => simp only [reasonBytes, List.append_nil]
    | some reason =>
      have hwords : (RtcpHeader.build ⟨2,false,UInt8.ofNat (min bye.ssrcs.length 31),.goodbye,
          UInt16.ofNat (bye.contentLen/4)⟩++bye.ssrcs.flatMap putU32).length%4 = 0 := by
        simp only [List.length_append, RtcpHeader.build, putU16, encode_length, ssrcs_length,
          List.length_cons, List.length_nil]
        omega
      simp only [reasonBytes, List.append_assoc, List.singleton_append]
      rw [← List.append_assoc, padWords_append hwords, List.append_assoc]
  version := rfl
  count := count_lt _

theorem goodbye_content_length (bye : Goodbye) :
    ((bye.ssrcs.take 31).flatMap putU32++afterSources bye).length = bye.contentLen := by
  rw [← sources_split, List.length_append, ssrcs_length, Goodbye.contentLen]
  cases bye.reason with
  | none => simp only [reasonBytes, List.length_nil]; omega
  | some reason =>
    simp only [reasonBytes, padWords_length, List.length_cons]
    omega

theorem contentLen_words (bye : Goodbye) : bye.contentLen%4 = 0 := by
  rw [Goodbye.contentLen]
  cases bye.reason with
  | none | some reason => simp only []; omega

theorem goodbye_exact_iff (bye : Goodbye) : Exact bye.build ↔ bye.contentLen/4 < 65536 := by
  have hwords := contentLen_words bye
  rw [(goodbye_framed bye).exact_iff, goodbye_content_length]
  simp only [UInt16.toNat_ofNat']
  omega

theorem parseReason_reasonBytes (reason : Option Text) :
    ∃ read, parseReason (reasonBytes reason) = .ok read := by
  cases reason with
  | none => exact ⟨none,rfl⟩
  | some reason =>
    have hlen : (UInt8.ofNat (utf8 reason).length).toNat ≤ (utf8 reason).length := by
      rw [UInt8.toNat_ofNat']
      exact Nat.mod_le _ _
    rw [reasonBytes, padWords, List.cons_append, parseReason, if_neg (by
      rw [List.length_append]
      omega)]
    exact ⟨_,rfl⟩

theorem parseReason_sources {ssrc : UInt32} {bs : Bytes} :
    (∃ read, parseReason (putU32 ssrc++bs) = .ok read) ↔ ssrc.toNat/2^24 ≤ 3+bs.length := by
  have hssrc := ssrc.toNat_lt
  have hfirst : (UInt8.ofNat (ssrc.toNat/256^3)).toNat = ssrc.toNat/2^24 := by
    rw [UInt8.toNat_ofNat']
    omega
  have hput : putU32 ssrc = UInt8.ofNat (ssrc.toNat/256^3)::encode 3 ssrc.toNat := rfl
  rw [hput, List.cons_append, parseReason, hfirst, List.length_append, encode_length]
  split
  · next h => simp only [reduceCtorEq, exists_false, false_iff]; omega
  · next h => simp only [Except.ok.injEq, exists_eq', true_iff]; omega

/-- A source beyond the 31 that the header counts is read as the length of a
reason. -/
def LateSourceFits (bye : Goodbye) : Prop :=
  ∀ ssrc ∈ bye.ssrcs[31]?, ssrc.toNat/2^24 ≤ bye.contentLen-125

theorem parseReason_afterSources_iff (bye : Goodbye) :
    (∃ read, parseReason (afterSources bye) = .ok read) ↔ LateSourceFits bye := by
  have hcontent := goodbye_content_length bye
  rw [List.length_append, ssrcs_length, List.length_take] at hcontent
  cases hdrop : bye.ssrcs.drop 31 with
  | nil =>
    have hnone : bye.ssrcs[31]? = none :=
      List.getElem?_eq_none (List.drop_eq_nil_iff.mp hdrop)
    rw [afterSources, hdrop, LateSourceFits, hnone]
    simpa using parseReason_reasonBytes bye.reason
  | cons ssrc ssrcs =>
    have hsome : bye.ssrcs[31]? = some ssrc := by
      rw [← List.head?_drop, hdrop, List.head?_cons]
    have hlen : 31 < bye.ssrcs.length := (List.getElem?_eq_some_iff.mp hsome).1
    have hafter : afterSources bye =
        putU32 ssrc++(ssrcs.flatMap putU32++reasonBytes bye.reason) := by
      rw [afterSources, hdrop, List.flatMap_cons, List.append_assoc]
    rw [hafter, List.length_append, putU32, encode_length] at hcontent
    rw [hafter, parseReason_sources, LateSourceFits, hsome]
    simp only [Option.mem_some_iff, forall_eq']
    omega

theorem goodbye_read_iff (bye : Goodbye) (hexact : Exact bye.build) :
    (∃ read, Goodbye.parse bye.build = .ok read) ↔ LateSourceFits bye := by
  have hframed := goodbye_framed bye
  rw [hframed.exact_iff] at hexact
  have hcount : (UInt8.ofNat (min bye.ssrcs.length 31)).toNat = (bye.ssrcs.take 31).length := by
    rw [count_toNat, List.length_take, Nat.min_comm 31]
  have hdeclared : (UInt16.ofNat (bye.contentLen/4)).toNat*4 =
      ((bye.ssrcs.take 31).flatMap putU32++afterSources bye).length := by
    rw [hexact, Nat.mul_comm]
  have hsources : ¬((bye.ssrcs.take 31).flatMap putU32++afterSources bye).length <
      (bye.ssrcs.take 31).length*4 := by
    rw [List.length_append, ssrcs_length]
    omega
  rw [← parseReason_afterSources_iff]
  simp only [Goodbye.parse, hframed.parse, bind, Except.bind, ne_eq, not_true, if_false, hdeclared,
    lt_irrefl, List.take_length, hcount, if_neg hsources, getSsrcs_put]
  cases parseReason (afterSources bye) with
  | error => simp
  | ok reason => exact iff_of_true ⟨_,rfl⟩ ⟨_,rfl⟩

inductive Items : Bytes → Bytes → Prop
  | stop (rest : Bytes) : Items (0::rest) rest
  | item {itemType len : UInt8} {value bs rest : Bytes} : itemType ≠ 0 →
      value.length = len.toNat → Items bs rest → Items (itemType::len::(value++bs)) rest

/-- A number of chunks, each with its source, its items and the padding to
whole words, whatever follows the last one. -/
inductive Chunks : ℕ → Bytes → Prop
  | done (rest : Bytes) : Chunks 0 rest
  | chunk {n : ℕ} {ssrc : UInt32} {body pad rest : Bytes} : Items body (pad++rest) →
      pad.length < 4 → (body.length-rest.length)%4 = 0 → Chunks n rest →
      Chunks (n+1) (putU32 ssrc++body)

theorem Items.length_lt (h : Items bs rest) : rest.length < bs.length := by
  induction h with
  | stop => exact Nat.lt_succ_self _
  | item _ _ _ ih =>
    simp only [List.length_cons, List.length_append]
    omega

theorem parseItems_of_items (h : Items bs rest) (fuel : ℕ)
    (hfuel : bs.length < fuel) : ∃ items, parseItems fuel bs = .ok (items,rest) := by
  induction h generalizing fuel with
  | stop rest =>
    match fuel, hfuel with
    | fuel+1, _ => exact ⟨[],rfl⟩
  | @item itemType len value bs rest htype hlen _ ih =>
    match fuel, hfuel with
    | fuel+1, hfuel =>
      simp only [List.length_cons, List.length_append] at hfuel
      obtain ⟨items,hitems⟩ := ih fuel (by omega)
      have hfits : ¬(value++bs).length < value.length := by
        rw [List.length_append]
        omega
      rw [parseItems, if_neg htype]
      simp only [if_neg hfits, ← hlen, List.take_left, List.drop_left, hitems, bind, Except.bind]
      exact ⟨_,rfl⟩

theorem items_of_parseItems {fuel : ℕ} {items : List SdesItem}
    (h : parseItems fuel bs = .ok (items,rest)) : Items bs rest := by
  induction fuel generalizing bs items with
  | zero => cases h
  | succ fuel ih =>
    match bs with
    | [] => cases h
    | [itemType] =>
      rw [parseItems] at h
      split_ifs at h with htype
      cases h
      rw [htype]
      exact .stop []
    | itemType::len::bs =>
      rw [parseItems] at h
      split_ifs at h with htype hfits
      · cases h
        rw [htype]
        exact .stop _
      · obtain ⟨⟨tail,after⟩,htail,h⟩ := bind_ok h
        cases h
        rw [← List.take_append_drop len.toNat bs]
        exact .item htype (List.length_take_of_le (by omega)) (ih htail)

theorem word_split {bs : Bytes} (h : 4 ≤ bs.length) : ∃ ssrc body, bs = putU32 ssrc++body := by
  match bs, h with
  | b3::b2::b1::b0::body, _ =>
    exact ⟨getU32 b3 b2 b1 b0,body,by rw [putU32_getU32]; rfl⟩

/-- The reader accepts as many chunks as it is told of exactly if they are
there. -/
theorem parseChunks_iff (n : ℕ) (bs : Bytes) :
    (∃ chunks, parseChunks n bs = .ok chunks) ↔ Chunks n bs := by
  induction n generalizing bs with
  | zero => exact iff_of_true ⟨[],rfl⟩ (.done bs)
  | succ n ih =>
    constructor
    · rintro ⟨chunks,h⟩
      rw [parseChunks] at h
      split_ifs at h with hshort
      obtain ⟨ssrc,body,rfl⟩ : ∃ ssrc body, bs = putU32 ssrc++body := word_split (by omega)
      rw [takeU32_put] at h
      obtain ⟨⟨items,rest⟩,hitems,h⟩ := bind_ok h
      dsimp only at h
      split_ifs at h with hpad
      obtain ⟨chunks,hchunks,_⟩ := bind_ok h
      rw [List.length_append, putU32, encode_length] at hpad hchunks
      generalize hk : (4-(4+body.length-rest.length)%4)%4 = k at hpad hchunks
      have hbody : Items body (rest.take k++rest.drop k) := by
        rw [List.take_append_drop]
        exact items_of_parseItems hitems
      have hlt := (items_of_parseItems hitems).length_lt
      exact .chunk hbody (by rw [List.length_take]; omega) (by rw [List.length_drop]; omega)
        ((ih _).mp ⟨chunks,hchunks⟩)
    · intro h
      cases h with
      | @chunk _ ssrc body pad rest hitems hpad hwords hrest =>
        obtain ⟨items,hparse⟩ := parseItems_of_items hitems (body.length+1) (Nat.lt_succ_self _)
        obtain ⟨chunks,hchunks⟩ := (ih rest).mpr hrest
        have hlt := hitems.length_lt
        rw [List.length_append] at hlt
        have hpadding :
            (4-((putU32 ssrc++body).length-(pad++rest).length)%4)%4 = pad.length := by
          rw [List.length_append, List.length_append, putU32, encode_length]
          omega
        have hlong : ¬(putU32 ssrc++body).length < 4 := by
          rw [List.length_append, putU32, encode_length]
          omega
        have hfits : ¬(pad++rest).length < pad.length := by
          rw [List.length_append]
          omega
        rw [parseChunks, if_neg hlong, takeU32_put]
        simp only [hparse, bind, Except.bind, hpadding, if_neg hfits, List.drop_left, hchunks]
        exact ⟨_,rfl⟩

def SdesItem.layout (item : SdesItem) : Bytes :=
  item.itemType.code::UInt8.ofNat (utf8 item.value).length::utf8 item.value

/-- The bytes of a chunk: its source, its items one after the other, the end
mark and the padding. -/
def SdesChunk.layout (chunk : SdesChunk) : Bytes :=
  padWords (putU32 chunk.ssrc++(chunk.items.flatMap SdesItem.layout++[0]))

theorem foldl_item_put (items : List SdesItem) (buf : Bytes) :
    items.foldl SdesItem.put buf = buf++items.flatMap SdesItem.layout := by
  induction items generalizing buf with
  | nil => simp
  | cons item items ih =>
    rw [List.foldl_cons, ih, List.flatMap_cons, SdesItem.put, SdesItem.layout]
    simp only [List.append_assoc, List.cons_append, List.nil_append]

theorem chunk_layout_words (chunk : SdesChunk) : (SdesChunk.layout chunk).length%4 = 0 := by
  rw [SdesChunk.layout, padWords_length]
  omega

theorem chunks_layout_words (chunks : List SdesChunk) :
    (chunks.flatMap SdesChunk.layout).length%4 = 0 := by
  induction chunks with
  | nil => rfl
  | cons chunk chunks ih =>
    have hchunk := chunk_layout_words chunk
    rw [List.flatMap_cons, List.length_append]
    omega

theorem foldl_chunk_put (chunks : List SdesChunk) {buf : Bytes} (h : buf.length%4 = 0) :
    chunks.foldl SdesChunk.put buf = buf++chunks.flatMap SdesChunk.layout := by
  induction chunks generalizing buf with
  | nil => simp
  | cons chunk chunks ih =>
    have hput : SdesChunk.put buf chunk = buf++SdesChunk.layout chunk := by
      rw [SdesChunk.put, foldl_item_put, List.append_assoc, List.append_assoc, padWords_append h]
      rfl
    have hwords := chunk_layout_words chunk
    rw [List.foldl_cons, hput, ih (by rw [List.length_append]; omega), List.flatMap_cons,
      List.append_assoc]

theorem headerByte_chunks (n : Fin 32) : ((2 : UInt8) <<< 6) ||| UInt8.ofNat n =
    ((2 : UInt8) <<< 6) ||| (false.toUInt8 <<< 5) ||| (UInt8.ofNat n &&& 0x1F) := by
  revert n
  decide

theorem sdes_framed (sdes : SourceDescription) :
    Framed sdes.build ⟨2,false,UInt8.ofNat (min sdes.chunks.length 31),.sourceDescription,
      UInt16.ofNat ((sdes.chunks.flatMap SdesChunk.layout).length/4)⟩
      (sdes.chunks.flatMap SdesChunk.layout) where
  bytes := by
    have hfold := foldl_chunk_put sdes.chunks (show (putU32 0).length%4 = 0 from rfl)
    have hbyte := headerByte_chunks ⟨min sdes.chunks.length 31,by omega⟩
    have hfour : (putU32 0).length = 4 := rfl
    rw [SourceDescription.build, hfold, List.drop_left' hfour, List.length_append, hfour,
      Nat.add_sub_cancel_left, RtcpHeader.build, ← putU16_bytes]
    simp only [← hbyte]
    rfl
  version := rfl
  count := count_lt _

theorem sdes_exact_iff (sdes : SourceDescription) :
    Exact sdes.build ↔ (sdes.chunks.flatMap SdesChunk.layout).length/4 < 65536 := by
  have hwords := chunks_layout_words sdes.chunks
  rw [(sdes_framed sdes).exact_iff]
  simp only [UInt16.toNat_ofNat']
  omega

theorem sdes_read_iff (sdes : SourceDescription) (hexact : Exact sdes.build) :
    (∃ read, SourceDescription.parse sdes.build = .ok read) ↔
      Chunks (min sdes.chunks.length 31) (sdes.chunks.flatMap SdesChunk.layout) := by
  have hframed := sdes_framed sdes
  rw [hframed.exact_iff] at hexact
  have hdeclared : (UInt16.ofNat ((sdes.chunks.flatMap SdesChunk.layout).length/4)).toNat*4 =
      (sdes.chunks.flatMap SdesChunk.layout).length := by
    rw [Nat.mul_comm]
    exact hexact.symm
  rw [← parseChunks_iff]
  simp only [SourceDescription.parse, hframed.parse, bind, Except.bind, ne_eq, not_true, if_false,
    hdeclared, lt_irrefl, List.take_length, count_toNat]
  cases parseChunks (min sdes.chunks.length 31) (sdes.chunks.flatMap SdesChunk.layout) with
  | error => simp
  | ok chunks => exact iff_of_true ⟨_,rfl⟩ ⟨_,rfl⟩

theorem items_layout {items : List SdesItem} (rest : Bytes)
    (htype : ∀ item ∈ items, item.itemType ≠ .endOfList)
    (hshort : ∀ item ∈ items, (utf8 item.value).length < 256) :
    Items (items.flatMap SdesItem.layout++0::rest) rest := by
  induction items with
  | nil => exact .stop rest
  | cons item items ih =>
    have hcode : item.itemType.code ≠ 0 := by
      have hitem := htype item (List.mem_cons_self ..)
      revert hitem
      cases item.itemType <;> decide
    have hlen : (utf8 item.value).length = (UInt8.ofNat (utf8 item.value).length).toNat := by
      rw [UInt8.toNat_ofNat']
      exact (Nat.mod_eq_of_lt (hshort item (List.mem_cons_self ..))).symm
    have hcons : (item::items).flatMap SdesItem.layout++0::rest =
        item.itemType.code::UInt8.ofNat (utf8 item.value).length::
          (utf8 item.value++(items.flatMap SdesItem.layout++0::rest)) := by
      rw [List.flatMap_cons, SdesItem.layout]
      simp only [List.cons_append, List.append_assoc]
    rw [hcons]
    exact .item hcode hlen (ih (fun i hi => htype i (List.mem_cons_of_mem _ hi))
      (fun i hi => hshort i (List.mem_cons_of_mem _ hi)))

theorem chunks_layout {chunks : List SdesChunk}
    (h : ∀ chunk ∈ chunks, ∀ item ∈ chunk.items,
      item.itemType ≠ .endOfList ∧ (utf8 item.value).length < 256) (n : ℕ)
    (hn : n ≤ chunks.length) : Chunks n (chunks.flatMap SdesChunk.layout) := by
  induction chunks generalizing n with
  | nil =>
    rw [Nat.le_zero.mp hn]
    exact .done _
  | cons chunk chunks ih =>
    match n with
    | 0 => exact .done _
    | n+1 =>
      have hchunk := h chunk (List.mem_cons_self ..)
      have hwords := chunk_layout_words chunk
      rw [List.flatMap_cons]
      rw [SdesChunk.layout, padWords, List.append_assoc, List.append_assoc, List.append_assoc,
        List.singleton_append]
      refine .chunk (items_layout _ (fun i hi => (hchunk i hi).1) (fun i hi => (hchunk i hi).2))
        ?_ ?_ (ih (fun c hc => h c (List.mem_cons_of_mem _ hc)) n (Nat.le_of_succ_le_succ hn))
      · rw [List.length_replicate]
        omega
      · rw [SdesChunk.layout, padWords_length] at hwords
        simp only [List.length_append, List.length_cons, List.length_replicate, List.length_nil,
          putU32, encode_length]
        omega

inductive PacketKind
  | senderReport
  | receiverReport
  | sourceDescription
  | goodbye
  | nack
  | pli
  | fir
  | remb
  | unknown
deriving DecidableEq

def kind : RtcpPacket → PacketKind
  | .senderReport _ => .senderReport
  | .receiverReport _ => .receiverReport
  | .sourceDescription _ => .sourceDescription
  | .goodbye _ => .goodbye
  | .nack _ => .nack
  | .pli _ => .pli
  | .fir _ => .fir
  | .remb _ => .remb
  | .unknown _ _ => .unknown

def Distinguished (packet : RtcpPacket) : Prop :=
  kind packet ∈ [.senderReport,.receiverReport,.sourceDescription,.goodbye,.remb]

def Fits : RtcpPacket → Prop
  | .senderReport report => report.reportBlocks.length ≤ 31
  | .receiverReport report => report.reportBlocks.length ≤ 31
  | .sourceDescription sdes =>
    (sdes.chunks.flatMap SdesChunk.layout).length/4 < 65536 ∧
      Chunks (min sdes.chunks.length 31) (sdes.chunks.flatMap SdesChunk.layout)
  | .goodbye bye => bye.contentLen/4 < 65536 ∧ LateSourceFits bye
  | _ => True

def Reads (packet read : RtcpPacket) : Prop :=
  ∃ header content, RtcpHeader.parse packet.build = .ok (header,content) ∧
    parsePacket header.packetType.code header.count packet.build = .ok read

theorem Framed.reads_iff {packet read : RtcpPacket} (h : Framed packet.build header content) :
    Reads packet read ↔
      parsePacket header.packetType.code header.count packet.build = .ok read := by
  constructor
  · rintro ⟨header',content',hparse,hread⟩
    rw [h.parse] at hparse
    cases hparse
    exact hread
  · exact fun hread => ⟨header,content,h.parse,hread⟩

theorem mapError_ok_iff {ε ε' α β : Type} {x : Except ε α} {f : ε → ε'} {g : α → β} {b : β} :
    (x.map g).mapError f = .ok b ↔ ∃ a, x = .ok a ∧ g a = b := by
  cases x <;> simp [Except.map, Except.mapError]

/-- A packet is read as one of its kind exactly if the parser of its kind
accepts it. -/
theorem Framed.read_iff {ε α : Type} (packet : RtcpPacket) {x : Except ε α} {f : ε → Text}
    {g : α → RtcpPacket} (h : Framed packet.build header content)
    (hparse : parsePacket header.packetType.code header.count packet.build =
      (x.map g).mapError f) (hkind : ∀ a, kind (g a) = kind packet) :
    (∃ read, Reads packet read ∧ kind read = kind packet) ↔ ∃ a, x = .ok a := by
  simp only [h.reads_iff, hparse, mapError_ok_iff]
  constructor
  · rintro ⟨_,⟨a,ha,_⟩,_⟩
    exact ⟨a,ha⟩
  · rintro ⟨a,ha⟩
    exact ⟨_,⟨a,ha,rfl⟩,hkind a⟩

theorem fits_iff {packet : RtcpPacket} (h : Distinguished packet) :
    Exact packet.build ∧ (∃ read, Reads packet read ∧ kind read = kind packet) ↔ Fits packet := by
  cases packet with
  | senderReport report =>
    obtain ⟨content,hframed,_⟩ := senderReport_framed report
    change Exact report.build ∧ _ ↔ report.reportBlocks.length ≤ 31
    rw [senderReport_exact_iff, and_iff_left_iff_imp]
    exact fun hlen => (Framed.read_iff (.senderReport report) hframed rfl fun _ => rfl).mpr
      ⟨_,parse_senderReport hlen⟩
  | receiverReport report =>
    obtain ⟨content,hframed,_⟩ := receiverReport_framed report
    change Exact report.build ∧ _ ↔ report.reportBlocks.length ≤ 31
    rw [receiverReport_exact_iff, and_iff_left_iff_imp]
    exact fun hlen => (Framed.read_iff (.receiverReport report) hframed rfl fun _ => rfl).mpr
      ⟨_,parse_receiverReport hlen⟩
  | sourceDescription sdes =>
    change Exact sdes.build ∧ _ ↔ _ ∧ _
    rw [sdes_exact_iff, and_congr_right_iff]
    intro hwords
    rw [← sdes_read_iff sdes ((sdes_exact_iff sdes).mpr hwords)]
    exact Framed.read_iff _ (sdes_framed sdes) rfl fun _ => rfl
  | goodbye bye =>
    change Exact bye.build ∧ _ ↔ _ ∧ _
    rw [goodbye_exact_iff, and_congr_right_iff]
    intro hwords
    rw [← goodbye_read_iff bye ((goodbye_exact_iff bye).mpr hwords)]
    exact Framed.read_iff _ (goodbye_framed bye) rfl fun _ => rfl
  | remb message =>
    obtain ⟨tail,hframed,_⟩ := remb_framed message
    obtain ⟨read,hread⟩ := remb_read message
    have hreads : Reads (.remb message) (.remb read) := ⟨_,_,hframed.parse,hread⟩
    exact iff_of_true ⟨remb_exact message,_,hreads,rfl⟩ trivial
  | nack | pli | fir | unknown => simp [Distinguished, kind] at h

theorem distinguished_framed {packet : RtcpPacket} (h : Distinguished packet) :
    ∃ header content, Framed packet.build header content := by
  cases packet with
  | senderReport report =>
    obtain ⟨content,hframed,_⟩ := senderReport_framed report
    exact ⟨_,content,hframed⟩
  | receiverReport report =>
    obtain ⟨content,hframed,_⟩ := receiverReport_framed report
    exact ⟨_,content,hframed⟩
  | sourceDescription sdes => exact ⟨_,_,sdes_framed sdes⟩
  | goodbye bye => exact ⟨_,_,goodbye_framed bye⟩
  | remb message =>
    obtain ⟨tail,hframed,_⟩ := remb_framed message
    exact ⟨_,_,hframed⟩
  | nack | pli | fir | unknown => simp [Distinguished, kind] at h

/-- If every packet is as long as its header says, the rounds of the reader
are the packets. -/
theorem walk_build_iff {packets : List RtcpPacket} (h : ∀ packet ∈ packets, Distinguished packet)
    (hexact : ∀ packet ∈ packets, Exact packet.build) (fuel : ℕ)
    (hfuel : (packets.flatMap RtcpPacket.build).length ≤ fuel)
    (steps : List (Bytes × RtcpPacket)) :
    walk fuel (packets.flatMap RtcpPacket.build) = .ok steps ↔
      List.Forall₂ (fun packet step => step.1 = packet.build ∧ Reads packet step.2)
        packets steps := by
  induction packets generalizing fuel steps with
  | nil =>
    rw [List.flatMap_nil, List.forall₂_nil_left_iff]
    cases fuel <;> exact ⟨fun hw => by cases hw; rfl,fun hs => by rw [hs]; rfl⟩
  | cons packet packets ih =>
    obtain ⟨header,content,hframed⟩ := distinguished_framed (h packet (List.mem_cons_self ..))
    have hhead := hexact packet (List.mem_cons_self ..)
    have hlong : 4 ≤ packet.build.length := by
      rw [hhead]
      omega
    rw [List.flatMap_cons, List.length_append] at hfuel
    obtain ⟨fuel,rfl⟩ : ∃ f, fuel = f+1 := ⟨fuel-1,by omega⟩
    have htail := ih (fun p hp => h p (List.mem_cons_of_mem _ hp))
      (fun p hp => hexact p (List.mem_cons_of_mem _ hp)) fuel (by omega)
    rw [List.flatMap_cons, walk_framed hframed hhead]
    constructor
    · intro hw
      obtain ⟨read,hread,hw⟩ := bind_ok hw
      obtain ⟨steps',hsteps,hw⟩ := bind_ok hw
      cases hw
      exact .cons ⟨rfl,hframed.reads_iff.mpr hread⟩ ((htail steps').mp hsteps)
    · intro hsteps
      cases hsteps with
      | @cons _ step _ steps' hstep hsteps' =>
        rw [hframed.reads_iff.mp hstep.2, (htail steps').mpr hsteps', ← hstep.1]
        rfl

/-- Every packet is as long as its length field says, the reader accepts the
datagram and cuts it at the packets' own boundaries into packets of their
types. -/
def Splits (compound : RtcpCompound) : Prop :=
  (∀ packet ∈ compound.packets, Exact packet.build) ∧
    ∃ steps, walk compound.build.length compound.build = .ok steps ∧
      RtcpCompound.parse compound.build = .ok ⟨steps.map Prod.snd⟩ ∧
      List.Forall₂ (fun packet step => step.1 = packet.build ∧ kind step.2 = kind packet)
        compound.packets steps

theorem exists_forall₂ {α β : Type} {R : α → β → Prop} {xs : List α}
    (h : ∀ x ∈ xs, ∃ y, R x y) : ∃ ys, List.Forall₂ R xs ys := by
  induction xs with
  | nil => exact ⟨[],.nil⟩
  | cons x xs ih =>
    obtain ⟨y,hy⟩ := h x (List.mem_cons_self ..)
    obtain ⟨ys,hys⟩ := ih (fun x' hx' => h x' (List.mem_cons_of_mem _ hx'))
    exact ⟨y::ys,.cons hy hys⟩

/-- A compound is found again exactly if each of its packets fits its header. -/
theorem compound_splits_iff (compound : RtcpCompound)
    (h : ∀ packet ∈ compound.packets, Distinguished packet) :
    Splits compound ↔ ∀ packet ∈ compound.packets, Fits packet := by
  have hread := fun packet hp => fits_iff (h packet hp)
  constructor
  · rintro ⟨hexact,steps,hwalk,_,hkinds⟩ packet hp
    refine (hread packet hp).mp ⟨hexact packet hp,?_⟩
    have hsteps := (walk_build_iff h hexact _ le_rfl steps).mp hwalk
    obtain ⟨i,hi,rfl⟩ := List.mem_iff_getElem.mp hp
    have hlen := hsteps.length_eq
    exact ⟨_,(hsteps.get hi (hlen ▸ hi)).2,(hkinds.get hi (hlen ▸ hi)).2⟩
  · intro hfits
    have hpacket := fun packet hp => (hread packet hp).mpr (hfits packet hp)
    have hexact : ∀ packet ∈ compound.packets, Exact packet.build :=
      fun packet hp => (hpacket packet hp).1
    have hstep : ∀ packet ∈ compound.packets, ∃ step : Bytes × RtcpPacket,
        (step.1 = packet.build ∧ Reads packet step.2) ∧ kind step.2 = kind packet := by
      intro packet hp
      obtain ⟨_,read,hreads,hkind⟩ := hpacket packet hp
      exact ⟨(packet.build,read),⟨rfl,hreads⟩,hkind⟩
    obtain ⟨steps,hsteps⟩ := exists_forall₂ hstep
    have hwalk : walk compound.build.length compound.build = .ok steps :=
      (walk_build_iff h hexact _ le_rfl steps).mpr (hsteps.imp fun _ _ hs => hs.1)
    have hparse : RtcpCompound.parse compound.build = .ok ⟨steps.map Prod.snd⟩ :=
      congrArg (Except.map _) hwalk
    exact ⟨hexact,steps,hwalk,hparse,hsteps.imp fun _ _ hs => ⟨hs.1.1,hs.2⟩⟩

def fittingCompound : RtcpCompound := ⟨[
  .senderReport ⟨12345,⟨1,2⟩,160000,100,16000,[⟨67890,25,10,50000,160,0,0⟩]⟩,
  .sourceDescription (.withCname 12345 "user@host"),
  .remb ⟨12345,0,1000000,[67890]⟩,
  .goodbye ⟨[12345],some "bye"⟩]⟩

theorem fittingCompound_splits : Splits fittingCompound := by
  refine (compound_splits_iff fittingCompound (by simp [fittingCompound, Distinguished,
    kind])).mpr ?_
  have hcname : Fits (.sourceDescription (.withCname 12345 "user@host")) := by
    refine ⟨by decide,chunks_layout ?_ _ (min_le_left _ _)⟩
    simp only [SourceDescription.withCname, List.mem_singleton, forall_eq]
    decide
  have hbye : Fits (.goodbye ⟨[12345],some "bye"⟩) := ⟨by decide,by rintro _ ⟨⟩⟩
  simp only [fittingCompound, List.mem_cons, List.not_mem_nil, or_false, forall_eq_or_imp,
    forall_eq]
  exact ⟨(by decide : 1 ≤ 31),hcname,trivial,hbye⟩

def overfullReport : ReceiverReport :=
  ⟨12345,List.replicate 32 ⟨67890,25,0,50000,160,0,0⟩⟩

/-- With 32 blocks the length field covers 31 of them, and the last block is
taken for a packet of version 0. -/
theorem late_block_misread :
    ¬Exact (RtcpPacket.receiverReport overfullReport).build ∧
      RtcpCompound.parse (RtcpCompound.build ⟨[.receiverReport overfullReport]⟩) =
        .error "invalid RTCP version: 0" := by
  decide +kernel

end RsipRtp.RtcpSplit
