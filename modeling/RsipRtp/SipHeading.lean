import RsipRtp.SipRoundTrip

/-!
# The heading of a message and its body

Two messages with the same head are read with the same start line and the same
headers when the cut between head and body is found at the same place.
-/

namespace RsipRtp.SipHeading
open SipText SipHeader SipFraming SipRoundTrip LineFraming Utf8
open SipMessage hiding Message

def crlfBlank : Bytes := [13,10,13,10]
def lfBlank : Bytes := [10,10]

inductive Separator : Bytes → Prop
  | crlf : Separator crlfBlank
  | lf : Separator lfBlank

def Settled (sep body : Bytes) : Prop := sep = lfBlank → ¬crlfBlank <:+: body

section Cut

variable {sep : Bytes}

theorem findSeparator_crlf (head : Bytes) :
    ∃ before after, ∀ body,
      findSeparator (head++crlfBlank++body) = some (before,after++body) := by
  obtain ⟨⟨before,after⟩,hsplit⟩ := Option.isSome_iff_exists.mp (splitAtFirst_isSome crlfBlank head)
  refine ⟨before,after,fun body => ?_⟩
  have hbody : splitAtFirst [13,10,13,10] (head++crlfBlank++body) = _ :=
    splitAtFirst_append body hsplit
  rw [findSeparator, hbody]
  rfl

theorem findSeparator_lf (head : Bytes) :
    ∃ before after, ∀ body, Settled lfBlank body →
      findSeparator (head++lfBlank++body) = some (before,after++body) := by
  have hfeeds : ∀ body, head++lfBlank++body = head++[10]++10::body := fun body => by
    simp [lfBlank]
  -- a CRLF CRLF that ends with the first of the two line feeds is found before any body
  rcases hcrlf : splitAtFirst [13,10,13,10] (head++[10]) with _ | ⟨before,after⟩
  · obtain ⟨⟨before,after⟩,hsplit⟩ := Option.isSome_iff_exists.mp (splitAtFirst_isSome lfBlank head)
    refine ⟨before,after,fun body hbody => ?_⟩
    have hnone : splitAtFirst [13,10,13,10] (head++10::10::body) = none :=
      splitAtFirst_feeds (by decide) hcrlf (splitAtFirst_eq_none.mpr (hbody rfl))
    have hfound : splitAtFirst [10,10] (head++lfBlank++body) = _ :=
      splitAtFirst_append body hsplit
    rw [findSeparator, hfound, hfeeds, List.append_assoc]
    exact congrArg (Option.or · _) hnone
  · refine ⟨before,after++[10],fun body _ => ?_⟩
    rw [findSeparator, hfeeds, splitAtFirst_append (10::body) hcrlf]
    simp

theorem findSeparator_settled (head : Bytes) (hsep : Separator sep) :
    ∃ before after, ∀ body, Settled sep body →
      findSeparator (head++sep++body) = some (before,after++body) := by
  cases hsep with
  | crlf =>
    obtain ⟨before,after,hcut⟩ := findSeparator_crlf head
    exact ⟨before,after,fun body _ => hcut body⟩
  | lf => exact findSeparator_lf head

theorem firstLineBytes_append (head body : Bytes) (hsep : Separator sep) :
    firstLineBytes (head++sep++body) = firstLineBytes (head++sep) := by
  obtain ⟨b,tail,hb,htail⟩ : ∃ b tail, (b != 13 && b != 10) = false ∧ sep = b::tail := by
    cases hsep with
    | crlf => exact ⟨13,[10,13,10],rfl,rfl⟩
    | lf => exact ⟨10,[10],rfl,rfl⟩
  subst htail
  induction head with
  | nil => simp [firstLineBytes, hb]
  | cons x xs ih =>
    unfold firstLineBytes at *
    rw [List.cons_append, List.cons_append, List.takeWhile_cons, List.takeWhile_cons, ih]

end Cut

section Headings

def startLineOf : Message → (Method × Text × Text) ⊕ (Text × ℕ × Text)
  | .request r => .inl (r.method,r.uri,r.version)
  | .response r => .inr (r.version,r.statusCode,r.reason)

def heading (m : Message) : ((Method × Text × Text) ⊕ (Text × ℕ × Text)) × Headers :=
  (startLineOf m,headersOf m)

variable {data data' before after after' : Bytes}

theorem splitMessage_cut (hcut : findSeparator data = some (before,after))
    (hcut' : findSeparator data' = some (before,after')) :
    (splitMessage data).map (fun p => (p.1,p.2.1)) =
      (splitMessage data').map (fun p => (p.1,p.2.1)) := by
  simp only [splitMessage, hcut, hcut']
  cases fromUtf8 before with
  | error e => rfl
  | ok head =>
    dsimp only
    split_ifs <;> rfl

theorem parseRequest_heading (data : Bytes) :
    (parseRequest data).map (fun r => heading (.request r)) =
      ((splitMessage data).map (fun p => (p.1,p.2.1))).bind (fun p =>
        (parseRequestLine p.1).bind (fun line =>
          (parseHeaderBlock p.2).map (fun headers => (.inl line,headers)))) := by
  unfold parseRequest
  cases splitMessage data with
  | error e => rfl
  | ok parts =>
    simp only [bind, Except.bind, Except.map]
    cases parseRequestLine parts.1 with
    | error e => rfl
    | ok line =>
      dsimp only
      cases parseHeaderBlock parts.2.1 <;> rfl

theorem parseResponse_heading (data : Bytes) :
    (parseResponse data).map (fun r => heading (.response r)) =
      ((splitMessage data).map (fun p => (p.1,p.2.1))).bind (fun p =>
        (parseStatusLine p.1).bind (fun line =>
          (parseHeaderBlock p.2).map (fun headers => (.inr line,headers)))) := by
  unfold parseResponse
  cases splitMessage data with
  | error e => rfl
  | ok parts =>
    simp only [bind, Except.bind, Except.map]
    cases parseStatusLine parts.1 with
    | error e => rfl
    | ok line =>
      dsimp only
      cases parseHeaderBlock parts.2.1 <;> rfl

theorem parse_heading (data : Bytes) :
    (Message.parse data).map heading =
      if utf8 "SIP/" <+: firstLineBytes data then
        (parseResponse data).map (fun r => heading (.response r))
      else (parseRequest data).map (fun r => heading (.request r)) := by
  rw [Message.parse]
  split_ifs
  · cases parseResponse data <;> rfl
  · cases parseRequest data <;> rfl

/-- Two messages that differ in their bodies only have the same start line
and the same headers, or are refused with the same error. -/
theorem heading_independent {sep body body' : Bytes} (head : Bytes) (hsep : Separator sep)
    (hbody : Settled sep body) (hbody' : Settled sep body') :
    (Message.parse (head++sep++body)).map heading =
        (Message.parse (head++sep++body')).map heading ∧
      (parseRequest (head++sep++body)).map (fun r => heading (.request r)) =
        (parseRequest (head++sep++body')).map (fun r => heading (.request r)) ∧
      (parseResponse (head++sep++body)).map (fun r => heading (.response r)) =
        (parseResponse (head++sep++body')).map (fun r => heading (.response r)) := by
  obtain ⟨before,after,hcut⟩ := findSeparator_settled head hsep
  have hsplit := splitMessage_cut (hcut body hbody) (hcut body' hbody')
  have hrequest : (parseRequest (head++sep++body)).map (fun r => heading (.request r)) =
      (parseRequest (head++sep++body')).map (fun r => heading (.request r)) := by
    rw [parseRequest_heading, parseRequest_heading, hsplit]
  have hresponse : (parseResponse (head++sep++body)).map (fun r => heading (.response r)) =
      (parseResponse (head++sep++body')).map (fun r => heading (.response r)) := by
    rw [parseResponse_heading, parseResponse_heading, hsplit]
  refine ⟨?_,hrequest,hresponse⟩
  rw [parse_heading, parse_heading, firstLineBytes_append head body hsep,
    firstLineBytes_append head body' hsep, hrequest, hresponse]

def feedHead : Bytes := utf8 "OPTIONS sip:a@b SIP/2.0\nTo: x"

/-- Two CRLF messages with different bodies, one of which has a blank line of
either kind in it. -/
theorem options_heading_independent :
    (Message.parse (feedHead++crlfBlank++utf8 "\n\nA: b\r\n\r\n")).map heading =
        (Message.parse (feedHead++crlfBlank++[])).map heading ∧
      (parseRequest (feedHead++crlfBlank++utf8 "\n\nA: b\r\n\r\n")).map
          (fun r => heading (.request r)) =
        (parseRequest (feedHead++crlfBlank++[])).map (fun r => heading (.request r)) ∧
      (parseResponse (feedHead++crlfBlank++utf8 "\n\nA: b\r\n\r\n")).map
          (fun r => heading (.response r)) =
        (parseResponse (feedHead++crlfBlank++[])).map (fun r => heading (.response r)) :=
  heading_independent feedHead Separator.crlf (fun h => absurd h (by decide))
    (fun h => absurd h (by decide))

/-- Behind two line feeds a line of the body becomes a header. -/
theorem body_line_becomes_header :
    (¬crlfBlank <:+: feedHead ∧ ¬lfBlank <:+: feedHead) ∧ Separator lfBlank ∧
      (Message.parse (feedHead++lfBlank++[])).toOption.map (fun m => (headersOf m).inner) =
        some [.to "x"] ∧
      (Message.parse (feedHead++lfBlank++utf8 "A: b\r\n\r\n")).toOption.map
          (fun m => (headersOf m).inner) =
        some [.to "x",.other "A" "b"] :=
  ⟨by decide +kernel,Separator.lf,by decide +kernel,by decide +kernel⟩

end Headings

end RsipRtp.SipHeading
