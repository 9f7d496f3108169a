import HttpService.Proofs.Header.Trimmed
import HttpService.Proofs.Target
import HttpService.Proofs.Wire.Scanning

/-!
# Scanning what was written

The head of a message is scanned back from the octets it is written with, whatever follows them.

* `Scan.Reads` — a scanner uses exactly these octets; scanners in sequence read what is written in sequence
  (`Reads.andThen`), and a run reads up to an octet outside its class (`Reads.run`).
* `Head.reads_fieldLines` — lines that fit the count are read back, with their values trimmed.
* `Head.requestHead_written` — a request line and fields are scanned, whatever the target that is carried comes to.
* `Head.reads_requestHead`, `Head.reads_responseHead` — a whole head is read back, with its fields reframed and trimmed.
-/

namespace HttpService

namespace Scan

variable {α β : Type}

/-- The scanner uses these octets and no more, whatever follows. -/
def Reads (s : Scan α) (written : Octets) (a : α) : Prop := ∀ rest, s (written ++ rest) = .done a rest

theorem reads_result (a : α) : Reads (result a) [] a := fun _ => rfl

/-- An octet is read back. -/
theorem reads_next (b : UInt8) : Reads next [b] b := fun _ => rfl

theorem reads_expect (b : UInt8) (fault : MessageFault) : Reads (expect b fault) [b] () := by
  intro rest
  simp [expect]

theorem bind_of_done {s : Scan α} {f : α → Scan β} {bs mid : Octets} {a : α} (h : s bs = .done a mid) :
    (s >>= f) bs = f a mid := andThen_of_done h

/-- What was read is gone, and the scan goes on behind it. -/
theorem Reads.bind {s : Scan α} {w : Octets} {a : α} (hs : Reads s w a) (f : α → Scan β) (rest : Octets) :
    (s >>= f) (w ++ rest) = f a rest := bind_of_done (hs rest)

/-- Texts written one after the other are read back one after the other, and nothing behind them is looked at. -/
theorem Reads.andThen {s : Scan α} {f : α → Scan β} {w w' : Octets} {a : α} {b : β} (hs : Reads s w a)
    (hf : Reads (f a) w' b) : Reads (andThen s f) (w ++ w') b := by
  intro rest
  rw [List.append_assoc, andThen_of_done (hs _)]
  exact hf rest

/-- What is made of the result reads nothing more. -/
theorem Reads.andThen_result {s : Scan α} {w : Octets} {a : α} (hs : Reads s w a) (g : α → β) :
    Reads (Scan.andThen s fun a => result (g a)) w (g a) := by
  intro rest
  rw [andThen_of_done (hs rest)]
  rfl

/-- A run ends before the first octet outside its class, which is read next. -/
theorem Reads.run {p : UInt8 → Bool} {f : Octets → Scan β} {w w' : Octets} {b : UInt8} {c : β}
    (hw : w.all p = true) (hb : p b = false) (hf : Reads (f w) (b :: w') c) :
    Reads (Scan.andThen (run p) f) (w ++ b :: w') c := by
  intro rest
  rw [List.append_assoc, List.cons_append, andThen_of_done (run_append hw hb _)]
  exact hf rest

/-- The line end that is written is one of the two that are read. -/
theorem reads_lineEnd (bare other : MessageFault) : Reads (lineEnd bare other) Encoder.lineEnd () :=
  (reads_next 13).andThen (reads_expect 10 bare)

end Scan

/-- The version as it is written: there are words for two only. -/
def Version.written : Version → Version
  | .http10 => .http10
  | _ => .http11

/-- Of the two versions that the reader knows, each is written as itself. -/
theorem Version.written_eq_self {v : Version} (h : v = .http10 ∨ v = .http11) : v.written = v := by
  rcases h with rfl | rfl
  · rfl
  · rfl

namespace Head

open Scan

/-- An octet of a token is none that is not. -/
theorem ne_of_isToken {b c : UInt8} (hb : Octet.isToken b = true) (hc : Octet.isToken c = false) : b ≠ c := by
  rintro rfl
  rw [hb] at hc
  cases hc

/-! ## The first line -/

/-- No empty line stands before another octet. -/
theorem Reads.skipEmptyLines {α : Type} {f : Unit → Scan α} {w : Octets} {a : α}
    (hw : ∃ b tail, w = b :: tail ∧ b ≠ 10 ∧ b ≠ 13) (hf : Reads (f ()) w a) :
    Reads (andThen skipEmptyLines f) w a := by
  obtain ⟨b, tail, rfl, h10, h13⟩ := hw
  intro rest
  rw [List.cons_append, andThen_of_done (skipEmptyLines_cons h10 h13 _)]
  exact hf rest

/-- A word without the blank is ended by it. -/
theorem reads_word {p : UInt8 → Bool} {w : Octets} (hp : p 32 = false) (hne : w ≠ []) (hw : w.all p = true) :
    Reads (word p) (w ++ [32]) w := by
  refine Reads.run hw hp ((reads_next 32).andThen ?_)
  rw [if_pos (by simpa using hne)]
  exact reads_result w

/-- A target of octets that a target may have is read back as text. -/
theorem reads_targetText {s : String} (hne : octets s ≠ []) (hs : (octets s).all isTargetOctet = true) :
    Reads targetText (octets s ++ [32]) s := by
  intro rest
  show andThen (word isTargetOctet) _ _ = _
  rw [andThen_of_done (reads_word (by decide) hne hs rest)]
  simp only [text?_octets]
  rfl

/-- A version is read back as the one that was written, which is not always the one it was. -/
theorem reads_version (v : Version) : Reads version (octets v.text) v.written := by
  cases v with
  | http10 =>
    intro rest
    rfl
  | _ =>
    intro rest
    rfl

/-- A digit of a status is read back from its character. -/
theorem reads_statusDigit {d : Nat} (h : d < 10) : Reads statusDigit [octet d.digitChar] d := by
  have hnumber := Decimal.toNat_octet_digitChar h
  have hdigit : Octet.isDigit (octet d.digitChar) = true := by
    simp only [Octet.isDigit, Bool.and_eq_true, decide_eq_true_eq, UInt8.le_iff_toNat_le, hnumber]
    exact ⟨Nat.le_add_right 48 d, Nat.add_le_add_left (Nat.le_of_lt_succ h) 48⟩
  intro rest
  show (if Octet.isDigit (octet d.digitChar) then result ((octet d.digitChar).toNat - 48) else fail _) rest = _
  rw [if_pos hdigit, hnumber, Nat.add_sub_cancel_left]
  rfl

/-- Three digits are read back, and no status is longer or shorter than that. -/
theorem reads_statusNumber (s : Status) : Reads statusNumber (octets (Decimal.text s.code)) s.code := by
  obtain ⟨hlow, hhigh⟩ := s.inRange
  -- A status lies between 100 and 999, so it has three digits.
  have hcode : s.code / 100 * 100 + s.code / 10 % 10 * 10 + s.code % 10 = s.code := by omega
  have hread : Reads statusNumber
      ([octet (s.code / 100).digitChar] ++ ([octet (s.code / 10 % 10).digitChar] ++
        ([octet (s.code % 10).digitChar] ++ [])))
      (s.code / 100 * 100 + s.code / 10 % 10 * 10 + s.code % 10) :=
    (reads_statusDigit (by omega)).andThen ((reads_statusDigit (by omega)).andThen
      ((reads_statusDigit (by omega)).andThen (reads_result _)))
  rw [hcode] at hread
  rw [Decimal.octets_text, Decimal.digits_of_hundreds hlow (by omega)]
  exact hread

/-- The phrase is read to the line end and not kept. -/
theorem reads_statusEnd {phrase : Octets} (h : phrase.all Octet.isFieldText = true) :
    Reads statusEnd ([32] ++ (phrase ++ Encoder.lineEnd)) () :=
  (reads_next 32).andThen (Reads.run h (by decide) (reads_lineEnd _ _))

/-! ## Fields -/

/-- A field as it is read off the line it is written on. -/
def Line.ofField (l : FieldName × FieldValue) : Line := ⟨l.1.token, l.2.content.trimBlanks⟩

/-- A token has a first octet, by which a field line is told from the empty line. -/
theorem exists_cons_of_isToken {bs : Octets} (h : bs.isToken = true) :
    ∃ b tail, bs = b :: tail ∧ Octet.isToken b = true ∧ tail.all Octet.isToken = true := by
  cases bs with
  | nil => cases h
  | cons b tail =>
    simp only [Octets.isToken, List.all_cons, Bool.and_eq_true] at h
    exact ⟨b, tail, rfl, h.2⟩

/-- A field's name is written as a token. -/
theorem isToken_token (n : FieldName) : n.token.isToken = true := by
  have hname := n.isName
  simp only [Octets.isFieldName, Bool.and_eq_true] at hname
  exact hname.1.1

/-- The blanks before a value and in front of it end where the rest of it begins, or else with the line. -/
theorem reads_value {f : Octets → Scan Line} {v : FieldValue} {l : Line}
    (hf : Reads (f (v.content.dropWhile Octet.isBlank)) Encoder.lineEnd l) :
    Reads (andThen (run Octet.isBlank) fun _ => andThen (run Octet.isFieldText) f)
      ([32] ++ (v.content ++ Encoder.lineEnd)) l := by
  have htext : (v.content.dropWhile Octet.isBlank).all Octet.isFieldText = true :=
    List.all_eq_true.mpr fun _ hb => List.all_eq_true.mp v.isText _ ((List.dropWhile_suffix _).mem hb)
  have hvalue : Reads (andThen (run Octet.isFieldText) f)
      (v.content.dropWhile Octet.isBlank ++ Encoder.lineEnd) l :=
    Reads.run htext (by decide) hf
  obtain ⟨b, tail, hbegin, hb⟩ : ∃ b tail,
      v.content.dropWhile Octet.isBlank ++ Encoder.lineEnd = b :: tail ∧ Octet.isBlank b = false := by
    -- An empty value ends the blanks too: the line end behind it is none.
    have hnot := List.head?_dropWhile_not Octet.isBlank v.content
    cases hcontent : v.content.dropWhile Octet.isBlank with
    | nil => exact ⟨13, [10], rfl, by decide⟩
    | cons b tail =>
      rw [hcontent] at hnot
      exact ⟨b, tail ++ Encoder.lineEnd, rfl, by simpa using hnot⟩
  have hblanks : ([32] ++ v.content.takeWhile Octet.isBlank).all Octet.isBlank = true := by
    rw [List.all_append, List.all_takeWhile]
    rfl
  have hsplit : [32] ++ (v.content ++ Encoder.lineEnd) =
      ([32] ++ v.content.takeWhile Octet.isBlank) ++ (v.content.dropWhile Octet.isBlank ++ Encoder.lineEnd) := by
    rw [List.append_assoc, ← List.append_assoc (v.content.takeWhile _), List.takeWhile_append_dropWhile]
  rw [hsplit]
  rw [hbegin] at hvalue ⊢
  exact Reads.run hblanks hb hvalue

/-- A field line is read back with the name as it was written and the blanks around the value gone. -/
theorem reads_fieldLine {b : UInt8} {tail : Octets} (v : FieldValue) (hb : Octet.isToken b = true)
    (htail : tail.all Octet.isToken = true) :
    Reads (fieldLine b) (tail ++ octets ": " ++ v.content ++ Encoder.lineEnd) ⟨b :: tail, v.content.trimBlanks⟩ := by
  have hsplit : tail ++ octets ": " ++ v.content ++ Encoder.lineEnd =
      tail ++ octet ':' :: ([32] ++ (v.content ++ Encoder.lineEnd)) := by
    rw [show octets ": " = [octet ':', 32] by decide]
    simp
  have hend : Reads (andThen (lineEnd .badFieldValue .badFieldValue) fun _ =>
      result (⟨b :: tail, Octets.trimBlanks (v.content.dropWhile Octet.isBlank)⟩ : Line)) Encoder.lineEnd
      ⟨b :: tail, v.content.trimBlanks⟩ := by
    rw [Octets.trimBlanks_dropWhile]
    exact (reads_lineEnd _ _).andThen (reads_result _)
  rw [hsplit, fieldLine, if_neg (by simp [hb])]
  exact Reads.run htail (by decide) ((reads_expect (octet ':') _).andThen (reads_value hend))

/-- The lines of fields are read back, up to and with the empty line. -/
theorem reads_fieldLines {slots : Nat} {ls : List (FieldName × FieldValue)} (hslots : ls.length ≤ slots) :
    Reads (fieldLines slots) (ls.flatMap (fun l => Encoder.fieldLine l.1 l.2) ++ Encoder.lineEnd)
      (ls.map Line.ofField) := by
  induction ls generalizing slots with
  | nil =>
    unfold fieldLines
    refine (reads_next 13).andThen ?_
    rw [if_pos (by decide)]
    exact (reads_expect 10 _).andThen (reads_result _)
  | cons l ls ih =>
    obtain ⟨slots, rfl⟩ : ∃ n, slots = n + 1 := ⟨slots - 1, by simp only [List.length_cons] at hslots; omega⟩
    obtain ⟨b, tail, htoken, hb, htail⟩ := exists_cons_of_isToken (isToken_token l.1)
    have hline := reads_fieldLine l.2 hb htail
    have hrest := ih (Nat.le_of_succ_le_succ hslots)
    have hsplit : (l :: ls).flatMap (fun l => Encoder.fieldLine l.1 l.2) ++ Encoder.lineEnd =
        [b] ++ ((tail ++ octets ": " ++ l.2.content ++ Encoder.lineEnd) ++
          (ls.flatMap (fun l => Encoder.fieldLine l.1 l.2) ++ Encoder.lineEnd)) := by
      rw [List.flatMap_cons, Encoder.fieldLine, htoken]
      simp
    rw [hsplit, List.map_cons, Line.ofField, htoken]
    unfold fieldLines
    refine (reads_next b).andThen ?_
    -- The name begins with neither CR nor LF, so the line is no empty one.
    rw [if_neg (by simpa using ne_of_isToken hb (by decide)), if_neg (by simpa using ne_of_isToken hb (by decide))]
    exact hline.andThen (hrest.andThen_result _)

/-- What was read of lines that were written are the fields they make, with their values trimmed. -/
theorem collect_lines (ls : List (FieldName × FieldValue)) :
    collect (ls.map Line.ofField) = .ok (Fields.ofLines (ls.map fun l => (l.1, l.2.trimmed))) := by
  rw [collect, Fields.ofLines]
  -- Onto whatever fields stand before them, the lines add the same.
  generalize Fields.empty = hs
  induction ls generalizing hs with
  | nil => rfl
  | cons l ls ih =>
    have hvalue : FieldValue.ofOctets? l.2.content.trimBlanks = some l.2.trimmed :=
      FieldValue.ofOctets?_content l.2.trimmed
    rw [List.map_cons, List.map_cons, List.foldlM_cons, List.foldl_cons, ← ih]
    simp only [Line.ofField, FieldName.ofOctets?_token, hvalue]
    rfl

/-- The fields of a head are written reframed and read back so, with their values trimmed. -/
theorem reads_written_fields {hs : Fields} (length : Nat)
    (hcount : (hs.lines.filter fun l => !Encoder.isFraming l.1).length + 1 ≤ maxFields) :
    ∃ lines, Reads (fieldLines maxFields) (Encoder.fieldLines hs length) lines ∧
      collect lines = .ok (hs.reframed length).trimmed := by
  refine ⟨(hs.reframed length).lines.map Line.ofField, ?_, ?_⟩
  · rw [Fields.fieldLines_eq]
    refine reads_fieldLines ?_
    rwa [Fields.lines_reframed, List.length_append]
  · rw [collect_lines, ← Fields.lines_trimmed, Fields.ofLines_lines]

end Head

/-! ## Whole heads -/

namespace Encoder

/-- The octets of a request before its body. -/
def requestHead (r : Request) : Octets :=
  r.method.token ++ [32] ++ octets r.target.requestText ++ [32] ++ octets r.version.text ++ lineEnd ++
    fieldLines r.fields (octets r.body).length

/-- The octets of a response before its body. -/
def responseHead (r : Response) : Octets :=
  octets r.version.text ++ [32] ++ octets (Decimal.text r.status.code) ++ [32] ++
    octets (r.status.reason?.getD "") ++ lineEnd ++ fieldLines r.fields (octets r.body).length

theorem request_eq (r : Request) : request r = requestHead r ++ octets r.body := rfl

/-- A response is, too, but one to a `HEAD` request is written without its body. -/
theorem response_eq (r : Response) (m : Method) :
    response r m = responseHead r ++ (if m = .head then [] else octets r.body) := rfl

end Encoder

namespace Head

open Scan

/-- A request line and fields that were written are scanned to the end, and then the target is looked at. -/
theorem requestHead_written {r : Request} (htarget : (octets r.target.requestText).all isTargetOctet = true)
    (hne : octets r.target.requestText ≠ [])
    (hcount : (r.fields.lines.filter fun l => !Encoder.isFraming l.1).length + 1 ≤ maxFields) (rest : Octets) :
    requestHead (Encoder.requestHead r ++ rest) =
      match Target.parse r.target.requestText with
      | .ok target =>
        .done ⟨r.method, target, r.version.written, (r.fields.reframed (octets r.body).length).trimmed⟩ rest
      | .error fault => .failed (.badTarget fault) := by
  obtain ⟨lines, hlines, hcollect⟩ := reads_written_fields (octets r.body).length hcount
  obtain ⟨b, tail, htoken, hb, htail⟩ := exists_cons_of_isToken r.method.isToken
  have hmethod : Method.ofOctets? r.method.token = some r.method := Method.ofOctets?_eq_some_iff.mpr rfl
  -- The method is a token, so it ends at the blank behind it.
  have hword : Reads (word Octet.isToken) (r.method.token ++ [32]) r.method.token := by
    refine reads_word (by decide) (by simp [htoken]) ?_
    rw [htoken, List.all_cons, hb, htail]
    rfl
  have hwritten : Encoder.requestHead r ++ rest =
      (r.method.token ++ [32]) ++ ((octets r.target.requestText ++ [32]) ++ (octets r.version.text ++
        (Encoder.lineEnd ++ (Encoder.fieldLines r.fields (octets r.body).length ++ rest)))) := by
    simp [Encoder.requestHead]
  have hskip : skipEmptyLines (Encoder.requestHead r ++ rest) = .done () (Encoder.requestHead r ++ rest) := by
    rw [hwritten, htoken]
    exact skipEmptyLines_cons (ne_of_isToken hb (by decide)) (ne_of_isToken hb (by decide)) _
  rw [requestHead, bind_of_done hskip, hwritten, (hword.bind _), (reads_targetText hne htarget).bind,
    (reads_version r.version).bind, (reads_lineEnd _ _).bind, hlines.bind, hmethod, hcollect]
  -- All octets are read by now, and what is left is what the target says.
  cases Target.parse r.target.requestText with
  | ok target => rfl
  | error fault => rfl

/-- What is carried of a target is read as this target. -/
theorem reads_requestHead {r : Request} {target : Target} (hparse : Target.parse r.target.requestText = .ok target)
    (htarget : (octets r.target.requestText).all isTargetOctet = true) (hne : octets r.target.requestText ≠ [])
    (hcount : (r.fields.lines.filter fun l => !Encoder.isFraming l.1).length + 1 ≤ maxFields) :
    Reads requestHead (Encoder.requestHead r)
      ⟨r.method, target, r.version.written, (r.fields.reframed (octets r.body).length).trimmed⟩ := by
  intro rest
  rw [requestHead_written htarget hne hcount, hparse]

/-- The phrases that are written are all of octets that a phrase may have. -/
theorem isFieldText_reason (s : Status) : (octets (s.reason?.getD "")).all Octet.isFieldText = true := by
  have hphrases : ∀ p ∈ Status.phrases, (octets p.2).all Octet.isFieldText = true := by decide +kernel
  cases hreason : s.reason? with
  | none => decide
  | some phrase =>
    obtain ⟨before, after, hmem, -⟩ := List.lookup_eq_some_iff.mp hreason
    exact hphrases (s.code, phrase) (by simp [hmem])

/-- The head of a response is read back: its status, its version as written, and its fields with the framing that the
writer gave them. -/
theorem reads_responseHead {r : Response}
    (hcount : (r.fields.lines.filter fun l => !Encoder.isFraming l.1).length + 1 ≤ maxFields) :
    Reads responseHead (Encoder.responseHead r)
      ⟨r.status, r.version.written, (r.fields.reframed (octets r.body).length).trimmed⟩ := by
  obtain ⟨lines, hlines, hcollect⟩ := reads_written_fields (octets r.body).length hcount
  have hstatus : Status.ofNat? r.status.code = some r.status := dif_pos r.status.inRange
  -- Once all lines are read, what they mean is settled without another octet.
  have hmeaning : Reads (do
      let status ← settle ((Status.ofNat? r.status.code).elim (.error .statusOutOfRange) .ok)
      let fields ← settle (collect lines)
      return (⟨status, r.version.written, fields⟩ : ResponseHead)) []
      ⟨r.status, r.version.written, (r.fields.reframed (octets r.body).length).trimmed⟩ := by
    rw [hstatus, hcollect]
    exact fun _ => rfl
  have hwritten : Encoder.responseHead r =
      octets r.version.text ++ ([32] ++ (octets (Decimal.text r.status.code) ++
        (([32] ++ (octets (r.status.reason?.getD "") ++ Encoder.lineEnd)) ++
          (Encoder.fieldLines r.fields (octets r.body).length ++ [])))) := by
    simp [Encoder.responseHead]
  -- The head begins with a letter, so no empty line is skipped in front of it.
  have hbegin : ∃ tail, octets r.version.text = octet 'H' :: tail := by
    cases r.version with
    | _ => exact ⟨_, rfl⟩
  obtain ⟨tail, htail⟩ := hbegin
  rw [hwritten]
  refine Reads.skipEmptyLines ⟨octet 'H', _, by rw [htail]; rfl, by decide, by decide⟩ ?_
  exact (reads_version r.version).andThen ((reads_expect 32 _).andThen ((reads_statusNumber r.status).andThen
    ((reads_statusEnd (isFieldText_reason r.status)).andThen (hlines.andThen hmeaning))))

end Head

end HttpService
