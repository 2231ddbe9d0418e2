import Synopsis.Proofs.Source
import Synopsis.Proofs.Text.Encoding
import Synopsis.Proofs.Text.Mixed

namespace Synopsis

namespace Text

variable {cs : List Rune} {accepts : Rune → Bool}

theorem lfOfAny_crlfOfLf (h : ('\r' : Rune) ∉ cs) : lfOfAny (crlfOfLf cs) = cs := by
  induction cs with
  | nil => rfl
  | cons c r ih =>
    simp only [List.mem_cons, not_or] at h
    have htail := ih h.2
    by_cases hc : c = '\n'
    · rw [hc, crlfOfLf_cons_lf, lfOfAny, htail]
    · rw [crlfOfLf_cons_of_ne r hc, lfOfAny, if_neg (Ne.symm h.1), htail]
      rintro t rfl
      exact absurd rfl h.1

theorem length_crlfOfLf (cs : List Rune) :
    (crlfOfLf cs).length = cs.length + cs.count (.char '\n') := by
  induction cs with
  | nil => rfl
  | cons c r ih =>
    by_cases hc : c = '\n'
    · rw [hc, crlfOfLf_cons_lf, List.length_cons, List.length_cons, List.length_cons, ih,
        List.count_cons_self]
      omega
    · rw [crlfOfLf_cons_of_ne r hc, List.length_cons, List.length_cons, ih,
        List.count_cons_of_ne hc]
      omega

section

variable (hlf : accepts '\n' = true) (hreturn : accepts '\r' = true)

include hlf hreturn

theorem takeWhile_crlfOfLf (cs : List Rune) :
    (crlfOfLf cs).takeWhile accepts = crlfOfLf (cs.takeWhile accepts) := by
  induction cs with
  | nil => rfl
  | cons c r ih =>
    by_cases hc : c = '\n'
    · rw [hc, crlfOfLf_cons_lf, List.takeWhile_cons_of_pos hreturn,
        List.takeWhile_cons_of_pos hlf, List.takeWhile_cons_of_pos hlf, crlfOfLf_cons_lf, ih]
    · cases haccepts : accepts c with
      | true =>
        rw [crlfOfLf_cons_of_ne r hc, List.takeWhile_cons_of_pos haccepts,
          List.takeWhile_cons_of_pos haccepts, crlfOfLf_cons_of_ne _ hc, ih]
      | false =>
        have hnot : ¬ accepts c = true := by simp [haccepts]
        rw [crlfOfLf_cons_of_ne r hc, List.takeWhile_cons_of_neg hnot,
          List.takeWhile_cons_of_neg hnot]
        rfl

theorem dropWhile_crlfOfLf (cs : List Rune) :
    (crlfOfLf cs).dropWhile accepts = crlfOfLf (cs.dropWhile accepts) := by
  induction cs with
  | nil => rfl
  | cons c r ih =>
    by_cases hc : c = '\n'
    · rw [hc, crlfOfLf_cons_lf, List.dropWhile_cons_of_pos hreturn,
        List.dropWhile_cons_of_pos hlf, List.dropWhile_cons_of_pos hlf, ih]
    · cases haccepts : accepts c with
      | true =>
        rw [crlfOfLf_cons_of_ne r hc, List.dropWhile_cons_of_pos haccepts,
          List.dropWhile_cons_of_pos haccepts, ih]
      | false => simp [crlfOfLf_cons_of_ne r hc, haccepts]

end

/-- A run of characters that are no line breaks ends before the first pair. -/
theorem takeWhile_crlfOfLf_of_not {meant : Rune → Bool} (hlf : meant '\n' = false)
    (hreturn : meant '\r' = false) (cs : List Rune) :
    (crlfOfLf cs).takeWhile meant = cs.takeWhile meant := by
  induction cs with
  | nil => rfl
  | cons c r ih =>
    by_cases hc : c = '\n'
    · simp [hc, crlfOfLf_cons_lf, hlf, hreturn]
    · cases hmeant : meant c <;> simp [crlfOfLf_cons_of_ne r hc, hmeant, ih]

/-- What is wrong with a text, once it is written with pairs. -/
def EncodingFault.behindPairs (f : EncodingFault) (s : Text) : EncodingFault :=
  { f with position := f.position + (s.toList.take f.position).count (.char '\n') }

/-- What is wrong with the one text is wrong with the other, further on by the returns in front of
it. -/
theorem Encoding.fault?_pairs (e : Encoding) (s : Text) :
    e.fault? (LineBreak.crlf.apply s) = (e.fault? s).map (·.behindPairs s) := by
  have hlf : e.holds '\n' = true := by cases e <;> decide
  have hreturn : e.holds '\r' = true := by cases e <;> decide
  have hbehind (cs : List Rune) :
      (crlfOfLf cs).takeWhile e.faultyBehind = cs.takeWhile e.faultyBehind :=
    takeWhile_crlfOfLf_of_not (by cases e <;> decide) (by cases e <;> decide) cs
  have hdrop := dropWhile_crlfOfLf hlf hreturn s.toList
  rw [Encoding.fault?, Encoding.fault?, LineBreak.apply, Text.toList_ofList,
    takeWhile_crlfOfLf hlf hreturn, hdrop]
  cases hrest : s.toList.dropWhile e.holds with
  | nil => rfl
  | cons c r =>
    have hnot : e.holds c = false := by
      have hhead := List.head?_dropWhile_not e.holds s.toList
      simpa [hrest] using hhead
    have hc : c ≠ '\n' := by
      rintro rfl
      simp [hlf] at hnot
    have htake : s.toList.take (s.toList.takeWhile e.holds).length =
        s.toList.takeWhile e.holds := by
      conv_lhs =>
        enter [2]
        rw [← List.takeWhile_append_dropWhile (p := e.holds) (l := s.toList)]
      rw [List.take_left]
    simp only [crlfOfLf_cons_of_ne r hc, Option.map_some, EncodingFault.behindPairs, htake,
      length_crlfOfLf, hbehind]

end Text

namespace Source

open Text

variable {raw : Text}

/-- The same lines, written with pairs. -/
def withPairs (s : Source) : Source := { s with lineBreak := .crlf }

theorem text_withPairs {s : Source} (h : s.lineBreak = .lf) :
    s.withPairs.text = LineBreak.crlf.apply s.text := by
  rw [text, text, h]
  rfl

theorem annotate_withPairs (d : Dialect) (summary : Text) (s : Source) :
    s.withPairs.annotate d summary = (s.annotate d summary).withPairs := rfl

theorem strip?_withPairs (d : Dialect) (s : Source) :
    s.withPairs.strip? d = (s.strip? d).map withPairs := by
  simp only [strip?, withPairs, Option.map_map]
  rfl

theorem ofText_of_plain (h : ('\r' : Rune) ∉ raw.toList) : ofText raw = ⟨splitLines raw, .lf⟩ := by
  have hbreak : LineBreak.ofText raw = .lf := by
    simp [LineBreak.ofText, hasCrlf_of_return_not_mem h]
  simp [ofText, hbreak, LineBreak.undo]

theorem ofText_pairs (hlf : ('\n' : Rune) ∈ raw.toList) (hreturn : ('\r' : Rune) ∉ raw.toList) :
    ofText (LineBreak.crlf.apply raw) = (ofText raw).withPairs := by
  have hbreak : LineBreak.ofText (LineBreak.crlf.apply raw) = .crlf := by
    simp [LineBreak.ofText, LineBreak.apply, hasCrlf_crlfOfLf_iff.mpr hlf]
  rw [ofText_of_plain hreturn, ofText, hbreak]
  simp [LineBreak.undo, LineBreak.apply, lfOfCrlf_crlfOfLf, withPairs]

end Source

end Synopsis
