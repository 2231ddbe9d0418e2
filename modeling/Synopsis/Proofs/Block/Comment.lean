import Synopsis.Proofs.Block.Placing
import Synopsis.Source

namespace Synopsis

namespace Text

def LineBreak.chars : LineBreak → List Rune
  | .lf => [.char '\n']
  | .crlf => [.char '\r', .char '\n']

theorem LineBreak.toList_apply (br : LineBreak) (s : Text) :
    (br.apply s).toList = s.toList.flatMap fun c : Rune => if c = '\n' then br.chars else [c] := by
  cases br with
  | lf =>
    have hid : (fun c : Rune => if c = '\n' then [.char '\n'] else [c]) = fun c => [c] := by
      funext c
      split <;> simp_all
    simp only [apply, chars]
    rw [hid, List.flatMap_singleton']
  | crlf => simp [apply, chars, crlfOfLf]

theorem flatMap_break_of_not_mem {br : LineBreak} {cs : List Rune} (h : ('\n' : Rune) ∉ cs) :
    (cs.flatMap fun c : Rune => if c = '\n' then br.chars else [c]) = cs := by
  induction cs with
  | nil => rfl
  | cons c r ih =>
    simp only [List.mem_cons, not_or] at h
    rw [List.flatMap_cons, ih h.2, if_neg (Ne.symm h.1), List.singleton_append]

theorem joinChars_append {sep : Rune} {a b : List (List Rune)} (ha : a ≠ []) (hb : b ≠ []) :
    joinChars sep (a ++ b) = joinChars sep a ++ sep :: joinChars sep b := by
  induction a with
  | nil => exact absurd rfl ha
  | cons l ls ih =>
    cases ls with
    | nil =>
      cases b with
      | nil => exact absurd rfl hb
      | cons m ms => simp [joinChars]
    | cons n ns =>
      have htail := ih (by simp)
      simp only [List.cons_append] at htail ⊢
      simp [joinChars, htail]

theorem joinChars_infix {sep : Rune} {a b : List (List Rune)} (h : a <:+: b) (ha : a ≠ []) :
    joinChars sep a <:+: joinChars sep b := by
  obtain ⟨front, rest, rfl⟩ := h
  have hfront : joinChars sep a <:+ joinChars sep (front ++ a) := by
    cases front with
    | nil => exact List.suffix_rfl
    | cons l ls =>
      rw [joinChars_append (by simp) ha]
      exact (List.suffix_cons _ _).trans (List.suffix_append _ _)
  cases rest with
  | nil => simpa using hfront.isInfix
  | cons l ls =>
    rw [joinChars_append (by simp [ha]) (by simp)]
    exact hfront.isInfix.trans (List.prefix_append _ _).isInfix

/-- Lines with something put in front of each. -/
theorem joinChars_map_append_splitChars (sep : Rune) (front cs : List Rune) :
    joinChars sep ((splitChars sep cs).map (front ++ ·)) =
      front ++ cs.flatMap fun c => if c = sep then sep :: front else [c] := by
  induction cs with
  | nil => simp [splitChars, joinChars]
  | cons c r ih =>
    unfold splitChars
    cases hs : splitChars sep r with
    | nil => exact absurd hs (splitChars_ne_nil sep r)
    | cons l ls =>
      rw [hs] at ih
      by_cases hc : c = sep
      · simp only [hc, if_true, List.map_cons, List.flatMap_cons, List.append_nil] at ih ⊢
        rw [joinChars, ih]
        · simp
        · simp
      · simp only [hc, if_false, List.map_cons, List.flatMap_cons] at ih ⊢
        cases ls with
        | nil => simpa [joinChars] using ih
        | cons m ms => simpa [joinChars] using ih

end Text

namespace Block

open Text (LineBreak)

/-- A block as it is written to a file. -/
def written (br : LineBreak) (d : Dialect) (summary : Text) : List Rune :=
  (br.apply (Text.joinLines (compose d summary))).toList

/-- A summary with the indent behind each of its line breaks. -/
def spread (br : LineBreak) (indent cs : List Rune) : List Rune :=
  cs.flatMap fun c : Rune => if c = '\n' then br.chars ++ indent else [c]

theorem spread_lf (br : LineBreak) (indent r : List Rune) :
    spread br indent (.char '\n' :: r) = br.chars ++ indent ++ spread br indent r := by
  simp [spread]

theorem spread_cons (br : LineBreak) (indent r : List Rune) {c : Rune} (h : c ≠ '\n') :
    spread br indent (c :: r) = c :: spread br indent r := by
  simp [spread, h]

theorem written_eq {d : Dialect} (hd : d.Lawful) (br : LineBreak) (summary : Text) :
    written br d summary = d.header.toList ++ br.chars ++ (d.indent.toList ++
      spread br d.indent.toList summary.toList ++ (br.chars ++ d.footer.toList)) := by
  have hparts (part : Text) (h : part ∈ [d.header, d.footer, d.indent]) :
      (part.toList.flatMap fun c : Rune => if c = '\n' then br.chars else [c]) = part.toList :=
    Text.flatMap_break_of_not_mem (hd.plain part h).1
  have hbreak (c : Rune) :
      ((if c = '\n' then .char '\n' :: d.indent.toList else [c]).flatMap fun c : Rune =>
        if c = '\n' then br.chars else [c]) =
          if c = '\n' then br.chars ++ d.indent.toList else [c] := by
    by_cases hc : c = '\n'
    · simp only [hc, if_true, List.flatMap_cons, hparts d.indent (by simp)]
    · simp [hc]
  have hlines : (compose d summary).map Text.toList = [d.header.toList] ++
      ((Text.splitChars '\n' summary.toList).map (d.indent.toList ++ ·) ++ [d.footer.toList]) := by
    simp [compose, Text.splitLines, Function.comp_def]
  rw [written, LineBreak.toList_apply, Text.joinLines, Text.toList_ofList, hlines,
    Text.joinChars_append (by simp) (by simp),
    Text.joinChars_append (by simp [Text.splitChars_ne_nil]) (by simp),
    Text.joinChars_map_append_splitChars]
  simp only [Text.joinChars, List.flatMap_append, List.flatMap_cons, if_true, List.flatMap_assoc,
    hparts d.header (by simp), hparts d.footer (by simp), hparts d.indent (by simp), hbreak, spread,
    List.append_assoc]

/-- What follows the first end of a comment. -/
def afterClosing? : List Rune → Option (List Rune)
  | [] => none
  | .char '*' :: .char '/' :: r => some r
  | _ :: r => afterClosing? r

/-- One comment from the first character to the last. -/
def isScriptComment : List Rune → Bool
  | .char '/' :: .char '*' :: r => afterClosing? r = some []
  | _ => false

theorem afterClosing?_cons_of_ne {c : Rune} {r : List Rune}
    (h : c ≠ '*' ∨ r.head? ≠ some (.char '/')) :
    afterClosing? (c :: r) = afterClosing? r := by
  rw [afterClosing?]
  rintro t rfl rfl
  simp at h

/-- Nothing that starts in front of these characters ends a comment behind them. -/
theorem afterClosing?_append {a b : List Rune} (hb : b.head? ≠ some (.char '/')) :
    afterClosing? (a ++ b) = match afterClosing? a with
      | some r => some (r ++ b)
      | none => afterClosing? b := by
  fun_induction afterClosing? a with
  | case1 => simp
  | case2 r => simp [afterClosing?]
  | case3 c r h ih =>
    rw [List.cons_append, afterClosing?_cons_of_ne, ih]
    by_cases hc : c = '*'
    · refine .inr ?_
      cases r with
      | nil => simpa using hb
      | cons d t =>
        intro hd
        have hslash : d = '/' := by simpa using hd
        exact h t hc (by rw [hslash])
    · exact .inl hc

theorem afterClosing?_eq_none_iff {cs : List Rune} :
    afterClosing? cs = none ↔ ¬ [.char '*', .char '/'] <:+: cs := by
  fun_induction afterClosing? cs with
  | case1 => simp
  | case2 r => simp [List.infix_cons_iff]
  | case3 c r h ih =>
    have hstart : ¬ [.char '*', .char '/'] <+: c :: r := by
      rintro ⟨t, ht⟩
      simp only [List.cons_append, List.nil_append, List.cons.injEq] at ht
      exact h t ht.1.symm ht.2.symm
    simp [List.infix_cons_iff, hstart, ih]

theorem afterClosing?_skip {front : List Rune} (h : ∀ c ∈ front, c ≠ '*') (r : List Rune) :
    afterClosing? (front ++ r) = afterClosing? r := by
  induction front with
  | nil => rfl
  | cons c t ih =>
    rw [List.cons_append, afterClosing?_cons_of_ne (.inl (h c (by simp)))]
    exact ih fun x hx => h x (List.mem_cons_of_mem _ hx)

theorem head?_spread_eq_slash {br : LineBreak} {indent cs : List Rune} :
    (spread br indent cs).head? = some (.char '/') ↔ cs.head? = some (.char '/') := by
  cases cs with
  | nil => simp [spread]
  | cons c r =>
    by_cases hc : c = '\n'
    · rw [hc, spread_lf]
      cases br <;> simp [LineBreak.chars]
    · rw [spread_cons _ _ _ hc]
      simp

/-- An indent of blanks brings no end of a comment with it. -/
theorem afterClosing?_spread {br : LineBreak} {indent : List Rune} (hi : ∀ c ∈ indent, c = ' ')
    (cs : List Rune) : afterClosing? (spread br indent cs) = none ↔ afterClosing? cs = none := by
  have hfront : ∀ c ∈ br.chars ++ indent, c ≠ '*' := by
    intro c hc
    rcases List.mem_append.mp hc with hc | hc
    · rintro rfl
      cases br <;> simp [LineBreak.chars] at hc
    · rw [hi c hc]
      decide
  induction cs with
  | nil => rfl
  | cons c r ih =>
    by_cases hc : c = '\n'
    · rw [hc, spread_lf, afterClosing?_skip hfront, afterClosing?_cons_of_ne (.inl (by decide))]
      exact ih
    rw [spread_cons _ _ _ hc]
    by_cases hend : c = '*' ∧ r.head? = some (.char '/')
    · -- the end of a comment, before the indent and behind it
      have hsome (t : List Rune) (ht : t.head? = some (.char '/')) :
          afterClosing? (.char '*' :: t) ≠ none := by
        cases t with
        | nil => simp at ht
        | cons d u =>
          obtain rfl : d = '/' := by simpa using ht
          simp [afterClosing?]
      rw [hend.1]
      exact iff_of_false (hsome _ (head?_spread_eq_slash.mpr hend.2)) (hsome _ hend.2)
    · have hopen : c ≠ '*' ∨ r.head? ≠ some (.char '/') := by
        by_cases hstar : c = '*'
        · exact .inr fun hslash => hend ⟨hstar, hslash⟩
        · exact .inl hstar
      have hspread : c ≠ '*' ∨ (spread br indent r).head? ≠ some (.char '/') :=
        hopen.imp_right fun hr => mt head?_spread_eq_slash.mp hr
      rw [afterClosing?_cons_of_ne hspread, afterClosing?_cons_of_ne hopen]
      exact ih

/-- Every line starts with the mark, whichever line break ends the one before. -/
def isHashComment (cs : List Rune) : Bool :=
  (Text.splitChars '\n' (Text.lfOfAny cs)).all fun l => l.head? = some (.char '#')

/-- Behind every line break there is the mark. -/
def breaksMarked : List Rune → Bool
  | [] => true
  | .char '\r' :: .char '\n' :: r => r.head? = some (.char '#') && breaksMarked r
  | c :: r => (c ≠ '\r' && c ≠ '\n' || r.head? = some (.char '#')) && breaksMarked r

/-- Carriage returns of a summary that do no harm: there is a mark behind them already, or they make
a pair with a line feed. -/
def ReturnsMarked (br : LineBreak) (cs : List Rune) : Prop :=
  ∀ a b, cs = a ++ .char '\r' :: b →
    b.head? = some (.char '#') ∨ br = .lf ∧ (b = [] ∨ b.head? = some (.char '\n'))

theorem head?_lfOfAny_mark (cs : List Rune) :
    (Text.lfOfAny cs).head? = some (.char '#') ↔ cs.head? = some (.char '#') := by
  fun_cases Text.lfOfAny cs with
  | case1 => simp
  | case2 r => simp
  | case3 c r h =>
    by_cases hc : c = '\r' <;> simp [hc]

theorem all_splitChars_marked (cs : List Rune) :
    (Text.splitChars '\n' cs).all (fun l => l.head? = some (.char '#')) =
      (cs.head? = some (.char '#') &&
        (Text.splitChars '\n' cs).tail.all fun l => l.head? = some (.char '#')) := by
  cases cs with
  | nil => simp [Text.splitChars]
  | cons c r =>
    unfold Text.splitChars
    by_cases hc : c = '\n'
    · simp [hc]
    · cases hs : Text.splitChars '\n' r with
      | nil => exact absurd hs (Text.splitChars_ne_nil _ r)
      | cons l ls => simp [hc]

theorem tail_all_splitChars_lfOfAny (cs : List Rune) :
    (Text.splitChars '\n' (Text.lfOfAny cs)).tail.all (fun l => l.head? = some (.char '#')) =
      breaksMarked cs := by
  fun_induction breaksMarked cs with
  | case1 => rfl
  | case2 r ih =>
    rw [Text.lfOfAny, Text.splitChars, if_pos rfl, List.tail_cons, all_splitChars_marked, ih]
    simp only [head?_lfOfAny_mark]
  | case3 c r h ih =>
    rw [Text.lfOfAny]
    · by_cases hc : c = '\r' ∨ c = '\n'
      · have hbreak : (if c = '\r' then .char '\n' else c) = '\n' := by
          rcases hc with rfl | rfl <;> simp
        have hdec : (decide (c ≠ '\r') && decide (c ≠ '\n')) = false := by
          rcases hc with rfl | rfl <;> simp
        rw [hbreak, Text.splitChars, if_pos rfl, List.tail_cons, all_splitChars_marked, ih, hdec]
        simp only [head?_lfOfAny_mark, Bool.false_or]
      · simp only [not_or] at hc
        rw [if_neg hc.1, Text.splitChars, if_neg hc.2]
        cases hs : Text.splitChars '\n' (Text.lfOfAny r) with
        | nil => exact absurd hs (Text.splitChars_ne_nil _ _)
        | cons l ls =>
          rw [hs] at ih
          simpa [hc.1, hc.2] using ih
    · exact h

theorem isHashComment_eq (cs : List Rune) :
    isHashComment cs = (cs.head? = some (.char '#') && breaksMarked cs) := by
  rw [isHashComment, all_splitChars_marked, tail_all_splitChars_lfOfAny]
  simp only [head?_lfOfAny_mark]

theorem breaksMarked_append {a : List Rune} (h : ('\n' : Rune) ∉ a ∧ ('\r' : Rune) ∉ a)
    (b : List Rune) :
    breaksMarked (a ++ b) = breaksMarked b := by
  induction a with
  | nil => rfl
  | cons c r ih =>
    simp only [List.mem_cons, not_or] at h
    have hr : c ≠ '\r' := Ne.symm h.2.1
    have hn : c ≠ '\n' := Ne.symm h.1.1
    rw [List.cons_append, breaksMarked, ih ⟨h.1.2, h.2.2⟩]
    · simp [hr, hn]
    · exact fun t he => absurd he hr

theorem breaksMarked_break (br : LineBreak) (r : List Rune) :
    breaksMarked (br.chars ++ r) = (r.head? = some (.char '#') && breaksMarked r) := by
  cases br with
  | lf => simp [LineBreak.chars, breaksMarked]
  | crlf => simp [LineBreak.chars, breaksMarked]

theorem breaksMarked_return (r : List Rune) : breaksMarked (.char '\r' :: r) =
    ((r.head? = some (.char '\n') || r.head? = some (.char '#')) && breaksMarked r) := by
  cases r with
  | nil => simp [breaksMarked]
  | cons c t =>
    by_cases hc : c = '\n'
    · simp [hc, breaksMarked]
    · rw [breaksMarked]
      · simp [hc]
      · exact fun u _ he => hc (List.cons.inj he).1

theorem returnsMarked_cons {br : LineBreak} {c : Rune} {r : List Rune} :
    ReturnsMarked br (c :: r) ↔ (c = '\r' → r.head? = some (.char '#') ∨
      br = .lf ∧ (r = [] ∨ r.head? = some (.char '\n'))) ∧ ReturnsMarked br r := by
  constructor
  · intro h
    refine ⟨?_, fun a b he => h (c :: a) b (by rw [he]; rfl)⟩
    rintro rfl
    exact h [] r rfl
  · rintro ⟨hhead, htail⟩ a b he
    cases a with
    | nil =>
      obtain ⟨rfl, rfl⟩ := List.cons.inj he
      exact hhead rfl
    | cons d t => exact htail t b (List.cons.inj he).2

/-- What stands behind a character of a summary once the summary is in its block. -/
theorem head?_spread_append (br : LineBreak) (indent footer cs : List Rune) :
    (spread br indent cs ++ (br.chars ++ footer)).head? =
      if cs = [] ∨ cs.head? = some (.char '\n') then br.chars.head? else cs.head? := by
  cases cs with
  | nil => cases br <;> simp [spread, LineBreak.chars]
  | cons c r =>
    by_cases hc : c = '\n'
    · rw [hc, spread_lf]
      cases br <;> simp [LineBreak.chars]
    · rw [spread_cons _ _ _ hc]
      simp [hc]

/-- What a carriage return of a summary comes to in its block. -/
theorem return_marked_iff {br : LineBreak} {indent footer r : List Rune} :
    ((spread br indent r ++ (br.chars ++ footer)).head? = some (.char '\n') ∨
      (spread br indent r ++ (br.chars ++ footer)).head? = some (.char '#')) ↔
        r.head? = some (.char '#') ∨ br = .lf ∧ (r = [] ∨ r.head? = some (.char '\n')) := by
  rw [head?_spread_append]
  by_cases hr : r = [] ∨ r.head? = some (.char '\n')
  · have hm : r.head? ≠ some (.char '#') := by
      rcases hr with rfl | hr
      · simp
      · simp [hr]
    cases br <;> simp [hr, hm, LineBreak.chars]
  · have hne : r ≠ [] := fun he => hr (.inl he)
    have hn : r.head? ≠ some (.char '\n') := fun he => hr (.inr he)
    simp [hne, hn]

theorem breaksMarked_spread (br : LineBreak) {indent footer : List Rune}
    (hi : ('\n' : Rune) ∉ indent ∧ ('\r' : Rune) ∉ indent) (hmark : indent.head? = some (.char '#'))
    (hf : footer.head? = some (.char '#')) (hfooter : breaksMarked footer = true) (cs : List Rune) :
    breaksMarked (spread br indent cs ++ (br.chars ++ footer)) = true ↔ ReturnsMarked br cs := by
  induction cs with
  | nil =>
    have hnone : ReturnsMarked br [] := by
      intro a b h
      simp at h
    have hend : breaksMarked (spread br indent [] ++ (br.chars ++ footer)) = true := by
      rw [spread, List.flatMap_nil, List.nil_append, breaksMarked_break, hfooter]
      simp [hf]
    exact iff_of_true hend hnone
  | cons c r ih =>
    rw [returnsMarked_cons]
    by_cases hc : c = '\n'
    · have hhead (x : List Rune) : (indent ++ x).head? = some (.char '#') := by
        rw [List.head?_append, hmark]
        rfl
      rw [hc, spread_lf, List.append_assoc, List.append_assoc, breaksMarked_break, hhead,
        breaksMarked_append hi]
      simpa using ih
    rw [spread_cons _ _ _ hc, List.cons_append]
    by_cases hr : c = '\r'
    · rw [hr, breaksMarked_return, Bool.and_eq_true, ih, Bool.or_eq_true, decide_eq_true_eq,
        decide_eq_true_eq, return_marked_iff]
      simp
    · have hplain : ('\n' : Rune) ∉ [c] ∧ ('\r' : Rune) ∉ [c] := by
        simp [Ne.symm hc, Ne.symm hr]
      have hskip := breaksMarked_append hplain (spread br indent r ++ (br.chars ++ footer))
      rw [List.singleton_append] at hskip
      rw [hskip, ih]
      simp [hr]

/-- A block stands in the text of the file as it is written. -/
theorem written_infix_annotate {d : Dialect} (hd : d.Lawful) (s : Source) (summary : Text) :
    written s.lineBreak d summary <:+: (s.annotate d summary).text.toList := by
  have hlines : compose d summary <:+: (s.annotate d summary).lines := by
    rw [Source.annotate, place_compose hd summary (remove d s.lines)]
    let rest := (takeInterpreter (remove d s.lines)).2
    refine ⟨(takeInterpreter (remove d s.lines)).1, separator rest ++ rest, ?_⟩
    simp [compose, rest]
  obtain ⟨before, after, htext⟩ : Text.joinChars '\n' ((compose d summary).map Text.toList) <:+:
      Text.joinChars '\n' ((s.annotate d summary).lines.map Text.toList) :=
    Text.joinChars_infix (hlines.map _) (by simp [compose])
  have hbreak : (s.annotate d summary).lineBreak = s.lineBreak := rfl
  rw [written, Source.text, Source.content, hbreak, LineBreak.toList_apply, LineBreak.toList_apply,
    Text.joinLines, Text.joinLines, Text.toList_ofList, Text.toList_ofList, ← htext,
    List.flatMap_append, List.flatMap_append]
  exact ⟨_, _, rfl⟩

theorem isScriptComment_written_iff (br : LineBreak) (summary : Text) :
    isScriptComment (written br .script summary) = true ↔
      ¬ [.char '*', .char '/'] <:+: summary.toList := by
  let body := spread br Dialect.script.indent.toList summary.toList
  have hblanks : Dialect.script.indent.toList = [.char ' ', .char ' ', .char ' '] := by
    decide +kernel
  have hindent : ∀ c ∈ Dialect.script.indent.toList, c = ' ' := by simp [hblanks]
  have hskip (r : List Rune) : afterClosing? (br.chars ++ r) = afterClosing? r := by
    cases br <;> simp [LineBreak.chars, afterClosing?_cons_of_ne]
  have hhead (r : List Rune) : (br.chars ++ r).head? ≠ some (.char '/') := by
    cases br <;> simp [LineBreak.chars]
  have hopening : Dialect.script.header.toList =
      .char '/' :: .char '*' :: ("* AUTO-SUMMARY **" : Text).toList := by
    decide +kernel
  have hheader : afterClosing? ("* AUTO-SUMMARY **" : Text).toList = none := by decide +kernel
  have hfooter : afterClosing? Dialect.script.footer.toList = some [] := by decide +kernel
  have hbody : afterClosing? (Dialect.script.indent.toList ++ body) = afterClosing? body := by
    simp [hblanks, afterClosing?_cons_of_ne]
  have hspread : afterClosing? body = none ↔ afterClosing? summary.toList = none :=
    afterClosing?_spread hindent summary.toList
  rw [written_eq Dialect.lawful_script, hopening, ← afterClosing?_eq_none_iff, ← hspread]
  change decide (afterClosing? (("* AUTO-SUMMARY **" : Text).toList ++ br.chars ++
    (Dialect.script.indent.toList ++ body ++
      (br.chars ++ Dialect.script.footer.toList))) = some []) = true ↔ afterClosing? body = none
  rw [List.append_assoc, afterClosing?_append (hhead _), hheader]
  simp only [hskip]
  rw [afterClosing?_append (hhead _), hbody]
  cases hclose : afterClosing? body with
  | none => simp [hskip, hfooter]
  | some r =>
    have hne : br.chars ++ Dialect.script.footer.toList ≠ [] := by
      cases br <;> simp [LineBreak.chars]
    simp [hne]

theorem isHashComment_written_iff (br : LineBreak) (summary : Text) :
    isHashComment (written br .hash summary) = true ↔ ReturnsMarked br summary.toList := by
  have hheader := Dialect.lawful_hash.plain Dialect.hash.header (by simp)
  have hindent := Dialect.lawful_hash.plain Dialect.hash.indent (by simp)
  have hopening : Dialect.hash.header.toList.head? = some (.char '#') := by decide +kernel
  have hmark : Dialect.hash.indent.toList.head? = some (.char '#') := by decide +kernel
  have hfooter : breaksMarked Dialect.hash.footer.toList = true := by decide +kernel
  have hclosing : Dialect.hash.footer.toList.head? = some (.char '#') := by decide +kernel
  have hfront (r : List Rune) : (Dialect.hash.header.toList ++ r).head? = some (.char '#') := by
    rw [List.head?_append, hopening]
    rfl
  have hinner (r : List Rune) : (Dialect.hash.indent.toList ++ r).head? = some (.char '#') := by
    rw [List.head?_append, hmark]
    rfl
  rw [written_eq Dialect.lawful_hash, isHashComment_eq, List.append_assoc, List.append_assoc,
    hfront, breaksMarked_append hheader, breaksMarked_break, hinner, breaksMarked_append hindent,
    ← breaksMarked_spread br hindent hmark hclosing hfooter]
  simp

/-- The block that is written to a file is a comment from its first character to its last exactly if
the summary does not end the comment itself: in the script family by the two characters that close
it, in the hash family by a carriage return that starts a line without a mark. -/
theorem isComment_block_iff (s : Source) (summary : Text) :
    written s.lineBreak .script summary <:+: (s.annotate .script summary).text.toList ∧
    (isScriptComment (written s.lineBreak .script summary) = true ↔
      ¬ [.char '*', .char '/'] <:+: summary.toList) ∧
    written s.lineBreak .hash summary <:+: (s.annotate .hash summary).text.toList ∧
    (isHashComment (written s.lineBreak .hash summary) = true ↔
      ReturnsMarked s.lineBreak summary.toList) :=
  ⟨written_infix_annotate Dialect.lawful_script s summary, isScriptComment_written_iff _ _,
    written_infix_annotate Dialect.lawful_hash s summary, isHashComment_written_iff _ _⟩

/-- A pattern of file names closes the comment, and a lone carriage return leaves it. -/
theorem not_isComment_block :
    isScriptComment (written .lf .script "Purpose: picks up src/*/index.ts") = false ∧
    isHashComment (written .lf .hash "Purpose: runs\rrm -rf build") = false := by
  decide +kernel

end Block

end Synopsis
