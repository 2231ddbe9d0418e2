import Synopsis.Proofs.Service.Annotate
import Synopsis.Proofs.Text.Mixed

namespace Synopsis

open Text Block

/-- Whether the first line of a text is that of an interpreter. -/
def Text.Opening.isInterpreter (o : Opening) : Bool := isInterpreterLine (.ofList o.line)

namespace Source

/-- All of a text, or all that follows its interpreter line. -/
def bodyOf (raw : Text) : Text :=
  if (opening raw.toList).isInterpreter then .ofList (opening raw.toList).rest else raw

/-- The bytes of a text are at the end of another one, and an interpreter line is the first line
still, blanks at its end apart, with the line break that it had. -/
structure Preserved (raw new : Text) : Prop where
  body : Utf8.encode (bodyOf raw) <:+ Utf8.encode new
  line : (opening raw.toList).isInterpreter = true → ∃ w : List Rune,
    w.all isBlankChar = true ∧ (opening raw.toList).line = (opening new.toList).line ++ w
  lineBreak : (opening raw.toList).isInterpreter = true → (opening raw.toList).lineBreak? ≠ none →
    (opening new.toList).lineBreak? = (opening raw.toList).lineBreak?

theorem Preserved.refl (raw : Text) : Preserved raw raw where
  body := by
    apply Utf8.suffix_encode_iff.mpr
    rw [bodyOf]
    split
    · rw [Text.toList_ofList]
      exact opening_rest_suffix raw.toList
    · exact List.suffix_refl _
  line _ := ⟨[], rfl, (List.append_nil _).symm⟩
  lineBreak _ _ := rfl

variable {d : Dialect} {s : Source} {raw summary l : Text} {r : List Text}

/-- In a text without pairs, the lines are read as they were written. -/
theorem mapInit_dropReturn_splitLines (hbreak : (ofText raw).lineBreak = .lf) :
    mapInit dropReturn (splitLines raw) = splitLines raw := by
  have hlf : LineBreak.ofText raw = .lf := hbreak
  rw [← splitLines_undo_ofText, hlf]
  rfl

/-- The first line of a text, as it is read, and the lines behind it, as they were written. -/
theorem opening_ofText (raw : Text) : ∃ l r, (ofText raw).lines = l :: mapInit dropReturn r ∧
    (∀ m ∈ r, ('\n' : Rune) ∉ m.toList) ∧
    ((ofText raw).lineBreak = .lf → mapInit dropReturn r = r) ∧
    (opening raw.toList).line = l.toList ∧
    (opening raw.toList).rest = (joinLines r).toList := by
  cases hlines : splitLines raw with
  | nil => exact absurd hlines (splitLines_ne_nil raw)
  | cons l r =>
    have hread := lines_ofText raw
    rw [hlines] at hread
    by_cases hr : r = []
    · subst hr
      rw [opening_single hlines]
      exact ⟨l, [], hread, by simp, fun _ => rfl, rfl, rfl⟩
    · have hplain : ∀ m ∈ r, ('\n' : Rune) ∉ m.toList := by
        intro m hm
        exact lf_not_mem_of_mem_splitLines (hlines ▸ List.mem_cons_of_mem l hm)
      have hsame : (ofText raw).lineBreak = .lf → mapInit dropReturn r = r := by
        intro hlf
        have hself := mapInit_dropReturn_splitLines hlf
        rw [hlines, mapInit_cons l hr] at hself
        exact (List.cons.inj hself).2
      rw [mapInit_cons l hr] at hread
      rw [opening_cons hlines hr]
      exact ⟨dropReturn l, r, hread, hplain, hsame, rfl, rfl⟩

/-- Lines are found at the end of a text that ends in them, if it was written without pairs, or if
they have no line feed alone. -/
theorem suffix_text_iff {front : List Text} (hlines : s.lines = front ++ mapInit dropReturn r)
    (hplain : ∀ m ∈ r, ('\n' : Rune) ∉ m.toList)
    (hlf : s.lineBreak = .lf → mapInit dropReturn r = r) :
    (joinLines r).toList <:+ s.text.toList ↔
      s.lineBreak = .lf ∨ hasBareLf (.char '\r' :: (joinLines r).toList) = false := by
  have hend := suffix_joinLines_append front (mapInit dropReturn r)
  rw [← hlines] at hend
  cases hbreak : s.lineBreak with
  | lf =>
    rw [hlf hbreak] at hend
    simpa [text_of_lf hbreak] using hend
  | crlf =>
    rw [toList_text_of_crlf hbreak]
    simp only [reduceCtorEq, false_or]
    constructor
    · intro h
      exact hasBareLf_of_suffix h (hasBareLf_crlfOfLf _)
    · intro h
      have hself := suffix_crlfOfLf_lfOfCrlf h
      rw [lfOfCrlf_joinLines hplain] at hself
      exact hself.trans (crlfOfLf_suffix hend)

/-- The first line of an annotated script. -/
theorem opening_annotate (hd : d.Lawful) (hs : s.Stable) (hfront : s.front d = [trim l])
    (summary : Text) :
    (opening (s.annotate d summary).text.toList).line = (trim l).toList ∧
      (opening (s.annotate d summary).text.toList).lineBreak? = some s.lineBreak := by
  have hlines := annotate_lines hd summary s
  rw [hfront, List.singleton_append] at hlines
  have hne : compose d summary ++ s.rest d ≠ [] := by simp [compose]
  have hsplit := splitLines_text (s := s.annotate d summary) (by simp [hlines])
    (plain_annotate hd hs summary)
  rw [hlines, annotate_lineBreak, mapInit_cons _ hne] at hsplit
  rw [opening_cons hsplit (mapInit_ne_nil hne)]
  have hreturn := endsInReturn_trim l
  have hreread : s.lineBreak.reread (trim l) = trim l :=
    LineBreak.reread_eq_self fun _ => hreturn
  rw [LineBreak.reread] at hreread
  refine ⟨by rw [hreread], ?_⟩
  cases hcase : s.lineBreak with
  | lf => simp [LineBreak.mark, breakOf, hreturn]
  | crlf =>
    have hends : endsInReturn (trim l ++ "\r") = true :=
      endsInReturn_iff.mpr ⟨(trim l).toList, by simp⟩
    simp [LineBreak.mark, breakOf, hends]

/-- The lines of a file without a block, once it is annotated. -/
theorem annotate_lines_of_none (hd : d.Lawful) (hnone : d.header ∉ s.lines ∨ d.footer ∉ s.lines) :
    s.front d = (takeInterpreter s.lines).1 ∧
      s.rest d = separator (takeInterpreter s.lines).2 ++ (takeInterpreter s.lines).2 := by
  have hremove : remove d s.lines = s.lines := by
    rw [remove, cut?_eq_none hnone hd.header_ne_footer]
  rw [front, rest, hremove]
  exact ⟨rfl, rfl⟩

/-- The first line break is that of the text, unless one that has pairs starts with a line feed
alone. -/
theorem lineBreak_kept_iff {p : Prop} : ((ofText raw).lineBreak = .lf ∨ p) ∧
      ((opening raw.toList).lineBreak? ≠ none →
        some (ofText raw).lineBreak = (opening raw.toList).lineBreak?) ↔
    hasCrlf raw.toList = false ∨ p ∧ (opening raw.toList).lineBreak? = some .crlf := by
  have hlf : (ofText raw).lineBreak = .lf ↔ hasCrlf raw.toList = false := lineBreak_ofText_eq_lf_iff
  have hnone : (opening raw.toList).lineBreak? = none → hasCrlf raw.toList = false :=
    hasCrlf_of_opening_none
  have hcrlf : (opening raw.toList).lineBreak? = some .crlf → hasCrlf raw.toList = true :=
    hasCrlf_of_opening_crlf
  cases hpair : hasCrlf raw.toList <;> cases hbreak : (ofText raw).lineBreak <;>
    rcases hfirst : (opening raw.toList).lineBreak? with _ | _ | _ <;> simp_all

theorem preserved_annotate_script_iff (hd : d.Lawful)
    (hnone : d.header ∉ (ofText raw).lines ∨ d.footer ∉ (ofText raw).lines)
    (hinterpreter : (opening raw.toList).isInterpreter = true) (summary : Text) :
    Preserved raw ((ofText raw).annotate d summary).text ↔ hasCrlf raw.toList = false ∨
      hasBareLf (.char '\r' :: (bodyOf raw).toList) = false ∧
        (opening raw.toList).lineBreak? = some .crlf := by
  obtain ⟨l, r, hlines, hplain, hlf, hline, hrest⟩ := opening_ofText raw
  have hl : isInterpreterLine l = true := by
    rwa [Opening.isInterpreter, hline, Text.ofList_toList] at hinterpreter
  have hbody : (bodyOf raw).toList = (joinLines r).toList := by
    rw [bodyOf, if_pos hinterpreter, Text.toList_ofList, hrest]
  obtain ⟨hfront, hbehind⟩ := annotate_lines_of_none hd hnone
  rw [hlines, takeInterpreter, if_pos hl] at hfront hbehind
  have hwritten := annotate_lines hd summary (ofText raw)
  rw [hfront, hbehind, ← List.append_assoc, ← List.append_assoc] at hwritten
  have hsuffix := suffix_text_iff hwritten hplain hlf
  obtain ⟨hfirst, hbreak⟩ := opening_annotate hd (stable_ofText raw) hfront summary
  obtain ⟨-, w, hw, htrim⟩ := trim_interpreterLine hl
  rw [← lineBreak_kept_iff]
  constructor
  · intro h
    have hend := Utf8.suffix_encode_iff.mp h.body
    have hkept := h.lineBreak hinterpreter
    rw [hbody] at hend ⊢
    rw [hbreak] at hkept
    exact ⟨hsuffix.mp hend, hkept⟩
  · rintro ⟨hend, hkept⟩
    rw [hbody] at hend
    have hbytes : (bodyOf raw).toList <:+ ((ofText raw).annotate d summary).text.toList := by
      rw [hbody]
      exact hsuffix.mpr hend
    refine ⟨Utf8.suffix_encode_iff.mpr hbytes, fun _ => ⟨w.toList, hw, ?_⟩, fun _ hne => ?_⟩
    · rw [hline, hfirst, ← Text.toList_append, ← htrim]
    · rw [hbreak]
      exact hkept hne

theorem preserved_annotate_plain_iff (hd : d.Lawful)
    (hnone : d.header ∉ (ofText raw).lines ∨ d.footer ∉ (ofText raw).lines)
    (hinterpreter : (opening raw.toList).isInterpreter = false) (summary : Text) :
    Preserved raw ((ofText raw).annotate d summary).text ↔ hasCrlf raw.toList = false ∨
      hasBareLf (.char '\r' :: (bodyOf raw).toList) = false := by
  obtain ⟨l, r, hlines, -, -, hline, -⟩ := opening_ofText raw
  have hl : isInterpreterLine l = false := by
    rwa [Opening.isInterpreter, hline, Text.ofList_toList] at hinterpreter
  have hbody : bodyOf raw = raw := by simp [bodyOf, hinterpreter]
  obtain ⟨hfront, hbehind⟩ := annotate_lines_of_none hd hnone
  have htake : takeInterpreter (ofText raw).lines = ([], (ofText raw).lines) := by
    rw [hlines, takeInterpreter, if_neg (by simp [hl])]
  rw [htake] at hfront hbehind
  have hwritten := annotate_lines hd summary (ofText raw)
  rw [hfront, hbehind, ← List.append_assoc, ← List.append_assoc, lines_ofText] at hwritten
  have hself : ((ofText raw).annotate d summary).lineBreak = .lf →
      mapInit dropReturn (splitLines raw) = splitLines raw := by
    rw [annotate_lineBreak]
    exact mapInit_dropReturn_splitLines
  have hsuffix := suffix_text_iff hwritten (fun _ hm => lf_not_mem_of_mem_splitLines hm) hself
  rw [joinLines_splitLines] at hsuffix
  rw [hbody, ← lineBreak_ofText_eq_lf_iff]
  constructor
  · intro h
    have hend := Utf8.suffix_encode_iff.mp h.body
    rw [hbody] at hend
    exact hsuffix.mp hend
  · intro h
    have hend := Utf8.suffix_encode_iff.mpr (hsuffix.mpr h)
    exact ⟨hbody.symm ▸ hend, by simp [hinterpreter], by simp [hinterpreter]⟩

/-- What is at the end of an annotated file, and what its first line is. -/
theorem preserved_annotate_iff (hd : d.Lawful)
    (hnone : d.header ∉ (ofText raw).lines ∨ d.footer ∉ (ofText raw).lines) (summary : Text) :
    Preserved raw ((ofText raw).annotate d summary).text ↔ hasCrlf raw.toList = false ∨
      hasBareLf (.char '\r' :: (bodyOf raw).toList) = false ∧
        ((opening raw.toList).isInterpreter = true →
          (opening raw.toList).lineBreak? = some .crlf) := by
  cases hinterpreter : (opening raw.toList).isInterpreter with
  | true => simpa using preserved_annotate_script_iff hd hnone hinterpreter summary
  | false => simpa using preserved_annotate_plain_iff hd hnone hinterpreter summary

end Source

namespace Service

open Source

variable {α σ : Type} {sv : Service α σ} {known : Index} {path : Text} {file : Path}
  {s s' : Session α σ}

/-- What is written after a summary was generated for a file that is to hold it. -/
theorem replaceText_of_generated {d : Dialect} {raw summary : Text}
    (hin : sv.embedding? path = some d) (hplace : sv.place path = .ok file)
    (hraw : s.tree.readExact file = .ok raw)
    (hcall : sv.annotate known path s = (.ok ⟨path, .generated summary⟩, s')) :
    s.tree.replaceText file ((ofText raw).annotate d summary).text = (.ok (), s'.tree) := by
  have hspec := annotate_spec sv known path s
  rw [hcall] at hspec
  generalize htree : s'.tree = t at hspec
  cases hspec with
  | indexed hyes file' source hread summary hreply hout => simp [hin] at hout
  | written hyes file' source hread hnone summary hreply d' hin' t' hwrite =>
    rw [hin, Option.some.injEq] at hin'
    subst hin'
    have hself : sv.read s.tree path = .ok (file, ofText raw) :=
      read_eq_ok_iff.mpr ⟨hplace, raw, hraw, rfl⟩
    rw [hself, Except.ok.injEq, Prod.mk.injEq] at hread
    obtain ⟨rfl, rfl⟩ := hread
    exact hwrite

/-- The text that a file has after a summary was generated for it: the same, if its type is kept
free of summaries, and else the text with the block. -/
theorem readExact_of_generated {d : Dialect} {raw summary : Text}
    (hext : Dialect.ofExtension? (Path.extension path) = some d)
    (hplace : sv.place path = .ok file) (hraw : s.tree.readExact file = .ok raw)
    (hcall : sv.annotate known path s = (.ok ⟨path, .generated summary⟩, s')) :
    s'.tree.readExact file = .ok (if sv.isExcluded path then raw
      else ((ofText raw).annotate d summary).text) := by
  by_cases hexcluded : sv.isExcluded path = true
  · have hout : sv.embedding? path = none := by rw [embedding?, if_pos hexcluded]
    have hspec := annotate_spec sv known path s
    rw [hcall] at hspec
    generalize htree : s'.tree = t at hspec
    rw [if_pos hexcluded]
    cases hspec with
    | indexed hyes file' source hread summary hreply hout => exact hraw
    | written hyes file' source hread hnone summary hreply d' hin t' hwrite => simp [hout] at hin
  · have hin : sv.embedding? path = some d := by rw [embedding?, if_neg hexcluded, hext]
    have hread : sv.read s.tree path = .ok (file, ofText raw) :=
      read_eq_ok_iff.mpr ⟨hplace, raw, hraw, rfl⟩
    rw [if_neg hexcluded]
    exact readExact_of_write hread (replaceText_of_generated hin hplace hraw hcall)

/-- Which bytes of a file are there still, after a summary was generated for it. -/
theorem preserved_of_generated_iff {d : Dialect} {raw summary : Text}
    (hext : Dialect.ofExtension? (Path.extension path) = some d)
    (hplace : sv.place path = .ok file) (hraw : s.tree.readBytes file = .ok (Utf8.encode raw))
    (hnone : d.header ∉ (ofText raw).lines ∨ d.footer ∉ (ofText raw).lines)
    (hcall : sv.annotate known path s = (.ok ⟨path, .generated summary⟩, s')) :
    ∃ new, s'.tree.readBytes file = .ok (Utf8.encode new) ∧
      (Preserved raw new ↔ sv.isExcluded path = true ∨ hasCrlf raw.toList = false ∨
        hasBareLf (.char '\r' :: (bodyOf raw).toList) = false ∧
          ((opening raw.toList).isInterpreter = true →
            (opening raw.toList).lineBreak? = some .crlf)) := by
  have hd := Dialect.lawful_of_ofExtension? hext
  have hexact := readExact_of_annotate hplace hraw hcall
  have hnew := readExact_of_generated hext hplace hexact hcall
  refine ⟨_, (Tree.readExact_eq_ok_iff_readBytes.mp hnew).1, ?_⟩
  by_cases hexcluded : sv.isExcluded path = true
  · simp only [hexcluded, if_true, true_or, iff_true]
    exact Preserved.refl raw
  · have hiff := preserved_annotate_iff hd hnone summary
    simpa [hexcluded] using hiff

/-- A script with pairs. -/
theorem preserved_of_generated_lone : ∃ (new : Text) (s' : Session Unit Unit),
    (always "s").annotate [] "a.sh" (lone "a.sh" "#!/bin/sh \r\nls\r\n") =
      (.ok ⟨"a.sh", .generated "s"⟩, s') ∧
    s'.tree.readBytes ⟨.relative, ["a.sh"]⟩ = .ok (Utf8.encode new) ∧
    Preserved "#!/bin/sh \r\nls\r\n" new := by
  have hfirst : ((always "s").annotate [] "a.sh" (lone "a.sh" "#!/bin/sh \r\nls\r\n")).1 =
      .ok ⟨"a.sh", .generated "s"⟩ := by decide +kernel
  have hcall := Prod.fst_eq_iff.mp hfirst
  have hbytes : (lone "a.sh" "#!/bin/sh \r\nls\r\n").tree.readBytes ⟨.relative, ["a.sh"]⟩ =
      .ok (Utf8.encode "#!/bin/sh \r\nls\r\n") := by decide +kernel
  have hheader : Dialect.hash.header ∉ (ofText "#!/bin/sh \r\nls\r\n").lines := by decide +kernel
  obtain ⟨new, hnew, hiff⟩ := preserved_of_generated_iff
    (by decide +kernel : Dialect.ofExtension? (Path.extension "a.sh") = some .hash)
    (by decide +kernel) hbytes (.inl hheader) hcall
  exact ⟨new, _, hcall, hnew, hiff.mpr (.inr (.inr (by decide +kernel)))⟩

/-- In a file with one pair, the line feed alone is lost. -/
theorem not_preserved_of_generated : ∃ (new : Text) (s' : Session Unit Unit),
    (lone "a.ts" "a\nb\r\n").tree.readBytes ⟨.relative, ["a.ts"]⟩ =
      .ok (Utf8.encode "a\nb\r\n") ∧
    (always "s").annotate [] "a.ts" (lone "a.ts" "a\nb\r\n") =
      (.ok ⟨"a.ts", .generated "s"⟩, s') ∧
    s'.tree.readBytes ⟨.relative, ["a.ts"]⟩ = .ok (Utf8.encode new) ∧
    ¬ Utf8.encode "a\nb\r\n" <:+ Utf8.encode new := by
  have hfirst : ((always "s").annotate [] "a.ts" (lone "a.ts" "a\nb\r\n")).1 =
      .ok ⟨"a.ts", .generated "s"⟩ := by decide +kernel
  refine ⟨"/** AUTO-SUMMARY **\r\n   s\r\n*** END-SUMMARY **/\r\n\r\na\r\nb\r\n", _, ?_,
    Prod.fst_eq_iff.mp hfirst, ?_, ?_⟩
  · decide +kernel
  · decide +kernel
  · decide +kernel

end Service

end Synopsis
