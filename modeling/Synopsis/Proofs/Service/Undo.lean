import Synopsis.Proofs.Service.Preserving
import Synopsis.Proofs.Source.Outside
import Synopsis.Proofs.Text.Encoding

namespace Synopsis

open Text Block

namespace Source

variable {d : Dialect} {s : Source} {raw summary : Text}

theorem text_ofText_iff :
    (ofText raw).text = raw ↔ hasCrlf raw.toList = false ∨ hasBareLf raw.toList = false := by
  rw [text, content_ofText]
  exact LineBreak.apply_undo_iff

theorem ofText_text (hs : s.Stable) (hmany : 1 < s.lines.length) : ofText s.text = s := by
  have hlines := lines_ofText_text hs
  have hbreak : (ofText s.text).lineBreak = s.lineBreak := by
    cases hcase : s.lineBreak with
    | lf => exact lineBreak_ofText_eq_lf_iff.mpr (hasCrlf_text hs hcase)
    | crlf =>
      have hpair : hasCrlf s.text.toList = true := by
        rw [toList_text_of_crlf hcase]
        exact hasCrlf_crlfOfLf_iff.mpr (lf_mem_joinLines hmany)
      exact lineBreak_ofText_eq_crlf_iff.mpr hpair
  cases h : ofText s.text
  cases s
  simp_all

theorem ofText_annotate (hd : d.Lawful) (hs : s.Stable) (hr : ('\r' : Rune) ∉ summary.toList) :
    ofText (s.annotate d summary).text = s.annotate d summary := by
  apply ofText_text (stable_annotate hd hs hr)
  simp [annotate_lines hd, compose]
  omega

theorem fault?_text_of_lines {e : Encoding} (hreturn : e.holds '\r' = true)
    (hlf : e.holds '\n' = true) (h : ∀ l ∈ s.lines, ∀ c ∈ l.toList, e.holds c = true) :
    e.fault? s.text = none := by
  rw [Encoding.fault?_eq_none_iff]
  intro c hc
  rcases LineBreak.mem_of_mem_apply hc with rfl | hc
  · exact hreturn
  · simp only [content, joinLines, Text.toList_ofList] at hc
    rcases mem_of_mem_joinChars hc with rfl | ⟨cs, hcs, hc⟩
    · exact hlf
    · obtain ⟨l, hl, rfl⟩ := List.mem_map.mp hcs
      exact h l hl c hc

/-- A text of some of the lines holds no character that the text of all of them does not hold. -/
theorem fault?_text_of_subset {e : Encoding} {part : Source} (hreturn : e.holds '\r' = true)
    (hlf : e.holds '\n' = true) (hsub : ∀ l ∈ part.lines, l ∈ s.lines)
    (h : e.fault? s.text = none) : e.fault? part.text = none := by
  rw [Encoding.fault?_eq_none_iff] at h
  apply fault?_text_of_lines hreturn hlf
  intro l hl c hc
  apply h
  apply LineBreak.mem_apply_of_mem
  simp only [content, joinLines, Text.toList_ofList]
  exact mem_joinChars_of_mem (List.mem_map_of_mem (hsub l hl)) hc

/-- Whether lines start with a blank one. -/
def startsBlank : List Text → Bool
  | [] => false
  | l :: _ => isBlank l

/-- A blank line in front is taken for the one that separates a block from the lines behind it. -/
theorem dropSeparator_separator (lines : List Text) : dropSeparator (separator lines ++ lines) =
    if startsBlank lines then lines.tail else lines := by
  cases lines with
  | nil => rfl
  | cons l r =>
    have hempty : isBlank "" = true := rfl
    cases hblank : isBlank l <;> simp [separator, startsBlank, dropSeparator, hblank, hempty]

theorem takeInterpreter_append {lines : List Text}
    (htrim : ∀ l, lines.head? = some l → isInterpreterLine l = true → trim l = l) :
    (takeInterpreter lines).1 ++ (takeInterpreter lines).2 = lines := by
  cases lines with
  | nil => rfl
  | cons l r =>
    rw [takeInterpreter]
    split
    · rename_i hl
      rw [htrim l rfl hl]
      rfl
    · rfl

/-- What is left of a source that was annotated and stripped. -/
def leftOf (d : Dialect) (s : Source) : Source :=
  { s with lines := s.front d ++ dropSeparator (s.rest d) }

theorem strip?_annotate (hd : d.Lawful) (summary : Text) (s : Source) :
    (s.annotate d summary).strip? d = some (s.leftOf d) := by
  rw [strip?, Block.strip?, cut?_annotate hd]
  rfl

theorem leftOf_lines_subset (hd : d.Lawful) (summary : Text) (s : Source) :
    ∀ l ∈ (s.leftOf d).lines, l ∈ (s.annotate d summary).lines := by
  intro l hl
  rw [annotate_lines hd]
  rcases List.mem_append.mp hl with hl | hl
  · exact List.mem_append_left _ hl
  · have hrest : l ∈ s.rest d := (dropSeparator_sublist _).subset hl
    exact List.mem_append_right _ (List.mem_append_right _ hrest)

/-- Whether a file comes back: there is no blank line in front of what follows an interpreter line,
or nothing at all. -/
def Separable (raw : Text) : Prop :=
  raw = "" ∨ startsBlank (takeInterpreter (ofText raw).lines).2 = false

theorem leftOf_lines (hd : d.Lawful) (hnone : d.header ∉ s.lines ∨ d.footer ∉ s.lines) :
    (s.leftOf d).lines = (takeInterpreter s.lines).1 ++
      if startsBlank (takeInterpreter s.lines).2 then (takeInterpreter s.lines).2.tail
      else (takeInterpreter s.lines).2 := by
  obtain ⟨hfront, hrest⟩ := annotate_lines_of_none hd hnone
  rw [leftOf, hfront, hrest, dropSeparator_separator]

theorem joinLines_append_tail_iff {front lines : List Text}
    (hplain : ∀ l ∈ front ++ lines, ('\n' : Rune) ∉ l.toList) (hblank : startsBlank lines = true) :
    joinLines (front ++ lines.tail) = joinLines (front ++ lines) ↔
      joinLines (front ++ lines) = "" := by
  cases lines with
  | nil => simp [startsBlank] at hblank
  | cons l r =>
    rw [List.tail_cons]
    by_cases hnil : front ++ r = []
    · rw [hnil, joinLines_nil]
      exact eq_comm
    · constructor
      · intro h
        have hsub : ∀ m ∈ front ++ r, ('\n' : Rune) ∉ m.toList := by
          intro m hm
          apply hplain
          rcases List.mem_append.mp hm with hm | hm
          · exact List.mem_append_left _ hm
          · exact List.mem_append_right _ (List.mem_cons_of_mem l hm)
        have hlines := congrArg splitLines h
        rw [splitLines_joinLines hnil hsub, splitLines_joinLines (by simp) hplain] at hlines
        have hlength := congrArg List.length hlines
        simp at hlength
      · intro h
        have hlines := congrArg splitLines h
        rw [splitLines_joinLines (by simp) hplain] at hlines
        have hone : front ++ l :: r = ([""] : List Text) := hlines
        have hlength := congrArg List.length hone
        simp only [List.length_append, List.length_cons, List.length_nil] at hlength
        have hfront : front = [] := List.length_eq_zero_iff.mp (by omega)
        have hr : r = [] := List.length_eq_zero_iff.mp (by omega)
        rw [hfront, hr] at hnil
        exact absurd rfl hnil

theorem text_leftOf_iff (hd : d.Lawful) (hraw : (ofText raw).text = raw)
    (hnone : d.header ∉ (ofText raw).lines ∨ d.footer ∉ (ofText raw).lines)
    (htrim : ∀ l, (ofText raw).lines.head? = some l → isInterpreterLine l = true → trim l = l) :
    ((ofText raw).leftOf d).text = raw ↔ Separable raw := by
  have happend := takeInterpreter_append htrim
  have hplain := (stable_ofText raw).plain
  have htext : ((ofText raw).leftOf d).text =
      (ofText raw).lineBreak.apply (joinLines ((ofText raw).leftOf d).lines) := rfl
  rw [htext, leftOf_lines hd hnone]
  unfold Separable
  generalize (takeInterpreter (ofText raw).lines).1 = front at happend ⊢
  generalize (takeInterpreter (ofText raw).lines).2 = lines at happend ⊢
  have hwhole : (ofText raw).lineBreak.apply (joinLines (front ++ lines)) = raw := by
    rw [happend]
    exact hraw
  rw [← happend] at hplain
  cases hblank : startsBlank lines with
  | false => simpa using hwhole
  | true =>
    have hiff := joinLines_append_tail_iff hplain hblank
    have hempty : (ofText raw).lineBreak.apply "" = "" := by
      cases (ofText raw).lineBreak <;> rfl
    simp only [if_true, reduceCtorEq, or_false]
    constructor
    · intro h
      have hjoin := LineBreak.apply_injective _ (h.trans hwhole.symm)
      rw [← hwhole, hiff.mp hjoin, hempty]
    · intro h
      have hjoin : joinLines (front ++ lines) = "" :=
        LineBreak.apply_injective (ofText raw).lineBreak (by rw [hwhole, hempty, h])
      rw [hiff.mpr hjoin]
      exact hwhole

end Source

namespace Service

open Source

variable {α σ : Type} {sv : Service α σ} {known : Index} {path : Text} {file : Path}
  {s s₁ s₂ : Session α σ} {d : Dialect} {raw summary : Text}

theorem strip_of_read {source left : Source} {t : Tree}
    (hext : Dialect.ofExtension? (Path.extension path) = some d)
    (hread : sv.read s.tree path = .ok (file, source)) (hstrip : source.strip? d = some left)
    (hwrite : s.tree.replaceText file left.text = (.ok (), t)) :
    sv.strip path s = (.ok true, Session.note { s with tree := t } (.removed path)) := by
  unfold strip
  simp only [hext, hread, hstrip]
  rw [write]
  simp only [hwrite]

/-- A file that was annotated can be stripped, and the text that is left takes the place of the one
that it had. -/
theorem strip_of_generated (hin : sv.embedding? path = some d) (hplace : sv.place path = .ok file)
    (hraw : s.tree.readExact file = .ok raw)
    (hcall : sv.annotate known path s = (.ok ⟨path, .generated summary⟩, s₁))
    (hreply : ('\r' : Rune) ∉ summary.toList) (htree : s₂.tree = s₁.tree) :
    ∃ (loc : Location) (s₃ : Session α σ), s.tree.Takes file loc ∧
      s₃.tree = s.tree.withFile loc (Utf8.encode ((ofText raw).leftOf d).text) ∧
      s₃.tree.readExact file = .ok ((ofText raw).leftOf d).text ∧
      sv.strip path s₂ = (.ok true, s₃) := by
  have hext := ofExtension?_of_embedding? hin
  have hd := Dialect.lawful_of_ofExtension? hext
  have hwrite := replaceText_of_generated hin hplace hraw hcall
  have hread : sv.read s.tree path = .ok (file, ofText raw) :=
    read_eq_ok_iff.mpr ⟨hplace, raw, hraw, rfl⟩
  have hagain := read_of_write hread hwrite
  rw [ofText_annotate hd (stable_ofText raw) hreply] at hagain
  have hstrip := strip?_annotate hd summary (ofText raw)
  have hwritten := (Tree.replaceText_eq_ok_iff.mp hwrite).1
  have hholds : Encoding.utf8.fault? ((ofText raw).leftOf d).text = none :=
    fault?_text_of_subset (by decide) (by decide) (leftOf_lines_subset hd summary _) hwritten
  obtain ⟨loc, htakes, hover⟩ := Tree.replaceText_over hwrite hholds
  have hback := readExact_of_write hagain hover
  rw [← htree] at hagain hover
  exact ⟨loc, _, htakes, rfl, hback, strip_of_read hext hagain hstrip hover⟩

/-- When a file is the same again after it was annotated and stripped. -/
theorem strip_of_generated_iff (hin : sv.embedding? path = some d)
    (hplace : sv.place path = .ok file) (hraw : s.tree.readBytes file = .ok (Utf8.encode raw))
    (hbreaks : hasCrlf raw.toList = false ∨ hasBareLf raw.toList = false)
    (hnone : d.header ∉ (ofText raw).lines ∨ d.footer ∉ (ofText raw).lines)
    (htrim : ∀ l, (ofText raw).lines.head? = some l → isInterpreterLine l = true → trim l = l)
    (hcall : sv.annotate known path s = (.ok ⟨path, .generated summary⟩, s₁))
    (hreply : ('\r' : Rune) ∉ summary.toList) (htree : s₂.tree = s₁.tree) :
    ∃ s₃, sv.strip path s₂ = (.ok true, s₃) ∧
      (s₃.tree.readBytes file = s.tree.readBytes file ↔ Separable raw) ∧
      (Separable raw → s₃.tree = s.tree) := by
  have hd := Dialect.lawful_of_ofExtension? (ofExtension?_of_embedding? hin)
  have hexact := readExact_of_annotate hplace hraw hcall
  obtain ⟨loc, s₃, htakes, hwritten, hback, hstrip⟩ :=
    strip_of_generated hin hplace hexact hcall hreply htree
  have htext := text_leftOf_iff hd (text_ofText_iff.mpr hbreaks) hnone htrim
  refine ⟨s₃, hstrip, ?_, ?_⟩
  · rw [(Tree.readExact_eq_ok_iff_readBytes.mp hback).1, hraw, Except.ok.injEq, ← htext]
    exact ⟨Utf8.encode_injective, congrArg Utf8.encode⟩
  · intro hsep
    obtain ⟨loc', content, mode, hloc, hitem, -, hdecode⟩ := Tree.readExact_eq_ok_iff.mp hexact
    obtain rfl : loc = loc' :=
      htakes.eq_destination.trans (Tree.locate_eq_destination hloc).symm
    obtain ⟨rfl, -⟩ := Utf8.decode_eq_ok_iff.mp hdecode
    rw [hwritten, htext.mpr hsep]
    exact Tree.withFile_of_item? hitem

/-- A script without a blank line behind its interpreter line. -/
theorem strip_of_generated_lone : ∃ s₁ s₃ : Session Unit Unit,
    (always "s").annotate [] "a.sh" (lone "a.sh" "#!/bin/sh\nls\n") =
      (.ok ⟨"a.sh", .generated "s"⟩, s₁) ∧
    (always "s").strip "a.sh" s₁ = (.ok true, s₃) ∧
    s₃.tree = (lone "a.sh" "#!/bin/sh\nls\n").tree := by
  have hfirst : ((always "s").annotate [] "a.sh" (lone "a.sh" "#!/bin/sh\nls\n")).1 =
      .ok ⟨"a.sh", .generated "s"⟩ := by decide +kernel
  have hcall := Prod.fst_eq_iff.mp hfirst
  have hbytes : (lone "a.sh" "#!/bin/sh\nls\n").tree.readBytes ⟨.relative, ["a.sh"]⟩ =
      .ok (Utf8.encode "#!/bin/sh\nls\n") := by decide +kernel
  have hlines : (ofText "#!/bin/sh\nls\n").lines = ["#!/bin/sh", "ls", ""] := by decide +kernel
  have htrim : ∀ l, (ofText "#!/bin/sh\nls\n").lines.head? = some l →
      isInterpreterLine l = true → trim l = l := by
    intro l hl _
    obtain rfl : "#!/bin/sh" = l := by simpa [hlines] using hl
    decide +kernel
  have hsep : Separable "#!/bin/sh\nls\n" := .inr (by decide +kernel)
  obtain ⟨s₃, hstrip, -, hsame⟩ := strip_of_generated_iff
    (by decide +kernel : (always "s").embedding? "a.sh" = some .hash) (by decide +kernel) hbytes
    (.inl (by decide)) (.inl (by rw [hlines]; decide)) htrim hcall (by decide) rfl
  exact ⟨_, s₃, hcall, hstrip, hsame hsep⟩

/-- A blank line behind the interpreter line is lost. -/
theorem not_strip_of_generated : ∃ s₁ s₃ : Session Unit Unit,
    (lone "a.sh" "#!/bin/sh\n\nls\n").tree.readBytes ⟨.relative, ["a.sh"]⟩ =
      .ok (Utf8.encode "#!/bin/sh\n\nls\n") ∧
    (always "s").annotate [] "a.sh" (lone "a.sh" "#!/bin/sh\n\nls\n") =
      (.ok ⟨"a.sh", .generated "s"⟩, s₁) ∧
    (always "s").strip "a.sh" s₁ = (.ok true, s₃) ∧
    s₃.tree.readBytes ⟨.relative, ["a.sh"]⟩ = .ok (Utf8.encode "#!/bin/sh\nls\n") := by
  have hfirst : ((always "s").annotate [] "a.sh" (lone "a.sh" "#!/bin/sh\n\nls\n")).1 =
      .ok ⟨"a.sh", .generated "s"⟩ := by decide +kernel
  have hsecond : ((always "s").strip "a.sh"
      ((always "s").annotate [] "a.sh" (lone "a.sh" "#!/bin/sh\n\nls\n")).2).1 = .ok true := by
    decide +kernel
  refine ⟨_, _, ?_, Prod.fst_eq_iff.mp hfirst, Prod.fst_eq_iff.mp hsecond, ?_⟩
  · decide +kernel
  · decide +kernel

end Service

end Synopsis
