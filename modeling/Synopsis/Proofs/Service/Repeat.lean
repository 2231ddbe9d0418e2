import Synopsis.Proofs.Service.Annotate

namespace Synopsis

namespace Text

theorem all_isBlankChar_lfOfCrlf (cs : List Rune) :
    (lfOfCrlf cs).all isBlankChar = cs.all isBlankChar := by
  have hreturn : isBlankChar '\r' = true := by decide
  induction cs with
  | nil => rfl
  | cons c r ih =>
    by_cases hpair : c ≠ '\r' ∨ r.head? ≠ some (.char '\n')
    · rw [lfOfCrlf_cons_of_ne hpair, List.all_cons, List.all_cons, ih]
    · obtain ⟨t, ht⟩ := eq_pair_of_not hpair
      obtain ⟨rfl, rfl⟩ := List.cons.inj ht
      rw [lfOfCrlf_cons_of_ne (.inl (by decide))] at ih
      simp only [lfOfCrlf, ih]
      simp [hreturn]

/-- Of a text that does not end in a return, no more than the returns of its pairs is lost. -/
theorem LineBreak.kept_eq {s : Text} (b : LineBreak) (h : endsInReturn s = false) :
    b.kept s = if b = .lf then LineBreak.crlf.undo s else s := by
  cases b with
  | lf => exact kept_lf h
  | crlf => exact kept_crlf s

theorem LineBreak.ite_undo_eq_self_iff {s : Text} (b : LineBreak) :
    (if b = .lf then LineBreak.crlf.undo s else s) = s ↔ b = .crlf ∨ hasCrlf s.toList = false := by
  cases b with
  | lf => simp [undo_crlf_eq_self_iff]
  | crlf => simp

theorem LineBreak.isBlank_kept {s : Text} (b : LineBreak) (h : endsInReturn s = false) :
    isBlank (b.kept s) = isBlank s := by
  rw [kept_eq b h]
  split
  · simp [undo, isBlank, all_isBlankChar_lfOfCrlf]
  · rfl

end Text

namespace Source

open Text Block

variable {d : Dialect} {s : Source} {summary : Text}

theorem summary?_ofText_annotate (hd : d.Lawful) (hs : s.Stable) (hblank : isBlank summary = false)
    (hend : endsInReturn summary = false) :
    (ofText (s.annotate d summary).text).summary? d = some (s.lineBreak.kept summary) := by
  rw [summary?_congr (lines_ofText_annotate hd hs summary)]
  exact summary?_annotate hd (by rw [LineBreak.isBlank_kept _ hend, hblank]) s

theorem endsInReturn_of_outdent {indent l : Text} (h : endsInReturn (outdent indent l) = true) :
    endsInReturn l = true := by
  unfold outdent at h
  split at h
  · rename_i cs hcs
    obtain ⟨front, hfront⟩ := endsInReturn_iff.mp h
    rw [Text.toList_ofList] at hfront
    apply endsInReturn_iff.mpr
    exact ⟨indent.toList ++ front, by rw [dropChars?_eq_some_iff.mp hcs, hfront, List.append_assoc]⟩
  · exact h

/-- In a file of line feeds there are no pairs, so there are none in its summary either. -/
theorem hasCrlf_of_summary? (hs : s.Stable) (hbreak : s.lineBreak = .lf)
    (hne : d.header ≠ d.footer) (h : s.summary? d = some summary) :
    hasCrlf summary.toList = false := by
  obtain ⟨hextract, -⟩ := extract?_of_summary? hs hne h
  obtain ⟨c, hc, hbody⟩ := Option.map_eq_some_iff.mp hextract
  have hlines := ((cut?_eq_some_iff hne).mp hc).lines_eq
  have hinner : ∀ l ∈ c.body, l ∈ s.lines.dropLast := by
    intro l hl
    rw [hlines, List.dropLast_append_of_ne_nil (by simp), List.dropLast_cons_of_ne_nil (by simp),
      List.dropLast_append_of_ne_nil (by simp)]
    simp [hl]
  have hnone : (splitLines summary).dropLast.any endsInReturn = false := by
    apply List.any_eq_false.mpr
    intro l hl hend
    rw [← hbody] at hl
    obtain ⟨m, hm, rfl⟩ := List.mem_map.mp (List.dropLast_subset _ hl)
    have hreturn := hs.returns hbreak m (hinner m hm)
    rw [endsInReturn_of_outdent hend] at hreturn
    simp at hreturn
  have hjoin := hasCrlf_joinLines fun _ hl => lf_not_mem_of_mem_splitLines (s := summary) hl
  rwa [joinLines_splitLines, hnone] at hjoin

end Source

/-- What an answer counts as is neither blank nor does it end in a blank. -/
theorem Summarizer.of_summaryOf {reply : Except CompletionError Completion} {summary : Text}
    (h : summaryOf reply = .ok summary) :
    Text.isBlank summary = false ∧ Text.endsInReturn summary = false := by
  unfold summaryOf at h
  split at h
  · simp at h
  · simp at h
  · rename_i c
    simp only at h
    split at h
    · simp at h
    · rename_i hne
      rw [← Except.ok.inj h]
      exact ⟨Text.isBlank_trim hne, Text.endsInReturn_trim _⟩

/-- Every answer is what a chat comes to. -/
def Supply.Chats {α σ : Type} (supply : Supply α σ) : Prop :=
  ∀ a path content outside, ∃ reply,
    (supply.ask a path content outside).1.outcome = Summarizer.summaryOf reply

theorem Supply.chats_online (h : Host) : (Supply.online h).Chats :=
  fun (s, c) _ content w => ⟨(c.complete (s.request content) w).1, rfl⟩

namespace Service

open Text

variable {α σ : Type} {sv : Service α σ} {path : Text} {file : Path} {source : Source}
  {s : Session α σ}

theorem of_replies (hchats : sv.supply.Chats) {summary : Text} (h : sv.Replies summary) :
    isBlank summary = false ∧ endsInReturn summary = false := by
  obtain ⟨summarizer, path, content, outside, hanswer⟩ := h
  obtain ⟨reply, hreply⟩ := hchats summarizer path content outside
  exact Summarizer.of_summaryOf (hreply.symm.trans hanswer)

/-- A summary that is generated is written into the file. -/
theorem annotate_of_generated {d : Dialect} {summary : Text} {asked : Session α σ} {t : Tree}
    (hyes : sv.isSupported path = true) (hin : sv.embedding? path = some d)
    (hread : sv.read s.tree path = .ok (file, source)) (hnone : sv.embedded? path source = none)
    (hgen : sv.generate path source s = (.ok summary, asked))
    (hwrite : s.tree.replaceText file (source.annotate d summary).text = (.ok (), t))
    (known : Index) : sv.annotate known path s =
      (.ok ⟨path, .generated summary⟩, Session.note { asked with tree := t } (.embedded path)) := by
  have htree : asked.tree = s.tree := by
    rw [← generate_tree sv path source s, hgen]
  rw [← htree] at hwrite
  rw [annotate, hyes, reusable?_of_embedding? known hin, hread]
  simp only [Bool.not_true, Bool.false_eq_true, if_false, hnone, hgen, hin, write, hwrite]

/-- Where the file holds a summary, or one is generated and the file can be written, the first call
comes to a summary; every later one finds the same one without its pairs, if the file was written
with line feeds, and leaves all as it is. -/
theorem annotate_twice {d : Dialect} (hyes : sv.isSupported path = true)
    (hin : sv.embedding? path = some d) (hforce : sv.settings.force = false)
    (hchats : sv.supply.Chats) (hread : sv.read s.tree path = .ok (file, source))
    (hgiven : source.summary? d = none → ∃ summary asked t,
      sv.generate path source s = (.ok summary, asked) ∧
      s.tree.replaceText file (source.annotate d summary).text = (.ok (), t)) (known : Index) :
    ∃ a s₁ first second, sv.annotate known path s = (.ok a, s₁) ∧
      a.outcome.summary? = some first ∧
      second = (if source.lineBreak = .lf then LineBreak.crlf.undo first else first) ∧
      (second = first ↔ source.lineBreak = .crlf ∨ hasCrlf first.toList = false) ∧
      ∀ (known' : Index) (s₂ : Session α σ), s₂.tree = s₁.tree →
        sv.annotate known' path s₂ =
          (.ok ⟨path, .embedded second⟩, s₂.note (.blockReused path)) := by
  have hd := Dialect.lawful_of_ofExtension? (ofExtension?_of_embedding? hin)
  have hstable := stable_read hread
  have hagain {t : Tree} {source' : Source} {found : Text}
      (hread' : sv.read t path = .ok (file, source')) (hfound : source'.summary? d = some found)
      (known' : Index) (s₂ : Session α σ) (hs₂ : s₂.tree = t) : sv.annotate known' path s₂ =
        (.ok ⟨path, .embedded found⟩, s₂.note (.blockReused path)) :=
    annotate_of_embedded hyes (reusable?_of_embedding? known' hin) (hs₂ ▸ hread')
      ((embedded?_eq hforce hin source').trans hfound)
  cases hfound : source.summary? d with
  | some summary =>
    have hiff := LineBreak.ite_undo_eq_self_iff (s := summary) source.lineBreak
    have hsame : source.lineBreak = .crlf ∨ hasCrlf summary.toList = false := by
      cases hbreak : source.lineBreak with
      | lf => exact .inr (Source.hasCrlf_of_summary? hstable hbreak hd.header_ne_footer hfound)
      | crlf => exact .inl rfl
    refine ⟨_, _, summary, _, hagain hread hfound known s rfl, rfl, rfl, hiff, ?_⟩
    rw [hiff.mpr hsame]
    exact hagain hread hfound
  | none =>
    obtain ⟨summary, asked, t, hgen, hwrite⟩ := hgiven hfound
    obtain ⟨hblank, hend⟩ := of_replies hchats (generate_ok hgen)
    have hfirst := annotate_of_generated hyes hin hread
      ((embedded?_eq hforce hin source).trans hfound) hgen hwrite known
    have hwritten := Source.summary?_ofText_annotate hd hstable hblank hend
    rw [LineBreak.kept_eq _ hend] at hwritten
    exact ⟨_, _, summary, _, hfirst, rfl, rfl, LineBreak.ite_undo_eq_self_iff _,
      hagain (read_of_write hread hwrite) hwritten⟩

theorem chats_always {reply : Text} (hblank : isBlank reply = false) (htrim : trim reply = reply) :
    (always reply).supply.Chats := by
  intro _ _ _ _
  refine ⟨.ok ⟨reply, [], none⟩, ?_⟩
  have hne : reply ≠ "" := by
    rintro rfl
    simp [isBlank] at hblank
  simp [always, Supply.always, Summarizer.summaryOf, htrim, hne]

/-- In a file with pairs, a summary with a pair is found as it was generated. -/
theorem annotate_twice_pairs : ∃ s₁ : Session Unit Unit,
    (always "a\r\nb").annotate [] "a.ts" (lone "a.ts" "x\r\n") =
      (.ok ⟨"a.ts", .generated "a\r\nb"⟩, s₁) ∧
    ∀ (known : Index) (s₂ : Session Unit Unit), s₂.tree = s₁.tree →
      (always "a\r\nb").annotate known "a.ts" s₂ =
        (.ok ⟨"a.ts", .embedded "a\r\nb"⟩, s₂.note (.blockReused "a.ts")) := by
  let source : Source := ⟨["x", ""], .crlf⟩
  have hread : (always "a\r\nb").read (lone "a.ts" "x\r\n").tree "a.ts" =
      .ok (⟨.relative, ["a.ts"]⟩, source) := by decide +kernel
  have hgenerated : ((always "a\r\nb").generate "a.ts" source (lone "a.ts" "x\r\n")).1 =
      .ok "a\r\nb" := by decide +kernel
  have hwritten : ((lone "a.ts" "x\r\n").tree.replaceText ⟨.relative, ["a.ts"]⟩
      (source.annotate .script "a\r\nb").text).1 = .ok () := by decide +kernel
  have hgen := Prod.fst_eq_iff.mp hgenerated
  have hwrite := Prod.fst_eq_iff.mp hwritten
  obtain ⟨a, s₁, first, second, hcall, hsome, hsecond, -, hagain⟩ := annotate_twice
    (by decide +kernel)
    (by decide +kernel : (always "a\r\nb").embedding? "a.ts" = some .script) rfl
    (chats_always (by decide +kernel) (by decide +kernel)) hread
    (fun _ => ⟨_, _, _, hgen, hwrite⟩) []
  have hfirst : ((always "a\r\nb").annotate [] "a.ts" (lone "a.ts" "x\r\n")).1 =
      .ok ⟨"a.ts", .generated "a\r\nb"⟩ := by decide +kernel
  obtain rfl : a = ⟨"a.ts", .generated "a\r\nb"⟩ := by
    rw [hcall] at hfirst
    exact Except.ok.inj hfirst
  obtain rfl : first = "a\r\nb" := (Option.some.inj hsome).symm
  obtain rfl : second = "a\r\nb" := hsecond
  exact ⟨s₁, hcall, hagain⟩

/-- In a file of line feeds it is not. -/
theorem not_annotate_twice : ∃ s₁ s₂ : Session Unit Unit,
    (always "a\r\nb").annotate [] "a.ts" (lone "a.ts" "x\n") =
      (.ok ⟨"a.ts", .generated "a\r\nb"⟩, s₁) ∧
    (always "a\r\nb").annotate [] "a.ts" s₁ = (.ok ⟨"a.ts", .embedded "a\nb"⟩, s₂) := by
  have hfirst : ((always "a\r\nb").annotate [] "a.ts" (lone "a.ts" "x\n")).1 =
      .ok ⟨"a.ts", .generated "a\r\nb"⟩ := by decide +kernel
  have hsecond : ((always "a\r\nb").annotate [] "a.ts"
      ((always "a\r\nb").annotate [] "a.ts" (lone "a.ts" "x\n")).2).1 =
      .ok ⟨"a.ts", .embedded "a\nb"⟩ := by decide +kernel
  exact ⟨_, _, Prod.fst_eq_iff.mp hfirst, Prod.fst_eq_iff.mp hsecond⟩

end Service

end Synopsis
