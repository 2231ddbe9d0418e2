import Mathlib.Data.List.Induction
import Synopsis.Proofs.Service.History
import Synopsis.Proofs.Source.Outside

namespace Synopsis.Service

open Text

variable {α σ : Type} {sv : Service α σ} {path : Text} {d : Dialect} {file : Path}
  {c : Course α σ} {s : Session α σ} {raw old new : Text}

/-- What a call may make of a text. -/
inductive Rewrites (sv : Service α σ) (d : Dialect) (raw : Text) : Text → Prop where
  | same : Rewrites sv d raw raw
  | annotated (summary : Text) (hreply : sv.Replies summary) :
    Rewrites sv d raw ((Source.ofText raw).annotate d summary).text
  | stripped (stripped : Source) (hstrip : (Source.ofText raw).strip? d = some stripped) :
    Rewrites sv d raw stripped.text

theorem session_annotate (force : Bool) (known : Index) :
    (sv.perform path c (.annotate force known)).session =
      ((sv.forcing force).annotate known path c.session).2 := by
  rw [perform]
  split
  · rename_i h
    rw [h]
  · rename_i h
    rw [h]

theorem session_strip :
    (sv.perform path c .strip).session = (sv.strip path c.session).2 := by
  rw [perform]

theorem readExact_perform (hext : Dialect.ofExtension? (Path.extension path) = some d)
    (hplace : sv.place path = .ok file) (hraw : c.session.tree.readExact file = .ok raw)
    (call : Call) : ∃ new, (sv.perform path c call).session.tree.readExact file = .ok new ∧
      sv.Rewrites d raw new := by
  have hread : sv.read c.session.tree path = .ok (file, .ofText raw) :=
    read_eq_ok_iff.mpr ⟨hplace, raw, hraw, rfl⟩
  cases call with
  | annotate force known =>
    have hspec := annotate_spec (sv.forcing force) known path c.session
    rw [session_annotate]
    generalize ((sv.forcing force).annotate known path c.session).2.tree = t at hspec
    generalize ((sv.forcing force).annotate known path c.session).1 = result at hspec
    cases hspec with
    | written hyes file' source hread' hnone summary hreply d' hin t' hwrite =>
      -- force makes no difference to what is read and in which dialect it is written
      have hsame : sv.read c.session.tree path = .ok (file', source) := hread'
      have hdialect : Dialect.ofExtension? (Path.extension path) = some d' :=
        ofExtension?_of_embedding? hin
      rw [hread, Except.ok.injEq, Prod.mk.injEq] at hsame
      obtain ⟨rfl, rfl⟩ := hsame
      rw [hext, Option.some.injEq] at hdialect
      subst hdialect
      exact ⟨_, readExact_of_write hread hwrite, .annotated summary hreply⟩
    | _ => exact ⟨raw, hraw, .same⟩
  | strip =>
    have hspec := strip_spec sv path c.session
    rw [session_strip]
    generalize (sv.strip path c.session).2.tree = t at hspec
    generalize (sv.strip path c.session).1 = result at hspec
    cases hspec with
    | written d' hd' file' source hread' stripped hstrip t' hwrite =>
      rw [hread, Except.ok.injEq, Prod.mk.injEq] at hread'
      obtain ⟨rfl, rfl⟩ := hread'
      rw [hext, Option.some.injEq] at hd'
      subst hd'
      exact ⟨_, readExact_of_write hread hwrite, .stripped stripped hstrip⟩
    | _ => exact ⟨raw, hraw, .same⟩

/-- The text of the file after any calls: each call makes it of the one before. -/
theorem exists_text (hext : Dialect.ofExtension? (Path.extension path) = some d)
    (hplace : sv.place path = .ok file) (hraw : s.tree.readExact file = .ok raw) :
    ∃ text : List Call → Text, text [] = raw ∧
      (∀ calls : List Call, (calls.foldl (sv.perform path) ⟨s, none⟩).session.tree.readExact file =
        .ok (text calls)) ∧
      ∀ front call, sv.Rewrites d (text front) (text (front ++ [call])) := by
  let result (calls : List Call) :=
    (calls.foldl (sv.perform path) ⟨s, none⟩).session.tree.readExact file
  let text (calls : List Call) : Text := (result calls).toOption.getD ""
  have htext (calls : List Call) : result calls = .ok (text calls) := by
    induction calls using List.reverseRecOn with
    | nil => simp [text, result, hraw, Except.toOption]
    | append_singleton front call ih =>
      obtain ⟨new, hnew, -⟩ := readExact_perform hext hplace ih call
      have hlast : result (front ++ [call]) = .ok new := by
        simpa [result, List.foldl_append] using hnew
      simp [text, hlast, Except.toOption]
  refine ⟨text, ?_, htext, ?_⟩
  · have hnil := htext []
    simpa [result, hraw] using hnil.symm
  · intro front call
    obtain ⟨new, hnew, hstep⟩ := readExact_perform hext hplace (htext front) call
    have hlast : result (front ++ [call]) = .ok new := by
      simpa [result, List.foldl_append] using hnew
    rw [htext, Except.ok.injEq] at hlast
    rwa [hlast]

namespace Rewrites

theorem return_mem_outside_iff (hd : d.Lawful) (h : sv.Rewrites d old new)
    (hfree : ('\r' : Rune) ∉ Source.outside d old) : ('\r' : Rune) ∈ Source.outside d new ↔
      hasCrlf old.toList = true ∧ new ≠ old ∧ ('\n' : Rune) ∈ Source.outside d new := by
  by_cases hsame : new = old
  · rw [hsame]
    simp [hfree]
  · cases h with
    | same => exact absurd rfl hsame
    | annotated summary hreply =>
      rw [Source.return_mem_outside_annotate_iff hd hfree, Source.lineBreak_ofText_eq_crlf_iff]
      simp [hsame]
    | stripped stripped hstrip =>
      rw [Source.return_mem_outside_strip_iff hd.header_ne_footer hfree hstrip,
        Source.lineBreak_ofText_eq_crlf_iff]
      simp [hsame]

theorem hasCrlf_eq_false (hd : d.Lawful) (h : sv.Rewrites d old new)
    (hreply : ∀ summary, sv.Replies summary → (splitLines summary).any endsInReturn = false)
    (hcrlf : hasCrlf old.toList = false) : hasCrlf new.toList = false := by
  have hbreak : (Source.ofText old).lineBreak = .lf :=
    Source.lineBreak_ofText_eq_lf_iff.mpr hcrlf
  cases h with
  | same => exact hcrlf
  | annotated summary hsummary =>
    rw [Source.hasCrlf_annotate hd (Source.stable_ofText old) hbreak]
    exact hreply summary hsummary
  | stripped stripped hstrip =>
    exact Source.hasCrlf_strip hd.header_ne_footer (Source.stable_ofText old) hbreak hstrip

end Rewrites

/-- For a file without a carriage return: outside the block it has none at any time of a history,
unless a call rewrites it at a time when it holds a pair, and then every line break outside the
block is made one; if no line of a summary ends in a return, that never happens. -/
theorem plain_of_history_iff (hext : Dialect.ofExtension? (Path.extension path) = some d)
    (hplace : sv.place path = .ok file) (hraw : s.tree.readExact file = .ok raw)
    (hplain : ('\r' : Rune) ∉ raw.toList) : ∃ text : List Call → Text,
      (∀ calls : List Call, (calls.foldl (sv.perform path) ⟨s, none⟩).session.tree.readExact file =
        .ok (text calls)) ∧
      (∀ calls, (∀ front, front <+: calls → ('\r' : Rune) ∉ Source.outside d (text front)) ↔
        ∀ front call, front ++ [call] <+: calls → hasCrlf (text front).toList = true →
          text (front ++ [call]) = text front ∨
            ('\n' : Rune) ∉ Source.outside d (text (front ++ [call]))) ∧
      ((∀ summary, sv.Replies summary → (splitLines summary).any endsInReturn = false) →
        ∀ calls, ('\r' : Rune) ∉ Source.outside d (text calls)) := by
  have hd := Dialect.lawful_of_ofExtension? hext
  obtain ⟨text, hnil, htext, hstep⟩ := exists_text hext hplace hraw
  have hstart : ('\r' : Rune) ∉ Source.outside d (text []) := by
    rw [hnil]
    exact fun h => hplain (Source.mem_of_mem_outside (by decide) h)
  refine ⟨text, htext, ?_, ?_⟩
  · intro calls
    constructor
    · intro h front call hprefix hpair
      have hfront := h front ((List.prefix_append front [call]).trans hprefix)
      have hiff := (hstep front call).return_mem_outside_iff hd hfront
      have hlast := h _ hprefix
      by_contra hnot
      rw [not_or, not_not] at hnot
      exact hlast (hiff.mpr ⟨hpair, hnot⟩)
    · intro h front
      induction front using List.reverseRecOn with
      | nil => exact fun _ => hstart
      | append_singleton front call ih =>
        intro hprefix hreturn
        have hfront := ih ((List.prefix_append front [call]).trans hprefix)
        obtain ⟨hpair, hne, hlf⟩ := ((hstep front call).return_mem_outside_iff hd hfront).mp hreturn
        rcases h front call hprefix hpair with hsame | hnone
        · exact hne hsame
        · exact hnone hlf
  · intro hreply calls
    have hboth : hasCrlf (text calls).toList = false ∧
        ('\r' : Rune) ∉ Source.outside d (text calls) := by
      induction calls using List.reverseRecOn with
      | nil => exact ⟨hnil ▸ hasCrlf_of_return_not_mem hplain, hstart⟩
      | append_singleton front call ih =>
        refine ⟨(hstep front call).hasCrlf_eq_false hd hreply ih.1, ?_⟩
        rw [(hstep front call).return_mem_outside_iff hd ih.2]
        simp [ih.1]
    exact hboth.2

theorem plain_of_history_iff_lone : ∃ text : List Call → Text,
    (∀ calls : List Call, (calls.foldl ((always "a\rb").perform "a.sh")
        ⟨lone "a.sh" "#!/bin/sh\nls\n", none⟩).session.tree.readExact ⟨.relative, ["a.sh"]⟩ =
      .ok (text calls)) ∧
    ∀ calls, ('\r' : Rune) ∉ Source.outside .hash (text calls) := by
  have hplace : (always "a\rb").place "a.sh" = .ok ⟨.relative, ["a.sh"]⟩ := by decide +kernel
  have hraw : (lone "a.sh" "#!/bin/sh\nls\n").tree.readExact ⟨.relative, ["a.sh"]⟩ =
      .ok "#!/bin/sh\nls\n" := by decide +kernel
  have hext : Dialect.ofExtension? (Path.extension "a.sh") = some .hash := by decide +kernel
  obtain ⟨text, htext, -, hplain⟩ := plain_of_history_iff hext hplace hraw (by decide)
  refine ⟨text, htext, hplain ?_⟩
  intro summary hsummary
  rw [replies_always_iff.mp hsummary]
  decide +kernel

/-- A summary with a pair, and the whole script is written with pairs when it is taken out. -/
theorem not_plain_of_history :
    ('\r' : Rune) ∉ Source.outside .hash "#!/bin/sh\nls\n" ∧
    ([Call.annotate false [], .strip].foldl ((always "a\r\nb").perform "a.sh")
        ⟨lone "a.sh" "#!/bin/sh\nls\n", none⟩).session.tree.readExact ⟨.relative, ["a.sh"]⟩ =
      .ok "#!/bin/sh\r\nls\r\n" ∧
    ('\r' : Rune) ∈ Source.outside .hash "#!/bin/sh\r\nls\r\n" := by
  decide +kernel

end Synopsis.Service
