import Synopsis.Proofs.Block.Renewal
import Synopsis.Proofs.Service.Preserving

namespace Synopsis

open Text Block

/-- A source that was annotated, as it is read again. -/
theorem Source.holdsSingle_annotate_iff {d : Dialect} (hd : d.Lawful) {s : Source} (h : s.Stable)
    (summary : Text) : HoldsSingle d (Source.ofText (s.annotate d summary).text).lines ↔
      ∀ c, cut? d.header d.footer s.lines = some c → isIn d c.after = false := by
  rw [lines_ofText_annotate hd h]
  exact holdsSingle_place_iff hd (s.lineBreak.kept summary) s.lines

namespace Service

variable {α σ : Type} {sv : Service α σ} {known : Index} {path : Text} {file : Path}
  {s s' : Session α σ} {d : Dialect} {raw summary : Text}

/-- When a file has a single block, after a summary was generated for it. -/
theorem single_of_generated_iff (hin : sv.embedding? path = some d)
    (hplace : sv.place path = .ok file) (hraw : s.tree.readBytes file = .ok (Utf8.encode raw))
    (hcall : sv.annotate known path s = (.ok ⟨path, .generated summary⟩, s')) :
    ∃ new, s'.tree.readBytes file = .ok (Utf8.encode new) ∧
      (HoldsSingle d (Source.ofText new).lines ↔
        ∀ c, cut? d.header d.footer (Source.ofText raw).lines = some c →
          isIn d c.after = false) := by
  have hd := Dialect.lawful_of_ofExtension? (ofExtension?_of_embedding? hin)
  have hexact := readExact_of_annotate hplace hraw hcall
  have hread : sv.read s.tree path = .ok (file, .ofText raw) :=
    read_eq_ok_iff.mpr ⟨hplace, raw, hexact, rfl⟩
  have hnew := readExact_of_write hread (replaceText_of_generated hin hplace hexact hcall)
  have hsingle := Source.holdsSingle_annotate_iff hd (Source.stable_ofText raw) summary
  exact ⟨_, (Tree.readExact_eq_ok_iff_readBytes.mp hnew).1, hsingle⟩

/-- A blank block. -/
theorem single_of_generated_lone : ∃ (new : Text) (s' : Session Unit Unit),
    (always "s").annotate [] "a.sh" (lone "a.sh" "### AUTO-SUMMARY ###\n### END-SUMMARY ###\n") =
      (.ok ⟨"a.sh", .generated "s"⟩, s') ∧
    s'.tree.readBytes ⟨.relative, ["a.sh"]⟩ = .ok (Utf8.encode new) ∧
    HoldsSingle .hash (Source.ofText new).lines := by
  have hfirst : ((always "s").annotate [] "a.sh"
      (lone "a.sh" "### AUTO-SUMMARY ###\n### END-SUMMARY ###\n")).1 =
      .ok ⟨"a.sh", .generated "s"⟩ := by decide +kernel
  have hcall := Prod.fst_eq_iff.mp hfirst
  have hbytes : (lone "a.sh" "### AUTO-SUMMARY ###\n### END-SUMMARY ###\n").tree.readBytes
      ⟨.relative, ["a.sh"]⟩ =
      .ok (Utf8.encode "### AUTO-SUMMARY ###\n### END-SUMMARY ###\n") := by decide +kernel
  have hcut : cut? Dialect.hash.header Dialect.hash.footer
      (Source.ofText "### AUTO-SUMMARY ###\n### END-SUMMARY ###\n").lines =
      some ⟨[], [], [""]⟩ := by decide +kernel
  obtain ⟨new, hnew, hiff⟩ := single_of_generated_iff
    (by decide +kernel : (always "s").embedding? "a.sh" = some .hash) (by decide +kernel) hbytes
    hcall
  refine ⟨new, _, hcall, hnew, hiff.mpr fun c hc => ?_⟩
  rw [hcut, Option.some.injEq] at hc
  rw [← hc]
  decide +kernel

/-- Of two blocks the second one stays, behind the new one. -/
theorem not_single_of_generated : ∃ (new : Text) (s' : Session Unit Unit),
    Service.annotate { always "s" with settings := { Settings.standard with force := true } } []
        "a.ts" (lone "a.ts" ("/** AUTO-SUMMARY **\n   a\n*** END-SUMMARY **/\n" ++
          "/** AUTO-SUMMARY **\n   b\n*** END-SUMMARY **/\nx\n")) =
      (.ok ⟨"a.ts", .generated "s"⟩, s') ∧
    s'.tree.readBytes ⟨.relative, ["a.ts"]⟩ = .ok (Utf8.encode new) ∧
    isIn .script (remove .script (Source.ofText new).lines) = true := by
  have hfirst : (Service.annotate
      { always "s" with settings := { Settings.standard with force := true } } [] "a.ts"
      (lone "a.ts" ("/** AUTO-SUMMARY **\n   a\n*** END-SUMMARY **/\n" ++
        "/** AUTO-SUMMARY **\n   b\n*** END-SUMMARY **/\nx\n"))).1 =
      .ok ⟨"a.ts", .generated "s"⟩ := by decide +kernel
  refine ⟨"/** AUTO-SUMMARY **\n   s\n*** END-SUMMARY **/\n\n" ++
    "/** AUTO-SUMMARY **\n   b\n*** END-SUMMARY **/\nx\n", _, Prod.fst_eq_iff.mp hfirst, ?_, ?_⟩
  · decide +kernel
  · decide +kernel

end Service

end Synopsis
