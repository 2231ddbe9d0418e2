import Synopsis.Proofs.Discovery
import Synopsis.Proofs.Service.Independence
import Synopsis.Proofs.Service.Undo

namespace Synopsis

/-- A relative path whose first part starts with a tilde. -/
def Path.BeginsAtHome (p : Path) : Prop :=
  p.anchor = .relative ∧
    ∃ first rest, p.parts = first :: rest ∧ first.toList.head? = some (.char '~')

theorem Host.expand_of_not_beginsAtHome (h : Host) {p : Path} (hp : ¬ p.BeginsAtHome) :
    h.expand p = .ok p := by
  unfold expand
  split
  · rename_i first rest hanchor hparts
    have hplain : first.toList.head? ≠ some (.char '~') :=
      fun htilde => hp ⟨hanchor, first, rest, hparts, htilde⟩
    rw [if_neg hplain]
  · rfl

/-- What a path that starts with a tilde stands for: nothing, or what its other parts lead to from a
home directory. -/
theorem Host.expand_of_beginsAtHome (h : Host) {p : Path} (hp : p.BeginsAtHome) :
    h.expand p = .error .unknown ∨ ∃ first rest home, p.parts = first :: rest ∧
      h.homeFor first.toList = some home ∧
      h.expand p = .ok ⟨(Path.ofText home).anchor, (Path.ofText home).parts ++ rest⟩ := by
  obtain ⟨hanchor, first, rest, hparts, htilde⟩ := hp
  obtain ⟨anchor, parts⟩ := p
  obtain rfl : anchor = .relative := hanchor
  obtain rfl : parts = first :: rest := hparts
  cases hhome : h.homeFor first.toList with
  | none =>
    left
    simp [expand, htilde, hhome]
  | some home =>
    by_cases hagain : home.toList.head? = some (.char '~')
    · left
      simp [expand, htilde, hhome, hagain]
    · right
      refine ⟨first, rest, home, rfl, hhome, ?_⟩
      simp [expand, htilde, hhome, hagain]

namespace Source

open Text

variable {d : Dialect} {raw summary l : Text}

theorem mem_of_mem_lines_ofText {c : Rune} (hl : l ∈ (ofText raw).lines)
    (hc : c ∈ l.toList) : c ∈ raw.toList := by
  rw [lines_ofText] at hl
  obtain ⟨m, hm, rfl | rfl⟩ := mem_of_mem_mapInit hl
  · exact mem_of_mem_splitLines hm hc
  · exact mem_of_mem_splitLines hm (mem_of_mem_dropReturn hc)

/-- What is left of a text without halves of characters can be written. -/
theorem fault?_text_of_strip {stripped : Source} (hd : d.Lawful)
    (hstrip : (ofText raw).strip? d = some stripped) (hraw : Encoding.utf8.fault? raw = none) :
    Encoding.utf8.fault? stripped.text = none := by
  obtain ⟨lines, hlines, rfl⟩ := Option.map_eq_some_iff.mp hstrip
  apply fault?_text_of_lines (by decide) (by decide)
  intro l hl c hc
  have hl' : l ∈ (ofText raw).lines :=
    (Block.strip?_sublist hd.header_ne_footer hlines).subset hl
  exact Encoding.fault?_eq_none_iff.mp hraw c (mem_of_mem_lines_ofText hl' hc)

/-- Such a text can also be written with a summary that holds none. -/
theorem fault?_text_of_annotate {extension : Text}
    (hd : Dialect.ofExtension? extension = some d) (hraw : Encoding.utf8.fault? raw = none)
    (hsummary : Encoding.utf8.fault? summary = none) :
    Encoding.utf8.fault? ((ofText raw).annotate d summary).text = none := by
  have hlawful := Dialect.lawful_of_ofExtension? hd
  have hparts : [d.header, d.footer, d.indent].all (·.toList.all Encoding.utf8.holds) = true := by
    rcases Dialect.ofExtension?_cases hd with rfl | rfl <;> decide +kernel
  have hpart (part : Text) (hmem : part ∈ [d.header, d.footer, d.indent]) (c : Rune)
      (hc : c ∈ part.toList) : Encoding.utf8.holds c = true :=
    List.all_eq_true.mp (List.all_eq_true.mp hparts part hmem) c hc
  rw [Encoding.fault?_eq_none_iff] at hraw hsummary
  have hold {m : Text} (hm : m ∈ Block.remove d (ofText raw).lines) {c : Rune}
      (hc : c ∈ m.toList) : Encoding.utf8.holds c = true := by
    have hmem := (Block.remove_sublist d _ hlawful.header_ne_footer).subset hm
    exact hraw c (mem_of_mem_lines_ofText hmem hc)
  apply fault?_text_of_lines (by decide) (by decide)
  intro l hl c hc
  rw [annotate_lines hlawful, List.mem_append, List.mem_append] at hl
  rcases hl with hl | hl | hl
  · obtain ⟨m, hm, rfl⟩ := mem_front hl
    exact hold hm (mem_of_mem_trim hc)
  · rcases mem_compose_iff.mp hl with rfl | rfl | ⟨m, hm, rfl⟩
    · exact hpart _ (by simp) c hc
    · exact hpart _ (by simp) c hc
    · rw [Text.toList_append, List.mem_append] at hc
      rcases hc with hc | hc
      · exact hpart _ (by simp) c hc
      · exact hsummary c (mem_of_mem_splitLines hm hc)
  · rcases mem_rest hl with rfl | hl
    · simp at hc
    · exact hold hl hc

end Source

namespace Service

variable {α σ : Type} {sv : Service α σ} {known : Index} {path : Text} {file : Path}
  {source : Source} {s s' c : Session α σ} {loc : Location} {f : Failure}

/-- A failure that does not lie in the file: there is no summarizer, or it breaks down, or it
answers with a text that cannot be written. -/
inductive OfSummarizer (sv : Service α σ) : Failure → Prop where
  | unbuilt (why : BuildFault) : OfSummarizer sv (.unbuilt why)
  | accident (why : WireFault) : OfSummarizer sv (.accident why)
  | unencodable (summary : Text) (hreply : sv.Replies summary)
    (hhalf : Text.Encoding.utf8.fault? summary ≠ none) (why : Text.EncodingFault) :
    OfSummarizer sv (.unencodable why)

theorem generate_fails (h : (sv.generate path source s).1 = .error f) :
    f.path? = some path ∨ sv.OfSummarizer f := by
  rcases generate_error h with hpath | ⟨-, why, -, rfl⟩ | ⟨why, rfl⟩
  · exact .inl hpath
  · exact .inr (.unbuilt why)
  · exact .inr (.accident why)

/-- Where a path has a place that can be named, annotating it fails because of the file or because
of the summarizer. -/
theorem annotate_fails (hplace : sv.place path = .ok file)
    (hnamed : ∀ part ∈ file.parts, Nameable part)
    (h : (sv.annotate known path s).1 = .error f) :
    f.path? = some path ∨ sv.OfSummarizer f := by
  cases hprep : sv.prepare known path s.tree with
  | inl early =>
    obtain ⟨result, notes⟩ := early
    rw [annotate_of_inl hprep] at h
    obtain rfl : result = .error f := h
    exact .inl (path?_of_read_error hplace hnamed (read_of_prepare hprep))
  | inr found =>
    obtain ⟨file', source⟩ := found
    obtain ⟨-, -, hread, -⟩ := prepare_eq_inr_iff.mp hprep
    obtain rfl := eq_of_read hplace hread
    obtain ⟨-, raw, hraw, rfl⟩ := read_eq_ok_iff.mp hread
    rw [annotate_of_inr hprep] at h
    cases hgen : sv.generate path (Source.ofText raw) s with
    | mk answer asked =>
      rw [hgen] at h
      cases answer with
      | error e =>
        obtain rfl : e = f := Except.error.inj h
        exact generate_fails (congrArg Prod.fst hgen)
      | ok summary =>
        have hreply := generate_ok hgen
        have hwrite : (sv.finish path file (Source.ofText raw)
          (told path (.ok summary), asked)).1 = .error f := h
        rcases path?_of_finish_error (by simp) hwrite with
          hpath | ⟨d, _, e, rfl, hin, hsame, hfault⟩
        · exact .inl hpath
        · rw [← Except.ok.inj hsame] at hfault
          refine .inr (.unencodable summary hreply (fun hnone => ?_) e)
          rw [Source.fault?_text_of_annotate (ofExtension?_of_embedding? hin)
            (Tree.fault?_of_readExact hraw) hnone] at hfault
          cases hfault

theorem strip_fails (hplace : sv.place path = .ok file)
    (hnamed : ∀ part ∈ file.parts, Nameable part)
    (h : (sv.strip path s).1 = .error f) : f.path? = some path := by
  unfold strip at h
  cases hd : Dialect.ofExtension? (Path.extension path) with
  | none => simp [hd] at h
  | some d =>
    simp only [hd] at h
    cases hread : sv.read s.tree path with
    | error e =>
      simp only [hread, Except.error.injEq] at h
      subst h
      exact path?_of_read_error hplace hnamed hread
    | ok found =>
      obtain ⟨file', source⟩ := found
      obtain rfl := eq_of_read hplace hread
      obtain ⟨-, raw, hraw, rfl⟩ := read_eq_ok_iff.mp hread
      simp only [hread] at h
      cases hstrip : (Source.ofText raw).strip? d with
      | none => simp [hstrip] at h
      | some stripped =>
        simp only [hstrip] at h
        cases hwrite : write path file stripped s with
        | mk done last =>
          cases done with
          | ok _ => simp [hwrite] at h
          | error e =>
            simp only [hwrite, Except.error.injEq] at h
            subst h
            rcases write_fails (congrArg Prod.fst hwrite) with hpath | ⟨why, -, hfault⟩
            · exact hpath
            · rw [Source.fault?_text_of_strip (Dialect.lawful_of_ofExtension? hd) hstrip
                (Tree.fault?_of_readExact hraw)] at hfault
              cases hfault

theorem read_sameAt {t t' : Tree} (hplace : sv.place path = .ok file)
    (h : Tree.Alike (· ≠ t.destination file) t t') : sv.read t' path = sv.read t path := by
  apply read_alike h
  intro loc hloc
  rw [destination?_of_place hplace, Option.some.injEq] at hloc
  exact fun hne => hne hloc.symm

/-- Another session that differs in the contents of other files, and in what has been seen. -/
structure SameAt (sv : Service α σ) (loc : Location) (s c : Session α σ) : Prop where
  tree : Tree.Alike (· ≠ loc) s.tree c.tree
  holding : c.holding = s.holding
  outside : c.outside = s.outside
  build : sv.supply.build sv.settings c.tree s.outside =
    sv.supply.build sv.settings s.tree s.outside

theorem summon_sameAt (h : sv.SameAt loc s c) : (sv.summon c).1 = (sv.summon s).1 ∧
    (sv.summon c).2.outside = (sv.summon s).2.outside := by
  unfold summon
  rw [h.holding]
  cases s.holding with
  | lent a => exact ⟨rfl, h.outside⟩
  | own a => exact ⟨rfl, h.outside⟩
  | none =>
    simp only [h.outside, h.build]
    rcases sv.supply.build sv.settings s.tree s.outside with ⟨f | a, outside⟩ <;> exact ⟨rfl, rfl⟩

theorem generate_sameAt (h : sv.SameAt loc s c) (path : Text) (source : Source) :
    (sv.generate path source c).1 = (sv.generate path source s).1 := by
  obtain ⟨hfound, houtside⟩ := summon_sameAt h
  cases hs : sv.summon s with
  | mk found next =>
    cases hc : sv.summon c with
    | mk found' next' =>
      rw [hs, hc] at hfound houtside
      obtain rfl : found' = found := hfound
      change next'.outside = next.outside at houtside
      cases found' with
      | error f => rw [generate_of_unbuilt hs, generate_of_unbuilt hc]
      | ok a => rw [generate_of_summon hs, generate_of_summon hc, houtside]

/-- Nothing but the file at one place decides what annotating comes to. -/
theorem annotate_sameAt (hplace : sv.place path = .ok file) (known : Index)
    (h : sv.SameAt (s.tree.destination file) s c) :
    (sv.annotate known path c).1 = (sv.annotate known path s).1 ∧
      (sv.annotate known path c).2.tree.top.item? (s.tree.destination file) =
        (sv.annotate known path s).2.tree.top.item? (s.tree.destination file) := by
  have hfile : ¬ (s.tree.destination file ≠ s.tree.destination file) := fun hne => hne rfl
  have hitem := h.tree.item _ hfile
  have hprepared := prepare_congr (read_sameAt hplace h.tree) known
  cases hprep : sv.prepare known path s.tree with
  | inl early =>
    rw [annotate_of_inl hprep, annotate_of_inl (hprepared.trans hprep)]
    exact ⟨rfl, hitem⟩
  | inr found =>
    obtain ⟨file', source⟩ := found
    obtain ⟨-, -, hread, -⟩ := prepare_eq_inr_iff.mp hprep
    obtain rfl := eq_of_read hplace hread
    have hanswer := generate_sameAt h path source
    have htree := generate_tree sv path source c
    have htree' := generate_tree sv path source s
    rw [annotate_of_inr hprep, annotate_of_inr (hprepared.trans hprep)]
    cases hs : sv.generate path source s with
    | mk answer asked =>
      cases hc : sv.generate path source c with
      | mk answer' asked' =>
        rw [hs, hc] at hanswer
        rw [hs] at htree'
        rw [hc] at htree
        obtain rfl : answer' = answer := hanswer
        have halike : Tree.Alike (· ≠ s.tree.destination file) asked.tree asked'.tree := by
          rw [htree, htree']
          exact h.tree
        have hsame : asked.tree.destination file = s.tree.destination file := by rw [htree']
        have hkept : ¬ (asked.tree.destination file ≠ s.tree.destination file) :=
          fun hne => hne hsame
        obtain ⟨hdone, hafter, -⟩ := finish_alike halike hkept path source answer'
        refine ⟨hdone, ?_⟩
        rw [← hsame]
        exact hafter

/-- Nor does anything else decide what stripping comes to. -/
theorem strip_sameAt (hplace : sv.place path = .ok file)
    (h : Tree.Alike (· ≠ s.tree.destination file) s.tree c.tree) :
    (sv.strip path c).1 = (sv.strip path s).1 ∧
      (sv.strip path c).2.tree.top.item? (s.tree.destination file) =
        (sv.strip path s).2.tree.top.item? (s.tree.destination file) := by
  have hfile : ¬ (s.tree.destination file ≠ s.tree.destination file) := fun hne => hne rfl
  have hitem := h.item _ hfile
  have hread := read_sameAt hplace h
  unfold strip
  rw [hread]
  cases hd : Dialect.ofExtension? (Path.extension path) with
  | none => exact ⟨rfl, hitem⟩
  | some d =>
    simp only
    cases hfound : sv.read s.tree path with
    | error f => exact ⟨rfl, hitem⟩
    | ok found =>
      obtain ⟨file', source⟩ := found
      obtain rfl := eq_of_read hplace hfound
      simp only
      cases hstrip : source.strip? d with
      | none => exact ⟨rfl, hitem⟩
      | some stripped =>
        obtain ⟨hdone, hafter, -⟩ := write_alike h hfile path stripped
        simp only
        cases hs : write path file stripped s with
        | mk done last =>
          cases hc : write path file stripped c with
          | mk done' last' =>
            rw [hs, hc] at hdone hafter
            obtain rfl : done' = done := hdone
            cases done' with
            | error f => exact ⟨rfl, hafter⟩
            | ok _ => exact ⟨rfl, hafter⟩

variable {t : Tree} {top home : Path} {paths : List Text} {notes : List Note}

/-- A relative path is appended to the root, an absolute one stands in its place. -/
theorem place_eq (hroot : sv.host.expand sv.settings.root = .ok top) (path : Text) :
    sv.place path = (sv.host.expand (.ofText path)).map (top / ·) := by
  unfold place
  cases sv.host.expand (.ofText path) with
  | error f => rfl
  | ok q =>
    cases habs : q.isAbsolute with
    | true => simp [Except.map, bind, Except.bind, pure, Except.pure, habs, HDiv.hDiv, Path.join]
    | false =>
      simp [Except.map, bind, Except.bind, pure, Except.pure, habs, hroot, HDiv.hDiv, Path.join]

/-- A path whose file is that of a given path, and that has to do with no other file: it alone is
read and written, and what becomes of it and what is answered depends on no other. What fails is
this file or the summarizer. -/
structure Handles (sv : Service α σ) (path : Text) (file : Path) : Prop where
  place : sv.place path = .ok file
  annotateWrites (known : Index) (s s' : Session α σ) (summary : Text) (d : Dialect) :
    sv.annotate known path s = (.ok ⟨path, .generated summary⟩, s') →
    sv.embedding? path = some d → ∃ raw, s.tree.readExact file = .ok raw ∧
      s'.tree.readExact file = .ok ((Source.ofText raw).annotate d summary).text
  annotateChanges (known : Index) (s : Session α σ) :
    Tree.Alike (· = s.tree.destination file) s.tree (sv.annotate known path s).2.tree
  annotateReads (known : Index) (s c : Session α σ) : sv.SameAt (s.tree.destination file) s c →
    (sv.annotate known path c).1 = (sv.annotate known path s).1 ∧
      (sv.annotate known path c).2.tree.top.item? (s.tree.destination file) =
        (sv.annotate known path s).2.tree.top.item? (s.tree.destination file)
  annotateFails (known : Index) (s : Session α σ) (f : Failure) :
    (sv.annotate known path s).1 = .error f →
      f.path? = some path ∨ sv.OfSummarizer f
  stripWrites (s s' : Session α σ) : sv.strip path s = (.ok true, s') →
    ∃ d raw stripped, Dialect.ofExtension? (Path.extension path) = some d ∧
      s.tree.readExact file = .ok raw ∧ (Source.ofText raw).strip? d = some stripped ∧
      s'.tree.readExact file = .ok stripped.text
  stripChanges (s : Session α σ) :
    Tree.Alike (· = s.tree.destination file) s.tree (sv.strip path s).2.tree
  stripReads (s c : Session α σ) : Tree.Alike (· ≠ s.tree.destination file) s.tree c.tree →
    (sv.strip path c).1 = (sv.strip path s).1 ∧
      (sv.strip path c).2.tree.top.item? (s.tree.destination file) =
        (sv.strip path s).2.tree.top.item? (s.tree.destination file)
  stripFails (s : Session α σ) (f : Failure) : (sv.strip path s).1 = .error f →
    f.path? = some path

theorem exists_readExact_of_annotate {summary : Text} {d : Dialect}
    (hplace : sv.place path = .ok file)
    (hcall : sv.annotate known path s = (.ok ⟨path, .generated summary⟩, s'))
    (hin : sv.embedding? path = some d) : ∃ raw, s.tree.readExact file = .ok raw ∧
      s'.tree.readExact file = .ok ((Source.ofText raw).annotate d summary).text := by
  have hspec := annotate_spec sv known path s
  rw [hcall] at hspec
  generalize s'.tree = t' at hspec ⊢
  cases hspec with
  | indexed _ _ _ _ _ _ hout =>
    rw [hout] at hin
    cases hin
  | written _ file' source hread _ _ _ d' hin' _ hwrite =>
    obtain rfl := eq_of_read hplace hread
    obtain rfl : d' = d := Option.some.inj (hin'.symm.trans hin)
    obtain ⟨-, raw, hraw, rfl⟩ := read_eq_ok_iff.mp hread
    exact ⟨raw, hraw, readExact_of_write hread hwrite⟩

theorem exists_readExact_of_strip (hplace : sv.place path = .ok file)
    (hcall : sv.strip path s = (.ok true, s')) :
    ∃ d raw stripped, Dialect.ofExtension? (Path.extension path) = some d ∧
      s.tree.readExact file = .ok raw ∧ (Source.ofText raw).strip? d = some stripped ∧
      s'.tree.readExact file = .ok stripped.text := by
  have hspec := strip_spec sv path s
  rw [hcall] at hspec
  generalize s'.tree = t' at hspec ⊢
  cases hspec with
  | written d hd file' source hread stripped hstrip _ hwrite =>
    obtain rfl := eq_of_read hplace hread
    obtain ⟨-, raw, hraw, rfl⟩ := read_eq_ok_iff.mp hread
    exact ⟨d, raw, stripped, hd, hraw, hstrip, readExact_of_write hread hwrite⟩

theorem alike_annotate (hplace : sv.place path = .ok file) (known : Index) (s : Session α σ) :
    Tree.Alike (· = s.tree.destination file) s.tree (sv.annotate known path s).2.tree := by
  refine (annotate_spec sv known path s).alike.mono ?_
  rintro loc ⟨-, hloc⟩
  rw [destination?_of_place hplace, Option.some.injEq] at hloc
  exact hloc.symm

theorem Strips.alike_place {t t' : Tree} {result : Except Failure Bool}
    (h : Strips sv path t result t') (hplace : sv.place path = .ok file) :
    Tree.Alike (· = t.destination file) t t' := by
  cases h with
  | written d hd file' source hread stripped hstrip _ hwrite =>
    obtain rfl := eq_of_read hplace hread
    obtain ⟨-, raw, hexact, -⟩ := read_eq_ok_iff.mp hread
    exact Tree.replaceText_alike hexact hwrite
  | none => exact .refl _ _
  | failed f => exact .refl _ _

theorem handles_of_place (hplace : sv.place path = .ok file)
    (hnamed : ∀ part ∈ file.parts, Nameable part) : sv.Handles path file where
  place := hplace
  annotateWrites _ _ _ _ _ := exists_readExact_of_annotate hplace
  annotateChanges := alike_annotate hplace
  annotateReads known _ _ := annotate_sameAt hplace known
  annotateFails _ _ _ := annotate_fails hplace hnamed
  stripWrites _ _ := exists_readExact_of_strip hplace
  stripChanges s := (strip_spec sv path s).alike_place hplace
  stripReads _ _ := strip_sameAt hplace
  stripFails _ _ := strip_fails hplace hnamed

/-- What becomes of a path that starts with a tilde: it has no place, so that no call succeeds, or
its place is that of its other parts in a home directory. -/
inductive Astray (sv : Service α σ) (top : Path) (path : Text) : Prop where
  | nowhere (hplace : sv.place path = .error .unknown)
    (hannotate : ∀ known (s : Session α σ), sv.reusable? known path = none →
      sv.annotate known path s = (.error (.home .unknown), s))
    (hstrip : Dialect.ofExtension? (Path.extension path) ≠ none → ∀ s : Session α σ,
      sv.strip path s = (.error (.home .unknown), s))
  | home (first : Text) (rest : List Text) (home : Text)
    (hparts : (Path.ofText path).parts = first :: rest)
    (hhome : sv.host.homeFor first.toList = some home)
    (hplace : sv.place path =
      .ok (top / Path.mk (Path.ofText home).anchor ((Path.ofText home).parts ++ rest)))

theorem astray_of_beginsAtHome (hroot : sv.host.expand sv.settings.root = .ok top)
    (hyes : sv.isSupported path = true) (hp : (Path.ofText path).BeginsAtHome) :
    sv.Astray top path := by
  have hplace := place_eq hroot path
  rcases sv.host.expand_of_beginsAtHome hp with hnone | ⟨first, rest, home, hparts, hhome, hexpand⟩
  · rw [hnone] at hplace
    have hread (t : Tree) : sv.read t path = .error (.home .unknown) := by
      rw [read, hplace]
      rfl
    refine .nowhere hplace (fun known s hknown => ?_) fun hsome s => ?_
    · have hearly : sv.prepare known path s.tree = .inl (.error (.home .unknown), []) := by
        simp [prepare, hyes, hknown, hread]
      rw [annotate_of_inl hearly]
      simp [Session.record]
    · obtain ⟨d, hd⟩ := Option.ne_none_iff_exists'.mp hsome
      unfold strip
      simp only [hd, hread]
  · rw [hexpand] at hplace
    exact .home first rest home hparts hhome hplace

theorem nameable_of_isFile (h : t.isFile file = .ok true) : ∀ part ∈ file.parts, Nameable part := by
  refine Tree.nameable_parts_iff.mpr fun why hobstacle => ?_
  simp [Tree.isFile, Tree.look?, Tree.look, Tree.locate, hobstacle, Except.map] at h

/-- A file that is found is the file that is annotated and stripped, unless its path starts with a
tilde. -/
theorem handles_of_discover
    (hfound : Discovery.discover sv.host t sv.settings.root sv.settings.extensions =
      (.ok paths, notes)) (hpath : path ∈ paths) :
    ∃ top, sv.host.expand sv.settings.root = .ok top ∧ t.isFile (top / path) = .ok true ∧
      (¬ (Path.ofText path).BeginsAtHome → sv.Handles path (top / path)) ∧
      ((Path.ofText path).BeginsAtHome → sv.Astray top path) := by
  obtain ⟨top, hroot, -, hiff⟩ := Discovery.discover_ok hfound
  obtain ⟨-, hextension, -, hfile⟩ := (hiff path).mp hpath
  refine ⟨top, hroot, hfile, fun hp => ?_, fun hp => ?_⟩
  · have hplace := place_eq hroot path
    rw [Host.expand_of_not_beginsAtHome _ hp] at hplace
    exact handles_of_place hplace (nameable_of_isFile hfile)
  · exact astray_of_beginsAtHome hroot (by simpa [isSupported] using hextension) hp

/-- A folder with one file. -/
theorem handles_of_discover_folder :
    let s := folder [("a.ts", "x")]
    (Discovery.discover (always "s").host s.tree (always "s").settings.root
      (always "s").settings.extensions).1 = .ok (["a.ts"] : List Text) ∧
    (always "s").Handles "a.ts" ((always "s").settings.root / "a.ts") := by
  intro s
  have hfiles : (Discovery.discover (always "s").host s.tree (always "s").settings.root
      (always "s").settings.extensions).1 = .ok (["a.ts"] : List Text) := by decide +kernel
  have hroot : (always "s").host.expand (always "s").settings.root =
      .ok (always "s").settings.root := by decide +kernel
  have hplain : ¬ (Path.ofText "a.ts").BeginsAtHome := by
    rintro ⟨-, first, rest, hparts, htilde⟩
    have hname : (Path.ofText "a.ts").parts = (["a.ts"] : List Text) := by decide +kernel
    obtain ⟨rfl, -⟩ := List.cons.inj (hname.symm.trans hparts)
    revert htilde
    decide
  obtain ⟨top, htop, -, hhandles, -⟩ := handles_of_discover
    (Prod.fst_eq_iff.mp hfiles) List.mem_cons_self
  obtain rfl := Except.ok.inj (hroot.symm.trans htop)
  exact ⟨hfiles, hhandles hplain⟩

/-- A file that is found and cannot be annotated, because its name stands for a home directory. -/
theorem not_handles_of_discover :
    let s := folder [("~a.ts", "x")]
    (Discovery.discover (always "s").host s.tree (always "s").settings.root
      (always "s").settings.extensions).1 = .ok (["~a.ts"] : List Text) ∧
    ((always "s").annotate [] "~a.ts" s).1 = .error (.home .unknown) ∧
    ((always "s").strip "~a.ts" s).1 = .error (.home .unknown) := by
  refine ⟨?_, ?_, ?_⟩ <;> decide +kernel

end Service

end Synopsis
