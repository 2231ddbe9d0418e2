import Synopsis.Proofs.Service.Discovered
import Synopsis.Proofs.Service.Policy
import Synopsis.Proofs.Tree.Pairs

namespace Synopsis

open Text

/-- A supply that learns nothing from the tree but where there are files, and their texts with every
line break read as a line feed. -/
def Supply.ReadsTexts {α σ : Type} (supply : Supply α σ) : Prop :=
  ∀ settings (t t' : Tree) outside, (∀ p, t'.isFile p = t.isFile p) →
    (∀ p, t'.readText p = t.readText p) →
    supply.build settings t' outside = supply.build settings t outside

section

variable {t t' : Tree}

theorem Prompt.firstFile_congr (h : ∀ p, t'.isFile p = t.isFile p) (paths : List Path) :
    firstFile t' paths = firstFile t paths := by
  induction paths with
  | nil => rfl
  | cons p r ih => rw [firstFile, firstFile, h, ih]

theorem Prompt.load_congr (hfile : ∀ p, t'.isFile p = t.isFile p)
    (htext : ∀ p, t'.readText p = t.readText p) (h : Host) (dirs : List Path) (name : Text) :
    load h t' dirs name = load h t dirs name := by
  simp only [load, resolve, firstFile_congr hfile, htext]

theorem Client.ofHost_congr (htext : ∀ p, t'.readText p = t.readText p) (h : Host) :
    ofHost h t' = ofHost h t := by
  simp only [ofHost, lookUpKey, htext]

theorem Supply.readsTexts_online (h : Host) : (Supply.online h).ReadsTexts := by
  intro settings t t' outside hfile htext
  simp only [Supply.online, Prompt.load_congr hfile htext, Client.ofHost_congr htext]

end

/-- The same question and answer, and pairs where the text that is written has line feeds. -/
def Deed.withPairs : Deed → Deed
  | .asked path content answer => .asked path content answer
  | .overwrote file text => .overwrote file (LineBreak.crlf.apply text)

namespace Service

variable {α σ β : Type} {sv : Service α σ} {known : Index} {path text : Text} {file : Path}
  {source : Source} {s : Session α σ} {t' : Tree} {loc : Location}

/-- The same result, or a text that cannot be written, with line feeds as with pairs. -/
inductive Agree : Except Failure β → Except Failure β → Prop where
  | same (result : Except Failure β) : Agree result result
  | unencodable (new : Text) (e : EncodingFault) (hfault : Encoding.utf8.fault? new = some e) :
    Agree (.error (.unencodable e)) (.error (.unencodable (e.behindPairs new)))

/-- What one call came to in a tree with line feeds and in the same tree with pairs: the same has
been seen, and the file is left with the same text in both. -/
structure InStep (loc : Location) (t t' : Tree) (one two : Except Failure β × Session α σ) :
    Prop where
  result : Agree one.1 two.1
  alongside : two.2 = { one.2 with tree := two.2.tree }
  file : ∃ text, Tree.Paired loc text one.2.tree two.2.tree
  kept : one.2.tree = t → two.2.tree = t'

theorem InStep.of_same (h : Tree.Paired loc text s.tree t') (result : Except Failure β) :
    InStep loc s.tree t' (result, s) (result, { s with tree := t' }) :=
  ⟨.same result, rfl, ⟨text, h⟩, fun _ => rfl⟩

theorem InStep.record {t : Tree} {one two : Session α σ} {result : Except Failure β}
    (h : InStep loc t t' (result, one) (result, two)) (events : List Event) :
    InStep loc t t' (result, one.record events) (result, two.record events) where
  result := h.result
  alongside := by
    have halong : two = { one with tree := two.tree } := h.alongside
    rw [halong]
    rfl
  file := h.file
  kept := h.kept

/-- What is read of a file with pairs, given what is read of it with line feeds. -/
def withPairs (found : Path × Source) : Path × Source := (found.1, found.2.withPairs)

theorem read_pairs (h : Tree.Paired loc text s.tree t') (hlf : ('\n' : Rune) ∈ text.toList)
    (hreturn : ('\r' : Rune) ∉ text.toList) (hloc : sv.destination? s.tree path = some loc) :
    sv.read t' path = (sv.read s.tree path).map withPairs := by
  unfold read
  cases hplace : sv.place path with
  | error f => rfl
  | ok file =>
    rw [destination?_of_place hplace, Option.some.injEq] at hloc
    rcases h.readExact_here hloc with ⟨hread, hread'⟩ | ⟨f, hread, hread'⟩
    · simp only [hread, hread', Source.ofText_pairs hlf hreturn]
      rfl
    · simp only [hread, hread']
      rcases f with (⟨refusal, _⟩ | _ | _) | _
      · cases refusal <;> rfl
      all_goals rfl

theorem destination_of_read (hread : sv.read s.tree path = .ok (file, source))
    (hloc : sv.destination? s.tree path = some loc) : s.tree.destination file = loc :=
  Option.some.inj ((destination?_of_read hread).symm.trans hloc)

theorem lineBreak_of_read (h : Tree.Paired loc text s.tree t')
    (hreturn : ('\r' : Rune) ∉ text.toList) (hloc : sv.destination? s.tree path = some loc)
    (hread : sv.read s.tree path = .ok (file, source)) : source.lineBreak = .lf := by
  have hfile := destination_of_read hread hloc
  obtain ⟨-, raw, hraw, rfl⟩ := read_eq_ok_iff.mp hread
  rcases h.readExact_here hfile with ⟨hexact, -⟩ | ⟨f, hexact, -⟩
  · obtain rfl := Except.ok.inj (hraw.symm.trans hexact)
    rw [Source.ofText_of_plain hreturn]
  · rw [hraw] at hexact
    cases hexact

theorem prepare_pairs {t : Tree} (h : sv.read t' path = (sv.read t path).map withPairs)
    (known : Index) : sv.prepare known path t' = (sv.prepare known path t).map id withPairs := by
  unfold prepare
  rw [h]
  cases sv.isSupported path with
  | false => rfl
  | true =>
    cases sv.reusable? known path with
    | some summary => rfl
    | none =>
      cases sv.read t path with
      | error f => rfl
      | ok found =>
        obtain ⟨file, source⟩ := found
        have hsame : sv.embedded? path source.withPairs = sv.embedded? path source := rfl
        simp only [Except.map, withPairs, hsame, Bool.not_true, Bool.false_eq_true, if_false]
        cases sv.embedded? path source <;> rfl

theorem summon_pairs (hsupply : sv.supply.ReadsTexts) (h : Tree.Paired loc text s.tree t')
    (hreturn : ('\r' : Rune) ∉ text.toList) : sv.summon { s with tree := t' } =
      ((sv.summon s).1, { (sv.summon s).2 with tree := t' }) := by
  have hbuild := hsupply sv.settings s.tree t' s.outside h.alike.isFile (h.readText hreturn)
  obtain ⟨t, holding, outside, events⟩ := s
  unfold summon
  cases holding with
  | lent a => rfl
  | own a => rfl
  | none =>
    simp only [hbuild]
    rcases sv.supply.build sv.settings t outside with ⟨f | a, outside'⟩ <;> rfl

theorem generate_pairs (hsupply : sv.supply.ReadsTexts) (h : Tree.Paired loc text s.tree t')
    (hreturn : ('\r' : Rune) ∉ text.toList) (path : Text) (source : Source) :
    sv.generate path source.withPairs { s with tree := t' } =
      ((sv.generate path source s).1, { (sv.generate path source s).2 with tree := t' }) := by
  have hsummon := summon_pairs hsupply h hreturn
  cases hs : sv.summon s with
  | mk found next =>
    rw [hs] at hsummon
    cases found with
    | error f => rw [generate_of_unbuilt hs, generate_of_unbuilt hsummon]
    | ok a =>
      rw [generate_of_summon hs, generate_of_summon hsummon]
      rfl

theorem write_pairs (h : Tree.Paired loc text s.tree t') (hfile : s.tree.destination file = loc)
    (hbreak : source.lineBreak = .lf) : InStep loc s.tree t' (write path file source s)
      (write path file source.withPairs { s with tree := t' }) := by
  have hwrite := h.replaceText hfile source.text
  rw [write_eq, write_eq, Source.text_withPairs hbreak]
  generalize s.tree.replaceText file source.text = one at hwrite ⊢
  generalize t'.replaceText file (LineBreak.crlf.apply source.text) = two at hwrite ⊢
  cases hwrite with
  | refused f => exact .of_same h _
  | unencodable e hfault => exact ⟨.unencodable _ e hfault, rfl, ⟨text, h⟩, fun _ => rfl⟩
  | written made made' hmade hkept => exact ⟨.same _, rfl, ⟨_, hmade⟩, hkept⟩

/-- What is answered and noted once a file is written. -/
def afterWriting (result : β) (note : Note) :
    Except Failure Unit × Session α σ → Except Failure β × Session α σ
  | (.error f, s) => (.error f, s)
  | (.ok (), s) => (.ok result, s.note note)

theorem InStep.afterWriting {t : Tree} {one two : Except Failure Unit × Session α σ}
    (h : InStep loc t t' one two) (result : β) (note : Note) :
    InStep loc t t' (afterWriting result note one) (afterWriting result note two) := by
  obtain ⟨done, last⟩ := one
  obtain ⟨done', last'⟩ := two
  have hresult : Agree done done' := h.result
  cases hresult with
  | unencodable new e hfault => exact ⟨.unencodable new e hfault, h.alongside, h.file, h.kept⟩
  | same =>
    cases done with
    | error f => exact ⟨.same _, h.alongside, h.file, h.kept⟩
    | ok _ =>
      have hdone : InStep loc t t' (.ok result, last) (.ok result, last') :=
        ⟨.same _, h.alongside, h.file, h.kept⟩
      exact hdone.record [.noted note]

theorem finish_of_embedding {d : Dialect} {summary : Text} (hin : sv.embedding? path = some d) :
    sv.finish path file source (.ok summary, s) =
      afterWriting ⟨path, .generated summary⟩ (.embedded path)
        (write path file (source.annotate d summary) s) := by
  rw [finish]
  simp only [hin]
  rcases write path file (source.annotate d summary) s with ⟨f | ⟨⟩, last⟩ <;> rfl

theorem strip_of_strip? {d : Dialect} {stripped : Source}
    (hd : Dialect.ofExtension? (Path.extension path) = some d)
    (hread : sv.read s.tree path = .ok (file, source)) (hstrip : source.strip? d = some stripped) :
    sv.strip path s = afterWriting true (.removed path) (write path file stripped s) := by
  unfold strip
  simp only [hd, hread, hstrip]
  rcases write path file stripped s with ⟨f | ⟨⟩, last⟩ <;> rfl

theorem finish_pairs (h : Tree.Paired loc text s.tree t') (hfile : s.tree.destination file = loc)
    (hbreak : source.lineBreak = .lf) (answer : Except Failure Text) :
    InStep loc s.tree t' (sv.finish path file source (answer, s))
      (sv.finish path file source.withPairs (answer, { s with tree := t' })) := by
  cases answer with
  | error f => exact .of_same h _
  | ok summary =>
    cases hin : sv.embedding? path with
    | none =>
      rw [finish, finish, hin]
      exact (InStep.of_same h _).record [.noted (.indexedOnly path)]
    | some d =>
      have hannotated : (source.annotate d summary).lineBreak = .lf := hbreak
      rw [finish_of_embedding hin, finish_of_embedding hin, Source.annotate_withPairs]
      exact (write_pairs h hfile hannotated).afterWriting _ _

/-- What is overwritten once there is an answer. -/
def overwriting (sv : Service α σ) (path : Text) (file : Path) (source : Source)
    (answer : Except Failure Text) : List Deed :=
  match answer, sv.embedding? path with
  | .ok summary, some d => [.overwrote file (source.annotate d summary).text]
  | _, _ => []

theorem deeds_of_inl {early : Except Failure Annotation × List Note}
    (hprep : sv.prepare known path s.tree = .inl early) : sv.deeds known path s = [] := by
  have hsame : sv.means.recorded.tree (s, []) = s.tree := rfl
  rw [deeds, annotateBy, hsame, hprep]
  rfl

theorem deeds_of_unbuilt {f : Failure} {next : Session α σ}
    (hprep : sv.prepare known path s.tree = .inr (file, source))
    (hs : sv.summon s = (.error f, next)) : sv.deeds known path s = [] := by
  have hsame : sv.means.recorded.tree (s, []) = s.tree := rfl
  rw [deeds, annotateBy, hsame, hprep]
  simp only [Means.recorded, means, hs]

theorem deeds_of_summon {a : α} {next : Session α σ}
    (hprep : sv.prepare known path s.tree = .inr (file, source))
    (hs : sv.summon s = (.ok a, next)) :
    let answer := told path (sv.supply.ask a path source.content next.outside).1.outcome
    sv.deeds known path s =
      .asked path source.content answer :: sv.overwriting path file source answer := by
  have hsame : sv.means.recorded.tree (s, []) = s.tree := rfl
  rw [deeds, annotateBy, hsame, hprep]
  simp only [Means.recorded, means, hs, List.nil_append, overwriting]
  cases told path (sv.supply.ask a path source.content next.outside).1.outcome with
  | error f => rfl
  | ok summary =>
    cases sv.embedding? path with
    | none => rfl
    | some d =>
      simp only
      rcases write path file (source.annotate d summary) (sv.asking a path source next) with
        ⟨f | _, last⟩ <;> rfl

theorem overwriting_pairs (hbreak : source.lineBreak = .lf) (answer : Except Failure Text) :
    sv.overwriting path file source.withPairs answer =
      (sv.overwriting path file source answer).map Deed.withPairs := by
  unfold overwriting
  cases answer with
  | error f => rfl
  | ok summary =>
    cases sv.embedding? path with
    | none => rfl
    | some d =>
      have hannotated : (source.annotate d summary).lineBreak = .lf := hbreak
      simp only [Source.annotate_withPairs, Source.text_withPairs hannotated, List.map_cons,
        List.map_nil, Deed.withPairs]

theorem annotate_pairs (hsupply : sv.supply.ReadsTexts) (h : Tree.Paired loc text s.tree t')
    (hlf : ('\n' : Rune) ∈ text.toList) (hreturn : ('\r' : Rune) ∉ text.toList)
    (hloc : sv.destination? s.tree path = some loc) (known : Index) :
    InStep loc s.tree t' (sv.annotate known path s)
      (sv.annotate known path { s with tree := t' }) := by
  have hprepared := prepare_pairs (read_pairs h hlf hreturn hloc) known
  change sv.prepare known path { s with tree := t' }.tree = _ at hprepared
  cases hprep : sv.prepare known path s.tree with
  | inl early =>
    obtain ⟨result, notes⟩ := early
    rw [hprep] at hprepared
    rw [annotate_of_inl hprep, annotate_of_inl hprepared]
    exact (InStep.of_same h result).record _
  | inr found =>
    obtain ⟨file, source⟩ := found
    obtain ⟨-, -, hread, -⟩ := prepare_eq_inr_iff.mp hprep
    have hfile := destination_of_read hread hloc
    have hbreak := lineBreak_of_read h hreturn hloc hread
    have htree := generate_tree sv path source s
    rw [hprep] at hprepared
    rw [annotate_of_inr hprep, annotate_of_inr hprepared, generate_pairs hsupply h hreturn]
    cases hgen : sv.generate path source s with
    | mk answer asked =>
      rw [hgen] at htree
      change asked.tree = s.tree at htree
      rw [← htree] at h hfile ⊢
      exact finish_pairs h hfile hbreak answer

theorem deeds_pairs (hsupply : sv.supply.ReadsTexts) (h : Tree.Paired loc text s.tree t')
    (hlf : ('\n' : Rune) ∈ text.toList) (hreturn : ('\r' : Rune) ∉ text.toList)
    (hloc : sv.destination? s.tree path = some loc) (known : Index) :
    sv.deeds known path { s with tree := t' } =
      (sv.deeds known path s).map Deed.withPairs := by
  have hprepared := prepare_pairs (read_pairs h hlf hreturn hloc) known
  change sv.prepare known path { s with tree := t' }.tree = _ at hprepared
  cases hprep : sv.prepare known path s.tree with
  | inl early =>
    rw [hprep] at hprepared
    rw [deeds_of_inl hprep, deeds_of_inl hprepared, List.map_nil]
  | inr found =>
    obtain ⟨file, source⟩ := found
    obtain ⟨-, -, hread, -⟩ := prepare_eq_inr_iff.mp hprep
    have hbreak := lineBreak_of_read h hreturn hloc hread
    have hsummon := summon_pairs hsupply h hreturn
    rw [hprep] at hprepared
    cases hs : sv.summon s with
    | mk found next =>
      rw [hs] at hsummon
      cases found with
      | error f => rw [deeds_of_unbuilt hprep hs, deeds_of_unbuilt hprepared hsummon, List.map_nil]
      | ok a =>
        rw [deeds_of_summon hprep hs, deeds_of_summon hprepared hsummon, overwriting_pairs hbreak]
        rfl

theorem strip_pairs (h : Tree.Paired loc text s.tree t') (hlf : ('\n' : Rune) ∈ text.toList)
    (hreturn : ('\r' : Rune) ∉ text.toList) (hloc : sv.destination? s.tree path = some loc) :
    InStep loc s.tree t' (sv.strip path s) (sv.strip path { s with tree := t' }) := by
  have hread' : sv.read { s with tree := t' }.tree path = _ := read_pairs h hlf hreturn hloc
  cases hd : Dialect.ofExtension? (Path.extension path) with
  | none =>
    unfold strip
    rw [hd]
    exact .of_same h _
  | some d =>
    cases hread : sv.read s.tree path with
    | error f =>
      rw [hread] at hread'
      unfold strip
      simp only [hd, hread, hread', Except.map]
      exact .of_same h _
    | ok found =>
      obtain ⟨file, source⟩ := found
      have hfile := destination_of_read hread hloc
      have hbreak := lineBreak_of_read h hreturn hloc hread
      have hstrip' := Source.strip?_withPairs d source
      rw [hread] at hread'
      cases hstrip : source.strip? d with
      | none =>
        rw [hstrip] at hstrip'
        unfold strip
        simp only [hd, hread, hread', Except.map, withPairs, hstrip, hstrip', Option.map_none]
        exact .of_same h _
      | some stripped =>
        rw [hstrip] at hstrip'
        rw [strip_of_strip? hd hread hstrip, strip_of_strip? hd hread' hstrip']
        obtain ⟨lines, -, rfl⟩ := Option.map_eq_some_iff.mp hstrip
        have hstripped : ({ source with lines } : Source).lineBreak = .lf := hbreak
        exact (write_pairs h hfile hstripped).afterWriting _ _

theorem nameable_of_read {t : Tree} (hread : sv.read t path = .ok (file, source)) :
    ∀ part ∈ file.parts, Nameable part := by
  obtain ⟨-, raw, hexact, -⟩ := read_eq_ok_iff.mp hread
  obtain ⟨loc, content, mode, hlocate, -⟩ := Tree.readExact_eq_ok_iff.mp hexact
  refine Tree.nameable_parts_iff.mpr ?_
  simp [(Tree.locate_eq_ok_iff.mp hlocate).1]

theorem read_ne_unencodable {t : Tree} (e : EncodingFault) :
    sv.read t path ≠ .error (.unencodable e) := by
  unfold read
  cases sv.place path with
  | error f => simp
  | ok p =>
    simp only
    split <;> simp

/-- A new text that cannot be written has what cannot be written from the summary. -/
theorem annotate_unencodable {e : EncodingFault}
    (h : (sv.annotate known path s).1 = .error (.unencodable e)) :
    ∃ summary, sv.Replies summary ∧ Encoding.utf8.fault? summary ≠ none := by
  cases hprep : sv.prepare known path s.tree with
  | inl early =>
    obtain ⟨result, notes⟩ := early
    rw [annotate_of_inl hprep] at h
    obtain rfl : result = .error (.unencodable e) := h
    exact absurd (read_of_prepare hprep) (read_ne_unencodable e)
  | inr found =>
    obtain ⟨file, source⟩ := found
    obtain ⟨-, -, hread, -⟩ := prepare_eq_inr_iff.mp hprep
    have hplace := (read_eq_ok_iff.mp hread).1
    rcases annotate_fails hplace (nameable_of_read hread) h with hpath | hsummarizer
    · cases hpath
    · cases hsummarizer with
      | unencodable summary hreply hhalf => exact ⟨summary, hreply, hhalf⟩

/-- A text that was read can be written without its block. -/
theorem strip_ne_unencodable (e : EncodingFault) :
    (sv.strip path s).1 ≠ .error (.unencodable e) := by
  intro h
  cases hread : sv.read s.tree path with
  | ok found =>
    obtain ⟨file, source⟩ := found
    cases strip_fails (read_eq_ok_iff.mp hread).1 (nameable_of_read hread) h
  | error f =>
    unfold strip at h
    cases hd : Dialect.ofExtension? (Path.extension path) with
    | none => simp [hd] at h
    | some d =>
      simp only [hd, hread, Except.error.injEq] at h
      rw [h] at hread
      exact absurd hread (read_ne_unencodable e)

theorem Agree.eq {one two : Except Failure β} (h : Agree one two)
    (hwritten : ∀ e, one ≠ .error (.unencodable e)) : two = one := by
  cases h with
  | same => rfl
  | unencodable new e hfault => exact absurd rfl (hwritten e)

theorem annotate_strip_pairs (hsupply : sv.supply.ReadsTexts)
    (h : Tree.Paired loc text s.tree t') (hlf : ('\n' : Rune) ∈ text.toList)
    (hreturn : ('\r' : Rune) ∉ text.toList) (hloc : sv.destination? s.tree path = some loc)
    (known : Index) :
    InStep loc s.tree t' (sv.annotate known path s)
        (sv.annotate known path { s with tree := t' }) ∧
      sv.deeds known path { s with tree := t' } =
        (sv.deeds known path s).map Deed.withPairs ∧
      ((∀ summary, sv.Replies summary → Encoding.utf8.fault? summary = none) →
        (sv.annotate known path { s with tree := t' }).1 = (sv.annotate known path s).1) ∧
      InStep loc s.tree t' (sv.strip path s) (sv.strip path { s with tree := t' }) ∧
      (sv.strip path { s with tree := t' }).1 = (sv.strip path s).1 := by
  have hannotate := annotate_pairs hsupply h hlf hreturn hloc known
  have hstrip := strip_pairs h hlf hreturn hloc
  refine ⟨hannotate, deeds_pairs hsupply h hlf hreturn hloc known,
    fun hreplies => hannotate.result.eq fun e he => ?_, hstrip,
    hstrip.result.eq strip_ne_unencodable⟩
  obtain ⟨summary, hreply, hhalf⟩ := annotate_unencodable he
  exact hhalf (hreplies summary hreply)

theorem readsTexts_always (reply : Text) : (Supply.always reply).ReadsTexts :=
  fun _ _ _ _ _ _ => rfl

theorem item?_lone (name text : Text) (loc : Location) : (lone name text).tree.top.item? loc =
    if loc = [] then some .dir
    else if loc = [name] then some (.file (Utf8.encode text) 0o644) else none := by
  cases loc with
  | nil => simp [lone, Node.item?, Node.get?_nil, Node.item]
  | cons n r =>
    by_cases hn : n = name
    · cases r <;> simp [lone, Node.item?, Node.get?, Keyed.get?, hn, Node.item]
    · simp [lone, Node.item?, Node.get?, Keyed.get?, hn, Ne.symm hn]

theorem paired_lone (name : Text) {text : Text} (hholds : Encoding.utf8.fault? text = none) :
    Tree.Paired [name] text (lone name text).tree
    (lone name (LineBreak.crlf.apply text)).tree where
  alike := {
    here := rfl
    mask := rfl
    bare := fun loc => by
      rw [item?_lone, item?_lone]
      split
      · rfl
      · split <;> simp [Item.bare]
    item := fun loc hloc => by
      rw [item?_lone, item?_lone, if_neg hloc, if_neg hloc] }
  holds := hholds
  file := ⟨0o644, by simp [item?_lone], by simp [item?_lone]⟩

/-- A file with one line break. -/
theorem annotate_strip_pairs_lone :
    let s := lone "a.ts" "x\n"
    let t' := (lone "a.ts" "x\r\n").tree
    (always "s").destination? s.tree "a.ts" = some (["a.ts"] : List Text) ∧
      InStep ["a.ts"] s.tree t' ((always "s").annotate [] "a.ts" s)
        ((always "s").annotate [] "a.ts" { s with tree := t' }) ∧
      ((always "s").annotate [] "a.ts" { s with tree := t' }).1 =
        .ok ⟨"a.ts", .generated "s"⟩ ∧
      InStep ["a.ts"] s.tree t' ((always "s").strip "a.ts" s)
        ((always "s").strip "a.ts" { s with tree := t' }) := by
  intro s t'
  have hpairs : LineBreak.crlf.apply "x\n" = "x\r\n" := by decide +kernel
  have hpaired := paired_lone "a.ts" (show Encoding.utf8.fault? "x\n" = none by decide +kernel)
  rw [hpairs] at hpaired
  have hloc : (always "s").destination? s.tree "a.ts" = some (["a.ts"] : List Text) := by
    decide +kernel
  have hwritten (summary : Text) (hreply : (always "s").Replies summary) :
      Encoding.utf8.fault? summary = none := by
    rw [replies_always_iff.mp hreply]
    decide +kernel
  obtain ⟨hannotate, -, hsame, hstrip, -⟩ := annotate_strip_pairs (readsTexts_always "s") hpaired
    (by decide) (by decide) hloc []
  exact ⟨hloc, hannotate, (hsame hwritten).trans (by decide +kernel), hstrip⟩

/-- A summary with half of a character cannot be written. The place that is named is one further on
in the file with a pair in front of it. -/
theorem annotate_pairs_unencodable :
    let half := Text.ofList [.half 0x3D]
    let refused (position : Nat) : EncodingFault := ⟨.utf8, position, 1, .half 0x3D⟩
    Tree.Paired ["a.ts"] "x\n" (lone "a.ts" "x\n").tree (lone "a.ts" "x\r\n").tree ∧
      ('\r' : Rune) ∉ half.toList ∧
      ((always half).annotate [] "a.ts" (lone "a.ts" "x\n")).1 =
        .error (.unencodable (refused 23)) ∧
      ((always half).annotate [] "a.ts" (lone "a.ts" "x\r\n")).1 =
        .error (.unencodable (refused 24)) := by
  have hpairs : LineBreak.crlf.apply "x\n" = "x\r\n" := by decide +kernel
  have hpaired := paired_lone "a.ts" (show Encoding.utf8.fault? "x\n" = none by decide +kernel)
  rw [hpairs] at hpaired
  refine ⟨hpaired, ?_, ?_, ?_⟩ <;> decide +kernel

end Service

end Synopsis
