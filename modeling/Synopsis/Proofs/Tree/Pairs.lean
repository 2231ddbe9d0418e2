import Synopsis.Proofs.Text.Pairs
import Synopsis.Proofs.Tree.Alike

namespace Synopsis.Tree

open Text

variable {t t' : Tree} {loc : Location} {text : Text} {p : Path}

/-- Two trees with the same text in a file, in one of them with line feeds and in the other with
pairs. They are told apart by nothing else. -/
structure Paired (loc : Location) (text : Text) (t t' : Tree) : Prop where
  alike : Alike (· = loc) t t'
  holds : Encoding.utf8.fault? text = none
  file : ∃ mode, t.top.item? loc = some (.file (Utf8.encode text) mode) ∧
    t'.top.item? loc = some (.file (Utf8.encode (LineBreak.crlf.apply text)) mode)

/-- What may come of writing the same text with line feeds in one tree and with pairs in the other.
-/
inductive WritesPaired (loc : Location) (text : Text) (t t' : Tree) :
    Except WriteFault Unit × Tree → Except WriteFault Unit × Tree → Prop where
  | refused (f : Fault) :
    WritesPaired loc text t t' (.error (.file f), t) (.error (.file f), t')
  | unencodable (e : EncodingFault) (hfault : Encoding.utf8.fault? text = some e) :
    WritesPaired loc text t t' (.error (.encoding e), t)
      (.error (.encoding (e.behindPairs text)), t')
  | written (made made' : Tree) (hmade : Paired loc text made made')
    (hkept : made = t → made' = t') : WritesPaired loc text t t' (.ok (), made) (.ok (), made')

namespace Paired

theorem readExact_elsewhere (h : Paired loc text t t') (hp : t.destination p ≠ loc) :
    t'.readExact p = t.readExact p := h.alike.readExact hp

theorem readExact_here (h : Paired loc text t t') (hp : t.destination p = loc) :
    (t.readExact p = .ok text ∧ t'.readExact p = .ok (LineBreak.crlf.apply text)) ∨
      ∃ f, t.readExact p = .error f ∧ t'.readExact p = .error f := by
  obtain ⟨mode, hitem, hitem'⟩ := h.file
  rw [readExact, readExact, readBytes_eq, readBytes_eq, h.alike.locate]
  cases hloc : t.locate p with
  | error e => exact .inr ⟨_, rfl, rfl⟩
  | ok found =>
    obtain rfl : found = loc := (locate_eq_destination hloc).trans hp
    simp only [hitem, hitem']
    by_cases hmay : Node.mayRead mode = true
    · left
      have hpairs : Encoding.utf8.fault? (LineBreak.crlf.apply text) = none := by
        rw [Encoding.fault?_pairs, h.holds, Option.map_none]
      simp only [hmay, if_true, Utf8.decode_encode h.holds, Utf8.decode_encode hpairs]
      exact ⟨rfl, rfl⟩
    · simp [hmay]

/-- With every line break read as a line feed, the two cannot be told apart. -/
theorem readText (h : Paired loc text t t') (hreturn : ('\r' : Rune) ∉ text.toList) (p : Path) :
    t'.readText p = t.readText p := by
  by_cases hp : t.destination p = loc
  · rcases h.readExact_here hp with ⟨hread, hread'⟩ | ⟨f, hread, hread'⟩
    · have hback : lfOfAny (LineBreak.crlf.apply text).toList = lfOfAny text.toList := by
        rw [LineBreak.apply, Text.toList_ofList, lfOfAny_crlfOfLf hreturn,
          lfOfAny_of_not_mem hreturn]
      rw [Tree.readText, Tree.readText, hread, hread']
      simp only [Except.map, hback]
    · rw [Tree.readText, Tree.readText, hread, hread']
  · rw [Tree.readText, Tree.readText, h.readExact_elsewhere hp]

theorem withFile {new : Text} (h : Paired loc text t t') (hnew : Encoding.utf8.fault? new = none)
    (htakes : t.Takes p loc) (htakes' : t'.Takes p loc) :
    Paired loc new (t.withFile loc (Utf8.encode new))
      (t'.withFile loc (Utf8.encode (LineBreak.crlf.apply new))) where
  alike := {
    here := h.alike.here
    mask := h.alike.mask
    bare := fun other => by
      by_cases hother : other = loc
      · rw [hother, htakes.item?_withFile, htakes'.item?_withFile, h.alike.modeAt]
        simp only [Option.map_some, Item.bare]
      · rw [(htakes.sameBut_withFile _).same other hother,
          (htakes'.sameBut_withFile _).same other hother, h.alike.bare]
    item := fun other hother => by
      rw [(htakes.sameBut_withFile _).same other hother,
        (htakes'.sameBut_withFile _).same other hother, h.alike.item other hother] }
  holds := hnew
  file := ⟨t.modeAt loc, htakes.item?_withFile _, by
    rw [htakes'.item?_withFile, h.alike.modeAt]⟩

/-- What is written over the same text leaves both trees as they are. -/
theorem kept {new : Text} (h : Paired loc text t t') (htakes : t.Takes p loc)
    (hsame : t.withFile loc (Utf8.encode new) = t) :
    t'.withFile loc (Utf8.encode (LineBreak.crlf.apply new)) = t' := by
  obtain ⟨mode, hitem, hitem'⟩ := h.file
  have hnew := htakes.item?_withFile (Utf8.encode new)
  rw [hsame, hitem, Option.some.injEq, Item.file.injEq] at hnew
  rw [← Utf8.encode_injective hnew.1]
  exact withFile_of_item? hitem'

theorem replaceText (h : Paired loc text t t') (hp : t.destination p = loc) (new : Text) :
    WritesPaired loc new t t' (t.replaceText p new)
      (t'.replaceText p (LineBreak.crlf.apply new)) := by
  rw [Tree.replaceText, Tree.replaceText, Encoding.fault?_pairs]
  cases hfault : Encoding.utf8.fault? new with
  | some e =>
    rcases cases_of_map_eq (h.alike.createBeside p [] [] 10000 0) with
      ⟨f, hold', hold⟩ | ⟨made', made, hold', hold, -⟩
    · simp only [Option.map_some, hold, hold']
      exact .refused f
    · simp only [Option.map_some, hold, hold']
      exact .unencodable e hfault
  | none =>
    have hdone := h.alike.replaceFile p (Utf8.encode new) (Utf8.encode (LineBreak.crlf.apply new))
    cases hone : t.replaceFile p (Utf8.encode new) with
    | mk done made =>
      cases htwo : t'.replaceFile p (Utf8.encode (LineBreak.crlf.apply new)) with
      | mk done' made' =>
        rw [hone, htwo] at hdone
        obtain rfl : done' = done := hdone
        cases done' with
        | error f =>
          obtain rfl := replaceFile_error hone
          obtain rfl := replaceFile_error htwo
          simp only [Option.map_none]
          exact .refused f
        | ok _ =>
          obtain ⟨-, target, htakes, rfl⟩ := replaceFile_eq_ok_iff.mp hone
          obtain ⟨-, target', htakes', rfl⟩ := replaceFile_eq_ok_iff.mp htwo
          obtain rfl : target = loc := htakes.eq_destination.trans hp
          obtain rfl : target' = target :=
            htakes'.eq_destination.trans ((destination_of_here h.alike.here p).trans hp)
          simp only [Option.map_none]
          exact .written _ _ (h.withFile hfault htakes htakes') (h.kept htakes)

end Paired

end Synopsis.Tree
