import Synopsis.Proofs.Text.Lines
import Synopsis.Proofs.Text.Utf8
import Synopsis.Proofs.Tree.Node
import Synopsis.Tree.Change

namespace Synopsis

/-- A text that is made of bytes, as the file system takes them, and of no NUL. -/
def Nameable (name : Text) : Prop :=
  Text.Encoding.path.fault? name = none ∧ ('\x00' : Rune) ∉ name.toList

instance : DecidablePred Nameable := fun _ => inferInstanceAs (Decidable (_ ∧ _))

theorem nameable_iff_chars {name : Text} : Nameable name ↔
    ∀ c ∈ name.toList, Text.Encoding.path.holds c = true ∧ c ≠ '\x00' := by
  rw [Nameable, Text.Encoding.fault?_eq_none_iff]
  constructor
  · rintro ⟨hholds, hnul⟩ c hc
    exact ⟨hholds c hc, fun heq => hnul (heq ▸ hc)⟩
  · intro h
    exact ⟨fun c hc => (h c hc).1, fun hnul => (h _ hnul).2 rfl⟩

theorem Nameable.of_append {name ending : Text} (h : Nameable (name ++ ending)) :
    Nameable name := by
  rw [nameable_iff_chars] at h ⊢
  exact fun c hc => h c (by simp [hc])

/-- One node has all that another has: its directories as directories, its files as files. -/
structure Node.Extends (old new : Node) : Prop where
  dir (loc : Location) : old.item? loc = some .dir → new.item? loc = some .dir
  there (loc : Location) : (old.item? loc).isSome → (new.item? loc).isSome

theorem Node.Extends.refl (n : Node) : Extends n n := ⟨fun _ h => h, fun _ h => h⟩

theorem Node.Extends.trans {a b c : Node} (hab : Extends a b) (hbc : Extends b c) : Extends a c :=
  ⟨fun loc h => hbc.dir loc (hab.dir loc h), fun loc h => hbc.there loc (hab.there loc h)⟩

/-- Two nodes that differ at most in the file at one location, which one of them may lack. -/
structure Node.SameBut (loc : Location) (a b : Node) : Prop where
  left : a.item? loc ≠ some .dir
  right : b.item? loc ≠ some .dir
  same (other : Location) : other ≠ loc → b.item? other = a.item? other

theorem Node.SameBut.symm {loc : Location} {a b : Node} (h : SameBut loc a b) : SameBut loc b a :=
  ⟨h.right, h.left, fun other hne => (h.same other hne).symm⟩

theorem Node.SameBut.extends {loc : Location} {a b : Node} (h : SameBut loc a b)
    (hthere : (b.item? loc).isSome) : Extends a b where
  dir other hdir := by
    have hne : other ≠ loc := fun he => h.left (he ▸ hdir)
    rwa [h.same other hne]
  there other hother := by
    by_cases hne : other = loc
    · rwa [hne]
    · rwa [h.same other hne]

/-- A file that takes the place of a file or of nothing. -/
theorem Node.sameBut_set {n : Node} {dir : Location} {name : Text} {content : List UInt8}
    {mode : Nat} (hdir : n.item? dir = some .dir) (hold : n.item? (dir ++ [name]) ≠ some .dir) :
    SameBut (dir ++ [name]) n (n.set (dir ++ [name]) (.file content mode)) where
  left := hold
  right := by simp [item?_set hdir hold (fun x r => get?_file_cons content mode x r), item]
  same other hne := by
    simp [item?_set hdir hold (fun x r => get?_file_cons content mode x r), hne]

namespace Tree

/-- A part of a path as its text has it, without a look at the tree. -/
def climb (place : Location) (part : Text) : Location :=
  if part = ".." then place.dropLast else place ++ [part]

/-- The location that the text of a path stands for. -/
def destination (t : Tree) (p : Path) : Location := (t.absolute p).parts

theorem destination_eq (t : Tree) (p : Path) :
    t.destination p = p.parts.foldl climb (t.start p) := by
  unfold destination absolute start
  split <;> rfl

variable {top top' : Node} {place loc : Location}

theorem enter_eq_ok_iff {part : Text} {next : Location} :
    enter top place part = .ok next ↔ top.item? place = some .dir ∧ next = climb place part ∧
      (part = ".." ∨ part.fileSize ≤ nameLimit ∧ (top.item? (place ++ [part])).isSome) := by
  unfold enter
  cases hplace : top.get? place with
  | none => simp [Node.item?, hplace]
  | some n =>
    cases n with
    | file content mode => simp [Node.item?, hplace, Node.item]
    | dir entries =>
      have hentry : (top.item? (place ++ [part])).isSome = (Keyed.get? entries part).isSome := by
        rw [Node.item?, Node.get?_append, hplace, Option.bind_some, Node.get?_cons]
        cases Keyed.get? entries part <;> simp [Node.get?_nil]
      have hdir : top.item? place = some .dir := Node.item?_eq_dir_iff.mpr ⟨entries, hplace⟩
      rw [hentry]
      by_cases hup : part = ".."
      · simpa [hdir, climb, hup] using eq_comm
      · by_cases hlong : nameLimit < part.fileSize
        · have hle : ¬ part.fileSize ≤ nameLimit := by omega
          simp [hdir, hup, hlong, hle]
        · have hle : part.fileSize ≤ nameLimit := by omega
          cases hfound : Keyed.get? entries part with
          | none => simp [hup, hlong, hfound]
          | some child => simpa [hdir, climb, hup, hlong, hle, hfound] using eq_comm

theorem walk_nil_eq_ok_iff : walk top place [] = .ok loc ↔ loc = place := by
  rw [walk, Except.ok.injEq, eq_comm]

theorem walk_cons_eq_ok_iff {part : Text} {r : List Text} :
    walk top place (part :: r) = .ok loc ↔
      ∃ next, enter top place part = .ok next ∧ walk top next r = .ok loc := by
  rw [walk]
  cases enter top place part <;> simp

theorem walk_append (a b : List Text) : walk top place (a ++ b) =
    (walk top place a).bind fun mid => walk top mid b := by
  induction a generalizing place with
  | nil => rfl
  | cons part r ih =>
    rw [List.cons_append, walk, walk]
    cases enter top place part with
    | error e => rfl
    | ok next => exact ih

theorem walk_eq_foldl_climb {parts : List Text} (h : walk top place parts = .ok loc) :
    loc = parts.foldl climb place := by
  induction parts generalizing place with
  | nil => exact walk_nil_eq_ok_iff.mp h
  | cons part r ih =>
    obtain ⟨next, hnext, hr⟩ := walk_cons_eq_ok_iff.mp h
    rw [List.foldl_cons, ← (enter_eq_ok_iff.mp hnext).2.1]
    exact ih hr

theorem walk_extends {parts : List Text} (he : Node.Extends top top')
    (h : walk top place parts = .ok loc) : walk top' place parts = .ok loc := by
  induction parts generalizing place with
  | nil => exact h
  | cons part r ih =>
    obtain ⟨next, hnext, hr⟩ := walk_cons_eq_ok_iff.mp h
    obtain ⟨hdir, hclimb, hpart⟩ := enter_eq_ok_iff.mp hnext
    refine walk_cons_eq_ok_iff.mpr ⟨next, enter_eq_ok_iff.mpr ⟨he.dir _ hdir, hclimb, ?_⟩, ih hr⟩
    exact hpart.imp id fun ⟨hlong, hthere⟩ => ⟨hlong, he.there _ hthere⟩

/-- Nothing is reached through a file. -/
theorem walk_sameBut {parts : List Text} {changed : Location}
    (h : Node.SameBut changed top top') (hloc : loc ≠ changed)
    (hwalk : walk top place parts = .ok loc) : walk top' place parts = .ok loc := by
  induction parts generalizing place with
  | nil => exact hwalk
  | cons part r ih =>
    obtain ⟨next, hnext, hr⟩ := walk_cons_eq_ok_iff.mp hwalk
    obtain ⟨hdir, hclimb, hpart⟩ := enter_eq_ok_iff.mp hnext
    have hplace : place ≠ changed := fun he => h.left (he ▸ hdir)
    have hne : next ≠ changed := by
      rintro rfl
      cases r with
      | nil => exact hloc (walk_nil_eq_ok_iff.mp hr)
      | cons m ms =>
        obtain ⟨_, hstuck, -⟩ := walk_cons_eq_ok_iff.mp hr
        exact h.left (enter_eq_ok_iff.mp hstuck).1
    refine walk_cons_eq_ok_iff.mpr ⟨next, enter_eq_ok_iff.mpr ⟨?_, hclimb, ?_⟩, ih hr⟩
    · rwa [h.same place hplace]
    · by_cases hup : part = ".."
      · exact .inl hup
      · have hchild : place ++ [part] = next := by rw [hclimb, climb, if_neg hup]
        rw [hchild, h.same next hne, ← hchild]
        exact hpart

/-- That a path names nothing is found out before the first step on the way. -/
theorem walk_ne_unnameable (top : Node) (place : Location) (parts : List Text)
    (why : NameFault) : walk top place parts ≠ .error (.unnameable why) := by
  have henter (place : Location) (part : Text) :
      enter top place part ≠ .error (.unnameable why) := by
    unfold enter
    split
    · split
      · simp
      · split
        · simp
        · split <;> simp
    · simp
    · simp
  induction parts generalizing place with
  | nil => simp [walk]
  | cons part r ih =>
    have hfirst := henter place part
    rw [walk]
    cases hnext : enter top place part with
    | error e => rwa [hnext] at hfirst
    | ok next => exact ih next

variable {t : Tree} {p : Path}

theorem fault?_text_eq_none_iff : Text.Encoding.path.fault? p.text = none ↔
    ∀ part ∈ p.parts, Text.Encoding.path.fault? part = none := by
  simp only [Text.Encoding.fault?_eq_none_iff]
  have hjoin (parts : List Text) : (∀ c ∈ (Text.intercalate "/" parts).toList,
      Text.Encoding.path.holds c = true) ↔
        ∀ part ∈ parts, ∀ c ∈ part.toList, Text.Encoding.path.holds c = true := by
    have hchars : (Text.intercalate "/" parts).toList =
        Text.joinChars '/' (parts.map Text.toList) := (Text.joinChars_eq_intercalate _ _).symm
    rw [hchars]
    constructor
    · intro h part hpart c hc
      exact h c (Text.mem_joinChars_of_mem (List.mem_map_of_mem hpart) hc)
    · intro h c hc
      rcases Text.mem_of_mem_joinChars hc with rfl | ⟨l, hl, hc⟩
      · rfl
      · obtain ⟨part, hpart, rfl⟩ := List.mem_map.mp hl
        exact h part hpart c hc
  have hanchor : ∀ c ∈ (Path.anchorText p.anchor).toList, Text.Encoding.path.holds c = true := by
    cases p.anchor <;> decide
  unfold Path.text
  split
  · rename_i hhere
    simp only [hhere.2, List.not_mem_nil, false_imp_iff, implies_true, iff_true]
    decide
  · simp only [Text.toList_append, List.forall_mem_append, hjoin]
    exact and_iff_right hanchor

theorem obstacle?_cases (p : Path) :
    (∃ why, obstacle? p = some (.unnameable why) ∧ ¬ ∀ part ∈ p.parts, Nameable part) ∨
    (∀ part ∈ p.parts, Nameable part) ∧
      obstacle? p = if pathLimit < p.text.fileSize then some .nameTooLong else none := by
  have hsplit : (∀ part ∈ p.parts, Nameable part) ↔ Text.Encoding.path.fault? p.text = none ∧
      ∀ part ∈ p.parts, ('\x00' : Rune) ∉ part.toList := by
    rw [fault?_text_eq_none_iff]
    exact ⟨fun h => ⟨fun part hpart => (h part hpart).1, fun part hpart => (h part hpart).2⟩,
      fun h part hpart => ⟨h.1 part hpart, h.2 part hpart⟩⟩
  rw [hsplit, obstacle?]
  cases Text.Encoding.path.fault? p.text with
  | some f => exact .inl ⟨.encoding f, rfl, by simp⟩
  | none =>
    by_cases hnul : (p.parts.any fun part => ('\x00' : Rune) ∈ part.toList) = true
    · exact .inl ⟨.nul, by simp only [hnul, if_true], by simpa using hnul⟩
    · refine .inr ⟨⟨rfl, by simpa using hnul⟩, ?_⟩
      simp only [hnul, Bool.false_eq_true, if_false]

theorem obstacle?_eq_none_iff : obstacle? p = none ↔
    (∀ part ∈ p.parts, Nameable part) ∧ p.text.fileSize ≤ pathLimit := by
  rcases obstacle?_cases p with ⟨why, hsome, hnot⟩ | ⟨hall, hlong⟩
  · rw [hsome]
    simp only [reduceCtorEq, false_iff, not_and]
    exact fun h => absurd h hnot
  · rw [hlong, ← Nat.not_lt]
    simp only [ite_eq_right_iff, reduceCtorEq, imp_false]
    exact (and_iff_right hall).symm

/-- A path of parts that can be names can be looked at, unless it is too long. -/
theorem nameable_parts_iff :
    (∀ part ∈ p.parts, Nameable part) ↔ ∀ why, obstacle? p ≠ some (.unnameable why) := by
  rcases obstacle?_cases p with ⟨why, hsome, hnot⟩ | ⟨hall, hlong⟩
  · exact iff_of_false hnot fun h => h why hsome
  · refine iff_of_true hall fun why => ?_
    rw [hlong]
    split <;> simp

theorem exists_obstacle?_of_not_nameable (h : ¬ ∀ part ∈ p.parts, Nameable part) :
    ∃ why, obstacle? p = some (.unnameable why) := by
  rcases obstacle?_cases p with ⟨why, hsome, -⟩ | ⟨hall, -⟩
  · exact ⟨why, hsome⟩
  · exact absurd hall h

theorem locate_eq_ok_iff :
    t.locate p = .ok loc ↔ obstacle? p = none ∧ walk t.top (t.start p) p.parts = .ok loc := by
  unfold locate
  cases obstacle? p <;> simp

/-- A path that leads somewhere leads to the place that its text stands for. -/
theorem locate_eq_destination (h : t.locate p = .ok loc) : loc = t.destination p := by
  rw [destination_eq]
  exact walk_eq_foldl_climb (locate_eq_ok_iff.mp h).2

theorem locate_extends {t' : Tree} (hhere : t'.here = t.here) (he : Node.Extends t.top t'.top)
    (h : t.locate p = .ok loc) : t'.locate p = .ok loc := by
  obtain ⟨hnone, hwalk⟩ := locate_eq_ok_iff.mp h
  have hstart : t'.start p = t.start p := by simp [start, hhere]
  exact locate_eq_ok_iff.mpr ⟨hnone, by rw [hstart]; exact walk_extends he hwalk⟩

theorem mapError_eq_ok_iff {ε ε' α : Type} {f : ε → ε'} {x : Except ε α} {a : α} :
    x.mapError f = .ok a ↔ x = .ok a := by
  constructor
  · intro h
    cases x with
    | error e => cases h
    | ok b =>
      cases h
      rfl
  · rintro rfl
    rfl

theorem isFile_eq_true_iff :
    t.isFile p = .ok true ↔ ∃ content mode, t.look p = .ok (.file content mode) := by
  unfold isFile look?
  cases t.look p with
  | ok n => cases n <;> simp [Except.map, Node.isFile]
  | error e => cases e <;> simp [Except.map]

theorem readExact_eq_ok_iff {s : Text} : t.readExact p = .ok s ↔ ∃ loc content mode,
    t.locate p = .ok loc ∧ t.top.item? loc = some (.file content mode) ∧
      Node.mayRead mode = true ∧ Utf8.decode content = .ok s := by
  unfold readExact readBytes look
  cases t.locate p with
  | error e => simp
  | ok loc =>
    cases hn : t.top.get? loc with
    | none => simp [Node.item?, hn]
    | some n =>
      cases n with
      | dir entries => simp [Node.item?, Node.item, hn]
      | file content mode =>
        by_cases hread : Node.mayRead mode = true
        · simp [Node.item?, Node.item, hn, hread, mapError_eq_ok_iff, and_assoc]
        · simp [Node.item?, Node.item, hn, hread]

theorem readExact_eq_ok_iff_readBytes {s : Text} :
    t.readExact p = .ok s ↔
      t.readBytes p = .ok (Utf8.encode s) ∧ Text.Encoding.utf8.fault? s = none := by
  unfold readExact
  cases t.readBytes p with
  | error f => simp
  | ok bytes => simp [mapError_eq_ok_iff, Utf8.decode_eq_ok_iff]

/-- What was decoded can be encoded. -/
theorem fault?_of_readExact {s : Text} (h : t.readExact p = .ok s) :
    Text.Encoding.utf8.fault? s = none :=
  (readExact_eq_ok_iff_readBytes.mp h).2

/-- The text of a file is told by its bytes. -/
theorem readExact_of_readBytes {s raw : Text} (hread : t.readExact p = .ok s)
    (hbytes : t.readBytes p = .ok (Utf8.encode raw)) : t.readExact p = .ok raw := by
  have hown := (readExact_eq_ok_iff_readBytes.mp hread).1
  rw [hbytes, Except.ok.injEq] at hown
  rw [Utf8.encode_injective hown]
  exact hread

theorem destination_of_here {t' : Tree} (h : t'.here = t.here) (p : Path) :
    t'.destination p = t.destination p := by
  simp [destination, absolute, h]

/-- Another tree with all that a tree has, and with the same files except at some locations. -/
structure Spares (changed : Location → Prop) (t t' : Tree) : Prop where
  here : t'.here = t.here
  mask : t'.mask = t.mask
  more : Node.Extends t.top t'.top
  file (loc : Location) : ¬ changed loc → ∀ content mode,
    t'.top.item? loc = some (.file content mode) ↔ t.top.item? loc = some (.file content mode)

namespace Spares

variable {t' t'' : Tree} {changed changed' : Location → Prop}

theorem refl (changed : Location → Prop) (t : Tree) : Spares changed t t :=
  ⟨rfl, rfl, .refl _, fun _ _ _ _ => Iff.rfl⟩

theorem trans (h : Spares changed t t') (h' : Spares changed t' t'') : Spares changed t t'' where
  here := h'.here.trans h.here
  mask := h'.mask.trans h.mask
  more := h.more.trans h'.more
  file loc hloc content mode := (h'.file loc hloc content mode).trans (h.file loc hloc content mode)

theorem mono (h : Spares changed t t') (himp : ∀ loc, changed loc → changed' loc) :
    Spares changed' t t' :=
  ⟨h.here, h.mask, h.more, fun loc hloc => h.file loc fun hc => hloc (himp loc hc)⟩

theorem readExact {s : Text} (h : Spares changed t t') (hp : ¬ changed (t.destination p))
    (hread : t.readExact p = .ok s) : t'.readExact p = .ok s := by
  obtain ⟨loc, content, mode, hloc, hitem, hmay, hdec⟩ := readExact_eq_ok_iff.mp hread
  rw [← locate_eq_destination hloc] at hp
  exact readExact_eq_ok_iff.mpr ⟨loc, content, mode, locate_extends h.here h.more hloc,
    (h.file loc hp content mode).mpr hitem, hmay, hdec⟩

end Spares

end Tree

end Synopsis
