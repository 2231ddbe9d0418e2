import Synopsis.Proofs.Tree.Replace

namespace Synopsis

/-- An item without its content. -/
def Item.bare : Item → Item
  | .dir => .dir
  | .file _ mode => .file [] mode

namespace Tree

variable {t t' t'' : Tree} {p temp : Path} {loc : Location} {changed changed' : Location → Prop}
  {content : List UInt8}

/-- The same directories, and the same files with the same modes; at locations that are not among
the changed ones, with the same contents. -/
structure Alike (changed : Location → Prop) (t t' : Tree) : Prop where
  here : t'.here = t.here
  mask : t'.mask = t.mask
  bare (loc : Location) : (t'.top.item? loc).map Item.bare = (t.top.item? loc).map Item.bare
  item (loc : Location) : ¬ changed loc → t'.top.item? loc = t.top.item? loc

/-- The same error, or results that look the same. -/
theorem cases_of_map_eq {ε α β γ : Type} {x : Except ε α} {y : Except ε β} {f : α → γ} {g : β → γ}
    (h : x.map f = y.map g) : (∃ e, x = .error e ∧ y = .error e) ∨
      ∃ a b, x = .ok a ∧ y = .ok b ∧ f a = g b := by
  cases x with
  | error e =>
    cases y with
    | error e' => exact .inl ⟨e, rfl, by rw [Except.error.inj h]⟩
    | ok b => cases h
  | ok a =>
    cases y with
    | error e' => cases h
    | ok b => exact .inr ⟨a, b, rfl, rfl, Except.ok.inj h⟩

theorem enter_eq (top : Node) (place : Location) (part : Text) : enter top place part =
    match (top.item? place).map Item.bare with
    | some .dir =>
      if part = ".." then .ok place.dropLast
      else if nameLimit < part.fileSize then .error .nameTooLong
      else if ((top.item? (place ++ [part])).map Item.bare).isSome then .ok (place ++ [part])
      else .error .missing
    | some (.file ..) => .error .notDirectory
    | none => .error .missing := by
  unfold enter
  cases hplace : top.get? place with
  | none => simp [Node.item?, hplace]
  | some n =>
    cases n with
    | file content mode => simp [Node.item?, hplace, Node.item, Item.bare]
    | dir entries =>
      have hentry : top.get? (place ++ [part]) = Keyed.get? entries part := by
        rw [Node.get?_append, hplace, Option.bind_some, Node.get?_entry]
      simp only [Node.item?, hplace, hentry, Node.item, Item.bare, Option.map_some,
        Option.isSome_map]
      cases Keyed.get? entries part <;> rfl

theorem readBytes_eq (t : Tree) (p : Path) : t.readBytes p =
    match t.locate p with
    | .ok loc =>
      match t.top.item? loc with
      | some (.file content mode) =>
        if Node.mayRead mode then .ok content else .error (.of .denied p.text)
      | some .dir => .error (.of .isDirectory p.text)
      | none => .error (.of .missing p.text)
    | .error e => .error (.of e p.text) := by
  unfold readBytes look
  cases t.locate p with
  | error e => rfl
  | ok loc =>
    cases hn : t.top.get? loc with
    | none => simp [Node.item?, hn]
    | some n => cases n <;> simp [Node.item?, hn, Node.item]

/-- Only the path itself can be what keeps a file from being asked for. -/
theorem obstacle?_of_readExact {why : NameFault} {text : Text}
    (h : t.readExact p = .error (.file (.of (.unnameable why) text))) :
    obstacle? p = some (.unnameable why) := by
  have hbytes : t.readBytes p = .error (.of (.unnameable why) text) := by
    rw [readExact] at h
    cases hb : t.readBytes p with
    | ok bytes =>
      rw [hb] at h
      cases hd : Utf8.decode bytes <;> simp only [hd] at h <;> cases h
    | error f => simpa [hb] using h
  rw [readBytes_eq] at hbytes
  cases hloc : t.locate p with
  | ok loc =>
    simp only [hloc] at hbytes
    split at hbytes
    · split at hbytes <;> simp at hbytes
    · simp at hbytes
    · simp at hbytes
  | error e =>
    obtain rfl : e = .unnameable why := by
      simp only [hloc, Except.error.injEq, Fault.of.injEq] at hbytes
      exact hbytes.1
    rw [locate] at hloc
    cases hobstacle : obstacle? p with
    | none =>
      rw [hobstacle] at hloc
      exact absurd hloc (walk_ne_unnameable _ _ _ _)
    | some e =>
      rw [hobstacle] at hloc
      rw [Except.error.inj hloc]

theorem modeFor_eq (t : Tree) (p : Path) : t.modeFor p =
    match t.locate p with
    | .ok loc =>
      match (t.top.item? loc).map Item.bare with
      | some (.file _ mode) => .ok mode
      | some .dir => .ok 0o755
      | none => .ok t.newMode
    | .error .missing => .ok t.newMode
    | .error .notDirectory => .ok t.newMode
    | .error (.unnameable _) => .ok t.newMode
    | .error e => .error (.of e p.text) := by
  unfold modeFor look? look
  cases t.locate p with
  | error e => cases e <;> rfl
  | ok loc =>
    cases hn : t.top.get? loc with
    | none => simp [Node.item?, hn, Except.map]
    | some n => cases n <;> simp [Node.item?, hn, Node.item, Item.bare, Except.map]

theorem isFile_eq (t : Tree) (p : Path) : t.isFile p =
    match t.locate p with
    | .ok loc =>
      match (t.top.item? loc).map Item.bare with
      | some (.file ..) => .ok true
      | _ => .ok false
    | .error .missing => .ok false
    | .error .notDirectory => .ok false
    | .error (.unnameable _) => .ok false
    | .error e => .error (.of e p.text) := by
  unfold isFile look? look
  cases t.locate p with
  | error e => cases e <;> rfl
  | ok loc =>
    cases hn : t.top.get? loc with
    | none => simp [Node.item?, hn, Except.map]
    | some n => cases n <;> simp [Node.item?, hn, Node.item, Item.bare, Node.isFile, Except.map]

/-- What a slot tells of the node in it. -/
def seen (place : Location × Option Node) : Location × Option Item :=
  (place.1, (place.2.map Node.item).map Item.bare)

theorem slot_eq (t : Tree) (p : Path) : (t.slot p).map seen =
    match obstacle? p, walk t.top (t.start p) p.parts.dropLast with
    | some e, _ => .error e
    | none, .error e => .error e
    | none, .ok dir =>
      match (t.top.item? dir).map Item.bare with
      | some .dir =>
        if nameLimit < p.name.fileSize then .error .nameTooLong
        else .ok (dir ++ [p.name], (t.top.item? (dir ++ [p.name])).map Item.bare)
      | some (.file ..) => .error .notDirectory
      | none => .error .missing := by
  unfold slot
  cases obstacle? p with
  | some e => rfl
  | none =>
    cases walk t.top (t.start p) p.parts.dropLast with
    | error e => rfl
    | ok dir =>
      cases hdir : t.top.get? dir with
      | none => simp [Node.item?, hdir, Except.map]
      | some n =>
        cases n with
        | file content mode => simp [Node.item?, hdir, Node.item, Item.bare, Except.map]
        | dir entries =>
          have hentry : t.top.get? (dir ++ [p.name]) = Keyed.get? entries p.name := by
            rw [Node.get?_append, hdir, Option.bind_some, Node.get?_entry]
          simp only [Node.item?, hdir, hentry, Node.item, Item.bare, Option.map_some]
          split <;> rfl

theorem moveOver_eq (t : Tree) (temp : Path) (loc : Location) (p : Path) :
    (t.moveOver temp loc p).map (fun _ => ()) =
      match (t.slot p).map seen with
      | .error e => .error (.moving e temp.text p.text)
      | .ok (_, old) =>
        if !isNamed p then .error (.moving .busy temp.text p.text)
        else if old = some .dir then .error (.moving .isDirectory temp.text p.text)
        else if (t.top.get? loc).isSome then .ok ()
        else .error (.moving .missing temp.text p.text) := by
  unfold moveOver
  cases t.slot p with
  | error e => rfl
  | ok place =>
    obtain ⟨target, old⟩ := place
    simp only [Except.map, seen]
    by_cases hnamed : isNamed p = true
    · simp only [hnamed, Bool.not_true, Bool.false_eq_true, if_false]
      cases old with
      | none => cases t.top.get? loc <;> simp
      | some n =>
        cases n with
        | dir entries => simp [Node.item, Item.bare]
        | file content mode => cases t.top.get? loc <;> simp [Node.item, Item.bare]
    · simp [hnamed]

namespace Alike

theorem refl (changed : Location → Prop) (t : Tree) : Alike changed t t :=
  ⟨rfl, rfl, fun _ => rfl, fun _ _ => rfl⟩

theorem trans (h : Alike changed t t') (h' : Alike changed t' t'') : Alike changed t t'' where
  here := h'.here.trans h.here
  mask := h'.mask.trans h.mask
  bare loc := (h'.bare loc).trans (h.bare loc)
  item loc hloc := (h'.item loc hloc).trans (h.item loc hloc)

theorem mono (h : Alike changed t t') (himp : ∀ loc, changed loc → changed' loc) :
    Alike changed' t t' :=
  ⟨h.here, h.mask, h.bare, fun loc hloc => h.item loc fun hc => hloc (himp loc hc)⟩

theorem more (h : Alike changed t t') : Node.Extends t.top t'.top where
  dir loc hdir := by
    have hbare := h.bare loc
    rw [hdir, Option.map_some, Item.bare, Option.map_eq_some_iff] at hbare
    obtain ⟨item, hitem, hdir'⟩ := hbare
    cases item with
    | dir => exact hitem
    | file content mode => cases hdir'
  there loc hthere := by
    rw [← Option.isSome_map (f := Item.bare), h.bare, Option.isSome_map]
    exact hthere

theorem spares (h : Alike changed t t') : Spares changed t t' :=
  ⟨h.here, h.mask, h.more, fun loc hloc content mode => by rw [h.item loc hloc]⟩

theorem newMode (h : Alike changed t t') : t'.newMode = t.newMode := by
  simp [Tree.newMode, h.mask]

theorem modeAt (h : Alike changed t t') (loc : Location) : t'.modeAt loc = t.modeAt loc := by
  have hbare := h.bare loc
  have hnew := h.newMode
  unfold Tree.modeAt
  generalize t'.top.item? loc = new at hbare ⊢
  generalize t.top.item? loc = old at hbare ⊢
  rcases new with _ | _ | ⟨c', m'⟩ <;> rcases old with _ | _ | ⟨c, m⟩ <;>
    simp [Item.bare] at hbare <;> simp [hnew, hbare]

theorem enter (h : Alike changed t t') (place : Location) (part : Text) :
    enter t'.top place part = Tree.enter t.top place part := by
  rw [enter_eq, enter_eq, h.bare, h.bare]

theorem walk (h : Alike changed t t') (place : Location) (parts : List Text) :
    walk t'.top place parts = Tree.walk t.top place parts := by
  induction parts generalizing place with
  | nil => rfl
  | cons part r ih =>
    rw [Tree.walk, Tree.walk, h.enter]
    cases Tree.enter t.top place part with
    | error e => rfl
    | ok next => exact ih next

theorem start (h : Alike changed t t') (p : Path) : t'.start p = t.start p := by
  simp [Tree.start, h.here]

theorem locate (h : Alike changed t t') (p : Path) : t'.locate p = t.locate p := by
  rw [Tree.locate, Tree.locate, h.start, h.walk]

theorem readExact (h : Alike changed t t') (hp : ¬ changed (t.destination p)) :
    t'.readExact p = t.readExact p := by
  have hbytes : t'.readBytes p = t.readBytes p := by
    rw [readBytes_eq, readBytes_eq, h.locate]
    cases hloc : t.locate p with
    | error e => rfl
    | ok loc =>
      have hsame : t'.top.item? loc = t.top.item? loc := by
        rw [locate_eq_destination hloc]
        exact h.item _ hp
      simp only [hsame]
  rw [Tree.readExact, Tree.readExact, hbytes]

theorem modeFor (h : Alike changed t t') (p : Path) : t'.modeFor p = t.modeFor p := by
  rw [modeFor_eq, modeFor_eq, h.locate]
  cases t.locate p with
  | error e => cases e <;> simp only [h.newMode]
  | ok loc => simp only [h.bare, h.newMode]

theorem isFile (h : Alike changed t t') (p : Path) : t'.isFile p = t.isFile p := by
  rw [isFile_eq, isFile_eq, h.locate]
  cases t.locate p with
  | error e => cases e <;> rfl
  | ok loc => simp only [h.bare]

theorem slot (h : Alike changed t t') (p : Path) : (t'.slot p).map seen = (t.slot p).map seen := by
  rw [slot_eq, slot_eq, h.start, h.walk]
  simp only [h.bare]

theorem isSome_get? (h : Alike changed t t') (loc : Location) :
    (t'.top.get? loc).isSome = (t.top.get? loc).isSome := by
  have hbare := congrArg Option.isSome (h.bare loc)
  simpa [Node.item?] using hbare

theorem temporary (h : Alike changed t t') (p : Path) (n : Nat) :
    t'.temporary p n = t.temporary p n := by
  simp [Tree.temporary, absolute, h.here]

/-- The same name is free in both. -/
theorem createBeside (h : Alike changed t t') (p : Path) (content content' : List UInt8)
    (tries n : Nat) :
    (t'.createBeside p content' tries n).map (fun made => (made.1, made.2.1)) =
      (t.createBeside p content tries n).map (fun made => (made.1, made.2.1)) := by
  induction tries generalizing n with
  | zero => rfl
  | succ tries ih =>
    rw [Tree.createBeside, Tree.createBeside, h.temporary]
    rcases cases_of_map_eq (h.slot (t.temporary p n)) with
      ⟨e, hnew, hold⟩ | ⟨⟨loc', old'⟩, ⟨loc, old⟩, hnew, hold, hseen⟩
    · rw [hnew, hold]
    · obtain ⟨hloc, hseen⟩ := Prod.mk.inj hseen
      obtain rfl : loc' = loc := hloc
      rw [hnew, hold]
      cases old with
      | none =>
        cases old' with
        | none => rfl
        | some node' => simp at hseen
      | some node =>
        cases old' with
        | none => simp at hseen
        | some node' => exact ih (n + 1)

end Alike

theorem Beside.item?_fill {mode : Nat} (hb : t.Beside p temp loc) (other : Location) :
    (Beside.fill t loc content mode).top.item? other =
      if other = loc then some (.file content mode) else t.top.item? other := by
  have hnone := Node.item?_eq_none_iff.mpr hb.free
  obtain ⟨dir, hreach, rfl⟩ := hb.reaches
  exact Node.item?_set hreach.isDir (by simp [hnone])
    (fun x r => Node.get?_file_cons content mode x r) other

namespace Alike

theorem fill (h : Alike changed t t') (hb : t.Beside p temp loc) (hb' : t'.Beside p temp loc)
    (content content' : List UInt8) (mode : Nat) :
    Alike (fun other => other = loc ∨ changed other) (Beside.fill t loc content mode)
      (Beside.fill t' loc content' mode) where
  here := h.here
  mask := h.mask
  bare other := by
    rw [hb.item?_fill, hb'.item?_fill]
    split
    · rfl
    · exact h.bare other
  item other hother := by
    rw [not_or] at hother
    rw [hb.item?_fill, hb'.item?_fill, if_neg hother.1, if_neg hother.1]
    exact h.item other hother.2

theorem moveOver (h : Alike changed t t') (temp : Path) (loc : Location) (p : Path) :
    (t'.moveOver temp loc p).map (fun _ => ()) = (t.moveOver temp loc p).map (fun _ => ()) := by
  rw [moveOver_eq, moveOver_eq, h.slot, h.isSome_get?]

/-- Whether a file can be replaced does not depend on what is to be written. -/
theorem replaceFile (h : Alike changed t t') (p : Path) (content content' : List UInt8) :
    (t'.replaceFile p content').1 = (t.replaceFile p content).1 := by
  rcases cases_of_map_eq (h.createBeside p content content' 10000 0) with
    ⟨f, hnew, hold⟩ | ⟨⟨temp', loc', written'⟩, ⟨temp, loc, written⟩, hnew, hold, hsame⟩
  · rw [Tree.replaceFile, Tree.replaceFile, hold, hnew]
  · obtain ⟨rfl, rfl⟩ := Prod.mk.inj hsame
    obtain ⟨hb, rfl⟩ := createBeside_eq_ok hold
    obtain ⟨hb', rfl⟩ := createBeside_eq_ok hnew
    rw [hb.replaceFile_eq hold, hb'.replaceFile_eq hnew,
      (h.fill hb hb' content content' 0o600).modeFor]
    cases Tree.modeFor (Beside.fill t loc' content 0o600) p with
    | error f => rfl
    | ok mode =>
      rcases cases_of_map_eq ((h.fill hb hb' content content' mode).moveOver temp' loc' p) with
        ⟨f, hmoved', hmoved⟩ | ⟨done', done, hmoved', hmoved, -⟩
      · simp only [hmoved', hmoved]
      · simp only [hmoved', hmoved]

/-- A file that is the same in both trees is replaced with the same outcome in both. -/
theorem replaceText (h : Alike changed t t') (p : Path) (text : Text) :
    (t'.replaceText p text).1 = (t.replaceText p text).1 := by
  rw [Tree.replaceText, Tree.replaceText]
  cases Text.Encoding.utf8.fault? text with
  | none =>
    have hfile := h.replaceFile p (Utf8.encode text) (Utf8.encode text)
    simp only [hfile]
  | some f =>
    rcases cases_of_map_eq (h.createBeside p [] [] 10000 0) with
      ⟨e, hnew, hold⟩ | ⟨made', made, hnew, hold, -⟩
    · rw [hnew, hold]
    · rw [hnew, hold]

/-- The file at the path is the same afterwards, if it was the same before. -/
theorem item?_replaceText (h : Alike changed t t') (hp : ¬ changed (t.destination p))
    (text : Text) : (t'.replaceText p text).2.top.item? (t.destination p) =
      (t.replaceText p text).2.top.item? (t.destination p) := by
  have hdone := h.replaceText p text
  have hhere : t'.destination p = t.destination p := destination_of_here h.here p
  cases hold : t.replaceText p text with
  | mk done made =>
    cases hnew : t'.replaceText p text with
    | mk done' made' =>
      rw [hold, hnew] at hdone
      obtain rfl : done' = done := hdone
      cases done' with
      | error f =>
        rw [replaceText_error hold, replaceText_error hnew]
        exact h.item _ hp
      | ok _ =>
        obtain ⟨loc, htakes, rfl⟩ := replaceText_takes hold
        obtain ⟨loc', htakes', rfl⟩ := replaceText_takes hnew
        have hloc' : loc' = t.destination p := htakes'.eq_destination.trans hhere
        simp only
        rw [← hloc', htakes'.item?_withFile, hloc', ← htakes.eq_destination,
          htakes.item?_withFile, h.modeAt]

end Alike

/-- To replace a file that is there changes nothing but its content. -/
theorem Takes.alike (h : t.Takes p loc) (hthere : (t.top.item? loc).isSome)
    (content : List UInt8) : Alike (· = loc) t (t.withFile loc content) where
  here := rfl
  mask := rfl
  bare other := by
    by_cases hother : other = loc
    · rw [hother, h.item?_withFile]
      have hfree := h.free
      cases hitem : t.top.item? loc with
      | none => simp [hitem] at hthere
      | some item =>
        cases item with
        | dir => exact absurd hitem hfree
        | file c m =>
          rw [modeAt_of_item? hitem]
          rfl
    · rw [(h.sameBut_withFile content).same other hother]
  item other hother := (h.sameBut_withFile content).same other hother

theorem replaceText_alike {text raw : Text} (hread : t.readExact p = .ok raw)
    (h : t.replaceText p text = (.ok (), t')) : Alike (· = t.destination p) t t' := by
  obtain ⟨loc, content, mode, hloc, hitem, -, -⟩ := readExact_eq_ok_iff.mp hread
  obtain ⟨target, htakes, rfl⟩ := replaceText_takes h
  have hsame : target = loc := htakes.eq_destination.trans (locate_eq_destination hloc).symm
  rw [← htakes.eq_destination]
  apply htakes.alike
  rw [hsame, hitem]
  rfl

theorem fault?_of_replaceText {text : Text} {e : Text.EncodingFault}
    (h : (t.replaceText p text).1 = .error (.encoding e)) :
    Text.Encoding.utf8.fault? text = some e := by
  rw [replaceText] at h
  cases hfault : Text.Encoding.utf8.fault? text with
  | none =>
    simp only [hfault] at h
    cases hdone : (t.replaceFile p (Utf8.encode text)).1 <;> rw [hdone] at h <;> cases h
  | some f =>
    rw [hfault] at h
    cases hcreate : t.createBeside p [] 10000 0 <;> simp_all

end Tree

end Synopsis
