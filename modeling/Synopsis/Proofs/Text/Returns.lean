import Synopsis.Proofs.Text.Lines

namespace Synopsis.Text

def mapInit (f : Text → Text) : List Text → List Text
  | [] => []
  | [l] => [l]
  | l :: m :: r => f l :: mapInit f (m :: r)

variable {f : Text → Text} {ls : List Text} {l s : Text}

theorem mapInit_cons (l : Text) {r : List Text} (h : r ≠ []) :
    mapInit f (l :: r) = f l :: mapInit f r := by
  obtain ⟨m, r, rfl⟩ := List.exists_cons_of_ne_nil h
  rfl

theorem mapInit_append (a : List Text) {b : List Text} (h : b ≠ []) :
    mapInit f (a ++ b) = a.map f ++ mapInit f b := by
  induction a with
  | nil => rfl
  | cons l a ih =>
    have hne : a ++ b ≠ [] := List.append_ne_nil_of_right_ne_nil a h
    rw [List.cons_append, mapInit_cons l hne, ih]
    rfl

theorem mapInit_eq_self (h : ∀ l ∈ ls.dropLast, f l = l) : mapInit f ls = ls := by
  induction ls with
  | nil => rfl
  | cons l r ih =>
    cases r with
    | nil => rfl
    | cons m r =>
      rw [List.dropLast_cons_cons] at h
      rw [mapInit, h l List.mem_cons_self, ih fun x hx => h x (List.mem_cons_of_mem _ hx)]

theorem mapInit_eq_map (h : ∀ l, ls.getLast? = some l → f l = l) : mapInit f ls = ls.map f := by
  induction ls with
  | nil => rfl
  | cons l r ih =>
    cases r with
    | nil => simp [mapInit, h l rfl]
    | cons m r =>
      rw [mapInit, ih fun x hx => h x (by rwa [List.getLast?_cons_cons])]
      rfl

theorem mem_of_mem_mapInit (h : l ∈ mapInit f ls) : ∃ m ∈ ls, l = m ∨ l = f m := by
  induction ls with
  | nil => simp [mapInit] at h
  | cons m r ih =>
    cases r with
    | nil => exact ⟨m, List.mem_cons_self, .inl (List.mem_singleton.mp h)⟩
    | cons n r =>
      rw [mapInit] at h
      rcases List.mem_cons.mp h with rfl | h
      · exact ⟨m, List.mem_cons_self, .inr rfl⟩
      · obtain ⟨x, hx, hl⟩ := ih h
        exact ⟨x, List.mem_cons_of_mem _ hx, hl⟩

theorem length_mapInit (f : Text → Text) (ls : List Text) :
    (mapInit f ls).length = ls.length := by
  induction ls with
  | nil => rfl
  | cons l r ih =>
    cases r with
    | nil => rfl
    | cons m r => simpa [mapInit] using ih

theorem mapInit_ne_nil (h : ls ≠ []) : mapInit f ls ≠ [] := by
  intro hnil
  have hlength := length_mapInit f ls
  rw [hnil] at hlength
  exact h (List.length_eq_zero_iff.mp hlength.symm)

theorem mapInit_mapInit (g f : Text → Text) (ls : List Text) :
    mapInit g (mapInit f ls) = mapInit (fun l => g (f l)) ls := by
  induction ls with
  | nil => rfl
  | cons l r ih =>
    by_cases hne : r = []
    · subst hne
      rfl
    · rw [mapInit_cons l hne, mapInit_cons l hne, mapInit_cons _ (mapInit_ne_nil hne), ih]

theorem take_mapInit {n : Nat} (h : n < ls.length) :
    (mapInit f ls).take n = (ls.take n).map f := by
  induction ls generalizing n with
  | nil => simp at h
  | cons l r ih =>
    cases n with
    | zero => rfl
    | succ n =>
      have hrest : n < r.length := by simpa using h
      have hne : r ≠ [] := by
        intro hnil
        simp [hnil] at hrest
      rw [mapInit_cons l hne, List.take_succ_cons, ih hrest]
      rfl

theorem drop_mapInit (ls : List Text) (n : Nat) :
    (mapInit f ls).drop n = mapInit f (ls.drop n) := by
  induction ls generalizing n with
  | nil => simp [mapInit]
  | cons l r ih =>
    cases n with
    | zero => rfl
    | succ n =>
      rw [List.drop_succ_cons, ← ih]
      cases r with
      | nil => rfl
      | cons m r => rfl

def dropReturn (l : Text) : Text := if endsInReturn l then .ofList l.toList.dropLast else l

theorem endsInReturn_iff : endsInReturn l = true ↔ ∃ cs, l.toList = cs ++ [.char '\r'] := by
  rw [endsInReturn, decide_eq_true_iff, List.getLast?_eq_some_iff]

theorem dropReturn_of_not (h : endsInReturn l = false) : dropReturn l = l := by
  simp [dropReturn, h]

theorem mem_of_mem_dropReturn {c : Rune} (h : c ∈ (dropReturn l).toList) : c ∈ l.toList := by
  unfold dropReturn at h
  split at h
  · rw [Text.toList_ofList] at h
    exact (List.dropLast_sublist _).subset h
  · exact h

/-- Behind an indent there is the same return at the end. -/
theorem endsInReturn_append (hs : ('\r' : Rune) ∉ s.toList) (l : Text) :
    endsInReturn (s ++ l) = endsInReturn l := by
  have hnot : s.toList.getLast? ≠ some (.char '\r') := fun h => hs (List.mem_of_getLast? h)
  simp only [endsInReturn, Text.toList_append, List.getLast?_append]
  cases l.toList.getLast? with
  | none => simp [hnot]
  | some c => simp

theorem dropReturn_append (hs : ('\r' : Rune) ∉ s.toList) (l : Text) :
    dropReturn (s ++ l) = s ++ dropReturn l := by
  unfold dropReturn
  rw [endsInReturn_append hs]
  split
  · rename_i h
    obtain ⟨cs, hcs⟩ := endsInReturn_iff.mp h
    apply Text.toList_inj.mp
    simp [hcs, ← List.append_assoc]
  · rfl

theorem eq_pair_of_not {c : Rune} {r : List Rune} (h : ¬ (c ≠ '\r' ∨ r.head? ≠ some (.char '\n'))) :
    ∃ t, c :: r = .char '\r' :: .char '\n' :: t := by
  simp only [not_or, Decidable.not_not] at h
  obtain ⟨rfl, hhead⟩ := h
  obtain ⟨t, rfl⟩ := List.head?_eq_some_iff.mp hhead
  exact ⟨t, rfl⟩

theorem lfOfCrlf_eq_self_iff {cs : List Rune} : lfOfCrlf cs = cs ↔ hasCrlf cs = false := by
  induction cs with
  | nil => simp [lfOfCrlf, hasCrlf]
  | cons c r ih =>
    by_cases hpair : c ≠ '\r' ∨ r.head? ≠ some (.char '\n')
    · rw [lfOfCrlf_cons_of_ne hpair, hasCrlf_cons_of_ne hpair, ← ih]
      simp
    · obtain ⟨t, ht⟩ := eq_pair_of_not hpair
      rw [ht]
      simp [lfOfCrlf, hasCrlf]

theorem lfOfCrlf_append_lf {a : List Rune} (b : List Rune) (h : ('\n' : Rune) ∉ a) :
    lfOfCrlf (a ++ .char '\n' :: b) =
      (if a.getLast? = some (.char '\r') then a.dropLast else a) ++ .char '\n' :: lfOfCrlf b := by
  induction a with
  | nil => simp [lfOfCrlf_cons_of_ne]
  | cons c r ih =>
    simp only [List.mem_cons, not_or] at h
    cases r with
    | nil =>
      by_cases hc : c = '\r'
      · simp [hc, lfOfCrlf]
      · rw [List.cons_append, List.nil_append, lfOfCrlf_cons_of_ne (.inl hc),
          lfOfCrlf_cons_of_ne (by simp)]
        simp [hc]
    | cons d t =>
      have hd : d ≠ '\n' := fun he => h.2 (by simp [he])
      rw [List.cons_append, lfOfCrlf_cons_of_ne (.inr (by simpa using hd)), ih h.2,
        List.getLast?_cons_cons]
      split <;> rfl

theorem toList_joinLines_cons (l : Text) (h : ls ≠ []) :
    (joinLines (l :: ls)).toList = l.toList ++ .char '\n' :: (joinLines ls).toList := by
  obtain ⟨m, r, rfl⟩ := List.exists_cons_of_ne_nil h
  simp [joinLines, joinChars]

theorem lfOfCrlf_joinLines (h : ∀ l ∈ ls, ('\n' : Rune) ∉ l.toList) :
    lfOfCrlf (joinLines ls).toList = (joinLines (mapInit dropReturn ls)).toList := by
  induction ls with
  | nil => rfl
  | cons l r ih =>
    have hl := h l List.mem_cons_self
    have hrest := ih fun x hx => h x (List.mem_cons_of_mem _ hx)
    by_cases hne : r = []
    · subst hne
      simpa [joinLines, joinChars, mapInit] using
        lfOfCrlf_eq_self_iff.mpr (hasCrlf_of_lf_not_mem hl)
    · rw [mapInit_cons l hne, toList_joinLines_cons l hne,
        toList_joinLines_cons _ (mapInit_ne_nil hne), lfOfCrlf_append_lf _ hl, hrest]
      congr 1
      unfold dropReturn endsInReturn
      simp only [decide_eq_true_eq]
      split <;> simp

theorem crlfOfLf_append (a b : List Rune) : crlfOfLf (a ++ b) = crlfOfLf a ++ crlfOfLf b :=
  List.flatMap_append

theorem crlfOfLf_joinLines (h : ∀ l ∈ ls, ('\n' : Rune) ∉ l.toList) :
    crlfOfLf (joinLines ls).toList = (joinLines (mapInit (· ++ "\r") ls)).toList := by
  induction ls with
  | nil => rfl
  | cons l r ih =>
    have hl := h l List.mem_cons_self
    have hrest := ih fun x hx => h x (List.mem_cons_of_mem _ hx)
    by_cases hne : r = []
    · subst hne
      simpa [joinLines, joinChars, mapInit] using crlfOfLf_of_not_mem hl
    · rw [mapInit_cons l hne, toList_joinLines_cons l hne,
        toList_joinLines_cons _ (mapInit_ne_nil hne), crlfOfLf_append, crlfOfLf_of_not_mem hl,
        crlfOfLf_cons_lf, hrest]
      simp

theorem splitLines_joinLines_mapInit (hne : ls ≠ []) (h : ∀ l ∈ ls, ('\n' : Rune) ∉ l.toList)
    (hf : ∀ l, ('\n' : Rune) ∈ (f l).toList → ('\n' : Rune) ∈ l.toList) :
    splitLines (joinLines (mapInit f ls)) = mapInit f ls := by
  apply splitLines_joinLines (mapInit_ne_nil hne)
  intro l hl hlf
  obtain ⟨m, hm, rfl | rfl⟩ := mem_of_mem_mapInit hl
  · exact h l hm hlf
  · exact h m hm (hf m hlf)

/-- The lines of a text, read with the line break that it seems to have. -/
theorem splitLines_undo_ofText (raw : Text) :
    splitLines ((LineBreak.ofText raw).undo raw) = mapInit dropReturn (splitLines raw) := by
  have hplain : ∀ l ∈ splitLines raw, ('\n' : Rune) ∉ l.toList :=
    fun _ hl => lf_not_mem_of_mem_splitLines hl
  have hread := lfOfCrlf_joinLines hplain
  have hany := hasCrlf_joinLines hplain
  rw [joinLines_splitLines] at hread hany
  rw [LineBreak.ofText]
  split
  · rw [LineBreak.undo, hread, Text.ofList_toList]
    exact splitLines_joinLines_mapInit (splitLines_ne_nil raw) hplain
      fun _ hlf => mem_of_mem_dropReturn hlf
  · rename_i hpair
    rw [Bool.not_eq_true] at hpair
    rw [hpair] at hany
    have hnone := List.any_eq_false.mp hany.symm
    symm
    apply mapInit_eq_self
    intro l hl
    exact dropReturn_of_not (Bool.eq_false_iff.mpr (hnone l hl))

namespace LineBreak

/-- A line as it is written in front of another one. -/
def mark : LineBreak → Text → Text
  | .lf, l => l
  | .crlf, l => l ++ "\r"

/-- What is read of a line that was written in front of another one. -/
def reread (b : LineBreak) (l : Text) : Text := dropReturn (b.mark l)

theorem reread_crlf (l : Text) : LineBreak.crlf.reread l = l := by
  have hends : endsInReturn (l ++ "\r") = true := endsInReturn_iff.mpr ⟨l.toList, by simp⟩
  rw [reread, mark, dropReturn, if_pos hends]
  simp

theorem reread_eq_self {b : LineBreak} (h : b = .lf → endsInReturn l = false) :
    b.reread l = l := by
  cases b with
  | lf => exact dropReturn_of_not (h rfl)
  | crlf => exact reread_crlf l

theorem reread_append (b : LineBreak) (hs : ('\r' : Rune) ∉ s.toList) (l : Text) :
    b.reread (s ++ l) = s ++ b.reread l := by
  cases b with
  | lf => exact dropReturn_append hs l
  | crlf => rw [reread_crlf, reread_crlf]

theorem mem_of_mem_reread {b : LineBreak} {c : Rune} (h : c ∈ (b.reread l).toList) :
    c ∈ l.toList := by
  cases b with
  | lf => exact mem_of_mem_dropReturn h
  | crlf => rwa [reread_crlf] at h

theorem splitLines_apply (b : LineBreak) (hne : ls ≠ []) (h : ∀ l ∈ ls, ('\n' : Rune) ∉ l.toList) :
    splitLines (b.apply (joinLines ls)) = mapInit b.mark ls := by
  cases b with
  | lf =>
    have hmark : mapInit (mark .lf) ls = ls := mapInit_eq_self fun _ _ => rfl
    rw [apply, splitLines_joinLines hne h, hmark]
  | crlf =>
    rw [apply, crlfOfLf_joinLines h, Text.ofList_toList]
    exact splitLines_joinLines_mapInit hne h fun l hlf => by simpa using hlf

/-- What is read of a text that was written with other lines behind it. -/
def kept (b : LineBreak) (s : Text) : Text := joinLines ((splitLines s).map b.reread)

theorem splitLines_kept (b : LineBreak) (s : Text) :
    splitLines (b.kept s) = (splitLines s).map b.reread := by
  apply splitLines_joinLines
  · simpa using splitLines_ne_nil s
  · intro l hl hlf
    obtain ⟨m, hm, rfl⟩ := List.mem_map.mp hl
    exact lf_not_mem_of_mem_splitLines hm (mem_of_mem_reread hlf)

theorem kept_crlf (s : Text) : LineBreak.crlf.kept s = s := by
  have hid : (splitLines s).map LineBreak.crlf.reread = splitLines s := by
    simp [funext reread_crlf]
  rw [kept, hid, joinLines_splitLines]

end LineBreak

theorem toList_suffix_joinLines (h : ls.getLast? = some l) :
    l.toList <:+ (joinLines ls).toList := by
  induction ls with
  | nil => simp at h
  | cons m r ih =>
    by_cases hne : r = []
    · subst hne
      obtain rfl : m = l := by simpa using h
      simp [joinLines, joinChars]
    · rw [toList_joinLines_cons m hne]
      have hlast : r.getLast? = some l := by
        obtain ⟨n, r, rfl⟩ := List.exists_cons_of_ne_nil hne
        rwa [List.getLast?_cons_cons] at h
      exact ((ih hlast).trans (List.suffix_cons _ _)).trans (List.suffix_append _ _)

/-- The last line has no return to lose if the text does not end in one. -/
theorem LineBreak.kept_lf (h : endsInReturn s = false) :
    LineBreak.lf.kept s = LineBreak.crlf.undo s := by
  have hlast : ∀ l, (splitLines s).getLast? = some l → dropReturn l = l := by
    intro l hl
    apply dropReturn_of_not
    apply Bool.eq_false_iff.mpr
    intro hends
    obtain ⟨cs, hcs⟩ := endsInReturn_iff.mp hends
    have hsuffix := toList_suffix_joinLines hl
    rw [joinLines_splitLines, hcs] at hsuffix
    obtain ⟨front, hfront⟩ := hsuffix
    have hs : endsInReturn s = true :=
      endsInReturn_iff.mpr ⟨front ++ cs, by rw [← hfront, List.append_assoc]⟩
    simp [h] at hs
  have hread := lfOfCrlf_joinLines fun _ hl => lf_not_mem_of_mem_splitLines (s := s) hl
  rw [joinLines_splitLines, mapInit_eq_map hlast] at hread
  rw [undo, hread, Text.ofList_toList]
  rfl

theorem undo_crlf_eq_self_iff : LineBreak.crlf.undo s = s ↔ hasCrlf s.toList = false := by
  rw [← lfOfCrlf_eq_self_iff, LineBreak.undo, ← Text.toList_inj, Text.toList_ofList]

end Synopsis.Text
