import Synopsis.Proofs.Json.Scanning
import Synopsis.Proofs.Json.Words
import Synopsis.Proofs.Text.Lines

namespace Synopsis.Json

variable {c : Rune} {cs r w : List Rune} {seen : List Rune} {units written : List Letter}
  {ts : List Token} {mode : Mode} {v : Json}

/-- What may stand around tokens. -/
def IsBlank (c : Rune) : Prop := c = ' ' ∨ c = '\t' ∨ c = '\n' ∨ c = '\r'

inductive Mark : Rune → Token → Prop where
  | openObject : Mark '\x7b' .openObject
  | closeObject : Mark '\x7d' .closeObject
  | openArray : Mark '[' .openArray
  | closeArray : Mark ']' .closeArray
  | colon : Mark ':' .colon
  | comma : Mark ',' .comma

/-- What stands between two quotes, and the letters that it is read as. -/
inductive Quotes : List Rune → List Letter → Prop where
  | nil : Quotes [] []
  | plain {c : Rune} {cs : List Rune} {ls : List Letter} (hquote : c ≠ '"') (hslash : c ≠ '\\')
    (hcontrol : ¬ c.toNat < 0x20) (h : Quotes cs ls) : Quotes (c :: cs) (.plain c :: ls)
  | short {c u : Rune} {cs : List Rune} {ls : List Letter} (hshort : escaped? c = some u)
    (h : Quotes cs ls) : Quotes (.char '\\' :: c :: cs) (.plain u :: ls)
  | long {a b c d : Rune} {x y z u : Nat} {cs : List Rune} {ls : List Letter}
    (ha : hexValue? a = some x) (hb : hexValue? b = some y) (hc : hexValue? c = some z)
    (hd : hexValue? d = some u) (h : Quotes cs ls) :
    Quotes (.char '\\' :: .char 'u' :: a :: b :: c :: d :: cs)
      (.numbered (((x * 16 + y) * 16 + z) * 16 + u) :: ls)

/-- A text without a character that would go on with a word. -/
def NoWord (cs : List Rune) : Prop := ∀ c ∈ cs.head?, isWordChar c = false

/-- The tokens that a text is made of, with nothing but blanks around them. -/
inductive Spells : List Rune → List Token → Prop where
  | nil : Spells [] []
  | blank {c : Rune} {cs : List Rune} {ts : List Token} (hblank : IsBlank c) (h : Spells cs ts) :
    Spells (c :: cs) ts
  | mark {c : Rune} {t : Token} {cs : List Rune} {ts : List Token} (hmark : Mark c t)
    (h : Spells cs ts) : Spells (c :: cs) (t :: ts)
  | text {quoted cs : List Rune} {ls : List Letter} {ts : List Token} (hquoted : Quotes quoted ls)
    (h : Spells cs ts) :
    Spells (.char '"' :: quoted ++ .char '"' :: cs) (.text (.ofList (unescaped ls)) :: ts)
  | word {w cs : List Rune} {v : Json} {ts : List Token} (hword : Literal w v) (hend : NoWord cs)
    (h : Spells cs ts) : Spells (w ++ cs) (.atom v :: ts)

/-- What a character between two tokens begins. -/
inductive Begins : Rune → List Token → Mode → Prop where
  | blank {c : Rune} (h : IsBlank c) : Begins c [] .between
  | mark {c : Rune} {t : Token} (h : Mark c t) : Begins c [t] .between
  | quote : Begins '"' [] (.text [])
  | word {c : Rune} (h : isWordChar c = true) : Begins c [] (.word [c])

theorem begin?_eq_some_iff : begin? c = some (ts, mode) ↔ Begins c ts mode := by
  constructor
  · intro h
    unfold begin? at h
    split at h
    · rename_i hblank
      obtain ⟨rfl, rfl⟩ := Prod.mk.inj (Option.some.inj h)
      exact .blank hblank
    · iterate 6
        split at h
        · rename_i hc
          obtain ⟨rfl, rfl⟩ := Prod.mk.inj (Option.some.inj h)
          subst hc
          exact .mark (by constructor)
      split at h
      · rename_i hc
        obtain ⟨rfl, rfl⟩ := Prod.mk.inj (Option.some.inj h)
        subst hc
        exact .quote
      · split at h
        · rename_i hword
          obtain ⟨rfl, rfl⟩ := Prod.mk.inj (Option.some.inj h)
          exact .word hword
        · simp at h
  · intro h
    cases h with
    | blank h => rcases h with rfl | rfl | rfl | rfl <;> rfl
    | mark h => cases h <;> rfl
    | quote => rfl
    | word h =>
      have hne {d : Rune} (hd : isWordChar d = false) : c ≠ d := by
        rintro rfl
        simp [hd] at h
      simp only [begin?, hne (d := ' ') (by decide), hne (d := '\t') (by decide),
        hne (d := '\n') (by decide), hne (d := '\r') (by decide), hne (d := '\x7b') (by decide),
        hne (d := '\x7d') (by decide), hne (d := '[') (by decide), hne (d := ']') (by decide),
        hne (d := ':') (by decide), hne (d := ',') (by decide), hne (d := '"') (by decide), h,
        or_self, if_false, if_true]

theorem scan_begins (h : Begins c ts mode) : scan .between (c :: r) = ts ++ scan mode r :=
  scan_cons (begin?_eq_some_iff.mpr h)

theorem scan_junk (h : scanChar mode c = none) : scan mode (c :: r) = [.junk] := by
  rw [scan, h]

theorem scan_begin?_none (h : begin? c = none) : scan .between (c :: r) = [.junk] := by
  have hchar : scanChar .between c = none := h
  exact scan_junk hchar

theorem scan_silent {mode' : Mode} (h : scanChar mode c = some ([], mode')) :
    scan mode (c :: r) = scan mode' r := by
  rw [scan_cons h, List.nil_append]

theorem scan_hex {value owed d : Nat} (h : hexValue? c = some d) :
    scan (.hex units value owed) (c :: r) =
      scan (if owed ≤ 1 then .text (.numbered (value * 16 + d) :: units)
        else .hex units (value * 16 + d) (owed - 1)) r := by
  have hchar : scanChar (.hex units value owed) c =
      some ([], if owed ≤ 1 then .text (.numbered (value * 16 + d) :: units)
        else .hex units (value * 16 + d) (owed - 1)) := by
    simp [scanChar, h]
  exact scan_silent hchar

theorem scan_quotes (h : Quotes cs written) :
    scan (.text units) (cs ++ r) = scan (.text (written.reverse ++ units)) r := by
  induction h generalizing units with
  | nil => rfl
  | plain hquote hslash hcontrol _ ih =>
    rw [List.cons_append, scan_plain hquote hslash hcontrol, ih]
    simp
  | @short c u cs ls hshort _ ih =>
    have hu : c ≠ 'u' := by
      rintro rfl
      simp [escaped?] at hshort
    rw [List.cons_append, List.cons_append, scan_short hu hshort, ih]
    simp
  | long ha hb hc hd _ ih =>
    have hopen : scanChar (.text units) '\\' = some ([], .escape units) := rfl
    have hhex : scanChar (.escape units) 'u' = some ([], .hex units 0 4) := rfl
    simp only [List.cons_append]
    rw [scan_silent hopen, scan_silent hhex, scan_hex ha, if_neg (by decide), scan_hex hb,
      if_neg (by decide), scan_hex hc, if_neg (by decide), scan_hex hd, if_pos (by decide), ih]
    simp

theorem exists_of_scan_hex {value owed : Nat}
    (h : .junk ∉ scan (.hex units value owed) cs) : ∃ c d rest, cs = c :: rest ∧
      hexValue? c = some d ∧ scan (.hex units value owed) cs =
        scan (if owed ≤ 1 then .text (.numbered (value * 16 + d) :: units)
          else .hex units (value * 16 + d) (owed - 1)) rest := by
  cases cs with
  | nil => simp [scan] at h
  | cons c rest =>
    cases hvalue : hexValue? c with
    | none =>
      rw [scan_junk (by simp [scanChar, hvalue])] at h
      simp at h
    | some d => exact ⟨c, d, rest, rfl, hvalue, scan_hex hvalue⟩

theorem exists_of_scan_escape (h : .junk ∉ scan (.escape units) cs) :
    (∃ c u rest, cs = c :: rest ∧ escaped? c = some u ∧
      scan (.escape units) cs = scan (.text (.plain u :: units)) rest) ∨
    ∃ rest, cs = .char 'u' :: rest ∧ scan (.escape units) cs = scan (.hex units 0 4) rest := by
  cases cs with
  | nil => simp [scan] at h
  | cons c rest =>
    by_cases hu : c = 'u'
    · subst hu
      exact .inr ⟨rest, rfl, scan_silent rfl⟩
    · cases hshort : escaped? c with
      | none =>
        rw [scan_junk (by simp [scanChar, hu, hshort])] at h
        simp at h
      | some u =>
        exact .inl ⟨c, u, rest, rfl, hshort, scan_silent (by simp [scanChar, hu, hshort])⟩

/-- Four digits make a number. -/
theorem exists_of_scan_digits (h : .junk ∉ scan (.hex units 0 4) cs) :
    ∃ front n rest, cs = front ++ rest ∧
      (∀ more ls, Quotes more ls →
        Quotes (.char '\\' :: .char 'u' :: (front ++ more)) (.numbered n :: ls)) ∧
      scan (.hex units 0 4) cs = scan (.text (.numbered n :: units)) rest := by
  obtain ⟨a, x, r₁, rfl, ha, hfirst⟩ := exists_of_scan_hex h
  rw [hfirst, if_neg (by decide)] at h ⊢
  obtain ⟨b, y, r₂, rfl, hb, hsecond⟩ := exists_of_scan_hex h
  rw [hsecond, if_neg (by decide)] at h ⊢
  obtain ⟨c, z, r₃, rfl, hc, hthird⟩ := exists_of_scan_hex h
  rw [hthird, if_neg (by decide)] at h ⊢
  obtain ⟨d, u, r₄, rfl, hd, hfourth⟩ := exists_of_scan_hex h
  rw [hfourth, if_pos (by decide), Nat.zero_mul, Nat.zero_add]
  exact ⟨[a, b, c, d], _, r₄, rfl, fun more ls hmore => .long ha hb hc hd hmore, rfl⟩

/-- The next character of a text, however it is spelled, unless there the text ends. -/
theorem exists_of_scan_text (h : .junk ∉ scan (.text units) cs) :
    (∃ rest, cs = .char '"' :: rest) ∨ ∃ front l rest, cs = front ++ rest ∧ front ≠ [] ∧
      (∀ more ls, Quotes more ls → Quotes (front ++ more) (l :: ls)) ∧
      scan (.text units) cs = scan (.text (l :: units)) rest := by
  cases cs with
  | nil => simp [scan] at h
  | cons c r =>
    by_cases hquote : c = '"'
    · exact .inl ⟨r, by rw [hquote]⟩
    right
    by_cases hslash : c = '\\'
    · subst hslash
      have hopen : scan (.text units) (.char '\\' :: r) = scan (.escape units) r := scan_silent rfl
      rw [hopen] at h ⊢
      rcases exists_of_scan_escape h with ⟨e, u, rest, rfl, he, hscan⟩ | ⟨rest, rfl, hscan⟩
      · exact ⟨[.char '\\', e], .plain u, rest, rfl, by simp,
          fun more ls hmore => .short he hmore, hscan⟩
      · rw [hscan] at h ⊢
        obtain ⟨front, n, rest, rfl, hquotes, hdigits⟩ := exists_of_scan_digits h
        exact ⟨.char '\\' :: .char 'u' :: front, .numbered n, rest, rfl, by simp, hquotes, hdigits⟩
    by_cases hcontrol : c.toNat < 0x20
    · rw [scan_junk (by simp [scanChar, hquote, hslash, hcontrol])] at h
      simp at h
    · exact ⟨[c], .plain c, r, rfl, by simp,
        fun more ls hmore => .plain hquote hslash hcontrol hmore,
        scan_plain hquote hslash hcontrol⟩

/-- A text that comes to its end is one in quotes. -/
theorem exists_quotes_of_scan (h : .junk ∉ scan (.text units) cs) :
    ∃ quoted ls rest, cs = quoted ++ .char '"' :: rest ∧ Quotes quoted ls ∧ scan (.text units) cs =
      .text (.ofList (unescaped (units.reverse ++ ls))) :: scan .between rest := by
  induction hlength : cs.length using Nat.strong_induction_on generalizing cs units with
  | _ length ih =>
    subst hlength
    rcases exists_of_scan_text h with ⟨rest, rfl⟩ | ⟨front, l, rest, rfl, hne, hquotes, hscan⟩
    · exact ⟨[], [], rest, rfl, .nil, by rw [scan_cons rfl, List.append_nil]; rfl⟩
    · have hshorter : rest.length < (front ++ rest).length := by
        have hfront := List.length_pos_iff.mpr hne
        rw [List.length_append]
        omega
      rw [hscan] at h ⊢
      obtain ⟨quoted, ls, tail, rfl, hrest, htext⟩ := ih _ hshorter h rfl
      refine ⟨front ++ quoted, l :: ls, tail, (List.append_assoc ..).symm, hquotes _ _ hrest, ?_⟩
      rw [htext, List.reverse_cons, List.append_assoc]
      rfl

theorem scan_wordChars (h : ∀ c ∈ w, isWordChar c = true) :
    scan (.word seen) (w ++ r) = scan (.word (w.reverse ++ seen)) r := by
  induction w generalizing seen with
  | nil => rfl
  | cons c w ih =>
    have hchar : scanChar (.word seen) c = some ([], .word (c :: seen)) := by
      simp [scanChar, h c List.mem_cons_self]
    rw [List.cons_append, scan_cons hchar, List.nil_append,
      ih fun d hd => h d (List.mem_cons_of_mem _ hd)]
    simp

theorem scan_word_end (hend : NoWord r) (hbegin : ∀ c ∈ r.head?, begin? c ≠ none) :
    scan (.word seen) r = wordToken seen.reverse :: scan .between r := by
  cases r with
  | nil => rfl
  | cons c r =>
    have hc : isWordChar c = false := hend c rfl
    obtain ⟨⟨ts, mode⟩, hnext⟩ := Option.ne_none_iff_exists'.mp (hbegin c rfl)
    have hchar : scanChar (.word seen) c = some (wordToken seen.reverse :: ts, mode) := by
      simp [scanChar, hc, hnext]
    have hbetween : scanChar .between c = some (ts, mode) := hnext
    rw [scan_cons hchar, scan_cons hbetween]
    rfl

theorem noWord_dropWhile (cs : List Rune) : NoWord (cs.dropWhile isWordChar) := by
  induction cs with
  | nil => simp [NoWord]
  | cons c r ih =>
    cases hc : isWordChar c with
    | true => simpa [hc] using ih
    | false => simp [NoWord, hc]

/-- A word goes as far as it can. -/
theorem exists_word_of_scan (h : .junk ∉ scan (.word seen) cs) : ∃ more rest,
    cs = more ++ rest ∧ NoWord rest ∧
      scan (.word seen) cs = wordToken (seen.reverse ++ more) :: scan .between rest := by
  have hmore : ∀ c ∈ cs.takeWhile isWordChar, isWordChar c = true := by
    intro c hc
    exact List.all_eq_true.mp List.all_takeWhile c hc
  have hsplit := List.takeWhile_append_dropWhile (p := isWordChar) (l := cs)
  have hscan : scan (.word seen) cs =
      scan (.word ((cs.takeWhile isWordChar).reverse ++ seen)) (cs.dropWhile isWordChar) := by
    rw [← scan_wordChars hmore, hsplit]
  have hbegin : ∀ c ∈ (cs.dropWhile isWordChar).head?, begin? c ≠ none := by
    intro c hc hnone
    obtain ⟨r, hr⟩ := List.head?_eq_some_iff.mp hc
    have hend : isWordChar c = false := noWord_dropWhile cs c hc
    have hchar (seen : List Rune) : scanChar (.word seen) c =
        some ([wordToken seen.reverse, .junk], .between) := by
      simp [scanChar, hend, hnone]
    rw [hscan, hr, scan_cons (hchar _)] at h
    simp at h
  refine ⟨_, _, hsplit.symm, noWord_dropWhile cs, ?_⟩
  rw [hscan, scan_word_end (noWord_dropWhile cs) hbegin]
  simp

theorem junk_not_mem_of_spells (h : Spells cs ts) : .junk ∉ ts := by
  induction h with
  | nil => simp
  | blank _ _ ih => exact ih
  | mark hmark _ ih => cases hmark <;> simpa using ih
  | text _ _ ih => simpa using ih
  | word _ _ _ ih => simpa using ih

/-- A text is scanned as the tokens that it spells. -/
theorem scan_of_spells (h : Spells cs ts) : scan .between cs = ts := by
  induction h with
  | nil => rfl
  | blank hblank _ ih => rw [scan_begins (.blank hblank), ih, List.nil_append]
  | mark hmark _ ih => rw [scan_begins (.mark hmark), ih, List.singleton_append]
  | @text quoted cs ls ts hquoted _ ih =>
    have hclose : scanChar (.text (ls.reverse ++ [])) '"' =
        some ([.text (.ofList (unescaped ls))], .between) := by
      simp [scanChar]
    rw [List.cons_append, scan_begins .quote, List.nil_append, scan_quotes hquoted,
      scan_cons hclose, ih, List.singleton_append]
  | @word w cs v ts hword hend h ih =>
    obtain ⟨hne, hchars⟩ := isWordChar_of_literal hword
    obtain ⟨c, w, rfl⟩ := List.exists_cons_of_ne_nil hne
    have hfirst := hchars c List.mem_cons_self
    have hrest : ∀ d ∈ w, isWordChar d = true := fun d hd => hchars d (List.mem_cons_of_mem _ hd)
    have htoken : wordToken (c :: w) = .atom v := wordToken_eq_atom_iff.mpr hword
    have hbegin : ∀ d ∈ cs.head?, begin? d ≠ none := by
      intro d hd hnone
      obtain ⟨r, rfl⟩ := List.head?_eq_some_iff.mp hd
      rw [scan_begin?_none hnone] at ih
      exact junk_not_mem_of_spells h (ih ▸ List.mem_cons_self)
    rw [List.cons_append, scan_begins (.word hfirst), List.nil_append, scan_wordChars hrest,
      scan_word_end hend hbegin, ih]
    simp [htoken]

/-- A text spells what it is scanned as, if every token is made out. -/
theorem spells_scan (hjunk : .junk ∉ scan .between cs)
    (hlong : ∀ digits, .overlong digits ∉ scan .between cs) : Spells cs (scan .between cs) := by
  induction hlength : cs.length using Nat.strong_induction_on generalizing cs with
  | _ length ih =>
    subst hlength
    have hnext {r : List Rune} {t : Token} (hr : r.length < cs.length)
        (hscan : scan .between cs = t :: scan .between r) : Spells r (scan .between r) := by
      rw [hscan] at hjunk hlong
      exact ih _ hr (fun h => hjunk (List.mem_cons_of_mem _ h))
        (fun digits h => hlong digits (List.mem_cons_of_mem _ h)) rfl
    cases cs with
    | nil => exact .nil
    | cons c r =>
      cases hbegin : begin? c with
      | none =>
        rw [scan_begin?_none hbegin] at hjunk
        simp at hjunk
      | some next =>
        obtain ⟨ts, mode⟩ := next
        have hscan := scan_begins (r := r) (begin?_eq_some_iff.mp hbegin)
        cases begin?_eq_some_iff.mp hbegin with
        | blank hblank =>
          rw [hscan] at hjunk hlong ⊢
          exact .blank hblank (ih _ (by simp) hjunk hlong rfl)
        | mark hmark =>
          have hrest := hnext (by simp) hscan
          rw [hscan]
          exact .mark hmark hrest
        | quote =>
          rw [List.nil_append] at hscan
          rw [hscan] at hjunk
          obtain ⟨quoted, ls, rest, rfl, hquoted, htext⟩ := exists_quotes_of_scan hjunk
          have hshorter : rest.length < (.char '"' :: (quoted ++ .char '"' :: rest)).length := by
            simp only [List.length_cons, List.length_append]
            omega
          have hrest := hnext hshorter (hscan.trans htext)
          rw [hscan, htext]
          exact .text hquoted hrest
        | word hword =>
          rw [List.nil_append] at hscan
          rw [hscan] at hjunk hlong
          obtain ⟨more, rest, rfl, hend, hmore⟩ := exists_word_of_scan hjunk
          have hshorter : rest.length < (c :: (more ++ rest)).length := by
            simp only [List.length_cons, List.length_append]
            omega
          have hrest := hnext hshorter (hscan.trans hmore)
          rw [hmore] at hjunk hlong
          rw [hscan, hmore]
          rcases wordToken_cases ([c].reverse ++ more) with ⟨v, htoken⟩ | ⟨digits, htoken⟩ | htoken
          · rw [htoken]
            exact .word (wordToken_eq_atom_iff.mp htoken) hend hrest
          · exact absurd (htoken ▸ List.mem_cons_self) (hlong digits)
          · exact absurd (htoken ▸ List.mem_cons_self) hjunk

theorem scanChar_return (mode : Mode) : scanChar mode '\r' = scanChar mode '\n' := by
  cases mode <;> rfl

theorem scanChar_newline (mode : Mode) :
    scanChar mode '\n' = none ∨ ∃ ts, scanChar mode '\n' = some (ts, .between) := by
  cases mode with
  | between => exact .inr ⟨_, rfl⟩
  | word seen => exact .inr ⟨_, rfl⟩
  | text seen => exact .inl rfl
  | escape seen => exact .inl rfl
  | hex seen value owed => exact .inl rfl

/-- A line may end in any way: outside a text a line break is a blank, and in one it may not stand.
-/
theorem scan_lfOfAny (mode : Mode) (cs : List Rune) :
    scan mode (Text.lfOfAny cs) = scan mode cs := by
  fun_induction Text.lfOfAny cs generalizing mode with
  | case1 => rfl
  | case2 r ih =>
    rcases scanChar_newline mode with hbreak | ⟨ts, hbreak⟩
    · rw [scan_junk hbreak, scan_junk ((scanChar_return mode).trans hbreak)]
    · rw [scan_cons hbreak, scan_cons ((scanChar_return mode).trans hbreak), ih]
      rfl
  | case3 c r _ ih =>
    have hchar : scanChar mode (if c = '\r' then .char '\n' else c) = scanChar mode c := by
      split
      · rename_i hreturn
        rw [hreturn, scanChar_return]
      · rfl
    rw [scan, scan, hchar]
    cases scanChar mode c with
    | none => rfl
    | some next => exact congrArg (next.1 ++ ·) (ih next.2)

end Synopsis.Json
