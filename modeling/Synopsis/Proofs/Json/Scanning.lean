import Synopsis.Json.Quoted
import Synopsis.Json.Reader
import Synopsis.Proofs.Text.Basic
import Mathlib.Tactic.IntervalCases

namespace Synopsis.Json

variable {seen : List Letter} {c : Rune} {r : List Rune}

theorem unescaped_numbered {n : Nat} (h : n < 0xD800) (letters : List Letter) :
    unescaped (.numbered n :: letters) = .ofNat n :: unescaped letters := by
  have hpair (m : Nat) : Text.Units.isPair n m = false := by
    simp only [Text.Units.isPair, Bool.and_eq_false_iff, decide_eq_false_iff_not]
    omega
  cases letters with
  | nil => rfl
  | cons letter letters =>
    cases letter with
    | plain d => rfl
    | numbered m => rw [unescaped, if_neg (by simp [hpair])]

theorem scan_cons {mode mode' : Mode} {c : Rune} {r : List Rune} {ts : List Token}
    (h : scanChar mode c = some (ts, mode')) : scan mode (c :: r) = ts ++ scan mode' r := by
  rw [scan, h]

theorem scan_plain (hquote : c ≠ '"') (hslash : c ≠ '\\') (hcontrol : ¬ c.toNat < 0x20) :
    scan (.text seen) (c :: r) = scan (.text (.plain c :: seen)) r := by
  have hchar : scanChar (.text seen) c = some ([], .text (.plain c :: seen)) := by
    simp [scanChar, hquote, hslash, hcontrol]
  rw [scan_cons hchar]
  rfl

theorem scan_short {u : Rune} (hu : c ≠ 'u') (h : escaped? c = some u) :
    scan (.text seen) (.char '\\' :: c :: r) = scan (.text (.plain u :: seen)) r := by
  have hslash : scanChar (.text seen) '\\' = some ([], .escape seen) := rfl
  have hshort : scanChar (.escape seen) c = some ([], .text (.plain u :: seen)) := by
    simp [scanChar, hu, h]
  rw [scan_cons hslash, scan_cons hshort]
  rfl

/-- The four digits of a control character are read as its number. -/
theorem scan_control {n : Nat} (h : n < 0x20) :
    scan (.text seen) (("\\u" : Text).toList ++ (Utf8.hexDigits 4 n).toList ++ r) =
      scan (.text (.numbered n :: seen)) r := by
  have hdigits : ∃ a b, (Utf8.hexDigits 4 n).toList = [.char '0', .char '0', a, b] ∧
      hexValue? a = some (n / 16) ∧ hexValue? b = some (n % 16) := by
    refine ⟨.char (Nat.digitChar (n / 16)), .char (Nat.digitChar (n % 16)), ?_⟩
    interval_cases n <;> decide
  obtain ⟨a, b, hlist, ha, hb⟩ := hdigits
  have hvalue : n / 16 * 16 + n % 16 = n := by omega
  have hopen : scanChar (.text seen) '\\' = some ([], .escape seen) := rfl
  have hhex : scanChar (.escape seen) 'u' = some ([], .hex seen 0 4) := rfl
  have hfirst : scanChar (.hex seen 0 4) '0' = some ([], .hex seen 0 3) := rfl
  have hsecond : scanChar (.hex seen 0 3) '0' = some ([], .hex seen 0 2) := rfl
  have hthird : scanChar (.hex seen 0 2) a = some ([], .hex seen (n / 16) 1) := by
    simp [scanChar, ha]
  have hfourth : scanChar (.hex seen (n / 16) 1) b = some ([], .text (.numbered n :: seen)) := by
    simp [scanChar, hb, hvalue]
  have hchars : ("\\u" : Text).toList ++ (Utf8.hexDigits 4 n).toList ++ r =
      .char '\\' :: .char 'u' :: .char '0' :: .char '0' :: a :: b :: r := by
    rw [hlist]
    rfl
  rw [hchars, scan_cons hopen, scan_cons hhex, scan_cons hfirst, scan_cons hsecond,
    scan_cons hthird, scan_cons hfourth]
  rfl

/-- Every code point is written as a letter that stands for it. -/
theorem exists_letter (c : Rune) : ∃ letter : Letter,
    (∀ letters, unescaped (letter :: letters) = c :: unescaped letters) ∧
    ∀ seen r, scan (.text seen) (escapeChar c ++ r) = scan (.text (letter :: seen)) r := by
  have hshort {d u : Rune} (hd : d ≠ 'u') (hu : escaped? d = some u) : ∃ letter : Letter,
      (∀ letters, unescaped (letter :: letters) = u :: unescaped letters) ∧
      ∀ seen r, scan (.text seen) ([.char '\\', d] ++ r) = scan (.text (letter :: seen)) r :=
    ⟨.plain u, fun _ => rfl, fun _ _ => scan_short hd hu⟩
  unfold escapeChar
  split
  · exact hshort (by decide) rfl
  · exact hshort (by decide) rfl
  · exact hshort (by decide) rfl
  · exact hshort (by decide) rfl
  · exact hshort (by decide) rfl
  · exact hshort (by decide) rfl
  · exact hshort (by decide) rfl
  · rename_i hquote hslash _ _ _ _ _
    split
    · rename_i hcontrol
      refine ⟨.numbered c.toNat, fun letters => ?_, fun _ _ => scan_control hcontrol⟩
      rw [unescaped_numbered (by omega), Rune.ofNat_toNat]
    · rename_i hcontrol
      exact ⟨.plain c, fun _ => rfl, fun _ _ => scan_plain hquote hslash hcontrol⟩

theorem exists_letters (cs : List Rune) : ∃ letters : List Letter, unescaped letters = cs ∧
    ∀ seen r, scan (.text seen) (cs.flatMap escapeChar ++ r) =
      scan (.text (letters.reverse ++ seen)) r := by
  induction cs with
  | nil => exact ⟨[], rfl, fun _ _ => rfl⟩
  | cons c cs ih =>
    obtain ⟨letter, hletter, hfirst⟩ := exists_letter c
    obtain ⟨letters, hletters, hrest⟩ := ih
    refine ⟨letter :: letters, by rw [hletter, hletters], fun seen r => ?_⟩
    rw [List.flatMap_cons, List.append_assoc, hfirst, hrest, List.reverse_cons, List.append_assoc]
    rfl

theorem scan_quotedText (s : Text) (r : List Rune) :
    scan .between ((quotedText s).toList ++ r) = .text s :: scan .between r := by
  obtain ⟨letters, hletters, hscan⟩ := exists_letters s.toList
  have hopen : scanChar .between '"' = some ([], .text []) := rfl
  have hclose : scanChar (.text letters.reverse) '"' = some ([.text s], .between) := by
    simp [scanChar, hletters]
  have hchars : (quotedText s).toList ++ r =
      .char '"' :: (s.toList.flatMap escapeChar ++ .char '"' :: r) := by
    simp [quotedText]
  rw [hchars, scan_cons hopen, List.nil_append, hscan, List.append_nil, scan_cons hclose]
  rfl

/-- A quoted text is all on one line. -/
theorem return_not_mem_quotedText (s : Text) : ('\r' : Rune) ∉ (quotedText s).toList := by
  have hescape (c : Rune) : ('\r' : Rune) ∉ escapeChar c := by
    unfold escapeChar
    split
    all_goals try decide
    rename_i hreturn _ _ _
    split
    · rename_i hcontrol
      have hdigits : ('\r' : Rune) ∉ (Utf8.hexDigits 4 c.toNat).toList := by
        generalize c.toNat = n at hcontrol
        interval_cases n <;> decide
      simpa using hdigits
    · simpa using Ne.symm hreturn
  intro h
  simp only [quotedText, Text.toList_ofList, List.cons_append, List.mem_cons, List.mem_append,
    List.mem_flatMap, List.not_mem_nil, or_false, Rune.char.injEq, Char.reduceEq, false_or] at h
  obtain ⟨c, -, hc⟩ := h
  exact hescape c hc

end Synopsis.Json
