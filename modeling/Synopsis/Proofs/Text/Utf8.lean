import Synopsis.Proofs.Text.Basic
import Synopsis.Proofs.Text.Encoding

namespace Synopsis.Utf8

variable {b : UInt8} {p : Pending}

theorem toNat_ofNat_byte {n : Nat} (h : n < 256) : (UInt8.ofNat n).toNat = n := by
  rw [UInt8.toNat_ofNat']
  exact Nat.mod_eq_of_lt h

theorem lead_single (h : b.toNat < 0x80) : lead b = .inl (.char (Char.ofNat b.toNat)) := by
  simp [lead, h]

theorem lead_double (h : 0xC2 ≤ b.toNat) (hb : b.toNat < 0xE0) :
    lead b = .inr ⟨b.toNat - 0xC0, 1, 0x80, 0xBF, 1, b⟩ := by
  have h80 : ¬ b.toNat < 0x80 := by omega
  have hC2 : ¬ b.toNat < 0xC2 := by omega
  simp [lead, h80, hC2, hb]

theorem lead_triple (h : 0xE0 ≤ b.toNat) (hb : b.toNat < 0xF0) :
    lead b = .inr ⟨b.toNat - 0xE0, 2, if b.toNat = 0xE0 then 0xA0 else 0x80,
      if b.toNat = 0xED then 0x9F else 0xBF, 1, b⟩ := by
  have h80 : ¬ b.toNat < 0x80 := by omega
  have hC2 : ¬ b.toNat < 0xC2 := by omega
  have hE0 : ¬ b.toNat < 0xE0 := by omega
  simp [lead, h80, hC2, hE0, hb]

theorem lead_quadruple (h : 0xF0 ≤ b.toNat) (hb : b.toNat < 0xF5) :
    lead b = .inr ⟨b.toNat - 0xF0, 3, if b.toNat = 0xF0 then 0x90 else 0x80,
      if b.toNat = 0xF4 then 0x8F else 0xBF, 1, b⟩ := by
  have h80 : ¬ b.toNat < 0x80 := by omega
  have hC2 : ¬ b.toNat < 0xC2 := by omega
  have hE0 : ¬ b.toNat < 0xE0 := by omega
  have hF0 : ¬ b.toNat < 0xF0 := by omega
  simp [lead, h80, hC2, hE0, hF0, hb]

/-- The last byte of a character. -/
theorem pieces_last (r : List UInt8) (hl : p.low ≤ b.toNat) (hh : b.toNat ≤ p.high)
    (ho : p.owed = 1) :
    pieces (some p) (b :: r) =
      .char (Char.ofNat (p.value * 64 + (b.toNat - 0x80))) :: pieces none r := by
  simp [pieces, hl, hh, ho]

/-- A byte of a character behind which more have to come. -/
theorem pieces_inner (r : List UInt8) (hl : p.low ≤ b.toNat) (hh : b.toNat ≤ p.high)
    (ho : p.owed ≠ 1) :
    pieces (some p) (b :: r) = pieces (some ⟨p.value * 64 + (b.toNat - 0x80), p.owed - 1, 0x80,
      0xBF, p.length + 1, p.first⟩) r := by
  simp [pieces, hl, hh, ho]

theorem pieces_double {n : Nat} (hl : 0x80 ≤ n) (hh : n < 0x800) (r : List UInt8) :
    pieces none (.ofNat (0xC0 + n / 64) :: .ofNat (0x80 + n % 64) :: r) =
      .char (Char.ofNat n) :: pieces none r := by
  have ha : (UInt8.ofNat (0xC0 + n / 64)).toNat = 0xC0 + n / 64 := toNat_ofNat_byte (by omega)
  have hb : (UInt8.ofNat (0x80 + n % 64)).toNat = 0x80 + n % 64 := toNat_ofNat_byte (by omega)
  have hlead := lead_double (b := .ofNat (0xC0 + n / 64)) (by omega) (by omega)
  have hvalue : (0xC0 + n / 64 - 0xC0) * 64 + (0x80 + n % 64 - 0x80) = n := by omega
  rw [pieces, hlead]
  simp only [ha]
  rw [pieces_last _ (by simp only; omega) (by simp only; omega) rfl, hb, hvalue]

theorem pieces_triple {n : Nat} (hl : 0x800 ≤ n) (hh : n < 0xD800 ∨ 0xDFFF < n ∧ n < 0x10000)
    (r : List UInt8) :
    pieces none (.ofNat (0xE0 + n / 4096) :: .ofNat (0x80 + n / 64 % 64) ::
      .ofNat (0x80 + n % 64) :: r) = .char (Char.ofNat n) :: pieces none r := by
  have ha : (UInt8.ofNat (0xE0 + n / 4096)).toNat = 0xE0 + n / 4096 := toNat_ofNat_byte (by omega)
  have hb : (UInt8.ofNat (0x80 + n / 64 % 64)).toNat = 0x80 + n / 64 % 64 :=
    toNat_ofNat_byte (by omega)
  have hd : (UInt8.ofNat (0x80 + n % 64)).toNat = 0x80 + n % 64 := toNat_ofNat_byte (by omega)
  have hlead := lead_triple (b := .ofNat (0xE0 + n / 4096)) (by omega) (by omega)
  have hvalue : ((0xE0 + n / 4096 - 0xE0) * 64 + (0x80 + n / 64 % 64 - 0x80)) * 64 +
      (0x80 + n % 64 - 0x80) = n := by omega
  rw [pieces, hlead]
  simp only [ha]
  -- the bounds of the second byte keep out overlong forms and halves
  rw [pieces_inner _ (by simp only; split <;> omega) (by simp only; split <;> omega) (by simp),
    hb, pieces_last _ (by simp only; omega) (by simp only; omega) rfl, hd, hvalue]

theorem pieces_quadruple {n : Nat} (hl : 0x10000 ≤ n) (hh : n < 0x110000) (r : List UInt8) :
    pieces none (.ofNat (0xF0 + n / 262144) :: .ofNat (0x80 + n / 4096 % 64) ::
      .ofNat (0x80 + n / 64 % 64) :: .ofNat (0x80 + n % 64) :: r) =
        .char (Char.ofNat n) :: pieces none r := by
  have ha : (UInt8.ofNat (0xF0 + n / 262144)).toNat = 0xF0 + n / 262144 :=
    toNat_ofNat_byte (by omega)
  have hb : (UInt8.ofNat (0x80 + n / 4096 % 64)).toNat = 0x80 + n / 4096 % 64 :=
    toNat_ofNat_byte (by omega)
  have hd : (UInt8.ofNat (0x80 + n / 64 % 64)).toNat = 0x80 + n / 64 % 64 :=
    toNat_ofNat_byte (by omega)
  have he : (UInt8.ofNat (0x80 + n % 64)).toNat = 0x80 + n % 64 := toNat_ofNat_byte (by omega)
  have hlead := lead_quadruple (b := .ofNat (0xF0 + n / 262144)) (by omega) (by omega)
  have hvalue : (((0xF0 + n / 262144 - 0xF0) * 64 + (0x80 + n / 4096 % 64 - 0x80)) * 64 +
      (0x80 + n / 64 % 64 - 0x80)) * 64 + (0x80 + n % 64 - 0x80) = n := by omega
  rw [pieces, hlead]
  simp only [ha]
  rw [pieces_inner _ (by simp only; split <;> omega) (by simp only; split <;> omega) (by simp),
    hb, pieces_inner _ (by simp only; omega) (by simp only; omega) (by simp), hd,
    pieces_last _ (by simp only; omega) (by simp only; omega) rfl, he, hvalue]

/-- The bytes of one character are read as this character, whatever follows. -/
theorem pieces_encodeChar (c : Char) (r : List UInt8) :
    pieces none (encodeChar c ++ r) = .char c :: pieces none r := by
  have hc := Rune.toNat_char_bounds c
  have hback := Char.ofNat_toNat c
  have hrune : (Rune.char c).toNat = c.toNat := rfl
  generalize c.toNat = n at hc hback hrune
  by_cases h1 : n < 0x80
  · have hb : (UInt8.ofNat n).toNat = n := toNat_ofNat_byte (by omega)
    have hlead := lead_single (b := .ofNat n) (by omega)
    rw [hb, hback] at hlead
    simp [encodeChar, hrune, h1, pieces, hlead]
  by_cases h2 : n < 0x800
  · simp only [encodeChar, hrune, h1, h2, if_false, if_true, List.cons_append, List.nil_append]
    rw [pieces_double (by omega) h2, hback]
  by_cases h3 : n < 0x10000
  · simp only [encodeChar, hrune, h1, h2, h3, if_false, if_true, List.cons_append, List.nil_append]
    rw [pieces_triple (by omega) (by omega), hback]
  · simp only [encodeChar, hrune, h1, h2, h3, if_false, List.cons_append, List.nil_append]
    rw [pieces_quadruple (by omega) (by omega), hback]

theorem pieces_encode (cs : List Char) :
    pieces none (encode (.ofChars cs)) = cs.map .char := by
  induction cs with
  | nil => rfl
  | cons c r ih =>
    change pieces none (encodeChar c ++ encode (.ofChars r)) = _
    rw [pieces_encodeChar, ih, List.map_cons]

theorem collect_map_char (position : Nat) (cs : List Char) :
    collect position (cs.map .char) = .ok (cs.map .char) := by
  induction cs generalizing position with
  | nil => rfl
  | cons c r ih =>
    rw [List.map_cons, collect, ih]
    rfl

theorem decode_encode {s : Text} (h : Text.Encoding.utf8.fault? s = none) :
    decode (encode s) = .ok s := by
  obtain ⟨cs, rfl⟩ := Text.Encoding.fault?_utf8_eq_none_iff.mp h
  rw [decode, pieces_encode, collect_map_char]
  rfl

theorem toNat_ofNat_char {n : Nat} (h : n < 0xD800 ∨ 0xDFFF < n ∧ n < 0x110000) :
    (Char.ofNat n).toNat = n := by
  have hvalid : n.isValidChar := h
  rw [Char.ofNat, dif_pos hvalid]
  rfl

theorem byte_ext {b c : UInt8} (h : b.toNat = c.toNat) : b = c := UInt8.toNat_inj.mp h

theorem encodeChar_of_lt {n : Nat} (h : n < 0x80) :
    encodeChar (Char.ofNat n) = [.ofNat n] := by
  simp [encodeChar, Rune.toNat, toNat_ofNat_char (.inl (by omega : n < 0xD800)), h]

theorem encodeChar_double {n : Nat} (hl : 0x80 ≤ n) (hh : n < 0x800) :
    encodeChar (Char.ofNat n) = [.ofNat (0xC0 + n / 64), .ofNat (0x80 + n % 64)] := by
  have h1 : ¬ n < 0x80 := by omega
  simp [encodeChar, Rune.toNat, toNat_ofNat_char (.inl (by omega : n < 0xD800)), h1, hh]

theorem encodeChar_triple {n : Nat} (hl : 0x800 ≤ n)
    (hh : n < 0xD800 ∨ 0xDFFF < n ∧ n < 0x10000) : encodeChar (Char.ofNat n) =
      [.ofNat (0xE0 + n / 4096), .ofNat (0x80 + n / 64 % 64), .ofNat (0x80 + n % 64)] := by
  have h1 : ¬ n < 0x80 := by omega
  have h2 : ¬ n < 0x800 := by omega
  have h3 : n < 0x10000 := by omega
  simp [encodeChar, Rune.toNat, toNat_ofNat_char (n := n) (by omega), h1, h2, h3]

theorem encodeChar_quadruple {n : Nat} (hl : 0x10000 ≤ n) (hh : n < 0x110000) :
    encodeChar (Char.ofNat n) = [.ofNat (0xF0 + n / 262144), .ofNat (0x80 + n / 4096 % 64),
      .ofNat (0x80 + n / 64 % 64), .ofNat (0x80 + n % 64)] := by
  have h1 : ¬ n < 0x80 := by omega
  have h2 : ¬ n < 0x800 := by omega
  have h3 : ¬ n < 0x10000 := by omega
  simp [encodeChar, Rune.toNat, toNat_ofNat_char (n := n) (by omega), h1, h2, h3]

/-- Where characters alone are read, the last byte of a character ends it. -/
theorem pieces_last_inv {value low high length : Nat} {first : UInt8} {bytes : List UInt8}
    {cs : List Char} (h : pieces (some ⟨value, 1, low, high, length, first⟩) bytes =
      cs.map .char) : ∃ b r ds, bytes = b :: r ∧ low ≤ b.toNat ∧ b.toNat ≤ high ∧
      cs = Char.ofNat (value * 64 + (b.toNat - 0x80)) :: ds ∧ pieces none r = ds.map .char := by
  cases bytes with
  | nil => cases cs <;> simp [pieces] at h
  | cons b r =>
    by_cases hrange : low ≤ b.toNat ∧ b.toNat ≤ high
    · rw [pieces_last r hrange.1 hrange.2 rfl] at h
      cases cs with
      | nil => simp at h
      | cons c ds =>
        simp only [List.map_cons, List.cons.injEq, Piece.char.injEq] at h
        exact ⟨b, r, ds, rfl, hrange.1, hrange.2, by rw [h.1], h.2⟩
    · cases cs <;> simp [pieces, hrange] at h

/-- Where characters alone are read, a byte of a character is followed by the next one. -/
theorem pieces_inner_inv {value owed low high length : Nat} {first : UInt8} {bytes : List UInt8}
    {cs : List Char} (h : pieces (some ⟨value, owed + 2, low, high, length, first⟩) bytes =
      cs.map .char) : ∃ b r, bytes = b :: r ∧ low ≤ b.toNat ∧ b.toNat ≤ high ∧
      pieces (some ⟨value * 64 + (b.toNat - 0x80), owed + 1, 0x80, 0xBF, length + 1, first⟩) r =
        cs.map .char := by
  cases bytes with
  | nil => cases cs <;> simp [pieces] at h
  | cons b r =>
    by_cases hrange : low ≤ b.toNat ∧ b.toNat ≤ high
    · rw [pieces_inner r hrange.1 hrange.2 (by simp)] at h
      exact ⟨b, r, rfl, hrange.1, hrange.2, h⟩
    · cases cs <;> simp [pieces, hrange] at h

/-- The bytes of a first character, and behind them those of the others. -/
def StartsWith (bytes : List UInt8) (cs : List Char) : Prop :=
  ∃ c ds rest, cs = c :: ds ∧ bytes = encodeChar c ++ rest ∧ pieces none rest = ds.map .char

section

variable {r : List UInt8} {cs : List Char}

theorem startsWith_single (hb : b.toNat < 0x80) (h : pieces none (b :: r) = cs.map .char) :
    StartsWith (b :: r) cs := by
  rw [pieces, lead_single hb] at h
  cases cs with
  | nil => simp at h
  | cons c ds =>
    simp only [List.map_cons, List.cons.injEq, Piece.char.injEq] at h
    refine ⟨c, ds, r, rfl, ?_, h.2⟩
    rw [← h.1, encodeChar_of_lt hb, UInt8.ofNat_toNat, List.singleton_append]

theorem startsWith_double (hb : 0xC2 ≤ b.toNat) (hb' : b.toNat < 0xE0)
    (h : pieces none (b :: r) = cs.map .char) : StartsWith (b :: r) cs := by
  rw [pieces, lead_double hb hb'] at h
  obtain ⟨b₁, r₁, ds, rfl, hl, hh, rfl, hrest⟩ := pieces_last_inv h
  refine ⟨_, ds, r₁, rfl, ?_, hrest⟩
  rw [encodeChar_double (by omega) (by omega)]
  simp only [List.cons_append, List.nil_append, List.cons.injEq, and_true]
  exact ⟨byte_ext (by rw [toNat_ofNat_byte] <;> omega),
    byte_ext (by rw [toNat_ofNat_byte] <;> omega)⟩

theorem startsWith_triple (hb : 0xE0 ≤ b.toNat) (hb' : b.toNat < 0xF0)
    (h : pieces none (b :: r) = cs.map .char) : StartsWith (b :: r) cs := by
  rw [pieces, lead_triple hb hb'] at h
  obtain ⟨b₁, r₁, rfl, hl, hh, hinner⟩ := pieces_inner_inv h
  obtain ⟨b₂, r₂, ds, rfl, hl₂, hh₂, rfl, hrest⟩ := pieces_last_inv hinner
  -- the range of the second byte keeps out overlong forms and halves
  have hrange : (b.toNat = 0xE0 → 0xA0 ≤ b₁.toNat) ∧ (b.toNat = 0xED → b₁.toNat ≤ 0x9F) ∧
      0x80 ≤ b₁.toNat ∧ b₁.toNat ≤ 0xBF := by
    split at hl <;> split at hh <;> omega
  clear hl hh
  refine ⟨_, ds, r₂, rfl, ?_, hrest⟩
  rw [encodeChar_triple (by omega) (by omega)]
  simp only [List.cons_append, List.nil_append, List.cons.injEq, and_true]
  exact ⟨byte_ext (by rw [toNat_ofNat_byte] <;> omega),
    byte_ext (by rw [toNat_ofNat_byte] <;> omega), byte_ext (by rw [toNat_ofNat_byte] <;> omega)⟩

theorem startsWith_quadruple (hb : 0xF0 ≤ b.toNat) (hb' : b.toNat < 0xF5)
    (h : pieces none (b :: r) = cs.map .char) : StartsWith (b :: r) cs := by
  rw [pieces, lead_quadruple hb hb'] at h
  obtain ⟨b₁, r₁, rfl, hl, hh, hinner⟩ := pieces_inner_inv h
  obtain ⟨b₂, r₂, rfl, hl₂, hh₂, hinner₂⟩ := pieces_inner_inv hinner
  obtain ⟨b₃, r₃, ds, rfl, hl₃, hh₃, rfl, hrest⟩ := pieces_last_inv hinner₂
  have hrange : (b.toNat = 0xF0 → 0x90 ≤ b₁.toNat) ∧ (b.toNat = 0xF4 → b₁.toNat ≤ 0x8F) ∧
      0x80 ≤ b₁.toNat ∧ b₁.toNat ≤ 0xBF := by
    split at hl <;> split at hh <;> omega
  clear hl hh
  refine ⟨_, ds, r₃, rfl, ?_, hrest⟩
  rw [encodeChar_quadruple (by omega) (by omega)]
  simp only [List.cons_append, List.nil_append, List.cons.injEq, and_true]
  exact ⟨byte_ext (by rw [toNat_ofNat_byte] <;> omega),
    byte_ext (by rw [toNat_ofNat_byte] <;> omega), byte_ext (by rw [toNat_ofNat_byte] <;> omega),
    byte_ext (by rw [toNat_ofNat_byte] <;> omega)⟩

/-- The first character that is read, and the bytes that it was read from. -/
theorem startsWith_of_pieces (h : pieces none (b :: r) = cs.map .char) :
    StartsWith (b :: r) cs := by
  have hbad : lead b ≠ .inl (.bad 1 b .badStart) := by
    intro hlead
    rw [pieces, hlead] at h
    cases cs <;> simp at h
  by_cases h80 : b.toNat < 0x80
  · exact startsWith_single h80 h
  by_cases hC2 : b.toNat < 0xC2
  · exact absurd (by simp [lead, h80, hC2]) hbad
  by_cases hE0 : b.toNat < 0xE0
  · exact startsWith_double (by omega) hE0 h
  by_cases hF0 : b.toNat < 0xF0
  · exact startsWith_triple (by omega) hF0 h
  by_cases hF5 : b.toNat < 0xF5
  · exact startsWith_quadruple (by omega) hF5 h
  · exact absurd (by simp [lead, h80, hC2, hE0, hF0, hF5]) hbad

end

theorem eq_encode_of_pieces {bytes : List UInt8} {cs : List Char}
    (h : pieces none bytes = cs.map .char) : bytes = encode (.ofChars cs) := by
  induction cs generalizing bytes with
  | nil =>
    cases bytes with
    | nil => rfl
    | cons b r =>
      obtain ⟨c, ds, rest, hnil, -, -⟩ := startsWith_of_pieces h
      cases hnil
  | cons c r ih =>
    cases bytes with
    | nil => simp [pieces] at h
    | cons b bs =>
      obtain ⟨c', ds, rest, hcs, hfirst, hrest⟩ := startsWith_of_pieces h
      obtain ⟨rfl, rfl⟩ := List.cons.inj hcs
      rw [hfirst, ih hrest]
      rfl

theorem collect_eq_ok {position : Nat} {ps : List Piece} {rs : List Rune}
    (h : collect position ps = .ok rs) :
    ∃ cs : List Char, rs = cs.map .char ∧ ps = cs.map .char := by
  induction ps generalizing position rs with
  | nil =>
    simp only [collect, Except.ok.injEq] at h
    exact ⟨[], h.symm, rfl⟩
  | cons q ps ih =>
    cases q with
    | bad length first reason => simp [collect] at h
    | char c =>
      rw [collect] at h
      cases hrest : collect (position + c.utf8Size) ps with
      | error f => simp [hrest, Except.map] at h
      | ok ds =>
        simp only [hrest, Except.map, Except.ok.injEq] at h
        obtain ⟨cs, rfl, rfl⟩ := ih hrest
        exact ⟨c :: cs, h.symm, rfl⟩

/-- Reading accepts what writing produces, and nothing else. -/
theorem decode_eq_ok_iff {bytes : List UInt8} {s : Text} :
    decode bytes = .ok s ↔ bytes = encode s ∧ Text.Encoding.utf8.fault? s = none := by
  constructor
  · intro h
    rw [decode] at h
    cases hrs : collect 0 (pieces none bytes) with
    | error f => simp [hrs, Except.map] at h
    | ok rs =>
      simp only [hrs, Except.map, Except.ok.injEq] at h
      obtain ⟨cs, rfl, hpieces⟩ := collect_eq_ok hrs
      obtain rfl : Text.ofChars cs = s := h
      exact ⟨eq_encode_of_pieces hpieces, Text.Encoding.fault?_ofChars cs⟩
  · rintro ⟨rfl, hs⟩
    exact decode_encode hs

/-- A byte that does not start a character. -/
def IsInner (b : UInt8) : Prop := 0x80 ≤ b.toNat ∧ b.toNat < 0xC0

theorem encodeChar_cases (c : Rune) : ∃ b r, encodeChar c = b :: r ∧ ¬ IsInner b ∧
    ∀ x ∈ r, IsInner x := by
  have hc := Rune.toNat_lt c
  have hinner (n : Nat) : IsInner (.ofNat (0x80 + n % 64)) := by
    rw [IsInner, toNat_ofNat_byte (by omega)]
    omega
  have hlead (n : Nat) (hn : n < 0x80 ∨ 0xC0 ≤ n ∧ n < 256) : ¬ IsInner (.ofNat n) := by
    rw [IsInner, toNat_ofNat_byte (by omega)]
    omega
  have hall (ns : List Nat) : ∀ x ∈ ns.map fun n => .ofNat (0x80 + n % 64), IsInner x := by
    intro x hx
    obtain ⟨n, -, rfl⟩ := List.mem_map.mp hx
    exact hinner n
  unfold encodeChar
  generalize c.toNat = n at hc
  by_cases h1 : n < 0x80
  · simp only [h1, if_true]
    exact ⟨_, _, rfl, hlead _ (.inl h1), hall []⟩
  by_cases h2 : n < 0x800
  · simp only [h1, h2, if_true, if_false]
    exact ⟨_, _, rfl, hlead _ (by omega), hall [n]⟩
  by_cases h3 : n < 0x10000
  · simp only [h1, h2, h3, if_true, if_false]
    exact ⟨_, _, rfl, hlead _ (by omega), hall [n / 64, n]⟩
  · simp only [h1, h2, h3, if_false]
    exact ⟨_, _, rfl, hlead _ (by omega), hall [n / 4096, n / 64, n]⟩

/-- The number that the bytes of a code point are made from. -/
def numberOf : List UInt8 → Nat
  | [a] => a.toNat
  | [a, b] => (a.toNat - 0xC0) * 64 + (b.toNat - 0x80)
  | [a, b, c] => (a.toNat - 0xE0) * 4096 + (b.toNat - 0x80) * 64 + (c.toNat - 0x80)
  | [a, b, c, d] => (a.toNat - 0xF0) * 262144 + (b.toNat - 0x80) * 4096 + (c.toNat - 0x80) * 64 +
      (d.toNat - 0x80)
  | _ => 0

theorem numberOf_encodeChar (c : Rune) : numberOf (encodeChar c) = c.toNat := by
  have hc := Rune.toNat_lt c
  have hbyte (m : Nat) : (UInt8.ofNat (0x80 + m % 64)).toNat = 0x80 + m % 64 :=
    toNat_ofNat_byte (by omega)
  unfold encodeChar
  generalize c.toNat = n at hc ⊢
  by_cases h1 : n < 0x80
  · rw [if_pos h1]
    exact toNat_ofNat_byte (by omega)
  by_cases h2 : n < 0x800
  · have ha : (UInt8.ofNat (0xC0 + n / 64)).toNat = 0xC0 + n / 64 := toNat_ofNat_byte (by omega)
    have hvalue : (0xC0 + n / 64 - 0xC0) * 64 + (0x80 + n % 64 - 0x80) = n := by omega
    have hdouble (a b : UInt8) :
        numberOf [a, b] = (a.toNat - 0xC0) * 64 + (b.toNat - 0x80) := rfl
    rw [if_neg h1, if_pos h2, hdouble, ha, hbyte]
    exact hvalue
  by_cases h3 : n < 0x10000
  · have ha : (UInt8.ofNat (0xE0 + n / 4096)).toNat = 0xE0 + n / 4096 :=
      toNat_ofNat_byte (by omega)
    have hvalue : (0xE0 + n / 4096 - 0xE0) * 4096 + (0x80 + n / 64 % 64 - 0x80) * 64 +
        (0x80 + n % 64 - 0x80) = n := by omega
    have htriple (a b d : UInt8) : numberOf [a, b, d] =
        (a.toNat - 0xE0) * 4096 + (b.toNat - 0x80) * 64 + (d.toNat - 0x80) := rfl
    rw [if_neg h1, if_neg h2, if_pos h3, htriple, ha, hbyte, hbyte]
    exact hvalue
  · have ha : (UInt8.ofNat (0xF0 + n / 262144)).toNat = 0xF0 + n / 262144 :=
      toNat_ofNat_byte (by omega)
    have hvalue : (0xF0 + n / 262144 - 0xF0) * 262144 + (0x80 + n / 4096 % 64 - 0x80) * 4096 +
        (0x80 + n / 64 % 64 - 0x80) * 64 + (0x80 + n % 64 - 0x80) = n := by omega
    have hquadruple (a b d e : UInt8) : numberOf [a, b, d, e] = (a.toNat - 0xF0) * 262144 +
        (b.toNat - 0x80) * 4096 + (d.toNat - 0x80) * 64 + (e.toNat - 0x80) := rfl
    rw [if_neg h1, if_neg h2, if_neg h3, hquadruple, ha, hbyte, hbyte, hbyte]
    exact hvalue

/-- The bytes of a first code point end where the next one starts. -/
theorem flatMap_encodeChar_injective {cs ds : List Rune}
    (h : cs.flatMap encodeChar = ds.flatMap encodeChar) : cs = ds := by
  have hstart (rs : List Rune) : ∀ x ∈ (rs.flatMap encodeChar).head?, ¬ IsInner x := by
    intro x hx
    cases rs with
    | nil => cases hx
    | cons r rs =>
      obtain ⟨b, t, hr, hb, -⟩ := encodeChar_cases r
      rw [List.flatMap_cons, hr, List.cons_append, List.head?_cons, Option.mem_some_iff] at hx
      exact hx ▸ hb
  induction cs generalizing ds with
  | nil =>
    cases ds with
    | nil => rfl
    | cons d ds =>
      obtain ⟨b, t, hd, -⟩ := encodeChar_cases d
      simp [hd] at h
  | cons c cs ih =>
    cases ds with
    | nil =>
      obtain ⟨b, t, hc, -⟩ := encodeChar_cases c
      simp [hc] at h
    | cons d ds =>
      obtain ⟨b, t, hc, -, ht⟩ := encodeChar_cases c
      obtain ⟨b', t', hd, -, ht'⟩ := encodeChar_cases d
      rw [List.flatMap_cons, List.flatMap_cons, hc, hd, List.cons_append, List.cons_append,
        List.cons.injEq] at h
      obtain ⟨rfl, h⟩ := h
      obtain ⟨rfl, hrest⟩ : t = t' ∧ cs.flatMap encodeChar = ds.flatMap encodeChar := by
        rcases List.append_eq_append_iff.mp h with ⟨w, hw, hrest⟩ | ⟨w, hw, hrest⟩
        · cases w with
          | nil => exact ⟨by simpa using hw.symm, by simpa using hrest⟩
          | cons x w => exact absurd (ht' x (by simp [hw])) (hstart cs x (by simp [hrest]))
        · cases w with
          | nil => exact ⟨by simpa using hw, by simpa using hrest.symm⟩
          | cons x w => exact absurd (ht x (by simp [hw])) (hstart ds x (by simp [hrest]))
      have hnumber : c.toNat = d.toNat := by
        rw [← numberOf_encodeChar, ← numberOf_encodeChar, hc, hd]
      rw [Rune.toNat_injective hnumber, ih hrest]

theorem encode_injective {a b : Text} (h : encode a = encode b) : a = b :=
  Text.toList_inj.mp (flatMap_encodeChar_injective h)

/-- The end of a text in bytes is that in characters: no character starts within another one. -/
theorem suffix_of_flatMap_suffix {cs ds : List Rune}
    (h : cs.flatMap encodeChar <:+ ds.flatMap encodeChar) : cs <:+ ds := by
  obtain ⟨front, hfront⟩ := h
  induction ds generalizing front with
  | nil =>
    have hnil : cs.flatMap encodeChar = [].flatMap encodeChar :=
      (List.append_eq_nil_iff.mp hfront).2
    exact ⟨[], flatMap_encodeChar_injective hnil⟩
  | cons d ds ih =>
    obtain ⟨lead, inner, hd, -, hinner⟩ := encodeChar_cases d
    rw [List.flatMap_cons, hd, List.cons_append] at hfront
    cases front with
    | nil =>
      have hall : cs.flatMap encodeChar = (d :: ds).flatMap encodeChar := by
        rw [List.flatMap_cons, hd, List.cons_append]
        exact hfront
      exact ⟨[], flatMap_encodeChar_injective hall⟩
    | cons x front =>
      obtain ⟨-, hfront⟩ := List.cons.inj hfront
      rcases List.append_eq_append_iff.mp hfront with ⟨t, ht, hrest⟩ | ⟨t, ht, hrest⟩
      · cases t with
        | nil => exact (ih [] hrest).trans (List.suffix_cons d ds)
        | cons y t =>
          -- the end would start with an inner byte
          cases cs with
          | nil => exact List.nil_suffix
          | cons c cs =>
            obtain ⟨first, r, hc, hnot, -⟩ := encodeChar_cases c
            rw [List.flatMap_cons, hc, List.cons_append, List.cons_append] at hrest
            obtain ⟨rfl, -⟩ := List.cons.inj hrest
            exact absurd (hinner _ (by simp [ht])) hnot
      · exact (ih t hrest.symm).trans (List.suffix_cons d ds)

/-- No character starts within another one, so a text ends in another one if its bytes do. -/
theorem suffix_encode_iff {a b : Text} : encode a <:+ encode b ↔ a.toList <:+ b.toList := by
  constructor
  · exact suffix_of_flatMap_suffix
  · rintro ⟨front, hfront⟩
    exact ⟨front.flatMap encodeChar, by rw [encode, encode, ← List.flatMap_append, hfront]⟩

end Synopsis.Utf8
