/-
  Sound texts: those in which nothing is damaged, and the octets that write them. Reading octets as
  UTF-8 gives a text exactly if the octets are those of that text, so that nothing of a file is lost
  or changed by reading it.
-/
import TaintClient.Text.Loose

namespace TaintClient.Text

/-! ## Texts without damage -/

theorem Loose.mapM_eq_some_iff {l : Loose} {s : List Char} :
    l.mapM id = some s ↔ l = s.map some := by
  refine ⟨?_, fun h => h ▸ mapM_some s⟩
  intro h
  induction l generalizing s with
  | nil =>
    obtain rfl : [] = s := Option.some.inj h
    rfl
  | cons x l ih =>
    rw [List.mapM_cons] at h
    obtain ⟨c, hx, hrest⟩ := Option.bind_eq_some_iff.mp h
    obtain ⟨t, ht, hs⟩ := Option.bind_eq_some_iff.mp hrest
    obtain rfl : x = some c := hx
    obtain rfl : c :: t = s := Option.some.inj hs
    rw [ih ht, List.map_cons]

/-- A sound text is all that is read. -/
theorem Loose.text?_eq_some_iff {l : Loose} {s : String} : l.text? = some s ↔ l = ofText s := by
  rw [text?, Option.map_eq_some_iff, ofText]
  constructor
  · rintro ⟨t, ht, rfl⟩
    rw [mapM_eq_some_iff.mp ht, String.toList_ofList]
  · intro h
    exact ⟨s.toList, mapM_eq_some_iff.mpr h, String.ofList_toList⟩

theorem Loose.ofText_injective : Function.Injective ofText := by
  intro s t h
  have := text_ofText s
  rw [h, text_ofText] at this
  exact (Option.some.inj this).symm

namespace Utf8

/-! ## The octets of one character -/

/-- Whether an octet goes on with a character. -/
def IsTail (b : UInt8) : Prop := 0x80 ≤ b.toNat ∧ b.toNat ≤ 0xBF

/-- The octets of a character by its value: none is overlong, a surrogate or too large. -/
inductive Writes : Nat → List UInt8 → Prop
  | one {b : UInt8} (h : b.toNat < 0x80) : Writes b.toNat [b]
  | two {b b₁ : UInt8} (h : 0xC2 ≤ b.toNat ∧ b.toNat < 0xE0) (h₁ : IsTail b₁) :
      Writes ((b.toNat - 0xC0) * 0x40 + (b₁.toNat - 0x80)) [b, b₁]
  | three {b b₁ b₂ : UInt8} (h : 0xE0 ≤ b.toNat ∧ b.toNat < 0xF0)
      (h₁ : IsTail b₁ ∧ (b.toNat = 0xE0 → 0xA0 ≤ b₁.toNat) ∧ (b.toNat = 0xED → b₁.toNat ≤ 0x9F))
      (h₂ : IsTail b₂) :
      Writes (((b.toNat - 0xE0) * 0x40 + (b₁.toNat - 0x80)) * 0x40 + (b₂.toNat - 0x80)) [b, b₁, b₂]
  | four {b b₁ b₂ b₃ : UInt8} (h : 0xF0 ≤ b.toNat ∧ b.toNat < 0xF5)
      (h₁ : IsTail b₁ ∧ (b.toNat = 0xF0 → 0x90 ≤ b₁.toNat) ∧ (b.toNat = 0xF4 → b₁.toNat ≤ 0x8F))
      (h₂ : IsTail b₂) (h₃ : IsTail b₃) :
      Writes ((((b.toNat - 0xF0) * 0x40 + (b₁.toNat - 0x80)) * 0x40 + (b₂.toNat - 0x80)) * 0x40
        + (b₃.toNat - 0x80)) [b, b₁, b₂, b₃]

variable {b : UInt8}

theorem lead_one (h : b.toNat < 0x80) : lead b = .ascii b.toNat := by
  rw [lead]
  exact if_pos h

theorem lead_two (h : 0xC2 ≤ b.toNat ∧ b.toNat < 0xE0) :
    lead b = .long 1 (b.toNat - 0xC0) 0x80 0xBF := by
  unfold lead
  grind

theorem lead_three (h : 0xE0 ≤ b.toNat ∧ b.toNat < 0xF0) :
    ∃ low high, lead b = .long 2 (b.toNat - 0xE0) low high ∧ ∀ x : UInt8,
      low ≤ x.toNat ∧ x.toNat ≤ high ↔
        IsTail x ∧ (b.toNat = 0xE0 → 0xA0 ≤ x.toNat) ∧ (b.toNat = 0xED → x.toNat ≤ 0x9F) := by
  refine ⟨if b.toNat = 0xE0 then 0xA0 else 0x80, if b.toNat = 0xED then 0x9F else 0xBF, ?_, ?_⟩
  · unfold lead
    grind
  · unfold IsTail
    grind

theorem lead_four (h : 0xF0 ≤ b.toNat ∧ b.toNat < 0xF5) :
    ∃ low high, lead b = .long 3 (b.toNat - 0xF0) low high ∧ ∀ x : UInt8,
      low ≤ x.toNat ∧ x.toNat ≤ high ↔
        IsTail x ∧ (b.toNat = 0xF0 → 0x90 ≤ x.toNat) ∧ (b.toNat = 0xF4 → x.toNat ≤ 0x8F) := by
  refine ⟨if b.toNat = 0xF0 then 0x90 else 0x80, if b.toNat = 0xF4 then 0x8F else 0xBF, ?_, ?_⟩
  · unfold lead
    grind
  · unfold IsTail
    grind

theorem lead_none (h : 0x80 ≤ b.toNat) (h' : b.toNat < 0xC2 ∨ 0xF5 ≤ b.toNat) :
    lead b = .none := by
  unfold lead
  grind

theorem continued_cons {x : UInt8} {more value low high : Nat} {xs : List UInt8}
    (h : low ≤ x.toNat ∧ x.toNat ≤ high) :
    continued (more + 1) value low high (x :: xs) =
      continued more (value * 0x40 + (x.toNat - 0x80)) 0x80 0xBF xs := if_pos h

theorem continued_zero {value low high : Nat} {xs : List UInt8} :
    continued 0 value low high xs = (some value, xs) := by
  rw [continued]

theorem eq_of_continued_zero {value low high n : Nat} {xs rest : List UInt8}
    (h : continued 0 value low high xs = (some n, rest)) : n = value ∧ rest = xs := by
  rw [continued_zero] at h
  obtain ⟨hn, hrest⟩ := Prod.mk.inj h
  exact ⟨(Option.some.inj hn).symm, hrest.symm⟩

/-- What goes on with a character begins with an octet that does. -/
theorem exists_of_continued_succ {more value low high n : Nat} {xs rest : List UInt8}
    (h : continued (more + 1) value low high xs = (some n, rest)) :
    ∃ y ys, xs = y :: ys ∧ (low ≤ y.toNat ∧ y.toNat ≤ high) ∧
      continued more (value * 0x40 + (y.toNat - 0x80)) 0x80 0xBF ys = (some n, rest) := by
  cases xs with
  | nil => cases h
  | cons y ys =>
    by_cases hy : low ≤ y.toNat ∧ y.toNat ≤ high
    · rw [continued_cons hy] at h
      exact ⟨y, ys, rfl, hy, h⟩
    · rw [continued, if_neg hy] at h
      cases h

/-! ## One character -/

theorem toNat_ofNat {n : Nat} (h : n.isValidChar) : (Char.ofNat n).toNat = n := by
  rw [Char.ofNat, dif_pos h]
  rfl

theorem toUInt8_eq {n : Nat} {b : UInt8} (h : n = b.toNat) : n.toUInt8 = b := by
  rw [h]
  exact UInt8.ofNat_toNat

/-- The octets of a value are those of its character. -/
theorem Writes.encodeChar_eq {n : Nat} {w : List UInt8} (h : Writes n w) :
    encodeChar (Char.ofNat n) = w := by
  cases h with
  | @one b h =>
    rw [encodeChar, toNat_ofNat (.inl (by omega)), if_pos h, toUInt8_eq rfl]
  | @two b b₁ h h₁ =>
    obtain ⟨h₁, h₁'⟩ := h₁
    rw [encodeChar, toNat_ofNat (.inl (by omega)), if_neg (by omega), if_pos (by omega),
      toUInt8_eq (b := b) (by omega), toUInt8_eq (b := b₁) (by omega)]
  | @three b b₁ b₂ h h₁ h₂ =>
    obtain ⟨h₂, h₂'⟩ := h₂
    obtain ⟨⟨h₁, h₁'⟩, hlow, hhigh⟩ := h₁
    rw [encodeChar, toNat_ofNat (by unfold Nat.isValidChar; omega), if_neg (by omega),
      if_neg (by omega), if_pos (by omega), toUInt8_eq (b := b) (by omega),
      toUInt8_eq (b := b₁) (by omega), toUInt8_eq (b := b₂) (by omega)]
  | @four b b₁ b₂ b₃ h h₁ h₂ h₃ =>
    obtain ⟨h₂, h₂'⟩ := h₂
    obtain ⟨h₃, h₃'⟩ := h₃
    obtain ⟨⟨h₁, h₁'⟩, hlow, hhigh⟩ := h₁
    rw [encodeChar, toNat_ofNat (.inr (by omega)), if_neg (by omega), if_neg (by omega),
      if_neg (by omega), toUInt8_eq (b := b) (by omega), toUInt8_eq (b := b₁) (by omega),
      toUInt8_eq (b := b₂) (by omega), toUInt8_eq (b := b₃) (by omega)]

theorem toNat_toUInt8 {n : Nat} (h : n < 256) : n.toUInt8.toNat = n := Nat.mod_eq_of_lt h

theorem Writes.of_eq {m n : Nat} {w : List UInt8} (h : Writes m w) (hmn : m = n) : Writes n w :=
  hmn ▸ h

/-- Every character has octets. -/
theorem writes_encodeChar (c : Char) : Writes c.toNat (encodeChar c) := by
  have hc : c.toNat < 0xD800 ∨ 0xDFFF < c.toNat ∧ c.toNat < 0x110000 := c.valid
  unfold encodeChar
  dsimp only
  generalize c.toNat = n at hc
  split
  case isTrue h =>
    have h₀ := toNat_toUInt8 (n := n) (by omega)
    exact (Writes.one (by omega)).of_eq h₀
  case isFalse h =>
  split
  case isTrue h' =>
    have h₀ := toNat_toUInt8 (n := 0xC0 + n / 0x40) (by omega)
    have h₁ := toNat_toUInt8 (n := 0x80 + n % 0x40) (by omega)
    exact (Writes.two (by omega) ⟨by omega, by omega⟩).of_eq (by omega)
  case isFalse h' =>
  split
  case isTrue h'' =>
    have h₀ := toNat_toUInt8 (n := 0xE0 + n / 0x1000) (by omega)
    have h₁ := toNat_toUInt8 (n := 0x80 + n / 0x40 % 0x40) (by omega)
    have h₂ := toNat_toUInt8 (n := 0x80 + n % 0x40) (by omega)
    exact (Writes.three (by omega) ⟨⟨by omega, by omega⟩, by omega, by omega⟩
      ⟨by omega, by omega⟩).of_eq (by omega)
  case isFalse h'' =>
    have h₀ := toNat_toUInt8 (n := 0xF0 + n / 0x40000) (by omega)
    have h₁ := toNat_toUInt8 (n := 0x80 + n / 0x1000 % 0x40) (by omega)
    have h₂ := toNat_toUInt8 (n := 0x80 + n / 0x40 % 0x40) (by omega)
    have h₃ := toNat_toUInt8 (n := 0x80 + n % 0x40) (by omega)
    exact (Writes.four (by omega) ⟨⟨by omega, by omega⟩, by omega, by omega⟩
      ⟨by omega, by omega⟩ ⟨by omega, by omega⟩).of_eq (by omega)

/-- A character is read from its octets, and what is behind them is left. -/
theorem scan_of_writes {n : Nat} {w : List UInt8} (h : Writes n w) (rest : List UInt8) :
    scan (w ++ rest) = some (Char.ofNat n) :: scan rest := by
  cases h with
  | one h => rw [List.singleton_append, scan, lead_one h]
  | two h h₁ =>
    rw [List.cons_append, List.singleton_append, scan, lead_two h]
    dsimp only
    rw [continued_cons h₁, continued_zero]
    rfl
  | three h h₁ h₂ =>
    obtain ⟨low, high, hlead, hx⟩ := lead_three h
    rw [List.cons_append, List.cons_append, List.singleton_append, scan, hlead]
    dsimp only
    rw [continued_cons ((hx _).mpr h₁), continued_cons h₂, continued_zero]
    rfl
  | four h h₁ h₂ h₃ =>
    obtain ⟨low, high, hlead, hx⟩ := lead_four h
    rw [List.cons_append, List.cons_append, List.cons_append, List.singleton_append, scan, hlead]
    dsimp only
    rw [continued_cons ((hx _).mpr h₁), continued_cons h₂, continued_cons h₃, continued_zero]
    rfl

theorem exists_continued_of_scan {bs : List UInt8} {more bits low high : Nat} {c : Char}
    {l : List (Option Char)} (hlead : lead b = .long more bits low high)
    (h : scan (b :: bs) = some c :: l) :
    ∃ n rest, continued more bits low high bs = (some n, rest) ∧ c = Char.ofNat n ∧
      scan rest = l := by
  rw [scan, hlead] at h
  obtain ⟨hc, hrest⟩ := List.cons.inj h
  obtain ⟨n, hn, hc⟩ := Option.map_eq_some_iff.mp hc
  exact ⟨n, _, Prod.ext hn rfl, hc.symm, hrest⟩

/-- Where a character is read first, its octets are in front. -/
theorem exists_of_scan {bs : List UInt8} {c : Char} {l : List (Option Char)}
    (h : scan bs = some c :: l) :
    ∃ n w rest, Writes n w ∧ bs = w ++ rest ∧ c = Char.ofNat n ∧ scan rest = l := by
  cases bs with
  | nil =>
    rw [scan] at h
    cases h
  | cons b bs =>
    obtain hb | hb | hb | hb | ⟨hb, hb'⟩ : b.toNat < 0x80 ∨ (0xC2 ≤ b.toNat ∧ b.toNat < 0xE0) ∨
        (0xE0 ≤ b.toNat ∧ b.toNat < 0xF0) ∨ (0xF0 ≤ b.toNat ∧ b.toNat < 0xF5) ∨
        0x80 ≤ b.toNat ∧ (b.toNat < 0xC2 ∨ 0xF5 ≤ b.toNat) := by omega
    · rw [scan, lead_one hb] at h
      obtain ⟨hc, hrest⟩ := List.cons.inj h
      exact ⟨_, _, bs, .one hb, rfl, (Option.some.inj hc).symm, hrest⟩
    · obtain ⟨n, rest, hn, hc, hrest⟩ := exists_continued_of_scan (lead_two hb) h
      obtain ⟨b₁, bs, rfl, h₁, hn⟩ := exists_of_continued_succ hn
      obtain ⟨hn, hbs⟩ := eq_of_continued_zero hn
      rw [hn] at hc
      rw [hbs] at hrest
      exact ⟨_, _, bs, .two hb h₁, rfl, hc, hrest⟩
    · obtain ⟨low, high, hlead, hx⟩ := lead_three hb
      obtain ⟨n, rest, hn, hc, hrest⟩ := exists_continued_of_scan hlead h
      obtain ⟨b₁, bs, rfl, h₁, hn⟩ := exists_of_continued_succ hn
      obtain ⟨b₂, bs, rfl, h₂, hn⟩ := exists_of_continued_succ hn
      obtain ⟨hn, hbs⟩ := eq_of_continued_zero hn
      rw [hn] at hc
      rw [hbs] at hrest
      exact ⟨_, _, bs, .three hb ((hx _).mp h₁) h₂, rfl, hc, hrest⟩
    · obtain ⟨low, high, hlead, hx⟩ := lead_four hb
      obtain ⟨n, rest, hn, hc, hrest⟩ := exists_continued_of_scan hlead h
      obtain ⟨b₁, bs, rfl, h₁, hn⟩ := exists_of_continued_succ hn
      obtain ⟨b₂, bs, rfl, h₂, hn⟩ := exists_of_continued_succ hn
      obtain ⟨b₃, bs, rfl, h₃, hn⟩ := exists_of_continued_succ hn
      obtain ⟨hn, hbs⟩ := eq_of_continued_zero hn
      rw [hn] at hc
      rw [hbs] at hrest
      exact ⟨_, _, bs, .four hb ((hx _).mp h₁) h₂ h₃, rfl, hc, hrest⟩
    · rw [scan, lead_none hb hb'] at h
      cases h

/-! ## Texts -/

theorem scan_encode (s : List Char) : scan (encode s) = s.map some := by
  induction s with
  | nil => rw [encode, List.flatMap_nil, scan, List.map_nil]
  | cons c s ih =>
    have hc := scan_of_writes (writes_encodeChar c) (encode s)
    rw [Char.ofNat_toNat] at hc
    rw [List.map_cons, ← ih, ← hc]
    rfl

theorem encode_of_scan {bs : List UInt8} {s : List Char} (h : scan bs = s.map some) :
    encode s = bs := by
  induction s generalizing bs with
  | nil =>
    cases bs with
    | nil => rfl
    | cons b bs =>
      rw [scan] at h
      split at h <;> cases h
  | cons c s ih =>
    obtain ⟨n, w, rest, hw, rfl, rfl, hrest⟩ := exists_of_scan h
    rw [← ih hrest, ← hw.encodeChar_eq]
    rfl

/-- **Reading octets.** They are read as a text exactly if they are those of the text. -/
theorem decode?_eq_some_iff {bs : List UInt8} {s : List Char} :
    decode? bs = some s ↔ encode s = bs := by
  rw [decode?, Loose.mapM_eq_some_iff]
  constructor
  · exact encode_of_scan
  · rintro rfl
    exact scan_encode s

end Utf8

end TaintClient.Text
