/-
  Octets behind percent signs. A text without percent signs is its own reading
  (`decodeLossy_percentDecode`). Writing leaves nothing that has to be written by its octets
  (`forall_mem_percentEncode`), and a text without such characters is written as it is
  (`percentEncode_of_forall`).
-/
import TaintClient.Proofs.Text.Octets
import TaintClient.Url.Percent

namespace TaintClient.Url

open Text

variable {s : List Char} {p : Char → Bool}

/-! ## Reading -/

theorem percentDecode_of_not_mem {bs : List UInt8} (h : 37 ∉ bs) : percentDecode bs = bs := by
  fun_induction percentDecode bs with
  | case1 b x y rest n hn ih =>
    have hb : b ≠ 37 := fun heq => h (heq ▸ List.mem_cons_self)
    rw [if_neg hb] at hn
    cases hn
  | case2 b x y rest hn ih => rw [ih fun hmem => h (List.mem_cons_of_mem b hmem)]
  | case3 => rfl

/-- The octet of the percent sign stands for nothing else. -/
theorem percent_not_mem_encodeChar {c : Char} (hc : c ≠ '%') : 37 ∉ Utf8.encodeChar c := by
  have h : Utf8.Writes c.toNat (Utf8.encodeChar c) := Utf8.writes_encodeChar c
  have hn : c.toNat ≠ 37 := fun heq => hc (Char.toNat_inj.mp heq)
  have h37 : (37 : UInt8).toNat = 37 := rfl
  generalize c.toNat = n at h hn
  generalize Utf8.encodeChar c = w at h
  intro hmem
  cases h with
  | one h =>
    rw [← List.mem_singleton.mp hmem] at hn
    exact hn h37
  | two h h₁ =>
    obtain ⟨h₁, -⟩ := h₁
    simp only [List.mem_cons, List.not_mem_nil, or_false] at hmem
    obtain rfl | rfl := hmem <;> omega
  | three h h₁ h₂ =>
    obtain ⟨h₂, -⟩ := h₂
    obtain ⟨⟨h₁, -⟩, -⟩ := h₁
    simp only [List.mem_cons, List.not_mem_nil, or_false] at hmem
    obtain rfl | rfl | rfl := hmem <;> omega
  | four h h₁ h₂ h₃ =>
    obtain ⟨h₂, -⟩ := h₂
    obtain ⟨h₃, -⟩ := h₃
    obtain ⟨⟨h₁, -⟩, -⟩ := h₁
    simp only [List.mem_cons, List.not_mem_nil, or_false] at hmem
    obtain rfl | rfl | rfl | rfl := hmem <;> omega

/-- A text without percent signs is read as it is. -/
theorem decodeLossy_percentDecode (h : '%' ∉ s) :
    Utf8.decodeLossy (percentDecode (Utf8.encode s)) = s := by
  have hoctets : 37 ∉ Utf8.encode s := by
    intro hmem
    obtain ⟨c, hc, hoctet⟩ := List.mem_flatMap.mp hmem
    exact percent_not_mem_encodeChar (fun heq => h (heq ▸ hc)) hoctet
  rw [percentDecode_of_not_mem hoctets, Utf8.decodeLossy, Utf8.scan_encode, List.map_map]
  exact List.map_id s

/-! ## Writing -/

theorem percentEncode_of_forall (h : ∀ c ∈ s, p c = false) : percentEncode p s = s := by
  induction s with
  | nil => rfl
  | cons c s ih =>
    obtain ⟨hc, hs⟩ := List.forall_mem_cons.mp h
    rw [percentEncode, List.flatMap_cons, hc, if_neg Bool.false_ne_true, List.singleton_append]
    exact congrArg _ (ih hs)

/-- Whether the signs that octets are written in stand for themselves. -/
def KeepsOctets (p : Char → Bool) : Prop :=
  p '%' = false ∧ ∀ d < 16, p (capitalDigit d) = false

/-- Nothing that has to be written by its octets is left. -/
theorem forall_mem_percentEncode (hp : KeepsOctets p) (s : List Char) :
    ∀ c ∈ percentEncode p s, p c = false := by
  have hoctet (b : UInt8) : ∀ c ∈ writeOctet b, p c = false := by
    have hb := b.toNat_lt
    rw [writeOctet, List.forall_mem_cons, List.forall_mem_cons, List.forall_mem_singleton]
    exact ⟨hp.1, hp.2 _ (by omega), hp.2 _ (by omega)⟩
  refine List.forall_mem_flatMap.mpr fun c _ => ?_
  split
  · exact List.forall_mem_flatMap.mpr fun b _ => hoctet b
  · exact List.forall_mem_singleton.mpr (Bool.eq_false_iff.mpr ‹_›)

end TaintClient.Url
