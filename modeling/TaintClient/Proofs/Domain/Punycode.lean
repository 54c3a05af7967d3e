/-
  What is spelled can be read: `decode (encode s) = some s` for every text (`decode_spelling`).
  While a text is spelled, a reader of the digits so far has put the characters spelled so far in
  their places, and what is still to be written of the distance leads it to the place where the
  writer is (`Follows`). That holds at the start and is kept by every character that is passed, by
  the step from one code point to the next, and so by the whole loop.
-/
import Mathlib.Tactic.Ring
import TaintClient.Domain.Punycode
import TaintClient.Proofs.Text.Parts

namespace TaintClient.Domain.Punycode

variable {s t p q basic rest : List Char} {w : Writing} {c : Char}
  {bias k n m j last place delta : Nat}

/-! ## Digits -/

theorem digit?_digit : ∀ d < 36, digit? (digit d) = some d := by decide

/-- Whether a text holds nothing but digits. -/
def IsDigits (t : List Char) : Prop := ∀ c ∈ t, ∃ d < 36, digit d = c

theorem isDigits_nil : IsDigits [] := List.forall_mem_nil _

theorem isDigits_writeNumber (bias k q : Nat) : IsDigits (writeNumber bias k q) := by
  fun_induction writeNumber bias k q with
  | case1 k q t hq =>
    have ht : t ≤ 26 := threshold_le k bias
    exact List.forall_mem_singleton.mpr ⟨q, by omega, rfl⟩
  | case2 k q t hq ih =>
    have ht : t ≤ 26 := threshold_le k bias
    have hmod : (q - t) % (36 - t) < 36 - t := Nat.mod_lt _ (by omega)
    exact List.forall_mem_cons.mpr ⟨⟨_, by omega, rfl⟩, ih⟩

theorem isDigits_pass (basic n : Nat) (hw : IsDigits w.digits) (c : Char) :
    IsDigits (w.pass basic n c).digits := by
  unfold Writing.pass
  split
  · exact hw
  · split
    · exact List.forall_mem_append.mpr ⟨hw, isDigits_writeNumber _ _ _⟩
    · exact hw

theorem isDigits_writeFrom (s : List Char) (basic : Nat) (ns : List Nat) (last : Nat)
    (hw : IsDigits w.digits) : IsDigits (writeFrom s basic ns last w).digits := by
  induction ns generalizing last w with
  | nil => exact hw
  | cons n ns ih =>
    rw [writeFrom]
    refine ih _ ?_
    have hfold (t : List Char) (v : Writing) (hv : IsDigits v.digits) :
        IsDigits (t.foldl (Writing.pass basic n) v).digits := by
      induction t generalizing v with
      | nil => exact hv
      | cons c t iht => exact iht _ (isDigits_pass basic n hv c)
    exact hfold s _ hw

theorem hyphen_not_mem_of_isDigits (h : IsDigits t) : '-' ∉ t := by
  intro hmem
  obtain ⟨d, hd, heq⟩ := h _ hmem
  exact absurd heq ((by decide : ∀ d < 36, digit d ≠ '-') d hd)

/-! ## Numbers -/

/-- A number is read from its digits, and what is behind them is left. -/
theorem readNumber_writeNumber (bias k q : Nat) (rest : List Char) (weight value : Nat) :
    readNumber bias (writeNumber bias k q ++ rest) k weight value =
      some (value + q * weight, rest) := by
  fun_induction writeNumber bias k q generalizing weight value with
  | case1 k q t hq =>
    have ht : t ≤ 26 := threshold_le k bias
    rw [List.singleton_append, readNumber, digit?_digit q (by omega)]
    exact if_pos hq
  | case2 k q t hq ih =>
    have ht : t ≤ 26 := threshold_le k bias
    have hmod : (q - t) % (36 - t) < 36 - t := Nat.mod_lt _ (by omega)
    have hq' : q = t + (q - t) % (36 - t) + (36 - t) * ((q - t) / (36 - t)) := by
      have := Nat.mod_add_div (q - t) (36 - t)
      omega
    rw [List.cons_append, readNumber, digit?_digit _ (by omega)]
    dsimp only
    rw [if_neg (by omega : ¬ t + (q - t) % (36 - t) < threshold k bias), ih]
    refine congrArg (fun v => some (v, rest)) ?_
    calc value + (t + (q - t) % (36 - t)) * weight
          + (q - t) / (36 - t) * (weight * (36 - t))
        = value + (t + (q - t) % (36 - t) + (36 - t) * ((q - t) / (36 - t))) * weight := by ring
      _ = value + q * weight := by rw [← hq']

theorem readFrom_of_readNumber (h : readNumber bias t 36 1 0 = some (delta, rest)) :
    readFrom bias place n s t =
      if (n + (place + delta) / (s.length + 1)).isValidChar then
        readFrom (adapt delta (s.length + 1) (s.all isBasic))
          ((place + delta) % (s.length + 1) + 1) (n + (place + delta) / (s.length + 1))
          (s.insertIdx ((place + delta) % (s.length + 1))
            (Char.ofNat (n + (place + delta) / (s.length + 1)))) rest
      else none := by
  cases t with
  | nil => cases h
  | cons c t =>
    rw [readFrom]
    split
    · rename_i hnone
      rw [h] at hnone
      cases hnone
    · rename_i hsome
      rw [h] at hsome
      cases hsome
      rfl

/-- A distance that leads to place `j` for the character `c` puts it there. -/
theorem readFrom_writeNumber (hn : n ≤ c.toNat) (hj : j ≤ s.length)
    (h : place + delta = (c.toNat - n) * (s.length + 1) + j) :
    readFrom bias place n s (writeNumber bias 36 delta ++ rest) =
      readFrom (adapt delta (s.length + 1) (s.all isBasic)) (j + 1) c.toNat (s.insertIdx j c)
        rest := by
  have hmod : (place + delta) % (s.length + 1) = j := by
    rw [h, Nat.mul_add_mod', Nat.mod_eq_of_lt (by omega)]
  have hdiv : n + (place + delta) / (s.length + 1) = c.toNat := by
    rw [h, Nat.mul_comm, Nat.mul_add_div (by omega), Nat.div_eq_of_lt (by omega)]
    omega
  have hread := readNumber_writeNumber bias 36 delta rest 1 0
  rw [Nat.zero_add, Nat.mul_one] at hread
  rw [readFrom_of_readNumber hread, hmod, hdiv,
    if_pos (show c.toNat.isValidChar from c.valid), Char.ofNat_toNat]

/-! ## The text so far -/

/-- What is spelled of a text once its beginning `p` is passed for the code point `n` and the rest
`q` is not. -/
def spelled (n : Nat) (p q : List Char) : List Char :=
  p.filter (·.toNat ≤ n) ++ q.filter (·.toNat < n)

theorem spelled_pass_of_lt (h : c.toNat < n) : spelled n (p ++ [c]) q = spelled n p (c :: q) := by
  simp [spelled, h, Nat.le_of_lt h]

theorem spelled_pass_of_gt (h : n < c.toNat) : spelled n (p ++ [c]) q = spelled n p (c :: q) := by
  simp [spelled, Nat.not_le.mpr h, Nat.not_lt.mpr (Nat.le_of_lt h)]

theorem insertIdx_length_append (s t : List Char) (c : Char) :
    (s ++ t).insertIdx s.length c = s ++ c :: t := by
  induction s with
  | nil => rfl
  | cons b s ih => rw [List.cons_append, List.length_cons, List.insertIdx_succ_cons, ih]; rfl

theorem spelled_pass_self (p q : List Char) (c : Char) :
    spelled c.toNat (p ++ [c]) q =
      (spelled c.toNat p (c :: q)).insertIdx (p.filter (·.toNat ≤ c.toNat)).length c := by
  have hq : (c :: q).filter (·.toNat < c.toNat) = q.filter (·.toNat < c.toNat) :=
    List.filter_cons_of_neg (by simp)
  rw [spelled, spelled, hq, insertIdx_length_append]
  simp

/-- Whether all of it is ASCII is told by its length. -/
theorem all_isBasic_spelled (hn : 128 ≤ n) :
    (spelled n p q).all isBasic = true ↔
      (spelled n p q).length = ((p ++ q).filter isBasic).length := by
  have hfilter : (spelled n p q).filter isBasic = (p ++ q).filter isBasic := by
    rw [spelled, List.filter_append, List.filter_append, List.filter_filter, List.filter_filter]
    refine congrArg₂ _ (List.filter_congr ?_) (List.filter_congr ?_)
    all_goals
      intro c _
      simp only [isBasic]
      grind
  rw [← hfilter, List.all_eq_true, eq_comm, List.length_filter_eq_length_iff]

/-! ## Writer and reader -/

/-- Whether a reader of the digits of `w` is where the writer is, who has passed `p` for the code
point `n` and not yet `q`: it has put the characters spelled so far behind `place`, where the last
of them went, and the distance so far counts the rest of the way. -/
structure Follows (basic : List Char) (last place n : Nat) (p q : List Char) (w : Writing) :
    Prop where
  basic_eq : (p ++ q).filter isBasic = basic
  reads : ∀ rest, readFrom 72 0 128 basic (w.digits ++ rest) =
    readFrom w.bias place last (spelled n p q) rest
  last_le : last ≤ n
  distance : place + w.delta =
    (n - last) * (w.count + 1) + (p.filter (·.toNat ≤ n)).length
  count_eq : w.count = (spelled n p q).length

/-- One character is passed. -/
theorem Follows.pass (h : Follows basic last place n p (c :: q) w) (hn : 128 ≤ n) :
    ∃ last' place', Follows basic last' place' n (p ++ [c]) q (w.pass basic.length n c) := by
  have hbasic : (p ++ [c] ++ q).filter isBasic = basic := by
    rw [List.append_assoc]
    exact h.basic_eq
  obtain hlt | rfl | hgt := Nat.lt_trichotomy c.toNat n
  · refine ⟨last, place, hbasic, ?_, h.last_le, ?_, ?_⟩
    all_goals rw [Writing.pass, if_pos hlt]
    · rw [spelled_pass_of_lt hlt]
      exact h.reads
    · have := h.distance
      simp only [List.filter_append, List.length_append, Nat.le_of_lt hlt, decide_true,
        List.filter_cons_of_pos, List.filter_nil, List.length_singleton]
      omega
    · rw [spelled_pass_of_lt hlt]
      exact h.count_eq
  · -- the digits of the distance are written, and the reader puts the character into its place
    have hle : (p.filter (·.toNat ≤ c.toNat)).length ≤ (spelled c.toNat p (c :: q)).length := by
      rw [spelled, List.length_append]
      omega
    have hdistance := h.distance
    rw [h.count_eq] at hdistance
    have hfirst : decide (w.count = basic.length) = (spelled c.toNat p (c :: q)).all isBasic := by
      rw [Bool.eq_iff_iff, all_isBasic_spelled hn, h.basic_eq, ← h.count_eq, decide_eq_true_iff]
    refine ⟨c.toNat, (p.filter (·.toNat ≤ c.toNat)).length + 1, hbasic, ?_, Nat.le_refl _, ?_, ?_⟩
    all_goals rw [Writing.pass, if_neg (Nat.lt_irrefl _), if_pos rfl]
    · intro rest
      rw [List.append_assoc, h.reads, readFrom_writeNumber h.last_le hle hdistance,
        spelled_pass_self, hfirst, h.count_eq]
    · simp
    · rw [spelled_pass_self, List.length_insertIdx_of_le_length hle, h.count_eq]
  · refine ⟨last, place, hbasic, ?_, h.last_le, ?_, ?_⟩
    all_goals rw [Writing.pass, if_neg (by omega), if_neg (by omega)]
    · rw [spelled_pass_of_gt hgt]
      exact h.reads
    · simpa [Nat.not_le.mpr hgt] using h.distance
    · rw [spelled_pass_of_gt hgt]
      exact h.count_eq

/-- The rest of the text is passed. -/
theorem Follows.passAll (h : Follows basic last place n p q w) (hn : 128 ≤ n) :
    ∃ last' place', Follows basic last' place' n (p ++ q) []
      (q.foldl (Writing.pass basic.length n) w) := by
  induction q generalizing p w last place with
  | nil => exact ⟨last, place, by rwa [List.append_nil]⟩
  | cons c q ih =>
    obtain ⟨last', place', hpass⟩ := h.pass hn
    have hall := ih hpass
    rwa [List.append_assoc] at hall

/-- The next code point that is in the text. -/
theorem Follows.raise (h : Follows basic last place n [] s w) (hm : n ≤ m)
    (hnone : ∀ c ∈ s, n ≤ c.toNat → m ≤ c.toNat) :
    Follows basic last place m [] s { w with delta := w.delta + (m - n) * (w.count + 1) } := by
  have hspelled : spelled m [] s = spelled n [] s := by
    refine List.filter_congr fun c hc => decide_eq_decide.mpr ?_
    have := hnone c hc
    omega
  have hlast := h.last_le
  refine ⟨h.basic_eq, ?_, by omega, ?_, ?_⟩
  · rw [hspelled]
    exact h.reads
  · have hsub : m - last = n - last + (m - n) := by omega
    have := h.distance
    rw [hsub, Nat.add_mul]
    simp only [List.filter_nil, List.length_nil] at this ⊢
    omega
  · rw [hspelled]
    exact h.count_eq

/-- Behind a code point comes the one above it. -/
theorem Follows.succ (h : Follows basic last place n s [] w) :
    Follows basic last place (n + 1) [] s { w with delta := w.delta + 1 } := by
  have hspelled : spelled (n + 1) [] s = spelled n s [] := by
    simp only [spelled, Nat.lt_succ_iff, List.filter_nil, List.append_nil, List.nil_append]
  have hlast := h.last_le
  refine ⟨?_, ?_, by omega, ?_, ?_⟩
  · rw [← h.basic_eq, List.append_nil, List.nil_append]
  · rw [hspelled]
    exact h.reads
  · have hsub : n + 1 - last = n - last + 1 := by omega
    have hdistance := h.distance
    have hcount := h.count_eq
    simp only [spelled, List.filter_nil, List.append_nil] at hcount
    rw [hsub, Nat.add_mul]
    simp only [List.filter_nil, List.length_nil]
    omega
  · rw [hspelled]
    exact h.count_eq

/-- All code points of the text are spelled, the others done before. -/
theorem Follows.writeFrom {ns : List Nat} (h : Follows basic last place n [] s w)
    (hn : 128 ≤ n) (hsorted : ns.Pairwise (· < ·)) (hle : ∀ m ∈ ns, n ≤ m)
    (hall : ∀ c ∈ s, n ≤ c.toNat → c.toNat ∈ ns) :
    ∃ last' place' m, (∀ c ∈ s, c.toNat < m) ∧
      Follows basic last' place' m [] s (writeFrom s basic.length ns n w) := by
  induction ns generalizing w n last place with
  | nil =>
    refine ⟨last, place, n, fun c hc => ?_, h⟩
    by_contra hlt
    exact List.not_mem_nil (hall c hc (by omega))
  | cons m ns ih =>
    obtain ⟨hhead, htail⟩ := List.pairwise_cons.mp hsorted
    have hm : n ≤ m := hle m List.mem_cons_self
    have hraised := h.raise hm fun c hc hc' => by
      obtain heq | hmem := List.mem_cons.mp (hall c hc hc')
      · omega
      · exact Nat.le_of_lt (hhead _ hmem)
    obtain ⟨last', place', hpassed⟩ := hraised.passAll (by omega)
    refine ih hpassed.succ (by omega) htail (fun k hk => hhead k hk) fun c hc hc' => ?_
    obtain heq | hmem := List.mem_cons.mp (hall c hc (by omega))
    · omega
    · exact hmem

/-! ## The code points of a text -/

theorem mem_insertNumber {ns : List Nat} : k ∈ insertNumber n ns ↔ k = n ∨ k ∈ ns := by
  fun_induction insertNumber n ns with
  | case1 => simp
  | case2 m ms h => simp
  | case3 ms => simp
  | case4 m ms h h' ih => grind

theorem sorted_insertNumber {ns : List Nat} (h : ns.Pairwise (· < ·)) :
    (insertNumber n ns).Pairwise (· < ·) := by
  fun_induction insertNumber n ns with
  | case1 => exact List.pairwise_singleton _ _
  | case2 m ms hlt =>
    obtain ⟨hhead, -⟩ := List.pairwise_cons.mp h
    refine List.pairwise_cons.mpr ⟨fun k hk => ?_, h⟩
    obtain rfl | hmem := List.mem_cons.mp hk
    · exact hlt
    · exact Nat.lt_trans hlt (hhead k hmem)
  | case3 ms => exact h
  | case4 m ms hlt hne ih =>
    obtain ⟨hhead, htail⟩ := List.pairwise_cons.mp h
    refine List.pairwise_cons.mpr ⟨fun k hk => ?_, ih htail⟩
    obtain rfl | hmem := mem_insertNumber.mp hk
    · omega
    · exact hhead k hmem

/-- The numbers of a list, each once and in increasing order. -/
theorem sorted_foldr_insertNumber (ns : List Nat) :
    (ns.foldr insertNumber []).Pairwise (· < ·) ∧ ∀ k, k ∈ ns.foldr insertNumber [] ↔ k ∈ ns := by
  induction ns with
  | nil => exact ⟨.nil, fun k => Iff.rfl⟩
  | cons n ns ih =>
    refine ⟨sorted_insertNumber ih.1, fun k => ?_⟩
    rw [List.foldr_cons, mem_insertNumber, ih.2, List.mem_cons]

/-! ## Reading what is spelled -/

/-- Behind the last hyphen stand the digits. -/
theorem decode_append (hbasic : basic.all isBasic = true) (ht : '-' ∉ t) :
    decode ((if basic.isEmpty then [] else basic ++ ['-']) ++ t) = readFrom 72 0 128 basic t := by
  cases basic with
  | nil =>
    rw [List.isEmpty_nil, if_pos rfl, List.nil_append, decode, Text.behindLast_of_not_mem ht,
      Nat.sub_self, Nat.zero_sub, List.take_zero]
    rfl
  | cons b bs =>
    have htail : ((b :: bs ++ ['-'] ++ t).reverse.takeWhile (· ≠ '-')).reverse = t := by
      rw [List.append_assoc]
      exact Text.behindLast_append ht (b :: bs)
    have hhead : (b :: bs ++ ['-'] ++ t).take ((b :: bs ++ ['-'] ++ t).length - t.length - 1) =
        b :: bs := by
      have hlength : (b :: bs ++ ['-'] ++ t).length - t.length - 1 = (b :: bs).length := by
        simp only [List.length_append, List.length_singleton]
        omega
      rw [hlength, List.append_assoc, List.take_left]
    rw [List.isEmpty_cons, if_neg Bool.false_ne_true, decode, htail, hhead,
      if_neg (not_not.mpr hbasic), List.isEmpty_cons, if_neg Bool.false_ne_true]

/-- The digits of the characters that are not ASCII. -/
def digitsOf (s : List Char) : List Char :=
  (writeFrom s (s.filter isBasic).length
    (((s.filter (!isBasic ·)).map Char.toNat).foldr insertNumber []) 128
    { count := (s.filter isBasic).length }).digits

theorem encode_eq (s : List Char) :
    encode s =
      (if (s.filter isBasic).isEmpty then [] else s.filter isBasic ++ ['-']) ++ digitsOf s := rfl

theorem isDigits_digitsOf (s : List Char) : IsDigits (digitsOf s) :=
  isDigits_writeFrom s _ _ _ isDigits_nil

/-- What a spelling consists of. -/
theorem mem_encode (h : c ∈ encode s) : c ∈ s.filter isBasic ∨ c = '-' ∨ ∃ d < 36, digit d = c := by
  rw [encode_eq, List.mem_append] at h
  obtain h | h := h
  · split at h
    · cases h
    · exact (List.mem_append.mp h).imp_right fun h => .inl (List.mem_singleton.mp h)
  · exact .inr (.inr (isDigits_digitsOf s c h))

/-- The digits put the characters that are not ASCII between those that are. -/
theorem readFrom_digitsOf (s : List Char) :
    readFrom 72 0 128 (s.filter isBasic) (digitsOf s) = some s := by
  have hothers := sorted_foldr_insertNumber ((s.filter (!isBasic ·)).map Char.toNat)
  have hmem {k : Nat} : k ∈ (s.filter (!isBasic ·)).map Char.toNat ↔
      ∃ c ∈ s, 128 ≤ c.toNat ∧ c.toNat = k := by
    simp [isBasic, and_assoc]
  -- at the start the reader has the ASCII characters and is at the first code point above them
  have hstart : Follows (s.filter isBasic) 128 0 128 [] s { count := (s.filter isBasic).length } :=
    ⟨rfl, fun rest => rfl, Nat.le_refl _, by simp, rfl⟩
  obtain ⟨last, place, m, hlt, hend⟩ := hstart.writeFrom (Nat.le_refl _) hothers.1
    (fun k hk => by
      obtain ⟨c, -, hc, rfl⟩ := hmem.mp ((hothers.2 k).mp hk)
      exact hc)
    (fun c hc hc' => (hothers.2 _).mpr (hmem.mpr ⟨c, hc, hc', rfl⟩))
  have hreads := hend.reads []
  have hall : spelled m [] s = s :=
    List.filter_eq_self.mpr fun c hc => decide_eq_true (hlt c hc)
  rwa [List.append_nil, readFrom, hall] at hreads

/-- **What is spelled can be read.** -/
theorem decode_spelling (s : List Char) : decode (encode s) = some s := by
  have hbasic : (s.filter isBasic).all isBasic = true :=
    List.all_eq_true.mpr fun c hc => (List.mem_filter.mp hc).2
  rw [encode_eq, decode_append hbasic (hyphen_not_mem_of_isDigits (isDigits_digitsOf s)),
    readFrom_digitsOf]

example : encode "bücher".toList = "bcher-kva".toList := by decide +kernel

end TaintClient.Domain.Punycode
