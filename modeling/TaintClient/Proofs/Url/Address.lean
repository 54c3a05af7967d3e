/-
  Addresses are read from what is written for them: one of four octets from four decimal numbers
  (`readIpv4?_writeIpv4`), and one of eight pieces from hexadecimal numbers with at most one gap
  between them (`readIpv6?_writeIpv6`), which stands for zeros that are really there
  (`eq_of_zeroRun`). What is read is an address of that kind (`lt_of_readIpv4?`,
  `isAddress_of_readIpv6?`).
-/
import Mathlib.Data.List.TakeWhile
import TaintClient.Proofs.Except
import TaintClient.Proofs.Text.Digits
import TaintClient.Url.Host

namespace TaintClient.Url

open Text (hexDigits hexNumber hexValue?)

variable {s t : List Char} {n m a : Nat} {p q : Pieces} {pieces xs ys : List Nat}

/-! ## Addresses of four octets -/

theorem numberIn?_toDigits {b : Nat} (hb : 1 < b) (hb' : b ≤ 16) (n : Nat) :
    numberIn? b (Nat.toDigits b n) = some n := by
  refine Text.toDigits_induction hb (P := fun n s => numberIn? b s = some n) ?_ ?_ n
  · intro d hd
    rw [numberIn?, List.foldlM_cons, Text.hexValue?_digitChar d (by omega)]
    dsimp only
    rw [if_pos hd, Nat.zero_mul, Nat.zero_add]
    rfl
  · intro n s d _ hd hs
    rw [numberIn?] at hs
    rw [numberIn?, List.foldlM_append, hs, Option.bind_eq_bind, Option.bind_some,
      List.foldlM_cons, Text.hexValue?_digitChar d (by omega)]
    dsimp only
    rw [if_pos hd]
    rfl

theorem isDigit_of_mem_decimal (n : Nat) : ∀ c ∈ decimal n, c.isDigit = true :=
  fun _ hc => Nat.isDigit_of_mem_toDigits (by decide) (by decide) hc

theorem addressPart?_decimal (n : Nat) : addressPart? (decimal n) = some n := by
  by_cases hn : n = 0
  · rw [hn]
    rfl
  · have hread : numberIn? 10 (decimal n) = some n := numberIn?_toDigits (by decide) (by decide) n
    have hzero : (decimal n).head? ≠ some '0' :=
      Text.head?_toDigits_ne_zero (by decide) (by decide) (Nat.pos_of_ne_zero hn)
    have hnil : decimal n ≠ [] := Nat.toDigits_ne_nil
    rw [← hread]
    unfold addressPart?
    split
    · exact absurd ‹_› hnil
    all_goals first | rfl | exact absurd (by rw [‹decimal n = _›]; rfl) hzero

/-- The octets of an address. -/
def octets (n : Nat) : List Nat := [n / 16777216, n / 65536 % 256, n / 256 % 256, n % 256]

theorem addressParts_writeIpv4 (n : Nat) : addressParts (writeIpv4 n) = (octets n).map decimal := by
  have hsplit : (writeIpv4 n).splitOn '.' = (octets n).map decimal := by
    refine List.splitOn_intercalate _ (List.forall_mem_map.mpr fun m _ hpoint => ?_)
      (List.cons_ne_nil _ _)
    exact absurd (isDigit_of_mem_decimal m '.' hpoint) (by decide)
  have hlast : ((octets n).map decimal).getLast? ≠ some [] :=
    fun h => absurd (Option.some.inj h) (Nat.toDigits_ne_nil (n := n % 256) (b := 10))
  rw [addressParts, hsplit]
  exact if_neg hlast

theorem endsInNumber_writeIpv4 (n : Nat) : endsInNumber (writeIpv4 n) = true := by
  have hdigits : (decimal (n % 256)).all Char.isDigit = true :=
    List.all_eq_true.mpr (isDigit_of_mem_decimal _)
  have hnil : (decimal (n % 256)).isEmpty = false :=
    List.isEmpty_eq_false_iff.mpr Nat.toDigits_ne_nil
  have hlast : ((octets n).map decimal).getLast? = some (decimal (n % 256)) := rfl
  rw [endsInNumber, addressParts_writeIpv4, hlast]
  dsimp only
  rw [hdigits, hnil]
  rfl

theorem addressOf?_octets (h : n < 4294967296) : addressOf? (octets n) = some n := by
  have hlast : ¬ (4 < (octets n).length ∨ Nat.pow 256 (4 - (octets n).dropLast.length) ≤ n % 256 ∨
      (octets n).dropLast.any (255 < ·) = true) := by
    simp [octets]
    omega
  have hgetLast : (octets n).getLast? = some (n % 256) := rfl
  rw [addressOf?, hgetLast]
  dsimp only
  rw [if_neg hlast]
  simp [octets]
  omega

/-- An address is read from what is written for it. -/
theorem readIpv4?_writeIpv4 (h : n < 4294967296) : readIpv4? (writeIpv4 n) = some n := by
  have hparts : ((octets n).map decimal).mapM addressPart? = some (octets n) := by
    simp [octets, addressPart?_decimal]
  rw [readIpv4?, addressParts_writeIpv4, hparts, Option.bind_some, addressOf?_octets h]

/-- What is read is an address. -/
theorem lt_of_readIpv4? (h : readIpv4? s = some n) : n < 4294967296 := by
  obtain ⟨parts, -, h⟩ := Option.bind_eq_some_iff.mp h
  have hfold (front : List Nat) (m k : Nat) (hm : m < Nat.pow 256 k)
      (hfront : ∀ p ∈ front, p ≤ 255) :
      front.foldl (fun n p => n * 256 + p) m < Nat.pow 256 (k + front.length) := by
    induction front generalizing m k with
    | nil => exact hm
    | cons p front ih =>
      obtain ⟨hp, hfront⟩ := List.forall_mem_cons.mp hfront
      have hpow : Nat.pow 256 (k + 1) = Nat.pow 256 k * 256 := rfl
      rw [List.foldl_cons, List.length_cons, Nat.add_comm front.length, ← Nat.add_assoc]
      exact ih _ (k + 1) (by omega) hfront
  unfold addressOf? at h
  split at h
  · cases h
  · rename_i last hlast
    dsimp only at h
    split at h
    · cases h
    · rename_i hok
      cases h
      simp only [not_or, not_lt, not_le, List.any_eq_true, decide_eq_true_eq, not_exists,
        not_and] at hok
      obtain ⟨hlength, hlt, hfront⟩ := hok
      have hk : parts.dropLast.length ≤ 3 := by
        rw [List.length_dropLast]
        omega
      have h := hfold parts.dropLast 0 0 (by decide) fun p hp => hfront p hp
      rw [Nat.zero_add] at h
      generalize parts.dropLast.length = k at *
      generalize parts.dropLast.foldl (fun n p => n * 256 + p) 0 = m at *
      have hpow : Nat.pow 256 0 = 1 ∧ Nat.pow 256 1 = 256 ∧ Nat.pow 256 2 = 65536 ∧
          Nat.pow 256 3 = 16777216 ∧ Nat.pow 256 4 = 4294967296 := by decide
      obtain rfl | rfl | rfl | rfl : k = 0 ∨ k = 1 ∨ k = 2 ∨ k = 3 := by omega
      all_goals
        simp only [hpow, Nat.sub_zero, Nat.reduceSub] at h hlt ⊢
        omega

/-! ## Addresses of eight pieces -/

/-- Whether numbers are the pieces of an address. -/
structure IsAddress (pieces : List Nat) : Prop where
  length_eq : pieces.length = 8
  lt : ∀ n ∈ pieces, n < 65536

theorem isSome_of_mem_hexDigits (n : Nat) : ∀ c ∈ hexDigits n, (hexValue? c).isSome = true :=
  Text.forall_mem_toDigits (by decide)
    (fun d hd => by rw [Text.hexValue?_digitChar d hd]; rfl) n

/-- A piece begins with a digit. -/
theorem exists_hexDigits (n : Nat) : ∃ c r, hexDigits n = c :: r ∧ c ≠ ':' := by
  cases hd : hexDigits n with
  | nil => exact absurd hd Nat.toDigits_ne_nil
  | cons c r =>
    refine ⟨c, r, rfl, ?_⟩
    rintro rfl
    exact absurd (isSome_of_mem_hexDigits n ':' (hd ▸ List.mem_cons_self)) (by decide)

/-- A piece is read from its digits, and what is behind them is left. -/
theorem readPiece_hexDigits (h : n < 65536)
    (ht : ∀ c, t.head? = some c → (hexValue? c).isSome = false) :
    readPiece (hexDigits n ++ t) = (n, t) := by
  have hlength := Text.length_hexDigits_le h
  have hstop : (t.take (4 - (hexDigits n).length)).takeWhile (fun c => (hexValue? c).isSome) =
      [] := by
    cases t with
    | nil => simp
    | cons c t =>
      cases 4 - (hexDigits n).length with
      | zero => rfl
      | succ k => rw [List.take_succ_cons, List.takeWhile_cons, ht c rfl]; rfl
  have hdigits : ((hexDigits n ++ t).take 4).takeWhile (fun c => (hexValue? c).isSome) =
      hexDigits n := by
    rw [List.take_append, List.take_of_length_le hlength,
      List.takeWhile_append_of_pos (isSome_of_mem_hexDigits n), hstop, List.append_nil]
  rw [readPiece, hdigits, Text.hexNumber_hexDigits, List.drop_left]

/-- The last piece. -/
theorem readPieces_last (h : a < 65536) :
    readPieces (m + 1) p (hexDigits a) = some { p with pieces := p.pieces ++ [a] } := by
  have hread := readPiece_hexDigits (t := []) h nofun
  obtain ⟨c, r, hd, hc⟩ := exists_hexDigits a
  rw [List.append_nil] at hread
  rw [hd] at hread ⊢
  rw [readPieces, hread]
  · exact List.cons_ne_nil c r
  · exact fun s heq => hc (List.cons.inj heq).1

/-- A piece that is not the last one. -/
theorem readPieces_cons (h : a < 65536) (ht : t ≠ []) :
    readPieces (m + 1) p (hexDigits a ++ ':' :: t) =
      readPieces m { p with pieces := p.pieces ++ [a] } t := by
  have hread := readPiece_hexDigits (t := ':' :: t) h (by rintro _ ⟨⟩; rfl)
  obtain ⟨c, r, hd, hc⟩ := exists_hexDigits a
  rw [hd, List.cons_append] at hread ⊢
  rw [readPieces, hread]
  · exact if_neg (by rwa [List.isEmpty_iff])
  · exact List.cons_ne_nil c _
  · exact fun s heq => hc (List.cons.inj heq).1

theorem joinPieces_cons_cons (a b : Nat) (xs : List Nat) :
    joinPieces (a :: b :: xs) = hexDigits a ++ ':' :: joinPieces (b :: xs) := by
  rw [joinPieces, List.map_cons, List.map_cons, List.intercalate_cons_cons, List.append_assoc]
  rfl

theorem joinPieces_singleton (a : Nat) : joinPieces [a] = hexDigits a :=
  List.intercalate_singleton

theorem joinPieces_ne_nil (a : Nat) (xs : List Nat) : joinPieces (a :: xs) ≠ [] := by
  obtain ⟨c, r, hd, -⟩ := exists_hexDigits a
  cases xs with
  | nil => rw [joinPieces_singleton, hd]; exact List.cons_ne_nil _ _
  | cons b xs => rw [joinPieces_cons_cons, hd]; exact List.cons_ne_nil _ _

/-- Pieces up to the end. -/
theorem readPieces_joinPieces (hlt : ∀ n ∈ xs, n < 65536) (hm : xs.length ≤ m) :
    readPieces m p (joinPieces xs) = some { p with pieces := p.pieces ++ xs } := by
  induction xs generalizing m p with
  | nil =>
    rw [List.append_nil]
    cases m <;> rfl
  | cons a xs ih =>
    obtain ⟨ha, hxs⟩ := List.forall_mem_cons.mp hlt
    obtain ⟨m, rfl⟩ : ∃ k, m = k + 1 := ⟨m - 1, by rw [List.length_cons] at hm; omega⟩
    cases xs with
    | nil => rw [joinPieces_singleton, readPieces_last ha]
    | cons b xs =>
      rw [joinPieces_cons_cons, readPieces_cons ha (joinPieces_ne_nil b xs),
        ih hxs (Nat.le_of_succ_le_succ hm), List.append_assoc]
      rfl

/-- Pieces up to the gap. -/
theorem readPieces_append (hlt : ∀ n ∈ xs, n < 65536) (hxs : xs ≠ []) (hm : xs.length ≤ m)
    (ht : t ≠ []) :
    readPieces m p (joinPieces xs ++ ':' :: t) =
      readPieces (m - xs.length) { p with pieces := p.pieces ++ xs } t := by
  induction xs generalizing m p with
  | nil => exact absurd rfl hxs
  | cons a xs ih =>
    obtain ⟨ha, htail⟩ := List.forall_mem_cons.mp hlt
    obtain ⟨m, rfl⟩ : ∃ k, m = k + 1 := ⟨m - 1, by rw [List.length_cons] at hm; omega⟩
    cases xs with
    | nil => rw [joinPieces_singleton, readPieces_cons ha ht]; rfl
    | cons b xs =>
      have hne : joinPieces (b :: xs) ++ ':' :: t ≠ [] :=
        List.append_ne_nil_of_left_ne_nil (joinPieces_ne_nil b xs) _
      rw [joinPieces_cons_cons, List.append_assoc, List.cons_append, readPieces_cons ha hne,
        ih htail (List.cons_ne_nil _ _) (Nat.le_of_succ_le_succ hm), List.append_assoc,
        List.length_cons (a := a), Nat.add_sub_add_right]
      rfl

/-- The longest run of zeros is there. -/
theorem eq_of_zeroRun (h : zeroRun pieces = (n, m)) :
    pieces.take n ++ List.replicate m 0 ++ pieces.drop (n + m) = pieces := by
  have hfold (runs : List (Nat × Nat)) (best : Nat × Nat) :
      runs.foldl (fun best r => if best.2 < r.2 then r else best) best = best ∨
        runs.foldl (fun best r => if best.2 < r.2 then r else best) best ∈ runs := by
    induction runs generalizing best with
    | nil => exact .inl rfl
    | cons r runs ih =>
      rw [List.foldl_cons]
      split
      · obtain hr | hmem := ih r
        · rw [hr]
          exact .inr List.mem_cons_self
        · exact .inr (List.mem_cons_of_mem _ hmem)
      · exact (ih best).imp_right (List.mem_cons_of_mem _)
  rw [zeroRun] at h
  obtain hnone | hmem := hfold ((List.range pieces.length).map fun i =>
    (i, ((pieces.drop i).takeWhile (· = 0)).length)) (0, 0)
  · rw [hnone] at h
    cases h
    rfl
  · rw [h] at hmem
    obtain ⟨i, -, hi⟩ := List.mem_map.mp hmem
    cases hi
    have hzeros : List.replicate ((pieces.drop n).takeWhile (· = 0)).length 0 =
        (pieces.drop n).takeWhile (· = 0) :=
      (List.eq_replicate_iff.mpr ⟨rfl, fun k hk => of_decide_eq_true
        (List.all_eq_true.mp List.all_takeWhile k hk)⟩).symm
    have hrest : pieces.drop (n + ((pieces.drop n).takeWhile (· = 0)).length) =
        (pieces.drop n).dropWhile (· = 0) := by
      have hsplit := List.takeWhile_append_dropWhile (p := fun k => decide (k = 0))
        (l := pieces.drop n)
      rw [← List.drop_drop]
      exact (congrArg _ hsplit.symm).trans List.drop_left
    rw [hzeros, hrest, List.append_assoc, List.takeWhile_append_dropWhile, List.take_append_drop]

theorem readIpv6?_of_ne (hs : s ≠ []) (hhead : s.head? ≠ some ':') :
    readIpv6? s = (readPieces 9 {} s).bind Pieces.whole? := by
  unfold readIpv6?
  split
  · exact absurd rfl hs
  · exact absurd rfl hhead
  · exact absurd rfl hhead
  · rfl

theorem head?_joinPieces (a : Nat) (xs : List Nat) (t : List Char) :
    (joinPieces (a :: xs) ++ t).head? ≠ some ':' := by
  obtain ⟨c, r, hd, hc⟩ := exists_hexDigits a
  cases xs with
  | nil => rw [joinPieces_singleton, hd]; exact fun h => hc (Option.some.inj h)
  | cons b xs => rw [joinPieces_cons_cons, hd]; exact fun h => hc (Option.some.inj h)

/-- Pieces with a gap are the pieces with the zeros that it stands for. -/
theorem whole?_gap (h : xs.length + m + ys.length = 8) (hm : 0 < m) :
    Pieces.whole? ⟨xs ++ ys, some xs.length⟩ = some (xs ++ List.replicate m 0 ++ ys) := by
  have hlt : (xs ++ ys).length < 8 := by rw [List.length_append]; omega
  have hsub : 8 - (xs ++ ys).length = m := by rw [List.length_append]; omega
  rw [Pieces.whole?]
  dsimp only
  rw [if_pos hlt, hsub, List.take_left, List.drop_left]

/-- **An address is read from what is written for it.** -/
theorem readIpv6?_writeIpv6 (h : IsAddress pieces) :
    readIpv6? (writeIpv6 pieces) = some pieces := by
  obtain ⟨hlength, hlt⟩ := h
  cases hrun : zeroRun pieces with
  | mk start length =>
  have hpieces := eq_of_zeroRun hrun
  rw [writeIpv6, hrun]
  dsimp only
  split
  · cases pieces with
    | nil => cases hlength
    | cons a xs =>
      have hhead := head?_joinPieces a xs []
      rw [List.append_nil] at hhead
      rw [readIpv6?_of_ne (joinPieces_ne_nil a xs) hhead, readPieces_joinPieces hlt (by omega)]
      exact if_pos hlength
  · rename_i hlong
    have htake : ∀ n ∈ pieces.take start, n < 65536 := fun n hn => hlt n (List.mem_of_mem_take hn)
    have hdrop : ∀ n ∈ pieces.drop (start + length), n < 65536 :=
      fun n hn => hlt n (List.mem_of_mem_drop hn)
    have hsum :
        (pieces.take start).length + length + (pieces.drop (start + length)).length = 8 := by
      have := congrArg List.length hpieces
      simp only [List.length_append, List.length_replicate] at this
      omega
    have hwhole := whole?_gap hsum (by omega)
    rw [hpieces] at hwhole
    generalize pieces.take start = xs at *
    generalize pieces.drop (start + length) = ys at *
    cases xs with
    | nil =>
      have hread : readPieces 9 { gap := some 0 } (joinPieces ys) = some ⟨[] ++ ys, some 0⟩ :=
        readPieces_joinPieces hdrop (by omega)
      change (readPieces 9 { gap := some 0 } (joinPieces ys)).bind Pieces.whole? = some pieces
      rw [hread]
      exact hwhole
    | cons a xs =>
      have hgap : readPieces (9 - (a :: xs).length) { pieces := [] ++ a :: xs }
          (':' :: joinPieces ys) = some ⟨a :: xs ++ ys, some (a :: xs).length⟩ := by
        obtain ⟨k, hk⟩ : ∃ k, 9 - (a :: xs).length = k + 1 := ⟨8 - (a :: xs).length, by omega⟩
        rw [hk]
        exact readPieces_joinPieces hdrop (by omega)
      rw [List.append_assoc, readIpv6?_of_ne
        (List.append_ne_nil_of_left_ne_nil (joinPieces_ne_nil a xs) _) (head?_joinPieces a xs _)]
      change (readPieces 9 {} (joinPieces (a :: xs) ++ ':' :: (':' :: joinPieces ys))).bind _ = _
      rw [readPieces_append htake (List.cons_ne_nil _ _) (by omega) (List.cons_ne_nil _ _), hgap]
      exact hwhole

/-- Of two runs of zeros the longer one becomes the gap. -/
example : writeIpv6 [1, 0, 0, 2, 0, 0, 0, 3] = "1:0:0:2::3".toList := by decide

/-! ## Reading pieces -/

theorem lt_of_octet? (h : octet? s = some n) : n < 256 := by
  unfold octet? at h
  split at h
  · cases h
  · split at h
    · cases h
    · cases h
      omega

theorem lt_of_octetPieces? (h : octetPieces? s = some xs) : ∀ n ∈ xs, n < 65536 := by
  unfold octetPieces? at h
  split at h
  · rename_i a b c d hparts
    cases h
    have hlt : ∀ n ∈ [a, b, c, d], n < 256 := fun n hn =>
      have ⟨_, _, hoctet⟩ := exists_of_mem_mapM hparts n hn
      lt_of_octet? hoctet
    simp only [List.forall_mem_cons] at hlt ⊢
    obtain ⟨ha, hb, hc, hd, -⟩ := hlt
    exact ⟨by omega, by omega, List.forall_mem_nil _⟩
  · cases h

theorem lt_of_readPiece (h : readPiece s = (n, t)) : n < 65536 := by
  rw [readPiece] at h
  obtain ⟨rfl, -⟩ := Prod.mk.inj h
  have hlength : ((s.take 4).takeWhile fun c => (hexValue? c).isSome).length ≤ 4 :=
    Nat.le_trans (List.takeWhile_prefix _).length_le (List.length_take_le ..)
  have hpow : Nat.pow 16 ((s.take 4).takeWhile fun c => (hexValue? c).isSome).length ≤ 65536 :=
    Nat.pow_le_pow_right (by decide) hlength
  exact Nat.lt_of_lt_of_le (Text.hexNumber_lt _) hpow

/-- All pieces that are read are below the bound. -/
theorem lt_of_readPieces (hp : ∀ n ∈ p.pieces, n < 65536) (h : readPieces m p s = some q) :
    ∀ n ∈ q.pieces, n < 65536 := by
  fun_induction readPieces m p s with
  | case1 =>
    cases h
    exact hp
  | case2 => cases h
  | case3 => cases h
  | case4 n p s hgap ih => exact ih hp h
  | case5 n p s _ _ value hread =>
    cases h
    exact List.forall_mem_append.mpr ⟨hp, List.forall_mem_singleton.mpr (lt_of_readPiece hread)⟩
  | case6 => cases h
  | case7 n p s _ _ value t ht hread ih =>
    refine ih (List.forall_mem_append.mpr ⟨hp, List.forall_mem_singleton.mpr ?_⟩) h
    exact lt_of_readPiece hread
  | case8 n p s =>
    obtain ⟨xs, hxs, rfl⟩ := Option.map_eq_some_iff.mp h
    exact List.forall_mem_append.mpr ⟨hp, lt_of_octetPieces? hxs⟩
  | case9 => cases h

theorem isAddress_of_whole? (hp : ∀ n ∈ p.pieces, n < 65536) (h : p.whole? = some pieces) :
    IsAddress pieces := by
  unfold Pieces.whole? at h
  dsimp only at h
  split at h
  · split at h
    · cases h
      exact ⟨‹_›, hp⟩
    · cases h
  · split at h
    · rename_i g _ hlt
      cases h
      refine ⟨?_, ?_⟩
      · simp only [List.length_append, List.length_replicate, List.length_take, List.length_drop]
        omega
      · refine List.forall_mem_append.mpr ⟨List.forall_mem_append.mpr ⟨?_, ?_⟩, ?_⟩
        · exact fun n hn => hp n (List.mem_of_mem_take hn)
        · intro n hn
          rw [List.eq_of_mem_replicate hn]
          decide
        · exact fun n hn => hp n (List.mem_of_mem_drop hn)
    · cases h

/-- What is read is an address. -/
theorem isAddress_of_readIpv6? (h : readIpv6? s = some pieces) : IsAddress pieces := by
  have hread (p : Pieces) (t : List Char) (hp : ∀ n ∈ p.pieces, n < 65536)
      (h : (readPieces 9 p t).bind Pieces.whole? = some pieces) : IsAddress pieces := by
    obtain ⟨q, hq, hwhole⟩ := Option.bind_eq_some_iff.mp h
    exact isAddress_of_whole? (lt_of_readPieces hp hq) hwhole
  unfold readIpv6? at h
  split at h
  · cases h
  · exact hread _ _ (List.forall_mem_nil _) h
  · cases h
  · exact hread _ _ (List.forall_mem_nil _) h

end TaintClient.Url
