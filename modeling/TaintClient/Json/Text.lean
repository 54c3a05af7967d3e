/-
  Reading and writing JSON strings. A reader is given the cursor behind the opening quotation
  mark and answers with the text and the cursor behind the closing one.
-/
import TaintClient.Json.Fault

namespace TaintClient.Json

/-! ## Reading -/

/-- The number written by four hexadecimal digits. -/
def hexFour : List Char → Option Nat
  | a :: b :: c :: d :: _ => do
    let a ← Text.hexValue? a
    let b ← Text.hexValue? b
    let c ← Text.hexValue? c
    let d ← Text.hexValue? d
    pure (((a * 16 + b) * 16 + c) * 16 + d)
  | _ => none

/-- Reads four hexadecimal digits. Four octets are taken before they are looked at. -/
def readHexFour (c : Cursor) : Except Fault (Nat × Cursor) :=
  if (c.rest.take 4).foldl (fun n x => n + x.utf8Size) 0 < 4 then
    .error ⟨.endInText, c.endPlace⟩
  else
    match hexFour c.rest with
    | none => .error ⟨.badEscape, c.place.afterOctets 4 c.rest⟩
    | some n => .ok (n, c.next.next.next.next)

/-- The character of a two-character escape. -/
def simpleEscape : Char → Option Char
  | '"' => some '"'
  | '\\' => some '\\'
  | '/' => some '/'
  | 'b' => some '\x08'
  | 'f' => some '\x0c'
  | 'n' => some '\n'
  | 'r' => some '\r'
  | 't' => some '\t'
  | _ => none

/-- Whether a number is the first half of a surrogate pair. -/
def isHighSurrogate (n : Nat) : Bool := 0xD800 ≤ n && n ≤ 0xDBFF

/-- Whether a number is the second half of a surrogate pair. -/
def isLowSurrogate (n : Nat) : Bool := 0xDC00 ≤ n && n ≤ 0xDFFF

/-- Steps over `x`; its absence leaves a surrogate without its partner. -/
def expectPartner (x : Char) (c : Cursor) : Except Fault Cursor :=
  match c.rest with
  | [] => .error ⟨.endInText, c.place⟩
  | y :: _ => if y = x then .ok c.next else .error ⟨.unpairedSurrogate, c.peekPlace⟩

/-- Reads what follows a backslash. A surrogate needs its partner, in the right order. -/
def readEscape (c : Cursor) : Except Fault (Char × Cursor) :=
  match c.rest with
  | [] => .error ⟨.endInText, c.place⟩
  | x :: _ =>
    if x = 'u' then do
      let (n, d) ← readHexFour c.next
      if isLowSurrogate n then .error ⟨.loneSurrogate, d.place⟩
      else if isHighSurrogate n then
        let d ← expectPartner '\\' d
        let d ← expectPartner 'u' d
        let (m, d) ← readHexFour d
        if isLowSurrogate m then
          .ok (Char.ofNat (0x10000 + (n - 0xD800) * 0x400 + (m - 0xDC00)), d)
        else .error ⟨.loneSurrogate, d.place⟩
      else .ok (Char.ofNat n, d)
    else
      match simpleEscape x with
      | some y => .ok (y, c.next)
      | none => .error ⟨.badEscape, c.peekPlace⟩

theorem left_readHexFour {c d : Cursor} {n : Nat} (h : readHexFour c = .ok (n, d)) :
    d.left ≤ c.left := by
  unfold readHexFour at h
  split at h
  · cases h
  · split at h
    · cases h
    · injection h with h
      injection h with _ h
      rw [← h]
      exact Nat.le_trans (Cursor.left_next_le _) (Nat.le_trans (Cursor.left_next_le _)
        (Nat.le_trans (Cursor.left_next_le _) (Cursor.left_next_le _)))

theorem left_expectPartner {c d : Cursor} {x : Char} (h : expectPartner x c = .ok d) :
    d.left ≤ c.left := by
  unfold expectPartner at h
  split at h
  · cases h
  · split at h
    · injection h with h
      rw [← h]
      exact Cursor.left_next_le _
    · cases h

theorem left_readEscape {c d : Cursor} {x : Char} (h : readEscape c = .ok (x, d)) :
    d.left < c.left := by
  unfold readEscape at h
  split at h
  · cases h
  · rename_i y ys hy
    have hn := Cursor.left_next hy
    split at h
    · cases h1 : readHexFour c.next with
      | error e => simp [h1, bind, Except.bind] at h
      | ok r =>
        obtain ⟨n, d1⟩ := r
        have l1 := left_readHexFour h1
        simp only [h1, bind, Except.bind] at h
        split at h
        · cases h
        · split at h
          · cases h2 : expectPartner '\\' d1 with
            | error e => simp [h2] at h
            | ok d2 =>
              have l2 := left_expectPartner h2
              simp only [h2] at h
              cases h3 : expectPartner 'u' d2 with
              | error e => simp [h3] at h
              | ok d3 =>
                have l3 := left_expectPartner h3
                simp only [h3] at h
                cases h4 : readHexFour d3 with
                | error e => simp [h4] at h
                | ok r =>
                  obtain ⟨m, d4⟩ := r
                  have l4 := left_readHexFour h4
                  simp only [h4] at h
                  split at h
                  · injection h with h
                    injection h with _ h
                    subst h
                    omega
                  · cases h
          · injection h with h
            injection h with _ h
            subst h
            omega
    · split at h
      · injection h with h
        injection h with _ h
        subst h
        exact hn
      · cases h

/-- Reads a string behind its opening mark. -/
def readText (c : Cursor) : Except Fault (List Char × Cursor) :=
  match _hc : c.rest with
  | [] => .error ⟨.endInText, c.place⟩
  | x :: _ =>
    if x = '"' then .ok ([], c.next)
    else if x = '\\' then
      match _he : readEscape c.next with
      | .error e => .error e
      | .ok (y, d) => do
        let (s, e) ← readText d
        .ok (y :: s, e)
    else if x.toNat < 0x20 then .error ⟨.controlCharacter, c.place.after x⟩
    else do
      let (s, e) ← readText c.next
      .ok (x :: s, e)
termination_by c.left
decreasing_by
  · exact Nat.lt_trans (left_readEscape _he) (Cursor.left_next _hc)
  · exact Cursor.left_next _hc

/-- Steps over what follows a backslash in a string that is not wanted; surrogates may stand
alone there. -/
def skipEscape (c : Cursor) : Except Fault Cursor :=
  match c.rest with
  | [] => .error ⟨.endInText, c.place⟩
  | x :: _ =>
    if x = 'u' then (·.2) <$> readHexFour c.next
    else
      match simpleEscape x with
      | some _ => .ok c.next
      | none => .error ⟨.badEscape, c.peekPlace⟩

theorem left_skipEscape {c d : Cursor} (h : skipEscape c = .ok d) : d.left < c.left := by
  unfold skipEscape at h
  split at h
  · cases h
  · rename_i y ys hy
    have hn := Cursor.left_next hy
    split at h
    · cases h1 : readHexFour c.next with
      | error e => simp [h1, Functor.map, Except.map] at h
      | ok r =>
        obtain ⟨n, d1⟩ := r
        have l1 := left_readHexFour h1
        simp only [h1, Functor.map, Except.map] at h
        injection h with h
        subst h
        omega
    · split at h
      · injection h with h
        subst h
        exact hn
      · cases h

/-- Steps over a string behind its opening mark. -/
def skipText (c : Cursor) : Except Fault Cursor :=
  match _hc : c.rest with
  | [] => .error ⟨.endInText, c.place⟩
  | x :: _ =>
    if x = '"' then .ok c.next
    else if x = '\\' then
      match _he : skipEscape c.next with
      | .error e => .error e
      | .ok d => skipText d
    else if x.toNat < 0x20 then .error ⟨.controlCharacter, c.place⟩
    else skipText c.next
termination_by c.left
decreasing_by
  · exact Nat.lt_trans (left_skipEscape _he) (Cursor.left_next _hc)
  · exact Cursor.left_next _hc

theorem left_skipText {c d : Cursor} (h : skipText c = .ok d) : d.left < c.left := by
  fun_induction skipText c generalizing d with
  | case1 => cases h
  | case2 c xs hx =>
    injection h with h
    subst h
    exact Cursor.left_next hx
  | case3 => cases h
  | case4 c xs e he hx _ ih =>
    have := ih h
    have := left_skipEscape he
    have := Cursor.left_next hx
    omega
  | case5 => cases h
  | case6 c x xs hx _ _ _ ih =>
    have := ih h
    have := Cursor.left_next hx
    omega

/-! ## Writing -/

/-- How a character is written in a string: marks, backslashes and controls are escaped, all else
stands for itself. -/
def escapeChar (c : Char) : List Char :=
  if c = '"' then ['\\', '"']
  else if c = '\\' then ['\\', '\\']
  else if c = '\x08' then ['\\', 'b']
  else if c = '\x0c' then ['\\', 'f']
  else if c = '\n' then ['\\', 'n']
  else if c = '\r' then ['\\', 'r']
  else if c = '\t' then ['\\', 't']
  else if c.toNat < 0x20 then
    ['\\', 'u', '0', '0', Nat.digitChar (c.toNat / 16), Nat.digitChar (c.toNat % 16)]
  else [c]

/-- A text as a JSON string. -/
def writeText (s : List Char) : List Char := '"' :: s.flatMap escapeChar ++ ['"']

end TaintClient.Json
