/-
  A response that is written and read again is the same response. The writer writes the members
  that are present, in the order of the fields, without blanks; so what it writes is an object
  whose members write the response, and those are read. `decode_encode` holds of every response,
  so different responses are written differently.
-/
import TaintClient.Proofs.Response.Accepted
import TaintClient.Response.Encode

namespace TaintClient.Response

open Json

/-! ## Members as they are written -/

/-- The value of a field as it is written, if the response has it. -/
def value? (r : Response) : Field → Option (List Char)
  | .data => some (writeText r.data.toList)
  | .title => r.title.map fun s => writeText s.toList
  | .color => r.color.map fun s => writeText s.toList
  | .code => r.code.map fun n => writeInteger n.toInt
  | .status => r.status.map fun s => writeText s.toList

/-- The member of a field, if the response has it. -/
def member? (r : Response) (f : Field) : Option Member :=
  (r.value? f).map fun v => ⟨f.name.toList, v⟩

/-- The members that are written. -/
def written (r : Response) : List Member := Field.all.filterMap r.member?

/-- A member as the writer writes it. -/
def Member.text (m : Member) : List Char := writeText m.name ++ ':' :: m.value

theorem members_eq (r : Response) : r.members = r.written.map Member.text := by
  obtain ⟨_, title, color, code, status⟩ := r
  cases title <;> cases color <;> cases code <;> cases status <;> rfl

/-- A field that the response has is written once, and a field that it lacks is not. -/
theorem valuesOf_written (r : Response) (f : Field) :
    valuesOf r.written f = (r.value? f).toList := by
  have hmember : ∀ g, ((r.member? g).filter fun m => m.name = f.name.toList).map (·.value) =
      if g = f then r.value? g else none := by
    intro g
    unfold member?
    cases r.value? g with
    | none => simp
    | some v =>
      by_cases h : g = f
      · simp [h, Option.filter]
      · have hname : ¬ g.name.toList = f.name.toList := fun he => h (name_injective he)
        simp [h, hname, Option.filter]
  unfold valuesOf written
  rw [List.filter_filterMap, List.map_filterMap]
  simp only [hmember]
  cases f <;> rfl

theorem isText_writeText (s : List Char) : IsText s (writeText s) := .mk (spelling_escape s)

/-- An integer of 64 bits is written as it may be. -/
theorem isInteger_writeInteger (code : Int64) :
    IsInteger code.toInt (writeInteger code.toInt) := by
  have hlo := code.le_toInt
  have hhi := code.toInt_lt
  generalize code.toInt = n at hlo hhi ⊢
  have hs := numeral_toDigits n.natAbs
  have hvalue : Nat.ofDigitChars 10 (Nat.toDigits 10 n.natAbs) 0 = n.natAbs :=
    Nat.ofDigitChars_ten_toDigits
  unfold writeInteger
  by_cases hneg : n < 0
  · rw [if_pos hneg, List.singleton_append]
    exact .negative hs (by rw [hvalue]; omega) hneg hlo
  · rw [if_neg hneg, List.nil_append]
    exact .natural hs (by rw [hvalue]; omega) hhi

theorem held_map {α : Type} {is : α → List Char → Prop} {write : α → List Char}
    (h : ∀ x, is x (write x)) (o : Option α) : Held is o (o.map write).toList := by
  cases o with
  | none => exact .absent
  | some x => exact .value (h x)

/-- The members that are written write the response. -/
theorem writes_written (r : Response) : Writes r.written r := by
  have htext : ∀ s : String, IsString s (writeText s.toList) := fun s => isText_writeText s.toList
  refine ⟨⟨_, valuesOf_written r .data, htext r.data⟩, ?_, ?_, ?_, ?_, ?_⟩
  · exact valuesOf_written r .title ▸ held_map htext r.title
  · exact valuesOf_written r .color ▸ held_map htext r.color
  · exact valuesOf_written r .code ▸ held_map isInteger_writeInteger r.code
  · exact valuesOf_written r .status ▸ held_map htext r.status
  · intro m hm hnone
    obtain ⟨f, _, hf⟩ := List.mem_filterMap.mp hm
    obtain ⟨v, _, rfl⟩ := Option.map_eq_some_iff.mp hf
    rw [ofName?_eq_some_iff.mpr rfl] at hnone
    cases hnone

/-! ## The object -/

theorem isMember_text (m : Member) : IsMember m m.text := by
  have h : IsMember m ('"' :: (m.name.flatMap escapeChar ++
      '"' :: ([] ++ ':' :: ([] ++ m.value)))) := .mk (spelling_escape m.name) nofun nofun
  simpa [Member.text, writeText] using h

theorem followed_intercalate (b : Bracket) (e : List Char) (es : List (List Char)) :
    ∃ t, Followed b es t ∧ [','].intercalate (e :: es) ++ [b.closing] = e ++ t := by
  induction es generalizing e with
  | nil => exact ⟨[b.closing], .close (u := []) nofun, by simp⟩
  | cons e' es ih =>
    obtain ⟨t, ht, h⟩ := ih e'
    refine ⟨_, .more (u := []) (w := []) nofun nofun ht, ?_⟩
    rw [List.intercalate_cons_cons, List.append_assoc, List.append_assoc, h]
    rfl

theorem enclosed_intercalate (b : Bracket) (es : List (List Char)) :
    Enclosed b es (b.opening :: [','].intercalate es ++ [b.closing]) := by
  cases es with
  | nil => exact .empty (u := []) nofun
  | cons e es =>
    obtain ⟨t, ht, h⟩ := followed_intercalate b e es
    rw [List.cons_append, h]
    exact .entries (u := []) nofun ht

theorem isObject_encode (r : Response) : IsObject r r.encode.toList := by
  rw [encode, String.toList_ofList, members_eq]
  refine .mk ?_ (enclosed_intercalate .object _) (writes_written r)
  rw [List.forall₂_map_right_iff, List.forall₂_same]
  exact fun m _ => isMember_text m

theorem decode_of_encode (r : Response) : decode r.encode = .ok r := by
  have h := Padded.mk (u := []) (w := []) nofun (isObject_encode r) nofun
  rw [List.nil_append, List.append_nil] at h
  exact decode_eq_ok_iff.mpr (.inl h)

/-- **Reading undoes writing.** Every response is read as it was written, whatever its texts, its
code and the members that it lacks; so no two responses are written alike. -/
theorem decode_encode :
    (∀ r : Response, decode r.encode = .ok r) ∧ Function.Injective encode := by
  refine ⟨decode_of_encode, fun q r h => ?_⟩
  have hok : (.ok q : Except Fault Response) = .ok r := by
    rw [← decode_of_encode q, h, decode_of_encode r]
  exact Except.ok.inj hok

/-- Marks and controls, a present but empty text, and the least code. -/
example :
    encode { data := "\"\n\x00", title := some "", code := some Int64.minValue } =
      "\x7b\"data\":\"\\\"\\n\\u0000\",\"title\":\"\",\"code\":-9223372036854775808\x7d" := by
  decide +kernel

end TaintClient.Response
