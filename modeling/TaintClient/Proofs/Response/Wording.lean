/-
  Why a body is no response is said on one line, whatever the body is: what the reader of responses
  tells as it is are the names of the known members and the kinds of value that it expects.
-/
import TaintClient.Proofs.Json.Wording
import TaintClient.Response.Decode

namespace TaintClient.Response

open Json
open Text (OneLine)

theorem oneLine_name (f : Field) : OneLine f.name.toList := by
  cases f <;> decide

/-! ## Members -/

theorem tame_readData (c : Cursor) : FailsWith IsTame (readData c) := by
  have hexpected : OneLine "a string".toList := by decide
  exact (tame_readString hexpected c).bind fun _ => failsWith_ok _

theorem tame_readCode (c : Cursor) : FailsWith IsTame (readCode c) :=
  (tame_readInteger c).bind fun _ => failsWith_ok _

theorem tame_readField (d : Draft) (f : Field) (c : Cursor) :
    FailsWith IsTame (readField d f c) := by
  cases f with
  | data => exact (tame_readData c).bind fun _ => failsWith_ok _
  | title => exact (tame_readOptional tame_readData c).bind fun _ => failsWith_ok _
  | color => exact (tame_readOptional tame_readData c).bind fun _ => failsWith_ok _
  | code => exact (tame_readOptional tame_readCode c).bind fun _ => failsWith_ok _
  | status => exact (tame_readOptional tame_readData c).bind fun _ => failsWith_ok _

theorem tame_nextName (first : Bool) (c : Cursor) : FailsWith IsTame (nextName first c) := by
  unfold nextName
  dsimp only
  split
  · exact failsWith_plain rfl
  · split
    · exact failsWith_ok _
    · split
      · exact failsWith_plain rfl
      · split
        · exact failsWith_plain rfl
        · split
          · exact failsWith_ok _
          · split <;> exact failsWith_plain rfl

theorem tame_readMember (d : Draft) (c : Cursor) : FailsWith IsTame (readMember d c) := by
  refine (tame_readText c).bind fun ⟨name, c⟩ => ?_
  dsimp only
  split
  · exact (tame_expectColon c).bind fun _ => (tame_skipValue _).bind fun _ => failsWith_ok _
  · rename_i f _
    split
    · exact failsWith_error (List.forall_mem_singleton.mpr (oneLine_name f))
    · exact (tame_expectColon c).bind fun _ => tame_readField d f _

theorem tame_readMembers (n : Nat) (first : Bool) (d : Draft) (c : Cursor) :
    FailsWith IsTame (readMembers n first d c) := by
  induction n generalizing first d c with
  | zero => exact failsWith_plain rfl
  | succ n ih =>
    refine (tame_nextName first c).bind fun ⟨more, c⟩ => ?_
    dsimp only
    split
    · exact (tame_readMember d c).bind fun ⟨d, c⟩ => ih false d c
    · exact failsWith_ok _

theorem tame_readObject (c : Cursor) : FailsWith IsTame (readObject c) := by
  refine (tame_readMembers _ _ _ _).bind fun ⟨d, c⟩ => ?_
  dsimp only
  split
  · exact failsWith_error (List.forall_mem_singleton.mpr (oneLine_name .data))
  · exact failsWith_ok _

/-! ## Values in order -/

theorem tame_nextItem (first : Bool) (c : Cursor) : FailsWith IsTame (nextItem first c) := by
  unfold nextItem
  dsimp only
  split
  · exact failsWith_plain rfl
  · split
    · exact failsWith_ok _
    · split
      · exact failsWith_ok _
      · split
        · split
          · exact failsWith_plain rfl
          · split
            · exact failsWith_plain rfl
            · exact failsWith_ok _
        · exact failsWith_plain rfl

theorem tame_readItems (fs : List Field) (first : Bool) (d : Draft) (c : Cursor) :
    FailsWith IsTame (readItems fs first d c) := by
  induction fs generalizing first d c with
  | nil => exact failsWith_ok _
  | cons f fs ih =>
    refine (tame_nextItem first c).bind fun ⟨more, c⟩ => ?_
    dsimp only
    split
    · exact (tame_readField d f c).bind fun ⟨d, c⟩ => ih false d c
    · exact failsWith_ok _

theorem tame_closeList (c : Cursor) : FailsWith IsTame (closeList c) := by
  unfold closeList
  dsimp only
  split
  · exact failsWith_plain rfl
  · split
    · exact failsWith_ok _
    · split
      · split <;> exact failsWith_plain rfl
      · exact failsWith_plain rfl

theorem tame_readList (c : Cursor) : FailsWith IsTame (readList c) := by
  have hexpected : OneLine "struct AnalysisResponse with 5 elements".toList := by decide
  refine (tame_readItems _ _ _ _).bind fun ⟨d, c⟩ => ?_
  dsimp only
  split
  · exact failsWith_error (List.forall_mem_singleton.mpr hexpected)
  · exact (tame_closeList c).bind fun _ => failsWith_ok _

/-! ## The whole body -/

theorem tame_read (c : Cursor) : FailsWith IsTame (read c) := by
  have hexpected : OneLine "struct AnalysisResponse".toList := by decide
  unfold read
  dsimp only
  split
  · exact failsWith_plain rfl
  · split
    · exact tame_readList _
    · split
      · exact tame_readObject _
      · exact failsWith_error (isTame_wrongType hexpected _)

/-- Why a text is no response is said on one line. -/
theorem oneLine_of_decode {s : String} {f : Fault} (h : decode s = .error f) :
    OneLine f.message := by
  have htame : FailsWith IsTame (decode s) :=
    (tame_read _).bind fun _ => (tame_expectEnd _).bind fun _ => failsWith_ok _
  exact (htame f h).oneLine

end TaintClient.Response
