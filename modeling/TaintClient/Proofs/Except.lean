/-
  Computations that may fail, one after the other: when they come to something, and what holds of
  whatever they come to (`GivesOnly`) and of whatever they fail with (`FailsWith`). The last section
  is about lists of them.
-/
namespace TaintClient

variable {ε α β : Type} {r : Except ε α} {f : α → Except ε β} {P : ε → Prop}
  {Q : α → Prop}

/-- Two computations, one after the other, come to something if both do. -/
theorem bind_eq_ok {y : β} : r >>= f = .ok y ↔ ∃ x, r = .ok x ∧ f x = .ok y := by
  cases r with
  | error e =>
    constructor
    · intro h
      cases h
    · rintro ⟨x, h, _⟩
      cases h
  | ok x =>
    constructor
    · exact fun h => ⟨x, rfl, h⟩
    · rintro ⟨_, h, hf⟩
      cases h
      exact hf

theorem map_eq_ok {f : α → β} {y : β} : r.map f = .ok y ↔ ∃ x, r = .ok x ∧ f x = y := by
  cases r <;> simp [Except.map]

theorem mapError_eq_ok {ε' : Type} {f : ε → ε'} {x : α} : r.mapError f = .ok x ↔ r = .ok x := by
  cases r with
  | error e => exact ⟨nofun, nofun⟩
  | ok y => exact ⟨fun h => congrArg _ (Except.ok.inj h), fun h => congrArg _ (Except.ok.inj h)⟩

theorem toOption_eq_some {x : α} : r.toOption = some x ↔ r = .ok x := by
  cases r <;> simp [Except.toOption]

/-- Whether a computation comes only to what satisfies `Q`. -/
def GivesOnly (Q : α → Prop) (r : Except ε α) : Prop := ∀ x, r = .ok x → Q x

theorem givesOnly_ok {x : α} (h : Q x) : GivesOnly Q (.ok x : Except ε α) := by
  intro _ hx
  cases hx
  exact h

theorem givesOnly_error (e : ε) : GivesOnly Q (.error e : Except ε α) := nofun

theorem GivesOnly.bind {R : β → Prop} (hr : GivesOnly Q r) (hf : ∀ x, Q x → GivesOnly R (f x)) :
    GivesOnly R (r >>= f) := by
  cases r with
  | error e => exact givesOnly_error e
  | ok x => exact hf x (hr x rfl)

/-- What comes last decides, whatever came before. -/
theorem givesOnly_bind {R : β → Prop} (hf : ∀ x, GivesOnly R (f x)) : GivesOnly R (r >>= f) :=
  GivesOnly.bind (Q := fun _ => True) (fun _ _ => trivial) fun x _ => hf x

/-- Whether a computation fails only with what satisfies `P`. -/
def FailsWith (P : ε → Prop) (r : Except ε α) : Prop := ∀ e, r = .error e → P e

theorem failsWith_ok (x : α) : FailsWith P (.ok x) := nofun

theorem failsWith_error {e : ε} (h : P e) : FailsWith P (.error e : Except ε α) := by
  intro _ he
  cases he
  exact h

theorem FailsWith.bind (hr : FailsWith P r) (hf : ∀ x, FailsWith P (f x)) :
    FailsWith P (r >>= f) := by
  cases r with
  | error e => exact failsWith_error (hr e rfl)
  | ok x => exact hf x

theorem FailsWith.map {g : α → β} (hr : FailsWith P r) : FailsWith P (g <$> r) := by
  cases r with
  | error e => exact failsWith_error (hr e rfl)
  | ok x => exact failsWith_ok (g x)

/-! ## Lists of partial results -/

section Lists

variable {f : α → Option β} {xs : List α} {ys : List β}

theorem mapM_cons_eq_some {x : α} :
    (x :: xs).mapM f = some ys ↔ ∃ y zs, f x = some y ∧ xs.mapM f = some zs ∧ y :: zs = ys := by
  rw [List.mapM_cons]
  constructor
  · intro h
    obtain ⟨y, hy, h⟩ := Option.bind_eq_some_iff.mp h
    obtain ⟨zs, hzs, h⟩ := Option.bind_eq_some_iff.mp h
    exact ⟨y, zs, hy, hzs, Option.some.inj h⟩
  · rintro ⟨y, zs, hy, hzs, rfl⟩
    rw [hy, hzs]
    rfl

/-- What a list of partial results comes from. -/
theorem exists_of_mem_mapM (h : xs.mapM f = some ys) : ∀ y ∈ ys, ∃ x ∈ xs, f x = some y := by
  induction xs generalizing ys with
  | nil =>
    cases h
    exact List.forall_mem_nil _
  | cons x xs ih =>
    obtain ⟨y, zs, hy, hzs, rfl⟩ := mapM_cons_eq_some.mp h
    rw [List.forall_mem_cons]
    refine ⟨⟨x, List.mem_cons_self, hy⟩, fun z hz => ?_⟩
    obtain ⟨w, hw, hf⟩ := ih hzs z hz
    exact ⟨w, List.mem_cons_of_mem x hw, hf⟩

theorem length_of_mapM (h : xs.mapM f = some ys) : ys.length = xs.length := by
  induction xs generalizing ys with
  | nil =>
    cases h
    rfl
  | cons x xs ih =>
    obtain ⟨y, zs, -, hzs, rfl⟩ := mapM_cons_eq_some.mp h
    rw [List.length_cons, List.length_cons, ih hzs]

/-- Results that lead back, one by one, do so as a list. -/
theorem mapM_of_mapM {g : β → Option α} (h : xs.mapM f = some ys)
    (hg : ∀ x ∈ xs, ∀ y, f x = some y → g y = some x) : ys.mapM g = some xs := by
  induction xs generalizing ys with
  | nil =>
    cases h
    rfl
  | cons x xs ih =>
    obtain ⟨y, zs, hy, hzs, rfl⟩ := mapM_cons_eq_some.mp h
    obtain ⟨hx, hxs⟩ := List.forall_mem_cons.mp hg
    exact mapM_cons_eq_some.mpr ⟨x, xs, hx y hy, ih hzs hxs, rfl⟩

theorem mapM_eq_some_self {f : α → Option α} (h : ∀ x ∈ xs, f x = some x) :
    xs.mapM f = some xs := by
  induction xs with
  | nil => rfl
  | cons x xs ih =>
    obtain ⟨hx, hxs⟩ := List.forall_mem_cons.mp h
    exact mapM_cons_eq_some.mpr ⟨x, xs, hx, ih hxs, rfl⟩

end Lists

end TaintClient
