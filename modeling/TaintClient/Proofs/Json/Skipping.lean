/-
  Values that are stepped over. The reader of such a value holds its open brackets in a list, and
  behind a value it goes on with them (`resume`). So both directions are stated with the brackets
  that stay open: `valueSound_behindSound` finds a value in front of what the reader goes on with,
  and `WellFormed.isSteppedOver` goes over any value up to there. Without open brackets, stepping
  over a value takes exactly what the grammar calls a value.
-/
import TaintClient.Proofs.Json.Scalar

namespace TaintClient.Json

variable {b : Bracket} {bs : List Bracket} {c d : Cursor} {first : Bool} {s t u v w i e : List Char}

/-- Wherever the text `s` stands, one step does what another one does at the text `t`. -/
def Leads (step next : Cursor → Except Fault Cursor) (s t : List Char) : Prop :=
  ∀ p, ∃ q, step ⟨s, p⟩ = next ⟨t, q⟩

theorem Leads.trans {f g h : Cursor → Except Fault Cursor} (hfg : Leads f g s t)
    (hgh : Leads g h t u) : Leads f h s u := fun p => by
  obtain ⟨q, hq⟩ := hfg p
  obtain ⟨r, hr⟩ := hgh q
  exact ⟨r, hq.trans hr⟩

/-! ## The steps of the reader -/

/-- Goes on with the open brackets, behind a value or right behind the last opening sign. -/
def resume (bs : List Bracket) (first : Bool) (c : Cursor) : Except Fault Cursor :=
  match closeBrackets bs first c with
  | .error e => .error e
  | .ok (none, d) => .ok d
  | .ok (some bs, d) => skipOpen bs d

/-- Steps over an entry of the innermost bracket, and goes on. -/
def skipEntry (b : Bracket) (bs : List Bracket) (c : Cursor) : Except Fault Cursor :=
  skipIntro b c >>= skipOpen (b :: bs)

theorem skipOpen_eq (bs : List Bracket) (c : Cursor) : skipOpen bs c =
    skipScalar c.skipSpace >>= fun r => resume (r.1.toList ++ bs) r.1.isSome r.2 := by
  fun_cases skipOpen bs c with
  | case1 f hs =>
    rw [hs]
    rfl
  | case2 o d hs f hc =>
    rw [hs]
    show _ = resume _ _ _
    rw [resume, hc]
  | case3 o d hs e hc =>
    rw [hs]
    show _ = resume _ _ _
    rw [resume, hc]
  | case4 o d hs bs' e hc =>
    rw [hs]
    show _ = resume _ _ _
    rw [resume, hc]

theorem resume_cons (b : Bracket) (bs : List Bracket) (first : Bool) (c : Cursor) :
    resume (b :: bs) first c =
      match follow b first c with
      | .error f => .error f
      | .ok (.value d) => skipEntry b bs d
      | .ok (.closed d) => resume bs false d := by
  rw [resume, closeBrackets]
  cases follow b first c with
  | error f => rfl
  | ok r =>
    cases r with
    | closed d => rfl
    | value d =>
      unfold skipEntry
      dsimp only
      cases skipIntro b d <;> rfl

theorem skipEntry_skipSpace (b : Bracket) (bs : List Bracket) (c : Cursor) :
    skipEntry b bs c.skipSpace = skipEntry b bs c := by
  unfold skipEntry
  cases b with
  | list =>
    show skipOpen _ c.skipSpace = skipOpen _ c
    rw [skipOpen_eq, skipOpen_eq, Cursor.skipSpace_idem]
  | object =>
    have hname : skipName c.skipSpace = skipName c := by
      unfold skipName
      rw [Cursor.skipSpace_idem]
    show skipName c.skipSpace >>= _ = skipName c >>= _
    rw [hname]

/-! ## What is stepped over is well-formed -/

theorem exists_expectColon (h : expectColon c = .ok d) :
    ∃ u, Blank u ∧ c.rest = u ++ ':' :: d.rest := by
  obtain ⟨u, hu, hrest, _⟩ := Cursor.exists_skipSpace c
  refine ⟨u, hu, hrest.trans ?_⟩
  unfold expectColon at h
  dsimp only at h
  split at h
  · cases h
  · rename_i x xs hx
    split at h
    · rename_i hcolon
      cases h
      rw [Cursor.rest_next (congrArg List.head? hx), hcolon]
    · cases h

theorem exists_skipIntro (h : skipIntro b c = .ok d) : ∃ i, Intro b i ∧ c.rest = i ++ d.rest := by
  cases b with
  | list =>
    cases h
    exact ⟨[], .list (by simp [Blank]), rfl⟩
  | object =>
    obtain ⟨u, hu, hrest, _⟩ := Cursor.exists_skipSpace c
    simp only [skipIntro, skipName] at h
    split at h
    · cases h
    · rename_i x xs hx
      split at h
      · rename_i hquote
        obtain ⟨f, hf, hcolon⟩ := bind_eq_ok.mp h
        obtain ⟨n, hn, hname⟩ := exists_skipText hf
        obtain ⟨v, hv, hd⟩ := exists_expectColon hcolon
        refine ⟨_, .object hu hn hv (w := []) (by simp [Blank]), ?_⟩
        rw [hrest, Cursor.rest_next (congrArg List.head? hx), hquote, hname, hd]
        simp
      · cases h

theorem Intro.blank_append (hi : Intro b i) (hu : Blank u) : Intro b (u ++ i) := by
  cases hi with
  | list hv => exact .list (hu.append hv)
  | object hv hn hv' hw =>
    rw [← List.append_assoc]
    exact .object (hu.append hv) hn hv' hw

theorem Intro.append_blank (hi : Intro b i) (hu : Blank u) : Intro b (i ++ u) := by
  cases hi with
  | list hv => exact .list (hv.append hu)
  | object hv hn hv' hw =>
    simp only [List.append_assoc, List.cons_append]
    exact .object hv hn hv' (hw.append hu)

theorem WellFormed.blank_append (hw : WellFormed (.entries b) w) (hu : Blank u) :
    WellFormed (.entries b) (u ++ w) := by
  cases hw with
  | entry hi hv hw =>
    rw [← List.append_assoc]
    exact .entry (hi.blank_append hu) hv hw

theorem follow_closed (h : follow b first c = .ok (.closed d)) :
    ∃ u, Blank u ∧ c.rest = u ++ b.closing :: d.rest := by
  obtain ⟨u, hu, hrest, _⟩ := Cursor.exists_skipSpace c
  refine ⟨u, hu, hrest.trans ?_⟩
  simp only [follow] at h
  split at h
  · cases h
  · rename_i x xs hx
    split_ifs at h with hclosing
    · cases h
      rw [Cursor.rest_next (congrArg List.head? hx), hclosing]
    all_goals cases h

theorem follow_value (h : follow b first c = .ok (.value d)) :
    ∃ u, Blank u ∧
      c.rest = u ++ (if first then d.rest else ',' :: d.rest) ∧ d.left ≤ c.left := by
  obtain ⟨u, hu, hrest, _⟩ := Cursor.exists_skipSpace c
  refine ⟨u, hu, hrest.trans ?_, left_follow h⟩
  simp only [follow] at h
  split at h
  · cases h
  · rename_i x xs hx
    split_ifs at h with hclosing hfirst hcomma
    · cases h
    · cases h
      rw [if_pos hfirst]
    · cases h
      rw [if_neg hfirst, Cursor.rest_next (congrArg List.head? hx), hcomma]

/-- What a value that was stepped over leaves behind. -/
def ValueSound (c : Cursor) : Prop :=
  ∀ bs d, skipOpen bs c = .ok d → ∃ u v e, Blank u ∧ Value v ∧ c.rest = u ++ (v ++ e.rest) ∧
    resume bs false e = .ok d

/-- What the rest of a bracket that was stepped over leaves behind. -/
def BehindSound (c : Cursor) : Prop :=
  ∀ b bs d, resume (b :: bs) false c = .ok d → ∃ w e, WellFormed (.behind b) w ∧
    c.rest = w ++ e.rest ∧ resume bs false e = .ok d

/-- What the entries of a bracket that were stepped over leave behind. -/
def EntriesSound (c : Cursor) : Prop :=
  ∀ b bs d, skipEntry b bs c = .ok d → ∃ w e, WellFormed (.entries b) w ∧
    c.rest = w ++ e.rest ∧ resume bs false e = .ok d

theorem entriesSound {n : Nat} (ih : ∀ c : Cursor, c.left ≤ n → ValueSound c ∧ BehindSound c)
    (hc : c.left ≤ n) : EntriesSound c := by
  intro b bs d h
  obtain ⟨f, hintro, hopen⟩ := bind_eq_ok.mp h
  obtain ⟨i, hi, hrest⟩ := exists_skipIntro hintro
  have hf : f.left ≤ n := Nat.le_trans (left_skipIntro hintro) hc
  obtain ⟨u, v, e, hu, hv, hfrest, hbehind⟩ := (ih f hf).1 (b :: bs) d hopen
  have he : e.left ≤ n := by
    have := congrArg List.length hfrest
    simp only [List.length_append] at this
    unfold Cursor.left at hf ⊢
    omega
  obtain ⟨w, e', hw, herest, hd⟩ := (ih e he).2 b bs d hbehind
  refine ⟨_, e', .entry (hi.append_blank hu) hv hw, ?_, hd⟩
  rw [hrest, hfrest, herest]
  simp only [List.append_assoc]

/-- Each of the two goes on with a shorter text, so one induction on the length carries both. -/
theorem valueSound_behindSound (n : Nat) :
    ∀ c : Cursor, c.left ≤ n → ValueSound c ∧ BehindSound c := by
  induction n with
  | zero =>
    intro c hc
    have hrest : c.rest = [] := List.eq_nil_of_length_eq_zero (Nat.le_zero.mp hc)
    obtain ⟨s, p⟩ := c
    dsimp only at hrest
    subst hrest
    constructor
    · intro bs d h
      rw [skipOpen_eq] at h
      cases h
    · intro b bs d h
      rw [resume_cons] at h
      cases h
  | succ n ih =>
    intro c hc
    constructor
    · intro bs d h
      obtain ⟨u, hu, hrest, _⟩ := Cursor.exists_skipSpace c
      rw [skipOpen_eq] at h
      obtain ⟨⟨o, e⟩, hscalar, hresume⟩ := bind_eq_ok.mp h
      have hlt : e.left < c.left :=
        Nat.lt_of_lt_of_le (left_skipScalar hscalar) (Cursor.left_skipSpace c)
      obtain ⟨rfl, v, hv, hskip⟩ | ⟨b, rfl, hskip⟩ := skipScalar_cases hscalar
      · exact ⟨u, v, e, hu, .scalar hv, by rw [hrest, hskip], hresume⟩
      · have hresume : resume (b :: bs) true e = .ok d := hresume
        rw [resume_cons] at hresume
        split at hresume
        · cases hresume
        · rename_i f hf
          obtain ⟨u', hu', herest, hle⟩ := follow_value hf
          have hfleft : f.left ≤ n := by omega
          obtain ⟨w, e', hw, hfrest, hd⟩ := entriesSound ih hfleft b bs d hresume
          refine ⟨u, _, e', hu, .bracket (hw.blank_append hu'), ?_, hd⟩
          have herest : e.rest = u' ++ f.rest := herest
          rw [hrest, hskip, herest, hfrest]
          simp
        · rename_i f hf
          obtain ⟨u', hu', herest⟩ := follow_closed hf
          refine ⟨u, _, f, hu, .empty b hu', ?_, hresume⟩
          rw [hrest, hskip, herest]
          simp
    · intro b bs d h
      rw [resume_cons] at h
      split at h
      · cases h
      · rename_i f hf
        obtain ⟨u, hu, hrest, _⟩ := follow_value hf
        have hrest : c.rest = u ++ ',' :: f.rest := hrest
        have hfleft : f.left ≤ n := by
          have := congrArg List.length hrest
          simp only [List.length_append, List.length_cons] at this
          unfold Cursor.left at hc ⊢
          omega
        obtain ⟨w, e, hw, hfrest, hd⟩ := entriesSound ih hfleft b bs d h
        refine ⟨_, e, .more hu hw, ?_, hd⟩
        rw [hrest, hfrest]
        simp
      · rename_i f hf
        obtain ⟨u, hu, hrest⟩ := follow_closed hf
        refine ⟨_, f, .close hu, ?_, h⟩
        rw [hrest]
        simp

/-! ## What is well-formed is stepped over -/

theorem passes_expectColon (hu : Blank u) (t : List Char) :
    Passes expectColon (u ++ ':' :: t) t := by
  intro p
  obtain ⟨q, hq⟩ := Cursor.skipSpace_append hu (t := ':' :: t) (by simp [Cursor.isSpace]) p
  exact ⟨q.after ':', by simp only [expectColon, hq, if_true, Cursor.next_cons]⟩

/-- What stands before a value is stepped over, blanks right before it apart. -/
theorem Intro.passes (hi : Intro b i) :
    ∃ u, Blank u ∧ ∀ t, Passes (skipIntro b) (i ++ t) (u ++ t) := by
  cases hi with
  | list hu => exact ⟨i, hu, fun t p => ⟨p, rfl⟩⟩
  | @object u n v w hu hn hv hw =>
    refine ⟨w, hw, fun t p => ?_⟩
    obtain ⟨q, hq⟩ := Cursor.skipSpace_append hu
      (t := '"' :: (n ++ '"' :: (v ++ ':' :: (w ++ t)))) (by simp [Cursor.isSpace]) p
    obtain ⟨r, hr⟩ := passes_skipText hn (v ++ ':' :: (w ++ t)) (q.after '"')
    obtain ⟨r', hr'⟩ := passes_expectColon hv (w ++ t) r
    refine ⟨r', ?_⟩
    simp only [List.append_assoc, List.cons_append, skipIntro, skipName, hq, if_true,
      Cursor.next_cons, hr, hr', bind, Except.bind]

theorem Bracket.isSpace_closing (b : Bracket) : Cursor.isSpace b.closing = false := by
  cases b <;> decide

/-- Behind blanks, the closing sign closes the innermost bracket. -/
theorem leads_resume_closing (hu : Blank u) (b : Bracket) (bs : List Bracket) (first : Bool)
    (t : List Char) : Leads (resume (b :: bs) first) (resume bs false) (u ++ b.closing :: t) t := by
  intro p
  obtain ⟨q, hq⟩ := Cursor.skipSpace_append hu (t := b.closing :: t)
    (by simp [b.isSpace_closing]) p
  refine ⟨q.after b.closing, ?_⟩
  rw [resume_cons]
  simp only [follow, hq, if_true, Cursor.next_cons]

theorem Bracket.comma_ne_closing (b : Bracket) : ',' ≠ b.closing := by
  cases b <;> decide

/-- Behind blanks, a comma leads to a further entry. -/
theorem leads_resume_comma (hu : Blank u) (b : Bracket) (bs : List Bracket) (t : List Char) :
    Leads (resume (b :: bs) false) (skipEntry b bs) (u ++ ',' :: t) t := by
  intro p
  obtain ⟨q, hq⟩ := Cursor.skipSpace_append hu (t := ',' :: t) (by simp [Cursor.isSpace]) p
  refine ⟨q.after ',', ?_⟩
  rw [resume_cons]
  simp only [follow, hq, b.comma_ne_closing, if_false, if_true, Bool.false_eq_true,
    Cursor.next_cons]

/-- Entries begin with something else than their closing sign, blanks apart. -/
theorem WellFormed.begins_entries (h : WellFormed (.entries b) e) :
    ∃ u x s, Blank u ∧ e = u ++ x :: s ∧ Cursor.isSpace x = false ∧ x ≠ b.closing := by
  cases h with
  | entry hi hv hw =>
    cases hi with
    | list hu =>
      obtain ⟨x, s, rfl, hx⟩ := Value.begins hv
      exact ⟨_, x, _, hu, rfl, hx⟩
    | object hu hn hv' hw' =>
      exact ⟨_, '"', _, hu, by rw [List.append_assoc]; rfl, by decide⟩

/-- Right behind the opening sign, there being entries, the first one is stepped over. -/
theorem leads_resume_entries (h : WellFormed (.entries b) e) (bs : List Bracket)
    (t : List Char) : Leads (resume (b :: bs) true) (skipEntry b bs) (e ++ t) (e ++ t) := by
  obtain ⟨u, x, s, hu, rfl, hspace, hclosing⟩ := h.begins_entries
  intro p
  refine ⟨p, ?_⟩
  rw [← skipEntry_skipSpace, List.append_assoc, List.cons_append]
  obtain ⟨q, hq⟩ := Cursor.skipSpace_append hu (t := x :: (s ++ t)) (by simp [hspace]) p
  rw [resume_cons]
  simp only [follow, hq, hclosing, if_false, if_true]

/-- What stepping over a part of the grammar means, the brackets `bs` being open around it. -/
def Part.IsSteppedOver (s : List Char) : Part → Prop
  | .value => ∀ bs u t, Blank u → EndsNumber t →
    Leads (skipOpen bs) (resume bs false) (u ++ (s ++ t)) t
  | .entries b => ∀ bs t, Leads (skipEntry b bs) (resume bs false) (s ++ t) t
  | .behind b => ∀ bs t, Leads (resume (b :: bs) false) (resume bs false) (s ++ t) t

/-- Stepping over a scalar or an opening sign, behind blanks. -/
theorem leads_skipOpen_of_reads {o : Option Bracket} (hu : Blank u)
    (hs : ∀ x, s.head? = some x → Cursor.isSpace x = false) (h : Reads skipScalar s o t) :
    Leads (skipOpen bs) (resume (o.toList ++ bs) o.isSome) (u ++ s) t := by
  intro p
  obtain ⟨q, hq⟩ := Cursor.skipSpace_append hu hs p
  obtain ⟨r, hr⟩ := h q
  refine ⟨r, ?_⟩
  rw [skipOpen_eq, hq, hr]
  rfl

theorem Begins.head? {p : Char → Prop} (h : Begins p s) : ∀ x, s.head? = some x → p x := by
  obtain ⟨y, u, rfl, hy⟩ := h
  intro x hx
  obtain rfl := Option.some_inj.mp hx
  exact hy

/-- Every part of the grammar is stepped over, by induction on how it is made up. -/
theorem WellFormed.isSteppedOver {part : Part} (h : WellFormed part s) : part.IsSteppedOver s := by
  induction h with
  | @scalar v hv =>
    intro bs u t hu ht
    have hhead := ((Value.begins (.scalar hv)).append t).head?
    exact leads_skipOpen_of_reads hu (fun x hx => (hhead x hx).1) (reads_skipScalar hv ht)
  | @empty b u' hu' =>
    intro bs u t hu _
    have hhead := ((Value.begins (.empty b hu')).append t).head?
    have hclose := leads_resume_closing hu' b bs true t
    rw [List.append_cons] at hclose
    exact (leads_skipOpen_of_reads hu (fun x hx => (hhead x hx).1)
      (reads_skipScalar_bracket b _)).trans hclose
  | @bracket b e he ih =>
    intro bs u t hu _
    have hhead := ((Value.begins (.bracket he)).append t).head?
    exact ((leads_skipOpen_of_reads hu (fun x hx => (hhead x hx).1)
      (reads_skipScalar_bracket b _)).trans (leads_resume_entries he bs t)).trans (ih bs t)
  | @entry b i v w hi hv hw ihv ihw =>
    intro bs t
    obtain ⟨u, hu, hpass⟩ := hi.passes
    rw [List.append_assoc, List.append_assoc]
    have hvalue := ihv (b :: bs) u (w ++ t) hu (hw.endsNumber t)
    intro p
    obtain ⟨q, hq⟩ := hpass (v ++ (w ++ t)) p
    obtain ⟨r, hr⟩ := (hvalue.trans (ihw bs t)) q
    refine ⟨r, ?_⟩
    rw [skipEntry, hq]
    exact hr
  | @close b u hu =>
    intro bs t
    rw [List.append_assoc, List.singleton_append]
    exact leads_resume_closing hu b bs false t
  | @more b u e hu he ih =>
    intro bs t
    rw [List.append_assoc, List.cons_append]
    exact (leads_resume_comma hu b bs (e ++ t)).trans (ih bs t)

/-! ## Stepping over a value -/

/-- Blanks and a value are stepped over. -/
theorem passes_skipValue (hv : Value v) (hu : Blank u) (ht : EndsNumber t) :
    Passes skipValue (u ++ (v ++ t)) t := hv.isSteppedOver [] u t hu ht

/-- Where a value is stepped over, there is one. -/
theorem exists_skipValue (h : skipValue c = .ok d) :
    ∃ u v, Blank u ∧ Value v ∧ c.rest = u ++ (v ++ d.rest) := by
  obtain ⟨u, v, e, hu, hv, hrest, he⟩ := (valueSound_behindSound c.left c (Nat.le_refl _)).1 [] d h
  cases he
  exact ⟨u, v, hu, hv, hrest⟩

end TaintClient.Json
