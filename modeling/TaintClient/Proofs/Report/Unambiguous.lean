/-
  What a fragment tells of its response. The data is put into the template as it is, and may hold
  copies of the template itself; still two responses have the same fragment only if they agree in
  all that the template shows (`html_eq_html_iff`).

  Each inserted part is told from what is behind it by the sign that ends it and that it cannot
  have: the colour ends at a semicolon, the title, whose signs are escaped, at a less-than sign.
  The data needs no such sign, since nothing that varies is behind it. Paragraph and panel differ
  in the name of their first tag.
-/
import TaintClient.Proofs.Report.Breaks
import TaintClient.Proofs.Report.Escape

namespace TaintClient.Report

variable {b b' c c' s s' t t' : List Char}

/-! ## The parts -/

/-- A text that ends at the first place of a sign is told from what is behind it. -/
theorem append_sign_inj {x : Char} (hs : x ∉ s) (ht : x ∉ t) :
    s ++ x :: s' = t ++ x :: t' ↔ s = t ∧ s' = t' := by
  constructor
  · intro h
    induction s generalizing t with
    | nil =>
      cases t with
      | nil => exact ⟨rfl, (List.cons.inj h).2⟩
      | cons e t => exact absurd (List.mem_cons.mpr (.inl (List.cons.inj h).1)) ht
    | cons d s ih =>
      cases t with
      | nil => exact absurd (List.mem_cons.mpr (.inl (List.cons.inj h).1.symm)) hs
      | cons e t =>
        rw [List.mem_cons, not_or] at hs ht
        obtain ⟨hhead, htail⟩ := List.cons.inj h
        obtain ⟨hst, hrest⟩ := ih hs.2 ht.2 htail
        exact ⟨by rw [hhead, hst], hrest⟩
  · rintro ⟨rfl, rfl⟩
    rfl

theorem wrap_inj : wrap s = wrap t ↔ s = t := by
  unfold wrap
  rw [List.append_left_inj, List.append_right_inj]

theorem paragraph_inj : paragraph s = paragraph t ↔ s = t := by
  unfold paragraph
  rw [List.append_left_inj, List.append_right_inj]

/-- What is in front of the data tells title and colour, if the title ends where a tag begins and
the colour at a semicolon. -/
theorem panelOpen_append_inj (hc : ';' ∉ c) (hc' : ';' ∉ c') (ht : '<' ∉ t) (ht' : '<' ∉ t') :
    panelOpen t c ++ s = panelOpen t' c' ++ s' ↔ t = t' ∧ c = c' ∧ s = s' := by
  have hcolor : ";\"><div class=\"am-panel-hd\" style=\"background-color: ".toList =
      ';' :: "\"><div class=\"am-panel-hd\" style=\"background-color: ".toList := by
    simp only [String.reduceToList]
  have htitle : "</h3></div><div class=\"am-panel-bd\">".toList =
      '<' :: "/h3></div><div class=\"am-panel-bd\">".toList := by
    simp only [String.reduceToList]
  unfold panelOpen
  rw [hcolor, htitle]
  simp only [List.append_assoc, List.cons_append, List.append_right_inj, append_sign_inj hc hc']
  constructor
  · -- the colour stands twice, and its second place is the same once the first one is
    rintro ⟨rfl, h⟩
    have hbehind := List.append_cancel_left (List.append_cancel_left h)
    obtain ⟨htitle, hdata⟩ := (append_sign_inj ht ht').mp hbehind
    exact ⟨htitle, rfl, List.append_cancel_left hdata⟩
  · rintro ⟨rfl, rfl, rfl⟩
    exact ⟨rfl, rfl⟩

/-- A panel tells its title, what is kept of its colour, and its data. -/
theorem panel_inj : panel t c b = panel t' c' b' ↔ t = t' ∧ cssColor c = cssColor c' ∧ b = b' := by
  unfold panel
  rw [List.append_assoc, List.append_assoc,
    panelOpen_append_inj (semicolon_not_mem_cssColor c) (semicolon_not_mem_cssColor c')
      (not_mem_escapeText t).1 (not_mem_escapeText t').1,
    List.append_left_inj, paragraph_inj, escapeText_injective.eq_iff]

/-- A panel is no paragraph. -/
theorem panel_ne_paragraph : panel t c b ≠ paragraph s := by
  have hpanel : "<div class=\"am-panel\" style=\"border-color: ".toList =
      '<' :: 'd' :: "iv class=\"am-panel\" style=\"border-color: ".toList := by
    simp only [String.reduceToList]
  have hparagraph : "<p>".toList = '<' :: 'p' :: ">".toList := rfl
  unfold panel panelOpen paragraph
  rw [hpanel, hparagraph]
  simp only [List.cons_append]
  intro h
  exact absurd (List.cons.inj (List.cons.inj h).2).1 (by decide)

/-! ## Fragments -/

/-- The fragment of a response, its colour being known. -/
theorem html_of_none {r : Response} (h : r.color = none) :
    html r = String.ofList (wrap (paragraph (newlinesToBreaks r.data.toList))) := by
  unfold html
  rw [h]

theorem html_of_some {r : Response} {color : String} (h : r.color = some color) :
    html r = String.ofList (wrap (panel (r.title.getD "").toList color.toList
      (newlinesToBreaks r.data.toList))) := by
  unfold html
  rw [h]

/-- The placeholder is the fragment of its own text. -/
theorem html_analyzing : html { data := analyzingText } = placeholder := by
  rw [html_of_none rfl]
  exact congrArg (fun body => String.ofList (wrap (paragraph body)))
    (newlinesToBreaks_of_not_mem (by decide) (by decide))

/-- Paragraphs are the same where their data is. -/
theorem html_inj_of_none {r₁ r₂ : Response} (h₁ : r₁.color = none) (h₂ : r₂.color = none) :
    html r₁ = html r₂ ↔ newlinesToBreaks r₁.data.toList = newlinesToBreaks r₂.data.toList := by
  rw [html_of_none h₁, html_of_none h₂, String.ofList_inj, wrap_inj, paragraph_inj]

/-- Panels are the same where their titles, what is kept of their colours, and their data are. -/
theorem html_inj_of_some {r₁ r₂ : Response} {c₁ c₂ : String} (h₁ : r₁.color = some c₁)
    (h₂ : r₂.color = some c₂) :
    html r₁ = html r₂ ↔ r₁.title.getD "" = r₂.title.getD "" ∧
      cssColor c₁.toList = cssColor c₂.toList ∧
      newlinesToBreaks r₁.data.toList = newlinesToBreaks r₂.data.toList := by
  rw [html_of_some h₁, html_of_some h₂, String.ofList_inj, wrap_inj, panel_inj, String.toList_inj]

theorem html_ne_of_color {r₁ r₂ : Response} {c : String} (h₁ : r₁.color = none)
    (h₂ : r₂.color = some c) : html r₁ ≠ html r₂ := by
  rw [html_of_none h₁, html_of_some h₂, Ne, String.ofList_inj, wrap_inj]
  exact fun h => panel_ne_paragraph h.symm

/-- The placeholder is the fragment of its own text, and of no other. -/
theorem html_eq_placeholder_iff {r : Response} :
    html r = placeholder ↔ r.color = none ∧ r.data = analyzingText := by
  rw [← html_analyzing]
  cases hc : r.color with
  | some c => exact iff_of_false (fun h => html_ne_of_color rfl hc h.symm) (fun h => nomatch h.1)
  | none =>
    have hplain : newlinesToBreaks analyzingText.toList = analyzingText.toList :=
      newlinesToBreaks_of_not_mem (by decide) (by decide)
    rw [html_inj_of_none hc rfl, hplain]
    constructor
    · intro h
      have hless : '<' ∉ newlinesToBreaks r.data.toList := by
        rw [h]
        decide
      rw [newlinesToBreaks_of_less_not_mem hless] at h
      exact ⟨rfl, String.toList_inj.mp h⟩
    · rintro ⟨-, hdata⟩
      rw [hdata, hplain]

/-- **A fragment tells what it shows.** Two responses have the same fragment if and only if both or
neither have a colour, their data is the same up to the kind of its line breaks, and, with colours,
the same is kept of these and the titles are the same, where no title is an empty one. So no data
makes a paragraph a panel, and the placeholder is the fragment of its own text alone. -/
theorem html_eq_html_iff (r₁ r₂ : Response) :
    (html r₁ = html r₂ ↔ r₁.color.isSome = r₂.color.isSome ∧
      newlinesToBreaks r₁.data.toList = newlinesToBreaks r₂.data.toList ∧
      ∀ c₁ c₂, r₁.color = some c₁ → r₂.color = some c₂ →
        cssColor c₁.toList = cssColor c₂.toList ∧ r₁.title.getD "" = r₂.title.getD "") ∧
    (∀ c, r₁.color = none → r₂.color = some c → html r₁ ≠ html r₂) ∧
    (html r₁ = placeholder ↔ r₁.color = none ∧ r₁.data = "Analyzing") := by
  refine ⟨?_, fun c => html_ne_of_color, html_eq_placeholder_iff⟩
  cases h₁ : r₁.color with
  | none =>
    cases h₂ : r₂.color with
    | none => simp [html_inj_of_none h₁ h₂]
    | some c₂ => exact iff_of_false (html_ne_of_color h₁ h₂) (fun h => nomatch h.1)
  | some c₁ =>
    cases h₂ : r₂.color with
    | none => exact iff_of_false (html_ne_of_color h₂ h₁).symm (fun h => nomatch h.1)
    | some c₂ =>
      rw [html_inj_of_some h₁ h₂]
      constructor
      · rintro ⟨htitle, hcolor, hdata⟩
        refine ⟨rfl, hdata, ?_⟩
        rintro _ _ ⟨⟩ ⟨⟩
        exact ⟨hcolor, htitle⟩
      · rintro ⟨-, hdata, h⟩
        obtain ⟨hcolor, htitle⟩ := h c₁ c₂ rfl rfl
        exact ⟨htitle, hcolor, hdata⟩

end TaintClient.Report
