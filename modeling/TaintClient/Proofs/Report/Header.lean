/-
  The header of a coloured report: everything in front of its data. Title and colour come from the
  service, and neither can change what the header consists of. As ordinary markup it is read as
  the tags of its template, of which two have the colour in the value of their style, and the
  title is text inside one of them; only then the data begins.

  What a page reads has its line ends unified first. That touches the characters of the title and
  nothing else of the header (`unifyLineEnds_header`).
-/
import TaintClient.Proofs.Report.Escape

namespace TaintClient.Report

open Markup

/-! ## The template -/

/-- A tag of the template. -/
def templateTag (name : String) (attributes : List (String × List Char)) : Tag :=
  ⟨name.toList, attributes.map fun a => (a.1.toList, a.2), false⟩

/-- A tag with a class. -/
def classTag (name value : String) : Tag := templateTag name [("class", value.toList)]

/-- A tag with a class, and the colour in its style. -/
def styledTag (value before behind : String) (color : List Char) : Tag :=
  templateTag "div" [("class", value.toList), ("style", before.toList ++ color ++ behind.toList)]

/-- The panel, with its border in the colour. -/
def panelTag (color : List Char) : Tag := styledTag "am-panel" "border-color: " ";" color

/-- The head of the panel, with its background in the colour. -/
def headTag (color : List Char) : Tag :=
  styledTag "am-panel-hd" "background-color: " "; color: #fff;" color

/-- The tokens in front of the title. -/
def opening (color : List Char) : List Token :=
  [.startTag (classTag "div" "hope"), .text "  ".toList,
    .startTag (classTag "div" "am-g am-container"), .text "    ".toList,
    .startTag (classTag "div" "am-u-lg-6 am-u-md-6 am-u-sm-12"), .text "        ".toList,
    .startTag (panelTag color), .startTag (headTag color),
    .startTag (classTag "h3" "am-panel-title")]

/-- The tokens between the title and the data. -/
def closing : List Token :=
  [.endTag (templateTag "h3" []), .endTag (templateTag "div" []),
    .startTag (classTag "div" "am-panel-bd"), .startTag (templateTag "p" [])]

/-- The fragment of a report up to its data. -/
def header (title color : List Char) : List Char :=
  wrapperOpen.toList ++ panelOpen (escapeText title) (cssColor color) ++ "<p>".toList

/-- What follows the data. -/
def footer : List Char := "</p></div></div>".toList ++ wrapperClose.toList

theorem html_eq {r : Response} {c : String} (hc : r.color = some c) :
    (html r).toList = header (r.title.getD "").toList c.toList ++
      (newlinesToBreaks r.data.toList ++ footer) := by
  unfold html wrap panel paragraph header footer
  rw [hc]
  simp only [String.toList_ofList, List.append_assoc]
  rfl

/-- A start tag of the template, and what follows it. -/
def startText (t : Tag) (s : List Char) : List Char := '<' :: (t.write ++ s)

/-- An end tag of the template, and what follows it. -/
def endText (t : Tag) (s : List Char) : List Char := '<' :: '/' :: (t.write ++ s)

/-! ## The header, tag by tag -/

theorem startText_append (t : Tag) (s u : List Char) :
    startText t s ++ u = startText t (s ++ u) := by
  rw [startText, startText, List.cons_append, List.append_assoc]

theorem toList_wrapperOpen :
    wrapperOpen.toList = "<div class=\"hope\">  <div class=\"am-g am-container\">".toList ++
      "    <div class=\"am-u-lg-6 am-u-md-6 am-u-sm-12\">        ".toList :=
  String.toList_append

theorem wrapperOpen_append (s : List Char) :
    wrapperOpen.toList ++ s =
      startText (classTag "div" "hope") ("  ".toList ++
      startText (classTag "div" "am-g am-container") ("    ".toList ++
      startText (classTag "div" "am-u-lg-6 am-u-md-6 am-u-sm-12") ("        ".toList ++ s))) := by
  have h : wrapperOpen.toList =
      startText (classTag "div" "hope") ("  ".toList ++
      startText (classTag "div" "am-g am-container") ("    ".toList ++
      startText (classTag "div" "am-u-lg-6 am-u-md-6 am-u-sm-12") "        ".toList)) := by
    simp only [toList_wrapperOpen, startText, classTag, templateTag, Tag.write, writeAttribute,
      String.reduceToList, List.map_cons, List.map_nil, List.flatMap_cons, List.flatMap_nil,
      List.cons_append, List.nil_append]
  rw [h, startText_append, List.append_assoc, startText_append, List.append_assoc,
    startText_append]

theorem startText_panelTag (c s : List Char) :
    startText (panelTag c) s =
      "<div class=\"am-panel\" style=\"border-color: ".toList ++ (c ++ (";\">".toList ++ s)) := by
  simp only [startText, panelTag, styledTag, templateTag, Tag.write, writeAttribute,
    String.reduceToList, List.map_cons, List.map_nil, List.flatMap_cons, List.flatMap_nil,
    List.append_assoc, List.cons_append, List.nil_append]

theorem mark_headTag (c s : List Char) :
    ";\">".toList ++ startText (headTag c) s =
      ";\"><div class=\"am-panel-hd\" style=\"background-color: ".toList ++
        (c ++ ("; color: #fff;\">".toList ++ s)) := by
  simp only [startText, headTag, styledTag, templateTag, Tag.write, writeAttribute,
    String.reduceToList, List.map_cons, List.map_nil, List.flatMap_cons, List.flatMap_nil,
    List.append_assoc, List.cons_append, List.nil_append]

theorem mark_titleTag (s : List Char) :
    "; color: #fff;\">".toList ++ startText (classTag "h3" "am-panel-title") s =
      "; color: #fff;\"><h3 class=\"am-panel-title\">".toList ++ s := by
  simp only [startText, classTag, templateTag, Tag.write, writeAttribute, String.reduceToList,
    List.map_cons, List.map_nil, List.flatMap_cons, List.flatMap_nil, List.cons_append,
    List.nil_append]

theorem endText_titleTag (s : List Char) :
    endText (templateTag "h3" []) (endText (templateTag "div" [])
      (startText (classTag "div" "am-panel-bd") s)) =
      "</h3></div><div class=\"am-panel-bd\">".toList ++ s := by
  simp only [startText, endText, classTag, templateTag, Tag.write, writeAttribute,
    String.reduceToList, List.map_cons, List.map_nil, List.flatMap_cons, List.flatMap_nil,
    List.cons_append, List.nil_append]

theorem panelOpen_append (t c s : List Char) :
    panelOpen t c ++ s =
      startText (panelTag c) (startText (headTag c)
      (startText (classTag "h3" "am-panel-title") (t ++
      endText (templateTag "h3" []) (endText (templateTag "div" [])
      (startText (classTag "div" "am-panel-bd") s))))) := by
  rw [startText_panelTag, mark_headTag, mark_titleTag, endText_titleTag]
  unfold panelOpen
  repeat rw [List.append_assoc]

/-- The header is made up of the tags of the template, with the title inside one of them. -/
theorem header_append (title color s : List Char) :
    header title color ++ s =
      startText (classTag "div" "hope") ("  ".toList ++
      startText (classTag "div" "am-g am-container") ("    ".toList ++
      startText (classTag "div" "am-u-lg-6 am-u-md-6 am-u-sm-12") ("        ".toList ++
      startText (panelTag (cssColor color)) (startText (headTag (cssColor color))
      (startText (classTag "h3" "am-panel-title") (escapeText title ++
      endText (templateTag "h3" []) (endText (templateTag "div" [])
      (startText (classTag "div" "am-panel-bd") (startText (templateTag "p" []) s))))))))) := by
  have hparagraph : "<p>".toList = startText (templateTag "p" []) [] := rfl
  rw [header, List.append_assoc, List.append_assoc, hparagraph, startText_append,
    wrapperOpen_append, panelOpen_append, List.nil_append]

/-! ## Its tokens -/

/-- A tag of the template stays plain with a colour in its style. -/
theorem isPlain_styledTag {value before behind : String}
    (h : (styledTag value before behind []).IsPlain) (hbefore : IsPlainValue before.toList)
    (hbehind : IsPlainValue behind.toList) (color : List Char) :
    (styledTag value before behind (cssColor color)).IsPlain := by
  have hstyle := (hbefore.append (isPlainValue_cssColor color)).append hbehind
  refine h.of_names rfl rfl rfl (List.forall_mem_cons.mpr ⟨h.value _ List.mem_cons_self, ?_⟩)
  exact List.forall_mem_cons.mpr ⟨hstyle, nofun⟩

theorem isPlain_panelTag (color : List Char) : (panelTag (cssColor color)).IsPlain :=
  isPlain_styledTag (by decide) (by decide) (by decide) color

theorem isPlain_headTag (color : List Char) : (headTag (cssColor color)).IsPlain :=
  isPlain_styledTag (by decide) (by decide) (by decide) color

theorem tokens_startText {r : Reading} {t : Tag} (h : t.IsPlain) (hr : r.content = .markup)
    (s : List Char) :
    tokens r (startText t s) = .startTag t :: tokens { r with lastStart := t.name } s :=
  tokens_startTag h hr s

theorem tokens_endText {r : Reading} {t : Tag} (h : t.IsPlain) (hr : r.content = .markup)
    (s : List Char) : tokens r (endText t s) = .endTag t :: tokens r s :=
  tokens_endTag h hr s

/-- A blank in front of a start tag is text. -/
theorem tokens_blank {r : Reading} {blank : List Char} (hne : blank ≠ [])
    (hblank : blank.any isMarkup = false) (hr : r.content = .markup) (t : Tag) (s : List Char) :
    tokens r (blank ++ startText t s) = .text blank :: tokens r (startText t s) := by
  have htext : ∀ c ∈ blank, isMarkup c = false := fun c hc =>
    Bool.eq_false_iff.mpr (List.any_eq_false.mp hblank c hc)
  refine tokens_text hne htext hr fun c hc => ?_
  obtain rfl := Option.some_inj.mp hc
  decide

/-- The header is read as its template, with text that shows the title in its place, and as the
same tokens whatever follows. -/
theorem tokens_header (title color : List Char) :
    ∃ ts, Shows ts title ∧ ∀ s, tokens {} (header title color ++ s) =
      opening (cssColor color) ++ ts ++ closing ++ tokens { lastStart := "p".toList } s := by
  obtain ⟨ts, hshows, htokens⟩ :=
    tokens_escapeText (r := { lastStart := "h3".toList }) rfl title
  refine ⟨ts, hshows, fun s => ?_⟩
  have hend : ∀ (t : Tag) (u : List Char) (c : Char),
      (endText t u).head? = some c → isMarkup c = true := by
    intro t u c hc
    obtain rfl := Option.some_inj.mp hc
    decide
  rw [header_append, tokens_startText (by decide) rfl, tokens_blank (by decide) (by decide) rfl,
    tokens_startText (by decide) rfl, tokens_blank (by decide) (by decide) rfl,
    tokens_startText (by decide) rfl, tokens_blank (by decide) (by decide) rfl,
    tokens_startText (isPlain_panelTag color) rfl, tokens_startText (isPlain_headTag color) rfl,
    tokens_startText (by decide) rfl]
  -- the title, and the tags behind it
  have hbehind : ∀ u, tokens { lastStart := "h3".toList } (endText (templateTag "h3" [])
      (endText (templateTag "div" []) (startText (classTag "div" "am-panel-bd")
      (startText (templateTag "p" []) u)))) =
      closing ++ tokens { lastStart := "p".toList } u := by
    intro u
    rw [tokens_endText (by decide) rfl, tokens_endText (by decide) rfl,
      tokens_startText (by decide) rfl, tokens_startText (by decide) rfl]
    rfl
  rw [List.append_assoc, List.append_assoc, ← hbehind s, ← htokens _ (hend _ _)]
  rfl

/-! ## Its text -/

/-- The title as markup stands between the tags of its element. -/
theorem header_content (title color : List Char) :
    ∃ before behind, header title color =
      before ++ "<h3 class=\"am-panel-title\">".toList ++ escapeText title ++ "</h3>".toList ++
        behind := by
  have hbefore : "; color: #fff;\"><h3 class=\"am-panel-title\">".toList =
      "; color: #fff;\">".toList ++ "<h3 class=\"am-panel-title\">".toList := by
    simp only [String.reduceToList, List.cons_append, List.nil_append]
  have hbehind : "</h3></div><div class=\"am-panel-bd\">".toList =
      "</h3>".toList ++ "</div><div class=\"am-panel-bd\">".toList := by
    simp only [String.reduceToList, List.cons_append, List.nil_append]
  refine ⟨wrapperOpen.toList ++ ("<div class=\"am-panel\" style=\"border-color: ".toList ++
    (cssColor color ++ (";\"><div class=\"am-panel-hd\" style=\"background-color: ".toList ++
    (cssColor color ++ "; color: #fff;\">".toList)))),
    "</div><div class=\"am-panel-bd\">".toList ++ "<p>".toList, ?_⟩
  unfold header panelOpen
  rw [hbefore, hbehind]
  repeat rw [List.append_assoc]

/-- Of a colour stay the letters, the digits and a few signs. -/
theorem cssColor_eq (color : List Char) :
    cssColor color = color.filter fun c => c.isAlphanum || "#(),.% ".toList.contains c := by
  refine List.filter_congr fun c _ => ?_
  simp [isColorChar, Bool.or_assoc]

/-! ## Its line ends -/

theorem not_mem_cssColor (color : List Char) : '\r' ∉ cssColor color := fun h =>
  absurd (List.mem_filter.mp h).2 (by decide)

/-- Of the header, unifying line ends touches the title alone. -/
theorem unifyLineEnds_header (title color s : List Char) :
    Text.unifyLineEnds (header title color ++ s) =
      header (Text.unifyLineEnds title) color ++ Text.unifyLineEnds s := by
  have hcolor := not_mem_cssColor color
  have hend : ("</h3></div><div class=\"am-panel-bd\">".toList ++ ("<p>".toList ++ s)).head? ≠
      some '\n' := fun h => absurd (Option.some_inj.mp h) (by decide)
  unfold header panelOpen
  rw [toList_wrapperOpen]
  repeat rw [List.append_assoc]
  rw [unifyLineEnds_append (by decide), unifyLineEnds_append (by decide),
    unifyLineEnds_append (by decide), unifyLineEnds_append hcolor,
    unifyLineEnds_append (by decide), unifyLineEnds_append hcolor,
    unifyLineEnds_append (by decide), unifyLineEnds_escapeText _ hend,
    unifyLineEnds_append (by decide), unifyLineEnds_append (by decide)]

/-! ## What a title and a colour can change -/

/-- The tokens that are not text. -/
def marks (ts : List Token) : List Token := ts.filter fun t => !isTextual t

/-- Whether an attribute is a style. -/
def isStyle (a : List Char × List Char) : Bool := a.1 = "style".toList

theorem isStyle_class (v : List Char) : isStyle ("class".toList, v) = false := rfl

theorem isStyle_style (v : List Char) : isStyle ("style".toList, v) = true := rfl

/-- A start tag with its styles emptied; other tokens are left as they are. -/
def eraseStyle : Token → Token
  | .startTag t =>
    .startTag { t with attributes := t.attributes.map fun a => if isStyle a then (a.1, []) else a }
  | t => t

/-- The styles of the start tags. -/
def styles (ts : List Token) : List (List Char) :=
  ts.flatMap fun
    | .startTag t => (t.attributes.filter isStyle).map (·.2)
    | _ => []

theorem marks_append (ts us : List Token) : marks (ts ++ us) = marks ts ++ marks us :=
  List.filter_append ..

theorem styles_append (ts us : List Token) : styles (ts ++ us) = styles ts ++ styles us :=
  List.flatMap_append

theorem marks_of_shows {ts : List Token} {s : List Char} (h : Shows ts s) : marks ts = [] := by
  refine List.filter_eq_nil_iff.mpr fun t ht => ?_
  rw [h.textual t ht]
  exact Bool.false_ne_true

theorem styles_of_shows {ts : List Token} {s : List Char} (h : Shows ts s) : styles ts = [] := by
  refine List.flatMap_eq_nil_iff.mpr fun t ht => ?_
  have htext := h.textual t ht
  cases t with
  | startTag t => cases htext
  | _ => rfl

/-- Tags of the template that differ in their colour differ in their style. -/
theorem eraseStyle_styledTag (value before behind : String) (c d : List Char) :
    eraseStyle (.startTag (styledTag value before behind c)) =
      eraseStyle (.startTag (styledTag value before behind d)) := by
  simp only [eraseStyle, styledTag, templateTag, List.map_cons, List.map_nil, isStyle_class,
    isStyle_style, Bool.false_eq_true, if_false, if_true, -String.reduceToList]

theorem marks_opening (c d : List Char) :
    (marks (opening c)).map eraseStyle = (marks (opening d)).map eraseStyle := by
  have hmarks : ∀ c, marks (opening c) = [.startTag (classTag "div" "hope"),
      .startTag (classTag "div" "am-g am-container"),
      .startTag (classTag "div" "am-u-lg-6 am-u-md-6 am-u-sm-12"), .startTag (panelTag c),
      .startTag (headTag c), .startTag (classTag "h3" "am-panel-title")] := fun _ => rfl
  rw [hmarks, hmarks]
  unfold panelTag headTag
  simp only [List.map_cons, eraseStyle_styledTag _ _ _ c d]

theorem styles_opening (color : List Char) :
    styles (opening color) = ["border-color: ".toList ++ color ++ ";".toList,
      "background-color: ".toList ++ color ++ "; color: #fff;".toList] := by
  simp only [styles, opening, classTag, panelTag, headTag, styledTag, templateTag,
    List.flatMap_cons, List.flatMap_nil, List.map_cons, List.map_nil, List.filter_cons,
    List.filter_nil, isStyle_class, isStyle_style, if_true, Bool.false_eq_true, if_false,
    List.nil_append, List.cons_append, -String.reduceToList]

theorem tokens_nil (r : Reading) : tokens r [] = [.eof] := by
  rw [tokens]

/-- **The header of a coloured report.** It is followed by the data and nothing of the data belongs
to it: its tokens are the same whatever follows. Text aside, they are those of the header without
title in red, but for the values of the two styles; these are a declaration of the border and two
of the head, with all of the colour that can stand in one. The title is shown in full between the
tags of its element, in markup without a sign of a tag; undoing its references gives it back. All
of this is so of what a page reads too: unifying line ends leaves a header, of the title with its
line ends unified. -/
theorem header_contained (r : Response) (color : String) (hr : r.color = some color) :
    let title := (r.title.getD "").toList
    let shade := color.toList.filter fun c => c.isAlphanum || "#(),.% ".toList.contains c
    let head := header title color.toList
    (html r).toList = head ++ (newlinesToBreaks r.data.toList ++ footer) ∧
    (∀ s, tokens {} (head ++ s) =
      (tokens {} head).dropLast ++ tokens { lastStart := "p".toList } s) ∧
    (marks (tokens {} head)).map eraseStyle =
      (marks (tokens {} (header [] "red".toList))).map eraseStyle ∧
    styles (tokens {} head) = ["border-color: ".toList ++ shade ++ ";".toList,
      "background-color: ".toList ++ shade ++ "; color: #fff;".toList] ∧
    (∃ before text behind, Shows text title ∧
      tokens {} head = before ++ .startTag (classTag "h3" "am-panel-title") :: (text ++
        .endTag (templateTag "h3" []) :: behind)) ∧
    (∃ before content behind, head = before ++ "<h3 class=\"am-panel-title\">".toList ++ content ++
        "</h3>".toList ++ behind ∧
      '<' ∉ content ∧ '>' ∉ content ∧ unescape content = title) ∧
    ∀ s, Text.unifyLineEnds (head ++ s) =
      header (Text.unifyLineEnds title) color.toList ++ Text.unifyLineEnds s := by
  intro title shade head
  have hshade : shade = cssColor color.toList := (cssColor_eq color.toList).symm
  obtain ⟨ts, hshows, htokens⟩ := tokens_header title color.toList
  obtain ⟨us, hred, hredTokens⟩ := tokens_header [] "red".toList
  have hhead : tokens {} head = opening shade ++ ts ++ closing ++ [.eof] := by
    rw [hshade, ← tokens_nil { lastStart := "p".toList }, ← htokens, List.append_nil]
  have hplain : tokens {} (header [] "red".toList) =
      opening (cssColor "red".toList) ++ us ++ closing ++ [.eof] := by
    rw [← tokens_nil { lastStart := "p".toList }, ← hredTokens, List.append_nil]
  refine ⟨html_eq hr, fun s => ?_, ?_, ?_, ?_, ?_, unifyLineEnds_header title color.toList⟩
  · rw [htokens, hhead, List.dropLast_concat, hshade]
  · rw [hhead, hplain]
    simp only [marks_append, List.map_append, marks_of_shows hshows, marks_of_shows hred,
      marks_opening shade (cssColor "red".toList)]
  · rw [hhead, styles_append, styles_append, styles_append, styles_of_shows hshows, styles_opening]
    rfl
  · have hopening : opening shade = (opening shade).dropLast ++
        [.startTag (classTag "h3" "am-panel-title")] := rfl
    refine ⟨(opening shade).dropLast, ts, closing.tail ++ [.eof], hshows, ?_⟩
    rw [hhead, hopening, List.dropLast_concat, List.append_assoc, List.append_assoc,
      List.append_assoc]
    rfl
  · obtain ⟨before, behind, hcontent⟩ := header_content title color.toList
    obtain ⟨hless, hgreater⟩ := not_mem_escapeText title
    exact ⟨before, escapeText title, behind, hcontent, hless, hgreater, unescape_escapeText title⟩

/-- A report whose title tries to leave its element, and whose colour its attribute. -/
def hostile : Response :=
  { data := "", title := some "</h3><img src=x>", color := some "red;\" onload=\"x()" }

/-- Nothing comes of it: no tag is added, and the sign that ends a value is gone. -/
theorem header_hostile :
    hostile.color = some "red;\" onload=\"x()" ∧
    (marks (tokens {} (header "</h3><img src=x>".toList "red;\" onload=\"x()".toList))).map
        eraseStyle =
      (marks (tokens {} (header [] "red".toList))).map eraseStyle ∧
    styles (tokens {} (header "</h3><img src=x>".toList "red;\" onload=\"x()".toList)) =
      ["border-color: red onloadx();".toList,
        "background-color: red onloadx(); color: #fff;".toList] := by
  have hcolor : hostile.color = some "red;\" onload=\"x()" := rfl
  obtain ⟨_, _, hmarks, hstyles, _⟩ := header_contained hostile _ hcolor
  exact ⟨hcolor, hmarks, hstyles.trans (by decide)⟩

end TaintClient.Report
