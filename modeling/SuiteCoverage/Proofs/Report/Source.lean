import SuiteCoverage.Proofs.Measurement
import SuiteCoverage.Proofs.Numeral
import SuiteCoverage.Proofs.Report.Agreement
import SuiteCoverage.Proofs.Trace

/-!
# The source in a page

A second reader of pages. It tells tags from text, and looks for the source where a person would:
among the lines of the page, between the line that opens the source and the next one that closes
something. Each of those lines must be a paragraph with a number, and its text is read with the
character references undone.

Texts reach a page only encoded, so they open no tag (`scan_text`). The line that opens the source
is therefore the first one that looks like it, whatever the file is called, and every line behind
it is a line of the source or closes it.
-/

set_option autoImplicit false

namespace SuiteCoverage

/-! ## Character references -/

namespace Entity

/-- A text of a page with its character references undone. -/
def decode : List Char → List Char
  | [] => []
  | '&' :: 'a' :: 'm' :: 'p' :: ';' :: rest => '&' :: decode rest
  | '&' :: 'l' :: 't' :: ';' :: rest => '<' :: decode rest
  | '&' :: 'g' :: 't' :: ';' :: rest => '>' :: decode rest
  | c :: rest => c :: decode rest

theorem decode_cons {c : Char} (hc : c ≠ '&') (rest : List Char) :
    decode (c :: rest) = c :: decode rest := by
  rw [decode]
  all_goals
    intro tail hamp
    exact absurd hamp hc

theorem decode_encodeChar (c : Char) (rest : List Char) :
    decode (encodeChar c ++ rest) = c :: decode rest := by
  unfold encodeChar
  split
  case isTrue hamp =>
    subst hamp
    rfl
  split
  case isTrue hopen =>
    subst hopen
    rfl
  split
  case isTrue hclose =>
    subst hclose
    rfl
  case isFalse hamp _ _ => exact decode_cons hamp rest

theorem decode_encode (text : List Char) : decode (encode text) = text := by
  unfold encode
  induction text with
  | nil => rfl
  | cons c rest ih => rw [List.flatMap_cons, decode_encodeChar, ih]

/-- Encoding makes no line end. -/
theorem newline_not_mem_encode {text : List Char} (h : '\n' ∉ text) : '\n' ∉ encode text := by
  intro hmem
  obtain ⟨c, hc, hchar⟩ := List.mem_flatMap.1 hmem
  unfold encodeChar at hchar
  split at hchar
  · exact absurd hchar (by decide)
  split at hchar
  · exact absurd hchar (by decide)
  split at hchar
  · exact absurd hchar (by decide)
  · rw [← List.mem_singleton.1 hchar] at hc
    exact h hc

end Entity

namespace Page

/-! ## Tags and the texts between them -/

/-- A tag, and the text from there to the next one. -/
structure Markup where
  tag : List Char
  text : List Char

/-- The text in front of the first tag, and the tags with their texts. Reading may start in the
    middle of a tag. -/
def scan : Option (List Char) → List Char → List Char × List Markup
  | _, [] => ([], [])
  | none, c :: rest =>
    if c = '<' then ([], (scan (some []) rest).2)
    else
      let behind := scan none rest
      (c :: behind.1, behind.2)
  | some tag, c :: rest =>
    if c = '>' then
      let behind := scan none rest
      ([], ⟨tag, behind.1⟩ :: behind.2)
    else scan (some (tag ++ [c])) rest

/-- What does not open a tag is text. -/
theorem scan_text {text : List Char} (htext : '<' ∉ text) (rest : List Char) :
    scan none (text ++ rest) = (text ++ (scan none rest).1, (scan none rest).2) := by
  induction text with
  | nil => rfl
  | cons c text ih =>
    rw [List.mem_cons, not_or] at htext
    rw [List.cons_append, scan, if_neg (Ne.symm htext.1), ih htext.2]
    rfl

theorem scan_inside {text : List Char} (htext : '>' ∉ text) (tag rest : List Char) :
    scan (some tag) (text ++ '>' :: rest)
      = ([], ⟨tag ++ text, (scan none rest).1⟩ :: (scan none rest).2) := by
  induction text generalizing tag with
  | nil => simp [scan]
  | cons c text ih =>
    rw [List.mem_cons, not_or] at htext
    rw [List.cons_append, scan, if_neg (Ne.symm htext.1), ih htext.2]
    simp

theorem scan_tag {tag : List Char} (htag : '>' ∉ tag) (rest : List Char) :
    scan none ('<' :: (tag ++ '>' :: rest))
      = ([], ⟨tag, (scan none rest).1⟩ :: (scan none rest).2) := by
  rw [scan, if_pos rfl, scan_inside htag]
  rfl

/-- The tags in a text. -/
def tagsIn (text : List Char) : List String :=
  (scan none text).2.map fun markup => String.ofList markup.tag

/-- The tags of a page. -/
def tagsOf (page : String) : List String := tagsIn page.toList

/-- The first paragraph of a page, up to its first tag. -/
def summaryOf (page : String) : Option String :=
  ((scan none page.toList).2.find? fun markup => markup.tag = ['p']).map fun markup =>
    String.ofList markup.text

/-! ## Paragraphs -/

/-- A numbered line in a page. -/
structure Paragraph where
  className : String
  number : Nat
  text : List Char
deriving DecidableEq, Repr

namespace Paragraph

/-- The class that the tag of a paragraph gives it. -/
def class? (tag : List Char) : Option String :=
  (Trace.after? "p class=\"".toList tag).bind fun quoted =>
    if quoted.getLast? = some '"' then some (String.ofList quoted.dropLast) else none

/-- Reads a line of a page that is a paragraph and nothing else. -/
def read? (line : List Char) : Option Paragraph :=
  match scan none line with
  | ([], [opening, numbering, numbered, closing]) =>
    if opening.text = [] ∧ numbering.tag = "span class=\"n\"".toList ∧
        numbered.tag = "/span".toList ∧ closing.tag = "/p".toList ∧ closing.text = [] then
      match class? opening.tag, Numeral.natural? numbering.text with
      | some className, some number => some ⟨className, number, Entity.decode numbered.text⟩
      | _, _ => none
    else none
  | _ => none

/-- The tags that a paragraph takes. -/
def tags (paragraph : Paragraph) : List String :=
  ["p class=\"" ++ paragraph.className ++ "\"", "span class=\"n\"", "/span", "/p"]

end Paragraph

/-- The lines that a page has for the source. -/
def sourceBlock (page : String) : List (List Char) :=
  ((Text.lines page.toList).dropWhile (· ≠ "    <div class=\"source\">".toList)).tail.takeWhile
    (· ≠ "    </div>".toList)

/-- What is shown of a line of the source. -/
def paragraphOf (account : FileAccount) (n : LineNumber) (text : List Char) : Paragraph :=
  ⟨(LineMark.ofLine account n).className, n.toNat, text⟩

/-- The characters of a line of the source, without the line end. -/
def paragraphText (mark : LineMark) (n : LineNumber) (text : List Char) : List Char :=
  "<p class=\"".toList ++ mark.className.toList ++ "\"><span class=\"n\">".toList
    ++ Nat.toDigits 10 n.toNat ++ "</span>".toList ++ Entity.encode text ++ "</p>".toList

theorem toList_sourceLine (mark : LineMark) (n : LineNumber) (text : List Char) :
    (sourceLine mark n text).toList = paragraphText mark n text ++ ['\n'] := by
  have hend : "</p>\n".toList = "</p>".toList ++ ['\n'] := by
    rw [String.toList_ofList, String.toList_ofList]
    rfl
  unfold sourceLine paragraphText
  simp only [String.toList_append, Numeral.toList_toString, encode, String.toList_ofList,
    List.append_assoc, hend]

/-! ## Reading the source -/

theorem not_mem_className (mark : LineMark) :
    '>' ∉ mark.className.toList ∧ '\n' ∉ mark.className.toList := by
  cases mark <;> decide

/-- A paragraph is four tags, and nothing is shown but the number and the encoded text. -/
theorem scan_paragraphText (mark : LineMark) (n : LineNumber) (text rest : List Char) :
    scan none (paragraphText mark n text ++ rest)
      = ([], [⟨"p class=\"".toList ++ (mark.className.toList ++ ['"']), []⟩,
          ⟨"span class=\"n\"".toList, Nat.toDigits 10 n.toNat⟩,
          ⟨"/span".toList, Entity.encode text⟩,
          ⟨"/p".toList, (scan none rest).1⟩] ++ (scan none rest).2) := by
  have hclass : '>' ∉ "p class=\"".toList ++ (mark.className.toList ++ ['"']) := by
    rw [List.mem_append, List.mem_append, not_or, not_or]
    exact ⟨by decide, (not_mem_className mark).1, by decide⟩
  have hnumber : '<' ∉ Nat.toDigits 10 n.toNat := Numeral.not_mem_toDigits (by decide) _
  have htext : '<' ∉ Entity.encode text := by
    have hencoded := not_mem_encode (String.ofList text)
    rw [encode, String.toList_ofList, String.toList_ofList] at hencoded
    exact hencoded
  have hshape : paragraphText mark n text ++ rest
      = '<' :: (("p class=\"".toList ++ (mark.className.toList ++ ['"'])) ++ '>'
        :: '<' :: ("span class=\"n\"".toList ++ '>'
          :: (Nat.toDigits 10 n.toNat ++ '<' :: ("/span".toList ++ '>'
            :: (Entity.encode text ++ '<' :: ("/p".toList ++ '>' :: rest)))))) := by
    have hopen : "<p class=\"".toList = '<' :: "p class=\"".toList := by
      rw [String.toList_ofList, String.toList_ofList]
    have hnumbering : "\"><span class=\"n\">".toList
        = '"' :: '>' :: '<' :: ("span class=\"n\"".toList ++ ['>']) := by
      rw [String.toList_ofList, String.toList_ofList]
      rfl
    have hnumbered : "</span>".toList = '<' :: ("/span".toList ++ ['>']) := by
      rw [String.toList_ofList, String.toList_ofList]
      rfl
    have hclose : "</p>".toList = '<' :: ("/p".toList ++ ['>']) := by
      rw [String.toList_ofList, String.toList_ofList]
      rfl
    unfold paragraphText
    rw [hopen, hnumbering, hnumbered, hclose]
    simp only [List.append_assoc, List.cons_append, List.nil_append]
  rw [hshape, scan_tag hclass, scan_tag (not_mem_ofList (by decide)), scan_text hnumber,
    scan_tag (not_mem_ofList (by decide)), scan_text htext,
    scan_tag (not_mem_ofList (by decide))]
  simp

theorem class?_quoted (mark : LineMark) :
    Paragraph.class? ("p class=\"".toList ++ (mark.className.toList ++ ['"']))
      = some mark.className := by
  cases mark <;> decide

/-- What a line of the source is shown as is read back. -/
theorem read?_paragraphText (account : FileAccount) (n : LineNumber) (text : List Char) :
    Paragraph.read? (paragraphText (LineMark.ofLine account n) n text)
      = some (paragraphOf account n text) := by
  have hscan := scan_paragraphText (LineMark.ofLine account n) n text []
  rw [List.append_nil] at hscan
  have hnumber : Numeral.natural? (Nat.toDigits 10 n.toNat) = some n.toNat :=
    Numeral.natural?_eq_some_iff.2 (Numeral.isNumeral_toDigits _)
  unfold Paragraph.read?
  simp only [hscan, scan, List.append_nil, and_self, if_true, class?_quoted, hnumber,
    Entity.decode_encode, paragraphOf]

/-- The lines of a text with their numbers. -/
def numbered (n : Nat) (lines : List (List Char)) : List (LineNumber × List Char) :=
  (lines.zipIdx n).map fun line => (UInt32.ofNat line.2, line.1)

theorem getElem?_numbered (n : Nat) (lines : List (List Char)) (i : Nat) :
    (numbered n lines)[i]? = lines[i]?.map fun text => (UInt32.ofNat (n + i), text) := by
  rw [numbered, List.getElem?_map, List.getElem?_zipIdx, Option.map_map]
  rfl

theorem sourceLines_eq (account : FileAccount) (n : Nat) (lines : List (List Char)) :
    sourceLines account n lines
      = (numbered n lines).map fun line =>
          sourceLine (LineMark.ofLine account line.1) line.1 line.2 := by
  induction lines generalizing n with
  | nil => rfl
  | cons text rest ih =>
    rw [sourceLines, ih, numbered, numbered, List.zipIdx_cons]
    rfl

/-- The source in a page. -/
def sourceText (account : FileAccount) (numbered : List (LineNumber × List Char)) : List Char :=
  numbered.flatMap fun line =>
    paragraphText (LineMark.ofLine account line.1) line.1 line.2 ++ ['\n']

theorem sourceText_cons (account : FileAccount) (line : LineNumber × List Char)
    (rest : List (LineNumber × List Char)) :
    sourceText account (line :: rest)
      = paragraphText (LineMark.ofLine account line.1) line.1 line.2
        ++ '\n' :: sourceText account rest := by
  rw [sourceText, List.flatMap_cons, List.append_assoc]
  rfl

theorem toList_join_sourceLines (account : FileAccount) (n : Nat) (lines : List (List Char)) :
    (String.join (sourceLines account n lines)).toList
      = sourceText account (numbered n lines) := by
  rw [String.toList_join, sourceLines_eq, List.flatMap_map, sourceText]
  simp only [toList_sourceLine]

theorem not_mem_paragraphText (mark : LineMark) (n : LineNumber) {text : List Char}
    (h : '\n' ∉ text) : '\n' ∉ paragraphText mark n text := by
  have hnumber : '\n' ∉ Nat.toDigits 10 n.toNat := Numeral.not_mem_toDigits (by decide) _
  have hopen : '\n' ∉ "<p class=\"".toList := not_mem_ofList (by decide)
  have hnumbering : '\n' ∉ "\"><span class=\"n\">".toList := not_mem_ofList (by decide)
  have hnumbered : '\n' ∉ "</span>".toList := not_mem_ofList (by decide)
  have hclose : '\n' ∉ "</p>".toList := not_mem_ofList (by decide)
  unfold paragraphText
  simp only [List.mem_append, not_or]
  exact ⟨⟨⟨⟨⟨⟨hopen, (not_mem_className mark).2⟩, hnumbering⟩, hnumber⟩, hnumbered⟩,
    Entity.newline_not_mem_encode h⟩, hclose⟩

theorem head?_paragraphText (mark : LineMark) (n : LineNumber) (text : List Char) :
    (paragraphText mark n text).head? = some '<' := by
  unfold paragraphText
  rw [String.toList_ofList]
  rfl

/-- Every line of the source is a line of the page. -/
theorem lines_sourceText (account : FileAccount) {numbered : List (LineNumber × List Char)}
    (h : ∀ line ∈ numbered, '\n' ∉ line.2) (rest : List Char) :
    Text.lines (sourceText account numbered ++ rest)
      = numbered.map (fun line => paragraphText (LineMark.ofLine account line.1) line.1 line.2)
        ++ Text.lines rest := by
  induction numbered with
  | nil => rfl
  | cons line others ih =>
    rw [List.forall_mem_cons] at h
    have hlast : (paragraphText (LineMark.ofLine account line.1) line.1 line.2).getLast?
        ≠ some '\r' := by
      have hclose : "</p>".toList = "</p".toList ++ ['>'] := by
        rw [String.toList_ofList, String.toList_ofList]
        rfl
      unfold paragraphText
      rw [hclose, ← List.append_assoc, List.getLast?_concat]
      decide
    rw [sourceText_cons, List.append_assoc, List.cons_append,
      Text.lines_line (not_mem_paragraphText _ _ h.1) hlast, ih h.2]
    rfl

/-- Every line of the source takes the four tags of its paragraph. -/
theorem tagsIn_sourceText (account : FileAccount) (numbered : List (LineNumber × List Char))
    (rest : List Char) :
    tagsIn (sourceText account numbered ++ rest)
      = numbered.flatMap (fun line => (paragraphOf account line.1 line.2).tags)
        ++ tagsIn rest := by
  have hclass (mark : LineMark) :
      String.ofList ("p class=\"".toList ++ (mark.className.toList ++ ['"']))
        = "p class=\"" ++ mark.className ++ "\"" := by
    rw [String.ofList_append, String.ofList_append, String.ofList_toList, String.ofList_toList,
      String.append_assoc]
  have hnewline (rest : List Char) : tagsIn ('\n' :: rest) = tagsIn rest := by
    simp [tagsIn, scan]
  induction numbered with
  | nil => rfl
  | cons line others ih =>
    rw [sourceText_cons, List.append_assoc, List.cons_append, tagsIn, scan_paragraphText,
      List.map_append, ← tagsIn, hnewline, ih, List.flatMap_cons, List.append_assoc]
    simp only [List.map_cons, List.map_nil, hclass, String.ofList_toList]
    rfl

/-! ## The page around the source -/

/-- What a page says of a file in numbers. -/
def summary (account : FileAccount) : String :=
  toString account.totals.statements ++ " statements, " ++ toString account.totals.executed
    ++ " run, " ++ toString account.totals.missing ++ " missing, "
    ++ toString account.excluded.size ++ " excluded. "

/-- What stands in a page before the source. -/
def front (account : FileAccount) (name : String) : String :=
  "<!DOCTYPE html>\n<html>\n<head>\n    <meta charset=\"UTF-8\">\n    <title>"
    ++ ("Coverage for " ++ encode name ++ ("</title>\n    <style>" ++ (style
      ++ ("</style>\n</head>\n<body>\n    <h1>" ++ ("Coverage for " ++ encode name ++ ": "
        ++ account.totals.percentText ++ ("</h1>\n    <p>" ++ (summary account
          ++ "<a href=\"index.html\">Back to index</a></p>\n")))))))

theorem toList_ofList_append (first second : List Char) :
    (String.ofList first).toList ++ (String.ofList second).toList
      = (String.ofList (first ++ second)).toList := by
  rw [String.toList_ofList, String.toList_ofList, String.toList_ofList]

theorem toList_ofFile (account : FileAccount) (name source today : String) :
    (ofFile account name (.ok source) today).toList
      = (front account name).toList ++ ("    <div class=\"source\">".toList ++ '\n'
        :: (sourceText account (numbered 1 (Text.lines source.toList))
          ++ ("    </div>".toList ++ '\n'
            :: (Reading.ending ("Created at " ++ today ++ ".")).toList))) := by
  have hsummary :
      " excluded. <a href=\"index.html\">Back to index</a></p>\n    <div class=\"source\">\n".toList
      = " excluded. ".toList ++ ("<a href=\"index.html\">Back to index</a></p>\n".toList
        ++ ("    <div class=\"source\">".toList ++ "\n".toList)) := by
    rw [toList_ofList_append, toList_ofList_append, toList_ofList_append]
    rfl
  have hend : "\n".toList = ['\n'] := String.toList_ofList
  have hheading : "</h1>\n    <p>".toList = "</h1>\n".toList ++ "    <p>".toList := by
    rw [toList_ofList_append]
    rfl
  have hdiv : "    </div>\n".toList = "    </div>".toList ++ "\n".toList := by
    rw [toList_ofList_append]
    rfl
  rw [← toList_join_sourceLines]
  unfold ofFile frame front summary Reading.ending sourceBody
  simp only [String.toList_append, hsummary, hheading, hdiv, hend, List.append_assoc,
    List.cons_append, List.nil_append]

theorem not_mem_title (name : String) : '<' ∉ ("Coverage for " ++ encode name).toList := by
  rw [String.toList_append, List.mem_append, not_or]
  exact ⟨by simp, not_mem_encode name⟩

theorem not_mem_summary (account : FileAccount) : '<' ∉ (summary account).toList := by
  unfold summary
  simp only [String.toList_append, List.mem_append, not_or]
  refine ⟨⟨⟨⟨⟨⟨⟨?_, ?_⟩, ?_⟩, ?_⟩, ?_⟩, ?_⟩, ?_⟩, ?_⟩
  case refine_1 | refine_3 | refine_5 | refine_7 => exact not_mem_toString _
  all_goals exact not_mem_ofList (by decide)

theorem not_mem_heading (account : FileAccount) (name : String) :
    '<' ∉ ("Coverage for " ++ encode name ++ ": " ++ account.totals.percentText).toList := by
  rw [String.toList_append, String.toList_append, List.mem_append, List.mem_append, not_or, not_or]
  exact ⟨⟨not_mem_title name, by simp⟩, not_mem_percentText _⟩

theorem toList_front (account : FileAccount) (name : String) :
    (front account name).toList
      = "<!DOCTYPE html>\n<html>\n<head>\n    <meta charset=\"UTF-8\">\n    <title>".toList
        ++ (("Coverage for " ++ encode name).toList ++ ("</title>\n    <style>".toList
          ++ (style.toList ++ ("</style>\n</head>\n<body>\n    <h1>".toList
            ++ (("Coverage for " ++ encode name ++ ": " ++ account.totals.percentText).toList
              ++ ("</h1>\n    <p>".toList ++ ((summary account).toList
                ++ "<a href=\"index.html\">Back to index</a></p>\n".toList))))))) := by
  unfold front
  simp only [String.toList_append, List.append_assoc]

theorem scan_front (account : FileAccount) (name : String) (rest : List Char) :
    (scan none ((front account name).toList ++ rest)).2
      = [⟨"!DOCTYPE html".toList, ['\n']⟩, ⟨"html".toList, ['\n']⟩,
          ⟨"head".toList, "\n    ".toList⟩, ⟨"meta charset=\"UTF-8\"".toList, "\n    ".toList⟩,
          ⟨"title".toList, ("Coverage for " ++ encode name).toList⟩,
          ⟨"/title".toList, "\n    ".toList⟩, ⟨"style".toList, style.toList⟩,
          ⟨"/style".toList, ['\n']⟩, ⟨"/head".toList, ['\n']⟩, ⟨"body".toList, "\n    ".toList⟩,
          ⟨"h1".toList,
            ("Coverage for " ++ encode name ++ ": " ++ account.totals.percentText).toList⟩,
          ⟨"/h1".toList, "\n    ".toList⟩, ⟨['p'], (summary account).toList⟩,
          ⟨"a href=\"index.html\"".toList, "Back to index".toList⟩, ⟨"/a".toList, []⟩,
          ⟨"/p".toList, '\n' :: (scan none rest).1⟩] ++ (scan none rest).2 := by
  have hhead (rest : List Char) : scan none
      ("<!DOCTYPE html>\n<html>\n<head>\n    <meta charset=\"UTF-8\">\n    <title>".toList ++ rest)
      = ([], [⟨"!DOCTYPE html".toList, ['\n']⟩, ⟨"html".toList, ['\n']⟩,
          ⟨"head".toList, "\n    ".toList⟩, ⟨"meta charset=\"UTF-8\"".toList, "\n    ".toList⟩,
          ⟨"title".toList, (scan none rest).1⟩] ++ (scan none rest).2) := by
    repeat rw [String.toList_ofList]
    simp [scan]
  have hstyle (rest : List Char) : scan none ("</title>\n    <style>".toList ++ rest)
      = ([], [⟨"/title".toList, "\n    ".toList⟩, ⟨"style".toList, (scan none rest).1⟩]
        ++ (scan none rest).2) := by
    repeat rw [String.toList_ofList]
    simp [scan]
  have hbody (rest : List Char) :
      scan none ("</style>\n</head>\n<body>\n    <h1>".toList ++ rest)
      = ([], [⟨"/style".toList, ['\n']⟩, ⟨"/head".toList, ['\n']⟩, ⟨"body".toList, "\n    ".toList⟩,
          ⟨"h1".toList, (scan none rest).1⟩] ++ (scan none rest).2) := by
    repeat rw [String.toList_ofList]
    simp [scan]
  have hparagraph (rest : List Char) : scan none ("</h1>\n    <p>".toList ++ rest)
      = ([], [⟨"/h1".toList, "\n    ".toList⟩, ⟨['p'], (scan none rest).1⟩]
        ++ (scan none rest).2) := by
    repeat rw [String.toList_ofList]
    simp [scan]
  have hlink (rest : List Char) :
      scan none ("<a href=\"index.html\">Back to index</a></p>\n".toList ++ rest)
      = ([], [⟨"a href=\"index.html\"".toList, "Back to index".toList⟩, ⟨"/a".toList, []⟩,
          ⟨"/p".toList, '\n' :: (scan none rest).1⟩] ++ (scan none rest).2) := by
    repeat rw [String.toList_ofList]
    simp [scan]
  rw [toList_front]
  simp only [List.append_assoc]
  rw [hhead, scan_text (not_mem_title name), hstyle, scan_text not_mem_style, hbody,
    scan_text (not_mem_heading account name), hparagraph, scan_text (not_mem_summary account),
    hlink]
  simp only [List.append_nil, List.cons_append, List.nil_append]

/-- Nothing in a text looks like the start of a `div`, nor will it in front of another text. -/
def OpensNoDiv (text : List Char) : Prop :=
  ¬ ['<', 'd'] <:+: text ∧ text.getLast? ≠ some '<'

theorem OpensNoDiv.of_not_mem {text : List Char} (h : '<' ∉ text) : OpensNoDiv text := by
  constructor
  · intro hstart
    exact h (hstart.subset List.mem_cons_self)
  · intro hlast
    exact h (List.mem_of_getLast? hlast)

theorem OpensNoDiv.ofList {characters : List Char} (h : OpensNoDiv characters) :
    OpensNoDiv (String.ofList characters).toList := by
  rwa [String.toList_ofList]

theorem OpensNoDiv.append {a b : List Char} (ha : OpensNoDiv a) (hb : OpensNoDiv b) :
    OpensNoDiv (a ++ b) := by
  constructor
  · rintro ⟨before, behind, hsplit⟩
    rw [List.append_assoc] at hsplit
    rcases List.append_eq_append_iff.1 hsplit with ⟨c, ha', hb'⟩ | ⟨c, hbefore, hb'⟩
    · -- What looks like a start stands in `b`, across the seam, or in `a`.
      match c with
      | [] => exact hb.1 ⟨[], behind, hb'⟩
      | [x] =>
        obtain ⟨rfl, -⟩ := List.cons.inj hb'
        exact ha.2 (by rw [ha', List.getLast?_concat])
      | x :: y :: more =>
        obtain ⟨rfl, hrest⟩ := List.cons.inj hb'
        obtain ⟨rfl, -⟩ := List.cons.inj hrest
        exact ha.1 ⟨before, more, by rw [ha', List.append_assoc]; rfl⟩
    · exact hb.1 ⟨c, behind, by rw [hb', List.append_assoc]⟩
  · intro hlast
    rw [List.getLast?_append] at hlast
    cases hb' : b.getLast? with
    | none =>
      rw [hb'] at hlast
      exact ha.2 hlast
    | some last =>
      rw [hb'] at hlast
      exact hb.2 (hb'.trans hlast)

theorem opensNoDiv_front (account : FileAccount) (name : String) :
    OpensNoDiv (front account name).toList := by
  have hhead : OpensNoDiv
      "<!DOCTYPE html>\n<html>\n<head>\n    <meta charset=\"UTF-8\">\n    <title>".toList :=
    .ofList ⟨by decide +kernel, by decide⟩
  have hstyle : OpensNoDiv "</title>\n    <style>".toList :=
    .ofList ⟨by decide +kernel, by decide⟩
  have hbody : OpensNoDiv "</style>\n</head>\n<body>\n    <h1>".toList :=
    .ofList ⟨by decide +kernel, by decide⟩
  have hparagraph : OpensNoDiv "</h1>\n    <p>".toList :=
    .ofList ⟨by decide +kernel, by decide⟩
  have hlink : OpensNoDiv "<a href=\"index.html\">Back to index</a></p>\n".toList :=
    .ofList ⟨by decide +kernel, by decide⟩
  rw [toList_front]
  exact hhead.append ((OpensNoDiv.of_not_mem (not_mem_title name)).append (hstyle.append
    ((OpensNoDiv.of_not_mem not_mem_style).append (hbody.append
      ((OpensNoDiv.of_not_mem (not_mem_heading account name)).append (hparagraph.append
        ((OpensNoDiv.of_not_mem (not_mem_summary account)).append hlink)))))))

/-- The lines between the one that opens the source and the one that closes it are paragraphs for
    the lines of the source. -/
theorem sourceBlock_ofFile (account : FileAccount) (name source today : String) :
    sourceBlock (ofFile account name (.ok source) today)
      = (numbered 1 (Text.lines source.toList)).map fun line =>
          paragraphText (LineMark.ofLine account line.1) line.1 line.2 := by
  have hopening : '\n' ∉ "    <div class=\"source\">".toList ∧
      "    <div class=\"source\">".toList.getLast? ≠ some '\r' := by
    rw [String.toList_ofList]
    decide
  have hclosing : '\n' ∉ "    </div>".toList ∧ "    </div>".toList.getLast? ≠ some '\r' := by
    rw [String.toList_ofList]
    decide
  have hwhole : (front account name).toList.getLast? = some '\n' := by
    have hlink : "<a href=\"index.html\">Back to index</a></p>\n".toList
        = "<a href=\"index.html\">Back to index</a></p>".toList ++ "\n".toList := by
      rw [toList_ofList_append]
      rfl
    have hend : "\n".toList = ['\n'] := String.toList_ofList
    rw [toList_front, hlink, hend]
    simp only [← List.append_assoc]
    exact List.getLast?_concat
  have hsource : ∀ line ∈ numbered 1 (Text.lines source.toList), '\n' ∉ line.2 := by
    intro line hline
    obtain ⟨entry, hentry, rfl⟩ := List.mem_map.1 hline
    exact Text.newline_not_mem_of_mem_lines (List.fst_mem_of_mem_zipIdx hentry)
  have hnone : ∀ line ∈ Text.lines (front account name).toList,
      decide (line ≠ "    <div class=\"source\">".toList) = true := by
    intro line hline
    rw [decide_eq_true_iff]
    rintro rfl
    have hdiv : ['<', 'd'] <:+: "    <div class=\"source\">".toList := by
      rw [String.toList_ofList]
      exact ⟨[' ', ' ', ' ', ' '], _, rfl⟩
    exact (opensNoDiv_front account name).1 (hdiv.trans (Text.infix_of_mem_lines hline))
  have hparagraphs : ∀ line ∈ (numbered 1 (Text.lines source.toList)).map (fun line =>
      paragraphText (LineMark.ofLine account line.1) line.1 line.2),
      decide (line ≠ "    </div>".toList) = true := by
    intro line hline
    obtain ⟨entry, -, rfl⟩ := List.mem_map.1 hline
    rw [decide_eq_true_iff]
    intro hclose
    have hhead := congrArg List.head? hclose
    rw [head?_paragraphText] at hhead
    exact absurd hhead (by simp)
  rw [sourceBlock, toList_ofFile, Text.lines_append (.inr hwhole),
    Text.lines_line hopening.1 hopening.2, lines_sourceText account hsource,
    Text.lines_line hclosing.1 hclosing.2, List.dropWhile_append_of_pos hnone,
    List.dropWhile_cons_of_neg (by simp only [ne_eq, not_true, decide_false, Bool.false_eq_true,
      not_false_eq_true]), List.tail_cons, List.takeWhile_append_of_pos hparagraphs,
    List.takeWhile_cons_of_neg (by simp only [ne_eq, not_true, decide_false, Bool.false_eq_true,
      not_false_eq_true]), List.append_nil]

/-! ## Counting paragraphs -/

/-- The paragraphs for the lines of a source. -/
def paragraphs (account : FileAccount) (lines : List (List Char)) : List Paragraph :=
  (numbered 1 lines).map fun line => paragraphOf account line.1 line.2

theorem map_text_paragraphs (account : FileAccount) (lines : List (List Char)) :
    (paragraphs account lines).map (·.text) = lines := by
  rw [paragraphs, numbered, List.map_map, List.map_map]
  exact List.zipIdx_map_fst 1 lines

/-- Where a line is, there is its paragraph. -/
theorem eq_paragraphOf {account : FileAccount} {lines : List (List Char)} {k : LineNumber}
    {paragraph : Paragraph} (hk : 0 < k.toNat)
    (h : (paragraphs account lines)[k.toNat - 1]? = some paragraph) :
    paragraph = paragraphOf account k paragraph.text := by
  rw [paragraphs, List.getElem?_map, getElem?_numbered, Option.map_map] at h
  obtain ⟨text, -, rfl⟩ := Option.map_eq_some_iff.1 h
  show paragraphOf account (UInt32.ofNat (1 + (k.toNat - 1))) text = _
  rw [Nat.add_sub_cancel' hk, UInt32.ofNat_toNat]
  rfl

/-- The paragraphs of a class. There are only so many line numbers, so what stands behind the last
    one is not counted. -/
def counted (className : String) (shown : List Paragraph) : Nat :=
  (shown.take (UInt32.size - 1)).countP fun paragraph => paragraph.className = className

/-- The numbers of the lines of a text with so many lines. -/
def lineNumbers (count : Nat) : List LineNumber :=
  (List.range' 1 (min count (UInt32.size - 1))).map UInt32.ofNat

theorem mem_lineNumbers {count : Nat} {n : LineNumber} :
    n ∈ lineNumbers count ↔ 0 < n ∧ n.toNat ≤ count := by
  have hlt := n.toNat_lt
  have hpos : 0 < n ↔ 0 < n.toNat := UInt32.lt_iff_toNat_lt
  have hsize : UInt32.size = 2 ^ 32 := rfl
  rw [lineNumbers, List.mem_map, hpos]
  constructor
  · rintro ⟨k, hk, rfl⟩
    rw [List.mem_range'_1] at hk
    rw [UInt32.toNat_ofNat_of_lt' (by omega)]
    omega
  · rintro ⟨hn, hcount⟩
    exact ⟨n.toNat, List.mem_range'_1.2 (by omega), UInt32.ofNat_toNat⟩

theorem nodup_lineNumbers (count : Nat) : (lineNumbers count).Nodup := by
  have hsize : UInt32.size = 2 ^ 32 := rfl
  refine List.Nodup.map_on ?_ List.nodup_range'
  intro j hj k hk heq
  rw [List.mem_range'_1] at hj hk
  have hvalues := congrArg UInt32.toNat heq
  rw [UInt32.toNat_ofNat_of_lt' (by omega), UInt32.toNat_ofNat_of_lt' (by omega)] at hvalues
  exact hvalues

theorem take_numbered (lines : List (List Char)) :
    ((numbered 1 lines).take (UInt32.size - 1)).map Prod.fst = lineNumbers lines.length := by
  have hnumbers : (numbered 1 lines).map Prod.fst
      = (List.range' 1 lines.length).map UInt32.ofNat := by
    rw [numbered, List.map_map, ← List.zipIdx_map_snd 1 lines, List.map_map]
    rfl
  rw [List.map_take, hnumbers, lineNumbers, ← List.map_take, List.range'_eq_map_range,
    List.range'_eq_map_range, ← List.map_take, List.take_range, Nat.min_comm]

theorem className_inj {mark other : LineMark} (h : mark.className = other.className) :
    mark = other := by
  revert h
  cases mark <;> cases other <;> decide

/-- If the lines with a mark are those of a set, so many paragraphs show it. -/
theorem counted_eq_size {account : FileAccount} {mark : LineMark} {set : LineSet}
    {lines : List (List Char)} (hmark : ∀ n, LineMark.ofLine account n = mark ↔ n ∈ set)
    (hrange : ∀ n ∈ set, 0 < n ∧ n.toNat ≤ lines.length) :
    counted mark.className (paragraphs account lines) = set.size := by
  have hclass (n : LineNumber) :
      (LineMark.ofLine account n).className = mark.className ↔ n ∈ set := by
    rw [← hmark]
    exact ⟨className_inj, congrArg _⟩
  have hcount : counted mark.className (paragraphs account lines)
      = (lineNumbers lines.length).countP fun n => n ∈ set := by
    rw [counted, paragraphs, ← List.map_take, List.countP_map, ← take_numbered, List.countP_map]
    refine List.countP_congr fun line _ => ?_
    simp [paragraphOf, hclass]
  have hperm : ((lineNumbers lines.length).filter fun n => n ∈ set).Perm set.lines := by
    refine (List.perm_ext_iff_of_nodup ((nodup_lineNumbers _).filter _) set.nodup).2 fun n => ?_
    rw [List.mem_filter, decide_eq_true_iff, mem_lineNumbers, LineSet.mem_iff]
    exact ⟨fun hn => hn.2, fun hn => ⟨hrange n hn, hn⟩⟩
  rw [hcount, List.countP_eq_length_filter, hperm.length_eq]
  rfl

/-! ## Marks of an account from counts -/

section Marks

variable {hits : FileHits} {boundary : Option LineNumber} {n : LineNumber}

/-- What counts is not left out. -/
theorem not_mem_excluded_of_mem_statements
    (h : n ∈ (FileAccount.ofHits hits boundary).statements) :
    n ∉ (FileAccount.ofHits hits boundary).excluded := by
  intro hexcluded
  obtain ⟨_, -, hin⟩ := LineCounts.mem_linesWhere.1 h
  obtain ⟨_, -, hout⟩ := LineCounts.mem_linesWhere.1 hexcluded
  rw [hout] at hin
  cases hin

theorem ofLine_eq_excluded_iff (account : FileAccount) :
    LineMark.ofLine account n = .excluded ↔ n ∈ account.excluded := by
  unfold LineMark.ofLine
  split
  · simpa
  · rename_i hout
    refine ⟨fun h => ?_, fun h => absurd h hout⟩
    split at h
    · cases h
    · split at h <;> cases h

theorem ofLine_eq_run_iff :
    LineMark.ofLine (.ofHits hits boundary) n = .run
      ↔ n ∈ (FileAccount.ofHits hits boundary).executed := by
  have hsound := FileAccount.isSound_ofHits hits boundary
  unfold LineMark.ofLine
  split
  case isTrue hout =>
    refine ⟨fun h => ?_, fun h => ?_⟩
    · cases h
    · exact absurd hout (not_mem_excluded_of_mem_statements (hsound n h))
  split
  case isTrue hran => simpa
  case isFalse hran =>
    refine ⟨fun h => ?_, fun h => absurd h hran⟩
    split at h <;> cases h

theorem ofLine_eq_missing_iff :
    LineMark.ofLine (.ofHits hits boundary) n = .missing
      ↔ n ∈ (FileAccount.ofHits hits boundary).missing := by
  rw [FileAccount.missing, LineSet.mem_diff]
  unfold LineMark.ofLine
  split
  case isTrue hout =>
    refine ⟨fun h => ?_, fun h => ?_⟩
    · cases h
    · exact absurd hout (not_mem_excluded_of_mem_statements h.1)
  split
  case isTrue hran =>
    refine ⟨fun h => ?_, fun h => absurd hran h.2⟩
    cases h
  case isFalse hran =>
    split
    case isTrue hcounts => exact ⟨fun _ => ⟨hcounts, hran⟩, fun _ => rfl⟩
    case isFalse hcounts =>
      refine ⟨fun h => ?_, fun h => absurd h.1 hcounts⟩
      cases h

/-- From the boundary on, no line counts. -/
theorem not_mem_statements_of_beyond (h : FileAccount.beyond boundary n = true) :
    n ∉ (FileAccount.ofHits hits boundary).statements := by
  intro hcounts
  obtain ⟨_, -, hin⟩ := LineCounts.mem_linesWhere.1 hcounts
  rw [h] at hin
  cases hin

/-- A rule leaves out every line from one with its marker on. -/
theorem beyond_start? {rule : Boundary} {source : String} {i : Nat} {line : List Char}
    (hline : (Text.lines source.toList)[i]? = some line) (hmarker : rule.marker.toList <:+: line)
    (hn : i < n.toNat) : FileAccount.beyond (rule.start? source) n = true := by
  unfold Boundary.start? FileAccount.beyond
  have hsome : ((Text.lines source.toList).findIdx?
      fun line => standsIn rule.marker.toList line).isSome := by
    rw [List.findIdx?_isSome, List.any_eq_true]
    exact ⟨line, List.mem_of_getElem? hline, standsIn_iff.2 hmarker⟩
  obtain ⟨first, hfirst⟩ := Option.isSome_iff_exists.1 hsome
  rw [hfirst, Option.map_some, Option.any_some, decide_eq_true_iff]
  have hle : first ≤ i := by
    by_contra hlt
    obtain ⟨hlength, -, hbefore⟩ := List.findIdx?_eq_some_iff_getElem.1 hfirst
    obtain ⟨hi, hget⟩ := List.getElem?_eq_some_iff.1 hline
    have hnot := hbefore i (by omega)
    rw [hget, standsIn_iff.2 hmarker] at hnot
    exact absurd rfl hnot
  have hlt := n.toNat_lt
  rw [UInt32.le_iff_toNat_le, UInt32.toNat_ofNat_of_lt' (show first + 1 < UInt32.size by
    show first + 1 < 2 ^ 32
    omega)]
  omega

/-- If all lines of an account are lines of the source, the paragraphs have its figures. -/
theorem summary_eq_counted {lines : List (List Char)}
    (hrange : ∀ n, n ∈ (FileAccount.ofHits hits boundary).statements ∨
      n ∈ (FileAccount.ofHits hits boundary).excluded → 0 < n ∧ n.toNat ≤ lines.length) :
    let shown := paragraphs (.ofHits hits boundary) lines
    summary (.ofHits hits boundary)
      = toString (counted "run" shown + counted "mis" shown) ++ " statements, "
        ++ toString (counted "run" shown) ++ " run, " ++ toString (counted "mis" shown)
        ++ " missing, " ++ toString (counted "exc" shown) ++ " excluded. " := by
  intro shown
  have hsound := FileAccount.isSound_ofHits hits boundary
  have hrun : counted "run" shown = _ := counted_eq_size (fun n => ofLine_eq_run_iff (n := n))
    fun n hn => hrange n (.inl (hsound n hn))
  have hmissing : counted "mis" shown = _ :=
    counted_eq_size (fun n => ofLine_eq_missing_iff (n := n))
      fun n hn => hrange n (.inl (LineSet.mem_diff.1 hn).1)
  have hexcluded : counted "exc" shown = _ :=
    counted_eq_size (fun n => ofLine_eq_excluded_iff (n := n) (.ofHits hits boundary))
      fun n hn => hrange n (.inr hn)
  rw [summary, hsound.missing_totals, hrun, hmissing, hexcluded, ← hsound.size_statements]
  rfl

/-- A line from the boundary on is neither shown as run nor as missing. -/
theorem className_paragraphOf_of_beyond (h : FileAccount.beyond boundary n = true)
    (text : List Char) :
    (paragraphOf (.ofHits hits boundary) n text).className ≠ LineMark.run.className ∧
      (paragraphOf (.ofHits hits boundary) n text).className ≠ LineMark.missing.className := by
  have hstatements : n ∉ (FileAccount.ofHits hits boundary).statements :=
    not_mem_statements_of_beyond h
  constructor
  · intro hrun
    have hmem := ofLine_eq_run_iff.1 (className_inj hrun)
    exact hstatements (FileAccount.isSound_ofHits hits boundary n hmem)
  · intro hmissing
    have hmem := ofLine_eq_missing_iff.1 (className_inj hmissing)
    exact hstatements (LineSet.mem_diff.1 hmem).1

end Marks

/-! ## The page of a file -/

/-- The tags of a page up to the one that opens the source. -/
def headTags : List String :=
  ["!DOCTYPE html", "html", "head", "meta charset=\"UTF-8\"", "title", "/title", "style", "/style",
    "/head", "body", "h1", "/h1", "p", "a href=\"index.html\"", "/a", "/p", "div class=\"source\""]

/-- No name and no source adds a tag to a page. -/
theorem tagsOf_ofFile (account : FileAccount) (name source today : String) :
    tagsOf (ofFile account name (.ok source) today)
      = headTags
        ++ (numbered 1 (Text.lines source.toList)).flatMap
          (fun line => (paragraphOf account line.1 line.2).tags)
        ++ "/div" :: tagsOf (Reading.ending ("Created at " ++ today ++ ".")) := by
  have hopening (rest : List Char) : tagsIn ("    <div class=\"source\">".toList ++ '\n' :: rest)
      = "div class=\"source\"" :: tagsIn rest := by
    rw [String.toList_ofList]
    simp [tagsIn, scan]
  have hclosing (rest : List Char) :
      tagsIn ("    </div>".toList ++ '\n' :: rest) = "/div" :: tagsIn rest := by
    rw [String.toList_ofList]
    simp [tagsIn, scan]
  rw [tagsOf, toList_ofFile, tagsIn, scan_front, List.map_append, ← tagsIn, hopening,
    tagsIn_sourceText, hclosing]
  simp only [List.map_cons, List.map_nil, String.ofList_toList, headTags, List.cons_append,
    List.nil_append, tagsOf]

theorem summaryOf_ofFile (account : FileAccount) (name source today : String) :
    summaryOf (ofFile account name (.ok source) today) = some (summary account) := by
  rw [summaryOf, toList_ofFile, scan_front]
  repeat rw [String.toList_ofList]
  simp

/-- The page of a file shows every line of its source with its number and unchanged, marked with
    what the account says of it, and has no other lines and tags for the source, whatever stands
    there and whatever the file is called. If the account was made from counts for lines of this
    source, the page counts its own paragraphs; if a rule was applied to this source, no paragraph
    from the marker on says that it has run or is missing. -/
theorem source_shown (account : FileAccount) (name source today : String) :
    let page := ofFile account name (.ok source) today
    let lines := Text.lines source.toList
    ∃ shown : List Paragraph,
      (sourceBlock page).mapM Paragraph.read? = some shown ∧
      (sourceBlock page).length = lines.length ∧
      shown.map (·.text) = lines ∧
      (∀ (k : LineNumber) (paragraph : Paragraph), 0 < k → shown[k.toNat - 1]? = some paragraph →
        paragraph.number = k.toNat ∧
        paragraph.className =
          if k ∈ account.excluded then "exc"
          else if k ∈ account.executed then "run"
          else if k ∈ account.statements then "mis"
          else "pln") ∧
      tagsOf page
        = headTags ++ shown.flatMap Paragraph.tags
          ++ "/div" :: tagsOf (Reading.ending ("Created at " ++ today ++ ".")) ∧
      (∀ hits boundary, account = .ofHits hits boundary →
        (∀ n, n ∈ account.statements ∨ n ∈ account.excluded → 0 < n ∧ n.toNat ≤ lines.length) →
        summaryOf page
          = some (toString (counted "run" shown + counted "mis" shown) ++ " statements, "
            ++ toString (counted "run" shown) ++ " run, " ++ toString (counted "mis" shown)
            ++ " missing, " ++ toString (counted "exc" shown) ++ " excluded. ")) ∧
      (∀ hits (rule : Boundary), account = .ofHits hits (rule.start? source) →
        ∀ (i : Nat) (line : List Char), lines[i]? = some line → rule.marker.toList <:+: line →
        ∀ (k : LineNumber) (paragraph : Paragraph), i < k.toNat →
          shown[k.toNat - 1]? = some paragraph →
          paragraph.className ≠ "run" ∧ paragraph.className ≠ "mis") := by
  intro page lines
  refine ⟨paragraphs account lines, ?_, ?_, map_text_paragraphs account lines, ?_, ?_, ?_, ?_⟩
  · rw [sourceBlock_ofFile]
    exact mapM_map_of_read fun line _ => read?_paragraphText account line.1 line.2
  · rw [sourceBlock_ofFile, List.length_map, numbered, List.length_map, List.length_zipIdx]
  · intro k paragraph hk hparagraph
    rw [eq_paragraphOf (UInt32.lt_iff_toNat_lt.1 hk) hparagraph]
    refine ⟨rfl, ?_⟩
    unfold paragraphOf LineMark.ofLine
    split
    · rfl
    split
    · rfl
    split <;> rfl
  · rw [tagsOf_ofFile, paragraphs, List.flatMap_map]
  · rintro hits boundary rfl hrange
    rw [summaryOf_ofFile, summary_eq_counted hrange]
  · rintro hits rule rfl i line hline hmarker k paragraph hk hparagraph
    rw [eq_paragraphOf (by omega) hparagraph]
    exact className_paragraphOf_of_beyond (beyond_start? hline hmarker hk) paragraph.text

end Page
end SuiteCoverage
