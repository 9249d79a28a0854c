import FlatStyle.CommandLine
import FlatStyle.Proofs.Document.Graft
import FlatStyle.Proofs.Report.Elements
import FlatStyle.Proofs.Session.Warnings

namespace FlatStyle

/-- A path in cyan, then a line with a dimmed name for each property. -/
def ElementStyle.printed (e : ElementStyle) : String :=
  "\x1b[36m" ++ String.intercalate " > " e.path ++ "\x1b[39m\n" ++
    String.join (e.properties.toList.map fun p => "  \x1b[2m" ++ p.1 ++ "\x1b[0m: " ++ p.2 ++ "\n")

def Rule.colored (r : Rule) : String :=
  "\x1b[32m" ++ r.selector ++ "\x1b[39m \x7b " ++ r.declaration ++ " \x7d\n"

def Warning.printed (w : Warning) : String :=
  "\x1b[33m[Wren " ++ w.component ++ "] warning: " ++ w.message ++ "\x1b[39m\n"

namespace CommandLine

section Unlines

variable {α : Type}

@[simp] theorem unlines_nil : unlines [] = "" := rfl

@[simp] theorem unlines_cons (line : String) (lines : List String) :
    unlines (line :: lines) = line ++ "\n" ++ unlines lines := by
  rw [unlines, List.map_cons, String.join_cons]
  rfl

@[simp] theorem unlines_append (lines lines' : List String) :
    unlines (lines ++ lines') = unlines lines ++ unlines lines' := by
  rw [unlines, List.map_append, String.join_append]
  rfl

theorem unlines_map (f : α → String) (items : List α) :
    unlines (items.map f) = String.join (items.map fun item => f item ++ "\n") := by
  rw [unlines, List.map_map]
  rfl

theorem unlines_flatMap (f : α → List String) (items : List α) :
    unlines (items.flatMap f) = String.join (items.map fun item => unlines (f item)) := by
  induction items with
  | nil => rfl
  | cons item items ih =>
      rw [List.flatMap_cons, unlines_append, ih, List.map_cons, String.join_cons]

end Unlines

theorem echo_newline (w : Warning) : w.echo ++ "\n" = w.printed := by
  rw [← String.toList_inj]
  simp [Warning.echo, Warning.printed]

theorem unlines_echoes (ws : List Warning) :
    unlines (ws.map Warning.echo) = String.join (ws.map Warning.printed) := by
  rw [unlines_map, funext echo_newline]

theorem ruleLine_newline (r : Rule) : r.line ++ "\n" = r.colored := by
  rw [← String.toList_inj]
  simp [Rule.line, Rule.colored, green]

theorem propertyLine_newline (p : String × String) : "  " ++ dimmed p.1 ++ ": " ++ p.2 ++ "\n" =
    "  \x1b[2m" ++ p.1 ++ "\x1b[0m: " ++ p.2 ++ "\n" := by
  rw [← String.toList_inj]
  simp [dimmed]

theorem unlines_elementLines (e : ElementStyle) : unlines e.lines = e.printed := by
  rw [ElementStyle.lines, unlines_cons, unlines_map, funext propertyLine_newline,
    ← String.toList_inj]
  simp [ElementStyle.printed, ElementStyle.pathText, cyan]

theorem unlines_reportLines (r : Report) (withRules : Bool) :
    unlines (r.lines withRules) =
      (if withRules then
        "\x1b[1m=== Rules ===\x1b[0m\n" ++ String.join (r.rules.map Rule.colored) ++ "\n"
      else "") ++
      "\x1b[1m=== Resolved Styles ===\x1b[0m\n" ++
      String.join (r.elements.map ElementStyle.printed) ++ "\n" ++
      toString r.elements.length ++ " styled elements, " ++
      toString r.warnings.length ++ " warnings\n" := by
  have helements : unlines (r.elements.flatMap ElementStyle.lines) =
      String.join (r.elements.map ElementStyle.printed) := by
    rw [unlines_flatMap, funext unlines_elementLines]
  have hrules : unlines (r.rules.map Rule.line) = String.join (r.rules.map Rule.colored) := by
    rw [unlines_map, funext ruleLine_newline]
  rw [Report.lines, ← String.toList_inj]
  cases withRules <;> simp [helements, hrules, bold]

theorem respondPage_eq {render : JsonValue → String} {o : Options} {sources : List Source}
    {report : Report} (h : (Document.ofSources sources).report o.all (!o.quiet) = .ok report) :
    respondPage render o sources =
      ⟨0, if o.json then render (report.json o.rules) ++ "\n" else unlines (report.lines o.rules),
        unlines report.echoed⟩ := by
  delta respondPage
  rw [h]

end CommandLine

theorem Document.report_eq {d : Document} {styles : SortedMap NodeId PropertyMap}
    (hstyles : d.styles (.ofSheet d.sheet) = .ok styles) (h : d.Fits styles)
    (all echoing : Bool) : d.report all echoing =
      .ok ⟨d.sheet.rules, (d.wantedNodes styles all).map d.entry,
        ((Session.start echoing).readDocument d).log.texts,
        ((Session.start echoing).readDocument d).log.echoed⟩ := by
  have hindex : ((Session.start echoing).readDocument d).index = .ofSheet d.sheet := rfl
  rw [report]
  simp only [hindex, hstyles, Except.mapError, bind, Except.bind]
  rw [elementStyles_eq h]
  rfl

/-- The texts under which warnings are recorded, in byte order, and the warnings that are shown, one
for each text. -/
structure Warning.Reported (ws : List Warning) (texts : List String) (shown : List Warning) :
    Prop where
  sorted : texts.Pairwise fun a b => Text.bytes a < Text.bytes b
  complete : ∀ w ∈ ws, "[" ++ w.component ++ "] " ++ w.message ∈ texts
  sublist : shown.Sublist ws
  perm : (shown.map fun w => "[" ++ w.component ++ "] " ++ w.message).Perm texts

theorem Session.reported_readDocument (s : Session) (d : Document) :
    Warning.Reported d.sheet.warnings (s.readDocument d).log.texts
      (Warning.firsts d.sheet.warnings) where
  sorted := (sorted_texts _).imp Text.bytes_lt
  complete w hw := by
    have hrecorded := s.log.texts_recordAll_clear d.sheet.warnings
    exact hrecorded.mem_iff.2 (List.mem_dedup.2 (List.mem_map_of_mem hw))
  sublist := Warning.firsts_sublist _
  perm := (Warning.texts_firsts_perm _).trans
    (s.log.texts_recordAll_clear d.sheet.warnings).symm

open CommandLine in
/-- Reporting on a page never fails, whatever is asked for. The elements are the nodes that have a
style, each once and in document order; unless all of them are wanted, those without properties are
left out. The summary of the text counts the warnings that the JSON holds, and as many are shown
unless the answer is to be quiet. -/
theorem respondPage_exact (render : JsonValue → String) (sources : List Source) :
    let d := Document.ofSources sources
    ∃ (styles : SortedMap NodeId PropertyMap) (texts : List String) (shown : List Warning),
      (∀ s : Session, d.styles (s.readDocument d).index = .ok styles) ∧
      Warning.Reported d.sheet.warnings texts shown ∧ shown.length = texts.length ∧
      ∀ o : Options, ∃ elements full : List ElementStyle,
        d.Lists styles o.all elements ∧ d.Lists styles true full ∧
        (elements = full.filter fun element => o.all || !element.properties.isEmpty) ∧
        (respondPage render o sources).code = 0 ∧
        (respondPage render o sources).output =
          (if o.json then
            render (.object (
              (if o.rules then
                [("rules", .object [("rules", .array (d.sheet.rules.map fun r =>
                  .object [("selector", .string r.selector),
                    ("declaration", .string r.declaration)]))])]
              else []) ++
              [("elements", .array (elements.map fun element =>
                .object [("path", .string (String.intercalate " > " element.path)),
                  ("properties", .object (element.properties.toList.map fun p =>
                    (p.1, .string p.2)))]))] ++
              (if texts.isEmpty then [] else [("warnings", .array (texts.map .string))]))) ++ "\n"
          else
            (if o.rules then
              "\x1b[1m=== Rules ===\x1b[0m\n" ++
                String.join (d.sheet.rules.map Rule.colored) ++ "\n"
            else "") ++
            "\x1b[1m=== Resolved Styles ===\x1b[0m\n" ++
            String.join (elements.map ElementStyle.printed) ++ "\n" ++
            toString elements.length ++ " styled elements, " ++
            toString texts.length ++ " warnings\n") ∧
        (respondPage render o sources).errors =
          if o.quiet then "" else String.join (shown.map Warning.printed) := by
  intro d
  obtain ⟨styles, hstyles, hfits⟩ := d.exists_styles (.ofSheet d.sheet)
  -- Whether warnings are shown makes no difference to what is recorded.
  have htexts : ∀ echoing, ((Session.start echoing).readDocument d).log.texts =
      ((Session.start false).readDocument d).log.texts :=
    fun echoing => Session.texts_readDocument _ _ d
  have hreported := (Session.start false).reported_readDocument d
  have hd : d.Proper := Document.proper_ofSources sources
  refine ⟨styles, _, _, fun _ => hstyles, hreported, ?_, fun o =>
    ⟨_, _, Document.lists_entries hd hfits o.all, Document.lists_entries hd hfits true,
      Document.entries_wanted o.all, ?_⟩⟩
  · rw [← hreported.perm.length_eq, List.length_map]
  · have hreport := Document.report_eq hstyles hfits o.all (!o.quiet)
    rw [htexts, Session.echoed_readDocument] at hreport
    rw [respondPage_eq hreport]
    refine ⟨rfl, ?_, ?_⟩
    · rw [unlines_reportLines]
      rfl
    · cases o.quiet with
      | false => exact unlines_echoes _
      | true => rfl

/-- A division that has no properties around a paragraph with one. -/
example : (CommandLine.respondPage (fun _ => "") .none
    [.node (.element "div" [])
      [.node (.element "p" [("id", "x"), ("style", "color:RED")]) []]]).output =
    "\x1b[1m=== Resolved Styles ===\x1b[0m\n\x1b[36mdiv > p#x\x1b[39m\n" ++
      "  \x1b[2mcolor\x1b[0m: red\n\n1 styled elements, 0 warnings\n" := by
  decide +kernel

end FlatStyle
