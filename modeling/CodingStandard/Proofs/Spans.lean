import CodingStandard.Proofs.Indentation
import CodingStandard.Proofs.Isolation
import CodingStandard.Proofs.OrderedTree

namespace CodingStandard

/-!
# Where messages point

A message points at the node that it is about, at the top of the file, at a line of a docstring,
into a line of the source or behind the indentation of one. The main statement says what this
means for the spans of the violations: all of them start on or behind the start of their line,
and they end on it unless they stand on a line of a docstring or behind a tab.
-/

/-! ## Lines of a file -/

theorem Module.line?_eq_some {m : Module} {number : Nat} {text : Text} :
    m.line? number = some text ↔
      0 < number ∧ (Text.lines m.source)[number - 1]? = some text := by
  rw [Module.line?]
  split_ifs with h
  · simp [h]
  · simp [Nat.pos_iff_ne_zero, h]

theorem Module.line?_of_mem_scan {m : Module} {line : PhysicalLine}
    (h : line ∈ (scan m.source).physical) : m.line? line.number = some line.text :=
  line?_eq_some.mpr (number_of_mem_scan h)

namespace Sink

variable {t : Text} {line : Nat}

theorem clampLine_pos (t : Text) (line : Nat) : 0 < clampLine t line := Nat.le_max_left ..

theorem clampLine_le (t : Text) (line : Nat) : clampLine t line ≤ max 1 (Text.lines t).length :=
  max_le (Nat.le_max_left ..) (Nat.min_le_right ..)

theorem clampLine_eq (hpos : 0 < line) (hle : line ≤ (Text.lines t).length) :
    clampLine t line = line := by
  rw [clampLine, Nat.min_eq_left (hle.trans (Nat.le_max_right ..)), Nat.max_eq_right hpos]

theorem clampLine_of_line? {m : Module} {text : Text} (h : m.line? line = some text) :
    clampLine m.source line = line := by
  obtain ⟨hpos, hline⟩ := Module.line?_eq_some.mp h
  obtain ⟨hlt, -⟩ := List.getElem?_eq_some_iff.mp hline
  exact clampLine_eq hpos (Nat.le_of_pred_lt hlt)

variable {file : SourceFile} {column : Nat}

theorem offset_locate (file : SourceFile) (hpos : 0 < line) (column : Nat) :
    (locate file line column).offset = Text.offsetAt file.content line 1 +
      if line ≤ (Text.lines file.content).length then column - 1 else 0 := by
  change Text.offsetAt file.content line (max column 1) = _
  split_ifs with hle
  · rw [Text.offsetAt_eq hpos hle]
    omega
  · -- A file without lines has no place but its start.
    rw [Text.offsetAt_of_lt (Nat.lt_of_not_le hle), Text.offsetAt_of_lt (Nat.lt_of_not_le hle)]

theorem length_locate (h : 0 < column) : (locate file line column).length = 0 :=
  if_neg (Nat.pos_iff_ne_zero.mp h)

theorem stop_locate_le (file : SourceFile) (hpos : 0 < line) (hcolumn : 0 < column)
    (h : column ≤ Text.lineLength file.content line + 1) :
    (locate file line column).offset + (locate file line column).length ≤
      Text.offsetAt file.content line 1 + Text.lineLength file.content line := by
  rw [offset_locate file hpos, length_locate hcolumn]
  split_ifs <;> omega

end Sink

/-! ## The five sorts of places -/

/-- The messages that are emitted at some place of a module. -/
inductive Emission.Placed (m : Module) : Emission → Prop where
  /-- At the node that the message is about. -/
  | atNode (node : Nat) (code : String) (args : List String) :
      Placed m (.about m node code (m.lineOf node) args)
  /-- On the first line of the file. -/
  | atTop (node : Nat) (code : String) (args : List String) (htop : m.columnOf node = 0) :
      Placed m (.about m node code 1 args)
  /-- On a line of the docstring of a node. -/
  | inDocstring (node : Nat) (code : String) (line : Nat) (args : List String)
      (hcode : code ∈ DocstringRule.lineCodes) : Placed m (.about m node code line args)
  /-- On a line of the source, or right behind it. -/
  | inLine (code : String) (line column : Nat) (args : List String) (text : Text)
      (hcode : code ∉ DocstringRule.lineCodes) (htext : m.line? line = some text)
      (hcolumn : column ≤ Text.byteLength text) : Placed m (.atPlace code line (column + 1) args)
  /-- As far into a line of the source as the indentation of the line is wide. -/
  | behindIndentation (code : String) (line : Nat) (args : List String) (text : Text)
      (hcode : code ∈ Spacing.indentCodes) (htext : m.line? line = some text) :
      Placed m (.atPlace code line (indentWidth text + 1) args)

/-- The node stands at a place of the source or starts its line. -/
def Module.Anchored (m : Module) (id : Nat) : Prop :=
  m.columnOf id = 0 ∨ (m.place id).Marks m.source

namespace Module.Anchored

variable {m : Module} {id : Nat}

theorem exists_line (h : m.Anchored id) :
    m.columnOf id = 0 ∨ ∃ text, m.line? (m.lineOf id) = some text ∧
      m.columnOf id ≤ Text.byteLength text := by
  rcases h with hzero | hmarks
  · exact .inl hzero
  · refine hmarks.exists_line.imp_right ?_
    rintro ⟨text, hpos, hline, hcolumn⟩
    exact ⟨text, line?_eq_some.mpr ⟨hpos, hline⟩, hcolumn⟩

theorem columnOf_eq_zero (h : m.Anchored id) (hlines : Text.lines m.source = []) :
    m.columnOf id = 0 := by
  rcases h.exists_line with hzero | ⟨text, htext, -⟩
  · exact hzero
  · obtain ⟨-, hline⟩ := line?_eq_some.mp htext
    simp [hlines] at hline

end Module.Anchored

namespace Emission.Placed

variable {m : Module} {e : Emission}

theorem column_pos (h : e.Placed m) : 0 < e.column := by
  cases h <;> exact Nat.succ_pos _

theorem exists_node (h : e.Placed m) (hcode : e.message ∈ DocstringRule.lineCodes) :
    ∃ node, e.node = some node ∧ e.column = m.columnOf node + 1 := by
  cases h with
  | atNode node | atTop node | inDocstring node => exact ⟨node, rfl, rfl⟩
  | inLine code line column args text hother => exact absurd hcode hother
  | behindIndentation code line args text hindented =>
      have hother : ∀ code ∈ Spacing.indentCodes, code ∉ DocstringRule.lineCodes := by
        decide
      exact absurd hcode (hother code hindented)

theorem column_le_of_line? {line column : Nat} {text : Text} (htext : m.line? line = some text)
    (hcolumn : column ≤ Text.byteLength text) :
    column + 1 ≤ Text.lineLength m.source (Sink.clampLine m.source line) + 1 := by
  rw [Sink.clampLine_of_line? htext]
  obtain ⟨hpos, hline⟩ := Module.line?_eq_some.mp htext
  rw [Text.lineLength_eq hpos hline]
  exact Nat.succ_le_succ hcolumn

theorem column_le (h : e.Placed m) (hnode : ∀ id ∈ e.node, m.Anchored id)
    (hcode : e.message ∉ DocstringRule.lineCodes)
    (htab : e.message ∈ Spacing.indentCodes → ∀ text, m.line? e.line = some text →
      '\t' ∉ Text.indentation text) :
    e.column ≤ Text.lineLength m.source (Sink.clampLine m.source e.line) + 1 := by
  cases h with
  | atNode node code args =>
      rcases (hnode node rfl).exists_line with hzero | ⟨text, htext, hcolumn⟩
      · simp [about, hzero]
      · exact column_le_of_line? htext hcolumn
  | atTop node code args htop => simp [about, htop]
  | inDocstring node code line args hindocstring => exact absurd hindocstring hcode
  | inLine code line column args text _ htext hcolumn => exact column_le_of_line? htext hcolumn
  | behindIndentation code line args text hindented htext =>
      -- Without tabs, an indentation is as wide as it is long, or less wide after a form feed.
      exact column_le_of_line? htext (indentWidth_le (htab hindented text htext))

end Emission.Placed

/-! ## The places of the checkers -/

/-- What a checker finds when a check of a module calls it. -/
structure Site.Visited (site : Site) (c : Checker) : Prop where
  lines : site.lines = scan site.home.source
  top : ∀ id doc, site.home.kind? id = some (.root doc) → site.home.columnOf id = 0
  hook : ∃ kind, site.home.kind? site.node = some kind ∧ kind.tag ∈ c.hooks

theorem Site.Visited.column_eq_zero {site : Site} {c : Checker} (h : site.Visited c)
    (hroot : ∀ kind, site.home.kind? site.node = some kind → kind.tag ∈ c.hooks →
      kind.tag = .root) : site.home.columnOf site.node = 0 := by
  obtain ⟨kind, hkind, htag⟩ := h.hook
  have hroot := hroot kind hkind htag
  cases kind with
  | root doc => exact h.top site.node doc hkind
  | _ => cases hroot

section Checkers

variable {site : Site} {lib : Library} {e : Emission}

theorem Header.placed {notice : List Text} (h : site.Visited (checker notice))
    (he : e ∈ ((checker notice).enter site lib).emissions) : e.Placed site.home := by
  obtain ⟨code, -, rfl⟩ := List.mem_map.mp he
  exact .atTop site.node code [] (h.column_eq_zero fun kind _ htag => List.mem_singleton.mp htag)

theorem Names.placed (h : site.Visited checker) (he : e ∈ (checker.enter site lib).emissions) :
    e.Placed site.home := by
  rcases of_mem_findings he with ⟨hnone, rfl⟩ | ⟨code, -, rfl⟩
  · refine .atTop site.node testModuleName.code [] (h.column_eq_zero fun kind hkind htag => ?_)
    cases kind with
    | root doc => rfl
    | functionDef f => simp [Module.function?, hkind, NodeKind.function?] at hnone
    | _ => simp [checker, NodeKind.tag] at htag
  · exact .atNode site.node code []

theorem Formatting.placed (he : e ∈ (checker.enter site lib).emissions) :
    e.Placed site.home := by
  rw [of_mem_findings he]
  exact .atNode site.node notTuple.code []

theorem TestClass.placed (he : e ∈ (checker.enter site lib).emissions) :
    e.Placed site.home := by
  obtain ⟨child, rfl⟩ := of_mem_findings he
  exact .atNode child notEndingWithTests.code []

theorem Python3.placed (he : e ∈ (checker.enter site lib).emissions) : e.Placed site.home := by
  obtain ⟨code, -, rfl⟩ := List.mem_map.mp he
  exact .atNode site.node code []

theorem DocstringRule.placed {settings : Settings}
    (he : e ∈ ((checker settings).enter site lib).emissions) : e.Placed site.home := by
  rcases of_mem_visit he with ⟨code, hcode, line, args, rfl⟩ | ⟨code, -, rfl⟩
  · exact .inDocstring site.node code line args hcode
  · exact .atNode site.node code []

theorem Comments.placed (h : site.Visited checker) (he : e ∈ (checker.enter site lib).emissions) :
    e.Placed site.home := by
  obtain ⟨f, hf, rfl⟩ := List.mem_map.mp he
  rw [findings, h.lines] at hf
  obtain ⟨line, hline, comment, hcomment, hf⟩ := of_mem_findingsFrom hf
  obtain ⟨code, hcode, rfl⟩ := of_mem_ofComment hf
  have hother : ∀ code ∈ [oneWhitespace.code, capitalized.code],
      code ∉ DocstringRule.lineCodes := by decide
  exact .inLine code line.number comment.column [] line.text (hother code hcode)
    (Module.line?_of_mem_scan hline) (column_le_of_mem_scan hline hcomment)

theorem Spacing.placed_of_between? {m : Module} {limit : Nat} {previous current : LogicalLine}
    {f : Finding} (hcurrent : current.OpensOn (Text.lines m.source))
    (h : between? limit previous current = some f) :
    Emission.Placed m (.atPlace f.code f.line f.column f.arg.toList) := by
  obtain ⟨hpos, text, htext, hindent⟩ := hcurrent
  have hline : m.line? current.start = some text := Module.line?_eq_some.mpr ⟨hpos, htext⟩
  rcases of_between? h with ⟨code, hcode, arg, rfl⟩ | ⟨arg, rfl⟩
  · rw [hindent]
    exact .behindIndentation code current.start arg.toList text hcode hline
  · exact .inLine expectedThree.code current.start 0 arg.toList text (by decide) hline
      (Nat.zero_le _)

theorem Spacing.placed {limit : Nat} (h : site.Visited (checker limit))
    (he : e ∈ ((checker limit).enter site lib).emissions) : e.Placed site.home := by
  obtain ⟨f, hf, rfl⟩ := List.mem_map.mp he
  rw [h.lines] at hf
  rcases List.mem_append.mp hf with hf | hf
  · obtain ⟨previous, current, hcurrent, hf⟩ := of_mem_blankLineFindings hf
    exact placed_of_between? (opensOn_of_mem_scan hcurrent) hf
  · obtain ⟨line, hline, code, hcode, part, hpart, rfl⟩ := of_mem_physicalFindings hf
    have hother : ∀ code ∈ endCodes, code ∉ DocstringRule.lineCodes := by decide
    exact .inLine code line.number (Text.byteLength part) [] line.text (hother code hcode)
      (Module.line?_of_mem_scan hline) (Text.byteLength_le_of_prefix hpart)

theorem Builtin.placed {c : Checker} (hc : Builtin c) (h : site.Visited c)
    (he : e ∈ (c.enter site lib).emissions) : e.Placed site.home := by
  cases hc with
  | header notice => exact Header.placed h he
  | spacing limit => exact Spacing.placed h he
  | docstring settings => exact DocstringRule.placed he
  | names => exact Names.placed h he
  | comments => exact Comments.placed h he
  | formatting => exact Formatting.placed he
  | python3 => exact Python3.placed he
  | testClass => exact TestClass.placed he

end Checkers

/-! ## The spans of a check -/

/-- How the span of a violation lies on the line that it is reported on. -/
structure Violation.KeepsToLine (v : Violation) (m : Module) : Prop where
  line_pos : 0 < v.location.line
  line_le : v.location.line ≤ max 1 (Text.lines m.source).length
  start_le : Text.offsetAt m.source v.location.line 1 ≤ v.location.offset
  /-- A message on a line of a docstring has the column of what the docstring documents. -/
  onDocstring : v.code ∈ DocstringRule.lineCodes → v.location.length = 0 ∧
    ∃ node, v.node = some node ∧
      v.location.offset = Text.offsetAt m.source v.location.line 1 + m.columnOf node
  /-- Any other message ends on its line, unless it stands behind an indentation with a tab. -/
  stop_le : v.code ∉ DocstringRule.lineCodes →
    (v.code ∈ Spacing.indentCodes → ∀ text, m.line? v.location.line = some text →
      '\t' ∉ Text.indentation text) →
    v.location.offset + v.location.length ≤
      Text.offsetAt m.source v.location.line 1 + Text.lineLength m.source v.location.line

theorem Emission.Placed.keepsToLine {m : Module} {e : Emission} (h : e.Placed m)
    (hnode : ∀ id ∈ e.node, m.Anchored id) {sink : Sink} (hcontent : sink.file.content = m.source)
    {entry : CatalogEntry} (hcode : entry.message.code = e.message) :
    (sink.violationOf entry e).KeepsToLine m := by
  have hpos := Sink.clampLine_pos m.source e.line
  have hle := Sink.clampLine_le m.source e.line
  have hoffset := Sink.offset_locate sink.file hpos e.column
  constructor <;> simp only [Sink.violationOf, hcode, hcontent] at hoffset ⊢
  case line_pos => exact hpos
  case line_le => exact hle
  case start_le => exact hoffset ▸ Nat.le_add_right ..
  case onDocstring =>
    intro hdocstring
    obtain ⟨node, habout, hcolumn⟩ := h.exists_node hdocstring
    refine ⟨Sink.length_locate h.column_pos, node, habout, ?_⟩
    rw [hoffset, hcolumn, Nat.add_sub_cancel]
    split_ifs with hlines
    · rfl
    · rw [(hnode node habout).columnOf_eq_zero (List.eq_nil_of_length_eq_zero (by omega))]
      rfl
  case stop_le =>
    intro hother htab
    have hcolumn := h.column_le hnode hother fun hindent text htext =>
      htab hindent text (by rwa [Sink.clampLine_of_line? htext])
    have hstop := Sink.stop_locate_le sink.file hpos h.column_pos
    rw [hcontent] at hstop
    exact hstop hcolumn

namespace Module

variable {m : Module} {doc : Option Docstring} {line : Nat} {children : List Outline}

theorem Outlined.columnOf_root (h : m.Outlined (.node (.root doc) ⟨line, 0⟩ children)) :
    m.columnOf root = 0 := by
  rw [columnOf, place, h, Outline.number]
  rfl

theorem Outlined.anchored (h : m.Outlined (.node (.root doc) ⟨line, 0⟩ children)) {id : Nat}
    (hplace : id < m.nodes.size → id ≠ root → (m.place id).Marks m.source) : m.Anchored id := by
  by_cases hid : id < m.nodes.size
  · by_cases hne : id = root
    · exact .inl (hne ▸ h.columnOf_root)
    · exact .inr (hplace hid hne)
  · exact .inl (by rw [columnOf, place, Array.getElem?_eq_none (Nat.le_of_not_lt hid)]; rfl)

end Module

namespace Linter

theorem hook_of_mem_agenda {linter : Linter} {m : Module} {x : Nat × Checker}
    (hx : x ∈ linter.agenda m) : ∃ kind, m.kind? x.1 = some kind ∧ kind.tag ∈ x.2.hooks := by
  obtain ⟨id, -, hx⟩ := List.mem_flatMap.mp hx
  obtain ⟨rfl, -, hhook⟩ := mem_callsAt.mp hx
  exact hhook

/-- Every violation starts on or behind the start of its line, if the node that it is about stands
at a place of the source. It ends on the line as well, but for the messages about the lines of a
docstring and those behind a tab. -/
theorem check_keepsToLines (checkers : List Checker) (hbuiltin : ∀ c ∈ checkers, Builtin c)
    (hnames : (checkers.map Checker.name).Nodup) (policy : Catalog → Policy) (file : SourceFile)
    (name : String) (path : Path) (tree : Tree) (lib : Library) :
    let m := Module.ofTree name path file.content tree
    ∃ linter, build checkers policy = .ok linter ∧
      ∀ v ∈ (linter.check file m lib).violations,
        (∀ id ∈ v.node, id < m.nodes.size → id ≠ Module.root → (m.place id).Marks m.source) →
          v.KeepsToLine m := by
  intro m
  refine ⟨_, build_of_unambiguous (unambiguous_entriesFor hbuiltin hnames) policy, ?_⟩
  have houtlined : m.Outlined tree.outline := rfl
  have hrootless := Tree.rootless_lowerAll tree.children
  have hcontent : file.content = m.source := rfl
  clear_value m
  intro v hv hplaces
  obtain ⟨c, site, lib', msg, e, hc, hdue, rfl, hlines, -, he, hcode, rfl⟩ :=
    exists_violationOf_of_mem_check hbuiltin hnames rfl hv
  have htop : ∀ id doc, site.home.kind? id = some (.root doc) → site.home.columnOf id = 0 := by
    intro id doc hkind
    rw [(houtlined.root_iff hrootless id).mp ⟨doc, hkind⟩, houtlined.columnOf_root]
  have hplaced := (hbuiltin c hc).placed ⟨hlines, htop, hook_of_mem_agenda hdue⟩ he
  exact hplaced.keepsToLine (fun id hid => houtlined.anchored (hplaces id hid)) hcontent hcode

/-- A method whose docstring has a line in the first column. -/
def outdentedFile : SourceFile where
  path := .ofString "m.py"
  content := "class A:\n    def f():\n        \"\"\"\nx\n        \"\"\"\n".toList
  moduleName := "m"
  shownAs := .ofString "m.py"

def outdentedTree : Tree :=
  .node .file .plain ⟨1, 0⟩ []
    [.node .classDefinition .plain ⟨1, 0⟩ []
      [.node .identifier .name ⟨1, 6⟩ "A".toList [],
        .node .block .body ⟨2, 4⟩ []
          [.node .functionDefinition .plain ⟨2, 4⟩ []
            [.node .identifier .name ⟨2, 8⟩ "f".toList [],
              .node .block .body ⟨3, 8⟩ []
                [.node .expressionStatement .plain ⟨3, 8⟩ []
                  [.node .string .plain ⟨3, 8⟩ "\"\"\"\nx\n        \"\"\"".toList []]]]]]]

theorem check_keepsToLines_outdented :
    let checkers := [DocstringRule.checker .default, Spacing.checker 2]
    let m := Module.ofTree "m" (.ofString "m.py") outdentedFile.content outdentedTree
    (∀ c ∈ checkers, Builtin c) ∧ (checkers.map Checker.name).Nodup ∧
      (∀ id < m.nodes.size, id ≠ Module.root → (m.place id).Marks m.source) ∧
      ∃ linter, build checkers (fun _ => ⟨[DocstringRule.inconsistentIndentation.code], []⟩) =
          .ok linter ∧
        ∀ v ∈ (linter.check outdentedFile m (.ofModules [])).violations, v.KeepsToLine m := by
  intro checkers m
  have hbuiltin : ∀ c ∈ checkers, Builtin c := by
    simp only [checkers, List.forall_mem_cons, List.not_mem_nil, false_implies, implies_true,
      and_true]
    exact ⟨.docstring _, .spacing _⟩
  have hnames : (checkers.map Checker.name).Nodup := by decide
  have hplaces : ∀ id < m.nodes.size, id ≠ Module.root → (m.place id).Marks m.source := by
    intro id hid hne
    have hsize : m.nodes.size = 3 := by decide +kernel
    obtain rfl | rfl : id = 1 ∨ id = 2 := by
      rw [hsize] at hid
      rw [Module.root] at hne
      omega
    · exact ⟨[], m.source, rfl, by decide +kernel, rfl⟩
    · exact ⟨m.source.take 13, m.source.drop 13, (List.take_append_drop ..).symm,
        by decide +kernel, by decide +kernel⟩
  obtain ⟨linter, hbuild, hkeeps⟩ :=
    check_keepsToLines checkers hbuiltin hnames (fun _ => _) outdentedFile "m" _ outdentedTree _
  exact ⟨hbuiltin, hnames, hplaces, linter, hbuild,
    fun v hv => hkeeps v hv fun id _ hid hne => hplaces id hid hne⟩

/-- The line in the first column is shorter than the function is indented, so the message about
it points behind the line. -/
theorem check_outdented_overruns :
    let m := Module.ofTree "m" (.ofString "m.py") outdentedFile.content outdentedTree
    ∃ linter, build [DocstringRule.checker .default]
          (fun _ => ⟨[DocstringRule.inconsistentIndentation.code], []⟩) = .ok linter ∧
      ∃ v ∈ (linter.check outdentedFile m (.ofModules [])).violations, v.location.line = 4 ∧
        Text.offsetAt m.source v.location.line 1 + Text.lineLength m.source v.location.line <
          v.location.offset + v.location.length := by
  intro m
  have hunambiguous : Catalog.Unambiguous ⟨entriesFor [DocstringRule.checker .default]⟩ :=
    unambiguous_entriesFor (by simpa using .docstring _) (by simp)
  refine ⟨_, build_of_unambiguous hunambiguous _, ?_⟩
  decide +kernel

end Linter

end CodingStandard
