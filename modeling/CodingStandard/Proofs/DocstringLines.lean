import CodingStandard.Proofs.DocstringFindings
import CodingStandard.Proofs.DottedName
import CodingStandard.Proofs.Literals
import CodingStandard.Proofs.Spans

namespace CodingStandard.DocstringRule

/-!
# The indentation of docstrings

If the quotes of a docstring stand on lines of their own, every line behind the first one is looked
at: the last one, and those that are not blank, start with as many spaces as the place of the
definition asks for, or they are reported.
-/

/-- The quotes of a docstring stand on lines of their own, but for spaces. -/
structure Isolated (value : Text) : Prop where
  opens : ∃ indent rest, value = indent ++ '\n' :: rest ∧ ∀ c ∈ indent, c = ' '
  closes : ∃ rest indent, value = rest ++ '\n' :: indent ∧ ∀ c ∈ indent, c = ' '

variable {value : Text} {expected : Nat}

theorem opens_iff : (∃ indent rest, value = indent ++ '\n' :: rest ∧ ∀ c ∈ indent, c = ' ') ↔
    (value.dropWhile (· == ' ')).head? = some '\n' := by
  simp only [Text.head?_dropWhile_eq_some_iff (p := (· == ' ')) (c := '\n') (by decide), beq_iff_eq]

theorem closes_iff : (∃ rest indent, value = rest ++ '\n' :: indent ∧ ∀ c ∈ indent, c = ' ') ↔
    (value.reverse.dropWhile (· == ' ')).head? = some '\n' := by
  rw [← opens_iff]
  constructor
  · rintro ⟨rest, indent, rfl, hindent⟩
    exact ⟨indent.reverse, rest.reverse, by simp, by simpa using hindent⟩
  · rintro ⟨indent, rest, hvalue, hindent⟩
    refine ⟨rest.reverse, indent.reverse, ?_, by simpa using hindent⟩
    rw [← List.reverse_reverse value, hvalue]
    simp

theorem isIsolated_iff : isIsolated value = true ↔ Isolated value := by
  have hisolated : Isolated value ↔ (value.dropWhile (· == ' ')).head? = some '\n' ∧
      (value.reverse.dropWhile (· == ' ')).head? = some '\n' :=
    ⟨fun h => ⟨opens_iff.mp h.opens, closes_iff.mp h.closes⟩,
      fun h => ⟨opens_iff.mpr h.1, closes_iff.mpr h.2⟩⟩
  have hvalue := (List.takeWhile_append_dropWhile (p := (· == ' ')) (l := value)).symm
  have hspaces : (value.takeWhile (· == ' ')).reverse.dropWhile (· == ' ') = [] := by
    refine List.dropWhile_eq_nil_iff.mpr fun c hc => ?_
    exact List.mem_takeWhile_imp (p := (· == ' ')) (List.mem_reverse.mp hc)
  -- Dropping the spaces in front leaves the end as it is.
  have hend : (value.reverse.dropWhile (· == ' ')).head? =
      ((value.dropWhile (· == ' ')).reverse.dropWhile (· == ' ')).head? := by
    nth_rewrite 1 [hvalue]
    rw [List.reverse_append, List.dropWhile_append, hspaces]
    split
    · next hempty => rw [List.isEmpty_iff.mp hempty]
    · next hne => rw [List.head?_append_of_ne_nil _ (by simpa using hne)]
  -- Nor does dropping those at the end change the start, unless nothing is left.
  have hstart : (value.dropWhile (· == ' ')).reverse.dropWhile (· == ' ') ≠ [] →
      ((value.dropWhile (· == ' ')).reverse.dropWhile (· == ' ')).getLast? =
        (value.dropWhile (· == ' ')).head? := by
    intro hne
    rw [← List.getLast?_append_of_ne_nil _ hne, List.takeWhile_append_dropWhile,
      List.getLast?_reverse]
  rw [hisolated, hend]
  simp only [isIsolated, Text.dropEndWhile, List.head?_reverse, List.getLast?_reverse,
    Bool.and_eq_true, beq_iff_eq]
  refine and_congr_left fun hhead => ?_
  rw [hstart (List.ne_nil_of_mem (List.mem_of_head? hhead))]

/-- The line of a docstring is to be blamed: it is the last one or not blank, and has another
indentation than expected. -/
def Blamed (expected : Nat) (last : Prop) (line : Text) : Prop :=
  (last ∨ ¬ Text.isWhite line) ∧ leadingSpaces line ≠ expected

instance (last : Prop) [Decidable last] (line : Text) : Decidable (Blamed expected last line) :=
  inferInstanceAs (Decidable (_ ∧ _))

theorem misindented_eq_filter {index : Nat} {lines : List Text} {p : Nat → Bool}
    (h : ∀ i line, lines[i]? = some line →
      p (index + i) = decide (Blamed expected (i + 1 = lines.length) line)) :
    misindented expected index lines = (List.range' index lines.length).filter p := by
  fun_induction misindented expected index lines with
  | case1 => rfl
  | case2 index last hlast | case3 index last hlast =>
      have hp : p index = _ := h 0 last rfl
      simp [hp, Blamed, hlast]
  | case4 index line rest hne ih =>
      have hrest : misindented expected (index + 1) rest =
          (List.range' (index + 1) rest.length).filter p := by
        refine ih fun i next hnext => ?_
        rw [Nat.add_right_comm, Nat.add_assoc, h (i + 1) next hnext]
        exact decide_eq_decide.mpr (by rw [List.length_cons, Nat.add_right_cancel_iff])
      have hp : p index = _ := h 0 line rfl
      have hpos : rest.length ≠ 0 := by simpa using hne
      rw [hrest, List.length_cons, List.range'_succ, List.filter_cons, hp]
      by_cases hwhite : Text.isWhite line = true <;>
        by_cases hspaces : leadingSpaces line = expected <;>
          simp [Blamed, hpos, hwhite, hspaces]

/-- Empty lines at the start are counted and have no indentation to check. -/
theorem misindented_dropWhile (expected index : Nat) (value : Text) :
    misindented expected (index + (value.length - (value.dropWhile (· == '\n')).length))
        (List.splitOn '\n' (value.dropWhile (· == '\n'))) =
      misindented expected index (List.splitOn '\n' value) := by
  induction value generalizing index with
  | nil => rfl
  | cons c value ih =>
      by_cases hc : c = '\n'
      · have hle := List.length_dropWhile_le (· == '\n') value
        have hne := List.splitOn_ne_nil '\n' value
        have hshift : index + ((c :: value).length - (value.dropWhile (· == '\n')).length) =
            index + 1 + (value.length - (value.dropWhile (· == '\n')).length) := by
          rw [List.length_cons]
          omega
        rw [List.dropWhile_cons_of_pos (by simpa using hc), hshift, ih,
          List.splitOn_cons_eq_if_modifyHead, if_pos (by simpa using hc), misindented]
        · rfl
        · exact hne
      · rw [List.dropWhile_cons_of_neg (by simpa using hc), Nat.sub_self, Nat.add_zero]

/-- The lines behind the first one that a docstring is blamed for, if the first one is blank. -/
theorem misindentedLines_eq_filter {doc : Docstring} {p : Nat → Bool}
    (hpos : 0 < doc.value.count '\n') (hfirst : Text.isWhite (Text.row doc.value 0) = true)
    (h : ∀ i, 0 < i → i ≤ doc.value.count '\n' → p (doc.place.line + i) =
      decide (Blamed expected (i = doc.value.count '\n') (Text.row doc.value i))) :
    misindentedLines expected doc =
      (List.range' (doc.place.line + 1) (doc.value.count '\n')).filter p := by
  have hall : misindented expected doc.place.line (List.splitOn '\n' doc.value) =
      (List.range' doc.place.line (List.splitOn '\n' doc.value).length).filter
        fun l => l != doc.place.line && p l := by
    refine misindented_eq_filter fun i line hline => ?_
    have hrow : Text.row doc.value i = line := by rw [Text.row, hline, Option.getD_some]
    have hi : i < doc.value.count '\n' + 1 := by
      rw [← Text.length_splitOn]
      exact (List.getElem?_eq_some_iff.mp hline).1
    simp only [Text.length_splitOn, Nat.add_right_cancel_iff]
    -- The line of the quotes is passed over, blank as it is.
    obtain rfl | hi' := Nat.eq_zero_or_pos i
    · rw [hrow] at hfirst
      simp [Blamed, hfirst, hpos.ne]
    · have hne : (doc.place.line + i != doc.place.line) = true := by
        simpa using Nat.pos_iff_ne_zero.mp hi'
      rw [hne, Bool.true_and, h i hi' (Nat.le_of_lt_succ hi), hrow]
  rw [misindentedLines, Text.splitOn_eq, misindented_dropWhile, hall, Text.length_splitOn,
    List.range'_succ, List.filter_cons_of_neg (by simp)]
  refine List.filter_congr fun l hl => ?_
  obtain ⟨i, -, rfl⟩ := List.mem_range'.mp hl
  have hne : (doc.place.line + 1 + 1 * i != doc.place.line) = true := by
    rw [bne_iff_ne]
    omega
  rw [hne, Bool.true_and]

/-! ## Lines of the source -/

theorem leadingSpaces_append_cons {c : Char} (hc : c ≠ ' ') (line rest : Text) :
    leadingSpaces (line ++ c :: rest) = leadingSpaces line := by
  rw [leadingSpaces, leadingSpaces, List.takeWhile_append]
  split
  · next hall => simp [hc, hall]
  · rfl

/-- Behind its first line, a docstring runs through lines of the source. On the last one, the quotes
follow. -/
theorem exists_line {m : Module} {doc : Docstring} (hdoc : doc.StandsIn m.source)
    (hsource : m.source.NoBareReturn) {i : Nat} (hpos : 0 < i) (hi : i ≤ doc.value.count '\n') :
    ∃ line, m.line? (doc.place.line + i) = some line ∧
      leadingSpaces line = leadingSpaces (Text.row doc.value i) ∧
      (i < doc.value.count '\n' → line = Text.row doc.value i) := by
  rcases hi.lt_or_eq with hlt | rfl
  · exact ⟨_, hdoc.line?_of_lt hsource hpos hlt, rfl, fun _ => rfl⟩
  · obtain ⟨quote, rest, hquote, hline⟩ := hdoc.line?_last hsource hpos
    have hspace : quote ≠ ' ' := by rcases hquote with rfl | rfl <;> decide
    exact ⟨_, hline, leadingSpaces_append_cons hspace _ _, fun hlt => absurd hlt (lt_irrefl _)⟩

theorem Isolated.first (h : Isolated value) :
    0 < value.count '\n' ∧ Text.isWhite (Text.row value 0) = true := by
  obtain ⟨indent, rest, rfl, hindent⟩ := h.opens
  have hnewline : '\n' ∉ indent := fun hmem => absurd (hindent _ hmem) (by decide)
  have hrow := Text.row_append_count indent ('\n' :: rest)
  rw [List.count_eq_zero_of_not_mem hnewline, Text.row_newline_zero, List.append_nil,
    Text.row_of_not_mem hnewline] at hrow
  refine ⟨List.count_pos_iff.mpr (by simp), ?_⟩
  rw [hrow]
  exact List.all_eq_true.mpr fun c hc => hindent c hc ▸ (by decide)

/-- The rows that a docstring is blamed for, as lines of the source. -/
theorem misindentedLines_eq_lines {m : Module} {doc : Docstring} (hdoc : doc.StandsIn m.source)
    (hsource : m.source.NoBareReturn) (h : Isolated doc.value) (expected : Nat) :
    misindentedLines expected doc =
      (List.range' (doc.place.line + 1) (doc.raw.count '\n')).filter fun l =>
        Blamed expected (l = doc.place.line + doc.raw.count '\n') ((m.line? l).getD []) := by
  have hcount := hdoc.count_raw hsource
  obtain ⟨hpos, hfirst⟩ := h.first
  rw [misindentedLines_eq_filter hpos hfirst, ← hcount]
  intro i hi hle
  obtain ⟨line, hline, hspaces, hrow⟩ := exists_line hdoc hsource hi hle
  refine decide_eq_decide.mpr ?_
  rw [hline, Option.getD_some, Blamed, hspaces, Nat.add_left_cancel_iff, hcount]
  refine and_congr_left fun _ => ?_
  rcases hle.lt_or_eq with hlt | rfl
  · rw [hrow hlt]
  · exact iff_of_true (.inl rfl) (.inl rfl)

theorem expectedIndent_ofTree (name : String) (path : Path) (source : Text) (tree : Tree)
    (node : Nat) :
    let m := Module.ofTree name path source tree
    expectedIndent m node = if node = Module.root then 0 else m.columnOf node + 4 := by
  intro m
  have houtlined : m.Outlined tree.outline := rfl
  have hroot := houtlined.root_iff (Tree.rootless_lowerAll tree.children) node
  rw [expectedIndent]
  split
  · next doc hkind => rw [if_pos (hroot.mp ⟨doc, hkind⟩)]
  · next hother => rw [if_neg fun h => (hroot.mpr h).elim hother]

/-- Where carriage returns stand only before newlines, a docstring that is looked at, and whose
quotes stand on lines of their own, is blamed once for each line of the source behind its first one
that is its last or not blank, and that starts with another number of spaces than expected. The
quotes on the last line end the spaces in front of them. -/
theorem enter_alignsDocstrings (settings : Settings) (name : String) (path : Path) (source : Text)
    (tree : Tree) (site : Site) (lib : Library) (doc : Docstring)
    (hreturns : source.NoBareReturn) (htree : tree.StandsIn source)
    (hhome : site.home = .ofTree name path source tree)
    (h : Examined settings site.home site.node doc) (hisolated : Isolated doc.value) :
    let m := site.home
    let expected := if site.node = Module.root then 0 else m.columnOf site.node + 4
    let last := doc.place.line + doc.raw.count '\n'
    let spanned := List.range' (doc.place.line + 1) (doc.raw.count '\n')
    let text l := (m.line? l).getD []
    let wrong := spanned.filter fun l =>
      (l = last ∨ ¬ Text.isWhite (text l)) ∧ leadingSpaces (text l) ≠ expected
    (∀ l ∈ spanned, m.line? l = some (text l) ∧ Sink.clampLine m.source l = l) ∧
      Emission.only inconsistentIndentation.code ((checker settings).enter site lib).emissions =
        wrong.map fun l => .about m site.node inconsistentIndentation.code l [] := by
  intro m expected last spanned text wrong
  have hsource : m.source = source := congrArg Module.source hhome
  have hexpected : expectedIndent m site.node = expected := by
    have hnode := expectedIndent_ofTree name path source tree site.node
    rwa [← hhome] at hnode
  have hdoc : doc.StandsIn m.source :=
    hsource ▸ Module.standsIn_of_doc? htree (hhome ▸ h.found)
  have hclean : m.source.NoBareReturn := hsource ▸ hreturns
  refine ⟨fun l hl => ?_, ?_⟩
  · obtain ⟨i, hi, rfl⟩ := List.mem_range'.mp hl
    obtain ⟨line, hline, -⟩ :=
      exists_line hdoc hclean (Nat.succ_pos i) (hdoc.count_raw hclean ▸ hi)
    have hindex : doc.place.line + 1 + 1 * i = doc.place.line + i.succ := by omega
    rw [hindex]
    exact ⟨by rw [hline]; simp [text, hline], Sink.clampLine_of_line? hline⟩
  · have hlayout : ofLayout m site.node doc =
        wrong.map fun l => .about m site.node inconsistentIndentation.code l [] := by
      rw [ofLayout, if_pos (isIsolated_iff.mpr hisolated), hexpected,
        misindentedLines_eq_lines hdoc hclean hisolated]
      rfl
    have honly : Emission.only _ ((checker settings).enter site lib).emissions = _ :=
      h.only_layout (by decide : inconsistentIndentation.code ∈ layoutCodes)
    rw [honly, hlayout]
    refine Emission.only_eq_self fun e he => ?_
    obtain ⟨l, -, rfl⟩ := List.mem_map.mp he
    rfl

/-- A class whose docstring has an empty line and one that is indented too little. All lines end in
a carriage return and a newline. -/
def misalignedTree : Tree :=
  .node .file .plain ⟨1, 0⟩ []
    [.node .classDefinition .plain ⟨1, 0⟩ []
      [.node .identifier .name ⟨1, 6⟩ "A".toList [],
        .node .block .body ⟨2, 4⟩ []
          [.node .expressionStatement .plain ⟨2, 4⟩ []
            [.node .string .plain ⟨2, 4⟩
              "\"\"\"\r\n\r\n    A.\r\n  x\r\n    \"\"\"".toList []]]]]

def misaligned : Site :=
  siteOf "class A:\r\n    \"\"\"\r\n\r\n    A.\r\n  x\r\n    \"\"\"\r\n" misalignedTree 1

theorem enter_alignsDocstrings_misaligned :
    misaligned.home.source.NoBareReturn ∧ misalignedTree.StandsIn misaligned.home.source ∧
      ∃ doc, Examined .default misaligned.home 1 doc ∧ Isolated doc.value ∧
        Emission.only inconsistentIndentation.code
            ((checker .default).enter misaligned default).emissions =
          [.about misaligned.home 1 inconsistentIndentation.code 5 []] := by
  have hreturns : misaligned.home.source.NoBareReturn := by decide +kernel
  have htree : misalignedTree.StandsIn misaligned.home.source := by
    have hliteral : Literal.StandsIn misaligned.home.source
        "\"\"\"\r\n\r\n    A.\r\n  x\r\n    \"\"\"".toList ⟨2, 4⟩ :=
      ⟨⟨[], "\r\n\r\n    A.\r\n  x\r\n    ".toList, ['"', '"', '"'], by simp [Literal.delimiters],
        rfl, by simp⟩, "class A:\r\n    ".toList, "\r\n".toList, rfl, by decide +kernel⟩
    simp only [misalignedTree, Tree.standsIn_node_iff, List.forall_mem_cons, List.not_mem_nil,
      false_implies, implies_true, and_true, reduceCtorEq, hliteral]
  have hexamined : Examined .default misaligned.home 1 _ :=
    ⟨rfl, by decide +kernel, by decide +kernel⟩
  refine ⟨hreturns, htree, _, hexamined, isIsolated_iff.mp (by decide +kernel), ?_⟩
  have hreported := (enter_alignsDocstrings .default "m" (.ofString "m.py") _ misalignedTree
    misaligned default _ hreturns htree rfl hexamined (isIsolated_iff.mp (by decide +kernel))).2
  exact hreported.trans (by decide +kernel)

/-- A class with a blank docstring, and a method with a reserved name. The quotes at the end of both
docstrings are indented too little. -/
def spared (node : Nat) : Site :=
  let literal (place : Place) (text : String) : Tree :=
    .node .expressionStatement .plain place [] [.node .string .plain place text.toList []]
  siteOf
    ("class A:\n    \"\"\"\n\"\"\"\n" ++
      "    def __len__(self):\n        \"\"\"\n        Length.\n  \"\"\"\n")
    (.node .file .plain ⟨1, 0⟩ []
      [.node .classDefinition .plain ⟨1, 0⟩ []
        [.node .identifier .name ⟨1, 6⟩ "A".toList [],
          .node .block .body ⟨2, 4⟩ []
            [literal ⟨2, 4⟩ "\"\"\"\n\"\"\"",
              .node .functionDefinition .plain ⟨4, 4⟩ []
                [.node .identifier .name ⟨4, 8⟩ "__len__".toList [],
                  .node .parameters .parameters ⟨4, 15⟩ "(self)".toList
                    [.node .identifier .plain ⟨4, 16⟩ "self".toList []],
                  .node .block .body ⟨5, 8⟩ []
                    [literal ⟨5, 8⟩ "\"\"\"\n        Length.\n  \"\"\""]]]]])
    node

/-- A docstring with quotes on lines of their own is not blamed for its last line, though the line
does not start with as many spaces as the column of the definition and four more. -/
def LeavesLastLine (site : Site) : Prop :=
  site.home.source.NoBareReturn ∧ ∃ doc line, site.home.doc? site.node = some doc ∧
    Isolated doc.value ∧ site.home.line? (doc.place.line + doc.raw.count '\n') = some line ∧
    leadingSpaces line ≠ site.home.columnOf site.node + 4 ∧
    Emission.only inconsistentIndentation.code
      ((checker .default).enter site default).emissions = []

/-- Neither a blank docstring nor that of an ignored node is blamed. -/
theorem enter_sparesUnexamined : LeavesLastLine (spared 1) ∧ LeavesLastLine (spared 2) := by
  refine ⟨⟨by decide +kernel, _, "\"\"\"".toList, rfl, isIsolated_iff.mp (by decide +kernel), ?_⟩,
    ⟨by decide +kernel, _, "  \"\"\"".toList, rfl, isIsolated_iff.mp (by decide +kernel), ?_⟩⟩
  · exact ⟨by decide +kernel, by decide +kernel, by decide +kernel⟩
  · exact ⟨by decide +kernel, by decide +kernel, by decide +kernel⟩

end CodingStandard.DocstringRule
