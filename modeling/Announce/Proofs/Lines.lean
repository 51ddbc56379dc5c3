import Announce.Command.Report
import Mathlib.Data.List.Basic

/-!
# Lines of text and tables

Bytes on standard output can be taken apart again: into the lines that were written,
and a table into its rows if the lengths of its cells are known.
-/

namespace Announce

theorem Bytes.ofText_injective : Function.Injective Bytes.ofText := by
  intro left right same
  have encoded : left.toList.utf8Encode = right.toList.utf8Encode :=
    congrArg List.toByteArray same
  rwa [String.utf8Encode_toList, String.utf8Encode_toList, String.toByteArray_inj] at encoded

theorem texts_eq_of_map_toList {texts texts' : List String}
    (same : texts.map String.toList = texts'.map String.toList) : texts = texts' :=
  List.map_injective_iff.mpr (fun _ _ => String.toList_inj.mp) same

/-! ## Lines -/

/-- A text without a newline in it. -/
def IsLine (text : String) : Prop :=
  '\n' ∉ text.toList

instance : DecidablePred IsLine := fun _ => inferInstanceAs (Decidable (¬_))

theorem isLine_append {front back : String} :
    IsLine (front ++ back) ↔ IsLine front ∧ IsLine back := by
  rw [IsLine, String.toList_append, List.mem_append, not_or]
  rfl

theorem isLine_intercalate {separator : String} {texts : List String} (line : IsLine separator)
    (all : ∀ text ∈ texts, IsLine text) : IsLine (separator.intercalate texts) := by
  cases texts with
  | nil => simp [IsLine]
  | cons text texts =>
      induction texts generalizing text with
      | nil =>
          rw [String.intercalate_singleton]
          exact all text (.head _)
      | cons next texts ih =>
          rw [String.intercalate_cons_cons, isLine_append, isLine_append]
          exact ⟨⟨all text (.head _), line⟩, ih next fun other member => all other (.tail _ member)⟩

theorem isLine_replicate {character : Char} (other : character ≠ '\n') (count : Nat) :
    IsLine (String.ofList (List.replicate count character)) := by
  rw [IsLine, String.toList_ofList, List.mem_replicate]
  exact fun newline => other newline.2.symm

/-- The text of lines, each with its newline. -/
def joined (lines : List String) : List Char :=
  lines.flatMap fun line => line.toList ++ ['\n']

theorem joined_append (front back : List String) :
    joined (front ++ back) = joined front ++ joined back :=
  List.flatMap_append

theorem joined_intercalate {lines : List String} (nonempty : lines ≠ []) :
    joined ["\n".intercalate lines] = joined lines := by
  induction lines with
  | nil => exact absurd rfl nonempty
  | cons line lines ih =>
      cases lines with
      | nil => rw [String.intercalate_singleton]
      | cons next lines =>
          have later := ih (List.cons_ne_nil _ _)
          simp only [joined, List.flatMap_cons, List.flatMap_nil, List.append_nil] at later ⊢
          have newline : "\n".toList = ['\n'] := rfl
          rw [String.intercalate_cons_cons, String.toList_append, String.toList_append, newline,
            List.append_assoc, later]

theorem splitOn_joined {lines : List String} (all : ∀ line ∈ lines, IsLine line) :
    (joined lines).splitOn '\n' = lines.map String.toList ++ [[]] := by
  induction lines with
  | nil => rfl
  | cons line lines ih =>
      have later := ih fun other member => all other (.tail _ member)
      rw [joined, List.flatMap_cons, List.append_assoc, List.singleton_append,
        List.splitOn_append_cons_self_of_not_mem (all line (.head _)), ← joined, later]
      rfl

namespace Output

theorem toBytes_ofLines (lines : List String) :
    (ofLines lines).toBytes = Bytes.ofText (String.ofList (joined lines)) := by
  have text : String.join (lines.map (· ++ "\n")) = String.ofList (joined lines) := by
    rw [← String.toList_inj, String.toList_join, String.toList_ofList, List.flatMap_map, joined]
    simp only [String.toList_append]
    rfl
  rw [← text]
  rfl

theorem joined_eq_of_ofLines {lines lines' : List String}
    (same : (ofLines lines).toBytes = (ofLines lines').toBytes) : joined lines = joined lines' := by
  rw [toBytes_ofLines, toBytes_ofLines] at same
  exact String.ofList_inj.mp (Bytes.ofText_injective same)

/-- Lines can be read off the bytes that are written for them. -/
theorem lines_eq_of_ofLines {lines lines' : List String} (all : ∀ line ∈ lines, IsLine line)
    (all' : ∀ line ∈ lines', IsLine line)
    (same : (ofLines lines).toBytes = (ofLines lines').toBytes) : lines = lines' := by
  have split := congrArg (List.splitOn '\n') (joined_eq_of_ofLines same)
  rw [splitOn_joined all, splitOn_joined all'] at split
  exact texts_eq_of_map_toList (List.append_cancel_right split)

/-- A text alone can be read off also if it is not a line. -/
theorem text_eq_of_ofLines {text text' : String}
    (same : (ofLines [text]).toBytes = (ofLines [text']).toBytes) : text = text' := by
  have characters := joined_eq_of_ofLines same
  simp only [joined, List.flatMap_cons, List.flatMap_nil, List.append_nil] at characters
  exact String.toList_inj.mp (List.append_cancel_right characters)

end Output

/-! ## Tables -/

theorem pieces_eq_of_intercalate {separator : List Char} {pieces pieces' : List (List Char)}
    (lengths : pieces.map List.length = pieces'.map List.length)
    (same : separator.intercalate pieces = separator.intercalate pieces') : pieces = pieces' := by
  induction pieces generalizing pieces' with
  | nil => exact (List.map_eq_nil_iff.mp lengths.symm).symm
  | cons piece pieces ih =>
      rcases List.map_eq_cons_iff.mp lengths.symm with ⟨piece', pieces', rfl, length, laterLengths⟩
      cases pieces with
      | nil =>
          rw [List.map_eq_nil_iff.mp laterLengths] at same ⊢
          rw [List.intercalate_singleton, List.intercalate_singleton] at same
          rw [same]
      | cons next pieces =>
          rcases List.map_eq_cons_iff.mp laterLengths with ⟨next', rest', rfl, -, -⟩
          rw [List.intercalate_cons_cons, List.intercalate_cons_cons, List.append_assoc,
            List.append_assoc] at same
          rcases List.append_inj same length.symm with ⟨rfl, later⟩
          rw [ih laterLengths.symm (List.append_cancel_left later)]

/-- Texts of known lengths can be read off their text with a separator. -/
theorem texts_eq_of_intercalate {separator : String} {texts texts' : List String}
    (lengths : texts.map String.length = texts'.map String.length)
    (same : separator.intercalate texts = separator.intercalate texts') : texts = texts' := by
  have asList : ∀ texts : List String,
      (texts.map String.toList).map List.length = texts.map String.length := by
    intro texts
    simp only [List.map_map, Function.comp_def, String.length_toList]
  apply texts_eq_of_map_toList
  apply pieces_eq_of_intercalate
  · rw [asList, asList, lengths]
  · rw [← String.toList_intercalate, ← String.toList_intercalate, same]

namespace Text.Grid

/-- A cell with the blanks around it. -/
def cellText (width : Nat) (cell : String) : String :=
  " " ++ cell ++ String.ofList (List.replicate (width - cell.length) ' ') ++ " "

theorem length_cellText (width : Nat) (cell : String) :
    (cellText width cell).length = cell.length + (width - cell.length) + 2 := by
  have blank : " ".length = 1 := rfl
  simp only [cellText, String.length_append, String.length_ofList, List.length_replicate, blank]
  omega

theorem cellText_inj {width : Nat} {cell cell' : String} (length : cell.length = cell'.length)
    (same : cellText width cell = cellText width cell') : cell = cell' := by
  simp only [cellText, length, ← String.toList_inj, String.toList_append] at same
  have front := List.append_cancel_right (List.append_cancel_right same)
  exact String.toList_inj.mp (List.append_cancel_left front)

theorem drawRow_eq (widths : List Nat) (row : List String) :
    drawRow widths row = "│" ++ "┆".intercalate (List.zipWith cellText widths row) ++ "│" := rfl

theorem length_zipWith_cellText (widths : List Nat) (row : List String) :
    (List.zipWith cellText widths row).map String.length =
      List.zipWith (fun width length => length + (width - length) + 2) widths
        (row.map String.length) := by
  rw [List.map_zipWith, List.zipWith_map_right]
  simp only [length_cellText]

theorem row_eq_of_zipWith {widths : List Nat} {row row' : List String}
    (fits : row.length ≤ widths.length) (lengths : row.map String.length = row'.map String.length)
    (same : List.zipWith cellText widths row = List.zipWith cellText widths row') : row = row' := by
  induction row generalizing widths row' with
  | nil => exact (List.map_eq_nil_iff.mp lengths.symm).symm
  | cons cell row ih =>
      rcases List.map_eq_cons_iff.mp lengths.symm with ⟨cell', row', rfl, length, laterLengths⟩
      cases widths with
      | nil => simp at fits
      | cons width widths =>
          rcases List.cons.inj same with ⟨first, later⟩
          rw [cellText_inj length.symm first,
            ih (Nat.le_of_succ_le_succ fits) laterLengths.symm later]

/-- A row that has a column for each cell can be read off its drawing if the lengths of
the cells are known. -/
theorem drawRow_inj {widths : List Nat} {row row' : List String} (fits : row.length ≤ widths.length)
    (lengths : row.map String.length = row'.map String.length)
    (same : drawRow widths row = drawRow widths row') : row = row' := by
  have cells : "┆".intercalate (List.zipWith cellText widths row) =
      "┆".intercalate (List.zipWith cellText widths row') := by
    simp only [drawRow_eq, ← String.toList_inj, String.toList_append] at same
    exact String.toList_inj.mp (List.append_cancel_left (List.append_cancel_right same))
  refine row_eq_of_zipWith fits lengths (texts_eq_of_intercalate ?_ cells)
  rw [length_zipWith_cellText, length_zipWith_cellText, lengths]

theorem length_lines (grid : Grid) : grid.lines.length = 2 * grid.rows.length - 1 + 4 := by
  simp [lines, List.length_intersperse]

/-- The lines of a table are written like other lines. -/
theorem toBytes_ofLines_render (grid : Grid) (texts : List String) :
    (Output.ofLines (grid.render :: texts)).toBytes =
      (Output.ofLines (grid.lines ++ texts)).toBytes := by
  have nonempty : grid.lines ≠ [] := by simp [lines]
  have table : joined [grid.render] = joined grid.lines := by
    rw [render]
    exact joined_intercalate nonempty
  rw [Output.toBytes_ofLines, Output.toBytes_ofLines, ← List.singleton_append, joined_append,
    joined_append, table]

/-- Every row has as many cells as the header. -/
def IsRegular (grid : Grid) : Prop :=
  ∀ row ∈ grid.rows, row.length = grid.header.length

theorem length_foldl_widths (rows : List (List String)) (widths : List Nat)
    (regular : ∀ row ∈ rows, row.length = widths.length) :
    (rows.foldl (fun widths row => List.zipWith max widths (row.map String.length)) widths).length =
      widths.length := by
  induction rows generalizing widths with
  | nil => rfl
  | cons row rows ih =>
      have kept : (List.zipWith max widths (row.map String.length)).length = widths.length := by
        rw [List.length_zipWith, List.length_map, regular row (.head _), Nat.min_self]
      rw [List.foldl_cons, ih, kept]
      intro other member
      rw [kept]
      exact regular other (.tail _ member)

theorem length_widths {grid : Grid} (regular : grid.IsRegular) :
    grid.widths.length = grid.header.length := by
  rw [widths, length_foldl_widths, List.length_map]
  intro row member
  rw [List.length_map]
  exact regular row member

/-- The lengths of the cells. -/
def shape (grid : Grid) : List (List Nat) :=
  grid.rows.map (·.map String.length)

theorem widths_eq (grid : Grid) :
    grid.widths = grid.shape.foldl (List.zipWith max) (grid.header.map String.length) := by
  rw [widths, shape, List.foldl_map]

theorem rows_eq_of_map_drawRow {widths : List Nat} {rows rows' : List (List String)}
    (fit : ∀ row ∈ rows, row.length ≤ widths.length)
    (lengths : rows.map (·.map String.length) = rows'.map (·.map String.length))
    (same : rows.map (drawRow widths) = rows'.map (drawRow widths)) : rows = rows' := by
  induction rows generalizing rows' with
  | nil => exact (List.map_eq_nil_iff.mp lengths.symm).symm
  | cons row rows ih =>
      rcases List.map_eq_cons_iff.mp lengths.symm with ⟨row', rows', rfl, length, laterLengths⟩
      rcases List.cons.inj same with ⟨first, later⟩
      rw [drawRow_inj (fit row (.head _)) length.symm first,
        ih (fun other member => fit other (.tail _ member)) laterLengths.symm later]

theorem intersperse_injective {α : Type} (separator : α) :
    Function.Injective (List.intersperse separator) := by
  intro items items' same
  apply List.ext_getElem?
  intro index
  rw [← List.getElem?_intersperse_two_mul, same, List.getElem?_intersperse_two_mul]

/-- The rows of a table can be read off its lines if the header and the lengths of the
cells are known. -/
theorem rows_eq_of_lines {grid grid' : Grid} (regular : grid.IsRegular)
    (header : grid.header = grid'.header) (shape : grid.shape = grid'.shape)
    (same : grid.lines = grid'.lines) : grid.rows = grid'.rows := by
  have widths : grid.widths = grid'.widths := by rw [widths_eq, widths_eq, header, shape]
  simp only [lines, header, widths] at same
  have drawn := intersperse_injective _ (List.append_cancel_left (List.append_cancel_right same))
  refine rows_eq_of_map_drawRow ?_ shape drawn
  intro row member
  rw [← widths, length_widths regular]
  exact Nat.le_of_eq (regular row member)

/-! ## Lines of tables -/

theorem isLine_draw {rule : Rule} (fill : rule.fill ≠ '\n') (left : IsLine rule.left)
    (crossing : IsLine rule.crossing) (right : IsLine rule.right) (widths : List Nat) :
    IsLine (rule.draw widths) := by
  rw [Rule.draw, isLine_append, isLine_append]
  refine ⟨⟨left, isLine_intercalate crossing ?_⟩, right⟩
  intro text member
  rcases List.mem_map.mp member with ⟨width, -, rfl⟩
  exact isLine_replicate fill _

theorem isLine_cellText {cell : String} (line : IsLine cell) (width : Nat) :
    IsLine (cellText width cell) := by
  have blank : IsLine " " := by decide
  rw [cellText, isLine_append, isLine_append, isLine_append]
  exact ⟨⟨⟨blank, line⟩, isLine_replicate (by decide) _⟩, blank⟩

theorem isLine_drawRow {row : List String} (all : ∀ cell ∈ row, IsLine cell) (widths : List Nat) :
    IsLine (drawRow widths row) := by
  have border : IsLine "│" := by decide
  rw [drawRow_eq, isLine_append, isLine_append]
  refine ⟨⟨border, isLine_intercalate (by decide) ?_⟩, border⟩
  intro text member
  rw [← List.map_uncurry_zip_eq_zipWith] at member
  rcases List.mem_map.mp member with ⟨⟨width, cell⟩, paired, rfl⟩
  exact isLine_cellText (all cell (List.of_mem_zip paired).2) width

theorem isLine_of_mem_lines {grid : Grid} (header : ∀ cell ∈ grid.header, IsLine cell)
    (rows : ∀ row ∈ grid.rows, ∀ cell ∈ row, IsLine cell) :
    ∀ line ∈ grid.lines, IsLine line := by
  intro line member
  simp only [lines, List.mem_append, List.mem_cons, List.not_mem_nil, or_false] at member
  rcases member with ((rfl | rfl | rfl) | between) | rfl
  · exact isLine_draw (by decide) (by decide) (by decide) (by decide) _
  · exact isLine_drawRow header _
  · exact isLine_draw (by decide) (by decide) (by decide) (by decide) _
  · rcases List.getElem_of_mem between with ⟨index, bound, rfl⟩
    rw [List.getElem_intersperse]
    split
    · rw [List.getElem_map]
      exact isLine_drawRow (rows _ (List.getElem_mem _)) _
    · exact isLine_draw (by decide) (by decide) (by decide) (by decide) _
  · exact isLine_draw (by decide) (by decide) (by decide) (by decide) _

end Text.Grid

end Announce
